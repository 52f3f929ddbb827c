import SearchWire.Tree.Basic

/-!
# Requests

What is asked of an index: searches and parallel scans.
-/

namespace SearchWire

/-- The field whose equal values are merged. -/
structure Collapse where
  fieldName : Option String := none

namespace Collapse

/-- The message with these fields. -/
def toMessage (x : Collapse) : Message .collapse :=
  .record <|
    .cons (.leaf x.fieldName) <|
    .nil

/-- The fields of a message. -/
def ofMessage : Message .collapse → Collapse
  | .record (.cons (.leaf fieldName) .nil) =>
    ⟨fieldName⟩

@[simp] theorem ofMessage_toMessage (x : Collapse) : ofMessage x.toMessage = x :=
  rfl

/-- Merge the rows with equal values of a field. -/
def of (fieldName : String) : Collapse :=
  { fieldName }

end Collapse

/-- What a search asks of an index. -/
structure SearchQuery where
  offset : Option Int32 := none
  limit : Option Int32 := none
  query : Option Query := none
  collapse : Option (Message .collapse) := none
  sort : Option (Message .sort) := none
  getTotalCount : Bool := false
  token : Option Bytes := none
  aggregations : List Aggregation := []
  groupBys : List GroupBy := []
  highlight : Option Bytes := none

namespace SearchQuery

/-- The message with these fields. -/
def toMessage (x : SearchQuery) : Message .searchQuery :=
  .record <|
    .cons (.leaf x.offset) <|
    .cons (.leaf x.limit) <|
    .cons (.ofOption x.query) <|
    .cons (.ofOption x.collapse) <|
    .cons (.ofOption x.sort) <|
    .cons (.leaf x.getTotalCount) <|
    .cons (.leaf x.token) <|
    .cons (.ofChildren x.aggregations) <|
    .cons (.ofChildren x.groupBys) <|
    .cons (.leaf x.highlight) <|
    .nil

/-- The fields of a message. -/
def ofMessage : Message .searchQuery → SearchQuery
  | .record (.cons (.leaf offset) (.cons (.leaf limit) (.cons query (.cons collapse (.cons sort
    (.cons (.leaf getTotalCount) (.cons (.leaf token) (.cons aggregations (.cons groupBys (.cons
    (.leaf highlight) .nil)))))))))) =>
    ⟨offset, limit, query.toOption, collapse.toOption, sort.toOption, getTotalCount, token,
      aggregations.toChildren, groupBys.toChildren, highlight⟩

@[simp] theorem ofMessage_toMessage (x : SearchQuery) : ofMessage x.toMessage = x := by
  simp [toMessage, ofMessage]

end SearchQuery

/-- What one worker of a parallel scan asks. -/
structure ScanQuery where
  query : Option Query := none
  limit : Option Int32 := none
  aliveTime : Option Int32 := none
  token : Option Bytes := none
  currentParallelId : Option Int32 := none
  maxParallel : Option Int32 := none

namespace ScanQuery

/-- The message with these fields. -/
def toMessage (x : ScanQuery) : Message .scanQuery :=
  .record <|
    .cons (.ofOption x.query) <|
    .cons (.leaf x.limit) <|
    .cons (.leaf x.aliveTime) <|
    .cons (.leaf x.token) <|
    .cons (.leaf x.currentParallelId) <|
    .cons (.leaf x.maxParallel) <|
    .nil

/-- The fields of a message. -/
def ofMessage : Message .scanQuery → ScanQuery
  | .record (.cons query (.cons (.leaf limit) (.cons (.leaf aliveTime) (.cons (.leaf token) (.cons
    (.leaf currentParallelId) (.cons (.leaf maxParallel) .nil)))))) =>
    ⟨query.toOption, limit, aliveTime, token, currentParallelId, maxParallel⟩

@[simp] theorem ofMessage_toMessage (x : ScanQuery) : ofMessage x.toMessage = x := by
  simp [toMessage, ofMessage]

end ScanQuery

/-- Which columns are returned. -/
structure ColumnsToGet where
  returnType : ColumnReturnType
  columnNames : List String := []

namespace ColumnsToGet

/-- The message with these fields. -/
def toMessage (x : ColumnsToGet) : Message .columnsToGet :=
  .record <|
    .cons (.leaf x.returnType) <|
    .cons (.leaf x.columnNames) <|
    .nil

/-- The fields of a message. -/
def ofMessage : Message .columnsToGet → ColumnsToGet
  | .record (.cons (.leaf returnType) (.cons (.leaf columnNames) .nil)) =>
    ⟨returnType, columnNames⟩

@[simp] theorem ofMessage_toMessage (x : ColumnsToGet) : ofMessage x.toMessage = x :=
  rfl

/-- Every column of the table. -/
def all : ColumnsToGet := { returnType := .all }

/-- The primary key alone. -/
def none : ColumnsToGet := { returnType := .none }

/-- Every column that the index holds. -/
def allFromIndex : ColumnsToGet := { returnType := .allFromIndex }

/-- The named columns. -/
def specified (columnNames : List String) : ColumnsToGet :=
  { returnType := .specified, columnNames }

instance : Inhabited ColumnsToGet := ⟨all⟩

end ColumnsToGet

/-- A search of one index. -/
structure SearchRequest where
  tableName : Option String := none
  indexName : Option String := none
  columnsToGet : Option (Message .columnsToGet) := none
  searchQuery : Option (Message .searchQuery) := none
  timeoutMs : Option Int32 := none

namespace SearchRequest

/-- The message with these fields. -/
def toMessage (x : SearchRequest) : Message .searchRequest :=
  .record <|
    .cons (.leaf x.tableName) <|
    .cons (.leaf x.indexName) <|
    .cons (.ofOption x.columnsToGet) <|
    .cons (.ofOption x.searchQuery) <|
    .cons (.leaf x.timeoutMs) <|
    .nil

/-- The fields of a message. -/
def ofMessage : Message .searchRequest → SearchRequest
  | .record (.cons (.leaf tableName) (.cons (.leaf indexName) (.cons columnsToGet (.cons
    searchQuery (.cons (.leaf timeoutMs) .nil))))) =>
    ⟨tableName, indexName, columnsToGet.toOption, searchQuery.toOption, timeoutMs⟩

@[simp] theorem ofMessage_toMessage (x : SearchRequest) : ofMessage x.toMessage = x := by
  simp [toMessage, ofMessage]

end SearchRequest

/-- A parallel scan of one index. -/
structure ParallelScanRequest where
  tableName : Option String := none
  indexName : Option String := none
  columnsToGet : Option (Message .columnsToGet) := none
  sessionId : Option Bytes := none
  scanQuery : Option (Message .scanQuery) := none
  timeoutMs : Option Int32 := none

namespace ParallelScanRequest

/-- The message with these fields. -/
def toMessage (x : ParallelScanRequest) : Message .parallelScanRequest :=
  .record <|
    .cons (.leaf x.tableName) <|
    .cons (.leaf x.indexName) <|
    .cons (.ofOption x.columnsToGet) <|
    .cons (.leaf x.sessionId) <|
    .cons (.ofOption x.scanQuery) <|
    .cons (.leaf x.timeoutMs) <|
    .nil

/-- The fields of a message. -/
def ofMessage : Message .parallelScanRequest → ParallelScanRequest
  | .record (.cons (.leaf tableName) (.cons (.leaf indexName) (.cons columnsToGet (.cons (.leaf
    sessionId) (.cons scanQuery (.cons (.leaf timeoutMs) .nil)))))) =>
    ⟨tableName, indexName, columnsToGet.toOption, sessionId, scanQuery.toOption, timeoutMs⟩

@[simp] theorem ofMessage_toMessage (x : ParallelScanRequest) : ofMessage x.toMessage = x := by
  simp [toMessage, ofMessage]

end ParallelScanRequest

end SearchWire
