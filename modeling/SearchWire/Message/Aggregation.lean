import SearchWire.Message.Sort

/-!
# Aggregations

An aggregation computes one result from many rows, under a name of its own.
-/

namespace SearchWire

/-- The mean of a field. -/
structure AvgAggregation where
  name : Option String := none
  fieldName : Option String := none
  missing : Option ColumnValue := none

namespace AvgAggregation

/-- The message with these fields. -/
def toMessage (x : AvgAggregation) : Message .avgAggregation :=
  .record <|
    .cons (.leaf x.name) <|
    .cons (.leaf x.fieldName) <|
    .cons (.leaf x.missing) <|
    .nil

/-- The fields of a message. -/
def ofMessage : Message .avgAggregation → AvgAggregation
  | .record (.cons (.leaf name) (.cons (.leaf fieldName) (.cons (.leaf missing) .nil))) =>
    ⟨name, fieldName, missing⟩

@[simp] theorem ofMessage_toMessage (x : AvgAggregation) : ofMessage x.toMessage = x :=
  rfl

/-- The aggregation of a field under a name. -/
def of (name fieldName : String) : AvgAggregation :=
  { name, fieldName }

instance : Coe AvgAggregation Aggregation := ⟨fun x => .node AggregationKind.avg x.toMessage⟩

end AvgAggregation

/-- The greatest value of a field. -/
structure MaxAggregation where
  name : Option String := none
  fieldName : Option String := none
  missing : Option ColumnValue := none

namespace MaxAggregation

/-- The message with these fields. -/
def toMessage (x : MaxAggregation) : Message .maxAggregation :=
  .record <|
    .cons (.leaf x.name) <|
    .cons (.leaf x.fieldName) <|
    .cons (.leaf x.missing) <|
    .nil

/-- The fields of a message. -/
def ofMessage : Message .maxAggregation → MaxAggregation
  | .record (.cons (.leaf name) (.cons (.leaf fieldName) (.cons (.leaf missing) .nil))) =>
    ⟨name, fieldName, missing⟩

@[simp] theorem ofMessage_toMessage (x : MaxAggregation) : ofMessage x.toMessage = x :=
  rfl

/-- The aggregation of a field under a name. -/
def of (name fieldName : String) : MaxAggregation :=
  { name, fieldName }

instance : Coe MaxAggregation Aggregation := ⟨fun x => .node AggregationKind.max x.toMessage⟩

end MaxAggregation

/-- The least value of a field. -/
structure MinAggregation where
  name : Option String := none
  fieldName : Option String := none
  missing : Option ColumnValue := none

namespace MinAggregation

/-- The message with these fields. -/
def toMessage (x : MinAggregation) : Message .minAggregation :=
  .record <|
    .cons (.leaf x.name) <|
    .cons (.leaf x.fieldName) <|
    .cons (.leaf x.missing) <|
    .nil

/-- The fields of a message. -/
def ofMessage : Message .minAggregation → MinAggregation
  | .record (.cons (.leaf name) (.cons (.leaf fieldName) (.cons (.leaf missing) .nil))) =>
    ⟨name, fieldName, missing⟩

@[simp] theorem ofMessage_toMessage (x : MinAggregation) : ofMessage x.toMessage = x :=
  rfl

/-- The aggregation of a field under a name. -/
def of (name fieldName : String) : MinAggregation :=
  { name, fieldName }

instance : Coe MinAggregation Aggregation := ⟨fun x => .node AggregationKind.min x.toMessage⟩

end MinAggregation

/-- The sum of a field. -/
structure SumAggregation where
  name : Option String := none
  fieldName : Option String := none
  missing : Option ColumnValue := none

namespace SumAggregation

/-- The message with these fields. -/
def toMessage (x : SumAggregation) : Message .sumAggregation :=
  .record <|
    .cons (.leaf x.name) <|
    .cons (.leaf x.fieldName) <|
    .cons (.leaf x.missing) <|
    .nil

/-- The fields of a message. -/
def ofMessage : Message .sumAggregation → SumAggregation
  | .record (.cons (.leaf name) (.cons (.leaf fieldName) (.cons (.leaf missing) .nil))) =>
    ⟨name, fieldName, missing⟩

@[simp] theorem ofMessage_toMessage (x : SumAggregation) : ofMessage x.toMessage = x :=
  rfl

/-- The aggregation of a field under a name. -/
def of (name fieldName : String) : SumAggregation :=
  { name, fieldName }

instance : Coe SumAggregation Aggregation := ⟨fun x => .node AggregationKind.sum x.toMessage⟩

end SumAggregation

/-- How many different values a field has. -/
structure DistinctCountAggregation where
  name : Option String := none
  fieldName : Option String := none
  missing : Option ColumnValue := none

namespace DistinctCountAggregation

/-- The message with these fields. -/
def toMessage (x : DistinctCountAggregation) : Message .distinctCountAggregation :=
  .record <|
    .cons (.leaf x.name) <|
    .cons (.leaf x.fieldName) <|
    .cons (.leaf x.missing) <|
    .nil

/-- The fields of a message. -/
def ofMessage : Message .distinctCountAggregation → DistinctCountAggregation
  | .record (.cons (.leaf name) (.cons (.leaf fieldName) (.cons (.leaf missing) .nil))) =>
    ⟨name, fieldName, missing⟩

@[simp] theorem ofMessage_toMessage (x : DistinctCountAggregation) : ofMessage x.toMessage = x :=
  rfl

/-- The aggregation of a field under a name. -/
def of (name fieldName : String) : DistinctCountAggregation :=
  { name, fieldName }

instance : Coe DistinctCountAggregation Aggregation :=
  ⟨fun x => .node AggregationKind.distinctCount x.toMessage⟩

end DistinctCountAggregation

/-- How many rows have a field. -/
structure CountAggregation where
  name : Option String := none
  fieldName : Option String := none

namespace CountAggregation

/-- The message with these fields. -/
def toMessage (x : CountAggregation) : Message .countAggregation :=
  .record <|
    .cons (.leaf x.name) <|
    .cons (.leaf x.fieldName) <|
    .nil

/-- The fields of a message. -/
def ofMessage : Message .countAggregation → CountAggregation
  | .record (.cons (.leaf name) (.cons (.leaf fieldName) .nil)) =>
    ⟨name, fieldName⟩

@[simp] theorem ofMessage_toMessage (x : CountAggregation) : ofMessage x.toMessage = x :=
  rfl

/-- The aggregation of a field under a name. -/
def of (name fieldName : String) : CountAggregation :=
  { name, fieldName }

instance : Coe CountAggregation Aggregation := ⟨fun x => .node AggregationKind.count x.toMessage⟩

end CountAggregation

/-- Percentiles of a field. -/
structure PercentilesAggregation where
  name : Option String := none
  fieldName : Option String := none
  percentiles : List Binary64 := []
  missing : Option ColumnValue := none

namespace PercentilesAggregation

/-- The message with these fields. -/
def toMessage (x : PercentilesAggregation) : Message .percentilesAggregation :=
  .record <|
    .cons (.leaf x.name) <|
    .cons (.leaf x.fieldName) <|
    .cons (.leaf x.percentiles) <|
    .cons (.leaf x.missing) <|
    .nil

/-- The fields of a message. -/
def ofMessage : Message .percentilesAggregation → PercentilesAggregation
  | .record (.cons (.leaf name) (.cons (.leaf fieldName) (.cons (.leaf percentiles) (.cons (.leaf
    missing) .nil)))) =>
    ⟨name, fieldName, percentiles, missing⟩

@[simp] theorem ofMessage_toMessage (x : PercentilesAggregation) : ofMessage x.toMessage = x :=
  rfl

instance : Coe PercentilesAggregation Aggregation :=
  ⟨fun x => .node AggregationKind.percentiles x.toMessage⟩

end PercentilesAggregation

/-- The first rows of a bucket. -/
structure TopRowsAggregation where
  name : Option String := none
  limit : Option Int32 := none
  sort : Option (Message .sort) := none

namespace TopRowsAggregation

/-- The message with these fields. -/
def toMessage (x : TopRowsAggregation) : Message .topRowsAggregation :=
  .record <|
    .cons (.leaf x.name) <|
    .cons (.leaf x.limit) <|
    .cons (.ofOption x.sort) <|
    .nil

/-- The fields of a message. -/
def ofMessage : Message .topRowsAggregation → TopRowsAggregation
  | .record (.cons (.leaf name) (.cons (.leaf limit) (.cons sort .nil))) =>
    ⟨name, limit, sort.toOption⟩

@[simp] theorem ofMessage_toMessage (x : TopRowsAggregation) : ofMessage x.toMessage = x := by
  simp [toMessage, ofMessage]

instance : Coe TopRowsAggregation Aggregation :=
  ⟨fun x => .node AggregationKind.topRows x.toMessage⟩

end TopRowsAggregation

/-- The name of the result of an aggregation, if it was set. -/
def Aggregation.name? : Aggregation → Option String
  | .node AggregationKind.avg p => (AvgAggregation.ofMessage p).name
  | .node AggregationKind.count p => (CountAggregation.ofMessage p).name
  | .node AggregationKind.max p => (MaxAggregation.ofMessage p).name
  | .node AggregationKind.min p => (MinAggregation.ofMessage p).name
  | .node AggregationKind.sum p => (SumAggregation.ofMessage p).name
  | .node AggregationKind.distinctCount p => (DistinctCountAggregation.ofMessage p).name
  | .node AggregationKind.percentiles p => (PercentilesAggregation.ofMessage p).name
  | .node AggregationKind.topRows p => (TopRowsAggregation.ofMessage p).name

end SearchWire
