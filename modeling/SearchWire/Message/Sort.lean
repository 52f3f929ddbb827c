import SearchWire.Message.Query

/-!
# Sorts

Orders of rows.
-/

namespace SearchWire

/-- Which nested documents a sorter looks at. -/
structure NestedFilter where
  path : Option String := none
  filter : Option Query := none

namespace NestedFilter

/-- The message with these fields. -/
def toMessage (x : NestedFilter) : Message .nestedFilter :=
  .record <|
    .cons (.leaf x.path) <|
    .cons (.ofOption x.filter) <|
    .nil

/-- The fields of a message. -/
def ofMessage : Message .nestedFilter → NestedFilter
  | .record (.cons (.leaf path) (.cons filter .nil)) =>
    ⟨path, filter.toOption⟩

@[simp] theorem ofMessage_toMessage (x : NestedFilter) : ofMessage x.toMessage = x := by
  simp [toMessage, ofMessage]

end NestedFilter

/-- Order by the values of a field. -/
structure FieldSort where
  fieldName : Option String := none
  order : Option SortOrder := none
  mode : Option SortMode := none
  nestedFilter : Option (Message .nestedFilter) := none
  missingValue : Option ColumnValue := none
  missingField : Option String := none

namespace FieldSort

/-- The message with these fields. -/
def toMessage (x : FieldSort) : Message .fieldSort :=
  .record <|
    .cons (.leaf x.fieldName) <|
    .cons (.leaf x.order) <|
    .cons (.leaf x.mode) <|
    .cons (.ofOption x.nestedFilter) <|
    .cons (.leaf x.missingValue) <|
    .cons (.leaf x.missingField) <|
    .nil

/-- The fields of a message. -/
def ofMessage : Message .fieldSort → FieldSort
  | .record (.cons (.leaf fieldName) (.cons (.leaf order) (.cons (.leaf mode) (.cons nestedFilter
    (.cons (.leaf missingValue) (.cons (.leaf missingField) .nil)))))) =>
    ⟨fieldName, order, mode, nestedFilter.toOption, missingValue, missingField⟩

@[simp] theorem ofMessage_toMessage (x : FieldSort) : ofMessage x.toMessage = x := by
  simp [toMessage, ofMessage]

/-- The values of a field in one direction. -/
def of (fieldName : String) (order : SortOrder) : FieldSort :=
  { fieldName, order }

instance : Coe FieldSort Sorter := ⟨fun x => .node SorterKind.field x.toMessage⟩

end FieldSort

/-- Order by the distance from points. -/
structure GeoDistanceSort where
  fieldName : Option String := none
  points : List String := []
  order : Option SortOrder := none
  mode : Option SortMode := none
  distanceType : Option GeoDistanceType := none
  nestedFilter : Option (Message .nestedFilter) := none

namespace GeoDistanceSort

/-- The message with these fields. -/
def toMessage (x : GeoDistanceSort) : Message .geoDistanceSort :=
  .record <|
    .cons (.leaf x.fieldName) <|
    .cons (.leaf x.points) <|
    .cons (.leaf x.order) <|
    .cons (.leaf x.mode) <|
    .cons (.leaf x.distanceType) <|
    .cons (.ofOption x.nestedFilter) <|
    .nil

/-- The fields of a message. -/
def ofMessage : Message .geoDistanceSort → GeoDistanceSort
  | .record (.cons (.leaf fieldName) (.cons (.leaf points) (.cons (.leaf order) (.cons (.leaf
    mode) (.cons (.leaf distanceType) (.cons nestedFilter .nil)))))) =>
    ⟨fieldName, points, order, mode, distanceType, nestedFilter.toOption⟩

@[simp] theorem ofMessage_toMessage (x : GeoDistanceSort) : ofMessage x.toMessage = x := by
  simp [toMessage, ofMessage]

instance : Coe GeoDistanceSort Sorter := ⟨fun x => .node SorterKind.geoDistance x.toMessage⟩

end GeoDistanceSort

/-- Order by score. -/
structure ScoreSort where
  order : Option SortOrder := none

namespace ScoreSort

/-- The message with these fields. -/
def toMessage (x : ScoreSort) : Message .scoreSort :=
  .record <|
    .cons (.leaf x.order) <|
    .nil

/-- The fields of a message. -/
def ofMessage : Message .scoreSort → ScoreSort
  | .record (.cons (.leaf order) .nil) =>
    ⟨order⟩

@[simp] theorem ofMessage_toMessage (x : ScoreSort) : ofMessage x.toMessage = x :=
  rfl

/-- The order in one direction. -/
def of (order : SortOrder) : ScoreSort :=
  { order }

instance : Coe ScoreSort Sorter := ⟨fun x => .node SorterKind.score x.toMessage⟩

end ScoreSort

/-- Order by primary key. -/
structure PrimaryKeySort where
  order : Option SortOrder := none

namespace PrimaryKeySort

/-- The message with these fields. -/
def toMessage (x : PrimaryKeySort) : Message .primaryKeySort :=
  .record <|
    .cons (.leaf x.order) <|
    .nil

/-- The fields of a message. -/
def ofMessage : Message .primaryKeySort → PrimaryKeySort
  | .record (.cons (.leaf order) .nil) =>
    ⟨order⟩

@[simp] theorem ofMessage_toMessage (x : PrimaryKeySort) : ofMessage x.toMessage = x :=
  rfl

/-- The order in one direction. -/
def of (order : SortOrder) : PrimaryKeySort :=
  { order }

instance : Coe PrimaryKeySort Sorter := ⟨fun x => .node SorterKind.primaryKey x.toMessage⟩

end PrimaryKeySort

/-- The order in which the index holds the rows. -/
structure DocSort where
  order : Option SortOrder := none

namespace DocSort

/-- The message with these fields. -/
def toMessage (x : DocSort) : Message .docSort :=
  .record <|
    .cons (.leaf x.order) <|
    .nil

/-- The fields of a message. -/
def ofMessage : Message .docSort → DocSort
  | .record (.cons (.leaf order) .nil) =>
    ⟨order⟩

@[simp] theorem ofMessage_toMessage (x : DocSort) : ofMessage x.toMessage = x :=
  rfl

/-- The order in one direction. -/
def of (order : SortOrder) : DocSort :=
  { order }

instance : Coe DocSort Sorter := ⟨fun x => .node SorterKind.doc x.toMessage⟩

end DocSort

/-- The criteria of an order, the first one first. -/
structure RowSort where
  sorters : List Sorter := []

namespace RowSort

/-- The message with these fields. -/
def toMessage (x : RowSort) : Message .sort :=
  .record <|
    .cons (.ofChildren x.sorters) <|
    .nil

/-- The fields of a message. -/
def ofMessage : Message .sort → RowSort
  | .record (.cons sorters .nil) =>
    ⟨sorters.toChildren⟩

@[simp] theorem ofMessage_toMessage (x : RowSort) : ofMessage x.toMessage = x := by
  simp [toMessage, ofMessage]

end RowSort

end SearchWire
