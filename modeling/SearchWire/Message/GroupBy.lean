import SearchWire.Message.Quantity

/-!
# Group-bys

A group-by divides rows into buckets. The buckets can be divided further, and numbers can be
computed from each of them.
-/

namespace SearchWire

/-- Order buckets by their key. -/
structure GroupKeySort where
  order : Option SortOrder := none

namespace GroupKeySort

/-- The message with these fields. -/
def toMessage (x : GroupKeySort) : Message .groupKeySort :=
  .record <|
    .cons (.leaf x.order) <|
    .nil

/-- The fields of a message. -/
def ofMessage : Message .groupKeySort → GroupKeySort
  | .record (.cons (.leaf order) .nil) =>
    ⟨order⟩

@[simp] theorem ofMessage_toMessage (x : GroupKeySort) : ofMessage x.toMessage = x :=
  rfl

end GroupKeySort

/-- Order buckets by their size. -/
structure RowCountSort where
  order : Option SortOrder := none

namespace RowCountSort

/-- The message with these fields. -/
def toMessage (x : RowCountSort) : Message .rowCountSort :=
  .record <|
    .cons (.leaf x.order) <|
    .nil

/-- The fields of a message. -/
def ofMessage : Message .rowCountSort → RowCountSort
  | .record (.cons (.leaf order) .nil) =>
    ⟨order⟩

@[simp] theorem ofMessage_toMessage (x : RowCountSort) : ofMessage x.toMessage = x :=
  rfl

end RowCountSort

/-- Order buckets by one of their aggregations. -/
structure SubAggregationSort where
  aggregation : Option String := none
  order : Option SortOrder := none

namespace SubAggregationSort

/-- The message with these fields. -/
def toMessage (x : SubAggregationSort) : Message .subAggregationSort :=
  .record <|
    .cons (.leaf x.aggregation) <|
    .cons (.leaf x.order) <|
    .nil

/-- The fields of a message. -/
def ofMessage : Message .subAggregationSort → SubAggregationSort
  | .record (.cons (.leaf aggregation) (.cons (.leaf order) .nil)) =>
    ⟨aggregation, order⟩

@[simp] theorem ofMessage_toMessage (x : SubAggregationSort) : ofMessage x.toMessage = x :=
  rfl

end SubAggregationSort

/-- The criteria of an order of buckets, the first one first. -/
structure GroupBySort where
  sorters : List Criterion := []

namespace GroupBySort

/-- The message with these fields. -/
def toMessage (x : GroupBySort) : Message .groupBySort :=
  .record <|
    .cons (.ofChildren x.sorters) <|
    .nil

/-- The fields of a message. -/
def ofMessage : Message .groupBySort → GroupBySort
  | .record (.cons sorters .nil) =>
    ⟨sorters.toChildren⟩

@[simp] theorem ofMessage_toMessage (x : GroupBySort) : ofMessage x.toMessage = x := by
  simp [toMessage, ofMessage]


end GroupBySort

/-- A bucket for each value of a field. -/
structure GroupByField where
  name : Option String := none
  subAggregations : List Aggregation := []
  subGroupBys : List GroupBy := []
  fieldName : Option String := none
  size : Option Int32 := none
  sort : Option (Message .groupBySort) := none
  minDocCount : Option Int64 := none

namespace GroupByField

/-- The message with these fields. -/
def toMessage (x : GroupByField) : Message .groupByField :=
  .record <|
    .cons (.leaf x.name) <|
    .cons (.ofChildren x.subAggregations) <|
    .cons (.ofChildren x.subGroupBys) <|
    .cons (.leaf x.fieldName) <|
    .cons (.leaf x.size) <|
    .cons (.ofOption x.sort) <|
    .cons (.leaf x.minDocCount) <|
    .nil

/-- The fields of a message. -/
def ofMessage : Message .groupByField → GroupByField
  | .record (.cons (.leaf name) (.cons subAggregations (.cons subGroupBys (.cons (.leaf fieldName)
    (.cons (.leaf size) (.cons sort (.cons (.leaf minDocCount) .nil))))))) =>
    ⟨name, subAggregations.toChildren, subGroupBys.toChildren, fieldName, size, sort.toOption,
      minDocCount⟩

@[simp] theorem ofMessage_toMessage (x : GroupByField) : ofMessage x.toMessage = x := by
  simp [toMessage, ofMessage]

instance : Coe GroupByField GroupBy := ⟨fun x => .node GroupByKind.field x.toMessage⟩

end GroupByField

/-- A bucket for each filter. -/
structure GroupByFilter where
  name : Option String := none
  subAggregations : List Aggregation := []
  subGroupBys : List GroupBy := []
  filters : List Query := []

namespace GroupByFilter

/-- The message with these fields. -/
def toMessage (x : GroupByFilter) : Message .groupByFilter :=
  .record <|
    .cons (.leaf x.name) <|
    .cons (.ofChildren x.subAggregations) <|
    .cons (.ofChildren x.subGroupBys) <|
    .cons (.ofChildren x.filters) <|
    .nil

/-- The fields of a message. -/
def ofMessage : Message .groupByFilter → GroupByFilter
  | .record (.cons (.leaf name) (.cons subAggregations (.cons subGroupBys (.cons filters .nil))))
    =>
    ⟨name, subAggregations.toChildren, subGroupBys.toChildren, filters.toChildren⟩

@[simp] theorem ofMessage_toMessage (x : GroupByFilter) : ofMessage x.toMessage = x := by
  simp [toMessage, ofMessage]

instance : Coe GroupByFilter GroupBy := ⟨fun x => .node GroupByKind.filter x.toMessage⟩

end GroupByFilter

/-- A bucket for each range of numbers. -/
structure GroupByRange where
  name : Option String := none
  subAggregations : List Aggregation := []
  subGroupBys : List GroupBy := []
  fieldName : Option String := none
  ranges : List (Message .range) := []

namespace GroupByRange

/-- The message with these fields. -/
def toMessage (x : GroupByRange) : Message .groupByRange :=
  .record <|
    .cons (.leaf x.name) <|
    .cons (.ofChildren x.subAggregations) <|
    .cons (.ofChildren x.subGroupBys) <|
    .cons (.leaf x.fieldName) <|
    .cons (.ofChildren x.ranges) <|
    .nil

/-- The fields of a message. -/
def ofMessage : Message .groupByRange → GroupByRange
  | .record (.cons (.leaf name) (.cons subAggregations (.cons subGroupBys (.cons (.leaf fieldName)
    (.cons ranges .nil))))) =>
    ⟨name, subAggregations.toChildren, subGroupBys.toChildren, fieldName, ranges.toChildren⟩

@[simp] theorem ofMessage_toMessage (x : GroupByRange) : ofMessage x.toMessage = x := by
  simp [toMessage, ofMessage]

instance : Coe GroupByRange GroupBy := ⟨fun x => .node GroupByKind.range x.toMessage⟩

end GroupByRange

/-- Buckets of one width. -/
structure GroupByHistogram where
  name : Option String := none
  subAggregations : List Aggregation := []
  subGroupBys : List GroupBy := []
  fieldName : Option String := none
  interval : Option ColumnValue := none
  missing : Option ColumnValue := none
  minDocCount : Option Int64 := none
  sort : Option (Message .groupBySort) := none
  fieldRange : Option (Message .fieldRange) := none
  offset : Option ColumnValue := none

namespace GroupByHistogram

/-- The message with these fields. -/
def toMessage (x : GroupByHistogram) : Message .groupByHistogram :=
  .record <|
    .cons (.leaf x.name) <|
    .cons (.ofChildren x.subAggregations) <|
    .cons (.ofChildren x.subGroupBys) <|
    .cons (.leaf x.fieldName) <|
    .cons (.leaf x.interval) <|
    .cons (.leaf x.missing) <|
    .cons (.leaf x.minDocCount) <|
    .cons (.ofOption x.sort) <|
    .cons (.ofOption x.fieldRange) <|
    .cons (.leaf x.offset) <|
    .nil

/-- The fields of a message. -/
def ofMessage : Message .groupByHistogram → GroupByHistogram
  | .record (.cons (.leaf name) (.cons subAggregations (.cons subGroupBys (.cons (.leaf fieldName)
    (.cons (.leaf interval) (.cons (.leaf missing) (.cons (.leaf minDocCount) (.cons sort (.cons
    fieldRange (.cons (.leaf offset) .nil)))))))))) =>
    ⟨name, subAggregations.toChildren, subGroupBys.toChildren, fieldName, interval, missing,
      minDocCount, sort.toOption, fieldRange.toOption, offset⟩

@[simp] theorem ofMessage_toMessage (x : GroupByHistogram) : ofMessage x.toMessage = x := by
  simp [toMessage, ofMessage]

instance : Coe GroupByHistogram GroupBy := ⟨fun x => .node GroupByKind.histogram x.toMessage⟩

end GroupByHistogram

/-- Buckets of calendar time. -/
structure GroupByDateHistogram where
  name : Option String := none
  subAggregations : List Aggregation := []
  subGroupBys : List GroupBy := []
  fieldName : Option String := none
  interval : Option (Message .dateTimeValue) := none
  fieldRange : Option (Message .fieldRange) := none
  missing : Option ColumnValue := none
  minDocCount : Option Int64 := none
  offset : Option (Message .dateTimeValue) := none
  timeZone : Option String := none
  sort : Option (Message .groupBySort) := none

namespace GroupByDateHistogram

/-- The message with these fields. -/
def toMessage (x : GroupByDateHistogram) : Message .groupByDateHistogram :=
  .record <|
    .cons (.leaf x.name) <|
    .cons (.ofChildren x.subAggregations) <|
    .cons (.ofChildren x.subGroupBys) <|
    .cons (.leaf x.fieldName) <|
    .cons (.ofOption x.interval) <|
    .cons (.ofOption x.fieldRange) <|
    .cons (.leaf x.missing) <|
    .cons (.leaf x.minDocCount) <|
    .cons (.ofOption x.offset) <|
    .cons (.leaf x.timeZone) <|
    .cons (.ofOption x.sort) <|
    .nil

/-- The fields of a message. -/
def ofMessage : Message .groupByDateHistogram → GroupByDateHistogram
  | .record (.cons (.leaf name) (.cons subAggregations (.cons subGroupBys (.cons (.leaf fieldName)
    (.cons interval (.cons fieldRange (.cons (.leaf missing) (.cons (.leaf minDocCount) (.cons
    offset (.cons (.leaf timeZone) (.cons sort .nil))))))))))) =>
    ⟨name, subAggregations.toChildren, subGroupBys.toChildren, fieldName, interval.toOption,
      fieldRange.toOption, missing, minDocCount, offset.toOption, timeZone, sort.toOption⟩

@[simp] theorem ofMessage_toMessage (x : GroupByDateHistogram) : ofMessage x.toMessage = x := by
  simp [toMessage, ofMessage]

instance : Coe GroupByDateHistogram GroupBy :=
  ⟨fun x => .node GroupByKind.dateHistogram x.toMessage⟩

end GroupByDateHistogram

/-- A bucket for each combination of several group-bys. -/
structure GroupByComposite where
  name : Option String := none
  subAggregations : List Aggregation := []
  subGroupBys : List GroupBy := []
  sources : List GroupBy := []
  size : Option Int32 := none
  suggestedSize : Option Int32 := none
  nextToken : Option String := none

namespace GroupByComposite

/-- The message with these fields. -/
def toMessage (x : GroupByComposite) : Message .groupByComposite :=
  .record <|
    .cons (.leaf x.name) <|
    .cons (.ofChildren x.subAggregations) <|
    .cons (.ofChildren x.subGroupBys) <|
    .cons (.ofChildren x.sources) <|
    .cons (.leaf x.size) <|
    .cons (.leaf x.suggestedSize) <|
    .cons (.leaf x.nextToken) <|
    .nil

/-- The fields of a message. -/
def ofMessage : Message .groupByComposite → GroupByComposite
  | .record (.cons (.leaf name) (.cons subAggregations (.cons subGroupBys (.cons sources (.cons
    (.leaf size) (.cons (.leaf suggestedSize) (.cons (.leaf nextToken) .nil))))))) =>
    ⟨name, subAggregations.toChildren, subGroupBys.toChildren, sources.toChildren, size,
      suggestedSize, nextToken⟩

@[simp] theorem ofMessage_toMessage (x : GroupByComposite) : ofMessage x.toMessage = x := by
  simp [toMessage, ofMessage]

instance : Coe GroupByComposite GroupBy := ⟨fun x => .node GroupByKind.composite x.toMessage⟩

end GroupByComposite

/-- Rings around a point. -/
structure GroupByGeoDistance where
  name : Option String := none
  subAggregations : List Aggregation := []
  subGroupBys : List GroupBy := []
  fieldName : Option String := none
  origin : Option (Message .geoPoint) := none
  ranges : List (Message .range) := []

namespace GroupByGeoDistance

/-- The message with these fields. -/
def toMessage (x : GroupByGeoDistance) : Message .groupByGeoDistance :=
  .record <|
    .cons (.leaf x.name) <|
    .cons (.ofChildren x.subAggregations) <|
    .cons (.ofChildren x.subGroupBys) <|
    .cons (.leaf x.fieldName) <|
    .cons (.ofOption x.origin) <|
    .cons (.ofChildren x.ranges) <|
    .nil

/-- The fields of a message. -/
def ofMessage : Message .groupByGeoDistance → GroupByGeoDistance
  | .record (.cons (.leaf name) (.cons subAggregations (.cons subGroupBys (.cons (.leaf fieldName)
    (.cons origin (.cons ranges .nil)))))) =>
    ⟨name, subAggregations.toChildren, subGroupBys.toChildren, fieldName, origin.toOption,
      ranges.toChildren⟩

@[simp] theorem ofMessage_toMessage (x : GroupByGeoDistance) : ofMessage x.toMessage = x := by
  simp [toMessage, ofMessage]

instance : Coe GroupByGeoDistance GroupBy := ⟨fun x => .node GroupByKind.geoDistance x.toMessage⟩

end GroupByGeoDistance

/-- A bucket for each geohash cell. -/
structure GroupByGeoGrid where
  name : Option String := none
  subAggregations : List Aggregation := []
  subGroupBys : List GroupBy := []
  fieldName : Option String := none
  precision : Option GeoHashPrecision := none
  size : Option Int32 := none

namespace GroupByGeoGrid

/-- The message with these fields. -/
def toMessage (x : GroupByGeoGrid) : Message .groupByGeoGrid :=
  .record <|
    .cons (.leaf x.name) <|
    .cons (.ofChildren x.subAggregations) <|
    .cons (.ofChildren x.subGroupBys) <|
    .cons (.leaf x.fieldName) <|
    .cons (.leaf x.precision) <|
    .cons (.leaf x.size) <|
    .nil

/-- The fields of a message. -/
def ofMessage : Message .groupByGeoGrid → GroupByGeoGrid
  | .record (.cons (.leaf name) (.cons subAggregations (.cons subGroupBys (.cons (.leaf fieldName)
    (.cons (.leaf precision) (.cons (.leaf size) .nil)))))) =>
    ⟨name, subAggregations.toChildren, subGroupBys.toChildren, fieldName, precision, size⟩

@[simp] theorem ofMessage_toMessage (x : GroupByGeoGrid) : ofMessage x.toMessage = x := by
  simp [toMessage, ofMessage]

instance : Coe GroupByGeoGrid GroupBy := ⟨fun x => .node GroupByKind.geoGrid x.toMessage⟩

end GroupByGeoGrid

/-- Buckets in the order of their keys. -/
def Criterion.groupKey (order : SortOrder) : Criterion :=
  .criterion .groupKey (GroupKeySort.toMessage { order })

/-- Buckets in the order of their sizes. -/
def Criterion.rowCount (order : SortOrder) : Criterion :=
  .criterion .rowCount (RowCountSort.toMessage { order })

/-- Buckets in the order of the named aggregation. -/
def Criterion.subAggregation (aggregation : String) (order : SortOrder) : Criterion :=
  .criterion .subAggregation (SubAggregationSort.toMessage { aggregation, order })

/-- The name of the result of a group-by, if it was set. -/
def GroupBy.name? : GroupBy → Option String
  | .node GroupByKind.field p => (GroupByField.ofMessage p).name
  | .node GroupByKind.filter p => (GroupByFilter.ofMessage p).name
  | .node GroupByKind.range p => (GroupByRange.ofMessage p).name
  | .node GroupByKind.histogram p => (GroupByHistogram.ofMessage p).name
  | .node GroupByKind.dateHistogram p => (GroupByDateHistogram.ofMessage p).name
  | .node GroupByKind.composite p => (GroupByComposite.ofMessage p).name
  | .node GroupByKind.geoDistance p => (GroupByGeoDistance.ofMessage p).name
  | .node GroupByKind.geoGrid p => (GroupByGeoGrid.ofMessage p).name

/-- What is computed from each bucket. -/
def GroupBy.subAggregations : GroupBy → List Aggregation
  | .node GroupByKind.field p => (GroupByField.ofMessage p).subAggregations
  | .node GroupByKind.filter p => (GroupByFilter.ofMessage p).subAggregations
  | .node GroupByKind.range p => (GroupByRange.ofMessage p).subAggregations
  | .node GroupByKind.histogram p => (GroupByHistogram.ofMessage p).subAggregations
  | .node GroupByKind.dateHistogram p => (GroupByDateHistogram.ofMessage p).subAggregations
  | .node GroupByKind.composite p => (GroupByComposite.ofMessage p).subAggregations
  | .node GroupByKind.geoDistance p => (GroupByGeoDistance.ofMessage p).subAggregations
  | .node GroupByKind.geoGrid p => (GroupByGeoGrid.ofMessage p).subAggregations

/-- How each bucket is divided further. -/
def GroupBy.subGroupBys : GroupBy → List GroupBy
  | .node GroupByKind.field p => (GroupByField.ofMessage p).subGroupBys
  | .node GroupByKind.filter p => (GroupByFilter.ofMessage p).subGroupBys
  | .node GroupByKind.range p => (GroupByRange.ofMessage p).subGroupBys
  | .node GroupByKind.histogram p => (GroupByHistogram.ofMessage p).subGroupBys
  | .node GroupByKind.dateHistogram p => (GroupByDateHistogram.ofMessage p).subGroupBys
  | .node GroupByKind.composite p => (GroupByComposite.ofMessage p).subGroupBys
  | .node GroupByKind.geoDistance p => (GroupByGeoDistance.ofMessage p).subGroupBys
  | .node GroupByKind.geoGrid p => (GroupByGeoGrid.ofMessage p).subGroupBys

end SearchWire
