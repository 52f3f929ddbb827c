import SearchWire.Schema.Family
import SearchWire.Schema.Leaf

/-!
# Layouts

A message is a record of slots, and a slot takes up one field number of the message (a decay
parameter two: one for its kind and one for its content). A slot is either a leaf, or it holds
children: messages, nodes of a family, or criteria for buckets.

The layouts are the whole of what is particular to a type of message, two checks apart that look at
several slots at once (`SearchWire.Tree.Check`). The slots of a message stand in the order of their
numbers, which is also the order in which they are written and in which a missing one is reported.
-/

namespace SearchWire

/-- The number of a field on the wire, and its name. -/
structure Tag where
  number : Nat
  name : String
deriving DecidableEq, Repr

/-- The shapes of values that have bytes of their own. -/
inductive Shape
  /-- The fields of a message. -/
  | message (m : MessageType)
  /-- A node of a family: an envelope around the message that its kind selects. -/
  | node (f : Family)
  /-- A criterion for buckets: a message in which exactly one of several fields is set. -/
  | criterion
deriving DecidableEq, Repr

/-- The name under which errors speak of a shape. -/
def Shape.name : Shape → String
  | message m => m.name
  | node f => f.name
  | criterion => "GroupBySorter"

/-- The slots that a message can have. -/
inductive Slot
  | leaf (tag : Tag) (l : Leaf)
  /-- One child, or none; a `required` one has to be set to be written and to occur to be read. -/
  | child (tag : Tag) (s : Shape) (required : Bool)
  /-- A list of children. -/
  | children (tag : Tag) (s : Shape)
  /-- The parameter of a decay function, its kind in one field and its content in another. -/
  | decayParam (kind content : Tag)

/-- The field in which a criterion for buckets of the given kind is written. -/
def CriterionKind.tag : CriterionKind → Tag
  | groupKey => ⟨1, "groupKeySort"⟩
  | rowCount => ⟨2, "rowCountSort"⟩
  | subAggregation => ⟨3, "subAggSort"⟩

/-- The kind of the criterion for buckets that is written in the field with the given number. -/
def CriterionKind.ofNumber? : Nat → Option CriterionKind
  | 1 => some groupKey
  | 2 => some rowCount
  | 3 => some subAggregation
  | _ => none

/-- The slots of a message, in the order of their numbers.

The table is the layout of both directions: a message is written slot by slot (`Tree.write`), and a
field that is read is filed under the slot that it belongs to and converted by the rule of that slot
(`decode`). A rule says of each direction what it asks, and the two may differ: a list that has to be
set to be written may be absent when it is read. Numbers, names and types are said once for both. -/
def MessageType.slots : MessageType → List Slot
  -- Queries
  | .matchAllQuery => []
  | .matchQuery => [
    .leaf ⟨1, "fieldName"⟩ (.required .text),
    .leaf ⟨2, "text"⟩ (.required .text),
    .leaf ⟨3, "minimumShouldMatch"⟩ (.optional .int32),
    .leaf ⟨4, "operator"⟩ (.optional (.enum .queryOperator)),
    .leaf ⟨5, "weight"⟩ (.weight true)]
  | .matchPhraseQuery => [
    .leaf ⟨1, "fieldName"⟩ (.required .text),
    .leaf ⟨2, "text"⟩ (.required .text),
    .leaf ⟨3, "weight"⟩ (.weight true)]
  | .termQuery => [
    .leaf ⟨1, "fieldName"⟩ (.required .text),
    .leaf ⟨2, "term"⟩ (.required .column),
    .leaf ⟨3, "weight"⟩ (.weight true)]
  | .termsQuery => [
    .leaf ⟨1, "fieldName"⟩ (.required .text),
    .leaf ⟨2, "terms"⟩ (.requiredList .column),
    .leaf ⟨3, "weight"⟩ (.weight true)]
  | .rangeQuery => [
    .leaf ⟨1, "fieldName"⟩ (.required .text),
    .leaf ⟨2, "from"⟩ (.optional .column),
    .leaf ⟨3, "to"⟩ (.optional .column),
    .leaf ⟨4, "includeLower"⟩ (.defaulted .bool false),
    .leaf ⟨5, "includeUpper"⟩ (.defaulted .bool false)]
  | .prefixQuery => [
    .leaf ⟨1, "fieldName"⟩ (.required .text),
    .leaf ⟨2, "prefix"⟩ (.required .text),
    .leaf ⟨3, "weight"⟩ (.weight true)]
  | .suffixQuery => [
    .leaf ⟨1, "fieldName"⟩ (.required .text),
    .leaf ⟨2, "suffix"⟩ (.required .text),
    .leaf ⟨3, "weight"⟩ (.weight true)]
  | .wildcardQuery => [
    .leaf ⟨1, "fieldName"⟩ (.required .text),
    .leaf ⟨2, "value"⟩ (.required .text),
    .leaf ⟨3, "weight"⟩ (.weight true)]
  | .existsQuery => [
    .leaf ⟨1, "fieldName"⟩ (.required .text)]
  | .boolQuery => [
    .children ⟨1, "must"⟩ (.node .query),
    .children ⟨2, "mustNot"⟩ (.node .query),
    .children ⟨3, "filter"⟩ (.node .query),
    .children ⟨4, "should"⟩ (.node .query),
    .leaf ⟨5, "minimumShouldMatch"⟩ (.optional .int32)]
  | .constScoreQuery => [
    .child ⟨1, "filter"⟩ (.node .query) true]
  | .nestedQuery => [
    .leaf ⟨1, "path"⟩ (.required .text),
    .child ⟨2, "query"⟩ (.node .query) true,
    .leaf ⟨3, "scoreMode"⟩ (.required (.enum .scoreMode)),
    .leaf ⟨4, "weight"⟩ (.weight true),
    .child ⟨5, "innerHits"⟩ (.message .innerHits) false]
  | .innerHits => [
    .child ⟨1, "sort"⟩ (.message .sort) false,
    .leaf ⟨2, "offset"⟩ (.optional .int32),
    .leaf ⟨3, "limit"⟩ (.optional .int32),
    .leaf ⟨4, "highlight"⟩ (.optional .bytes)]
  | .geoBoundingBoxQuery => [
    .leaf ⟨1, "fieldName"⟩ (.required .text),
    .leaf ⟨2, "topLeft"⟩ (.required .text),
    .leaf ⟨3, "bottomRight"⟩ (.required .text)]
  | .geoDistanceQuery => [
    .leaf ⟨1, "fieldName"⟩ (.required .text),
    .leaf ⟨2, "centerPoint"⟩ (.required .text),
    .leaf ⟨3, "distance"⟩ (.required .float64)]
  | .geoPolygonQuery => [
    .leaf ⟨1, "fieldName"⟩ (.required .text),
    .leaf ⟨2, "points"⟩ (.requiredList .text)]
  | .knnVectorQuery => [
    .leaf ⟨1, "fieldName"⟩ (.required .text),
    .leaf ⟨2, "topK"⟩ (.required .int32),
    .leaf ⟨3, "queryVector"⟩ (.requiredVector .float),
    .child ⟨4, "filter"⟩ (.node .query) false,
    .leaf ⟨5, "weight"⟩ (.weight false)]
  -- Scores
  | .functionScoreQuery => [
    .child ⟨1, "query"⟩ (.node .query) true,
    .child ⟨2, "fieldValueFactor"⟩ (.message .fieldValueFactor) true]
  | .fieldValueFactor => [
    .leaf ⟨1, "fieldName"⟩ (.required .text)]
  | .functionsScoreQuery => [
    .child ⟨1, "query"⟩ (.node .query) false,
    .children ⟨2, "functions"⟩ (.message .scoreFunction),
    .leaf ⟨3, "scoreMode"⟩ (.optional (.enum .functionScoreMode)),
    .leaf ⟨4, "combineMode"⟩ (.optional (.enum .functionCombineMode)),
    .leaf ⟨5, "minScore"⟩ (.optional .float32),
    .leaf ⟨6, "maxScore"⟩ (.optional .float32)]
  | .scoreFunction => [
    .leaf ⟨1, "weight"⟩ (.optional .float32),
    .child ⟨2, "filter"⟩ (.node .query) false,
    .child ⟨3, "fieldValueFactor"⟩ (.message .fieldValueFactorFunction) false,
    .child ⟨4, "decay"⟩ (.message .decayFunction) false,
    .child ⟨5, "random"⟩ (.message .randomScoreFunction) false]
  | .fieldValueFactorFunction => [
    .leaf ⟨1, "fieldName"⟩ (.required .text),
    .leaf ⟨2, "factor"⟩ (.optional .float32),
    .leaf ⟨3, "modifier"⟩ (.optional (.enum .fieldValueFactorModifier)),
    .leaf ⟨4, "missing"⟩ (.optional .float64)]
  | .randomScoreFunction => []
  | .decayFunction => [
    .leaf ⟨1, "fieldName"⟩ (.required .text),
    .leaf ⟨2, "mathFunction"⟩ (.optional (.enum .decayMathFunction)),
    .decayParam ⟨3, "paramType"⟩ ⟨4, "param"⟩,
    .leaf ⟨5, "decay"⟩ (.optional .float64),
    .leaf ⟨6, "multiValueMode"⟩ (.optional (.enum .multiValueMode))]
  | .dateDecayParam => [
    .leaf ⟨1, "originLong"⟩ (.optional .int64),
    .leaf ⟨2, "originString"⟩ (.optional .text),
    .child ⟨3, "scale"⟩ (.message .dateTimeValue) false,
    .child ⟨4, "offset"⟩ (.message .dateTimeValue) false]
  | .numericDecayParam => [
    .leaf ⟨1, "origin"⟩ (.optional .float64),
    .leaf ⟨2, "scale"⟩ (.optional .float64),
    .leaf ⟨3, "offset"⟩ (.optional .float64)]
  | .geoDecayParam => [
    .leaf ⟨1, "origin"⟩ (.optional .text),
    .leaf ⟨2, "scale"⟩ (.optional .float64),
    .leaf ⟨3, "offset"⟩ (.optional .float64)]
  -- Sorts
  | .sort => [
    .children ⟨1, "sorter"⟩ (.node .sorter)]
  | .fieldSort => [
    .leaf ⟨1, "fieldName"⟩ (.required .text),
    .leaf ⟨2, "order"⟩ (.optional (.enum .sortOrder)),
    .leaf ⟨3, "mode"⟩ (.optional (.enum .sortMode)),
    .child ⟨4, "nestedFilter"⟩ (.message .nestedFilter) false,
    .leaf ⟨5, "missingValue"⟩ (.optional .column),
    .leaf ⟨6, "missingField"⟩ (.optional .text)]
  | .geoDistanceSort => [
    .leaf ⟨1, "fieldName"⟩ (.required .text),
    .leaf ⟨2, "points"⟩ (.list .text),
    .leaf ⟨3, "order"⟩ (.optional (.enum .sortOrder)),
    .leaf ⟨4, "mode"⟩ (.optional (.enum .sortMode)),
    .leaf ⟨5, "distanceType"⟩ (.optional (.enum .geoDistanceType)),
    .child ⟨6, "nestedFilter"⟩ (.message .nestedFilter) false]
  | .scoreSort => [
    .leaf ⟨1, "order"⟩ (.optional (.enum .sortOrder))]
  | .primaryKeySort => [
    .leaf ⟨1, "order"⟩ (.optional (.enum .sortOrder))]
  | .docSort => [
    .leaf ⟨1, "order"⟩ (.optional (.enum .sortOrder))]
  | .nestedFilter => [
    .leaf ⟨1, "path"⟩ (.required .text),
    .child ⟨2, "filter"⟩ (.node .query) true]
  -- Aggregations
  | .avgAggregation => [
    .leaf ⟨1, "name"⟩ (.required .text),
    .leaf ⟨2, "fieldName"⟩ (.required .text),
    .leaf ⟨3, "missing"⟩ (.optional .column)]
  | .maxAggregation => [
    .leaf ⟨1, "name"⟩ (.required .text),
    .leaf ⟨2, "fieldName"⟩ (.required .text),
    .leaf ⟨3, "missing"⟩ (.optional .column)]
  | .minAggregation => [
    .leaf ⟨1, "name"⟩ (.required .text),
    .leaf ⟨2, "fieldName"⟩ (.required .text),
    .leaf ⟨3, "missing"⟩ (.optional .column)]
  | .sumAggregation => [
    .leaf ⟨1, "name"⟩ (.required .text),
    .leaf ⟨2, "fieldName"⟩ (.required .text),
    .leaf ⟨3, "missing"⟩ (.optional .column)]
  | .distinctCountAggregation => [
    .leaf ⟨1, "name"⟩ (.required .text),
    .leaf ⟨2, "fieldName"⟩ (.required .text),
    .leaf ⟨3, "missing"⟩ (.optional .column)]
  | .countAggregation => [
    .leaf ⟨1, "name"⟩ (.required .text),
    .leaf ⟨2, "fieldName"⟩ (.required .text)]
  | .percentilesAggregation => [
    .leaf ⟨1, "name"⟩ (.required .text),
    .leaf ⟨2, "fieldName"⟩ (.required .text),
    .leaf ⟨3, "percentiles"⟩ (.vector .double),
    .leaf ⟨4, "missing"⟩ (.optional .column)]
  | .topRowsAggregation => [
    .leaf ⟨1, "name"⟩ (.required .text),
    .leaf ⟨2, "limit"⟩ (.optional .int32),
    .child ⟨3, "sort"⟩ (.message .sort) false]
  -- Group-bys
  | .groupByField => [
    .leaf ⟨1, "name"⟩ (.required .text),
    .children ⟨2, "subAggregations"⟩ (.node .aggregation),
    .children ⟨3, "subGroupBys"⟩ (.node .groupBy),
    .leaf ⟨4, "fieldName"⟩ (.required .text),
    .leaf ⟨5, "size"⟩ (.optional .int32),
    .child ⟨6, "sort"⟩ (.message .groupBySort) false,
    .leaf ⟨7, "minDocCount"⟩ (.optional .int64)]
  | .groupByFilter => [
    .leaf ⟨1, "name"⟩ (.required .text),
    .children ⟨2, "subAggregations"⟩ (.node .aggregation),
    .children ⟨3, "subGroupBys"⟩ (.node .groupBy),
    .children ⟨4, "filters"⟩ (.node .query)]
  | .groupByRange => [
    .leaf ⟨1, "name"⟩ (.required .text),
    .children ⟨2, "subAggregations"⟩ (.node .aggregation),
    .children ⟨3, "subGroupBys"⟩ (.node .groupBy),
    .leaf ⟨4, "fieldName"⟩ (.required .text),
    .children ⟨5, "ranges"⟩ (.message .range)]
  | .groupByHistogram => [
    .leaf ⟨1, "name"⟩ (.required .text),
    .children ⟨2, "subAggregations"⟩ (.node .aggregation),
    .children ⟨3, "subGroupBys"⟩ (.node .groupBy),
    .leaf ⟨4, "fieldName"⟩ (.required .text),
    .leaf ⟨5, "interval"⟩ (.required .column),
    .leaf ⟨6, "missing"⟩ (.optional .column),
    .leaf ⟨7, "minDocCount"⟩ (.optional .int64),
    .child ⟨8, "sort"⟩ (.message .groupBySort) false,
    .child ⟨9, "fieldRange"⟩ (.message .fieldRange) false,
    .leaf ⟨10, "offset"⟩ (.optional .column)]
  | .groupByDateHistogram => [
    .leaf ⟨1, "name"⟩ (.required .text),
    .children ⟨2, "subAggregations"⟩ (.node .aggregation),
    .children ⟨3, "subGroupBys"⟩ (.node .groupBy),
    .leaf ⟨4, "fieldName"⟩ (.required .text),
    .child ⟨5, "interval"⟩ (.message .dateTimeValue) true,
    .child ⟨6, "fieldRange"⟩ (.message .fieldRange) false,
    .leaf ⟨7, "missing"⟩ (.optional .column),
    .leaf ⟨8, "minDocCount"⟩ (.optional .int64),
    .child ⟨9, "offset"⟩ (.message .dateTimeValue) false,
    .leaf ⟨10, "timeZone"⟩ (.optional .text),
    .child ⟨11, "sort"⟩ (.message .groupBySort) false]
  | .groupByComposite => [
    .leaf ⟨1, "name"⟩ (.required .text),
    .children ⟨2, "subAggregations"⟩ (.node .aggregation),
    .children ⟨3, "subGroupBys"⟩ (.node .groupBy),
    .children ⟨4, "sources"⟩ (.node .groupBy),
    .leaf ⟨5, "size"⟩ (.optional .int32),
    .leaf ⟨6, "suggestedSize"⟩ (.optional .int32),
    .leaf ⟨7, "nextToken"⟩ (.optional .text)]
  | .groupByGeoDistance => [
    .leaf ⟨1, "name"⟩ (.required .text),
    .children ⟨2, "subAggregations"⟩ (.node .aggregation),
    .children ⟨3, "subGroupBys"⟩ (.node .groupBy),
    .leaf ⟨4, "fieldName"⟩ (.required .text),
    .child ⟨5, "origin"⟩ (.message .geoPoint) true,
    .children ⟨6, "ranges"⟩ (.message .range)]
  | .groupByGeoGrid => [
    .leaf ⟨1, "name"⟩ (.required .text),
    .children ⟨2, "subAggregations"⟩ (.node .aggregation),
    .children ⟨3, "subGroupBys"⟩ (.node .groupBy),
    .leaf ⟨4, "fieldName"⟩ (.required .text),
    .leaf ⟨5, "precision"⟩ (.required (.enum .geoHashPrecision)),
    .leaf ⟨6, "size"⟩ (.optional .int32)]
  | .groupBySort => [
    .children ⟨1, "sorters"⟩ .criterion]
  | .groupKeySort => [
    .leaf ⟨1, "order"⟩ (.optional (.enum .sortOrder))]
  | .rowCountSort => [
    .leaf ⟨1, "order"⟩ (.optional (.enum .sortOrder))]
  | .subAggregationSort => [
    .leaf ⟨1, "subAggName"⟩ (.required .text),
    .leaf ⟨2, "order"⟩ (.optional (.enum .sortOrder))]
  -- Shared parts
  | .dateTimeValue => [
    .leaf ⟨1, "value"⟩ (.present .int32),
    .leaf ⟨2, "unit"⟩ (.present (.enum .dateTimeUnit))]
  | .geoPoint => [
    .leaf ⟨1, "lat"⟩ (.present .float64),
    .leaf ⟨2, "lon"⟩ (.present .float64)]
  | .range => [
    .leaf ⟨1, "from"⟩ (.defaulted .float64 Binary64.negInfinity),
    .leaf ⟨2, "to"⟩ (.defaulted .float64 Binary64.infinity)]
  | .fieldRange => [
    .leaf ⟨1, "min"⟩ (.present .column),
    .leaf ⟨2, "max"⟩ (.present .column)]
  -- Requests
  | .searchQuery => [
    .leaf ⟨1, "offset"⟩ (.optional .int32),
    .leaf ⟨2, "limit"⟩ (.optional .int32),
    .child ⟨3, "query"⟩ (.node .query) false,
    .child ⟨4, "collapse"⟩ (.message .collapse) false,
    .child ⟨5, "sort"⟩ (.message .sort) false,
    .leaf ⟨6, "getTotalCount"⟩ (.defaulted .bool false),
    .leaf ⟨7, "token"⟩ (.optional .bytes),
    .children ⟨8, "aggregations"⟩ (.node .aggregation),
    .children ⟨9, "groupBys"⟩ (.node .groupBy),
    .leaf ⟨10, "highlight"⟩ (.optional .bytes)]
  | .collapse => [
    .leaf ⟨1, "fieldName"⟩ (.required .text)]
  | .scanQuery => [
    .child ⟨1, "query"⟩ (.node .query) false,
    .leaf ⟨2, "limit"⟩ (.optional .int32),
    .leaf ⟨3, "aliveTime"⟩ (.optional .int32),
    .leaf ⟨4, "token"⟩ (.optional .bytes),
    .leaf ⟨5, "currentParallelId"⟩ (.optional .int32),
    .leaf ⟨6, "maxParallel"⟩ (.optional .int32)]
  | .columnsToGet => [
    .leaf ⟨1, "returnType"⟩ (.present (.enum .columnReturnType)),
    .leaf ⟨2, "columnNames"⟩ (.list .text)]
  | .searchRequest => [
    .leaf ⟨1, "tableName"⟩ (.required .text),
    .leaf ⟨2, "indexName"⟩ (.required .text),
    .child ⟨3, "columnsToGet"⟩ (.message .columnsToGet) false,
    .child ⟨4, "searchQuery"⟩ (.message .searchQuery) true,
    .leaf ⟨5, "timeoutMs"⟩ (.optional .int32)]
  | .parallelScanRequest => [
    .leaf ⟨1, "tableName"⟩ (.required .text),
    .leaf ⟨2, "indexName"⟩ (.required .text),
    .child ⟨3, "columnsToGet"⟩ (.message .columnsToGet) false,
    .leaf ⟨4, "sessionId"⟩ (.optional .bytes),
    .child ⟨5, "scanQuery"⟩ (.message .scanQuery) true,
    .leaf ⟨6, "timeoutMs"⟩ (.optional .int32)]

end SearchWire
