import SearchWire.Schema.EnumType
import SearchWire.Schema.MessageType

/-!
# Families

A family is a closed set of alternatives. An alternative is selected by a kind, and the kind fixes
the type of message that holds its content.
-/

namespace SearchWire

/-- The families of expressions. -/
inductive Family
  | query
  | groupBy
  | aggregation
  | sorter
deriving DecidableEq, Repr

namespace Family

/-- The name under which errors speak of a family. -/
def name : Family → String
  | query => "Query"
  | groupBy => "GroupBy"
  | aggregation => "Aggregation"
  | sorter => "Sorter"

/-- The enumeration of the kinds of a family. -/
abbrev kinds : Family → EnumType
  | query => .queryKind
  | groupBy => .groupByKind
  | aggregation => .aggregationKind
  | sorter => .sorterKind

/-- The kinds of a family. -/
abbrev Kind (f : Family) : Type := f.kinds.Value

end Family

/-- The message that holds the content of a query. -/
def QueryKind.payload : QueryKind → MessageType
  | matchText => .matchQuery
  | matchPhrase => .matchPhraseQuery
  | term => .termQuery
  | range => .rangeQuery
  | startsWith => .prefixQuery
  | bool => .boolQuery
  | constScore => .constScoreQuery
  | functionScore => .functionScoreQuery
  | functionsScore => .functionsScoreQuery
  | nested => .nestedQuery
  | wildcard => .wildcardQuery
  | matchAll => .matchAllQuery
  | geoBoundingBox => .geoBoundingBoxQuery
  | geoDistance => .geoDistanceQuery
  | geoPolygon => .geoPolygonQuery
  | terms => .termsQuery
  | fieldExists => .existsQuery
  | knnVector => .knnVectorQuery
  | endsWith => .suffixQuery

/-- The message that holds the content of a group-by. -/
def GroupByKind.payload : GroupByKind → MessageType
  | field => .groupByField
  | filter => .groupByFilter
  | range => .groupByRange
  | histogram => .groupByHistogram
  | dateHistogram => .groupByDateHistogram
  | composite => .groupByComposite
  | geoDistance => .groupByGeoDistance
  | geoGrid => .groupByGeoGrid

/-- The message that holds the content of an aggregation. -/
def AggregationKind.payload : AggregationKind → MessageType
  | avg => .avgAggregation
  | count => .countAggregation
  | max => .maxAggregation
  | min => .minAggregation
  | sum => .sumAggregation
  | distinctCount => .distinctCountAggregation
  | percentiles => .percentilesAggregation
  | topRows => .topRowsAggregation

/-- The message that holds the content of a sorter. -/
def SorterKind.payload : SorterKind → MessageType
  | field => .fieldSort
  | geoDistance => .geoDistanceSort
  | score => .scoreSort
  | primaryKey => .primaryKeySort
  | doc => .docSort

/-- The message that holds the content of a node of the given kind. -/
def Family.payload : (f : Family) → f.Kind → MessageType
  | query => QueryKind.payload
  | groupBy => GroupByKind.payload
  | aggregation => AggregationKind.payload
  | sorter => SorterKind.payload

/-- The message that holds a decay parameter. -/
def DecayParamKind.payload : DecayParamKind → MessageType
  | date => .dateDecayParam
  | numeric => .numericDecayParam
  | geo => .geoDecayParam

/-- What the buckets of a group-by are ordered by. -/
inductive CriterionKind
  | groupKey
  | rowCount
  | subAggregation
deriving DecidableEq, Repr

/-- The message that holds a criterion for buckets. -/
def CriterionKind.payload : CriterionKind → MessageType
  | groupKey => .groupKeySort
  | rowCount => .rowCountSort
  | subAggregation => .subAggregationSort

end SearchWire
