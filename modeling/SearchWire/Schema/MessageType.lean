/-!
# Message types

The types of messages that search expressions and requests are made of. A message is a record of
slots; which slots a type has is laid out in `SearchWire.Schema.Layout`.
-/

namespace SearchWire

/-- The types of messages. -/
inductive MessageType
  /-- Every row. -/
  | matchAllQuery
  /-- The tokens of a text, in any order. -/
  | matchQuery
  /-- The tokens of a text, in their order. -/
  | matchPhraseQuery
  /-- One exact value. -/
  | termQuery
  /-- Any of several exact values. -/
  | termsQuery
  /-- The values between two bounds. -/
  | rangeQuery
  /-- The texts that start in one way. -/
  | prefixQuery
  /-- The texts that end in one way. -/
  | suffixQuery
  /-- The texts of one pattern. -/
  | wildcardQuery
  /-- The rows in which a field has a value. -/
  | existsQuery
  /-- A combination of queries. -/
  | boolQuery
  /-- A filter whose hits all score the same. -/
  | constScoreQuery
  /-- A query over the documents nested in a row. -/
  | nestedQuery
  /-- Which of the nested hits are returned. -/
  | innerHits
  /-- The points in a rectangle. -/
  | geoBoundingBoxQuery
  /-- The points in a circle. -/
  | geoDistanceQuery
  /-- The points in a polygon. -/
  | geoPolygonQuery
  /-- The nearest neighbours of a vector. -/
  | knnVectorQuery
  /-- A query whose score one field value scales. -/
  | functionScoreQuery
  /-- The field whose value scales a score. -/
  | fieldValueFactor
  /-- A query whose score several functions change. -/
  | functionsScoreQuery
  /-- One function of a score, of one kind at most. -/
  | scoreFunction
  /-- A score from the value of a field. -/
  | fieldValueFactorFunction
  /-- A random score. -/
  | randomScoreFunction
  /-- A score that decays with the distance from an origin. -/
  | decayFunction
  /-- An origin in time, with amounts of time. -/
  | dateDecayParam
  /-- A number as origin, with distances. -/
  | numericDecayParam
  /-- A point as origin, with distances in metres. -/
  | geoDecayParam
  /-- The criteria of an order, the first one first. -/
  | sort
  /-- Order by the values of a field. -/
  | fieldSort
  /-- Order by the distance from points. -/
  | geoDistanceSort
  /-- Order by score. -/
  | scoreSort
  /-- Order by primary key. -/
  | primaryKeySort
  /-- The order in which the index holds the rows. -/
  | docSort
  /-- Which nested documents a sorter looks at. -/
  | nestedFilter
  /-- The mean of a field. -/
  | avgAggregation
  /-- The greatest value of a field. -/
  | maxAggregation
  /-- The least value of a field. -/
  | minAggregation
  /-- The sum of a field. -/
  | sumAggregation
  /-- How many different values a field has. -/
  | distinctCountAggregation
  /-- How many rows have a field. -/
  | countAggregation
  /-- Percentiles of a field. -/
  | percentilesAggregation
  /-- The first rows of a bucket. -/
  | topRowsAggregation
  /-- A bucket for each value of a field. -/
  | groupByField
  /-- A bucket for each filter. -/
  | groupByFilter
  /-- A bucket for each range of numbers. -/
  | groupByRange
  /-- Buckets of one width. -/
  | groupByHistogram
  /-- Buckets of calendar time. -/
  | groupByDateHistogram
  /-- A bucket for each combination of several group-bys. -/
  | groupByComposite
  /-- Rings around a point. -/
  | groupByGeoDistance
  /-- A bucket for each geohash cell. -/
  | groupByGeoGrid
  /-- The criteria of an order of buckets, the first one first. -/
  | groupBySort
  /-- Order buckets by their key. -/
  | groupKeySort
  /-- Order buckets by their size. -/
  | rowCountSort
  /-- Order buckets by one of their aggregations. -/
  | subAggregationSort
  /-- An amount of calendar time. -/
  | dateTimeValue
  /-- A latitude and a longitude in degrees. -/
  | geoPoint
  /-- A range of numbers, unbounded where no bound is given. -/
  | range
  /-- The least and the greatest value of a field. -/
  | fieldRange
  /-- What a search asks of an index. -/
  | searchQuery
  /-- The field whose equal values are merged. -/
  | collapse
  /-- What one worker of a parallel scan asks. -/
  | scanQuery
  /-- Which columns are returned. -/
  | columnsToGet
  /-- A search of one index. -/
  | searchRequest
  /-- A parallel scan of one index. -/
  | parallelScanRequest
deriving DecidableEq, Repr

/-- The name under which errors speak of a message. -/
def MessageType.name : MessageType → String
  | .matchAllQuery => "MatchAllQuery"
  | .matchQuery => "MatchQuery"
  | .matchPhraseQuery => "MatchPhraseQuery"
  | .termQuery => "TermQuery"
  | .termsQuery => "TermsQuery"
  | .rangeQuery => "RangeQuery"
  | .prefixQuery => "PrefixQuery"
  | .suffixQuery => "SuffixQuery"
  | .wildcardQuery => "WildcardQuery"
  | .existsQuery => "ExistsQuery"
  | .boolQuery => "BoolQuery"
  | .constScoreQuery => "ConstScoreQuery"
  | .nestedQuery => "NestedQuery"
  | .innerHits => "InnerHits"
  | .geoBoundingBoxQuery => "GeoBoundingBoxQuery"
  | .geoDistanceQuery => "GeoDistanceQuery"
  | .geoPolygonQuery => "GeoPolygonQuery"
  | .knnVectorQuery => "KnnVectorQuery"
  | .functionScoreQuery => "FunctionScoreQuery"
  | .fieldValueFactor => "FieldValueFactor"
  | .functionsScoreQuery => "FunctionsScoreQuery"
  | .scoreFunction => "Function"
  | .fieldValueFactorFunction => "FieldValueFactorFunction"
  | .randomScoreFunction => "RandomScoreFunction"
  | .decayFunction => "DecayFunction"
  | .dateDecayParam => "DecayFuncDateParam"
  | .numericDecayParam => "DecayFuncNumericParam"
  | .geoDecayParam => "DecayFuncGeoParam"
  | .sort => "Sort"
  | .fieldSort => "FieldSort"
  | .geoDistanceSort => "GeoDistanceSort"
  | .scoreSort => "ScoreSort"
  | .primaryKeySort => "PrimaryKeySort"
  | .docSort => "DocSort"
  | .nestedFilter => "NestedFilter"
  | .avgAggregation => "AvgAggregation"
  | .maxAggregation => "MaxAggregation"
  | .minAggregation => "MinAggregation"
  | .sumAggregation => "SumAggregation"
  | .distinctCountAggregation => "DistinctCountAggregation"
  | .countAggregation => "CountAggregation"
  | .percentilesAggregation => "PercentilesAggregation"
  | .topRowsAggregation => "TopRowsAggregation"
  | .groupByField => "GroupByField"
  | .groupByFilter => "GroupByFilter"
  | .groupByRange => "GroupByRange"
  | .groupByHistogram => "GroupByHistogram"
  | .groupByDateHistogram => "GroupByDateHistogram"
  | .groupByComposite => "GroupByComposite"
  | .groupByGeoDistance => "GroupByGeoDistance"
  | .groupByGeoGrid => "GroupByGeoGrid"
  | .groupBySort => "GroupBySort"
  | .groupKeySort => "GroupKeySort"
  | .rowCountSort => "RowCountSort"
  | .subAggregationSort => "SubAggSort"
  | .dateTimeValue => "DateTimeValue"
  | .geoPoint => "GeoPoint"
  | .range => "Range"
  | .fieldRange => "FieldRange"
  | .searchQuery => "SearchQuery"
  | .collapse => "Collapse"
  | .scanQuery => "ScanQuery"
  | .columnsToGet => "ColumnsToGet"
  | .searchRequest => "SearchRequest"
  | .parallelScanRequest => "ParallelScanRequest"

/-- Every type of message, in the order of declaration. -/
def MessageType.all : List MessageType :=
  [.matchAllQuery, .matchQuery, .matchPhraseQuery, .termQuery, .termsQuery, .rangeQuery,
    .prefixQuery, .suffixQuery, .wildcardQuery, .existsQuery, .boolQuery, .constScoreQuery,
    .nestedQuery, .innerHits, .geoBoundingBoxQuery, .geoDistanceQuery, .geoPolygonQuery,
    .knnVectorQuery, .functionScoreQuery, .fieldValueFactor, .functionsScoreQuery, .scoreFunction,
    .fieldValueFactorFunction, .randomScoreFunction, .decayFunction, .dateDecayParam,
    .numericDecayParam, .geoDecayParam, .sort, .fieldSort, .geoDistanceSort, .scoreSort,
    .primaryKeySort, .docSort, .nestedFilter, .avgAggregation, .maxAggregation, .minAggregation,
    .sumAggregation, .distinctCountAggregation, .countAggregation, .percentilesAggregation,
    .topRowsAggregation, .groupByField, .groupByFilter, .groupByRange, .groupByHistogram,
    .groupByDateHistogram, .groupByComposite, .groupByGeoDistance, .groupByGeoGrid, .groupBySort,
    .groupKeySort, .rowCountSort, .subAggregationSort, .dateTimeValue, .geoPoint, .range,
    .fieldRange, .searchQuery, .collapse, .scanQuery, .columnsToGet, .searchRequest,
    .parallelScanRequest]

theorem MessageType.mem_all (m : MessageType) : m ∈ all := by cases m <;> decide

end SearchWire
