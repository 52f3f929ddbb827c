import SearchWire.Enum.Basic

/-!
# Kinds

The kind of a value says which of the alternatives of its family it is: which query, group-by,
aggregation, sorter or decay parameter.
-/

namespace SearchWire

/-- The kinds of queries. -/
inductive QueryKind
  /-- Tokens of a text, in any order. -/
  | matchText
  /-- Tokens of a text, in their order. -/
  | matchPhrase
  | term
  | range
  | startsWith
  | bool
  /-- A filter whose hits all score the same. -/
  | constScore
  /-- A score that one field value scales. -/
  | functionScore
  /-- A score that several functions change. -/
  | functionsScore
  | nested
  | wildcard
  /-- Every row. -/
  | matchAll
  | geoBoundingBox
  | geoDistance
  | geoPolygon
  /-- Any of several terms. -/
  | terms
  /-- Rows in which a field has a value. -/
  | fieldExists
  /-- The nearest neighbours of a vector. -/
  | knnVector
  | endsWith
deriving DecidableEq, Repr

instance : WireEnum QueryKind where
  title := "QueryType"
  values := [.matchText, .matchPhrase, .term, .range, .startsWith, .bool, .constScore,
    .functionScore, .functionsScore, .nested, .wildcard, .matchAll, .geoBoundingBox, .geoDistance,
    .geoPolygon, .terms, .fieldExists, .knnVector, .endsWith]
  entry
    | .matchText => ⟨"Match", "Match", 1⟩
    | .matchPhrase => ⟨"MatchPhrase", "MatchPhrase", 2⟩
    | .term => ⟨"Term", "Term", 3⟩
    | .range => ⟨"Range", "Range", 4⟩
    | .startsWith => ⟨"Prefix", "Prefix", 5⟩
    | .bool => ⟨"Bool", "Bool", 6⟩
    | .constScore => ⟨"ConstScore", "ConstScore", 7⟩
    | .functionScore => ⟨"FunctionScore", "FunctionScore", 8⟩
    | .functionsScore => ⟨"FunctionsScore", "FunctionsScore", 18⟩
    | .nested => ⟨"Nested", "Nested", 9⟩
    | .wildcard => ⟨"Wildcard", "Wildcard", 10⟩
    | .matchAll => ⟨"MatchAll", "MatchAll", 11⟩
    | .geoBoundingBox => ⟨"GeoBoundingBox", "GeoBoundingBox", 12⟩
    | .geoDistance => ⟨"GeoDistance", "GeoDistance", 13⟩
    | .geoPolygon => ⟨"GeoPolygon", "GeoPolygon", 14⟩
    | .terms => ⟨"Terms", "Terms", 15⟩
    | .fieldExists => ⟨"Exists", "Exists", 16⟩
    | .knnVector => ⟨"KnnVector", "KnnVector", 17⟩
    | .endsWith => ⟨"Suffix", "Suffix", 19⟩

/-- The kinds of group-bys. -/
inductive GroupByKind
  | field
  | filter
  | range
  /-- Buckets of one width. -/
  | histogram
  /-- Buckets of calendar time. -/
  | dateHistogram
  /-- Combinations of several group-bys. -/
  | composite
  /-- Rings around a point. -/
  | geoDistance
  /-- Geohash cells. -/
  | geoGrid
deriving DecidableEq, Repr

instance : WireEnum GroupByKind where
  title := "GroupByType"
  values := [.field, .filter, .range, .histogram, .dateHistogram, .composite, .geoDistance,
    .geoGrid]
  entry
    | .field => ⟨"Field", "Field", 1⟩
    | .filter => ⟨"Filter", "Filter", 3⟩
    | .range => ⟨"Range", "Range", 2⟩
    | .histogram => ⟨"Histogram", "Histogram", 5⟩
    | .dateHistogram => ⟨"DateHistogram", "DateHistogram", 6⟩
    | .composite => ⟨"Composite", "Composite", 8⟩
    | .geoDistance => ⟨"GeoDistance", "GeoDistance", 4⟩
    | .geoGrid => ⟨"GeoGrid", "GeoGrid", 7⟩

/-- The kinds of aggregations. -/
inductive AggregationKind
  | avg
  | count
  | max
  | min
  | sum
  | distinctCount
  | percentiles
  /-- The first rows of each bucket. -/
  | topRows
deriving DecidableEq, Repr

instance : WireEnum AggregationKind where
  title := "AggregationType"
  values := [.avg, .count, .max, .min, .sum, .distinctCount, .percentiles, .topRows]
  entry
    | .avg => ⟨"Avg", "Avg", 1⟩
    | .count => ⟨"Count", "Count", 5⟩
    | .max => ⟨"Max", "Max", 2⟩
    | .min => ⟨"Min", "Min", 3⟩
    | .sum => ⟨"Sum", "Sum", 4⟩
    | .distinctCount => ⟨"DistinctCount", "DistinctCount", 6⟩
    | .percentiles => ⟨"Percentiles", "Percentiles", 8⟩
    | .topRows => ⟨"TopRows", "TopRows", 7⟩

/-- The kinds of sorters. -/
inductive SorterKind
  | field
  | geoDistance
  | score
  | primaryKey
  /-- The order in which the index holds the rows. -/
  | doc
deriving DecidableEq, Repr

instance : WireEnum SorterKind where
  title := "SorterType"
  values := [.field, .geoDistance, .score, .primaryKey, .doc]
  entry
    | .field => ⟨"Field", "Field", 1⟩
    | .geoDistance => ⟨"GeoDistance", "GeoDistance", 2⟩
    | .score => ⟨"Score", "Score", 3⟩
    | .primaryKey => ⟨"PrimaryKey", "PrimaryKey", 4⟩
    | .doc => ⟨"Doc", "Doc", 5⟩

/-- The kinds of decay parameters. -/
inductive DecayParamKind
  | date
  | numeric
  | geo
deriving DecidableEq, Repr

instance : WireEnum DecayParamKind where
  title := "DecayFuncParamType"
  values := [.date, .numeric, .geo]
  entry
    | .date => ⟨"Date", "date", 1⟩
    | .numeric => ⟨"Numeric", "numeric", 2⟩
    | .geo => ⟨"Geo", "geo", 3⟩

end SearchWire
