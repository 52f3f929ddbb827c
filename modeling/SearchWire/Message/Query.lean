import SearchWire.Message.Quantity

/-!
# Queries

A query selects rows and gives each of them a score.
-/

namespace SearchWire

/-- Every row. -/
structure MatchAllQuery where

namespace MatchAllQuery

/-- The message with these fields. -/
def toMessage (_ : MatchAllQuery) : Message .matchAllQuery := .record .nil

/-- The fields of a message. -/
def ofMessage : Message .matchAllQuery → MatchAllQuery
  | .record .nil => ⟨⟩

@[simp] theorem ofMessage_toMessage (x : MatchAllQuery) : ofMessage x.toMessage = x :=
  rfl

instance : Coe MatchAllQuery Query := ⟨fun x => .node QueryKind.matchAll x.toMessage⟩

end MatchAllQuery

/-- The tokens of a text, in any order. -/
structure MatchQuery where
  fieldName : Option String := none
  text : Option String := none
  minimumShouldMatch : Option Int32 := none
  operator : Option QueryOperator := none
  weight : Weight := .unset

namespace MatchQuery

/-- The message with these fields. -/
def toMessage (x : MatchQuery) : Message .matchQuery :=
  .record <|
    .cons (.leaf x.fieldName) <|
    .cons (.leaf x.text) <|
    .cons (.leaf x.minimumShouldMatch) <|
    .cons (.leaf x.operator) <|
    .cons (.leaf x.weight) <|
    .nil

/-- The fields of a message. -/
def ofMessage : Message .matchQuery → MatchQuery
  | .record (.cons (.leaf fieldName) (.cons (.leaf text) (.cons (.leaf minimumShouldMatch) (.cons
    (.leaf operator) (.cons (.leaf weight) .nil))))) =>
    ⟨fieldName, text, minimumShouldMatch, operator, weight⟩

@[simp] theorem ofMessage_toMessage (x : MatchQuery) : ofMessage x.toMessage = x :=
  rfl

/-- The rows whose field has a token of a text. -/
def of (fieldName text : String) : MatchQuery :=
  { fieldName, text }

instance : Coe MatchQuery Query := ⟨fun x => .node QueryKind.matchText x.toMessage⟩

end MatchQuery

/-- The tokens of a text, in their order. -/
structure MatchPhraseQuery where
  fieldName : Option String := none
  text : Option String := none
  weight : Weight := .unset

namespace MatchPhraseQuery

/-- The message with these fields. -/
def toMessage (x : MatchPhraseQuery) : Message .matchPhraseQuery :=
  .record <|
    .cons (.leaf x.fieldName) <|
    .cons (.leaf x.text) <|
    .cons (.leaf x.weight) <|
    .nil

/-- The fields of a message. -/
def ofMessage : Message .matchPhraseQuery → MatchPhraseQuery
  | .record (.cons (.leaf fieldName) (.cons (.leaf text) (.cons (.leaf weight) .nil))) =>
    ⟨fieldName, text, weight⟩

@[simp] theorem ofMessage_toMessage (x : MatchPhraseQuery) : ofMessage x.toMessage = x :=
  rfl

/-- The rows whose field has the tokens of a text. -/
def of (fieldName text : String) : MatchPhraseQuery :=
  { fieldName, text }

instance : Coe MatchPhraseQuery Query := ⟨fun x => .node QueryKind.matchPhrase x.toMessage⟩

end MatchPhraseQuery

/-- One exact value. -/
structure TermQuery where
  fieldName : Option String := none
  term : Option ColumnValue := none
  weight : Weight := .unset

namespace TermQuery

/-- The message with these fields. -/
def toMessage (x : TermQuery) : Message .termQuery :=
  .record <|
    .cons (.leaf x.fieldName) <|
    .cons (.leaf x.term) <|
    .cons (.leaf x.weight) <|
    .nil

/-- The fields of a message. -/
def ofMessage : Message .termQuery → TermQuery
  | .record (.cons (.leaf fieldName) (.cons (.leaf term) (.cons (.leaf weight) .nil))) =>
    ⟨fieldName, term, weight⟩

@[simp] theorem ofMessage_toMessage (x : TermQuery) : ofMessage x.toMessage = x :=
  rfl

/-- The rows whose field has a value. -/
def of (fieldName : String) (term : ColumnValue) : TermQuery :=
  { fieldName, term }

instance : Coe TermQuery Query := ⟨fun x => .node QueryKind.term x.toMessage⟩

end TermQuery

/-- Any of several exact values. -/
structure TermsQuery where
  fieldName : Option String := none
  terms : Option (List ColumnValue) := none
  weight : Weight := .unset

namespace TermsQuery

/-- The message with these fields. -/
def toMessage (x : TermsQuery) : Message .termsQuery :=
  .record <|
    .cons (.leaf x.fieldName) <|
    .cons (.leaf x.terms) <|
    .cons (.leaf x.weight) <|
    .nil

/-- The fields of a message. -/
def ofMessage : Message .termsQuery → TermsQuery
  | .record (.cons (.leaf fieldName) (.cons (.leaf terms) (.cons (.leaf weight) .nil))) =>
    ⟨fieldName, terms, weight⟩

@[simp] theorem ofMessage_toMessage (x : TermsQuery) : ofMessage x.toMessage = x :=
  rfl

/-- The rows whose field has one of several values. -/
def of (fieldName : String) (terms : List ColumnValue) : TermsQuery :=
  { fieldName, terms }

instance : Coe TermsQuery Query := ⟨fun x => .node QueryKind.terms x.toMessage⟩

end TermsQuery

/-- The values between two bounds. -/
structure RangeQuery where
  fieldName : Option String := none
  lower : Option ColumnValue := none
  upper : Option ColumnValue := none
  includeLower : Bool := false
  includeUpper : Bool := false

namespace RangeQuery

/-- The message with these fields. -/
def toMessage (x : RangeQuery) : Message .rangeQuery :=
  .record <|
    .cons (.leaf x.fieldName) <|
    .cons (.leaf x.lower) <|
    .cons (.leaf x.upper) <|
    .cons (.leaf x.includeLower) <|
    .cons (.leaf x.includeUpper) <|
    .nil

/-- The fields of a message. -/
def ofMessage : Message .rangeQuery → RangeQuery
  | .record (.cons (.leaf fieldName) (.cons (.leaf lower) (.cons (.leaf upper) (.cons (.leaf
    includeLower) (.cons (.leaf includeUpper) .nil))))) =>
    ⟨fieldName, lower, upper, includeLower, includeUpper⟩

@[simp] theorem ofMessage_toMessage (x : RangeQuery) : ofMessage x.toMessage = x :=
  rfl

/-- The rows whose field lies in a half-open interval, the lower bound included. -/
def halfOpen (fieldName : String) (lower upper : ColumnValue) : RangeQuery :=
  { fieldName, lower, upper, includeLower := true }

/-- The rows whose field lies above a bound. -/
def above (fieldName : String) (lower : ColumnValue) : RangeQuery :=
  { fieldName, lower }

/-- The rows whose field lies below a bound. -/
def below (fieldName : String) (upper : ColumnValue) : RangeQuery :=
  { fieldName, upper }

instance : Coe RangeQuery Query := ⟨fun x => .node QueryKind.range x.toMessage⟩

end RangeQuery

/-- The texts that start in one way. -/
structure PrefixQuery where
  fieldName : Option String := none
  start : Option String := none
  weight : Weight := .unset

namespace PrefixQuery

/-- The message with these fields. -/
def toMessage (x : PrefixQuery) : Message .prefixQuery :=
  .record <|
    .cons (.leaf x.fieldName) <|
    .cons (.leaf x.start) <|
    .cons (.leaf x.weight) <|
    .nil

/-- The fields of a message. -/
def ofMessage : Message .prefixQuery → PrefixQuery
  | .record (.cons (.leaf fieldName) (.cons (.leaf start) (.cons (.leaf weight) .nil))) =>
    ⟨fieldName, start, weight⟩

@[simp] theorem ofMessage_toMessage (x : PrefixQuery) : ofMessage x.toMessage = x :=
  rfl

/-- The rows whose field starts with a text. -/
def of (fieldName start : String) : PrefixQuery :=
  { fieldName, start }

instance : Coe PrefixQuery Query := ⟨fun x => .node QueryKind.startsWith x.toMessage⟩

end PrefixQuery

/-- The texts that end in one way. -/
structure SuffixQuery where
  fieldName : Option String := none
  ending : Option String := none
  weight : Weight := .unset

namespace SuffixQuery

/-- The message with these fields. -/
def toMessage (x : SuffixQuery) : Message .suffixQuery :=
  .record <|
    .cons (.leaf x.fieldName) <|
    .cons (.leaf x.ending) <|
    .cons (.leaf x.weight) <|
    .nil

/-- The fields of a message. -/
def ofMessage : Message .suffixQuery → SuffixQuery
  | .record (.cons (.leaf fieldName) (.cons (.leaf ending) (.cons (.leaf weight) .nil))) =>
    ⟨fieldName, ending, weight⟩

@[simp] theorem ofMessage_toMessage (x : SuffixQuery) : ofMessage x.toMessage = x :=
  rfl

/-- The rows whose field ends with a text. -/
def of (fieldName ending : String) : SuffixQuery :=
  { fieldName, ending }

instance : Coe SuffixQuery Query := ⟨fun x => .node QueryKind.endsWith x.toMessage⟩

end SuffixQuery

/-- The texts of one pattern. -/
structure WildcardQuery where
  fieldName : Option String := none
  pattern : Option String := none
  weight : Weight := .unset

namespace WildcardQuery

/-- The message with these fields. -/
def toMessage (x : WildcardQuery) : Message .wildcardQuery :=
  .record <|
    .cons (.leaf x.fieldName) <|
    .cons (.leaf x.pattern) <|
    .cons (.leaf x.weight) <|
    .nil

/-- The fields of a message. -/
def ofMessage : Message .wildcardQuery → WildcardQuery
  | .record (.cons (.leaf fieldName) (.cons (.leaf pattern) (.cons (.leaf weight) .nil))) =>
    ⟨fieldName, pattern, weight⟩

@[simp] theorem ofMessage_toMessage (x : WildcardQuery) : ofMessage x.toMessage = x :=
  rfl

/-- The rows whose field is of a pattern. -/
def of (fieldName pattern : String) : WildcardQuery :=
  { fieldName, pattern }

instance : Coe WildcardQuery Query := ⟨fun x => .node QueryKind.wildcard x.toMessage⟩

end WildcardQuery

/-- The rows in which a field has a value. -/
structure ExistsQuery where
  fieldName : Option String := none

namespace ExistsQuery

/-- The message with these fields. -/
def toMessage (x : ExistsQuery) : Message .existsQuery :=
  .record <|
    .cons (.leaf x.fieldName) <|
    .nil

/-- The fields of a message. -/
def ofMessage : Message .existsQuery → ExistsQuery
  | .record (.cons (.leaf fieldName) .nil) =>
    ⟨fieldName⟩

@[simp] theorem ofMessage_toMessage (x : ExistsQuery) : ofMessage x.toMessage = x :=
  rfl

/-- The rows in which a field has a value. -/
def of (fieldName : String) : ExistsQuery :=
  { fieldName }

instance : Coe ExistsQuery Query := ⟨fun x => .node QueryKind.fieldExists x.toMessage⟩

end ExistsQuery

/-- A combination of queries. -/
structure BoolQuery where
  must : List Query := []
  mustNot : List Query := []
  filter : List Query := []
  should : List Query := []
  minimumShouldMatch : Option Int32 := none

namespace BoolQuery

/-- The message with these fields. -/
def toMessage (x : BoolQuery) : Message .boolQuery :=
  .record <|
    .cons (.ofChildren x.must) <|
    .cons (.ofChildren x.mustNot) <|
    .cons (.ofChildren x.filter) <|
    .cons (.ofChildren x.should) <|
    .cons (.leaf x.minimumShouldMatch) <|
    .nil

/-- The fields of a message. -/
def ofMessage : Message .boolQuery → BoolQuery
  | .record (.cons must (.cons mustNot (.cons filter (.cons should (.cons (.leaf
    minimumShouldMatch) .nil))))) =>
    ⟨must.toChildren, mustNot.toChildren, filter.toChildren, should.toChildren,
      minimumShouldMatch⟩

@[simp] theorem ofMessage_toMessage (x : BoolQuery) : ofMessage x.toMessage = x := by
  simp [toMessage, ofMessage]

instance : Coe BoolQuery Query := ⟨fun x => .node QueryKind.bool x.toMessage⟩

end BoolQuery

/-- A filter whose hits all score the same. -/
structure ConstScoreQuery where
  filter : Option Query := none

namespace ConstScoreQuery

/-- The message with these fields. -/
def toMessage (x : ConstScoreQuery) : Message .constScoreQuery :=
  .record <|
    .cons (.ofOption x.filter) <|
    .nil

/-- The fields of a message. -/
def ofMessage : Message .constScoreQuery → ConstScoreQuery
  | .record (.cons filter .nil) =>
    ⟨filter.toOption⟩

@[simp] theorem ofMessage_toMessage (x : ConstScoreQuery) : ofMessage x.toMessage = x := by
  simp [toMessage, ofMessage]

/-- The hits of a filter, all with the same score. -/
def of (filter : Query) : ConstScoreQuery :=
  { filter }

instance : Coe ConstScoreQuery Query := ⟨fun x => .node QueryKind.constScore x.toMessage⟩

end ConstScoreQuery

/-- A query over the documents nested in a row. -/
structure NestedQuery where
  path : Option String := none
  query : Option Query := none
  scoreMode : Option ScoreMode := none
  weight : Weight := .unset
  innerHits : Option (Message .innerHits) := none

namespace NestedQuery

/-- The message with these fields. -/
def toMessage (x : NestedQuery) : Message .nestedQuery :=
  .record <|
    .cons (.leaf x.path) <|
    .cons (.ofOption x.query) <|
    .cons (.leaf x.scoreMode) <|
    .cons (.leaf x.weight) <|
    .cons (.ofOption x.innerHits) <|
    .nil

/-- The fields of a message. -/
def ofMessage : Message .nestedQuery → NestedQuery
  | .record (.cons (.leaf path) (.cons query (.cons (.leaf scoreMode) (.cons (.leaf weight) (.cons
    innerHits .nil))))) =>
    ⟨path, query.toOption, scoreMode, weight, innerHits.toOption⟩

@[simp] theorem ofMessage_toMessage (x : NestedQuery) : ofMessage x.toMessage = x := by
  simp [toMessage, ofMessage]

/-- The rows with nested documents that a query finds. -/
def of (path : String) (query : Query) (scoreMode : ScoreMode) : NestedQuery :=
  { path, query, scoreMode }

instance : Coe NestedQuery Query := ⟨fun x => .node QueryKind.nested x.toMessage⟩

end NestedQuery

/-- Which of the nested hits are returned. -/
structure InnerHits where
  sort : Option (Message .sort) := none
  offset : Option Int32 := none
  limit : Option Int32 := none
  highlight : Option Bytes := none

namespace InnerHits

/-- The message with these fields. -/
def toMessage (x : InnerHits) : Message .innerHits :=
  .record <|
    .cons (.ofOption x.sort) <|
    .cons (.leaf x.offset) <|
    .cons (.leaf x.limit) <|
    .cons (.leaf x.highlight) <|
    .nil

/-- The fields of a message. -/
def ofMessage : Message .innerHits → InnerHits
  | .record (.cons sort (.cons (.leaf offset) (.cons (.leaf limit) (.cons (.leaf highlight)
    .nil)))) =>
    ⟨sort.toOption, offset, limit, highlight⟩

@[simp] theorem ofMessage_toMessage (x : InnerHits) : ofMessage x.toMessage = x := by
  simp [toMessage, ofMessage]

end InnerHits

/-- The points in a rectangle. -/
structure GeoBoundingBoxQuery where
  fieldName : Option String := none
  topLeft : Option String := none
  bottomRight : Option String := none

namespace GeoBoundingBoxQuery

/-- The message with these fields. -/
def toMessage (x : GeoBoundingBoxQuery) : Message .geoBoundingBoxQuery :=
  .record <|
    .cons (.leaf x.fieldName) <|
    .cons (.leaf x.topLeft) <|
    .cons (.leaf x.bottomRight) <|
    .nil

/-- The fields of a message. -/
def ofMessage : Message .geoBoundingBoxQuery → GeoBoundingBoxQuery
  | .record (.cons (.leaf fieldName) (.cons (.leaf topLeft) (.cons (.leaf bottomRight) .nil))) =>
    ⟨fieldName, topLeft, bottomRight⟩

@[simp] theorem ofMessage_toMessage (x : GeoBoundingBoxQuery) : ofMessage x.toMessage = x :=
  rfl

/-- The rows whose point lies in a rectangle. -/
def of (fieldName topLeft bottomRight : String) : GeoBoundingBoxQuery :=
  { fieldName, topLeft, bottomRight }

instance : Coe GeoBoundingBoxQuery Query := ⟨fun x => .node QueryKind.geoBoundingBox x.toMessage⟩

end GeoBoundingBoxQuery

/-- The points in a circle. -/
structure GeoDistanceQuery where
  fieldName : Option String := none
  centerPoint : Option String := none
  metres : Option Binary64 := none

namespace GeoDistanceQuery

/-- The message with these fields. -/
def toMessage (x : GeoDistanceQuery) : Message .geoDistanceQuery :=
  .record <|
    .cons (.leaf x.fieldName) <|
    .cons (.leaf x.centerPoint) <|
    .cons (.leaf x.metres) <|
    .nil

/-- The fields of a message. -/
def ofMessage : Message .geoDistanceQuery → GeoDistanceQuery
  | .record (.cons (.leaf fieldName) (.cons (.leaf centerPoint) (.cons (.leaf metres) .nil))) =>
    ⟨fieldName, centerPoint, metres⟩

@[simp] theorem ofMessage_toMessage (x : GeoDistanceQuery) : ofMessage x.toMessage = x :=
  rfl

/-- The rows whose point lies in a circle. -/
def of (fieldName centerPoint : String) (metres : Binary64) : GeoDistanceQuery :=
  { fieldName, centerPoint, metres }

instance : Coe GeoDistanceQuery Query := ⟨fun x => .node QueryKind.geoDistance x.toMessage⟩

end GeoDistanceQuery

/-- The points in a polygon. -/
structure GeoPolygonQuery where
  fieldName : Option String := none
  points : Option (List String) := none

namespace GeoPolygonQuery

/-- The message with these fields. -/
def toMessage (x : GeoPolygonQuery) : Message .geoPolygonQuery :=
  .record <|
    .cons (.leaf x.fieldName) <|
    .cons (.leaf x.points) <|
    .nil

/-- The fields of a message. -/
def ofMessage : Message .geoPolygonQuery → GeoPolygonQuery
  | .record (.cons (.leaf fieldName) (.cons (.leaf points) .nil)) =>
    ⟨fieldName, points⟩

@[simp] theorem ofMessage_toMessage (x : GeoPolygonQuery) : ofMessage x.toMessage = x :=
  rfl

/-- The rows whose point lies in a polygon. -/
def of (fieldName : String) (points : List String) : GeoPolygonQuery :=
  { fieldName, points }

instance : Coe GeoPolygonQuery Query := ⟨fun x => .node QueryKind.geoPolygon x.toMessage⟩

end GeoPolygonQuery

/-- The nearest neighbours of a vector. -/
structure KnnVectorQuery where
  fieldName : Option String := none
  topK : Option Int32 := none
  queryVector : Option (List Binary32) := none
  filter : Option Query := none
  weight : Weight := .unset

namespace KnnVectorQuery

/-- The message with these fields. -/
def toMessage (x : KnnVectorQuery) : Message .knnVectorQuery :=
  .record <|
    .cons (.leaf x.fieldName) <|
    .cons (.leaf x.topK) <|
    .cons (.leaf x.queryVector) <|
    .cons (.ofOption x.filter) <|
    .cons (.leaf x.weight) <|
    .nil

/-- The fields of a message. -/
def ofMessage : Message .knnVectorQuery → KnnVectorQuery
  | .record (.cons (.leaf fieldName) (.cons (.leaf topK) (.cons (.leaf queryVector) (.cons filter
    (.cons (.leaf weight) .nil))))) =>
    ⟨fieldName, topK, queryVector, filter.toOption, weight⟩

@[simp] theorem ofMessage_toMessage (x : KnnVectorQuery) : ofMessage x.toMessage = x := by
  simp [toMessage, ofMessage]

/-- The rows whose vector is among the nearest to a vector. -/
def of (fieldName : String) (topK : Int32) (queryVector : List Binary32) : KnnVectorQuery :=
  { fieldName, topK, queryVector }

instance : Coe KnnVectorQuery Query := ⟨fun x => .node QueryKind.knnVector x.toMessage⟩

end KnnVectorQuery

/-- The query for every row. -/
def Query.matchAll : Query := MatchAllQuery.mk

end SearchWire
