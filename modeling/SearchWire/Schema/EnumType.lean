import SearchWire.Enum.Kind
import SearchWire.Enum.Ordering
import SearchWire.Enum.Scoring
import SearchWire.Enum.Unit

/-!
# The enumerations of the schema

A name for each enumeration that a field can hold, so that layouts can speak of them.
-/

namespace SearchWire

/-- The enumerations that have codes on the wire. -/
inductive EnumType
  | queryKind
  | groupByKind
  | aggregationKind
  | sorterKind
  | decayParamKind
  | queryOperator
  | scoreMode
  | functionScoreMode
  | functionCombineMode
  | fieldValueFactorModifier
  | decayMathFunction
  | multiValueMode
  | sortOrder
  | sortMode
  | geoDistanceType
  | dateTimeUnit
  | geoHashPrecision
  | columnReturnType
deriving DecidableEq, Repr

namespace EnumType

/-- The values of an enumeration. -/
abbrev Value : EnumType → Type
  | queryKind => QueryKind
  | groupByKind => GroupByKind
  | aggregationKind => AggregationKind
  | sorterKind => SorterKind
  | decayParamKind => DecayParamKind
  | queryOperator => QueryOperator
  | scoreMode => ScoreMode
  | functionScoreMode => FunctionScoreMode
  | functionCombineMode => FunctionCombineMode
  | fieldValueFactorModifier => FieldValueFactorModifier
  | decayMathFunction => DecayMathFunction
  | multiValueMode => MultiValueMode
  | sortOrder => SortOrder
  | sortMode => SortMode
  | geoDistanceType => GeoDistanceType
  | dateTimeUnit => DateTimeUnit
  | geoHashPrecision => GeoHashPrecision
  | columnReturnType => ColumnReturnType

instance : (e : EnumType) → DecidableEq e.Value
  | queryKind => inferInstanceAs (DecidableEq QueryKind)
  | groupByKind => inferInstanceAs (DecidableEq GroupByKind)
  | aggregationKind => inferInstanceAs (DecidableEq AggregationKind)
  | sorterKind => inferInstanceAs (DecidableEq SorterKind)
  | decayParamKind => inferInstanceAs (DecidableEq DecayParamKind)
  | queryOperator => inferInstanceAs (DecidableEq QueryOperator)
  | scoreMode => inferInstanceAs (DecidableEq ScoreMode)
  | functionScoreMode => inferInstanceAs (DecidableEq FunctionScoreMode)
  | functionCombineMode => inferInstanceAs (DecidableEq FunctionCombineMode)
  | fieldValueFactorModifier => inferInstanceAs (DecidableEq FieldValueFactorModifier)
  | decayMathFunction => inferInstanceAs (DecidableEq DecayMathFunction)
  | multiValueMode => inferInstanceAs (DecidableEq MultiValueMode)
  | sortOrder => inferInstanceAs (DecidableEq SortOrder)
  | sortMode => inferInstanceAs (DecidableEq SortMode)
  | geoDistanceType => inferInstanceAs (DecidableEq GeoDistanceType)
  | dateTimeUnit => inferInstanceAs (DecidableEq DateTimeUnit)
  | geoHashPrecision => inferInstanceAs (DecidableEq GeoHashPrecision)
  | columnReturnType => inferInstanceAs (DecidableEq ColumnReturnType)

instance : (e : EnumType) → WireEnum e.Value
  | queryKind => inferInstanceAs (WireEnum QueryKind)
  | groupByKind => inferInstanceAs (WireEnum GroupByKind)
  | aggregationKind => inferInstanceAs (WireEnum AggregationKind)
  | sorterKind => inferInstanceAs (WireEnum SorterKind)
  | decayParamKind => inferInstanceAs (WireEnum DecayParamKind)
  | queryOperator => inferInstanceAs (WireEnum QueryOperator)
  | scoreMode => inferInstanceAs (WireEnum ScoreMode)
  | functionScoreMode => inferInstanceAs (WireEnum FunctionScoreMode)
  | functionCombineMode => inferInstanceAs (WireEnum FunctionCombineMode)
  | fieldValueFactorModifier => inferInstanceAs (WireEnum FieldValueFactorModifier)
  | decayMathFunction => inferInstanceAs (WireEnum DecayMathFunction)
  | multiValueMode => inferInstanceAs (WireEnum MultiValueMode)
  | sortOrder => inferInstanceAs (WireEnum SortOrder)
  | sortMode => inferInstanceAs (WireEnum SortMode)
  | geoDistanceType => inferInstanceAs (WireEnum GeoDistanceType)
  | dateTimeUnit => inferInstanceAs (WireEnum DateTimeUnit)
  | geoHashPrecision => inferInstanceAs (WireEnum GeoHashPrecision)
  | columnReturnType => inferInstanceAs (WireEnum ColumnReturnType)

/-- The name under which errors speak of an enumeration. -/
def title (e : EnumType) : String := WireEnum.title e.Value

end EnumType

end SearchWire
