import SearchWire.Enum.Basic

/-!
# Ordering options

How rows are ordered, and which columns of them are returned.
-/

namespace SearchWire

/-- The direction of a sort. -/
inductive SortOrder
  | asc
  | desc
deriving DecidableEq, Repr

instance : WireEnum SortOrder where
  title := "SortOrder"
  values := [.asc, .desc]
  entry
    | .asc => ⟨"Asc", "asc", 0⟩
    | .desc => ⟨"Desc", "desc", 1⟩

/-- Which of the values of a field a sorter compares. -/
inductive SortMode
  | min
  | max
  | avg
deriving DecidableEq, Repr

instance : WireEnum SortMode where
  title := "SortMode"
  values := [.min, .max, .avg]
  entry
    | .min => ⟨"Min", "min", 0⟩
    | .max => ⟨"Max", "max", 1⟩
    | .avg => ⟨"Avg", "avg", 2⟩

/-- How the distance of two points is measured: along the great circle, or in the plane. -/
inductive GeoDistanceType
  | arc
  | plane
deriving DecidableEq, Repr

instance : WireEnum GeoDistanceType where
  title := "GeoDistanceType"
  values := [.arc, .plane]
  entry
    | .arc => ⟨"Arc", "arc", 0⟩
    | .plane => ⟨"Plane", "plane", 1⟩

/-- Which columns a search returns; none leaves the primary key alone. -/
inductive ColumnReturnType
  | all
  | specified
  | none
  | allFromIndex
deriving DecidableEq, Repr

instance : WireEnum ColumnReturnType where
  title := "ColumnReturnType"
  values := [.all, .specified, .none, .allFromIndex]
  entry
    | .all => ⟨"All", "all", 1⟩
    | .specified => ⟨"Specified", "specified", 2⟩
    | .none => ⟨"None", "none", 3⟩
    | .allFromIndex => ⟨"AllFromIndex", "all_from_index", 4⟩

end SearchWire
