import SearchWire.Enum.Basic

/-!
# Units

Calendar units and geohash cells.
-/

namespace SearchWire

/-- The calendar units of an amount of time. -/
inductive DateTimeUnit
  | year
  | quarterYear
  | month
  | week
  | day
  | hour
  | minute
  | second
  | millisecond
deriving DecidableEq, Repr

instance : WireEnum DateTimeUnit where
  title := "DateTimeUnit"
  values := [.year, .quarterYear, .month, .week, .day, .hour, .minute, .second, .millisecond]
  entry
    | .year => ⟨"Year", "year", 1⟩
    | .quarterYear => ⟨"QuarterYear", "quarter_year", 2⟩
    | .month => ⟨"Month", "month", 3⟩
    | .week => ⟨"Week", "week", 4⟩
    | .day => ⟨"Day", "day", 5⟩
    | .hour => ⟨"Hour", "hour", 6⟩
    | .minute => ⟨"Minute", "minute", 7⟩
    | .second => ⟨"Second", "second", 8⟩
    | .millisecond => ⟨"Millisecond", "millisecond", 9⟩

/-- The cell sizes of a geohash grid, level 1 being the coarsest and level 12 the finest. -/
inductive GeoHashPrecision
  | level1
  | level2
  | level3
  | level4
  | level5
  | level6
  | level7
  | level8
  | level9
  | level10
  | level11
  | level12
deriving DecidableEq, Repr

instance : WireEnum GeoHashPrecision where
  title := "GeoHashPrecision"
  values := [.level1, .level2, .level3, .level4, .level5, .level6, .level7, .level8, .level9,
    .level10, .level11, .level12]
  entry
    | .level1 => ⟨"Level1", "5009km_4992km", 1⟩
    | .level2 => ⟨"Level2", "1252km_624km", 2⟩
    | .level3 => ⟨"Level3", "156km_156km", 3⟩
    | .level4 => ⟨"Level4", "39km_19km", 4⟩
    | .level5 => ⟨"Level5", "4900m_4900m", 5⟩
    | .level6 => ⟨"Level6", "1200m_609m", 6⟩
    | .level7 => ⟨"Level7", "152m_152m", 7⟩
    | .level8 => ⟨"Level8", "38m_19m", 8⟩
    | .level9 => ⟨"Level9", "480cm_480cm", 9⟩
    | .level10 => ⟨"Level10", "120cm_595mm", 10⟩
    | .level11 => ⟨"Level11", "149mm_149mm", 11⟩
    | .level12 => ⟨"Level12", "37mm_19mm", 12⟩

/-- Whether a calendar unit is a day or finer. -/
def DateTimeUnit.isDayOrFiner : DateTimeUnit → Bool
  | .day | .hour | .minute | .second | .millisecond => true
  | .year | .quarterYear | .month | .week => false

end SearchWire
