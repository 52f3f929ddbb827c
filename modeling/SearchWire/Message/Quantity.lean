import SearchWire.Tree.Basic

/-!
# Quantities

Amounts of time, points on the globe, and ranges, as other messages hold them.
-/

namespace SearchWire

/-- An amount of calendar time. -/
structure DateTimeValue where
  value : Int32
  unit : DateTimeUnit

namespace DateTimeValue

/-- The message with these fields. -/
def toMessage (x : DateTimeValue) : Message .dateTimeValue :=
  .record <|
    .cons (.leaf x.value) <|
    .cons (.leaf x.unit) <|
    .nil

/-- The fields of a message. -/
def ofMessage : Message .dateTimeValue → DateTimeValue
  | .record (.cons (.leaf value) (.cons (.leaf unit) .nil)) =>
    ⟨value, unit⟩

@[simp] theorem ofMessage_toMessage (x : DateTimeValue) : ofMessage x.toMessage = x :=
  rfl

/-- An amount of days. -/
def days (n : Int32) : DateTimeValue := ⟨n, .day⟩

/-- An amount of hours. -/
def hours (n : Int32) : DateTimeValue := ⟨n, .hour⟩

/-- An amount of time as it is shown. -/
def display (x : DateTimeValue) : String := toString x.value ++ " " ++ WireEnum.label x.unit

end DateTimeValue

/-- A latitude and a longitude in degrees. -/
structure GeoPoint where
  lat : Binary64
  lon : Binary64

namespace GeoPoint

/-- The message with these fields. -/
def toMessage (x : GeoPoint) : Message .geoPoint :=
  .record <|
    .cons (.leaf x.lat) <|
    .cons (.leaf x.lon) <|
    .nil

/-- The fields of a message. -/
def ofMessage : Message .geoPoint → GeoPoint
  | .record (.cons (.leaf lat) (.cons (.leaf lon) .nil)) =>
    ⟨lat, lon⟩

@[simp] theorem ofMessage_toMessage (x : GeoPoint) : ofMessage x.toMessage = x :=
  rfl

end GeoPoint

/-- A range of numbers, unbounded where no bound is given. -/
structure Range where
  lower : Binary64 := .negInfinity
  upper : Binary64 := .infinity

namespace Range

/-- The message with these fields. -/
def toMessage (x : Range) : Message .range :=
  .record <|
    .cons (.leaf x.lower) <|
    .cons (.leaf x.upper) <|
    .nil

/-- The fields of a message. -/
def ofMessage : Message .range → Range
  | .record (.cons (.leaf lower) (.cons (.leaf upper) .nil)) =>
    ⟨lower, upper⟩

@[simp] theorem ofMessage_toMessage (x : Range) : ofMessage x.toMessage = x :=
  rfl

/-- The numbers from a bound upwards. -/
def atLeast (lower : Binary64) : Range := { lower }

/-- The numbers below a bound. -/
def below (upper : Binary64) : Range := { upper }

end Range

/-- The least and the greatest value of a field. -/
structure FieldRange where
  least : ColumnValue
  greatest : ColumnValue

namespace FieldRange

/-- The message with these fields. -/
def toMessage (x : FieldRange) : Message .fieldRange :=
  .record <|
    .cons (.leaf x.least) <|
    .cons (.leaf x.greatest) <|
    .nil

/-- The fields of a message. -/
def ofMessage : Message .fieldRange → FieldRange
  | .record (.cons (.leaf least) (.cons (.leaf greatest) .nil)) =>
    ⟨least, greatest⟩

@[simp] theorem ofMessage_toMessage (x : FieldRange) : ofMessage x.toMessage = x :=
  rfl

end FieldRange

end SearchWire
