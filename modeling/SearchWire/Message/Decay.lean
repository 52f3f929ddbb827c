import SearchWire.Message.Quantity

/-!
# Decay functions

A decay function lowers a score with the distance from an origin. The origin is a time, a number or
a point; the parameter of the function is of the kind that fits.
-/

namespace SearchWire

/-- An origin in time, with amounts of time. -/
structure DateDecayParam where
  originLong : Option Int64 := none
  originString : Option String := none
  scale : Option (Message .dateTimeValue) := none
  offset : Option (Message .dateTimeValue) := none

namespace DateDecayParam

/-- The message with these fields. -/
def toMessage (x : DateDecayParam) : Message .dateDecayParam :=
  .record <|
    .cons (.leaf x.originLong) <|
    .cons (.leaf x.originString) <|
    .cons (.ofOption x.scale) <|
    .cons (.ofOption x.offset) <|
    .nil

/-- The fields of a message. -/
def ofMessage : Message .dateDecayParam → DateDecayParam
  | .record (.cons (.leaf originLong) (.cons (.leaf originString) (.cons scale (.cons offset
    .nil)))) =>
    ⟨originLong, originString, scale.toOption, offset.toOption⟩

@[simp] theorem ofMessage_toMessage (x : DateDecayParam) : ofMessage x.toMessage = x := by
  simp [toMessage, ofMessage]

/-- The decay parameter with these fields. -/
def toParam (x : DateDecayParam) : DecayParam := ⟨.date, x.toMessage⟩

end DateDecayParam

/-- A number as origin, with distances. -/
structure NumericDecayParam where
  origin : Option Binary64 := none
  scale : Option Binary64 := none
  offset : Option Binary64 := none

namespace NumericDecayParam

/-- The message with these fields. -/
def toMessage (x : NumericDecayParam) : Message .numericDecayParam :=
  .record <|
    .cons (.leaf x.origin) <|
    .cons (.leaf x.scale) <|
    .cons (.leaf x.offset) <|
    .nil

/-- The fields of a message. -/
def ofMessage : Message .numericDecayParam → NumericDecayParam
  | .record (.cons (.leaf origin) (.cons (.leaf scale) (.cons (.leaf offset) .nil))) =>
    ⟨origin, scale, offset⟩

@[simp] theorem ofMessage_toMessage (x : NumericDecayParam) : ofMessage x.toMessage = x :=
  rfl

/-- The decay parameter with these fields. -/
def toParam (x : NumericDecayParam) : DecayParam := ⟨.numeric, x.toMessage⟩

end NumericDecayParam

/-- A point as origin, with distances in metres. -/
structure GeoDecayParam where
  origin : Option String := none
  scale : Option Binary64 := none
  offset : Option Binary64 := none

namespace GeoDecayParam

/-- The message with these fields. -/
def toMessage (x : GeoDecayParam) : Message .geoDecayParam :=
  .record <|
    .cons (.leaf x.origin) <|
    .cons (.leaf x.scale) <|
    .cons (.leaf x.offset) <|
    .nil

/-- The fields of a message. -/
def ofMessage : Message .geoDecayParam → GeoDecayParam
  | .record (.cons (.leaf origin) (.cons (.leaf scale) (.cons (.leaf offset) .nil))) =>
    ⟨origin, scale, offset⟩

@[simp] theorem ofMessage_toMessage (x : GeoDecayParam) : ofMessage x.toMessage = x :=
  rfl

/-- The decay parameter with these fields. -/
def toParam (x : GeoDecayParam) : DecayParam := ⟨.geo, x.toMessage⟩

end GeoDecayParam

/-- A score that decays with the distance from an origin. -/
structure DecayFunction where
  fieldName : Option String := none
  mathFunction : Option DecayMathFunction := none
  param : Option DecayParam := none
  decay : Option Binary64 := none
  multiValueMode : Option MultiValueMode := none

namespace DecayFunction

/-- The message with these fields. -/
def toMessage (x : DecayFunction) : Message .decayFunction :=
  .record <|
    .cons (.leaf x.fieldName) <|
    .cons (.leaf x.mathFunction) <|
    .cons (.ofParam x.param) <|
    .cons (.leaf x.decay) <|
    .cons (.leaf x.multiValueMode) <|
    .nil

/-- The fields of a message. -/
def ofMessage : Message .decayFunction → DecayFunction
  | .record (.cons (.leaf fieldName) (.cons (.leaf mathFunction) (.cons param (.cons (.leaf decay)
    (.cons (.leaf multiValueMode) .nil))))) =>
    ⟨fieldName, mathFunction, param.toParam, decay, multiValueMode⟩

@[simp] theorem ofMessage_toMessage (x : DecayFunction) : ofMessage x.toMessage = x := by
  simp [toMessage, ofMessage]

end DecayFunction

end SearchWire
