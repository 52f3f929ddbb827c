import SearchWire.Message.Decay
import SearchWire.Message.Score

/-!
# Checks across slots

Two types of messages are fit to be written, and accepted when read, only if several of their slots
go together. A score function is of one kind at most. A decay function has a parameter with an
origin, a positive scale and no negative offset; a scale and an offset in time are in days or finer
units.

The same check is made on both sides: before a message is written, and after its slots are read.
-/

namespace SearchWire

/-! ### Decay parameters -/

/-- An amount of time in a decay parameter has a unit of a day or finer. -/
def DateTimeValue.checkUnit (x : DateTimeValue) (field : String) : Result Unit :=
  if x.unit.isDayOrFiner then .ok ()
  else .error (.invalid MessageType.dateDecayParam.name (.coarseUnit field x.unit))

/-- A scale in time is positive. -/
def DateTimeValue.checkScale (x : DateTimeValue) : Result Unit := do
  x.checkUnit "scale"
  if x.value ≤ 0 then
    throw (.invalid MessageType.dateDecayParam.name (.scaleNotPositive (.units x.value)))

/-- An offset in time is not negative. -/
def DateTimeValue.checkOffset (x : DateTimeValue) : Result Unit := do
  x.checkUnit "offset"
  if x.value < 0 then
    throw (.invalid MessageType.dateDecayParam.name (.offsetNegative (.units x.value)))

/-- A parameter in time has an origin of one form or the other, a scale, and possibly an offset. -/
def DateDecayParam.check (x : DateDecayParam) : Result Unit := do
  if x.originLong.isNone && x.originString.isNone then
    throw (.required [] MessageType.dateDecayParam.name "origin")
  match x.scale with
  | none => throw (.required [] MessageType.dateDecayParam.name "scale")
  | some scale => (DateTimeValue.ofMessage scale).checkScale
  match x.offset with
  | none => return
  | some offset => (DateTimeValue.ofMessage offset).checkOffset

/-- The scale and the offset of a parameter of the given type, as distances. -/
def checkDistances (m : MessageType) (scale offset : Option Binary64) : Result Unit := do
  match scale with
  | none => throw (.required [] m.name "scale")
  | some scale =>
    if !scale.isPositive then
      throw (.invalid m.name (.scaleNotPositive (.distance scale)))
  match offset with
  | none => return
  | some offset =>
    if !offset.isNonnegative then
      throw (.invalid m.name (.offsetNegative (.distance offset)))

/-- A numeric parameter has an origin, a scale, and possibly an offset. -/
def NumericDecayParam.check (x : NumericDecayParam) : Result Unit := do
  if x.origin.isNone then throw (.required [] MessageType.numericDecayParam.name "origin")
  checkDistances .numericDecayParam x.scale x.offset

/-- A parameter of points has an origin, a scale, and possibly an offset. -/
def GeoDecayParam.check (x : GeoDecayParam) : Result Unit := do
  if x.origin.isNone then throw (.required [] MessageType.geoDecayParam.name "origin")
  checkDistances .geoDecayParam x.scale x.offset

/-- A decay parameter, of whichever kind, is complete and in range. -/
def DecayParam.check : DecayParam → Result Unit
  | ⟨.date, content⟩ => (DateDecayParam.ofMessage content).check
  | ⟨.numeric, content⟩ => (NumericDecayParam.ofMessage content).check
  | ⟨.geo, content⟩ => (GeoDecayParam.ofMessage content).check

/-- The step from a decay function to its parameter. -/
def decayParamSegment : Segment := ⟨MessageType.decayFunction.name, "param", none⟩

/-- A decay function has a parameter, and it is in range. -/
def DecayFunction.check (x : DecayFunction) : Result Unit :=
  match x.param with
  | none => .error (.required [] MessageType.decayFunction.name "param")
  | some p => p.check.within decayParamSegment

/-! ### Score functions -/

/-- The kinds of which a score function is, by the names of their fields. -/
def ScoreFunction.kinds (x : ScoreFunction) : List String :=
  (if x.fieldValueFactor.isSome then ["fieldValueFactor"] else []) ++
    (if x.decay.isSome then ["decay"] else []) ++ (if x.random.isSome then ["random"] else [])

/-- A score function is of one kind at most. -/
def ScoreFunction.check (x : ScoreFunction) : Result Unit :=
  if x.kinds.length ≤ 1 then .ok ()
  else .error (.invalid MessageType.scoreFunction.name (.functionKinds x.kinds))

/-! ### Messages -/

/-- The slots of a message go together. -/
def MessageType.check : (m : MessageType) → Slots m → Result Unit
  | .scoreFunction, slots => (ScoreFunction.ofMessage (.record slots)).check
  | .decayFunction, slots => (DecayFunction.ofMessage (.record slots)).check
  | _, _ => .ok ()

end SearchWire
