import SearchWire.Message.Decay

/-!
# Scores

Queries whose scores are changed by functions, and the functions that change them.
-/

namespace SearchWire

/-- The field whose value scales a score. -/
structure FieldValueFactor where
  fieldName : Option String := none

namespace FieldValueFactor

/-- The message with these fields. -/
def toMessage (x : FieldValueFactor) : Message .fieldValueFactor :=
  .record <|
    .cons (.leaf x.fieldName) <|
    .nil

/-- The fields of a message. -/
def ofMessage : Message .fieldValueFactor → FieldValueFactor
  | .record (.cons (.leaf fieldName) .nil) =>
    ⟨fieldName⟩

@[simp] theorem ofMessage_toMessage (x : FieldValueFactor) : ofMessage x.toMessage = x :=
  rfl

/-- The field whose value scales a score. -/
def of (fieldName : String) : FieldValueFactor :=
  { fieldName }

end FieldValueFactor

/-- A query whose score one field value scales. -/
structure FunctionScoreQuery where
  query : Option Query := none
  fieldValueFactor : Option (Message .fieldValueFactor) := none

namespace FunctionScoreQuery

/-- The message with these fields. -/
def toMessage (x : FunctionScoreQuery) : Message .functionScoreQuery :=
  .record <|
    .cons (.ofOption x.query) <|
    .cons (.ofOption x.fieldValueFactor) <|
    .nil

/-- The fields of a message. -/
def ofMessage : Message .functionScoreQuery → FunctionScoreQuery
  | .record (.cons query (.cons fieldValueFactor .nil)) =>
    ⟨query.toOption, fieldValueFactor.toOption⟩

@[simp] theorem ofMessage_toMessage (x : FunctionScoreQuery) : ofMessage x.toMessage = x := by
  simp [toMessage, ofMessage]

/-- The hits of a query, their scores scaled by a field. -/
def of (query : Query) (fieldName : String) : FunctionScoreQuery :=
  { query, fieldValueFactor := some (FieldValueFactor.toMessage { fieldName }) }

instance : Coe FunctionScoreQuery Query := ⟨fun x => .node QueryKind.functionScore x.toMessage⟩

end FunctionScoreQuery

/-- A score from the value of a field. -/
structure FieldValueFactorFunction where
  fieldName : Option String := none
  factor : Option Binary32 := none
  modifier : Option FieldValueFactorModifier := none
  missing : Option Binary64 := none

namespace FieldValueFactorFunction

/-- The message with these fields. -/
def toMessage (x : FieldValueFactorFunction) : Message .fieldValueFactorFunction :=
  .record <|
    .cons (.leaf x.fieldName) <|
    .cons (.leaf x.factor) <|
    .cons (.leaf x.modifier) <|
    .cons (.leaf x.missing) <|
    .nil

/-- The fields of a message. -/
def ofMessage : Message .fieldValueFactorFunction → FieldValueFactorFunction
  | .record (.cons (.leaf fieldName) (.cons (.leaf factor) (.cons (.leaf modifier) (.cons (.leaf
    missing) .nil)))) =>
    ⟨fieldName, factor, modifier, missing⟩

@[simp] theorem ofMessage_toMessage (x : FieldValueFactorFunction) : ofMessage x.toMessage = x :=
  rfl

end FieldValueFactorFunction

/-- A random score. -/
structure RandomScoreFunction where

namespace RandomScoreFunction

/-- The message with these fields. -/
def toMessage (_ : RandomScoreFunction) : Message .randomScoreFunction := .record .nil

/-- The fields of a message. -/
def ofMessage : Message .randomScoreFunction → RandomScoreFunction
  | .record .nil => ⟨⟩

@[simp] theorem ofMessage_toMessage (x : RandomScoreFunction) : ofMessage x.toMessage = x :=
  rfl

end RandomScoreFunction

/-- One function of a score, of one kind at most. -/
structure ScoreFunction where
  weight : Option Binary32 := none
  filter : Option Query := none
  fieldValueFactor : Option (Message .fieldValueFactorFunction) := none
  decay : Option (Message .decayFunction) := none
  random : Option (Message .randomScoreFunction) := none

namespace ScoreFunction

/-- The message with these fields. -/
def toMessage (x : ScoreFunction) : Message .scoreFunction :=
  .record <|
    .cons (.leaf x.weight) <|
    .cons (.ofOption x.filter) <|
    .cons (.ofOption x.fieldValueFactor) <|
    .cons (.ofOption x.decay) <|
    .cons (.ofOption x.random) <|
    .nil

/-- The fields of a message. -/
def ofMessage : Message .scoreFunction → ScoreFunction
  | .record (.cons (.leaf weight) (.cons filter (.cons fieldValueFactor (.cons decay (.cons random
    .nil))))) =>
    ⟨weight, filter.toOption, fieldValueFactor.toOption, decay.toOption, random.toOption⟩

@[simp] theorem ofMessage_toMessage (x : ScoreFunction) : ofMessage x.toMessage = x := by
  simp [toMessage, ofMessage]

end ScoreFunction

/-- A query whose score several functions change. -/
structure FunctionsScoreQuery where
  query : Option Query := none
  functions : List (Message .scoreFunction) := []
  scoreMode : Option FunctionScoreMode := none
  combineMode : Option FunctionCombineMode := none
  minScore : Option Binary32 := none
  maxScore : Option Binary32 := none

namespace FunctionsScoreQuery

/-- The message with these fields. -/
def toMessage (x : FunctionsScoreQuery) : Message .functionsScoreQuery :=
  .record <|
    .cons (.ofOption x.query) <|
    .cons (.ofChildren x.functions) <|
    .cons (.leaf x.scoreMode) <|
    .cons (.leaf x.combineMode) <|
    .cons (.leaf x.minScore) <|
    .cons (.leaf x.maxScore) <|
    .nil

/-- The fields of a message. -/
def ofMessage : Message .functionsScoreQuery → FunctionsScoreQuery
  | .record (.cons query (.cons functions (.cons (.leaf scoreMode) (.cons (.leaf combineMode)
    (.cons (.leaf minScore) (.cons (.leaf maxScore) .nil)))))) =>
    ⟨query.toOption, functions.toChildren, scoreMode, combineMode, minScore, maxScore⟩

@[simp] theorem ofMessage_toMessage (x : FunctionsScoreQuery) : ofMessage x.toMessage = x := by
  simp [toMessage, ofMessage]

instance : Coe FunctionsScoreQuery Query := ⟨fun x => .node QueryKind.functionsScore x.toMessage⟩

end FunctionsScoreQuery

end SearchWire
