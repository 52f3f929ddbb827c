import SearchWire.Enum.Basic

/-!
# Scoring options

How tokens and scores combine, and how a field value becomes a score.
-/

namespace SearchWire

/-- Whether one token of a match query is enough, or all of them have to match. -/
inductive QueryOperator
  | or
  | and
deriving DecidableEq, Repr

instance : WireEnum QueryOperator where
  title := "QueryOperator"
  values := [.or, .and]
  entry
    | .or => ⟨"Or", "OR", 1⟩
    | .and => ⟨"And", "AND", 2⟩

/-- What a nested query makes of the scores of its child documents; none leaves them out. -/
inductive ScoreMode
  | none
  | avg
  | max
  | total
  | min
deriving DecidableEq, Repr

instance : WireEnum ScoreMode where
  title := "ScoreMode"
  values := [.none, .avg, .max, .total, .min]
  entry
    | .none => ⟨"None", "none", 1⟩
    | .avg => ⟨"Avg", "avg", 2⟩
    | .max => ⟨"Max", "max", 3⟩
    | .total => ⟨"Total", "total", 4⟩
    | .min => ⟨"Min", "min", 5⟩

/-- What becomes of the scores of several score functions; first takes the first one that applies.
-/
inductive FunctionScoreMode
  | avg
  | max
  | sum
  | min
  | multiply
  | first
deriving DecidableEq, Repr

instance : WireEnum FunctionScoreMode where
  title := "FunctionScoreMode"
  values := [.avg, .max, .sum, .min, .multiply, .first]
  entry
    | .avg => ⟨"Avg", "avg", 1⟩
    | .max => ⟨"Max", "max", 2⟩
    | .sum => ⟨"Sum", "sum", 3⟩
    | .min => ⟨"Min", "min", 4⟩
    | .multiply => ⟨"Multiply", "multiply", 5⟩
    | .first => ⟨"First", "first", 6⟩

/-- How the score of the functions changes the score of the query; replace puts it in its place.
-/
inductive FunctionCombineMode
  | multiply
  | avg
  | max
  | sum
  | min
  | replace
deriving DecidableEq, Repr

instance : WireEnum FunctionCombineMode where
  title := "FunctionCombineMode"
  values := [.multiply, .avg, .max, .sum, .min, .replace]
  entry
    | .multiply => ⟨"Multiply", "multiply", 1⟩
    | .avg => ⟨"Avg", "avg", 2⟩
    | .max => ⟨"Max", "max", 3⟩
    | .sum => ⟨"Sum", "sum", 4⟩
    | .min => ⟨"Min", "min", 5⟩
    | .replace => ⟨"Replace", "replace", 6⟩

/-- The function through which a field value passes on its way to a score. -/
inductive FieldValueFactorModifier
  | none
  /-- The decimal logarithm. -/
  | log
  /-- The decimal logarithm of one more. -/
  | log1p
  /-- The decimal logarithm of two more. -/
  | log2p
  /-- The natural logarithm. -/
  | ln
  /-- The natural logarithm of one more. -/
  | ln1p
  /-- The natural logarithm of two more. -/
  | ln2p
  | square
  | sqrt
  /-- One divided by the value. -/
  | reciprocal
deriving DecidableEq, Repr

instance : WireEnum FieldValueFactorModifier where
  title := "FunctionModifier"
  values := [.none, .log, .log1p, .log2p, .ln, .ln1p, .ln2p, .square, .sqrt, .reciprocal]
  entry
    | .none => ⟨"None", "none", 1⟩
    | .log => ⟨"Log", "log", 2⟩
    | .log1p => ⟨"Log1p", "log1p", 3⟩
    | .log2p => ⟨"Log2p", "log2p", 4⟩
    | .ln => ⟨"Ln", "ln", 5⟩
    | .ln1p => ⟨"Ln1p", "ln1p", 6⟩
    | .ln2p => ⟨"Ln2p", "ln2p", 7⟩
    | .square => ⟨"Square", "square", 8⟩
    | .sqrt => ⟨"Sqrt", "sqrt", 9⟩
    | .reciprocal => ⟨"Reciprocal", "reciprocal", 10⟩

/-- The shape of the curve on which a score decays. -/
inductive DecayMathFunction
  | gauss
  | exp
  | linear
deriving DecidableEq, Repr

instance : WireEnum DecayMathFunction where
  title := "DecayMathFunction"
  values := [.gauss, .exp, .linear]
  entry
    | .gauss => ⟨"Gauss", "gauss", 1⟩
    | .exp => ⟨"Exp", "exp", 2⟩
    | .linear => ⟨"Linear", "linear", 3⟩

/-- Which of the values of a field a decay function measures. -/
inductive MultiValueMode
  | max
  | min
  | sum
  | avg
deriving DecidableEq, Repr

instance : WireEnum MultiValueMode where
  title := "MultiValueMode"
  values := [.max, .min, .sum, .avg]
  entry
    | .max => ⟨"Max", "max", 1⟩
    | .min => ⟨"Min", "min", 2⟩
    | .sum => ⟨"Sum", "sum", 3⟩
    | .avg => ⟨"Avg", "avg", 4⟩

end SearchWire
