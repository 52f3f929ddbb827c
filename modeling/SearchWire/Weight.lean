import SearchWire.Binary

/-!
# Weights

The weight of a query scales its score. A weight that was never set counts as one, and equals a
weight that was set to one; the two stay apart as values, because some queries write only a weight
that was set.
-/

namespace SearchWire

/-- The weight of a query, as far as it was set. -/
structure Weight where
  explicit? : Option Binary32
deriving DecidableEq, Repr

namespace Weight

/-- The weight that was never set. -/
def unset : Weight := ⟨none⟩

/-- A weight that was set. -/
def of (x : Binary32) : Weight := ⟨some x⟩

/-- The factor that a weight stands for. -/
def value (w : Weight) : Binary32 := w.explicit?.getD .one

/-- Whether the weight was set. -/
def isExplicit (w : Weight) : Bool := w.explicit?.isSome

/-- Equality of weights: the bits of the factors are the same, also when they are those of a NaN. -/
def eq (v w : Weight) : Bool := v.value.bits == w.value.bits

end Weight

end SearchWire
