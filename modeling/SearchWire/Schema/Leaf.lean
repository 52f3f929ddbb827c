import SearchWire.Schema.Scalar
import SearchWire.Weight

/-!
# Leaves

A leaf is a slot of a message that holds no further message. What it holds, how often its field
occurs in the bytes and what it means when the field does not occur are fixed by its rule.

Every rule is given by two functions: the `occurrences` that a value is written as, and the value
that a sequence of occurrences is `settle`d as. Of several occurrences of a field that should occur
once, the last one counts.
-/

namespace SearchWire

/-- The rules of the slots that hold no further message. -/
inductive Leaf
  /-- Has to be set to be written, and to occur to be read. -/
  | required (t : Scalar)
  /-- Written if set. -/
  | optional (t : Scalar)
  /-- Always set, and has to occur to be read. -/
  | present (t : Scalar)
  /-- Always set and always written; `d` when it does not occur. -/
  | defaulted (t : Scalar) (d : t.Value)
  /-- A weight. It is written as its factor `always`, or only when it was set. -/
  | weight (always : Bool)
  /-- Any number of values. -/
  | list (t : Scalar)
  /-- Any number of values, which have to be set to be written. -/
  | requiredList (t : Scalar)
  /-- A packed vector, not written when it is empty. -/
  | vector (t : PackedType)
  /-- A packed vector that has to be set to be written, and to occur to be read. -/
  | requiredVector (t : PackedType)

namespace Leaf

/-- What a slot with the rule holds. -/
abbrev Value : Leaf → Type
  | required t => Option t.Value
  | optional t => Option t.Value
  | present t => t.Value
  | defaulted t _ => t.Value
  | weight _ => Weight
  | list t => List t.Value
  | requiredList t => Option (List t.Value)
  | vector t => List t.Value
  | requiredVector t => Option (List t.Value)

/-- What one occurrence of the field holds. -/
abbrev Item : Leaf → Type
  | required t => t.Value
  | optional t => t.Value
  | present t => t.Value
  | defaulted t _ => t.Value
  | weight _ => Binary32
  | list t => t.Value
  | requiredList t => t.Value
  | vector t => List t.Value
  | requiredVector t => List t.Value

/-- The occurrences as which a value is written, or nothing when it has to be set and is not. -/
def occurrences : (l : Leaf) → l.Value → Option (List l.Item)
  | required _, v => v.map ([·])
  | optional _, v => some v.toList
  | present _, v => some [v]
  | defaulted _ _, v => some [v]
  | weight true, w => some [w.value]
  | weight false, w => some w.explicit?.toList
  | list _, xs => some xs
  | requiredList _, xs => xs
  | vector _, xs => some (if xs.isEmpty then [] else [xs])
  | requiredVector _, xs => xs.map ([·])

/-- The value that a sequence of occurrences means, or nothing when there has to be one and is
none. -/
def settle : (l : Leaf) → List l.Item → Option l.Value
  | required _, xs => xs.getLast?.map some
  | optional _, xs => some xs.getLast?
  | present _, xs => xs.getLast?
  | defaulted _ d, xs => some (xs.getLast?.getD d)
  | weight _, xs => some ⟨xs.getLast?⟩
  | list _, xs => some xs
  | requiredList _, xs => some (some xs)
  | vector _, xs => some xs.flatten
  | requiredVector _, xs => if xs.isEmpty then none else some (some xs.flatten)

/-- The content of a field that is one occurrence. -/
def writeItem : (l : Leaf) → l.Item → Result WireValue
  | required t, x => t.write x
  | optional t, x => t.write x
  | present t, x => t.write x
  | defaulted t _, x => t.write x
  | weight _, x => Scalar.write .float32 x
  | list t, x => t.write x
  | requiredList t, x => t.write x
  | vector t, xs => .ok (t.write xs)
  | requiredVector t, xs => .ok (t.write xs)

/-- The occurrence that a field of the named message is. -/
def readItem (message : String) (f : WireField) : (l : Leaf) → Result l.Item
  | required t => t.read message f
  | optional t => t.read message f
  | present t => t.read message f
  | defaulted t _ => t.read message f
  | weight _ => Scalar.read message f .float32
  | list t => t.read message f
  | requiredList t => t.read message f
  | vector t => t.read message f
  | requiredVector t => t.read message f

/-- Equality of options of values that are compared by `eq`. -/
def optionEq {α : Type} (eq : α → α → Bool) : Option α → Option α → Bool
  | none, none => true
  | some a, some b => eq a b
  | _, _ => false

/-- Equality of lists of values that are compared by `eq`, position by position. -/
def listEq {α : Type} (eq : α → α → Bool) : List α → List α → Bool
  | [], [] => true
  | a :: as, b :: bs => eq a b && listEq eq as bs
  | _, _ => false

/-- Equality of what two slots with the rule hold. -/
def eq : (l : Leaf) → l.Value → l.Value → Bool
  | required t, v, w => optionEq t.eq v w
  | optional t, v, w => optionEq t.eq v w
  | present t, v, w => t.eq v w
  | defaulted t _, v, w => t.eq v w
  | weight _, v, w => v.eq w
  | list t, v, w => listEq t.eq v w
  | requiredList t, v, w => optionEq (listEq t.eq) v w
  | vector t, v, w => listEq t.eq v w
  | requiredVector t, v, w => optionEq (listEq t.eq) v w

end Leaf

end SearchWire
