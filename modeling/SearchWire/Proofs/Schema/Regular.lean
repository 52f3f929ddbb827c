import Mathlib
import SearchWire.Proofs.Wire.Written
import SearchWire.Tree.Decoding

/-!
# Regular layouts

What the layouts of all messages have in common, and all that reading and writing rest on: the
slots of a message have distinct field numbers that fit a key, the default of a slot can be written,
and the weight of a query is always written in eight types of queries (`assumesWeight`) and in no
other (`MessageType.regular`).
-/

namespace SearchWire

/-- The queries that are never written without a weight, so that a weight that was never set is
written as one. -/
def MessageType.assumesWeight : MessageType → Bool
  | .matchQuery | .matchPhraseQuery | .termQuery | .termsQuery | .prefixQuery | .suffixQuery
  | .wildcardQuery | .nestedQuery => true
  | _ => false

/-- The numbers of the fields that a slot takes up. -/
def Slot.numbers : Slot → List Nat
  | .leaf tag _ => [tag.number]
  | .child tag _ _ => [tag.number]
  | .children tag _ => [tag.number]
  | .decayParam kind content => [kind.number, content.number]

lemma Slot.accepts_iff {s : Slot} {n : Nat} : s.accepts n = true ↔ n ∈ s.numbers := by
  cases s <;> simp [accepts, numbers]

/-- The rule of a leaf fits a message of the given type. -/
def Leaf.Regular (m : MessageType) : Leaf → Prop
  | .defaulted t d => (t.write d).isOk = true
  | .weight always => always = m.assumesWeight
  | .required _ | .optional _ | .present _ | .list _ | .requiredList _ | .vector _
  | .requiredVector _ => True

instance (m : MessageType) : DecidablePred (Leaf.Regular m)
  | .defaulted t d => inferInstanceAs (Decidable ((t.write d).isOk = true))
  | .weight always => inferInstanceAs (Decidable (always = m.assumesWeight))
  | .required _ | .optional _ | .present _ | .list _ | .requiredList _ | .vector _
  | .requiredVector _ => instDecidableTrue

/-- The rule of a slot fits a message of the given type. -/
def Slot.Regular (m : MessageType) : Slot → Prop
  | .leaf _ l => l.Regular m
  | .child _ _ _ | .children _ _ | .decayParam _ _ => True

instance (m : MessageType) : DecidablePred (Slot.Regular m)
  | .leaf _ l => inferInstanceAs (Decidable (l.Regular m))
  | .child _ _ _ | .children _ _ | .decayParam _ _ => instDecidableTrue

/-- The slots can stand together in a message of the given type. -/
structure RegularLayout (m : MessageType) (ss : List Slot) : Prop where
  isFieldNumber : ∀ n ∈ ss.flatMap Slot.numbers, IsFieldNumber n
  nodup : (ss.flatMap Slot.numbers).Nodup
  regular : ∀ s ∈ ss, s.Regular m

namespace RegularLayout

variable {m : MessageType} {s : Slot} {ss : List Slot}

lemma head (h : RegularLayout m (s :: ss)) : s.Regular m := h.regular s (by simp)

lemma tail (h : RegularLayout m (s :: ss)) : RegularLayout m ss where
  isFieldNumber n hn := h.isFieldNumber n (by simp_all)
  nodup := (List.nodup_append.mp h.nodup).2.1
  regular s' hs := h.regular s' (List.mem_cons_of_mem s hs)

/-- A number of one slot is not accepted by another one. -/
lemma accepts_eq_false (h : RegularLayout m (s :: ss)) {n : Nat}
    (hn : n ∈ ss.flatMap Slot.numbers) : s.accepts n = false := by
  rw [← Bool.not_eq_true, Slot.accepts_iff]
  intro hs
  exact (List.nodup_append.mp h.nodup).2.2 n hs n hn rfl

/-- The kind and the content of a decay parameter stand in different fields. -/
lemma content_ne_kind {kind content : Tag} (h : RegularLayout m (.decayParam kind content :: ss)) :
    content.number ≠ kind.number := by
  have hnodup := (List.nodup_append.mp h.nodup).1
  simp only [Slot.numbers, List.nodup_cons, List.mem_singleton] at hnodup
  exact fun heq => hnodup.1 heq.symm

end RegularLayout

/-- The slots of every type of message can stand together. -/
theorem MessageType.regular (m : MessageType) : RegularLayout m m.slots where
  isFieldNumber := by cases m <;> decide
  nodup := by cases m <;> decide
  regular := by cases m <;> decide

end SearchWire
