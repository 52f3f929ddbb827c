import Mathlib
import SearchWire.Proofs.Tree.Settled

/-!
# Agreement of fields

When two sequences of fields say the same about a message. Of a field that should occur once only
the last occurrence counts, of a list the members in their order, and of a packed vector the
elements, however they are cut into stretches (`MessageType.Agree`). A vector that has to be given is
the one place where no occurrence and an empty one are told apart (`MessageType.OccurAlike`). Apart
from that, messages whose fields agree are read alike (`decode_message_eq_of_agree`).
-/

namespace SearchWire

open Result

/-! ### Agreement -/

/-- A leaf of which the last occurrence counts. -/
def Leaf.IsSingular : Leaf → Prop
  | required _ | optional _ | present _ | defaulted _ _ | weight _ => True
  | list _ | requiredList _ | vector _ | requiredVector _ => False

/-- The occurrences of a leaf say the same. -/
def Leaf.Agree : (l : Leaf) → List l.Item → List l.Item → Prop
  | list _, xs, ys => xs = ys
  | requiredList _, xs, ys => xs = ys
  | vector _, xs, ys => xs.flatten = ys.flatten
  | requiredVector _, xs, ys => xs.flatten = ys.flatten
  | required _, xs, ys => xs.getLast? = ys.getLast?
  | optional _, xs, ys => xs.getLast? = ys.getLast?
  | present _, xs, ys => xs.getLast? = ys.getLast?
  | defaulted _ _, xs, ys => xs.getLast? = ys.getLast?
  | weight _, xs, ys => xs.getLast? = ys.getLast?

namespace Slot

/-- A slot of which the last occurrence of a field counts. -/
def IsSingular : Slot → Prop
  | leaf _ l => l.IsSingular
  | child _ _ _ | decayParam _ _ => True
  | children _ _ => False

/-- What fields say about a slot is the same. The content of a decay parameter is compared as what
it is read as, which depends on the kind. -/
def Agree : (s : Slot) → List s.Item → List s.Item → Prop
  | leaf _ l, xs, ys => l.Agree xs ys
  | child _ _ _, xs, ys => xs.getLast? = ys.getLast?
  | children _ _, xs, ys => xs = ys
  | decayParam _ _, xs, ys =>
    (xs.filterMap Sum.getLeft?).getLast? = (ys.filterMap Sum.getLeft?).getLast? ∧
      ∀ k ∈ (xs.filterMap Sum.getLeft?).getLast?,
        (xs.filterMap Sum.getRight?).getLast?.map (decode (.message k.payload)) =
          (ys.filterMap Sum.getRight?).getLast?.map (decode (.message k.payload))

/-- A packed vector that has to be given occurs on both sides or on neither. -/
def OccurAlike : (s : Slot) → List s.Item → List s.Item → Prop
  | leaf _ (.requiredVector _), xs, ys => xs = [] ↔ ys = []
  | _, _, _ => True

lemma Agree.refl {s : Slot} (xs : List s.Item) : s.Agree xs xs := by
  cases s with
  | leaf tag l => cases l <;> rfl
  | child tag s required => rfl
  | children tag s => rfl
  | decayParam kind content => exact ⟨rfl, fun _ _ => rfl⟩

lemma OccurAlike.refl {s : Slot} (xs : List s.Item) : s.OccurAlike xs xs := by
  cases s with
  | leaf tag l =>
    cases l with
    | requiredVector t => exact Iff.rfl
    | _ => trivial
  | child tag s required => trivial
  | children tag s => trivial
  | decayParam kind content => trivial

end Slot

/-- The fields say the same about every slot of a message. -/
def MessageType.Agree (m : MessageType) (fs gs : List WireField) : Prop :=
  ∀ s ∈ m.slots, s.Agree (s.items m fs) (s.items m gs)

/-- The packed vectors that have to be given occur on both sides or on neither. -/
def MessageType.OccurAlike (m : MessageType) (fs gs : List WireField) : Prop :=
  ∀ s ∈ m.slots, s.OccurAlike (s.items m fs) (s.items m gs)

/-! ### Settling -/

lemma Leaf.settle_eq_of_agree {tag : Tag} {l : Leaf} {xs ys : List l.Item} (h : l.Agree xs ys)
    (hoccur : (Slot.leaf tag l).OccurAlike xs ys) : l.settle xs = l.settle ys := by
  cases l with
  | required t => exact congrArg (Option.map some) h
  | optional t => exact congrArg some h
  | present t => exact h
  | defaulted t d => exact congrArg (fun o : Option t.Value => some (o.getD d)) h
  | weight always => exact congrArg (fun o : Option Binary32 => some (Weight.mk o)) h
  | list t => exact congrArg some h
  | requiredList t => exact congrArg (fun zs : List t.Value => some (some zs)) h
  | vector t => exact congrArg some h
  | requiredVector t =>
    have hflatten : xs.flatten = ys.flatten := h
    have hempty : xs = [] ↔ ys = [] := hoccur
    simp only [settle, List.isEmpty_iff, hempty, hflatten]

/-- A slot settles alike from what says the same about it. -/
lemma Slot.settle_eq_of_agree {m : MessageType} {s : Slot} {xs ys : List s.Item}
    (h : s.Agree xs ys) (hoccur : s.OccurAlike xs ys) :
    s.settle decode m xs = s.settle decode m ys := by
  cases s with
  | leaf tag l => rw [settle, settle, Leaf.settle_eq_of_agree h hoccur]
  | child tag s required =>
    have hlast : xs.getLast? = ys.getLast? := h
    rw [settle, settle, hlast]
  | children tag s =>
    obtain rfl : xs = ys := h
    rfl
  | decayParam kind content =>
    obtain ⟨hkind, hcontent⟩ := h
    rw [settle, settle, ← hkind]
    cases hk : (xs.filterMap Sum.getLeft?).getLast? with
    | none => rfl
    | some k =>
      have hread := hcontent k hk
      cases hx : (xs.filterMap Sum.getRight?).getLast? with
      | none =>
        rw [hx, Option.map_none, eq_comm, Option.map_eq_none_iff] at hread
        rw [hread]
      | some bs =>
        rw [hx, Option.map_some, eq_comm, Option.map_eq_some_iff] at hread
        obtain ⟨bs', hy, hdecode⟩ := hread
        simp only [hy, hdecode]

/-- Messages whose fields say the same about every slot are read alike, also when they are
incomplete. -/
lemma decode_message_eq_of_agree {m : MessageType} {bs cs : Bytes} {fs gs : List WireField}
    (hfs : WireField.SpellAll bs fs) (hgs : WireField.SpellAll cs gs)
    (hconvert : ∀ f ∈ fs, m.Converts f) (hconvert' : ∀ g ∈ gs, m.Converts g)
    (hagree : m.Agree fs gs) (hoccur : m.OccurAlike fs gs) :
    decode (.message m) bs = decode (.message m) cs := by
  rw [decode_message_eq_settleFields hfs hconvert, decode_message_eq_settleFields hgs hconvert']
  have hsettle : settleFields m m.slots fs = settleFields m m.slots gs := by
    apply settleFields_congr
    intro s hs
    exact Slot.settle_eq_of_agree (hagree s hs) (hoccur s hs)
  rw [hsettle]

end SearchWire
