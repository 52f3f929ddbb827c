import Mathlib
import SearchWire.Proofs.Schema.Leaf

/-!
# Weights that were never set

Eight types of queries are written with a weight even if theirs was never set. The tree in which all
these weights are set to one (`Tree.withDefaults`) is therefore written like the tree itself, or
fails with the same error (`Tree.write_withDefaults`).
-/

namespace SearchWire

namespace Tree

/-- A tree with the weights set to one, at every depth, that were never set and without which their
queries are never written. -/
@[simp]
def withDefaults : {c : Code} → Tree c → Tree c
  | _, record slots => record slots.withDefaults
  | _, node k payload => node k payload.withDefaults
  | _, criterion k payload => criterion k payload.withDefaults
  | _, nil => nil
  | _, cons head tail => cons head.withDefaults tail.withDefaults
  | .slot m (.leaf _ l), leaf v => leaf (l.withDefault m v)
  | _, unset => unset
  | _, child value => child value.withDefaults
  | _, children values => children values.withDefaults
  | _, noParam => noParam
  | _, param k payload => param k payload.withDefaults
  | _, empty => empty
  | _, item first rest => item first.withDefaults rest.withDefaults

section

variable {m : MessageType} {tag : Tag} {s : Shape} {required : Bool}

@[simp] lemma toOption_withDefaults (t : Tree (.slot m (.child tag s required))) :
    t.withDefaults.toOption = t.toOption.map withDefaults := by
  cases t <;> rfl

@[simp] lemma ofList_withDefaults (ts : List (Value s)) :
    (ofList ts).withDefaults = ofList (ts.map withDefaults) := by
  induction ts with
  | nil => rfl
  | cons t ts ih =>
    rw [ofList, withDefaults, ih]
    rfl

end

/-! ### Checks -/

lemma withDefaults_dateTimeValue (t : Message .dateTimeValue) : t.withDefaults = t := by
  match t with
  | .record (.cons (.leaf _) (.cons (.leaf _) .nil)) => rfl

lemma withDefaults_dateDecayParam (t : Message .dateDecayParam) : t.withDefaults = t := by
  match t with
  | .record (.cons (.leaf long) (.cons (.leaf string) (.cons scale (.cons offset .nil)))) =>
    have hscale : scale.withDefaults = scale := by
      cases scale with
      | unset => rfl
      | child value => rw [withDefaults, withDefaults_dateTimeValue]
    have hoffset : offset.withDefaults = offset := by
      cases offset with
      | unset => rfl
      | child value => rw [withDefaults, withDefaults_dateTimeValue]
    show record (.cons (.leaf long) (.cons (.leaf string) (.cons scale.withDefaults
      (.cons offset.withDefaults .nil)))) = _
    rw [hscale, hoffset]

/-- There are no weights in a decay parameter. -/
lemma withDefaults_decayParam (k : DecayParamKind) (t : Message k.payload) :
    t.withDefaults = t := by
  cases k with
  | date => exact withDefaults_dateDecayParam t
  | numeric =>
    match t with
    | .record (.cons (.leaf _) (.cons (.leaf _) (.cons (.leaf _) .nil))) => rfl
  | geo =>
    match t with
    | .record (.cons (.leaf _) (.cons (.leaf _) (.cons (.leaf _) .nil))) => rfl

end Tree

lemma ScoreFunction.kinds_withDefaults (slots : Slots .scoreFunction) :
    (ofMessage (.record slots.withDefaults)).kinds = (ofMessage (.record slots)).kinds := by
  match slots with
  | .cons (.leaf _) (.cons filter (.cons factor (.cons decay (.cons random .nil)))) =>
    simp [ofMessage, kinds]

lemma DecayFunction.param_withDefaults (slots : Slots .decayFunction) :
    (ofMessage (.record slots.withDefaults)).param = (ofMessage (.record slots)).param := by
  match slots with
  | .cons (.leaf _) (.cons (.leaf _) (.cons param (.cons (.leaf _) (.cons (.leaf _) .nil)))) =>
    cases param with
    | noParam => rfl
    | param k payload => simp only [Tree.withDefaults, Tree.withDefaults_decayParam, ofMessage]

/-- No check across slots looks at a weight. -/
lemma MessageType.check_withDefaults (m : MessageType) (slots : Slots m) :
    m.check slots.withDefaults = m.check slots := by
  cases m
  case scoreFunction =>
    simp only [check, ScoreFunction.check, ScoreFunction.kinds_withDefaults]
  case decayFunction =>
    simp only [check, DecayFunction.check, DecayFunction.param_withDefaults]
  all_goals rfl

/-! ### Writing -/

/-- A slot with the weight set is written like the slot without it. -/
lemma Leaf.write_withDefault {m : MessageType} {l : Leaf} (hl : l.Regular m) (message : String)
    (tag : Tag) (v : l.Value) :
    l.write message tag (l.withDefault m v) = l.write message tag v := by
  simp only [write, occurrences_withDefault hl]

/-- What belongs at the root fits a message of its type. -/
def Code.Regular : Code → Prop
  | .slots m ss => ∀ s ∈ ss, s.Regular m
  | .slot m s => s.Regular m
  | .shape _ | .items _ => True

/-- A tree is written like the tree with the weights set, also when it cannot be written. -/
theorem Tree.write_withDefaults {c : Code} (hc : c.Regular) (t : Tree c) :
    t.withDefaults.write = t.write := by
  induction t with
  | @record m slots ih =>
    simp only [withDefaults, write, MessageType.check_withDefaults, ih m.regular.regular]
  | node k payload ih => simp only [withDefaults, write, ih trivial]
  | criterion k payload ih => simp only [withDefaults, write, ih trivial]
  | nil => rfl
  | cons head tail ihhead ihtail =>
    obtain ⟨hs, hss⟩ := List.forall_mem_cons.mp hc
    simp only [withDefaults, write, ihhead hs, ihtail hss]
  | leaf v => exact Leaf.write_withDefault hc _ _ v
  | unset => rfl
  | child value ih => simp only [withDefaults, write, ih trivial]
  | children values ih => simp only [withDefaults, write, ih trivial]
  | noParam => rfl
  | param k payload ih => simp only [withDefaults, write, ih trivial]
  | empty => rfl
  | item first rest ihfirst ihrest =>
    simp only [withDefaults, write, ihfirst trivial, ihrest trivial]

/-- A second substitution finds no weights to set. -/
@[simp] lemma Leaf.withDefault_withDefault (m : MessageType) (l : Leaf) (v : l.Value) :
    l.withDefault m (l.withDefault m v) = l.withDefault m v := by
  cases l with
  | weight always => cases hm : m.assumesWeight <;> simp [withDefault, hm, Weight.of, Weight.value]
  | _ => rfl

@[simp] lemma Tree.withDefaults_withDefaults {c : Code} (t : Tree c) :
    t.withDefaults.withDefaults = t.withDefaults := by
  induction t with
  | leaf v => simp only [withDefaults, Leaf.withDefault_withDefault]
  | _ => simp_all [withDefaults]

end SearchWire
