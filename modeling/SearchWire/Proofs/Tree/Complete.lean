import Mathlib
import SearchWire.Proofs.Schema.Required
import SearchWire.Proofs.Tree.Writable

/-!
# Complete trees

What a tree has to hold to be written, said without running the encoder (`Tree.Complete`), and that
nothing else is asked of it (`Tree.writableIff`). The required slots of a message are found by their
names, and the checks across slots are taken apart into the fields that exclude one another and the
decay parameters.
-/

namespace SearchWire

/-! ### Leaves -/

namespace Leaf

/-- A leaf that may be left out was set. -/
def isSet : (l : Leaf) → l.Value → Bool
  | required _, v => v.isSome
  | optional _, v => v.isSome
  | weight _, w => w.isExplicit
  | requiredList _, v => v.isSome
  | requiredVector _, v => v.isSome
  | present _, _ | defaulted _ _, _ | list _, _ | vector _, _ => true

/-- The column values of a leaf are of bounded length. -/
def Bounded : (l : Leaf) → l.Value → Prop
  | required t, v => ∀ x ∈ v, t.Bounded x
  | optional t, v => ∀ x ∈ v, t.Bounded x
  | present t, v => t.Bounded v
  | defaulted t _, v => t.Bounded v
  | list t, xs => ∀ x ∈ xs, t.Bounded x
  | requiredList t, v => ∀ xs ∈ v, ∀ x ∈ xs, t.Bounded x
  | weight _, _ | vector _, _ | requiredVector _, _ => True

/-- A leaf can be written if it is set, should it have to be, and is of bounded length. -/
lemma writable_iff {l : Leaf} {v : l.Value} :
    (∃ items, l.occurrences v = some items ∧ ∀ x ∈ items, ∃ content, l.writeItem x = .ok content) ↔
      (l.isRequired = true → l.isSet v = true) ∧ l.Bounded v := by
  have hscalar := @Scalar.exists_write_eq_ok_iff
  cases l with
  | required t => cases v <;> simp [occurrences, writeItem, isRequired, isSet, Bounded, hscalar]
  | optional t => cases v <;> simp [occurrences, writeItem, isRequired, Bounded, hscalar]
  | present t => simp [occurrences, writeItem, isRequired, Bounded, hscalar]
  | defaulted t d => simp [occurrences, writeItem, isRequired, Bounded, hscalar]
  | weight always =>
    cases always <;> simp [occurrences, writeItem, isRequired, Bounded, Scalar.write]
  | list t => simp [occurrences, writeItem, isRequired, Bounded, hscalar]
  | requiredList t =>
    cases v <;> simp [occurrences, writeItem, isRequired, isSet, Bounded, hscalar]
  | vector t => simp [occurrences, writeItem, isRequired, Bounded]
  | requiredVector t => cases v <;> simp [occurrences, writeItem, isRequired, isSet, Bounded]

end Leaf

namespace Tree

variable {m : MessageType} {s : Slot} {ss : List Slot}

/-! ### Set fields -/

/-- Something is set in a slot, or can stand there without being set. -/
def isSet : {s : Slot} → Tree (.slot m s) → Bool
  | .leaf _ l, leaf v => l.isSet v
  | .child _ _ _, unset => false
  | .child _ _ _, child _ => true
  | .children _ _, children _ => true
  | .decayParam _ _, noParam => false
  | .decayParam _ _, param _ _ => true

/-- The names of the slots that are set. -/
def setFields : {ss : List Slot} → Tree (.slots m ss) → List String
  | [], nil => []
  | s :: _, cons head tail => if head.isSet then s.name :: tail.setFields else tail.setFields

/-- The names of the fields of a message that are set. -/
def messageFields : Message m → List String
  | record slots => slots.setFields

/-- Everything that has to be set is set, at every depth; of the fields that exclude one another at
most one is; decay parameters pass their check; and no column value is too long. -/
def Complete : {c : Code} → Tree c → Prop
  | _, record (m := m) slots =>
    (∀ name ∈ m.requiredFields, name ∈ slots.setFields) ∧
      (m.exclusiveFields.filter (· ∈ slots.setFields)).length ≤ 1 ∧ slots.Complete
  | _, node _ payload => payload.Complete
  | _, criterion _ payload => payload.Complete
  | _, nil => True
  | _, cons head tail => head.Complete ∧ tail.Complete
  | .slot _ (.leaf _ l), leaf v => l.Bounded v
  | _, unset => True
  | _, child value => value.Complete
  | _, children values => values.Complete
  | _, noParam => True
  | _, param k payload =>
    (∀ name ∈ k.requiredFields, name ∈ payload.messageFields) ∧
      DecayParam.check ⟨k, payload⟩ = .ok () ∧ payload.Complete
  | _, empty => True
  | _, item first rest => first.Complete ∧ rest.Complete

/-! ### Required slots -/

/-- Every slot that has to be set is set. -/
def RequiredSet : {ss : List Slot} → Tree (.slots m ss) → Prop
  | [], nil => True
  | s :: _, cons head tail => (s.isRequired = true → head.isSet = true) ∧ tail.RequiredSet

lemma mem_setFields_cons_iff {head : Tree (.slot m s)} {tail : Tree (.slots m ss)} {name : String} :
    name ∈ (cons head tail).setFields ↔
      (head.isSet = true ∧ name = s.name) ∨ name ∈ tail.setFields := by
  rw [setFields]
  split <;> simp_all

lemma mem_names_of_mem_setFields {t : Tree (.slots m ss)} {name : String}
    (h : name ∈ t.setFields) : name ∈ ss.map Slot.name := by
  induction ss with
  | nil =>
    cases t
    simp [setFields] at h
  | cons s ss ih =>
    cases t with
    | cons head tail =>
      rw [List.map_cons, List.mem_cons]
      rcases mem_setFields_cons_iff.mp h with ⟨_, rfl⟩ | h
      · exact .inl rfl
      · exact .inr (ih h)

lemma mem_setFields_cons_self {head : Tree (.slot m s)} {tail : Tree (.slots m ss)}
    (hs : s.name ∉ ss.map Slot.name) :
    s.name ∈ (cons head tail).setFields ↔ head.isSet = true := by
  rw [mem_setFields_cons_iff]
  constructor
  · rintro (⟨h, _⟩ | h)
    · exact h
    · exact absurd (mem_names_of_mem_setFields h) hs
  · exact fun h => .inl ⟨h, rfl⟩

lemma mem_setFields_cons_of_ne {head : Tree (.slot m s)} {tail : Tree (.slots m ss)} {name : String}
    (h : name ≠ s.name) : name ∈ (cons head tail).setFields ↔ name ∈ tail.setFields := by
  simp only [mem_setFields_cons_iff, h, and_false, false_or]

lemma mem_setFields_of_pair {s' : Slot} {first : Tree (.slot m s)} {second : Tree (.slot m s')}
    {rest : Tree (.slots m ss)} (hfirst : first.isSet = true) (hsecond : second.isSet = true) :
    ∀ name ∈ [s.name, s'.name], name ∈ (cons first (cons second rest)).setFields := by
  intro name hname
  rcases List.mem_pair.mp hname with rfl | rfl
  · exact mem_setFields_cons_iff.mpr (.inl ⟨hfirst, rfl⟩)
  · exact mem_setFields_cons_iff.mpr (.inr (mem_setFields_cons_iff.mpr (.inl ⟨hsecond, rfl⟩)))

/-- With distinct names, the required slots are set if their names are among those that are set. -/
lemma requiredSet_iff (hss : (ss.map Slot.name).Nodup) (t : Tree (.slots m ss)) :
    t.RequiredSet ↔ ∀ name ∈ (ss.filter Slot.isRequired).map Slot.name, name ∈ t.setFields := by
  induction ss with
  | nil =>
    cases t
    simp [RequiredSet]
  | cons s ss ih =>
    cases t with
    | cons head tail =>
      obtain ⟨hs, hss⟩ := List.nodup_cons.mp hss
      have hnames : ∀ name ∈ (ss.filter Slot.isRequired).map Slot.name,
          (name ∈ tail.setFields ↔ name ∈ (cons head tail).setFields) := by
        intro name hname
        refine (mem_setFields_cons_of_ne ?_).symm
        rintro rfl
        exact hs (List.map_subset _ (List.filter_subset_self _) hname)
      rw [RequiredSet, ih hss, ← mem_setFields_cons_self hs]
      by_cases hrequired : s.isRequired = true
      · rw [List.filter_cons_of_pos hrequired, List.map_cons, List.forall_mem_cons]
        simp only [hrequired, true_implies]
        exact and_congr_right fun _ => forall₂_congr hnames
      · rw [List.filter_cons_of_neg hrequired]
        simp only [hrequired, Bool.false_eq_true, false_implies, true_and]
        exact forall₂_congr hnames

/-! ### Checks across slots -/

/-- The decay parameter in a slot passes its check. -/
def ParamPasses : {s : Slot} → Tree (.slot m s) → Prop
  | .decayParam _ _, param k payload => DecayParam.check ⟨k, payload⟩ = .ok ()
  | .decayParam _ _, noParam => True
  | .leaf _ _, _ | .child _ _ _, _ | .children _ _, _ => True

/-- The decay parameters in the slots pass their checks. -/
def ParamsPass : {ss : List Slot} → Tree (.slots m ss) → Prop
  | [], nil => True
  | _ :: _, cons head tail => head.ParamPasses ∧ tail.ParamsPass

/-- Slots pass where none of them can hold a decay parameter. -/
lemma paramsPass_of_all {ss : List Slot} (hss : ss.all (fun s => !s.holdsParam) = true)
    (t : Tree (.slots m ss)) : t.ParamsPass := by
  induction ss with
  | nil =>
    cases t
    trivial
  | cons s ss ih =>
    cases t with
    | cons head tail =>
      rw [List.all_cons, Bool.and_eq_true] at hss
      refine ⟨?_, ih hss.2 tail⟩
      cases s with
      | decayParam kind content => cases hss.1
      | leaf _ _ | child _ _ _ | children _ _ => trivial

end Tree

/-! ### Decay parameters -/

lemma DateDecayParam.isSome_scale_of_check {x : DateDecayParam} (h : x.check = .ok ()) :
    x.scale.isSome = true := by
  obtain ⟨long, string, scale, offset⟩ := x
  cases scale with
  | none => cases long <;> cases string <;> cases h
  | some scale => rfl

lemma checkDistances_eq_ok {m : MessageType} {scale offset : Option Binary64}
    (h : checkDistances m scale offset = .ok ()) : scale.isSome = true := by
  cases scale with
  | none => cases h
  | some scale => rfl

/-- A parameter that passes its check has the fields that it is required to have. -/
lemma DecayParam.requiredFields_of_check {k : DecayParamKind} {payload : Message k.payload}
    (h : DecayParam.check ⟨k, payload⟩ = .ok ()) :
    ∀ name ∈ k.requiredFields, name ∈ payload.messageFields := by
  intro name hname
  cases k with
  | date =>
    obtain rfl := List.mem_singleton.mp hname
    match payload with
    | .record (.cons (.leaf long) (.cons (.leaf string) (.cons scale (.cons offset .nil)))) =>
      have hscale := DateDecayParam.isSome_scale_of_check h
      cases scale with
      | unset => cases hscale
      | child scale =>
        exact Tree.mem_setFields_cons_iff.mpr (.inr (Tree.mem_setFields_cons_iff.mpr (.inr
          (Tree.mem_setFields_cons_iff.mpr (.inl ⟨rfl, rfl⟩)))))
  | numeric =>
    match payload with
    | .record (.cons (.leaf origin) (.cons (.leaf scale) (.cons (.leaf offset) .nil))) =>
      cases origin with
      | none => cases h
      | some origin =>
        have hscale : scale.isSome = true := checkDistances_eq_ok h
        refine Tree.mem_setFields_of_pair ?_ ?_ name hname
        · rfl
        · exact hscale
  | geo =>
    match payload with
    | .record (.cons (.leaf origin) (.cons (.leaf scale) (.cons (.leaf offset) .nil))) =>
      cases origin with
      | none => cases h
      | some origin =>
        have hscale : scale.isSome = true := checkDistances_eq_ok h
        refine Tree.mem_setFields_of_pair ?_ ?_ name hname
        · rfl
        · exact hscale

/-! ### Score functions -/

lemma Tree.isSome_toOption {m : MessageType} {tag : Tag} {s : Shape} {required : Bool}
    (t : Tree (.slot m (.child tag s required))) : t.toOption.isSome = t.isSet := by
  cases t <;> rfl

/-- The kinds of a score function are those of its fields that exclude one another and are set. -/
lemma ScoreFunction.kinds_ofMessage (slots : Slots .scoreFunction) :
    (ofMessage (.record slots)).kinds =
      (MessageType.exclusiveFields .scoreFunction).filter (· ∈ slots.setFields) := by
  generalize hfields : slots.setFields = fields
  match slots, hfields with
  | .cons (.leaf weight) (.cons filter (.cons factor (.cons decay (.cons random .nil)))),
    hfields =>
    have hfactor : "fieldValueFactor" ∈ fields ↔ factor.isSet = true := by
      rw [← hfields]
      exact (Tree.mem_setFields_cons_of_ne (by decide)).trans
        ((Tree.mem_setFields_cons_of_ne (by decide)).trans
          (Tree.mem_setFields_cons_self (by decide)))
    have hdecay : "decay" ∈ fields ↔ decay.isSet = true := by
      rw [← hfields]
      exact (Tree.mem_setFields_cons_of_ne (by decide)).trans
        ((Tree.mem_setFields_cons_of_ne (by decide)).trans
          ((Tree.mem_setFields_cons_of_ne (by decide)).trans
            (Tree.mem_setFields_cons_self (by decide))))
    have hrandom : "random" ∈ fields ↔ random.isSet = true := by
      rw [← hfields]
      exact (Tree.mem_setFields_cons_of_ne (by decide)).trans
        ((Tree.mem_setFields_cons_of_ne (by decide)).trans
          ((Tree.mem_setFields_cons_of_ne (by decide)).trans
            ((Tree.mem_setFields_cons_of_ne (by decide)).trans
              (Tree.mem_setFields_cons_self (by decide)))))
    simp only [kinds, ofMessage, Tree.isSome_toOption, MessageType.exclusiveFields,
      List.filter_cons, List.filter_nil, hfactor, hdecay, hrandom, Bool.decide_eq_true]
    cases factor.isSet <;> cases decay.isSet <;> cases random.isSet <;> rfl

lemma ScoreFunction.check_eq_ok_iff {x : ScoreFunction} :
    x.check = .ok () ↔ x.kinds.length ≤ 1 := by
  rw [check]
  split <;> simp_all

/-! ### Checks of messages -/

/-- A decay function that can be written passes its check if its parameter does. -/
lemma DecayFunction.check_eq_ok_iff {slots : Slots .decayFunction} (h : slots.Writable) :
    (ofMessage (.record slots)).check = .ok () ↔ slots.ParamsPass := by
  match slots with
  | .cons (.leaf fieldName) (.cons (.leaf mathFunction) (.cons param (.cons (.leaf decay)
    (.cons (.leaf multiValueMode) .nil)))) =>
    cases param with
    | noParam =>
      obtain ⟨_, h⟩ := Tree.writable_cons_iff.mp h
      obtain ⟨_, h⟩ := Tree.writable_cons_iff.mp h
      obtain ⟨h, _⟩ := Tree.writable_cons_iff.mp h
      exact absurd h Tree.not_writable_noParam
    | param k payload =>
      show (DecayParam.check ⟨k, payload⟩).within decayParamSegment = .ok () ↔ _
      rw [Result.within_eq_ok_iff]
      constructor
      · intro h
        exact ⟨trivial, trivial, h, trivial, trivial, trivial⟩
      · rintro ⟨_, _, h, _⟩
        exact h

/-- Slots that can be written go together if at most one of those that exclude one another is set,
and the decay parameter in them passes its check. -/
lemma MessageType.check_eq_ok_iff {m : MessageType} {slots : Slots m} (h : slots.Writable) :
    m.check slots = .ok () ↔
      (m.exclusiveFields.filter (· ∈ slots.setFields)).length ≤ 1 ∧ slots.ParamsPass := by
  cases m
  case scoreFunction =>
    have hparams : slots.ParamsPass := Tree.paramsPass_of_all rfl slots
    rw [check, ScoreFunction.check_eq_ok_iff, ScoreFunction.kinds_ofMessage]
    exact ⟨fun h => ⟨h, hparams⟩, And.left⟩
  case decayFunction =>
    rw [check, DecayFunction.check_eq_ok_iff h]
    exact ⟨fun h => ⟨Nat.zero_le 1, h⟩, And.right⟩
  all_goals
    have hparams := Tree.paramsPass_of_all rfl slots
    exact ⟨fun _ => ⟨Nat.zero_le 1, hparams⟩, fun _ => rfl⟩

/-! ### Trees -/

/-- What can be written is what is complete: of slots, apart from the checks of the message that
they belong to. -/
def Tree.WritableIff : {c : Code} → Tree c → Prop
  | .shape _, t => t.Writable ↔ t.Complete
  | .slots _ _, t => t.Writable ∧ t.ParamsPass ↔ t.RequiredSet ∧ t.Complete
  | .slot _ s, t => t.Writable ∧ t.ParamPasses ↔ (s.isRequired = true → t.isSet = true) ∧ t.Complete
  | .items _, t => t.Writable ↔ t.Complete

/-- A message can be written if its slots can, with their checks. -/
lemma Tree.writableIff_record {m : MessageType} {slots : Slots m} (ih : slots.WritableIff) :
    (record slots).WritableIff := by
  have hrequired := requiredSet_iff m.nodup_names slots
  rw [← m.requiredFields_eq] at hrequired
  show (record slots).Writable ↔ _ ∧ _ ∧ _
  rw [writable_record_iff, ← hrequired]
  constructor
  · rintro ⟨hcheck, hslots⟩
    obtain ⟨hexclusive, hparams⟩ := (MessageType.check_eq_ok_iff hslots).mp hcheck
    obtain ⟨hset, hcomplete⟩ := ih.mp ⟨hslots, hparams⟩
    exact ⟨hset, hexclusive, hcomplete⟩
  · rintro ⟨hset, hexclusive, hcomplete⟩
    obtain ⟨hslots, hparams⟩ := ih.mpr ⟨hset, hcomplete⟩
    exact ⟨(MessageType.check_eq_ok_iff hslots).mpr ⟨hexclusive, hparams⟩, hslots⟩

lemma Tree.writableIff {c : Code} (t : Tree c) : t.WritableIff := by
  induction t with
  | record slots ih => exact writableIff_record ih
  | node k payload ih => exact writable_node_iff.trans ih
  | criterion k payload ih => exact writable_criterion_iff.trans ih
  | nil => exact ⟨fun _ => ⟨trivial, trivial⟩, fun _ => ⟨writable_nil, trivial⟩⟩
  | cons head tail ihhead ihtail =>
    show _ ∧ _ ∧ _ ↔ (_ ∧ _) ∧ _ ∧ _
    rw [writable_cons_iff, and_and_and_comm, and_and_and_comm (c := head.Complete)]
    exact and_congr ihhead ihtail
  | leaf v =>
    show _ ∧ True ↔ _
    rw [and_true, writable_leaf_iff]
    exact Leaf.writable_iff
  | @unset _ _ _ required =>
    show _ ∧ True ↔ (required = true → false = true) ∧ True
    rw [and_true, and_true, writable_unset_iff]
    cases required <;> simp
  | child value ih =>
    show _ ∧ True ↔ (_ → true = true) ∧ value.Complete
    rw [and_true, writable_child_iff]
    exact ⟨fun h => ⟨fun _ => rfl, ih.mp h⟩, fun h => ih.mpr h.2⟩
  | children values ih =>
    show _ ∧ True ↔ (_ → true = true) ∧ values.Complete
    rw [and_true, writable_children_iff]
    exact ⟨fun h => ⟨fun _ => rfl, ih.mp h⟩, fun h => ih.mpr h.2⟩
  | noParam =>
    constructor
    · rintro ⟨h, _⟩
      exact absurd h not_writable_noParam
    · rintro ⟨h, _⟩
      exact absurd (h rfl) Bool.false_ne_true
  | param k payload ih =>
    show _ ∧ _ ↔ (_ → true = true) ∧ _ ∧ _ ∧ _
    rw [writable_param_iff]
    constructor
    · rintro ⟨hpayload, hcheck⟩
      exact ⟨fun _ => rfl, DecayParam.requiredFields_of_check hcheck, hcheck, ih.mp hpayload⟩
    · rintro ⟨_, _, hcheck, hpayload⟩
      exact ⟨ih.mpr hpayload, hcheck⟩
  | empty => exact ⟨fun _ => trivial, fun _ => writable_empty⟩
  | item first rest ihfirst ihrest => exact writable_item_iff.trans (and_congr ihfirst ihrest)

/-- Exactly the complete values can be written. -/
theorem exists_encode_iff_complete {s : Shape} (v : Value s) :
    (∃ bs, encode v = .ok bs) ↔ v.Complete :=
  v.writableIff

end SearchWire
