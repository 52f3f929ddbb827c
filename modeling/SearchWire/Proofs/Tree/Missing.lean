import Mathlib
import SearchWire.Proofs.Tree.Complete

/-!
# Missing fields

When a message lacks a field that it has to have (`Tree.Lacks`). The checks across slots report
nothing but such a field, of the message itself or of a parameter that it holds, and fields that do
not go together (`MessageType.check_eq_error`).
-/

namespace SearchWire

open Result

namespace Tree

/-- The tree stands in one of the given slots of a message. -/
inductive StandsIn {m : MessageType} {s : Slot} (t : Tree (.slot m s)) :
    {ss : List Slot} → Tree (.slots m ss) → Prop
  | head {ss : List Slot} {rest : Tree (.slots m ss)} : StandsIn t (cons t rest)
  | tail {s' : Slot} {ss : List Slot} {first : Tree (.slot m s')} {rest : Tree (.slots m ss)}
    (h : StandsIn t rest) : StandsIn t (cons first rest)

/-- A field that a message has to have is not set in it: in any message, or in a parameter that a
decay function holds. The origin of a parameter in time may have either of two forms. -/
inductive Lacks : {m : MessageType} → Message m → String → Prop
  | field {m : MessageType} {w : Message m} {name : String} (hrequired : name ∈ m.requiredFields)
    (hunset : name ∉ w.messageFields) : Lacks w name
  | paramField {k : DecayParamKind} {w : Message k.payload} {name : String}
    (hrequired : name ∈ k.requiredFields) (hunset : name ∉ w.messageFields) : Lacks w name
  | origin {w : Message .dateDecayParam} (hlong : "originLong" ∉ w.messageFields)
    (hstring : "originString" ∉ w.messageFields) : Lacks w "origin"

/-- What stands in a slot of a message stands in one of its slots. -/
lemma StandsIn.mem {m : MessageType} {s : Slot} {t : Tree (.slot m s)} {ss : List Slot}
    {slots : Tree (.slots m ss)} (h : t.StandsIn slots) : s ∈ ss := by
  induction h with
  | head => exact List.mem_cons_self
  | tail _ ih => exact List.mem_cons_of_mem _ ih

/-- With distinct names, a slot in which nothing is set is not among the fields that are set. -/
lemma StandsIn.not_mem_setFields {m : MessageType} {s : Slot} {t : Tree (.slot m s)}
    {ss : List Slot} {slots : Tree (.slots m ss)} (h : t.StandsIn slots)
    (hss : (ss.map Slot.name).Nodup) (hunset : t.isSet = false) : s.name ∉ slots.setFields := by
  induction h with
  | head =>
    rw [mem_setFields_cons_self (List.nodup_cons.mp hss).1, hunset]
    exact Bool.false_ne_true
  | tail h ih =>
    obtain ⟨hfirst, hrest⟩ := List.nodup_cons.mp hss
    rw [mem_setFields_cons_of_ne]
    · exact ih hrest
    · intro heq
      exact hfirst (heq ▸ List.mem_map_of_mem h.mem)

end Tree

/-! ### Decay parameters -/

lemma DateTimeValue.checkUnit_eq_error {x : DateTimeValue} {field : String} {e : Error}
    (h : x.checkUnit field = .error e) :
    ∃ reason, e = .invalid MessageType.dateDecayParam.name reason := by
  rw [checkUnit] at h
  split at h <;> cases h
  exact ⟨_, rfl⟩

lemma DateTimeValue.checkScale_eq_error {x : DateTimeValue} {e : Error}
    (h : x.checkScale = .error e) :
    ∃ reason, e = .invalid MessageType.dateDecayParam.name reason := by
  rcases bind_eq_error_iff.mp h with h | ⟨_, _, h⟩
  · exact checkUnit_eq_error h
  · split at h <;> cases h
    exact ⟨_, rfl⟩

lemma DateTimeValue.checkOffset_eq_error {x : DateTimeValue} {e : Error}
    (h : x.checkOffset = .error e) :
    ∃ reason, e = .invalid MessageType.dateDecayParam.name reason := by
  rcases bind_eq_error_iff.mp h with h | ⟨_, _, h⟩
  · exact checkUnit_eq_error h
  · split at h <;> cases h
    exact ⟨_, rfl⟩

/-- The check of a parameter in time asks for an origin and a scale, in this order. -/
lemma DateDecayParam.check_eq_error {x : DateDecayParam} {e : Error} (h : x.check = .error e) :
    (x.originLong = none ∧ x.originString = none ∧
        e = .required [] MessageType.dateDecayParam.name "origin") ∨
      (x.scale = none ∧ e = .required [] MessageType.dateDecayParam.name "scale") ∨
      ∃ reason, e = .invalid MessageType.dateDecayParam.name reason := by
  obtain ⟨long, string, scale, offset⟩ := x
  rw [check] at h
  split at h
  · rename_i horigin
    simp only [Bool.and_eq_true, Option.isNone_iff_eq_none] at horigin
    cases h
    exact .inl ⟨horigin.1, horigin.2, rfl⟩
  · cases scale with
    | none =>
      cases h
      exact .inr (.inl ⟨rfl, rfl⟩)
    | some scale =>
      rcases bind_eq_error_iff.mp h with h | ⟨_, _, h⟩
      · exact .inr (.inr (DateTimeValue.checkScale_eq_error h))
      · cases offset with
        | none => cases h
        | some offset => exact .inr (.inr (DateTimeValue.checkOffset_eq_error h))

/-- The check of distances asks for a scale. -/
lemma checkDistances_eq_error {m : MessageType} {scale offset : Option Binary64} {e : Error}
    (h : checkDistances m scale offset = .error e) :
    (scale = none ∧ e = .required [] m.name "scale") ∨ ∃ reason, e = .invalid m.name reason := by
  cases scale with
  | none =>
    cases h
    exact .inl ⟨rfl, rfl⟩
  | some scale =>
    simp only [checkDistances] at h
    split at h
    · cases h
      exact .inr ⟨_, rfl⟩
    · cases offset with
      | none => cases h
      | some offset =>
        simp only at h
        split at h <;> cases h
        exact .inr ⟨_, rfl⟩

/-- A check of a parameter reports a field that the parameter lacks, or that its fields do not go
together. -/
lemma DecayParam.check_eq_error {k : DecayParamKind} {payload : Message k.payload} {e : Error}
    (h : DecayParam.check ⟨k, payload⟩ = .error e) :
    (∃ name, e = .required [] k.payload.name name ∧ payload.Lacks name) ∨
      ∃ reason, e = .invalid k.payload.name reason := by
  cases k with
  | date =>
    have hnames := MessageType.nodup_names .dateDecayParam
    match payload with
    | .record (.cons (.leaf long) (.cons (.leaf string) (.cons scale (.cons offset .nil)))) =>
      rcases DateDecayParam.check_eq_error h with ⟨hlong, hstring, rfl⟩ | ⟨hscale, rfl⟩ | hreason
      · obtain rfl : long = none := hlong
        obtain rfl : string = none := hstring
        exact .inl ⟨_, rfl, .origin (Tree.StandsIn.head.not_mem_setFields hnames rfl)
          (Tree.StandsIn.head.tail.not_mem_setFields hnames rfl)⟩
      · obtain rfl : scale = .unset := by
          cases scale with
          | unset => rfl
          | child value => cases hscale
        exact .inl ⟨_, rfl, .paramField (k := .date) (by decide)
          (Tree.StandsIn.head.tail.tail.not_mem_setFields hnames rfl)⟩
      · exact .inr hreason
  | numeric =>
    have hnames := MessageType.nodup_names .numericDecayParam
    match payload with
    | .record (.cons (.leaf origin) (.cons (.leaf scale) (.cons (.leaf offset) .nil))) =>
      cases origin with
      | none =>
        cases h
        exact .inl ⟨_, rfl, .paramField (k := .numeric) (by decide)
          (Tree.StandsIn.head.not_mem_setFields hnames rfl)⟩
      | some origin =>
        rcases checkDistances_eq_error h with ⟨rfl, rfl⟩ | hreason
        · exact .inl ⟨_, rfl, .paramField (k := .numeric) (by decide)
            (Tree.StandsIn.head.tail.not_mem_setFields hnames rfl)⟩
        · exact .inr hreason
  | geo =>
    have hnames := MessageType.nodup_names .geoDecayParam
    match payload with
    | .record (.cons (.leaf origin) (.cons (.leaf scale) (.cons (.leaf offset) .nil))) =>
      cases origin with
      | none =>
        cases h
        exact .inl ⟨_, rfl, .paramField (k := .geo) (by decide)
          (Tree.StandsIn.head.not_mem_setFields hnames rfl)⟩
      | some origin =>
        rcases checkDistances_eq_error h with ⟨rfl, rfl⟩ | hreason
        · exact .inl ⟨_, rfl, .paramField (k := .geo) (by decide)
            (Tree.StandsIn.head.tail.not_mem_setFields hnames rfl)⟩
        · exact .inr hreason

/-! ### Checks of messages -/

/-- The check of a decay function asks for a parameter, or reports what is wrong with it. -/
lemma DecayFunction.check_eq_error {slots : Slots .decayFunction} {e : Error}
    (h : (ofMessage (.record slots)).check = .error e) :
    (∃ field, e = .required [] MessageType.decayFunction.name field ∧
        (Tree.record slots).Lacks field) ∨
      ∃ (kind content : Tag) (k : DecayParamKind) (payload : Message k.payload) (e' : Error),
        (Tree.param k payload : Tree (.slot .decayFunction (.decayParam kind content))).StandsIn
            slots ∧
          DecayParam.check ⟨k, payload⟩ = .error e' ∧
          e'.within ⟨MessageType.decayFunction.name, content.name, none⟩ = e := by
  match slots with
  | .cons (.leaf fieldName) (.cons (.leaf mathFunction) (.cons param (.cons (.leaf decay)
    (.cons (.leaf multiValueMode) .nil)))) =>
    cases param with
    | noParam =>
      cases h
      exact .inl ⟨_, rfl, .field (by decide) (Tree.StandsIn.head.tail.tail.not_mem_setFields
        (MessageType.nodup_names .decayFunction) rfl)⟩
    | param k payload =>
      obtain ⟨e', he', rfl⟩ := within_eq_error_iff.mp h
      exact .inr ⟨_, _, k, payload, e', Tree.StandsIn.head.tail.tail, he', rfl⟩

/-- A check of a message reports a field that the message lacks, what is wrong with a parameter that
it holds, or that its fields do not go together. -/
lemma MessageType.check_eq_error {m : MessageType} {slots : Slots m} {e : Error}
    (h : m.check slots = .error e) :
    (∃ field, e = .required [] m.name field ∧ (Tree.record slots).Lacks field) ∨
      (∃ (kind content : Tag) (k : DecayParamKind) (payload : Message k.payload) (e' : Error),
        (Tree.param k payload : Tree (.slot m (.decayParam kind content))).StandsIn slots ∧
          DecayParam.check ⟨k, payload⟩ = .error e' ∧
          e'.within ⟨m.name, content.name, none⟩ = e) ∨
      ∃ reason, e = .invalid m.name reason := by
  cases m
  case scoreFunction =>
    rw [check, ScoreFunction.check] at h
    split at h <;> cases h
    exact .inr (.inr ⟨_, rfl⟩)
  case decayFunction => exact (DecayFunction.check_eq_error h).imp_right .inl
  all_goals cases h

end SearchWire
