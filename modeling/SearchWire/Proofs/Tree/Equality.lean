import Mathlib
import SearchWire.Message.Score
import SearchWire.Proofs.Schema.Equality
import SearchWire.Proofs.Tree.RoundTrip
import SearchWire.Tree.Equality

/-!
# Equality of trees

Equality of trees is symmetric and transitive, and exactly the trees without a NaN outside of a
weight equal themselves (`Tree.eq_self_iff`). What a value comes back as from its bytes differs
from it only in weights that count the same, so it equals the value exactly when the value equals
itself (`partialEquality_and_decode_encode`).
-/

namespace SearchWire

lemma Leaf.eq_withDefault (m : MessageType) (l : Leaf) (v w : l.Value) :
    l.eq (l.withDefault m v) w = l.eq v w := by
  cases l with
  | weight always =>
    by_cases hm : m.assumesWeight = true
    · simp only [withDefault, hm, if_true]
      rfl
    · simp only [withDefault, hm, if_false, Bool.false_eq_true]
  | _ => rfl

namespace Tree

/-- There is no NaN in the tree at any depth, but for weights. -/
def NaNFree : {c : Code} → Tree c → Prop
  | _, record slots => slots.NaNFree
  | _, node _ payload => payload.NaNFree
  | _, criterion _ payload => payload.NaNFree
  | _, nil => True
  | _, cons head tail => head.NaNFree ∧ tail.NaNFree
  | .slot _ (.leaf _ l), leaf v => l.NaNFree v
  | _, unset => True
  | _, child value => value.NaNFree
  | _, children values => values.NaNFree
  | _, noParam => True
  | _, param _ payload => payload.NaNFree
  | _, empty => True
  | _, item first rest => first.NaNFree ∧ rest.NaNFree

/-! ### Equal trees are built alike -/

lemma dite_eq_true_iff {p : Prop} [Decidable p] {b : p → Bool} :
    (if h : p then b h else false) = true ↔ ∃ h : p, b h = true := by
  by_cases hp : p
  · rw [dif_pos hp]
    constructor
    · intro h
      exact ⟨hp, h⟩
    · rintro ⟨_, h⟩
      exact h
  · rw [dif_neg hp]
    constructor
    · intro h
      cases h
    · rintro ⟨h, _⟩
      exact absurd h hp

lemma node_eq_node_iff {f : Family} {k k' : f.Kind} {v : Message (f.payload k)}
    {w : Message (f.payload k')} :
    (node k v).eq (node k' w) = true ↔ ∃ h : k' = k, v.eq (h ▸ w) = true :=
  dite_eq_true_iff

lemma criterion_eq_criterion_iff {k k' : CriterionKind} {v : Message k.payload}
    {w : Message k'.payload} :
    (criterion k v).eq (criterion k' w) = true ↔ ∃ h : k' = k, v.eq (h ▸ w) = true :=
  dite_eq_true_iff

lemma param_eq_param_iff {m : MessageType} {kind content : Tag} {k k' : DecayParamKind}
    {v : Message k.payload} {w : Message k'.payload} :
    (param k v : Tree (.slot m (.decayParam kind content))).eq (param k' w) = true ↔
      ∃ h : k' = k, v.eq (h ▸ w) = true :=
  dite_eq_true_iff

lemma cons_eq_cons_iff {m : MessageType} {s : Slot} {ss : List Slot} {v v' : Tree (.slot m s)}
    {vs vs' : Tree (.slots m ss)} :
    (cons v vs).eq (cons v' vs') = true ↔ v.eq v' = true ∧ vs.eq vs' = true := by
  rw [Tree.eq, Bool.and_eq_true]

lemma item_eq_item_iff {s : Shape} {v v' : Value s} {vs vs' : Tree (.items s)} :
    (item v vs).eq (item v' vs') = true ↔ v.eq v' = true ∧ vs.eq vs' = true := by
  rw [Tree.eq, Bool.and_eq_true]

/-! ### Laws -/

lemma eq_symm {c : Code} {t u : Tree c} (h : t.eq u = true) : u.eq t = true := by
  induction t with
  | record slots ih =>
    cases u with
    | record slots' => exact ih h
  | node k payload ih =>
    cases u with
    | node k' payload' =>
      obtain ⟨rfl, h⟩ := node_eq_node_iff.mp h
      exact node_eq_node_iff.mpr ⟨rfl, ih h⟩
  | criterion k payload ih =>
    cases u with
    | criterion k' payload' =>
      obtain ⟨rfl, h⟩ := criterion_eq_criterion_iff.mp h
      exact criterion_eq_criterion_iff.mpr ⟨rfl, ih h⟩
  | nil =>
    cases u with
    | nil => rfl
  | cons head tail ihhead ihtail =>
    cases u with
    | cons head' tail' =>
      obtain ⟨hhead, htail⟩ := cons_eq_cons_iff.mp h
      exact cons_eq_cons_iff.mpr ⟨ihhead hhead, ihtail htail⟩
  | @leaf _ _ l v =>
    cases u with
    | leaf w => exact l.partialEquality.symm h
  | unset =>
    cases u with
    | unset => rfl
    | child value => cases h
  | child value ih =>
    cases u with
    | unset => cases h
    | child value' => exact ih h
  | children values ih =>
    cases u with
    | children values' => exact ih h
  | noParam =>
    cases u with
    | noParam => rfl
    | param k payload => cases h
  | param k payload ih =>
    cases u with
    | noParam => cases h
    | param k' payload' =>
      obtain ⟨rfl, h⟩ := param_eq_param_iff.mp h
      exact param_eq_param_iff.mpr ⟨rfl, ih h⟩
  | empty =>
    cases u with
    | empty => rfl
    | item first rest => cases h
  | item first rest ihfirst ihrest =>
    cases u with
    | empty => cases h
    | item first' rest' =>
      obtain ⟨hfirst, hrest⟩ := item_eq_item_iff.mp h
      exact item_eq_item_iff.mpr ⟨ihfirst hfirst, ihrest hrest⟩

lemma eq_trans {c : Code} {t u v : Tree c} (h : t.eq u = true) (h' : u.eq v = true) :
    t.eq v = true := by
  induction t with
  | record slots ih =>
    cases u with
    | record slots' =>
      cases v with
      | record slots'' => exact ih h h'
  | node k payload ih =>
    cases u with
    | node k' payload' =>
      cases v with
      | node k'' payload'' =>
        obtain ⟨rfl, h⟩ := node_eq_node_iff.mp h
        obtain ⟨rfl, h'⟩ := node_eq_node_iff.mp h'
        exact node_eq_node_iff.mpr ⟨rfl, ih h h'⟩
  | criterion k payload ih =>
    cases u with
    | criterion k' payload' =>
      cases v with
      | criterion k'' payload'' =>
        obtain ⟨rfl, h⟩ := criterion_eq_criterion_iff.mp h
        obtain ⟨rfl, h'⟩ := criterion_eq_criterion_iff.mp h'
        exact criterion_eq_criterion_iff.mpr ⟨rfl, ih h h'⟩
  | nil =>
    cases u with
    | nil => exact h'
  | cons head tail ihhead ihtail =>
    cases u with
    | cons head' tail' =>
      cases v with
      | cons head'' tail'' =>
        obtain ⟨hhead, htail⟩ := cons_eq_cons_iff.mp h
        obtain ⟨hhead', htail'⟩ := cons_eq_cons_iff.mp h'
        exact cons_eq_cons_iff.mpr ⟨ihhead hhead hhead', ihtail htail htail'⟩
  | @leaf _ _ l value =>
    cases u with
    | leaf value' =>
      cases v with
      | leaf value'' => exact l.partialEquality.trans h h'
  | unset =>
    cases u with
    | unset => exact h'
    | child value => cases h
  | child value ih =>
    cases u with
    | unset => cases h
    | child value' =>
      cases v with
      | unset => cases h'
      | child value'' => exact ih h h'
  | children values ih =>
    cases u with
    | children values' =>
      cases v with
      | children values'' => exact ih h h'
  | noParam =>
    cases u with
    | noParam => exact h'
    | param k payload => cases h
  | param k payload ih =>
    cases u with
    | noParam => cases h
    | param k' payload' =>
      cases v with
      | noParam => cases h'
      | param k'' payload'' =>
        obtain ⟨rfl, h⟩ := param_eq_param_iff.mp h
        obtain ⟨rfl, h'⟩ := param_eq_param_iff.mp h'
        exact param_eq_param_iff.mpr ⟨rfl, ih h h'⟩
  | empty =>
    cases u with
    | empty => exact h'
    | item first rest => cases h
  | item first rest ihfirst ihrest =>
    cases u with
    | empty => cases h
    | item first' rest' =>
      cases v with
      | empty => cases h'
      | item first'' rest'' =>
        obtain ⟨hfirst, hrest⟩ := item_eq_item_iff.mp h
        obtain ⟨hfirst', hrest'⟩ := item_eq_item_iff.mp h'
        exact item_eq_item_iff.mpr ⟨ihfirst hfirst hfirst', ihrest hrest hrest'⟩

lemma eq_self_iff {c : Code} (t : Tree c) : t.eq t = true ↔ t.NaNFree := by
  induction t with
  | record slots ih => exact ih
  | node k payload ih =>
    rw [node_eq_node_iff, NaNFree, ← ih]
    exact exists_prop_of_true rfl
  | criterion k payload ih =>
    rw [criterion_eq_criterion_iff, NaNFree, ← ih]
    exact exists_prop_of_true rfl
  | nil => exact ⟨fun _ => trivial, fun _ => rfl⟩
  | cons head tail ihhead ihtail => rw [cons_eq_cons_iff, ihhead, ihtail, NaNFree]
  | @leaf _ _ l v => exact l.partialEquality.self_iff v
  | unset => exact ⟨fun _ => trivial, fun _ => rfl⟩
  | child value ih => exact ih
  | children values ih => exact ih
  | noParam => exact ⟨fun _ => trivial, fun _ => rfl⟩
  | param k payload ih =>
    rw [param_eq_param_iff, NaNFree, ← ih]
    exact exists_prop_of_true rfl
  | empty => exact ⟨fun _ => trivial, fun _ => rfl⟩
  | item first rest ihfirst ihrest => rw [item_eq_item_iff, ihfirst, ihrest, NaNFree]

/-! ### Weights that were never set -/

/-- A weight that is set to what it counts as changes no comparison. -/
lemma eq_withDefaults {c : Code} (t u : Tree c) : t.withDefaults.eq u = t.eq u := by
  induction t with
  | record slots ih =>
    cases u with
    | record slots' => exact ih slots'
  | node k payload ih =>
    cases u with
    | node k' payload' => simp only [withDefaults, Tree.eq, ih]
  | criterion k payload ih =>
    cases u with
    | criterion k' payload' => simp only [withDefaults, Tree.eq, ih]
  | nil => rfl
  | cons head tail ihhead ihtail =>
    cases u with
    | cons head' tail' => simp only [withDefaults, Tree.eq, ihhead, ihtail]
  | @leaf m _ l v =>
    cases u with
    | leaf w => exact l.eq_withDefault m v w
  | unset => rfl
  | child value ih =>
    cases u with
    | unset => rfl
    | child value' => exact ih value'
  | children values ih =>
    cases u with
    | children values' => exact ih values'
  | noParam => rfl
  | param k payload ih =>
    cases u with
    | noParam => rfl
    | param k' payload' => simp only [withDefaults, Tree.eq, ih]
  | empty => rfl
  | item first rest ihfirst ihrest =>
    cases u with
    | empty => rfl
    | item first' rest' => simp only [withDefaults, Tree.eq, ihfirst, ihrest]

end Tree

/-- The equalities of trees and of the scalars in them are symmetric and transitive, and exactly
what holds no NaN outside of a weight equals itself; a weight always does. A value that can be
written therefore comes back from its bytes as one that equals it exactly when it holds no such
NaN. -/
theorem partialEquality_and_decode_encode :
    (∀ c : Code, PartialEquality (Tree.eq (c := c)) Tree.NaNFree) ∧
    (∀ t : Scalar, PartialEquality t.eq t.NaNFree) ∧
    PartialEquality Weight.eq (fun _ => True) ∧
    ∀ {s : Shape} {v : Value s} {bs : Bytes}, encode v = .ok bs → bs.length < UInt64.size →
      ∃ w, decode s bs = .ok w ∧ (w.eq v = true ↔ v.NaNFree) := by
  refine ⟨?_, Scalar.partialEquality, Weight.partialEquality, ?_⟩
  · intro c
    exact ⟨Tree.eq_symm, Tree.eq_trans, Tree.eq_self_iff⟩
  · intro s v bs h hlength
    refine ⟨v.withDefaults, readsBack_decode s v bs h hlength, ?_⟩
    rw [Tree.eq_withDefaults, Tree.eq_self_iff]

/-- A query for scores of at least the given number. -/
def scoredFrom (x : Binary32) : Query :=
  FunctionsScoreQuery.mk none [] none none (some x) none

/-- A query whose weight is a NaN comes back as what equals it, together with one whose weight was
never set. A query for scores of at least a NaN does not. -/
theorem decode_encode_nan :
    let weightBytes : Bytes := [8, 6, 18, 30, 10, 15, 8, 5, 18, 11, 10, 1, 97, 18, 1, 98, 29, 0, 0,
      192, 127, 10, 11, 8, 17, 18, 7, 10, 1, 118, 16, 1, 26, 0]
    let scoreBytes : Bytes := [8, 18, 18, 5, 45, 0, 0, 192, 127]
    encode (prefixAndVector (.of ⟨0x7fc00000⟩)) = .ok weightBytes ∧
      (∃ w, decode (.node .query) weightBytes = .ok w ∧
        w.eq (prefixAndVector (.of ⟨0x7fc00000⟩)) = true) ∧
      encode (scoredFrom ⟨0x7fc00000⟩) = .ok scoreBytes ∧
      ∃ w, decode (.node .query) scoreBytes = .ok w ∧
        w.eq (scoredFrom ⟨0x7fc00000⟩) = false := by
  intro weightBytes scoreBytes
  obtain ⟨_, _, _, hback⟩ := partialEquality_and_decode_encode
  have hweight : encode (prefixAndVector (.of ⟨0x7fc00000⟩)) = .ok weightBytes := by cbv
  have hscore : encode (scoredFrom ⟨0x7fc00000⟩) = .ok scoreBytes := by cbv
  refine ⟨hweight, ?_, hscore, ?_⟩
  · obtain ⟨w, hw, heq⟩ := hback hweight (by decide)
    refine ⟨w, hw, heq.mpr ?_⟩
    simp [prefixAndVector, BoolQuery.toMessage, PrefixQuery.toMessage, KnnVectorQuery.toMessage,
      KnnVectorQuery.of, Tree.ofChildren, Tree.ofList, Tree.ofOption, Tree.NaNFree, Leaf.NaNFree,
      Scalar.NaNFree]
  · obtain ⟨w, hw, heq⟩ := hback hscore (by decide)
    refine ⟨w, hw, ?_⟩
    rw [← Bool.not_eq_true, heq]
    rintro ⟨_, _, _, _, hmin, _⟩
    have hnan := hmin ⟨0x7fc00000⟩ rfl
    cases hnan

end SearchWire
