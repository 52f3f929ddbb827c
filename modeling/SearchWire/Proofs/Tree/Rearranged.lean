import Mathlib
import SearchWire.Proofs.Tree.Agreement

/-!
# Changes that cannot be seen

Fields of different numbers may change places, a field may be put in front of another one of its
number that counts in its place, and the bytes of a child may be exchanged for others that are read
as the same child (`MessageType.Rearranged`). None of these changes what the fields say about a slot
(`MessageType.Rearranged.agree`).
-/

namespace SearchWire

open Result

/-- The kind of a decay parameter that a field says. -/
def Slot.kind? (m : MessageType) (kind content : Tag) (f : WireField) : Option DecayParamKind :=
  ((decayParam kind content).item? m f).bind Sum.getLeft?

/-- The content of a decay parameter that a field says. -/
def Slot.content? (m : MessageType) (kind content : Tag) (f : WireField) : Option Bytes :=
  ((decayParam kind content).item? m f).bind Sum.getRight?

lemma Slot.occurAlike_of_isSingular {s : Slot} (h : s.IsSingular) (xs ys : List s.Item) :
    s.OccurAlike xs ys := by
  cases s with
  | leaf tag l =>
    cases l with
    | requiredVector t => cases h
    | _ => trivial
  | _ => trivial

/-- The field of a message holds a child of the given shape, or one of a list of children. -/
def MessageType.HoldsChild (m : MessageType) (tag : Tag) (s : Shape) : Prop :=
  (∃ required, Slot.child tag s required ∈ m.slots) ∨ Slot.children tag s ∈ m.slots

/-- Changes to the fields of a message that cannot be seen in it. -/
inductive MessageType.Rearranged (m : MessageType) : List WireField → List WireField → Prop
  /-- Fields of different numbers change places. -/
  | reordered {fs gs : List WireField}
    (h : ∀ n, fs.filter (·.number == n) = gs.filter (·.number == n)) : Rearranged m fs gs
  /-- A field is put in front of another one that counts in its place. -/
  | overwritten {before behind : List WireField} {x y : WireField} {s : Slot} (hs : s ∈ m.slots)
    (hsingular : s.IsSingular) (hx : s.accepts x.number = true) (hy : y ∈ behind)
    (hnumber : y.number = x.number) : Rearranged m (before ++ behind) (before ++ x :: behind)
  /-- The bytes of a child are exchanged for others that are read as the same child. -/
  | child {before behind : List WireField} {tag : Tag} {s : Shape} {v : Value s} {c c' : Bytes}
    (hs : m.HoldsChild tag s) (hc : decode s c = .ok v) (hc' : decode s c' = .ok v) :
    Rearranged m (before ++ ⟨tag.number, .bytes c⟩ :: behind)
      (before ++ ⟨tag.number, .bytes c'⟩ :: behind)
  /-- The bytes of a decay parameter are exchanged for others that are read as the same parameter of
  its kind. -/
  | param {before behind : List WireField} {kind content : Tag} {k : DecayParamKind}
    {p : Message k.payload} {c c' : Bytes} (hs : Slot.decayParam kind content ∈ m.slots)
    (hk : ((before ++ behind).filterMap (Slot.kind? m kind content)).getLast? = some k)
    (hc : decode (.message k.payload) c = .ok p) (hc' : decode (.message k.payload) c' = .ok p) :
    Rearranged m (before ++ ⟨content.number, .bytes c⟩ :: behind)
      (before ++ ⟨content.number, .bytes c'⟩ :: behind)

section

variable {m : MessageType} {s : Slot} {f x y : WireField} {fs gs before behind : List WireField}
  {β : Type} {g : WireField → Option β} {n : Nat}

/-- Only the fields of one number are looked at, and these stand in the same order. -/
lemma filterMap_eq_of_filter_eq (hg : ∀ f : WireField, f.number ≠ n → g f = none)
    (h : fs.filter (·.number == n) = gs.filter (·.number == n)) :
    fs.filterMap g = gs.filterMap g := by
  have hfilter : ∀ xs : List WireField, xs.filterMap g = (xs.filter (·.number == n)).filterMap g := by
    intro xs
    rw [List.filterMap_filter]
    apply List.filterMap_congr
    intro f _
    by_cases hf : f.number = n
    · simp only [hf, beq_self_eq_true, if_true]
    · rw [hg f hf, ite_self]
  rw [hfilter fs, hfilter gs, h]

/-- Only the fields of one number are looked at, and behind the field that is put in stands another
one of its number. -/
lemma getLast?_filterMap_overwritten (hg : ∀ f : WireField, f.number ≠ n → g f = none)
    (hgy : y.number = n → g y ≠ none) (hy : y ∈ behind) (hnumber : y.number = x.number) :
    ((before ++ x :: behind).filterMap g).getLast? = ((before ++ behind).filterMap g).getLast? := by
  by_cases hx : x.number = n
  · have hne : behind.filterMap g ≠ [] := by
      obtain ⟨b, hb⟩ := Option.ne_none_iff_exists'.mp (hgy (hnumber.trans hx))
      exact List.ne_nil_of_mem (List.mem_filterMap.mpr ⟨y, hy, hb⟩)
    have hcons : (x :: behind).filterMap g = (g x).toList ++ behind.filterMap g := by
      rw [List.filterMap_cons]
      cases g x <;> rfl
    rw [List.filterMap_append, List.filterMap_append, hcons, ← List.append_assoc,
      List.getLast?_append_of_ne_nil _ hne, List.getLast?_append_of_ne_nil _ hne]
  · rw [List.filterMap_append, List.filterMap_append, List.filterMap_cons_none (hg x hx)]

namespace Slot

lemma item?_eq_none (h : f.number ∉ s.numbers) : s.item? m f = none := by
  apply item?_eq_none_of_accepts
  rw [← Bool.not_eq_true, accepts_iff]
  exact h

/-- A field that converts does so in the slot that it belongs to. -/
lemma item?_ne_none (hs : s ∈ m.slots) (hf : m.Converts f) (h : s.accepts f.number = true) :
    s.item? m f ≠ none := by
  obtain ⟨s', hs', item, hitem⟩ := hf
  obtain rfl := m.regular.eq_of_accepts hs hs' h (item?_eq_some_iff.mp hitem).1
  rw [hitem]
  exact Option.some_ne_none item

/-- Fields that all convert say nothing about a slot exactly when none of them belongs to it. -/
lemma items_eq_nil_iff (hs : s ∈ m.slots) (hfs : ∀ f ∈ fs, m.Converts f) :
    s.items m fs = [] ↔ ∀ f ∈ fs, s.accepts f.number = false := by
  rw [items, List.filterMap_eq_nil_iff]
  constructor
  · intro h f hf
    rw [← Bool.not_eq_true]
    exact fun haccepts => item?_ne_none hs (hfs f hf) haccepts (h f hf)
  · exact fun h f hf => item?_eq_none_of_accepts (h f hf)

/-! #### Decay parameters -/

variable {kind content : Tag}

lemma filterMap_getLeft?_items : ((decayParam kind content).items m fs).filterMap Sum.getLeft? =
    fs.filterMap (kind? m kind content) :=
  List.filterMap_filterMap

lemma filterMap_getRight?_items : ((decayParam kind content).items m fs).filterMap Sum.getRight? =
    fs.filterMap (content? m kind content) :=
  List.filterMap_filterMap

lemma agree_decayParam_iff :
    (decayParam kind content).Agree ((decayParam kind content).items m fs)
        ((decayParam kind content).items m gs) ↔
      (fs.filterMap (kind? m kind content)).getLast? =
          (gs.filterMap (kind? m kind content)).getLast? ∧
        ∀ k ∈ (fs.filterMap (kind? m kind content)).getLast?,
          (fs.filterMap (content? m kind content)).getLast?.map (decode (.message k.payload)) =
            (gs.filterMap (content? m kind content)).getLast?.map
              (decode (.message k.payload)) := by
  rw [Agree, filterMap_getLeft?_items, filterMap_getLeft?_items, filterMap_getRight?_items,
    filterMap_getRight?_items]

/-- A field with the number of the kind says a kind. -/
lemma content?_of_eq_kind (hf : f.number = kind.number) : content? m kind content f = none := by
  rw [content?]
  cases h : (decayParam kind content).item? m f with
  | none => rfl
  | some item =>
    obtain ⟨_, hread⟩ := item?_eq_some_iff.mp h
    rw [readItem, if_pos hf, bind_eq_ok_iff] at hread
    obtain ⟨k, _, hread⟩ := hread
    obtain rfl := pure_eq_ok_iff.mp hread
    rfl

lemma kind?_of_ne_kind (hf : f.number ≠ kind.number) : kind? m kind content f = none := by
  rw [kind?]
  cases h : (decayParam kind content).item? m f with
  | none => rfl
  | some item =>
    obtain ⟨_, hread⟩ := item?_eq_some_iff.mp h
    rw [readItem, if_neg hf, bind_eq_ok_iff] at hread
    obtain ⟨bs, _, hread⟩ := hread
    obtain rfl := pure_eq_ok_iff.mp hread
    rfl

lemma content?_of_ne_content (hf : f.number ≠ content.number) :
    content? m kind content f = none := by
  by_cases hkind : f.number = kind.number
  · exact content?_of_eq_kind hkind
  · rw [content?, item?_eq_none (by simp [numbers, hf, hkind])]
    rfl

lemma content?_content {bs : Bytes} (hne : content.number ≠ kind.number) :
    content? m kind content ⟨content.number, .bytes bs⟩ = some bs := by
  have hitem : (decayParam kind content).item? m ⟨content.number, .bytes bs⟩ = some (.inr bs) := by
    rw [item?_eq_some_iff]
    refine ⟨by simp [accepts], ?_⟩
    rw [readItem, if_neg hne]
    rfl
  rw [content?, hitem]
  rfl

/-- A field that converts says either a kind or a content. -/
lemma kind?_ne_none_or_content?_ne_none (h : (decayParam kind content).item? m f ≠ none) :
    kind? m kind content f ≠ none ∨ content? m kind content f ≠ none := by
  obtain ⟨item, hitem⟩ := Option.ne_none_iff_exists'.mp h
  rw [kind?, content?, hitem]
  cases item with
  | inl k => exact .inl (Option.some_ne_none k)
  | inr bs => exact .inr (Option.some_ne_none bs)

end Slot

namespace MessageType

lemma agree_of_items_eq (h : ∀ s ∈ m.slots, s.items m fs = s.items m gs) :
    m.Agree fs gs ∧ m.OccurAlike fs gs := by
  constructor
  · intro s hs
    rw [h s hs]
    exact Slot.Agree.refl _
  · intro s hs
    rw [h s hs]
    exact Slot.OccurAlike.refl _

lemma agree_of_reordered (h : ∀ n, fs.filter (·.number == n) = gs.filter (·.number == n)) :
    m.Agree fs gs ∧ m.OccurAlike fs gs := by
  have hitems : ∀ s : Slot, ∀ n, s.numbers = [n] → s.items m fs = s.items m gs := by
    intro s n hs
    refine filterMap_eq_of_filter_eq (fun f hf => Slot.item?_eq_none ?_) (h n)
    rw [hs, List.mem_singleton]
    exact hf
  constructor
  · intro s _
    cases s with
    | leaf tag l =>
      rw [hitems _ tag.number rfl]
      exact Slot.Agree.refl _
    | child tag s required =>
      rw [hitems _ tag.number rfl]
      exact Slot.Agree.refl _
    | children tag s =>
      rw [hitems _ tag.number rfl]
      exact Slot.Agree.refl _
    | decayParam kind content =>
      have hkinds : fs.filterMap (Slot.kind? m kind content) = gs.filterMap _ :=
        filterMap_eq_of_filter_eq (fun f => Slot.kind?_of_ne_kind) (h kind.number)
      have hcontents : fs.filterMap (Slot.content? m kind content) = gs.filterMap _ :=
        filterMap_eq_of_filter_eq (fun f => Slot.content?_of_ne_content) (h content.number)
      rw [Slot.agree_decayParam_iff, hkinds, hcontents]
      exact ⟨rfl, fun _ _ => rfl⟩
  · intro s _
    cases s with
    | leaf tag l =>
      rw [hitems _ tag.number rfl]
      exact Slot.OccurAlike.refl _
    | child tag s required => trivial
    | children tag s => trivial
    | decayParam kind content => trivial

/-- The kind and the content of a decay parameter stand in different fields. -/
lemma content_ne_kind {kind content : Tag} (hs : Slot.decayParam kind content ∈ m.slots) :
    content.number ≠ kind.number := by
  have hnodup := (List.nodup_flatMap.mp m.regular.nodup).1 _ hs
  rw [Slot.numbers, List.nodup_cons, List.mem_singleton] at hnodup
  exact fun heq => hnodup.1 heq.symm

/-- Slots to which a field does not belong are not changed by it. -/
lemma items_insert {t : Slot} (ht : t.accepts x.number = false) :
    t.items m (before ++ behind) = t.items m (before ++ x :: behind) := by
  rw [Slot.items, Slot.items, List.filterMap_append, List.filterMap_append,
    List.filterMap_cons_none (Slot.item?_eq_none_of_accepts ht)]

lemma agree_of_overwritten {s : Slot} (hs : s ∈ m.slots) (hsingular : s.IsSingular)
    (hx : s.accepts x.number = true) (hy : y ∈ behind) (hnumber : y.number = x.number)
    (hconvert : m.Converts y) :
    s.Agree (s.items m (before ++ behind)) (s.items m (before ++ x :: behind)) := by
  have hitem : s.item? m y ≠ none := by
    apply Slot.item?_ne_none hs hconvert
    rw [hnumber]
    exact hx
  have hlast : ∀ n, s.numbers = [n] → (s.items m (before ++ behind)).getLast? =
      (s.items m (before ++ x :: behind)).getLast? := by
    intro n hn
    have hsupport : ∀ f : WireField, f.number ≠ n → s.item? m f = none := by
      intro f hf
      apply Slot.item?_eq_none
      rw [hn, List.mem_singleton]
      exact hf
    exact (getLast?_filterMap_overwritten hsupport (fun _ => hitem) hy hnumber).symm
  cases s with
  | leaf tag l =>
    have htag := hlast tag.number rfl
    cases l with
    | list t | requiredList t | vector t | requiredVector t => cases hsingular
    | required t | optional t | present t | defaulted t d | weight always => exact htag
  | child tag s required => exact hlast tag.number rfl
  | children tag s => cases hsingular
  | decayParam kind content =>
    -- the field that is put in has the number of the kind or that of the content; behind it stands
    -- one that says the same part of the parameter, and the other part is not touched
    have hne := m.content_ne_kind hs
    have hkinds : y.number = kind.number → Slot.kind? m kind content y ≠ none := by
      intro hy
      rcases Slot.kind?_ne_none_or_content?_ne_none hitem with hkind | hcontent
      · exact hkind
      · exact absurd (Slot.content?_of_eq_kind hy) hcontent
    have hcontents : y.number = content.number → Slot.content? m kind content y ≠ none := by
      intro hy
      rcases Slot.kind?_ne_none_or_content?_ne_none hitem with hkind | hcontent
      · exact absurd (Slot.kind?_of_ne_kind (by rwa [hy])) hkind
      · exact hcontent
    rw [Slot.agree_decayParam_iff,
      getLast?_filterMap_overwritten (fun f => Slot.kind?_of_ne_kind) hkinds hy hnumber,
      getLast?_filterMap_overwritten (fun f => Slot.content?_of_ne_content) hcontents hy hnumber]
    exact ⟨rfl, fun _ _ => rfl⟩

/-- A message looks at a child only as what it is read as. -/
lemma item?_child {tag : Tag} {s : Shape} {v : Value s} {c c' : Bytes} (hs : m.HoldsChild tag s)
    (hc : decode s c = .ok v) (hc' : decode s c' = .ok v) {t : Slot} (ht : t ∈ m.slots) :
    t.item? m ⟨tag.number, .bytes c⟩ = t.item? m ⟨tag.number, .bytes c'⟩ := by
  cases haccepts : t.accepts tag.number with
  | false => rw [Slot.item?_eq_none_of_accepts haccepts, Slot.item?_eq_none_of_accepts haccepts]
  | true =>
    rcases hs with ⟨required, hs⟩ | hs
    · obtain rfl := m.regular.eq_of_accepts hs ht (beq_self_eq_true tag.number) haccepts
      have hitem : ∀ d : Bytes, decode s d = .ok v →
          (Slot.child tag s required).item? m ⟨tag.number, .bytes d⟩ = some v := by
        intro d hd
        exact Slot.item?_eq_some_iff.mpr ⟨haccepts, readChild_eq_ok_iff.mpr ⟨d, rfl, hd⟩⟩
      rw [hitem c hc, hitem c' hc']
    · obtain rfl := m.regular.eq_of_accepts hs ht (beq_self_eq_true tag.number) haccepts
      have hitem : ∀ d : Bytes, decode s d = .ok v →
          (Slot.children tag s).item? m ⟨tag.number, .bytes d⟩ = some v := by
        intro d hd
        exact Slot.item?_eq_some_iff.mpr ⟨haccepts, readChild_eq_ok_iff.mpr ⟨d, rfl, hd⟩⟩
      rw [hitem c hc, hitem c' hc']

lemma agree_of_param {kind content : Tag} {k : DecayParamKind} {p : Message k.payload}
    {c c' : Bytes} (hs : Slot.decayParam kind content ∈ m.slots)
    (hk : ((before ++ behind).filterMap (Slot.kind? m kind content)).getLast? = some k)
    (hc : decode (.message k.payload) c = .ok p) (hc' : decode (.message k.payload) c' = .ok p) :
    (Slot.decayParam kind content).Agree
      ((Slot.decayParam kind content).items m (before ++ ⟨content.number, .bytes c⟩ :: behind))
      ((Slot.decayParam kind content).items m
        (before ++ ⟨content.number, .bytes c'⟩ :: behind)) := by
  have hne := m.content_ne_kind hs
  have hkinds : ∀ d : Bytes, (before ++ ⟨content.number, .bytes d⟩ :: behind).filterMap
      (Slot.kind? m kind content) = (before ++ behind).filterMap (Slot.kind? m kind content) := by
    intro d
    rw [List.filterMap_append, List.filterMap_append,
      List.filterMap_cons_none (Slot.kind?_of_ne_kind hne)]
  have hcontents : ∀ d : Bytes, decode (.message k.payload) d = .ok p →
      ((before ++ ⟨content.number, .bytes d⟩ :: behind).filterMap (Slot.content? m kind content)).map
          (decode (.message k.payload)) =
        (before.filterMap (Slot.content? m kind content)).map (decode (.message k.payload)) ++
          .ok p :: (behind.filterMap (Slot.content? m kind content)).map
            (decode (.message k.payload)) := by
    intro d hd
    rw [List.filterMap_append, List.filterMap_cons_some (Slot.content?_content hne),
      List.map_append, List.map_cons, hd]
  rw [Slot.agree_decayParam_iff, hkinds, hkinds, hk]
  refine ⟨rfl, ?_⟩
  rintro _ ⟨⟩
  rw [← List.getLast?_map, ← List.getLast?_map, hcontents c hc, hcontents c' hc']

/-- What holds of equal occurrences holds of all slots if it holds of the only one that fields of a
number belong to, and only these fields differ. -/
lemma forall_slots {P : (s : Slot) → List s.Item → List s.Item → Prop} (hrefl : ∀ s xs, P s xs xs)
    {s : Slot} (hs : s ∈ m.slots) (hn : s.accepts n = true)
    (hother : ∀ t : Slot, t.accepts n = false → t.items m fs = t.items m gs)
    (h : P s (s.items m fs) (s.items m gs)) :
    ∀ t ∈ m.slots, P t (t.items m fs) (t.items m gs) := by
  intro t ht
  cases hnt : t.accepts n with
  | false =>
    rw [hother t hnt]
    exact hrefl t _
  | true =>
    obtain rfl := m.regular.eq_of_accepts hs ht hn hnt
    exact h

/-- What cannot be seen in a message says the same about every slot. -/
lemma Rearranged.agree (h : m.Rearranged fs gs) (hconvert : ∀ f ∈ fs, m.Converts f) :
    m.Agree fs gs ∧ m.OccurAlike fs gs := by
  cases h with
  | reordered h => exact agree_of_reordered h
  | @overwritten before behind x y s hs hsingular hx hy hnumber =>
    have hother : ∀ t : Slot, t.accepts x.number = false →
        t.items m (before ++ behind) = t.items m (before ++ x :: behind) :=
      fun t => items_insert
    have hy' : m.Converts y := hconvert y (List.mem_append_right before hy)
    constructor
    · apply forall_slots (fun s => Slot.Agree.refl) hs hx hother
      exact agree_of_overwritten hs hsingular hx hy hnumber hy'
    · apply forall_slots (fun s => Slot.OccurAlike.refl) hs hx hother
      exact Slot.occurAlike_of_isSingular hsingular _ _
  | @child before behind tag s v c c' hs hc hc' =>
    apply agree_of_items_eq
    intro t ht
    rw [Slot.items, Slot.items, List.filterMap_append, List.filterMap_append, List.filterMap_cons,
      List.filterMap_cons, item?_child hs hc hc' ht]
  | @param before behind kind content k p c c' hs hk hc hc' =>
    have hother : ∀ t : Slot, t.accepts content.number = false →
        t.items m (before ++ ⟨content.number, .bytes c⟩ :: behind) =
          t.items m (before ++ ⟨content.number, .bytes c'⟩ :: behind) := by
      intro t ht
      rw [← items_insert (x := ⟨content.number, .bytes c⟩) ht,
        ← items_insert (x := ⟨content.number, .bytes c'⟩) ht]
    have hcontent : (Slot.decayParam kind content).accepts content.number = true := by
      rw [Slot.accepts_iff, Slot.numbers]
      exact List.mem_cons_of_mem _ List.mem_cons_self
    constructor
    · apply forall_slots (fun s => Slot.Agree.refl) hs hcontent hother
      exact agree_of_param hs hk hc hc'
    · apply forall_slots (fun s => Slot.OccurAlike.refl) hs hcontent hother
      trivial

end MessageType

end

end SearchWire
