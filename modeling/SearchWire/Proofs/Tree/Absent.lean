import Mathlib
import SearchWire.Proofs.Tree.Accepted
import SearchWire.Proofs.Tree.Faults
import SearchWire.Proofs.Tree.Rearranged

/-!
# Absent fields

Which fields of a message have to occur to be read. Once all fields of a message convert, its slots
are settled in their order, and the first one that goes without a field that it has to have is
reported (`MessageType.settled`). A decay function goes on to read its parameter there, from the last
kind and the last content that occur.
-/

namespace SearchWire

open Result

/-! ### Fields that have to occur -/

/-- Whether the field of a leaf with the rule has to occur to be read. -/
def Leaf.mustOccur : Leaf → Bool
  | .required _ | .present _ | .requiredVector _ => true
  | .optional _ | .defaulted _ _ | .weight _ | .list _ | .requiredList _ | .vector _ => false

/-- The fields of a slot that have to occur to be read. -/
def Slot.mandatory : Slot → List Tag
  | .leaf tag l => if l.mustOccur then [tag] else []
  | .child tag _ required => if required then [tag] else []
  | .children _ _ => []
  | .decayParam kind content => [kind, content]

/-- Whether no field has the number. -/
def Tag.isAbsent (tag : Tag) (fs : List WireField) : Bool := !fs.any (·.number == tag.number)

section

variable {m : MessageType} {s : Slot} {ss : List Slot} {fs : List WireField} {tag : Tag} {e : Error}

lemma Tag.isAbsent_iff : tag.isAbsent fs = true ↔ ∀ f ∈ fs, f.number ≠ tag.number := by
  simp [isAbsent]

lemma Tag.isAbsent_eq_false_iff : tag.isAbsent fs = false ↔ ∃ f ∈ fs, f.number = tag.number := by
  simp [isAbsent]

lemma Tag.last?_eq_none_iff : WireField.last? tag.number fs = none ↔ tag.isAbsent fs = true := by
  rw [WireField.last?, Option.map_eq_none_iff, List.getLast?_eq_none_iff, List.filter_eq_nil_iff,
    isAbsent_iff]
  simp

lemma Leaf.settle_eq_none_iff {l : Leaf} {items : List l.Item} :
    l.settle items = none ↔ l.mustOccur = true ∧ items = [] := by
  cases l <;> simp [settle, mustOccur]

/-- The fields that convert say nothing about a slot of one field if that is absent. -/
lemma Slot.items_eq_nil_iff_isAbsent (hs : s ∈ m.slots) (hfs : ∀ f ∈ fs, m.Converts f)
    (htag : s.numbers = [tag.number]) : s.items m fs = [] ↔ tag.isAbsent fs = true := by
  rw [items_eq_nil_iff hs hfs, Tag.isAbsent_iff]
  refine forall₂_congr fun f _ => ?_
  rw [← Bool.not_eq_true, accepts_iff, htag, List.mem_singleton]

/-! ### Decay parameters -/

/-- What the last field of a number holds is what it says, where all fields of the number say
something, and no other fields do. -/
lemma last?_eq_map_getLast? {β : Type} {g : WireField → Option β} {w : β → WireValue} {n : Nat}
    (hg : ∀ f ∈ fs, f.number = n → ∃ b, g f = some b ∧ f.value = w b)
    (hother : ∀ f : WireField, f.number ≠ n → g f = none) :
    WireField.last? n fs = (fs.filterMap g).getLast?.map w := by
  rw [WireField.last?, ← List.getLast?_map, ← List.getLast?_map]
  congr 1
  induction fs with
  | nil => rfl
  | cons f fs ih =>
    obtain ⟨hf, hfs⟩ := List.forall_mem_cons.mp hg
    by_cases hnumber : f.number = n
    · obtain ⟨b, hb, hvalue⟩ := hf hnumber
      rw [List.filter_cons_of_pos (by simp [hnumber]), List.filterMap_cons_some hb, List.map_cons,
        List.map_cons, ih hfs, hvalue]
    · rw [List.filter_cons_of_neg (by simp [hnumber]), List.filterMap_cons_none (hother f hnumber),
        ih hfs]

namespace Slot

variable {kind content : Tag} {k : DecayParamKind} {bs : Bytes}

lemma last?_kind (hs : .decayParam kind content ∈ m.slots) (hfs : ∀ f ∈ fs, m.Converts f) :
    WireField.last? kind.number fs =
      (fs.filterMap (kind? m kind content)).getLast?.map .ofMember := by
  refine last?_eq_map_getLast? (fun f hf hnumber => ?_) fun f => kind?_of_ne_kind
  have haccepts : (decayParam kind content).accepts f.number = true := by simp [accepts, hnumber]
  obtain ⟨item, hitem⟩ := Option.ne_none_iff_exists'.mp (item?_ne_none hs (hfs f hf) haccepts)
  obtain ⟨_, hread⟩ := item?_eq_some_iff.mp hitem
  rw [kind?, hitem]
  cases item with
  | inl k =>
    have hvalue := Scalar.read_enum_eq_ok_iff.mp (readItem_eq_ok_inl_iff.mp hread).2
    exact ⟨k, rfl, hvalue⟩
  | inr bs => exact absurd hnumber (readItem_eq_ok_inr_iff.mp hread).1

lemma last?_content (hs : .decayParam kind content ∈ m.slots) (hfs : ∀ f ∈ fs, m.Converts f) :
    WireField.last? content.number fs =
      (fs.filterMap (content? m kind content)).getLast?.map .bytes := by
  refine last?_eq_map_getLast? (fun f hf hnumber => ?_) fun f => content?_of_ne_content
  have haccepts : (decayParam kind content).accepts f.number = true := by simp [accepts, hnumber]
  obtain ⟨item, hitem⟩ := Option.ne_none_iff_exists'.mp (item?_ne_none hs (hfs f hf) haccepts)
  obtain ⟨_, hread⟩ := item?_eq_some_iff.mp hitem
  rw [content?, hitem]
  cases item with
  | inl k =>
    exact absurd (hnumber.symm.trans (readItem_eq_ok_inl_iff.mp hread).1) (m.content_ne_kind hs)
  | inr bs => exact ⟨bs, rfl, (readItem_eq_ok_inr_iff.mp hread).2⟩

end Slot

/-! ### Slots -/

/-- The first of the fields of the slots that has to occur and does not. -/
def firstAbsent (ss : List Slot) (fs : List WireField) : Option Tag :=
  (ss.flatMap Slot.mandatory).find? (·.isAbsent fs)

/-- What slots are settled to: a value if every field occurs that has to, unless the fields of a
parameter say one that cannot be read; otherwise the first of these fields is missing. -/
inductive Settled (m : MessageType) (fs : List WireField) {α : Type} (ss : List Slot) :
    Result α → Prop
  | ok {a : α} (hnone : firstAbsent ss fs = none) : Settled m fs ss (.ok a)
  | absent {tag : Tag} (htag : firstAbsent ss fs = some tag) :
    Settled m fs ss (.error (.required [] m.name tag.name))
  | param {kind content : Tag} {k : DecayParamKind} {bs : Bytes} {e : Error}
    (hs : .decayParam kind content ∈ ss) (hnone : firstAbsent ss fs = none)
    (hk : WireField.last? kind.number fs = some (.ofMember k))
    (hbs : WireField.last? content.number fs = some (.bytes bs))
    (he : decode (.message k.payload) bs = .error e) :
    Settled m fs ss (.error (e.within ⟨m.name, content.name, none⟩))

/-- A slot of one field is missing if that field has to occur and does not. -/
lemma Slot.settled_leaf {l : Leaf} (hs : .leaf tag l ∈ m.slots) (hfs : ∀ f ∈ fs, m.Converts f) :
    Settled m fs [.leaf tag l]
      ((Slot.leaf tag l).settle decode m ((Slot.leaf tag l).items m fs)) := by
  have habsent := items_eq_nil_iff_isAbsent hs hfs rfl
  rw [settle]
  cases h : l.settle ((Slot.leaf tag l).items m fs) with
  | none =>
    obtain ⟨hmust, hnil⟩ := Leaf.settle_eq_none_iff.mp h
    exact .absent (by simp [firstAbsent, mandatory, hmust, habsent.mp hnil])
  | some v =>
    refine .ok ?_
    by_cases hmust : l.mustOccur = true
    · have hoccurs : ¬ tag.isAbsent fs = true := by
        rw [← habsent]
        intro hnil
        rw [Leaf.settle_eq_none_iff.mpr ⟨hmust, hnil⟩] at h
        cases h
      simp [firstAbsent, mandatory, hmust, hoccurs]
    · simp [firstAbsent, mandatory, hmust]

lemma Slot.settled_child {s : Shape} {required : Bool} (hs : .child tag s required ∈ m.slots)
    (hfs : ∀ f ∈ fs, m.Converts f) : Settled m fs [.child tag s required]
      ((Slot.child tag s required).settle decode m ((Slot.child tag s required).items m fs)) := by
  have habsent := items_eq_nil_iff_isAbsent hs hfs rfl
  rw [settle]
  cases h : ((Slot.child tag s required).items m fs).getLast? with
  | none =>
    rw [List.getLast?_eq_none_iff, habsent] at h
    cases required with
    | true => exact .absent (by simp [firstAbsent, mandatory, h])
    | false => exact .ok (by simp [firstAbsent, mandatory])
  | some v =>
    have hoccurs : ¬ tag.isAbsent fs = true := by
      rw [← habsent, ← List.getLast?_eq_none_iff, h]
      exact Option.some_ne_none v
    exact .ok (by cases required <;> simp [firstAbsent, mandatory, hoccurs])

/-- A decay parameter is missing if its kind or its content is. -/
lemma Slot.settled_decayParam {kind content : Tag} (hs : .decayParam kind content ∈ m.slots)
    (hfs : ∀ f ∈ fs, m.Converts f) : Settled m fs [.decayParam kind content]
      ((decayParam kind content).settle decode m ((decayParam kind content).items m fs)) := by
  have hkind := last?_kind hs hfs
  have hcontent := last?_content hs hfs
  rw [settle, filterMap_getLeft?_items, filterMap_getRight?_items]
  cases hk : (fs.filterMap (kind? m kind content)).getLast? with
  | none =>
    rw [hk, Option.map_none, Tag.last?_eq_none_iff] at hkind
    exact .absent (by simp [firstAbsent, mandatory, hkind])
  | some k =>
    have hkoccurs : ¬ kind.isAbsent fs = true := by
      rw [← Tag.last?_eq_none_iff, hkind, hk]
      exact Option.some_ne_none _
    cases hbs : (fs.filterMap (content? m kind content)).getLast? with
    | none =>
      rw [hbs, Option.map_none, Tag.last?_eq_none_iff] at hcontent
      exact .absent (by simp [firstAbsent, mandatory, hkoccurs, hcontent])
    | some bs =>
      have hcoccurs : ¬ content.isAbsent fs = true := by
        rw [← Tag.last?_eq_none_iff, hcontent, hbs]
        exact Option.some_ne_none _
      have hnone : firstAbsent [.decayParam kind content] fs = none := by
        simp [firstAbsent, mandatory, hkoccurs, hcoccurs]
      rw [hk] at hkind
      rw [hbs] at hcontent
      show Settled m fs _ (do
        let payload ← (decode (.message k.payload) bs).within ⟨m.name, content.name, none⟩
        return Tree.param k payload)
      cases he : decode (.message k.payload) bs with
      | ok payload => exact .ok hnone
      | error e => exact .param List.mem_cons_self hnone hkind hcontent he

/-- Every slot is settled so. -/
lemma Slot.settled (hs : s ∈ m.slots) (hfs : ∀ f ∈ fs, m.Converts f) :
    Settled m fs [s] (s.settle decode m (s.items m fs)) := by
  cases s with
  | leaf tag l => exact settled_leaf hs hfs
  | child tag s required => exact settled_child hs hfs
  | children tag s => exact .ok rfl
  | decayParam kind content => exact settled_decayParam hs hfs

/-- A decay parameter is what the last content is read as, by the last kind. -/
lemma Slot.exists_of_settle_decayParam {kind content : Tag}
    {t : Tree (.slot m (.decayParam kind content))} (hs : .decayParam kind content ∈ m.slots)
    (hfs : ∀ f ∈ fs, m.Converts f)
    (h : (decayParam kind content).settle decode m ((decayParam kind content).items m fs) = .ok t) :
    ∃ (k : DecayParamKind) (bs : Bytes) (payload : Message k.payload),
      WireField.last? kind.number fs = some (.ofMember k) ∧
      WireField.last? content.number fs = some (.bytes bs) ∧
      decode (.message k.payload) bs = .ok payload ∧ t = .param k payload := by
  rw [settle, filterMap_getLeft?_items, filterMap_getRight?_items] at h
  split at h
  · cases h
  · rename_i k hk
    split at h
    · cases h
    · rename_i bs hbs
      obtain ⟨payload, hpayload, ht⟩ := bind_eq_ok_iff.mp h
      refine ⟨k, bs, payload, ?_, ?_, within_eq_ok_iff.mp hpayload, (pure_eq_ok_iff.mp ht).symm⟩
      · rw [last?_kind hs hfs, hk]
        rfl
      · rw [last?_content hs hfs, hbs]
        rfl

/-! ### Messages -/

/-- Behind a decay parameter, no field has to occur. -/
lemma MessageType.mandatory_eq_nil (m : MessageType) :
    m.slots.Pairwise fun s t => s.holdsParam = true → t.mandatory = [] := by
  cases m <;> simp [slots, Slot.holdsParam, Slot.mandatory, Leaf.mustOccur]

lemma firstAbsent_cons (s : Slot) (ss : List Slot) (fs : List WireField) :
    firstAbsent (s :: ss) fs = (firstAbsent [s] fs).or (firstAbsent ss fs) := by
  simp only [firstAbsent, List.flatMap_cons, List.flatMap_nil, List.append_nil, List.find?_append]

/-- All slots are settled so, one behind the other. -/
lemma settled_settleFields (hss : ∀ s ∈ ss, s ∈ m.slots)
    (hparam : ss.Pairwise fun s t => s.holdsParam = true → t.mandatory = [])
    (hfs : ∀ f ∈ fs, m.Converts f) : Settled m fs ss (settleFields m ss fs) := by
  induction ss with
  | nil => exact .ok rfl
  | cons s ss ih =>
    obtain ⟨hs, hss⟩ := List.forall_mem_cons.mp hss
    obtain ⟨hbehind, hparam⟩ := List.pairwise_cons.mp hparam
    have hhead := Slot.settled hs hfs
    have htail := ih hss hparam
    have hor := firstAbsent_cons s ss fs
    rw [settleFields]
    generalize s.settle decode m (s.items m fs) = first at hhead
    generalize settleFields m ss fs = rest at htail
    cases hhead with
    | absent htag =>
      rw [htag] at hor
      exact .absent hor
    | param hs' hnone hk hbs he =>
      -- the error of the parameter comes first, but no field behind it has to occur
      have hparam' := List.mem_singleton.mp hs'
      have hrest : firstAbsent ss fs = none := by
        have hnil : ss.flatMap Slot.mandatory = [] :=
          List.flatMap_eq_nil_iff.mpr fun t ht => hbehind t ht (by rw [← hparam']; rfl)
        rw [firstAbsent, hnil]
        rfl
      rw [hnone, hrest] at hor
      exact .param (List.mem_cons.mpr (.inl hparam')) hor hk hbs he
    | ok hnone =>
      rw [hnone, Option.none_or] at hor
      cases htail with
      | ok hnone' => exact .ok (hor.trans hnone')
      | absent htag => exact .absent (hor.trans htag)
      | param hs' hnone' hk hbs he =>
        exact .param (List.mem_cons_of_mem s hs') (hor.trans hnone') hk hbs he

lemma MessageType.settled (hfs : ∀ f ∈ fs, m.Converts f) :
    Settled m fs m.slots (settleFields m m.slots fs) :=
  settled_settleFields (fun _ => id) m.mandatory_eq_nil hfs

lemma settleFields_cons_eq_ok {head : Tree (.slot m s)} {tail : Tree (.slots m ss)}
    (h : settleFields m (s :: ss) fs = .ok (.cons head tail)) :
    s.settle decode m (s.items m fs) = .ok head ∧ settleFields m ss fs = .ok tail := by
  rw [settleFields, bind_eq_ok_iff] at h
  obtain ⟨head', hhead, h⟩ := h
  obtain ⟨tail', htail, h⟩ := bind_eq_ok_iff.mp h
  cases pure_eq_ok_iff.mp h
  exact ⟨hhead, htail⟩

/-- A decay function holds the parameter that is read. -/
lemma DecayFunction.exists_param {slots : Slots .decayFunction}
    (hfs : ∀ f ∈ fs, MessageType.decayFunction.Converts f)
    (h : settleFields .decayFunction MessageType.decayFunction.slots fs = .ok slots) :
    ∃ p : DecayParam, (ofMessage (.record slots)).param = some p ∧ ∃ bs,
      WireField.last? 3 fs = some (.ofMember p.kind) ∧ WireField.last? 4 fs = some (.bytes bs) ∧
      decode (.message p.kind.payload) bs = .ok p.content := by
  match slots with
  | .cons (.leaf _) (.cons (.leaf _) (.cons t (.cons (.leaf _) (.cons (.leaf _) .nil)))) =>
    obtain ⟨_, h⟩ := settleFields_cons_eq_ok h
    obtain ⟨_, h⟩ := settleFields_cons_eq_ok h
    obtain ⟨hparam, _⟩ := settleFields_cons_eq_ok h
    obtain ⟨k, bs, payload, hk, hbs, hpayload, rfl⟩ :=
      Slot.exists_of_settle_decayParam (by simp [MessageType.slots]) hfs hparam
    exact ⟨⟨k, payload⟩, rfl, bs, hk, hbs, hpayload⟩

end

end SearchWire
