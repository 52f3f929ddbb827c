import Mathlib
import SearchWire.Proofs.Tree.Written
import SearchWire.Tree.Descent

/-!
# Reading fields back

The fields that the slots of a message are written as are filed under these slots again, and settle
to what the slots held, with the weights set (`settleAll_write`). This is one level of reading: of
the reader of the children only that much is assumed, and only for the bytes that occur in the
fields (`ReadsBack`).
-/

namespace SearchWire

open Result

/-- The reader gives back every value that is written as fewer than `n` bytes, with the weights
set. -/
def ReadsBack (child : (s : Shape) → Bytes → Result (Value s)) (n : Nat) : Prop :=
  ∀ s (v : Value s) content, v.write = .ok content → content.length < n →
    child s content = .ok v.withDefaults

section

variable {child : (s : Shape) → Bytes → Result (Value s)} {n : Nat}
  {m : MessageType} {s : Slot} {ss : List Slot}

lemma readChild_eq_ok_iff {message : String} {tag : Tag} {index : Option Nat} {s : Shape}
    {x : WireField} {v : Value s} :
    readChild child message tag index s x = .ok v ↔
      ∃ content, x.value = .bytes content ∧ child s content = .ok v := by
  simp only [readChild, bind_eq_ok_iff, within_eq_ok_iff, WireField.content_eq_ok_iff]

/-! ### One slot -/

/-- The field of a child is read as that child. -/
lemma ReadsBack.readChild (h : ReadsBack child n) {s : Shape} {v : Value s} {content : Bytes}
    (hv : v.write = .ok content) {x : WireField} {number : Nat}
    (hx : ⟨number, .bytes content⟩ = x) (hbelow : x.Below n) (message : String) (tag : Tag)
    (index : Option Nat) : readChild child message tag index s x = .ok v.withDefaults := by
  subst hx
  exact readChild_eq_ok_iff.mpr ⟨content, rfl, h s v content hv (hbelow content rfl)⟩

variable (child) in
/-- The occurrences are read as what a slot holds. -/
def Slot.ReadAs (xs : List Occurrence) (t : Tree (.slot m s)) : Prop :=
  ∃ items, List.Forall₂ (fun x item => s.readItem child m.name x = .ok item) xs items ∧
    s.settle child m items = .ok t

namespace Slot

variable {xs : List Occurrence} {tag : Tag}

lemma readAs_leaf {l : Leaf} {v : l.Value} (hl : l.Regular m)
    (h : l.write m.name tag v = .ok (xs.map Occurrence.toWireField)) :
    ReadAs child xs (Tree.leaf v : Tree (.slot m (.leaf tag l))).withDefaults := by
  obtain ⟨items, hitems, hfields⟩ := Leaf.write_eq_ok_iff.mp h
  rw [List.forall₂_map_right_iff] at hfields
  refine ⟨items, (hfields.imp ?_).flip, ?_⟩
  · rintro item x ⟨content, hcontent, hx⟩
    show l.readItem m.name x.toWireField = .ok item
    rw [← hx]
    exact Leaf.readItem_writeItem hcontent m.name tag.number
  · simp only [settle, Leaf.settle_occurrences hl hitems, Tree.withDefaults]

/-- Children are read one from each field. -/
lemma readAs_children {s : Shape} {values : Tree (.items s)} (hchild : ReadsBack child n)
    (h : (Tree.children values : Tree (.slot m (.children tag s))).write =
      .ok (xs.map Occurrence.toWireField)) (hbelow : ∀ x ∈ xs, x.toWireField.Below n) :
    ReadAs child xs (Tree.children values : Tree (.slot m (.children tag s))).withDefaults := by
  have hfields := Tree.write_children_eq_ok_iff.mp h
  rw [List.forall₂_map_right_iff] at hfields
  have hflip : List.Forall₂ (fun x value => x.toWireField.Below n ∧ _) xs values.toList :=
    (List.forall₂_and_left _ _).mpr ⟨hbelow, hfields.flip⟩
  refine ⟨values.toList.map Tree.withDefaults, ?_, ?_⟩
  · rw [List.forall₂_map_right_iff]
    refine hflip.imp ?_
    rintro x value ⟨hx, content, hcontent, heq⟩
    exact hchild.readChild hcontent heq hx _ _ _
  · rw [settle, ← Tree.ofList_withDefaults, Tree.ofList_toList, Tree.withDefaults]

/-- The kind of a decay parameter is read from one field, and its content from the other. -/
lemma readAs_param {kind content : Tag} {k : DecayParamKind} {payload : Message k.payload}
    (hne : content.number ≠ kind.number) (hchild : ReadsBack child n)
    (h : (Tree.param k payload : Tree (.slot m (.decayParam kind content))).write =
      .ok (xs.map Occurrence.toWireField)) (hbelow : ∀ x ∈ xs, x.toWireField.Below n) :
    ReadAs child xs
      (Tree.param k payload : Tree (.slot m (.decayParam kind content))).withDefaults := by
  obtain ⟨bs, hbs, hxs⟩ := Tree.write_param_eq_ok_iff.mp h
  obtain ⟨x, xs, rfl, hx, hxs⟩ := List.map_eq_cons_iff.mp hxs
  obtain ⟨y, rfl, hy⟩ := List.map_eq_singleton_iff.mp hxs
  refine ⟨[.inl k, .inr bs], .cons ?_ (.cons ?_ .nil), ?_⟩
  · have hkind : x.number = kind.number := by rw [hx]
    rw [readItem, if_pos hkind, hx, Scalar.read_write (t := .enum .decayParamKind) rfl]
    rfl
  · have hcontent : y.number ≠ kind.number := by rwa [hy]
    rw [readItem, if_neg hcontent, hy]
    rfl
  · have hlength := hbelow y (by simp) bs (by rw [hy])
    simp only [settle, List.filterMap, Sum.getLeft?, Sum.getRight?, List.getLast?_singleton]
    rw [hchild _ payload bs hbs hlength]
    rfl

/-- The fields of a slot are read as what the slot held. -/
lemma readAs_write (hs : RegularLayout m (s :: ss)) (hchild : ReadsBack child n)
    {t : Tree (.slot m s)} (h : t.write = .ok (xs.map Occurrence.toWireField))
    (hbelow : ∀ x ∈ xs, x.toWireField.Below n) : ReadAs child xs t.withDefaults := by
  cases t with
  | leaf v => exact readAs_leaf hs.head h
  | unset =>
    obtain ⟨rfl, hnil⟩ := Tree.write_unset_eq_ok_iff.mp h
    rw [List.map_eq_nil_iff] at hnil
    subst hnil
    exact ⟨[], .nil, rfl⟩
  | child value =>
    obtain ⟨content, hcontent, hxs⟩ := Tree.write_child_eq_ok_iff.mp h
    obtain ⟨x, rfl, hx⟩ := List.map_eq_singleton_iff.mp hxs
    have hread := hchild.readChild hcontent hx.symm (hbelow x List.mem_cons_self)
    exact ⟨[value.withDefaults], .cons (hread _ _ _) .nil, rfl⟩
  | children values => exact readAs_children hchild h hbelow
  | noParam => simp at h
  | param k payload => exact readAs_param hs.content_ne_kind hchild h hbelow

end Slot

/-! ### All slots -/

lemma readEntry_of_mem_numbers {message : String} {x : Occurrence} (h : x.number ∈ s.numbers) :
    readEntry child message x (s :: ss) = do return .here (← s.readItem child message x) := by
  rw [readEntry, if_pos (Slot.accepts_iff.mpr h)]

lemma readEntry_of_mem_tail (hs : RegularLayout m (s :: ss)) {message : String} {x : Occurrence}
    (h : x.number ∈ ss.flatMap Slot.numbers) :
    readEntry child message x (s :: ss) = do return .there (← readEntry child message x ss) := by
  rw [readEntry, hs.accepts_eq_false h]
  rfl

@[simp] lemma filterMap_here?_append (items : List s.Item) (entries : List (Entry ss)) :
    (items.map Entry.here ++ entries.map Entry.there).filterMap Entry.here? = items := by
  simp [List.filterMap_append, List.filterMap_map, Function.comp_def, Entry.here?]

@[simp] lemma filterMap_there?_append (items : List s.Item) (entries : List (Entry ss)) :
    (items.map Entry.here ++ entries.map Entry.there).filterMap Entry.there? = entries := by
  simp [List.filterMap_append, List.filterMap_map, Function.comp_def, Entry.there?]

/-- The fields of the slots of a message say what the slots held. -/
theorem settleAll_write (hss : RegularLayout m ss) (hchild : ReadsBack child n)
    {t : Tree (.slots m ss)} {xs : List Occurrence}
    (ht : t.write = .ok (xs.map Occurrence.toWireField))
    (hbelow : ∀ x ∈ xs, x.toWireField.Below n) :
    ∃ entries, List.Forall₂ (fun x e => readEntry child m.name x ss = .ok e) xs entries ∧
      settleAll child m ss entries = .ok t.withDefaults := by
  induction ss generalizing xs with
  | nil =>
    cases t
    simp only [Tree.write, Except.ok.injEq] at ht
    rw [List.map_eq_nil_iff.mp ht.symm]
    exact ⟨[], .nil, rfl⟩
  | cons s ss ih =>
    cases t with
    | cons head tail =>
      obtain ⟨first, hfirst, rest, hrest, happend⟩ := Tree.write_cons_eq_ok_iff.mp ht
      obtain ⟨xs, ys, rfl, rfl, rfl⟩ := List.map_eq_append_iff.mp happend.symm
      obtain ⟨hbelowx, hbelowy⟩ := List.forall_mem_append.mp hbelow
      obtain ⟨items, hitems, hhead⟩ := Slot.readAs_write hss hchild hfirst hbelowx
      obtain ⟨entries, hentries, htail⟩ := ih hss.tail hrest hbelowy
      have hnumberx := Tree.number_mem_of_write_slot hfirst
      have hnumbery := Tree.number_mem_of_write_slots hrest
      rw [List.forall_mem_map] at hnumberx hnumbery
      refine ⟨items.map .here ++ entries.map .there, List.rel_append ?_ ?_, ?_⟩
      · rw [List.forall₂_map_right_iff]
        refine ((List.forall₂_and_left _ _).mpr ⟨hnumberx, hitems⟩).imp ?_
        rintro x item ⟨hx, hitem⟩
        rw [readEntry_of_mem_numbers hx, hitem]
        rfl
      · rw [List.forall₂_map_right_iff]
        refine ((List.forall₂_and_left _ _).mpr ⟨hnumbery, hentries⟩).imp ?_
        rintro x e ⟨hx, he⟩
        rw [readEntry_of_mem_tail hss hx, he]
        rfl
      · rw [settleAll, filterMap_here?_append, filterMap_there?_append, hhead, htail]
        rfl

end

end SearchWire
