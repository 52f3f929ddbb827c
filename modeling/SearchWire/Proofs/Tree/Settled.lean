import Mathlib
import SearchWire.Proofs.Tree.ReadBack
import SearchWire.Proofs.Wire.Grammar

/-!
# Messages by their slots

A message whose fields all convert is known once it is known what its fields say about each slot
(`decode_message_eq_settleFields`): neither the fields of other slots that stand between two fields
nor the spelling of a field can be seen in the result. The positions that a reader counts only ever
end up in the errors of children.
-/

namespace SearchWire

open Result

variable {m : MessageType} {s : Slot} {ss : List Slot} {f : WireField} {fs : List WireField}

/-- What a field of a message says about a slot, if it belongs there and converts. -/
def Slot.item? (m : MessageType) (s : Slot) (f : WireField) : Option s.Item :=
  if s.accepts f.number then (s.readItem decode m.name ⟨f, 0⟩).toOption else none

/-- What the fields of a message say about a slot, in their order. -/
def Slot.items (m : MessageType) (s : Slot) (fs : List WireField) : List s.Item :=
  fs.filterMap (s.item? m)

/-- The field has a number that the message defines, and converts to what its slot asks for. -/
def MessageType.Converts (m : MessageType) (f : WireField) : Prop :=
  ∃ s ∈ m.slots, ∃ x, s.item? m f = some x

/-- What the slots of a message hold, from what the fields say about each of them. -/
def settleFields (m : MessageType) : (ss : List Slot) → List WireField → Result (Tree (.slots m ss))
  | [], _ => .ok .nil
  | s :: ss, fs => do
    let head ← s.settle decode m (s.items m fs)
    let tail ← settleFields m ss fs
    return .cons head tail

/-! ### Fields of a slot -/

namespace Slot

lemma item?_eq_some_iff {x : s.Item} :
    s.item? m f = some x ↔ s.accepts f.number = true ∧ s.readItem decode m.name ⟨f, 0⟩ = .ok x := by
  rw [item?]
  by_cases h : s.accepts f.number = true
  · rw [if_pos h]
    cases s.readItem decode m.name ⟨f, 0⟩ <;> simp [Except.toOption, h]
  · rw [if_neg h]
    simp [h]

lemma item?_eq_none_of_accepts (h : s.accepts f.number = false) : s.item? m f = none := by
  rw [item?, h]
  rfl

/-- The position of a field does not matter to what it says. -/
lemma readItem_eq_ok_iff {message : String} {index : Nat} {x : s.Item} :
    s.readItem decode message ⟨f, index⟩ = .ok x ↔ s.readItem decode message ⟨f, 0⟩ = .ok x := by
  cases s with
  | leaf tag l => exact Iff.rfl
  | child tag s required => exact Iff.rfl
  | children tag s => exact readChild_eq_ok_iff.trans readChild_eq_ok_iff.symm
  | decayParam kind content => exact Iff.rfl

/-- Fields of other slots say nothing about a slot. -/
lemma items_filter {p : WireField → Bool} (h : ∀ f, s.accepts f.number = true → p f = true) :
    s.items m (fs.filter p) = s.items m fs := by
  rw [items, items, List.filterMap_filter]
  apply List.filterMap_congr
  intro f _
  by_cases hp : p f = true
  · rw [if_pos hp]
  · rw [if_neg hp]
    have haccepts : s.accepts f.number = false := by
      rw [← Bool.not_eq_true]
      exact fun hf => hp (h f hf)
    exact (item?_eq_none_of_accepts haccepts).symm

end Slot

/-- A number belongs to one slot at most. -/
lemma RegularLayout.eq_of_accepts (h : RegularLayout m ss) {s s' : Slot} (hs : s ∈ ss)
    (hs' : s' ∈ ss) {n : Nat} (hn : s.accepts n = true) (hn' : s'.accepts n = true) : s = s' := by
  induction ss with
  | nil => cases hs
  | cons t ss ih =>
    have hother : ∀ u ∈ ss, u.accepts n = true → t.accepts n = false := by
      intro u hu hun
      exact h.accepts_eq_false (List.mem_flatMap.mpr ⟨u, hu, Slot.accepts_iff.mp hun⟩)
    rcases List.mem_cons.mp hs with rfl | htail
    · rcases List.mem_cons.mp hs' with rfl | htail'
      · rfl
      · rw [hother s' htail' hn'] at hn
        cases hn
    · rcases List.mem_cons.mp hs' with rfl | htail'
      · rw [hother s htail hn] at hn'
        cases hn'
      · exact ih h.tail htail htail'

/-! ### Entries -/

/-- A field that converts is filed under its slot. -/
lemma exists_readEntry (hss : RegularLayout m ss) (hs : s ∈ ss) {x : s.Item}
    (hx : s.item? m f = some x) (index : Nat) :
    ∃ e, readEntry decode m.name ⟨f, index⟩ ss = .ok e := by
  obtain ⟨haccepts, hread⟩ := Slot.item?_eq_some_iff.mp hx
  rw [Slot.accepts_iff] at haccepts
  induction ss with
  | nil => cases hs
  | cons t ss ih =>
    rcases List.mem_cons.mp hs with rfl | hs
    · rw [readEntry_of_mem_numbers haccepts, Slot.readItem_eq_ok_iff.mpr hread]
      exact ⟨.here x, rfl⟩
    · obtain ⟨e, he⟩ := ih hss.tail hs
      rw [readEntry_of_mem_tail hss (List.mem_flatMap.mpr ⟨s, hs, haccepts⟩), he]
      exact ⟨.there e, rfl⟩

/-- The entry of a field says about the first slot what the field says about it. -/
lemma here?_eq_item? {index : Nat} {e : Entry (s :: ss)}
    (h : readEntry decode m.name ⟨f, index⟩ (s :: ss) = .ok e) : e.here? = s.item? m f := by
  rw [readEntry] at h
  by_cases haccepts : s.accepts f.number = true
  · rw [if_pos haccepts, bind_eq_ok_iff] at h
    obtain ⟨x, hx, h⟩ := h
    obtain rfl := pure_eq_ok_iff.mp h
    exact (Slot.item?_eq_some_iff.mpr ⟨haccepts, Slot.readItem_eq_ok_iff.mp hx⟩).symm
  · rw [if_neg haccepts, bind_eq_ok_iff] at h
    obtain ⟨e', _, h⟩ := h
    obtain rfl := pure_eq_ok_iff.mp h
    rw [Bool.not_eq_true] at haccepts
    exact (Slot.item?_eq_none_of_accepts haccepts).symm

/-- The entries are those under which the fields are filed. -/
abbrev FiledAs (m : MessageType) (ss : List Slot) (xs : List Occurrence)
    (entries : List (Entry ss)) : Prop :=
  List.Forall₂ (fun x e => readEntry decode m.name x ss = .ok e) xs entries

lemma filterMap_here?_eq_items {xs : List Occurrence} {entries : List (Entry (s :: ss))}
    (h : FiledAs m (s :: ss) xs entries) :
    entries.filterMap Entry.here? = s.items m (xs.map Occurrence.toWireField) := by
  induction h with
  | nil => rfl
  | @cons x e xs entries hxe _ ih =>
    rw [List.filterMap_cons, here?_eq_item? hxe, ih, List.map_cons, Slot.items, Slot.items,
      List.filterMap_cons]

/-- The entries that say nothing about the first slot are those of the fields of the other slots. -/
lemma filterMap_there?_filedAs {xs : List Occurrence} {entries : List (Entry (s :: ss))}
    (h : FiledAs m (s :: ss) xs entries) :
    FiledAs m ss (xs.filter fun x => !s.accepts x.number) (entries.filterMap Entry.there?) := by
  induction h with
  | nil => exact .nil
  | @cons x e xs entries hxe _ ih =>
    rw [readEntry] at hxe
    by_cases haccepts : s.accepts x.number = true
    · rw [if_pos haccepts, bind_eq_ok_iff] at hxe
      obtain ⟨item, _, hxe⟩ := hxe
      obtain rfl := pure_eq_ok_iff.mp hxe
      rw [List.filter_cons_of_neg (by simp [haccepts])]
      exact ih
    · rw [if_neg haccepts, bind_eq_ok_iff] at hxe
      obtain ⟨e', he', hxe⟩ := hxe
      obtain rfl := pure_eq_ok_iff.mp hxe
      rw [List.filter_cons_of_pos (by simp [haccepts])]
      exact .cons he' ih

/-! ### Messages -/

/-- Only what the fields say about each slot matters. -/
lemma settleFields_congr {gs : List WireField}
    (h : ∀ s ∈ ss, s.settle decode m (s.items m fs) = s.settle decode m (s.items m gs)) :
    settleFields m ss fs = settleFields m ss gs := by
  induction ss with
  | nil => rfl
  | cons s ss ih =>
    obtain ⟨hs, hss⟩ := List.forall_mem_cons.mp h
    rw [settleFields, settleFields, hs, ih hss]

/-- The slots behind the first one do without the fields of the first one. -/
lemma settleFields_filter (hss : RegularLayout m (s :: ss)) :
    settleFields m ss (fs.filter fun f => !s.accepts f.number) = settleFields m ss fs := by
  apply settleFields_congr
  intro s' hs'
  rw [Slot.items_filter]
  intro f hf
  rw [hss.accepts_eq_false (List.mem_flatMap.mpr ⟨s', hs', Slot.accepts_iff.mp hf⟩)]
  rfl

lemma settleAll_eq_settleFields (hss : RegularLayout m ss) {xs : List Occurrence}
    {entries : List (Entry ss)} (h : FiledAs m ss xs entries) :
    settleAll decode m ss entries = settleFields m ss (xs.map Occurrence.toWireField) := by
  induction ss generalizing xs with
  | nil => rfl
  | cons s ss ih =>
    have hmap : (xs.filter fun x => !s.accepts x.number).map Occurrence.toWireField =
        (xs.map Occurrence.toWireField).filter fun f => !s.accepts f.number := by
      rw [List.filter_map]
      rfl
    -- the entries for the slots behind come from fewer fields, but none is missing that they accept
    rw [settleAll, settleFields, filterMap_here?_eq_items h,
      ih hss.tail (filterMap_there?_filedAs h), hmap, settleFields_filter hss]

/-- A message whose fields all convert is settled from what they say about each slot. -/
theorem decode_message_eq_settleFields {bs : Bytes} (hbs : WireField.SpellAll bs fs)
    (hfs : ∀ f ∈ fs, m.Converts f) :
    decode (.message m) bs = do
      let slots ← settleFields m m.slots fs
      m.check slots
      return .record slots := by
  have hentries : ∃ entries, FiledAs m m.slots (Occurrence.ofFields [] fs) entries := by
    rw [exists_forall₂_iff]
    intro x hx
    obtain ⟨s, hs, item, hitem⟩ := hfs _ (Occurrence.mem_of_mem_ofFields hx)
    exact exists_readEntry m.regular hs hitem x.index
  obtain ⟨entries, hentries⟩ := hentries
  rw [decode_eq, readShape, readMessage, Reader.collect_of_spellAll hbs,
    mapM_eq_ok_iff.mpr hentries]
  have hsettle := settleAll_eq_settleFields m.regular hentries
  rw [Occurrence.map_ofFields] at hsettle
  rw [← hsettle]
  rfl

end SearchWire
