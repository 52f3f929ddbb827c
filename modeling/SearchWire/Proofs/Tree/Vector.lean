import Mathlib
import SearchWire.Message.Aggregation
import SearchWire.Message.Query
import SearchWire.Proofs.Tree.ErrorPath
import SearchWire.Proofs.Tree.FieldOrder

/-!
# Vectors in stretches

A vector may be sent in any number of fields: packed stretches of any length, the empty one among
them, and elements that stand alone, with other fields in between. It is read as its stretches one
behind the other, and not at all if the length of one of them does not fit (`decode_vector`).
-/

namespace SearchWire

open Result

/-- A stretch of a vector, as one field holds it. -/
inductive Stretch (t : PackedType)
  /-- Any number of elements, packed. -/
  | packed (xs : List t.Value)
  /-- An element that stands alone. -/
  | alone (x : t.Value)

/-- The content of a field in which an element stands alone. -/
def PackedType.word : (t : PackedType) → t.Value → WireValue
  | float, x => .fixed32 x.bits
  | double, x => .fixed64 x.bits

namespace Stretch

variable {t : PackedType}

/-- The elements of a stretch. -/
def elements : Stretch t → List t.Value
  | packed xs => xs
  | alone x => [x]

/-- The content of the field that holds a stretch. -/
def content : Stretch t → WireValue
  | packed xs => t.write xs
  | alone x => t.word x

end Stretch

/-- The fields of the number hold the stretches, in their order. Around them stand any other fields
that convert. -/
structure MessageType.HoldsVector (m : MessageType) (fs : List WireField) (number : Nat)
    {t : PackedType} (stretches : List (Stretch t)) : Prop where
  filter_eq : fs.filter (·.number == number) = stretches.map (⟨number, ·.content⟩)
  converts : ∀ f ∈ fs, f.number ≠ number → m.Converts f

section

variable {m : MessageType} {tag : Tag} {t : PackedType} {bs : Bytes} {f : WireField}
  {fs : List WireField} {number : Nat} {message : String} {xs : List t.Value}
  {stretches : List (Stretch t)}

/-! ### Single fields -/

lemma Stretch.read_content (s : Stretch t) :
    t.read message ⟨number, s.content⟩ = .ok s.elements := by
  cases s with
  | packed xs => exact t.read_write xs message number
  | alone x => cases t <;> rfl

lemma PackedType.read_ragged {content : Bytes} (h : ¬ t.size ∣ content.length) :
    t.read message ⟨number, .bytes content⟩ =
      .error (.malformed message (.field number (.ragged t content.length))) := by
  have hnone : t.unpack? content = none := if_neg fun hmod => h (Nat.dvd_of_mod_eq_zero hmod)
  cases t <;> simp [read, hnone, WireField.fault]

/-- The slot is that of a vector, which may have to occur or not. -/
inductive Slot.IsVector (tag : Tag) (t : PackedType) : Slot → Prop
  | optional : IsVector tag t (.leaf tag (.vector t))
  | required : IsVector tag t (.leaf tag (.requiredVector t))

lemma MessageType.Converts.read_eq_ok {s : Slot} (hs : s ∈ m.slots) (hvector : s.IsVector tag t)
    (hf : m.Converts f) (hnumber : f.number = tag.number) : ∃ xs, t.read m.name f = .ok xs := by
  cases hvector with
  | optional | required =>
    obtain ⟨xs, hxs⟩ := Option.ne_none_iff_exists'.mp
      (Slot.item?_ne_none hs hf (beq_iff_eq.mpr hnumber))
    exact ⟨xs, (Slot.item?_eq_some_iff.mp hxs).2⟩

lemma converts_of_read {s : Slot} (hs : s ∈ m.slots) (hvector : s.IsVector tag t)
    (hnumber : f.number = tag.number) (hread : t.read m.name f = .ok xs) : m.Converts f := by
  cases hvector with
  | optional | required =>
    exact ⟨_, hs, xs, Slot.item?_eq_some_iff.mpr ⟨beq_iff_eq.mpr hnumber, hread⟩⟩

/-! ### Slots -/

/-- The fields of a vector say its stretches. -/
lemma filterMap_eq_elements {g : WireField → Option (List t.Value)}
    (hg : ∀ f xs, g f = some xs ↔ f.number = number ∧ t.read message f = .ok xs)
    (h : fs.filter (·.number == number) = stretches.map (⟨number, ·.content⟩)) :
    fs.filterMap g = stretches.map Stretch.elements := by
  have hother : ∀ f : WireField, f.number ≠ number → g f = none := by
    intro f hf
    rw [Option.eq_none_iff_forall_ne_some]
    exact fun xs hxs => hf ((hg f xs).mp hxs).1
  have hself : (stretches.map fun s => (⟨number, s.content⟩ : WireField)).filter
      (·.number == number) = stretches.map fun s => ⟨number, s.content⟩ :=
    List.filter_eq_self.mpr (by simp)
  rw [filterMap_eq_of_filter_eq hother (h.trans hself.symm), List.filterMap_map,
    ← List.filterMap_eq_map]
  exact List.filterMap_congr fun s _ => (hg _ _).mpr ⟨rfl, s.read_content⟩

/-- A vector that need not occur is settled as all elements of its stretches. -/
lemma Slot.settle_vector (h : m.HoldsVector fs tag.number stretches) :
    (leaf tag (.vector t)).settle decode m ((leaf tag (.vector t)).items m fs) =
      .ok (.leaf (stretches.flatMap Stretch.elements)) := by
  have hitems : (leaf tag (.vector t)).items m fs = stretches.map Stretch.elements :=
    filterMap_eq_elements (fun f xs => item?_eq_some_iff.trans (and_congr_left' beq_iff_eq))
      h.filter_eq
  rw [hitems, List.flatMap_def]
  rfl

/-- A vector that has to occur is settled so if there is any stretch, even an empty one. -/
lemma Slot.settle_requiredVector (h : m.HoldsVector fs tag.number stretches)
    (hne : stretches ≠ []) :
    (leaf tag (.requiredVector t)).settle decode m
        ((leaf tag (.requiredVector t)).items m fs) =
      .ok (.leaf (some (stretches.flatMap Stretch.elements))) := by
  have hitems : (leaf tag (.requiredVector t)).items m fs = stretches.map Stretch.elements :=
    filterMap_eq_elements (fun f xs => item?_eq_some_iff.trans (and_congr_left' beq_iff_eq))
      h.filter_eq
  rw [hitems, List.flatMap_def]
  cases stretches with
  | nil => exact absurd rfl hne
  | cons s stretches => rfl

/-! ### Messages -/

namespace MessageType.HoldsVector

/-- Fields convert that hold stretches of a vector. -/
lemma forall_converts (h : m.HoldsVector fs tag.number stretches) {s : Slot} (hs : s ∈ m.slots)
    (hvector : s.IsVector tag t) : ∀ f ∈ fs, m.Converts f := by
  intro f hf
  by_cases hnumber : f.number = tag.number
  · have hmem : f ∈ fs.filter (·.number == tag.number) :=
      List.mem_filter.mpr ⟨hf, beq_iff_eq.mpr hnumber⟩
    rw [h.filter_eq] at hmem
    obtain ⟨stretch, _, rfl⟩ := List.mem_map.mp hmem
    exact converts_of_read hs hvector rfl stretch.read_content
  · exact h.converts f hf hnumber

lemma isAbsent_iff (h : m.HoldsVector fs tag.number stretches) :
    tag.isAbsent fs = true ↔ stretches = [] := by
  rw [← List.map_eq_nil_iff (f := fun s => (⟨tag.number, s.content⟩ : WireField)), ← h.filter_eq,
    List.filter_eq_nil_iff, Tag.isAbsent_iff]
  simp

end MessageType.HoldsVector

/-- A message of a type without a parameter and a check is read if no field is missing. -/
lemma exists_decode_eq_record (hm : m ≠ .decayFunction) (hcheck : ∀ slots, m.check slots = .ok ())
    (hbs : WireField.SpellAll bs fs) (hfs : ∀ f ∈ fs, m.Converts f)
    (hnone : firstAbsent m.slots fs = none) : ∃ slots,
      settleFields m m.slots fs = .ok slots ∧ decode (.message m) bs = .ok (.record slots) := by
  have hsettled := MessageType.settled hfs
  rw [decode_message_eq_settleFields hbs hfs]
  generalize settleFields m m.slots fs = result at hsettled
  cases hsettled with
  | @ok slots _ =>
    exact ⟨slots, rfl, bind_eq_ok_iff.mpr ⟨slots, rfl, bind_eq_ok_iff.mpr ⟨(), hcheck slots, rfl⟩⟩⟩
  | absent htag => cases hnone.symm.trans htag
  | param hs _ _ _ _ => exact absurd (MessageType.eq_decayFunction_of_mem hs).1 hm

/-- A message is not read that has a ragged stretch, and what is reported is that one if all fields
in front of it convert. -/
lemma decode_ragged {s : Slot} (hs : s ∈ m.slots) (hvector : s.IsVector tag t)
    {before : List WireField} {front content : Bytes}
    (hfront : WireField.SpellAll front (before ++ [⟨tag.number, .bytes content⟩]))
    (hragged : ¬ t.size ∣ content.length) (rest : Bytes) :
    ∃ e, decode (.message m) (front ++ rest) = .error e ∧
      ((∀ f ∈ before, m.Converts f) →
        e = .malformed m.name (.field tag.number (.ragged t content.length))) := by
  cases hdecode : decode (.message m) (front ++ rest) with
  | ok v =>
    obtain ⟨fs, hbs, hfs, _⟩ := decode_message_eq_ok_iff.mp hdecode
    obtain ⟨behind, rfl, _⟩ := hfront.of_append hbs
    obtain ⟨xs, hxs⟩ := (hfs ⟨tag.number, .bytes content⟩ (by simp)).read_eq_ok hs hvector rfl
    rw [PackedType.read_ragged hragged] at hxs
    cases hxs
  | error e =>
    refine ⟨e, rfl, fun hbefore => ?_⟩
    have herror : decode (.message m) (front ++ rest) =
        .error (.malformed m.name (.field tag.number (.ragged t content.length))) := by
      cases hvector with
      | optional | required =>
        exact decode_of_front hs (List.mem_singleton.mpr rfl) hfront hbefore
          (PackedType.read_ragged hragged)
    exact Except.error.inj (hdecode.symm.trans herror)

/-! ### Queries and aggregations -/

lemma percentiles_mem_slots : Slot.leaf ⟨3, "percentiles"⟩ (.vector .double) ∈
    MessageType.percentilesAggregation.slots := by
  simp [MessageType.slots]

/-- A vector query is read with its vector, if any field holds a stretch of that. -/
lemma decode_knnVectorQuery {stretches : List (Stretch .float)} (hbs : WireField.SpellAll bs fs)
    (h : MessageType.knnVectorQuery.HoldsVector fs 3 stretches)
    (hfieldName : ∃ f ∈ fs, f.number = 1) (htopK : ∃ f ∈ fs, f.number = 2) :
    (stretches = [] → decode (.message .knnVectorQuery) bs =
      .error (.required [] "KnnVectorQuery" "queryVector")) ∧
    (stretches ≠ [] → ∃ v, decode (.message .knnVectorQuery) bs = .ok v ∧
      (KnnVectorQuery.ofMessage v).queryVector = some (stretches.flatMap Stretch.elements)) := by
  have hfs : ∀ f ∈ fs, MessageType.knnVectorQuery.Converts f :=
    h.forall_converts queryVector_mem_slots .required
  have hvector : (⟨3, "queryVector"⟩ : Tag).isAbsent fs = true ↔ stretches = [] := h.isAbsent_iff
  have hfirst : firstAbsent MessageType.knnVectorQuery.slots fs =
      if stretches = [] then some ⟨3, "queryVector"⟩ else none := by
    have hfieldName : (⟨1, "fieldName"⟩ : Tag).isAbsent fs = false :=
      Tag.isAbsent_eq_false_iff.mpr hfieldName
    have htopK : (⟨2, "topK"⟩ : Tag).isAbsent fs = false := Tag.isAbsent_eq_false_iff.mpr htopK
    show [_, _, _].find? _ = _
    rw [List.find?_cons_of_neg (by simp [hfieldName]), List.find?_cons_of_neg (by simp [htopK]),
      List.find?_singleton]
    simp only [hvector]
  constructor
  · intro hnil
    rw [if_pos hnil] at hfirst
    exact decode_of_firstAbsent hbs hfs hfirst
  · intro hne
    rw [if_neg hne] at hfirst
    obtain ⟨slots, hslots, hdecode⟩ :=
      exists_decode_eq_record MessageType.noConfusion (fun _ => rfl) hbs hfs hfirst
    refine ⟨_, hdecode, ?_⟩
    match slots with
    | .cons (.leaf _) (.cons (.leaf _) (.cons (.leaf vector) (.cons _ (.cons (.leaf _) .nil)))) =>
      obtain ⟨_, hslots⟩ := settleFields_cons_eq_ok hslots
      obtain ⟨_, hslots⟩ := settleFields_cons_eq_ok hslots
      obtain ⟨hsettle, _⟩ := settleFields_cons_eq_ok hslots
      rw [Slot.settle_requiredVector h hne] at hsettle
      cases hsettle
      rfl

/-- Percentiles are read as their stretches, be there any or none. -/
lemma decode_percentilesAggregation {stretches : List (Stretch .double)}
    (hbs : WireField.SpellAll bs fs)
    (h : MessageType.percentilesAggregation.HoldsVector fs 3 stretches)
    (hname : ∃ f ∈ fs, f.number = 1) (hfieldName : ∃ f ∈ fs, f.number = 2) :
    ∃ v, decode (.message .percentilesAggregation) bs = .ok v ∧
      (PercentilesAggregation.ofMessage v).percentiles = stretches.flatMap Stretch.elements := by
  have hfirst : firstAbsent MessageType.percentilesAggregation.slots fs = none := by
    have hname : (⟨1, "name"⟩ : Tag).isAbsent fs = false := Tag.isAbsent_eq_false_iff.mpr hname
    have hfieldName : (⟨2, "fieldName"⟩ : Tag).isAbsent fs = false :=
      Tag.isAbsent_eq_false_iff.mpr hfieldName
    show [_, _].find? _ = _
    rw [List.find?_cons_of_neg (by simp [hname]), List.find?_cons_of_neg (by simp [hfieldName]),
      List.find?_nil]
  obtain ⟨slots, hslots, hdecode⟩ := exists_decode_eq_record MessageType.noConfusion (fun _ => rfl)
    hbs (h.forall_converts percentiles_mem_slots .optional) hfirst
  refine ⟨_, hdecode, ?_⟩
  match slots with
  | .cons (.leaf _) (.cons (.leaf _) (.cons (.leaf vector) (.cons (.leaf _) .nil))) =>
    obtain ⟨_, hslots⟩ := settleFields_cons_eq_ok hslots
    obtain ⟨_, hslots⟩ := settleFields_cons_eq_ok hslots
    obtain ⟨hsettle, _⟩ := settleFields_cons_eq_ok hslots
    rw [Slot.settle_vector h] at hsettle
    cases hsettle
    rfl

/-! ### Main result -/

/-- The stretches that the fields of a vector hold are read as one vector, whatever fields stand
between them. A vector query in which no field is one of its vector is incomplete, but an empty
stretch is enough. A stretch whose length does not fit makes a message unreadable, and is what is
reported if all fields in front of it convert. -/
theorem decode_vector :
    (∀ {bs : Bytes} {fs : List WireField} {stretches : List (Stretch .float)},
      WireField.SpellAll bs fs → MessageType.knnVectorQuery.HoldsVector fs 3 stretches →
      (∃ f ∈ fs, f.number = 1) → (∃ f ∈ fs, f.number = 2) →
      (stretches = [] → decode (.message .knnVectorQuery) bs =
        .error (.required [] "KnnVectorQuery" "queryVector")) ∧
      (stretches ≠ [] → ∃ v, decode (.message .knnVectorQuery) bs = .ok v ∧
        (KnnVectorQuery.ofMessage v).queryVector = some (stretches.flatMap Stretch.elements))) ∧
    (∀ {bs : Bytes} {fs : List WireField} {stretches : List (Stretch .double)},
      WireField.SpellAll bs fs → MessageType.percentilesAggregation.HoldsVector fs 3 stretches →
      (∃ f ∈ fs, f.number = 1) → (∃ f ∈ fs, f.number = 2) →
      ∃ v, decode (.message .percentilesAggregation) bs = .ok v ∧
        (PercentilesAggregation.ofMessage v).percentiles = stretches.flatMap Stretch.elements) ∧
    ∀ {m : MessageType} {t : PackedType},
      (m, t) ∈ [(.knnVectorQuery, .float), (.percentilesAggregation, .double)] →
      ∀ {before : List WireField} {front content : Bytes},
        WireField.SpellAll front (before ++ [⟨3, .bytes content⟩]) → ¬ t.size ∣ content.length →
        ∀ rest, ∃ e, decode (.message m) (front ++ rest) = .error e ∧
          ((∀ f ∈ before, m.Converts f) →
            e = .malformed m.name (.field 3 (.ragged t content.length))) := by
  refine ⟨decode_knnVectorQuery, decode_percentilesAggregation, ?_⟩
  intro m t hmt before front content hfront hragged
  rcases List.mem_pair.mp hmt with hquery | haggregation
  · cases hquery
    exact decode_ragged queryVector_mem_slots .required hfront hragged
  · cases haggregation
    exact decode_ragged percentiles_mem_slots .optional hfront hragged

/-- A vector with a number that is none, in three stretches around the other fields of a query; a
query without a vector; percentiles in two stretches; and a stretch of three bytes, with bytes
behind it that are no field. -/
theorem decode_vector_interleaved :
    let query : List WireField := [⟨3, .fixed32 0x7fc00001⟩, ⟨1, .bytes [118]⟩, ⟨3, .bytes []⟩,
      ⟨2, .varint 1⟩, ⟨3, .bytes [2, 0, 0, 0, 3, 0, 0, 128]⟩]
    let incomplete : List WireField := [⟨1, .bytes [118]⟩, ⟨2, .varint 1⟩]
    let aggregation : List WireField := [⟨3, .bytes [1, 0, 0, 0, 0, 0, 0, 0]⟩, ⟨2, .bytes [118]⟩,
      ⟨3, .fixed64 2⟩, ⟨1, .bytes [110]⟩]
    let ragged : List WireField := [⟨1, .bytes [118]⟩, ⟨3, .bytes [1, 2, 3]⟩]
    (∃ v, decode (.message .knnVectorQuery) (WireField.writeAll query) = .ok v ∧
        (KnnVectorQuery.ofMessage v).queryVector =
          some [⟨0x7fc00001⟩, ⟨2⟩, ⟨0x80000003⟩]) ∧
      decode (.message .knnVectorQuery) (WireField.writeAll incomplete) =
        .error (.required [] "KnnVectorQuery" "queryVector") ∧
      (∃ v, decode (.message .percentilesAggregation) (WireField.writeAll aggregation) = .ok v ∧
        (PercentilesAggregation.ofMessage v).percentiles = [⟨1⟩, ⟨2⟩]) ∧
      decode (.message .knnVectorQuery) (WireField.writeAll ragged ++ [255]) =
        .error (.malformed "KnnVectorQuery" (.field 3 (.ragged .float 3))) := by
  intro query incomplete aggregation ragged
  obtain ⟨hquery, haggregation, hragged⟩ := decode_vector
  refine ⟨?_, ?_, ?_, ?_⟩
  · let stretches : List (Stretch .float) :=
      [.alone ⟨0x7fc00001⟩, .packed [], .packed [⟨2⟩, ⟨0x80000003⟩]]
    have hholds : MessageType.knnVectorQuery.HoldsVector query 3 stretches := by
      refine ⟨by cbv, ?_⟩
      simp [query, converts_fieldName, converts_topK]
    refine (hquery (Reader.spellAll_writeAll ?_) hholds ?_ ?_).2 (List.cons_ne_nil _ _)
    · simp [query, WireField.Fits, WireValue.Fits, UInt32.size, UInt64.size]
    · simp [query]
    · simp [query]
  · let stretches : List (Stretch .float) := []
    have hholds : MessageType.knnVectorQuery.HoldsVector incomplete 3 stretches := by
      refine ⟨rfl, ?_⟩
      simp [incomplete, converts_fieldName, converts_topK]
    refine (hquery (Reader.spellAll_writeAll ?_) hholds ?_ ?_).1 rfl
    · simp [incomplete, WireField.Fits, WireValue.Fits, UInt32.size, UInt64.size]
    · simp [incomplete]
    · simp [incomplete]
  · have hname : MessageType.percentilesAggregation.Converts ⟨1, .bytes [110]⟩ :=
      ⟨.leaf ⟨1, "name"⟩ (.required .text), by simp [MessageType.slots], "n", by cbv⟩
    have hfieldName : MessageType.percentilesAggregation.Converts ⟨2, .bytes [118]⟩ :=
      ⟨.leaf ⟨2, "fieldName"⟩ (.required .text), by simp [MessageType.slots], "v", by cbv⟩
    let stretches : List (Stretch .double) := [.packed [⟨1⟩], .alone ⟨2⟩]
    have hholds : MessageType.percentilesAggregation.HoldsVector aggregation 3 stretches := by
      refine ⟨by cbv, ?_⟩
      simp [aggregation, hname, hfieldName]
    refine haggregation (Reader.spellAll_writeAll ?_) hholds ?_ ?_
    · simp [aggregation, WireField.Fits, WireValue.Fits, UInt32.size, UInt64.size]
    · simp [aggregation]
    · simp [aggregation]
  · have hspell : WireField.SpellAll (WireField.writeAll ragged)
        ([⟨1, .bytes [118]⟩] ++ [⟨3, .bytes [1, 2, 3]⟩]) :=
      Reader.spellAll_writeAll
        (by simp [ragged, WireField.Fits, WireValue.Fits, UInt32.size, UInt64.size])
    obtain ⟨e, herror, he⟩ := hragged List.mem_cons_self hspell (by decide) [255]
    rw [herror, he (by simp [converts_fieldName])]
    rfl

end

end SearchWire
