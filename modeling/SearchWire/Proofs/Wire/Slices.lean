import Mathlib
import SearchWire.Proofs.Wire.Length

/-!
# The slices of a message

Each field that is read takes its bytes off the front of the message. These slices make up a message
that is read to its end, and where a slice ends depends on its own bytes only. So a message can be
continued, and what stands behind it is read as it is on its own, but for the indices, which go on
counting; and a message that breaks off inside a slice is read up to that slice
(`Reader.fields_slice_by_slice`).
-/

namespace SearchWire

/-- A field with the bytes that it takes up in a message. -/
structure Slice where
  bytes : Bytes
  field : Occurrence
deriving DecidableEq, Repr

/-! ### Fields behind others -/

/-- The field as it occurs in a message that has fields with the given numbers in front. -/
def Occurrence.shift (numbers : List Nat) (x : Occurrence) : Occurrence :=
  { x with index := x.index + numbers.count x.number }

namespace Reader

open WireField

/-- The reader of a message that has fields with the given numbers in front. -/
def shift (numbers : List Nat) (r : Reader) : Reader :=
  { r with seen := r.seen ++ numbers }

lemma next?_shift (numbers : List Nat) (r : Reader) :
    (r.shift numbers).next? = r.next?.map
      (Option.map (Prod.map (Occurrence.shift numbers) (Reader.shift numbers))) := by
  obtain ⟨message, bs, seen⟩ := r
  by_cases hbs : bs = []
  · subst hbs
    rfl
  · cases hread : WireField.read bs with
    | error e => simp [next?, shift, hbs, hread, Except.map]
    | ok p =>
      rw [shift, next?_of_read hread, next?_of_read hread, List.count_append]
      rfl

/-- Fields in front change nothing but the indices. -/
lemma fields_shift (numbers : List Nat) (r : Reader) :
    (r.shift numbers).fields = (r.fields.1.map (Occurrence.shift numbers), r.fields.2) := by
  fun_induction fields r with
  | case1 r e hnext =>
    have hshift := next?_shift numbers r
    rw [hnext] at hshift
    exact fields_of_next?_eq_error hshift
  | case2 r hnext =>
    have hshift := next?_shift numbers r
    rw [hnext] at hshift
    exact fields_of_next?_eq_none hshift
  | case3 r x r' hnext fs broken hfs ih =>
    have hshift := next?_shift numbers r
    rw [hnext] at hshift
    rw [fields_of_next?_eq_some hshift, ih, hfs]
    rfl

/-! ### Slices -/

/-- The fields that are read, each with the bytes that it takes off the front. -/
def slices (r : Reader) : List Slice :=
  match _h : r.next? with
  | .error _ => []
  | .ok none => []
  | .ok (some (x, r')) => ⟨r.rest.take (r.rest.length - r'.rest.length), x⟩ :: r'.slices
termination_by r.rest.length
decreasing_by exact next?_length _h

@[simp] lemma map_field_slices (r : Reader) : r.slices.map Slice.field = r.fields.1 := by
  fun_induction slices r with
  | case1 r e hnext => rw [fields_of_next?_eq_error hnext, List.map_nil]
  | case2 r hnext => rw [fields_of_next?_eq_none hnext, List.map_nil]
  | case3 r x r' hnext ih => rw [fields_of_next?_eq_some hnext, List.map_cons, ih]

/-- The first slice spells the first field, and the other slices are those of what is left. -/
lemma slices_eq_cons {r : Reader} {s : Slice} {ss : List Slice} (h : r.slices = s :: ss) :
    ∃ f rest, Spells s.bytes f ∧ s.field = ⟨f, r.seen.count f.number⟩ ∧
      r.rest = s.bytes ++ rest ∧ ss = (Reader.mk r.message rest (f.number :: r.seen)).slices := by
  rw [slices] at h
  split at h
  · cases h
  · cases h
  · rename_i x r' hnext
    obtain ⟨f, rest, hread, rfl, rfl⟩ := exists_read_of_next? hnext
    obtain ⟨front, hfront, hrest⟩ := spells_of_read hread
    have hbytes : r.rest.take (r.rest.length - rest.length) = front := by
      rw [hrest, List.length_append, Nat.add_sub_cancel, List.take_left]
    rw [hbytes] at h
    cases h
    exact ⟨f, rest, hfront, rfl, hrest, rfl⟩

lemma spells_of_mem_slices {r : Reader} {s : Slice} (h : s ∈ r.slices) :
    Spells s.bytes s.field.toWireField := by
  induction hss : r.slices generalizing r with
  | nil =>
    rw [hss] at h
    cases h
  | cons t ss ih =>
    obtain ⟨f, rest, hf, hfield, _, rfl⟩ := slices_eq_cons hss
    rw [hss] at h
    rcases List.mem_cons.mp h with rfl | h
    · rwa [hfield]
    · exact ih h rfl

/-- The slices of a message that is read to its end make up the message. -/
lemma flatMap_bytes_slices {r : Reader} (h : r.fields.2 = none) :
    r.slices.flatMap Slice.bytes = r.rest := by
  induction hss : r.slices generalizing r with
  | nil =>
    have hnil : r.fields.1 = [] := by rw [← map_field_slices, hss, List.map_nil]
    obtain ⟨fs, hfs, hxs⟩ := exists_spellAll_of_fields (Prod.ext hnil h)
    cases fs with
    | nil =>
      generalize r.rest = bs at hfs
      cases hfs
      rfl
    | cons f fs => cases hxs
  | cons s ss ih =>
    obtain ⟨f, rest, hf, _, hrest, rfl⟩ := slices_eq_cons hss
    have hread := hf.read_append rest
    rw [← hrest] at hread
    rw [fields_of_next?_eq_some (next?_of_read hread)] at h
    rw [List.flatMap_cons, ih h rfl, hrest]

/-- A message that breaks off inside a slice is read up to that slice. -/
lemma fields_take {r : Reader} {before behind : List Slice} {s : Slice} {n : Nat}
    (h : r.slices = before ++ s :: behind) (hpos : (before.flatMap Slice.bytes).length < n)
    (hn : n < (before.flatMap Slice.bytes).length + s.bytes.length) :
    ∃ e, (Reader.mk r.message (r.rest.take n) r.seen).fields =
      (before.map Slice.field, some (.malformed r.message (.framing e))) := by
  induction before generalizing r n with
  | nil =>
    obtain ⟨f, rest, hf, _, hrest, _⟩ := slices_eq_cons h
    rw [List.flatMap_nil, List.length_nil, Nat.zero_add] at hn
    obtain ⟨e, he⟩ := hf.read_take hn
    have hne : s.bytes.take n ≠ [] := by
      rw [← List.length_pos_iff, List.length_take]
      omega
    refine ⟨e, ?_⟩
    rw [hrest, List.take_append_of_le_length (by omega), fields_of_read_eq_error hne he,
      List.map_nil]
  | cons t before ih =>
    obtain ⟨f, rest, hf, hfield, hrest, hslices⟩ := slices_eq_cons h
    rw [List.flatMap_cons, List.length_append] at hpos hn
    obtain ⟨e, he⟩ := ih (n := n - t.bytes.length) hslices.symm (by omega) (by omega)
    -- the first slice stands whole in front of the cut
    have hread : WireField.read (r.rest.take n) = .ok (f, rest.take (n - t.bytes.length)) := by
      rw [hrest, List.take_append, List.take_of_length_le (by omega)]
      exact hf.read_append _
    refine ⟨e, ?_⟩
    rw [fields_of_next?_eq_some (next?_of_read hread), he, List.map_cons, hfield]

/-! ### Whole messages -/

/-- Behind a message that is read to its end, other bytes are read as they are on their own. -/
lemma fields_start_append {message : String} {bs : Bytes} {xs : List Occurrence}
    (h : (start message bs).fields = (xs, none)) (more : Bytes) :
    (start message (bs ++ more)).fields =
      (xs ++ (start message more).fields.1.map (Occurrence.shift (xs.map (·.number))),
        (start message more).fields.2) := by
  obtain ⟨fs, hbs, rfl⟩ := exists_spellAll_of_fields h
  have hnumbers : (Occurrence.ofFields [] fs).map (·.number) = fs.map WireField.number := by
    rw [← Function.comp_def WireField.number Occurrence.toWireField, ← List.map_map,
      Occurrence.map_ofFields]
  have hshift : Occurrence.shift (fs.map WireField.number).reverse =
      Occurrence.shift (fs.map WireField.number) := by
    funext x
    rw [Occurrence.shift, Occurrence.shift, List.count_reverse]
  have hmore := fields_shift (fs.map WireField.number).reverse (start message more)
  rw [start, fields_append hbs, List.append_nil, hnumbers, ← hshift]
  rw [shift, start, List.nil_append] at hmore
  rw [hmore]
  rfl

/-- A message is read slice by slice. Of one that is read to its end, each field takes up two bytes,
at least, and no byte is left over. Other bytes behind it are read as they are on their own, to the
same end, but for the indices, which count the fields of the message, too. And its first bytes, if
they break off inside a slice, are read up to that slice, and then are an error. -/
theorem fields_slice_by_slice {message : String} {bs : Bytes} {xs : List Occurrence}
    (h : (start message bs).fields = (xs, none)) :
    ((start message bs).slices.map Slice.field = xs ∧
      (∀ s ∈ (start message bs).slices, 2 ≤ s.bytes.length) ∧
      (start message bs).slices.flatMap Slice.bytes = bs) ∧
    (∀ more, (start message (bs ++ more)).fields =
      (xs ++ (start message more).fields.1.map (Occurrence.shift (xs.map (·.number))),
        (start message more).fields.2)) ∧
    ∀ before s behind n, (start message bs).slices = before ++ s :: behind →
      (before.flatMap Slice.bytes).length < n →
      n < (before.flatMap Slice.bytes).length + s.bytes.length →
      ∃ e, (start message (bs.take n)).fields =
        (before.map Slice.field, some (.malformed message (.framing e))) := by
  refine ⟨⟨?_, ?_, ?_⟩, ?_, ?_⟩
  · rw [map_field_slices, h]
  · exact fun s hs => (two_le_leastLength _).trans (spells_of_mem_slices hs).leastLength_le
  · exact flatMap_bytes_slices (congrArg Prod.snd h)
  · exact fields_start_append h
  · exact fun before s behind n hslices hpos hn => fields_take hslices hpos hn

/-- A message whose first field is spelled with a byte too many. Behind it stand a field with the
same number and one that breaks off. -/
theorem fields_slice_by_slice_overlong :
    (start "Query" [8, 129, 0, 16, 2, 8, 3]).fields =
      ([⟨⟨1, .varint 1⟩, 0⟩, ⟨⟨2, .varint 2⟩, 0⟩, ⟨⟨1, .varint 3⟩, 1⟩], none) ∧
    (start "Query" [8, 129, 0, 16, 2, 8, 3]).slices.map Slice.bytes =
      [[8, 129, 0], [16, 2], [8, 3]] ∧
    (start "Query" [8, 129, 0, 16, 2, 8, 3, 8, 5, 18, 9]).fields =
      ([⟨⟨1, .varint 1⟩, 0⟩, ⟨⟨2, .varint 2⟩, 0⟩, ⟨⟨1, .varint 3⟩, 1⟩, ⟨⟨1, .varint 5⟩, 2⟩],
        some (.malformed "Query" (.framing .underflow))) ∧
    ∃ e, (start "Query" [8, 129, 0, 16]).fields =
      ([⟨⟨1, .varint 1⟩, 0⟩], some (.malformed "Query" (.framing e))) := by
  have hfields : (start "Query" [8, 129, 0, 16, 2, 8, 3]).fields =
      ([⟨⟨1, .varint 1⟩, 0⟩, ⟨⟨2, .varint 2⟩, 0⟩, ⟨⟨1, .varint 3⟩, 1⟩], none) := by cbv
  have hslices : (start "Query" [8, 129, 0, 16, 2, 8, 3]).slices =
      [⟨[8, 129, 0], ⟨⟨1, .varint 1⟩, 0⟩⟩, ⟨[16, 2], ⟨⟨2, .varint 2⟩, 0⟩⟩,
        ⟨[8, 3], ⟨⟨1, .varint 3⟩, 1⟩⟩] := by cbv
  have hmore : (start "Query" [8, 5, 18, 9]).fields =
      ([⟨⟨1, .varint 5⟩, 0⟩], some (.malformed "Query" (.framing .underflow))) := by cbv
  obtain ⟨_, happend, hcut⟩ := fields_slice_by_slice hfields
  refine ⟨hfields, by rw [hslices]; rfl, ?_, ?_⟩
  · have hwhole := happend [8, 5, 18, 9]
    rw [hmore] at hwhole
    exact hwhole
  · exact hcut [⟨[8, 129, 0], ⟨⟨1, .varint 1⟩, 0⟩⟩] ⟨[16, 2], ⟨⟨2, .varint 2⟩, 0⟩⟩ _ 4 hslices
      (by decide) (by decide)

end Reader

end SearchWire
