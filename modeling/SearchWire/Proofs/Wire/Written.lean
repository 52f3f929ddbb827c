import Mathlib
import SearchWire.Wire.Reader

/-!
# Written fields

The bytes of a sequence of fields that fit the wire are taken apart into these fields again
(`Reader.fields_writeAll`). Two sequences of fields with the same bytes are the same
(`WireField.writeAll_injective`), also when a length among them is too great to be read.
-/

namespace SearchWire

/-! ### Unique parsing -/

namespace Varint

lemma lt_capacity (n : Nat) : n < capacity n := by
  induction n with
  | zero => exact Nat.two_pos
  | succ n ih =>
    rw [capacity]
    omega

lemma write_ne_nil (n : Nat) : write n ≠ [] := by
  rw [write]
  split <;> simp

/-- The written form of a number says where it ends. -/
lemma write_append_inj {m n : Nat} {as bs : Bytes} (h : write m ++ as = write n ++ bs) :
    m = n ∧ as = bs := by
  have hmono : ∀ k l, k ≤ l → capacity k ≤ capacity l := fun k l hkl => by
    induction hkl with
    | refl => exact le_refl _
    | step _ ih =>
      rw [capacity]
      omega
  -- enough groups for both numbers, so that both are read back
  have hm := readGroups_write (max m n) m as
    (lt_of_lt_of_le (lt_capacity m) (hmono _ _ (le_max_left m n)))
  have hn := readGroups_write (max m n) n bs
    (lt_of_lt_of_le (lt_capacity n) (hmono _ _ (le_max_right m n)))
  rw [h, hn] at hm
  simp only [Option.some.injEq, Prod.mk.injEq] at hm
  exact ⟨hm.1.symm, hm.2.symm⟩

end Varint

/-- A value says where it ends, once its wire type is known. -/
lemma WireValue.write_append_inj {v w : WireValue} {as bs : Bytes} (ht : v.type = w.type)
    (h : v.write ++ as = w.write ++ bs) : v = w ∧ as = bs := by
  -- a value of one word is read back whatever its bits are
  have word : v.Fits → w.Fits → v = w ∧ as = bs := fun hv hw => by
    have hread := read_write v as hv
    rw [h, ht, read_write w bs hw, Except.ok.injEq, Prod.mk.injEq] at hread
    exact ⟨hread.1.symm, hread.2.symm⟩
  cases v <;> cases w <;> simp only [type, reduceCtorEq] at ht
  case varint.varint => exact word trivial trivial
  case fixed64.fixed64 => exact word trivial trivial
  case fixed32.fixed32 => exact word trivial trivial
  case bytes.bytes c d =>
    simp only [write, List.append_assoc] at h
    obtain ⟨hlength, htail⟩ := Varint.write_append_inj h
    obtain ⟨rfl, rfl⟩ := List.append_inj htail hlength
    exact ⟨rfl, rfl⟩

/-- The number can stand in a key: it is not zero, and leaves room for the wire type. -/
def IsFieldNumber (n : Nat) : Prop := 0 < n ∧ 8 * n < UInt32.size

instance (n : Nat) : Decidable (IsFieldNumber n) := inferInstanceAs (Decidable (_ ∧ _))

namespace WireField

lemma Fits.isFieldNumber {f : WireField} (h : f.Fits) : IsFieldNumber f.number := ⟨h.1, h.2.1⟩

lemma key_eq {f : WireField} (h : IsFieldNumber f.number) :
    f.key = 8 * f.number + f.value.type.code := by
  have hcode := f.value.type.code_lt
  have hsize : UInt32.size = 4294967296 := rfl
  obtain ⟨_, hlt⟩ := h
  exact Nat.mod_eq_of_lt (by omega)

/-- A field says where it ends. -/
lemma write_append_inj {f g : WireField} (hf : IsFieldNumber f.number)
    (hg : IsFieldNumber g.number) {as bs : Bytes} (h : f.write ++ as = g.write ++ bs) :
    f = g ∧ as = bs := by
  simp only [write, List.append_assoc] at h
  obtain ⟨hkey, hvalue⟩ := Varint.write_append_inj h
  rw [key_eq hf, key_eq hg] at hkey
  have hcodef := f.value.type.code_lt
  have hcodeg := g.value.type.code_lt
  have hnumber : f.number = g.number := by omega
  have htype : f.value.type = g.value.type := by
    have hcode : f.value.type.code = g.value.type.code := by omega
    simpa using congrArg WireType.ofCode? hcode
  obtain ⟨hv, hrest⟩ := WireValue.write_append_inj htype hvalue
  obtain ⟨n, v⟩ := f
  obtain ⟨n', v'⟩ := g
  exact ⟨by simp_all, hrest⟩

lemma write_ne_nil (f : WireField) : f.write ≠ [] := by
  simp [write, Varint.write_ne_nil]

@[simp] lemma writeAll_singleton (f : WireField) : writeAll [f] = f.write := by
  simp [writeAll]

/-- No two sequences of fields have the same bytes. -/
lemma writeAll_injective {fs gs : List WireField} (hf : ∀ f ∈ fs, IsFieldNumber f.number)
    (hg : ∀ g ∈ gs, IsFieldNumber g.number) (h : writeAll fs = writeAll gs) : fs = gs := by
  induction fs generalizing gs with
  | nil =>
    cases gs with
    | nil => rfl
    | cons g gs =>
      have hnil := (List.append_eq_nil_iff.mp h.symm).1
      exact absurd hnil (write_ne_nil g)
  | cons f fs ih =>
    cases gs with
    | nil =>
      have hnil := (List.append_eq_nil_iff.mp h).1
      exact absurd hnil (write_ne_nil f)
    | cons g gs =>
      obtain ⟨hff, hfs⟩ := List.forall_mem_cons.mp hf
      obtain ⟨hgg, hgs⟩ := List.forall_mem_cons.mp hg
      obtain ⟨rfl, hrest⟩ := write_append_inj hff hgg h
      rw [ih hfs hgs hrest]

end WireField

/-! ### Reading what was written -/

/-- Fields as they occur in a message, behind fields with the given numbers. -/
def Occurrence.ofFields (seen : List Nat) : List WireField → List Occurrence
  | [] => []
  | f :: fs => ⟨f, seen.count f.number⟩ :: ofFields (f.number :: seen) fs

@[simp] lemma Occurrence.map_ofFields (seen : List Nat) (fs : List WireField) :
    (ofFields seen fs).map Occurrence.toWireField = fs := by
  induction fs generalizing seen with
  | nil => rfl
  | cons f fs ih => rw [ofFields, List.map_cons, ih]

lemma Occurrence.mem_of_mem_ofFields {seen : List Nat} {fs : List WireField} {x : Occurrence}
    (h : x ∈ ofFields seen fs) : x.toWireField ∈ fs := by
  have hmem := List.mem_map_of_mem (f := toWireField) h
  rwa [map_ofFields] at hmem

lemma Occurrence.exists_mem_ofFields {fs : List WireField} {f : WireField} (h : f ∈ fs)
    (seen : List Nat) : ∃ x ∈ ofFields seen fs, x.toWireField = f := by
  rw [← map_ofFields seen fs] at h
  exact List.mem_map.mp h

lemma Occurrence.ofFields_append (seen : List Nat) (fs gs : List WireField) :
    ofFields seen (fs ++ gs) =
      ofFields seen fs ++ ofFields ((fs.map WireField.number).reverse ++ seen) gs := by
  induction fs generalizing seen with
  | nil => rfl
  | cons f fs ih =>
    rw [List.cons_append, ofFields, ih, ofFields, List.map_cons, List.reverse_cons,
      List.append_assoc]
    rfl

namespace Reader

lemma fields_of_next?_eq_none {r : Reader} (h : r.next? = .ok none) : r.fields = ([], none) := by
  rw [fields]
  split <;> simp_all

lemma fields_of_next?_eq_some {r r' : Reader} {x : Occurrence} (h : r.next? = .ok (some (x, r'))) :
    r.fields = (x :: r'.fields.1, r'.fields.2) := by
  rw [fields]
  split <;> simp_all

lemma fields_of_next?_eq_error {r : Reader} {e : Error} (h : r.next? = .error e) :
    r.fields = ([], some e) := by
  rw [fields]
  split <;> simp_all

lemma next?_of_read {message : String} {bs rest : Bytes} {seen : List Nat} {f : WireField}
    (h : WireField.read bs = .ok (f, rest)) :
    (Reader.mk message bs seen).next? =
      .ok (some (⟨f, seen.count f.number⟩, ⟨message, rest, f.number :: seen⟩)) := by
  have hlength := WireField.read_length h
  have hne : bs.isEmpty = false := by
    cases bs with
    | nil => simp at hlength
    | cons b bs => rfl
  simp only [next?, hne, h, Bool.false_eq_true, if_false]

lemma fields_of_read_eq_error {message : String} {bs : Bytes} {seen : List Nat}
    {e : FramingFault} (hbs : bs ≠ []) (h : WireField.read bs = .error e) :
    (Reader.mk message bs seen).fields = ([], some (.malformed message (.framing e))) := by
  apply fields_of_next?_eq_error
  simp [next?, hbs, h]

/-- The fields that were written are the fields that are read. -/
lemma fields_writeAll {fs : List WireField} (h : ∀ f ∈ fs, f.Fits) (message : String)
    (seen : List Nat) :
    (Reader.mk message (WireField.writeAll fs) seen).fields =
      (Occurrence.ofFields seen fs, none) := by
  induction fs generalizing seen with
  | nil => exact fields_of_next?_eq_none rfl
  | cons f fs ih =>
    obtain ⟨hf, hfs⟩ := List.forall_mem_cons.mp h
    have hread := WireField.read_write f (WireField.writeAll fs) hf
    show (Reader.mk message (f.write ++ WireField.writeAll fs) seen).fields = _
    rw [fields_of_next?_eq_some (next?_of_read hread), ih hfs, Occurrence.ofFields]

/-- Of a message that was written, each field is converted. -/
lemma collect_writeAll {α : Type} {fs : List WireField} (h : ∀ f ∈ fs, f.Fits) (message : String)
    (convert : Occurrence → Result α) :
    (start message (WireField.writeAll fs)).collect convert =
      (Occurrence.ofFields [] fs).mapM convert := by
  simp only [collect, start, fields_writeAll h]
  cases (Occurrence.ofFields [] fs).mapM convert <;> rfl

end Reader

/-! ### Lengths -/

namespace WireField

/-- What the field holds as bytes, if it holds bytes, is shorter than `n` bytes. -/
def Below (n : Nat) (f : WireField) : Prop :=
  ∀ content, f.value = .bytes content → content.length < n

/-- What a field holds as bytes is shorter than the bytes of a message with that field. -/
lemma below_writeAll {fs : List WireField} : ∀ f ∈ fs, f.Below (writeAll fs).length := by
  intro f hf content h
  have hfield : content.length < f.write.length := by
    have hpos := List.length_pos_iff.mpr (Varint.write_ne_nil f.key)
    simp only [write, h, WireValue.write, List.length_append]
    omega
  have hle : f.write.length ≤ (writeAll fs).length := by
    obtain ⟨before, behind, rfl⟩ := List.append_of_mem hf
    simp only [writeAll, List.flatMap_append, List.flatMap_cons, List.length_append]
    omega
  omega

/-- The fields of a message whose length can be counted are read as they are written. -/
lemma fits_of_writeAll {fs : List WireField} (hnumber : ∀ f ∈ fs, IsFieldNumber f.number)
    (hlength : (writeAll fs).length < UInt64.size) : ∀ f ∈ fs, f.Fits := by
  intro f hf
  refine ⟨(hnumber f hf).1, (hnumber f hf).2, ?_⟩
  cases h : f.value with
  | bytes content => exact lt_trans (below_writeAll f hf content h) hlength
  | varint _ | fixed64 _ | fixed32 _ => trivial

end WireField

end SearchWire
