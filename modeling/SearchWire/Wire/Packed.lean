import SearchWire.Binary
import SearchWire.Bytes

/-!
# Packed vectors

A vector of floating-point numbers travels as one byte string, the numbers one behind the other in
little-endian words. A vector is read from exactly its own packed form (`unpack?_eq_some_iff`).
-/

namespace SearchWire

/-- The element types of packed vectors. -/
inductive PackedType
  | float
  | double
deriving DecidableEq, Repr

namespace PackedType

/-- The numbers of an element type. -/
abbrev Value : PackedType → Type
  | float => Binary32
  | double => Binary64

/-- The name under which errors speak of the element type. -/
def name : PackedType → String
  | float => "float"
  | double => "double"

/-- How many bytes an element takes. -/
def size : PackedType → Nat
  | float => 4
  | double => 8

/-- The bits of an element as a number. -/
def bits : (t : PackedType) → t.Value → Nat
  | float, x => x.bits.toNat
  | double, x => x.bits.toNat

/-- The element with the given bits. -/
def ofBits : (t : PackedType) → Nat → t.Value
  | float, n => ⟨.ofNat n⟩
  | double, n => ⟨.ofNat n⟩

/-- The elements one behind the other. -/
def pack (t : PackedType) (xs : List t.Value) : Bytes :=
  xs.flatMap fun x => Bytes.littleEndian t.size (t.bits x)

/-- The first `n` elements of a byte string. -/
def unpackFirst (t : PackedType) : (n : Nat) → Bytes → List t.Value
  | 0, _ => []
  | n + 1, bs =>
    t.ofBits (Bytes.ofLittleEndian (bs.take t.size)) :: unpackFirst t n (bs.drop t.size)

/-- The elements of a byte string, if it holds a whole number of them. -/
def unpack? (t : PackedType) (bs : Bytes) : Option (List t.Value) :=
  if bs.length % t.size = 0 then some (t.unpackFirst (bs.length / t.size) bs) else none

theorem size_pos (t : PackedType) : 0 < t.size := by cases t <;> decide

@[simp] theorem ofBits_bits (t : PackedType) (x : t.Value) : t.ofBits (t.bits x) = x := by
  cases t <;> simp [ofBits, bits]

theorem bits_lt (t : PackedType) (x : t.Value) : t.bits x < Bytes.wordCount t.size := by
  cases t
  · exact x.bits.toNat_lt
  · exact x.bits.toNat_lt

theorem bits_ofBits (t : PackedType) {n : Nat} (h : n < Bytes.wordCount t.size) :
    t.bits (t.ofBits n) = n := by
  cases t
  · exact Nat.mod_eq_of_lt h
  · exact Nat.mod_eq_of_lt h

@[simp] theorem length_pack (t : PackedType) (xs : List t.Value) :
    (t.pack xs).length = t.size * xs.length := by
  induction xs with
  | nil => simp [pack]
  | cons x xs ih =>
    rw [pack] at ih ⊢
    simp only [List.flatMap_cons, List.length_append, Bytes.length_littleEndian, ih,
      List.length_cons, Nat.mul_add]
    omega

theorem unpackFirst_pack (t : PackedType) (xs : List t.Value) :
    t.unpackFirst xs.length (t.pack xs) = xs := by
  induction xs with
  | nil => rfl
  | cons x xs ih =>
    have hsize : (Bytes.littleEndian t.size (t.bits x)).length = t.size := by simp
    rw [pack] at ih ⊢
    simp only [List.flatMap_cons, List.length_cons, unpackFirst, List.take_left' hsize,
      List.drop_left' hsize, Bytes.ofLittleEndian_littleEndian _ _ (t.bits_lt x), ofBits_bits, ih]

/-- A vector is read back from its packed form. -/
@[simp] theorem unpack?_pack (t : PackedType) (xs : List t.Value) :
    t.unpack? (t.pack xs) = some xs := by
  simp [unpack?, Nat.mul_div_cancel_left _ t.size_pos, unpackFirst_pack]

theorem pack_unpackFirst (t : PackedType) (n : Nat) (bs : Bytes) (h : bs.length = n * t.size) :
    t.pack (t.unpackFirst n bs) = bs := by
  induction n generalizing bs with
  | zero => simpa [unpackFirst, pack, eq_comm] using h
  | succ n ih =>
    rw [Nat.succ_mul] at h
    have htake : (bs.take t.size).length = t.size := by simp; omega
    have hlt := Bytes.ofLittleEndian_lt (bs.take t.size)
    rw [htake] at hlt
    have hrest := ih (bs.drop t.size) (by simp; omega)
    rw [pack] at hrest ⊢
    have hword := Bytes.littleEndian_ofLittleEndian (bs.take t.size)
    rw [htake] at hword
    rw [unpackFirst, List.flatMap_cons, hrest, bits_ofBits t hlt, hword, List.take_append_drop]

/-- Only the packed form of a vector is read as that vector. -/
theorem unpack?_eq_some_iff {t : PackedType} {bs : Bytes} {xs : List t.Value} :
    t.unpack? bs = some xs ↔ bs = t.pack xs := by
  constructor
  · intro h
    simp only [unpack?, Option.ite_none_right_eq_some, Option.some.injEq] at h
    obtain ⟨hmod, rfl⟩ := h
    exact (pack_unpackFirst t _ bs (Nat.div_mul_cancel (Nat.dvd_of_mod_eq_zero hmod)).symm).symm
  · rintro rfl
    exact unpack?_pack t xs

end PackedType

end SearchWire
