/-!
# Bytes

Byte strings and fixed-width little-endian words, the vocabulary in which every wire form of the
library is written. A word of width `w` is read back from its bytes (`ofLittleEndian_littleEndian`),
and cutting a byte string in front never loses a byte (`splitFront?_eq_some_iff`).
-/

namespace SearchWire

/-- A finite string of bytes. -/
abbrev Bytes := List UInt8

namespace Bytes

/-- The `w` low-order bytes of `n`, the least significant one first. -/
def littleEndian : (w : Nat) → (n : Nat) → Bytes
  | 0, _ => []
  | w + 1, n => UInt8.ofNat n :: littleEndian w (n / 256)

/-- The number whose bytes, the least significant one first, are `bs`. -/
def ofLittleEndian : Bytes → Nat
  | [] => 0
  | b :: bs => b.toNat + 256 * ofLittleEndian bs

/-- How many numbers `w` bytes can stand for. -/
def wordCount : (w : Nat) → Nat
  | 0 => 1
  | w + 1 => 256 * wordCount w

/-- The first `n` bytes and those behind them, when there are `n` bytes. -/
def splitFront? (n : Nat) (bs : Bytes) : Option (Bytes × Bytes) :=
  let front := bs.take n
  if front.length = n then some (front, bs.drop n) else none

@[simp] theorem length_littleEndian (w n : Nat) : (littleEndian w n).length = w := by
  induction w generalizing n with
  | zero => rfl
  | succ w ih => simp [littleEndian, ih]

/-- A number that `w` bytes can stand for is read back from its `w` low-order bytes. -/
theorem ofLittleEndian_littleEndian (w n : Nat) (h : n < wordCount w) :
    ofLittleEndian (littleEndian w n) = n := by
  induction w generalizing n with
  | zero => simp [littleEndian, ofLittleEndian, Nat.lt_one_iff.mp h]
  | succ w ih =>
    have hn : n / 256 < wordCount w := by
      rw [wordCount] at h
      omega
    simp only [littleEndian, ofLittleEndian, ih _ hn, UInt8.toNat_ofNat']
    omega

/-- The bytes of a word are determined by the number they stand for. -/
theorem littleEndian_ofLittleEndian (bs : Bytes) :
    littleEndian bs.length (ofLittleEndian bs) = bs := by
  induction bs with
  | nil => rfl
  | cons b bs ih =>
    have hb : b.toNat < 256 := b.toNat_lt
    have hdiv : (b.toNat + 256 * ofLittleEndian bs) / 256 = ofLittleEndian bs := by omega
    simp only [List.length_cons, littleEndian, ofLittleEndian, hdiv, ih, List.cons.injEq, and_true]
    apply UInt8.toNat_inj.mp
    rw [UInt8.toNat_ofNat']
    omega

theorem ofLittleEndian_lt (bs : Bytes) : ofLittleEndian bs < wordCount bs.length := by
  induction bs with
  | nil => simp [ofLittleEndian, wordCount]
  | cons b bs ih =>
    have hb : b.toNat < 256 := b.toNat_lt
    simp only [ofLittleEndian, List.length_cons, wordCount]
    omega

/-- Cutting `n` bytes off the front succeeds exactly when the two parts make up the whole and the
first has `n` bytes. -/
theorem splitFront?_eq_some_iff {n : Nat} {bs front rest : Bytes} :
    splitFront? n bs = some (front, rest) ↔ bs = front ++ rest ∧ front.length = n := by
  simp only [splitFront?, Option.ite_none_right_eq_some, Option.some.injEq, Prod.mk.injEq]
  constructor
  · rintro ⟨hn, rfl, rfl⟩
    exact ⟨(List.take_append_drop n bs).symm, hn⟩
  · rintro ⟨rfl, rfl⟩
    simp

/-- What follows does not change what is cut off. -/
theorem splitFront?_append {n : Nat} {bs front rest : Bytes}
    (h : splitFront? n bs = some (front, rest)) (more : Bytes) :
    splitFront? n (bs ++ more) = some (front, rest ++ more) := by
  obtain ⟨rfl, hn⟩ := splitFront?_eq_some_iff.mp h
  exact splitFront?_eq_some_iff.mpr ⟨by simp, hn⟩

/-- A cut is refused exactly when there are too few bytes. -/
theorem splitFront?_eq_none_iff {n : Nat} {bs : Bytes} :
    splitFront? n bs = none ↔ bs.length < n := by
  simp only [splitFront?, List.length_take]
  split <;> simp <;> omega

end Bytes

end SearchWire
