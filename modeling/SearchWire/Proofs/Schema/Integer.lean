import Mathlib
import SearchWire.Proofs.Schema.Leaf

/-!
# Integers keep their value

A field holds an integer as a word of 64 bits, and an integer of 32 bits as its sign extension. A
word that is no sign extension is refused, not cut down to its low-order half. So a word determines
the integer or the member of an enumeration that it is read as, and is determined by it
(`Scalar.read_varint_exact`).
-/

namespace SearchWire

open Result

/-- The integers, and the enumerations that travel as their codes. -/
def Scalar.IsIntegral : Scalar → Prop
  | int32 | int64 | enum _ => True
  | text | bool | float32 | float64 | bytes | column => False

variable {message : String} {number : Nat} {raw : UInt64} {n : Int32} {e : EnumType}

/-! ### Integers of 32 bits -/

lemma Scalar.write_int32_eq_ok_iff :
    write .int32 n = .ok (.varint raw) ↔ n.toInt64.toUInt64 = raw := by
  rw [write, Except.ok.injEq, WireValue.varint.injEq]

/-- An integer is written as its bits, with copies of the sign in front of them. -/
lemma Scalar.write_int32_eq_ok_iff_signExtend :
    write .int32 n = .ok (.varint raw) ↔ raw.toBitVec = n.toBitVec.signExtend 64 := by
  rw [write_int32_eq_ok_iff, ← UInt64.toBitVec_inj]
  exact eq_comm

/-- A word that is no integer's sign extension is too large, read as a signed one. -/
lemma WireField.int32_eq_error (h : ∀ n, Scalar.write .int32 n ≠ .ok (.varint raw)) :
    (⟨number, .varint raw⟩ : WireField).int32 message =
      .error (.malformed message (.field number (.overflow raw.toInt64))) := by
  have hwide : raw.toInt64.toInt32.toInt64 ≠ raw.toInt64 := by
    intro heq
    apply h raw.toInt64.toInt32
    rw [Scalar.write_int32_eq_ok_iff, heq, UInt64.toUInt64_toInt64]
  show (if raw.toInt64.toInt32.toInt64 = raw.toInt64 then _ else _) = _
  rw [if_neg hwide]
  rfl

/-! ### Enumerations -/

/-- An integer that is no code of an enumeration is reported. -/
lemma Scalar.read_enum_eq_unknown (h : ∀ a : e.Value, WireEnum.code a ≠ n) :
    read message ⟨number, .varint n.toInt64.toUInt64⟩ (.enum e) =
      .error (.unknownEnum e.title n.toInt64) := by
  have hnone : (WireEnum.ofCode? n : Option e.Value) = none := WireEnum.ofCode?_eq_none_iff.mpr h
  simp only [read, WireField.int32_varint, bind, Except.bind, hnone]
  rfl

/-! ### Main result -/

namespace Scalar

/-- A word is read as an integer, or as a member of an enumeration, exactly if that is written as
the word. -/
lemma read_eq_ok_iff_write {t : Scalar} (ht : t.IsIntegral) {v : t.Value} :
    t.read message ⟨number, .varint raw⟩ = .ok v ↔ t.write v = .ok (.varint raw) := by
  cases t with
  | int32 =>
    rw [read, WireField.int32_eq_ok_iff, write_int32_eq_ok_iff, WireValue.varint.injEq]
    exact eq_comm
  | int64 =>
    have hread : read message ⟨number, .varint raw⟩ .int64 = .ok raw.toInt64 := rfl
    rw [hread, Except.ok.injEq, write, Except.ok.injEq, WireValue.varint.injEq]
    constructor
    · rintro rfl
      exact UInt64.toUInt64_toInt64 raw
    · rintro rfl
      exact Int64.toInt64_toUInt64 v
  | enum e =>
    rw [read_enum_eq_ok_iff, write, Except.ok.injEq]
    exact eq_comm
  | text | bool | float32 | float64 | bytes | column => exact absurd ht not_false

/-- A field that holds a word of 64 bits is read as an integer, or as a member of an enumeration,
exactly if that is written as this word, which for an integer of 32 bits is its sign extension;
different words are never read as the same. Every word is read as some integer of 64 bits. One that
is no sign extension of 32 bits is refused as an integer of 32 bits and as a member of any
enumeration, and the sign extension of an integer that is no code is reported as that integer. -/
theorem read_varint_exact (message : String) (number : Nat) (raw : UInt64) :
    (∀ t : Scalar, t.IsIntegral → ∀ v : t.Value,
      (t.read message ⟨number, .varint raw⟩ = .ok v ↔ t.write v = .ok (.varint raw)) ∧
      ∀ (message' : String) (number' : Nat) (raw' : UInt64),
        t.read message ⟨number, .varint raw⟩ = .ok v →
        t.read message' ⟨number', .varint raw'⟩ = .ok v → raw = raw') ∧
    (∃ n : Int64, read message ⟨number, .varint raw⟩ .int64 = .ok n) ∧
    (∀ n : Int32, write .int32 n = .ok (.varint raw) ↔
      raw.toBitVec = n.toBitVec.signExtend 64) ∧
    ((∀ n : Int32, raw.toBitVec ≠ n.toBitVec.signExtend 64) →
      ∀ t : Scalar, (t = .int32 ∨ ∃ e, t = .enum e) → t.read message ⟨number, .varint raw⟩ =
        .error (.malformed message (.field number (.overflow raw.toInt64)))) ∧
    (∀ n : Int32, raw.toBitVec = n.toBitVec.signExtend 64 → ∀ e : EnumType,
      (∀ a : e.Value, WireEnum.code a ≠ n) →
      read message ⟨number, .varint raw⟩ (.enum e) = .error (.unknownEnum e.title n.toInt64)) := by
  refine ⟨fun t ht v => ⟨read_eq_ok_iff_write ht, ?_⟩, ⟨raw.toInt64, rfl⟩,
    fun n => write_int32_eq_ok_iff_signExtend, ?_, ?_⟩
  · intro message' number' raw' h h'
    rw [read_eq_ok_iff_write ht] at h h'
    exact WireValue.varint.inj (Except.ok.inj (h.symm.trans h'))
  · intro h t ht
    have hint : (⟨number, .varint raw⟩ : WireField).int32 message =
        .error (.malformed message (.field number (.overflow raw.toInt64))) := by
      apply WireField.int32_eq_error
      intro n hn
      exact h n (write_int32_eq_ok_iff_signExtend.mp hn)
    rcases ht with rfl | ⟨e, rfl⟩
    · exact hint
    · rw [read, hint]
      rfl
  · intro n hn e h
    obtain rfl := write_int32_eq_ok_iff.mp (write_int32_eq_ok_iff_signExtend.mpr hn)
    exact read_enum_eq_unknown h

/-- One more than `2 ^ 32` is not read as one, nor `-1` in 32 bits as `-1`, which is no code of an
order either; and an order is read from one word only. -/
theorem read_varint_exact_order :
    (∀ t : Scalar, (t = .int32 ∨ ∃ e, t = .enum e) →
      t.read "DocSort" ⟨1, .varint 0x100000001⟩ =
        .error (.malformed "DocSort" (.field 1 (.overflow 0x100000001))) ∧
      t.read "DocSort" ⟨1, .varint 0xffffffff⟩ =
        .error (.malformed "DocSort" (.field 1 (.overflow 0xffffffff)))) ∧
      read "DocSort" ⟨1, .varint 0xffffffffffffffff⟩ .int32 = .ok (-1) ∧
      read "DocSort" ⟨1, .varint 0xffffffffffffffff⟩ (.enum .sortOrder) =
        .error (.unknownEnum "SortOrder" (-1)) ∧
      read "DocSort" ⟨1, .varint 1⟩ (.enum .sortOrder) = .ok SortOrder.desc ∧
      ∀ raw, read "DocSort" ⟨1, .varint raw⟩ (.enum .sortOrder) = .ok SortOrder.desc →
        1 = raw := by
  have hrange : ∀ raw : UInt64, 0x80000000 ≤ raw.toBitVec.toInt →
      ∀ n : Int32, raw.toBitVec ≠ n.toBitVec.signExtend 64 := by
    intro raw hraw n heq
    have hlt := BitVec.toInt_lt (x := n.toBitVec)
    rw [heq, BitVec.toInt_signExtend_of_le (by decide)] at hraw
    omega
  refine ⟨fun t ht => ⟨?_, ?_⟩, ?_, ?_, ?_, ?_⟩
  · exact (read_varint_exact "DocSort" 1 0x100000001).2.2.2.1 (hrange _ (by decide)) t ht
  · exact (read_varint_exact "DocSort" 1 0xffffffff).2.2.2.1 (hrange _ (by decide)) t ht
  · exact ((read_varint_exact "DocSort" 1 0xffffffffffffffff).1 .int32 trivial (-1)).1.mpr rfl
  · exact (read_varint_exact "DocSort" 1 0xffffffffffffffff).2.2.2.2 (-1) rfl .sortOrder
      (by intro a; cases a <;> decide)
  · exact ((read_varint_exact "DocSort" 1 1).1 (.enum .sortOrder) trivial SortOrder.desc).1.mpr rfl
  · intro raw hraw
    exact ((read_varint_exact "DocSort" 1 1).1 (.enum .sortOrder) trivial SortOrder.desc).2
      "DocSort" 1 raw rfl hraw

end Scalar

end SearchWire
