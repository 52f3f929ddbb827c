import Mathlib
import SearchWire.ColumnValue.Blob
import SearchWire.Proofs.Result

/-!
# Blobs of column values

A value is written exactly when its length can be counted in four bytes
(`exists_toBlob_eq_ok_iff`). A blob is read as a value exactly when it is what the value is written
as (`readBody_eq_ok_iff`), so that no value has two blobs.
-/

namespace SearchWire.ColumnValue

open Result

/-- The value takes up no more bytes than can be counted in front of it. -/
def Bounded : ColumnValue → Prop
  | text s => (Text.utf8 s).length ≤ 4294967295
  | binary content => content.length ≤ 4294967295
  | integer _ | double _ | boolean _ => True

lemma cut_eq_ok_iff {n : Nat} {bs front rest : Bytes} :
    cut n bs = .ok (front, rest) ↔ bs = front ++ rest ∧ front.length = n := by
  rw [← Bytes.splitFront?_eq_some_iff, cut]
  split <;> simp_all

lemma writeCounted_eq_ok_iff {content bs : Bytes} :
    writeCounted content = .ok bs ↔
      content.length ≤ maxLength ∧ bs = Bytes.littleEndian 4 content.length ++ content := by
  rw [writeCounted]
  split <;> simp_all [eq_comm]

/-- Exactly what is written behind its length is read behind a length. -/
lemma readCounted_eq_ok_iff {bs content rest : Bytes} :
    readCounted bs = .ok (content, rest) ↔
      ∃ counted, writeCounted content = .ok counted ∧ bs = counted ++ rest := by
  have hword : Bytes.wordCount 4 = maxLength + 1 := rfl
  simp only [readCounted, bind_eq_ok_iff, Prod.exists, cut_eq_ok_iff, writeCounted_eq_ok_iff]
  constructor
  · rintro ⟨length, _, ⟨rfl, hfour⟩, rfl, hlength⟩
    have hlt := Bytes.ofLittleEndian_lt length
    have hback := Bytes.littleEndian_ofLittleEndian length
    rw [hfour] at hlt hback
    refine ⟨_, ⟨by omega, rfl⟩, ?_⟩
    rw [hlength, hback, List.append_assoc]
  · rintro ⟨_, ⟨hle, rfl⟩, rfl⟩
    have hback := Bytes.ofLittleEndian_littleEndian 4 content.length (by omega)
    exact ⟨Bytes.littleEndian 4 content.length, content ++ rest, ⟨by simp, by simp⟩, rfl,
      hback.symm⟩

/-- Eight bytes are those of the number that they stand for. -/
private lemma littleEndian_ofNat {word : Bytes} (h : word.length = 8) :
    Bytes.littleEndian 8 (UInt64.ofNat (Bytes.ofLittleEndian word)).toNat = word := by
  have hlt := Bytes.ofLittleEndian_lt word
  have hback := Bytes.littleEndian_ofLittleEndian word
  have hcount : Bytes.wordCount 8 = 2 ^ 64 := rfl
  rw [h] at hlt hback
  rw [UInt64.toNat_ofNat', Nat.mod_eq_of_lt (by omega), hback]

private lemma ofNat_littleEndian (n : UInt64) :
    UInt64.ofNat (Bytes.ofLittleEndian (Bytes.littleEndian 8 n.toNat)) = n := by
  rw [Bytes.ofLittleEndian_littleEndian 8 n.toNat n.toNat_lt, UInt64.ofNat_toNat]

/-- Behind a tag byte exactly those bytes are read as a value that the value is written as. -/
lemma readBody_eq_ok_iff {t : UInt8} {bs rest : Bytes} {v : ColumnValue} :
    readBody t bs = .ok (v, rest) ↔
      v.tag = t ∧ ∃ body, v.writeBody = .ok body ∧ bs = body ++ rest := by
  constructor
  · intro h
    simp only [readBody] at h
    split_ifs at h with h0 h1 h2 h3 h7
    · simp only [bind_eq_ok_iff, Prod.exists, cut_eq_ok_iff, pure_eq_ok_iff, Prod.mk.injEq] at h
      obtain ⟨word, _, ⟨rfl, hlength⟩, rfl, rfl⟩ := h
      exact ⟨h0.symm, word, congrArg Except.ok (littleEndian_ofNat hlength), rfl⟩
    · simp only [bind_eq_ok_iff, Prod.exists, cut_eq_ok_iff, pure_eq_ok_iff, Prod.mk.injEq] at h
      obtain ⟨word, _, ⟨rfl, hlength⟩, rfl, rfl⟩ := h
      exact ⟨h1.symm, word, congrArg Except.ok (littleEndian_ofNat hlength), rfl⟩
    · split at h
      · simp at h
      · split_ifs at h <;> simp_all [tag, writeBody]
        · obtain ⟨rfl, rfl⟩ := h
          simp
        · obtain ⟨rfl, rfl⟩ := h
          simp
    · simp only [bind_eq_ok_iff, Prod.exists, readCounted_eq_ok_iff] at h
      obtain ⟨content, _, ⟨counted, hcounted, rfl⟩, h⟩ := h
      split at h
      · rename_i s hs
        rw [pure_eq_ok_iff, Prod.mk.injEq] at h
        obtain ⟨rfl, rfl⟩ := h
        rw [Text.ofUtf8?_eq_some_iff.mp hs] at hcounted
        exact ⟨h3.symm, counted, hcounted, rfl⟩
      · exact absurd h throw_ne_ok
    · simp only [bind_eq_ok_iff, Prod.exists, readCounted_eq_ok_iff, pure_eq_ok_iff,
        Prod.mk.injEq] at h
      obtain ⟨content, _, ⟨counted, hcounted, rfl⟩, rfl, rfl⟩ := h
      exact ⟨h7.symm, counted, hcounted, rfl⟩
  · rintro ⟨rfl, body, hbody, rfl⟩
    cases v with
    | integer n =>
      cases hbody
      have hcut : cut 8 (Bytes.littleEndian 8 n.toUInt64.toNat ++ rest) = .ok (_, rest) :=
        cut_eq_ok_iff.mpr ⟨rfl, by simp⟩
      simp [readBody, tag, hcut, bind, Except.bind, pure, Except.pure, ofNat_littleEndian]
    | double x =>
      cases hbody
      have hcut : cut 8 (Bytes.littleEndian 8 x.bits.toNat ++ rest) = .ok (_, rest) :=
        cut_eq_ok_iff.mpr ⟨rfl, by simp⟩
      simp [readBody, tag, hcut, bind, Except.bind, pure, Except.pure, ofNat_littleEndian]
    | boolean b =>
      cases hbody
      cases b <;> simp [readBody, tag]
    | text s =>
      have hcounted : readCounted (body ++ rest) = .ok (Text.utf8 s, rest) :=
        readCounted_eq_ok_iff.mpr ⟨body, hbody, rfl⟩
      simp [readBody, tag, hcounted, bind, Except.bind, pure, Except.pure]
    | binary content =>
      have hcounted : readCounted (body ++ rest) = .ok (content, rest) :=
        readCounted_eq_ok_iff.mpr ⟨body, hbody, rfl⟩
      simp [readBody, tag, hcounted, bind, Except.bind, pure, Except.pure]

lemma toBlob_eq_ok_iff {v : ColumnValue} {bs : Bytes} :
    v.toBlob = .ok bs ↔ ∃ body, v.writeBody = .ok body ∧ bs = v.tag :: body := by
  simp only [toBlob, bind_eq_ok_iff, pure_eq_ok_iff, eq_comm (a := bs)]

/-- A value is read back from its blob. -/
lemma ofBlob_toBlob {v : ColumnValue} {bs : Bytes} (h : v.toBlob = .ok bs) : ofBlob bs = .ok v := by
  obtain ⟨body, hbody, rfl⟩ := toBlob_eq_ok_iff.mp h
  have hread : readBody v.tag body = .ok (v, []) :=
    readBody_eq_ok_iff.mpr ⟨rfl, body, hbody, by simp⟩
  simp [ofBlob, hread, bind, Except.bind, pure, Except.pure]

/-- A value is written as the blob it was read from. -/
lemma toBlob_ofBlob {v : ColumnValue} {bs : Bytes} (h : ofBlob bs = .ok v) : v.toBlob = .ok bs := by
  cases bs with
  | nil => simp [ofBlob] at h
  | cons t bs =>
    simp only [ofBlob, bind_eq_ok_iff, Prod.exists, readBody_eq_ok_iff] at h
    obtain ⟨_, rest, ⟨rfl, body, hbody, rfl⟩, h⟩ := h
    split at h
    · rename_i hrest
      rw [pure_eq_ok_iff] at h
      subst h
      rw [List.isEmpty_iff] at hrest
      exact toBlob_eq_ok_iff.mpr ⟨body, hbody, by simp [hrest]⟩
    · exact absurd h throw_ne_ok

/-- A value has a blob exactly when its bytes can be counted. -/
lemma exists_toBlob_eq_ok_iff {v : ColumnValue} : (∃ bs, v.toBlob = .ok bs) ↔ v.Bounded := by
  have hmax : maxLength = 4294967295 := rfl
  cases v <;> simp [toBlob_eq_ok_iff, writeBody, writeCounted_eq_ok_iff, Bounded, hmax]

end SearchWire.ColumnValue
