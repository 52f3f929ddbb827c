import Mathlib
import SearchWire.Proofs.ColumnValue.Blob

/-!
# The grammar of blobs

Which bytes are the blob of a column value, said without running a reader or a writer
(`ColumnValue.IsBlob`). Reading and writing follow this grammar, and undo each other on every byte
string and every value (`ColumnValue.ofBlob_eq_ok_iff`). What a blob holds says where it ends, so
that neither a part of a blob nor a blob with something behind it is one.
-/

namespace SearchWire

/-- A word is the little-endian form of a number exactly when it has the length and the value. -/
lemma Bytes.littleEndian_eq_iff {w n : Nat} {word : Bytes} (h : n < wordCount w) :
    littleEndian w n = word ↔ word.length = w ∧ ofLittleEndian word = n := by
  constructor
  · rintro rfl
    exact ⟨length_littleEndian w n, ofLittleEndian_littleEndian w n h⟩
  · rintro ⟨rfl, rfl⟩
    exact littleEndian_ofLittleEndian word

namespace ColumnValue

/-- The bytes are a tag byte and the value behind it: eight bytes of an integer or a double, one
byte of a truth value, and four bytes that count the bytes of a text or a byte string. -/
inductive IsBlob : Bytes → ColumnValue → Prop
  | integer {word : Bytes} {n : Int64} (hlength : word.length = 8)
    (hword : Bytes.ofLittleEndian word = n.toUInt64.toNat) : IsBlob (0 :: word) (.integer n)
  | double {word : Bytes} {x : Binary64} (hlength : word.length = 8)
    (hword : Bytes.ofLittleEndian word = x.bits.toNat) : IsBlob (1 :: word) (.double x)
  | no : IsBlob [2, 0] (.boolean false)
  | yes : IsBlob [2, 1] (.boolean true)
  | text {count : Bytes} {s : String} (hlength : count.length = 4)
    (hcount : Bytes.ofLittleEndian count = (Text.utf8 s).length) :
    IsBlob (3 :: (count ++ Text.utf8 s)) (.text s)
  | binary {count content : Bytes} (hlength : count.length = 4)
    (hcount : Bytes.ofLittleEndian count = content.length) :
    IsBlob (7 :: (count ++ content)) (.binary content)

/-! ### Writing -/

lemma writeCounted_eq_ok_iff_exists {content bs : Bytes} :
    writeCounted content = .ok bs ↔ ∃ count : Bytes, count.length = 4 ∧
      Bytes.ofLittleEndian count = content.length ∧ bs = count ++ content := by
  have hword : Bytes.wordCount 4 = maxLength + 1 := rfl
  rw [writeCounted_eq_ok_iff]
  constructor
  · rintro ⟨hle, rfl⟩
    obtain ⟨hlength, hcount⟩ := (Bytes.littleEndian_eq_iff (by omega)).mp
      (rfl : Bytes.littleEndian 4 content.length = _)
    exact ⟨_, hlength, hcount, rfl⟩
  · rintro ⟨count, hlength, hcount, rfl⟩
    have hlt := Bytes.ofLittleEndian_lt count
    rw [hlength, hcount] at hlt
    rw [(Bytes.littleEndian_eq_iff (by omega)).mpr ⟨hlength, hcount⟩]
    exact ⟨by omega, rfl⟩

/-- A value is written as the one byte string that the grammar gives it. -/
lemma toBlob_eq_ok_iff_isBlob {v : ColumnValue} {bs : Bytes} : v.toBlob = .ok bs ↔ IsBlob bs v := by
  rw [toBlob_eq_ok_iff]
  constructor
  · rintro ⟨body, hbody, rfl⟩
    cases v with
    | integer n =>
      obtain ⟨hlength, hword⟩ :=
        (Bytes.littleEndian_eq_iff n.toUInt64.toNat_lt).mp (Except.ok.inj hbody)
      exact .integer hlength hword
    | double x =>
      obtain ⟨hlength, hword⟩ :=
        (Bytes.littleEndian_eq_iff x.bits.toNat_lt).mp (Except.ok.inj hbody)
      exact .double hlength hword
    | boolean b =>
      cases hbody
      cases b
      · exact .no
      · exact .yes
    | text s =>
      obtain ⟨count, hlength, hcount, rfl⟩ := writeCounted_eq_ok_iff_exists.mp hbody
      exact .text hlength hcount
    | binary content =>
      obtain ⟨count, hlength, hcount, rfl⟩ := writeCounted_eq_ok_iff_exists.mp hbody
      exact .binary hlength hcount
  · intro h
    cases h with
    | @integer word n hlength hword =>
      have hbody := (Bytes.littleEndian_eq_iff n.toUInt64.toNat_lt).mpr ⟨hlength, hword⟩
      exact ⟨word, congrArg Except.ok hbody, rfl⟩
    | @double word x hlength hword =>
      have hbody := (Bytes.littleEndian_eq_iff x.bits.toNat_lt).mpr ⟨hlength, hword⟩
      exact ⟨word, congrArg Except.ok hbody, rfl⟩
    | no => exact ⟨_, rfl, rfl⟩
    | yes => exact ⟨_, rfl, rfl⟩
    | text hlength hcount =>
      exact ⟨_, writeCounted_eq_ok_iff_exists.mpr ⟨_, hlength, hcount, rfl⟩, rfl⟩
    | binary hlength hcount =>
      exact ⟨_, writeCounted_eq_ok_iff_exists.mpr ⟨_, hlength, hcount, rfl⟩, rfl⟩

/-! ### Reading -/

/-- A blob with something behind it is refused for just that. -/
lemma ofBlob_append {v : ColumnValue} {bs more : Bytes} (h : v.toBlob = .ok bs)
    (hmore : more ≠ []) :
    ofBlob (bs ++ more) = .error (fault (.trailing more.length)) := by
  obtain ⟨body, hbody, rfl⟩ := toBlob_eq_ok_iff.mp h
  have hread : readBody v.tag (body ++ more) = .ok (v, more) :=
    readBody_eq_ok_iff.mpr ⟨rfl, body, hbody, rfl⟩
  have hempty : more.isEmpty = false := by
    rwa [List.isEmpty_eq_false_iff]
  rw [List.cons_append, ofBlob, hread]
  simp only [bind, Except.bind, hempty]
  rfl

/-- A part of a blob is refused. -/
lemma ofBlob_take {v : ColumnValue} {bs : Bytes} {n : Nat} (h : v.toBlob = .ok bs)
    (hn : n < bs.length) : ∃ e, ofBlob (bs.take n) = .error e := by
  cases hread : ofBlob (bs.take n) with
  | error e => exact ⟨e, rfl⟩
  | ok w =>
    -- what is behind the part would be behind a blob, and the whole would be refused
    have hmore : bs.drop n ≠ [] := by
      rw [Ne, List.drop_eq_nil_iff]
      omega
    have hwhole := ofBlob_append (toBlob_ofBlob hread) hmore
    rw [List.take_append_drop, ofBlob_toBlob h] at hwhole
    cases hwhole

/-- Bytes are read as a value exactly when the value is written as them, and exactly when they are
its blob by the grammar. Of a blob that is read no part is, and with more bytes behind it is
refused. -/
theorem ofBlob_eq_ok_iff (bs : Bytes) (v : ColumnValue) :
    (ofBlob bs = .ok v ↔ v.toBlob = .ok bs) ∧ (ofBlob bs = .ok v ↔ IsBlob bs v) ∧
    (ofBlob bs = .ok v →
      (∀ n < bs.length, ∃ e, ofBlob (bs.take n) = .error e) ∧
      ∀ more ≠ [], ofBlob (bs ++ more) = .error (fault (.trailing more.length))) := by
  have hwritten : ofBlob bs = .ok v ↔ v.toBlob = .ok bs := by
    constructor
    · intro h
      exact toBlob_ofBlob h
    · intro h
      exact ofBlob_toBlob h
  refine ⟨hwritten, ?_, ?_⟩
  · rw [hwritten, toBlob_eq_ok_iff_isBlob]
  · intro h
    rw [hwritten] at h
    constructor
    · intro n hn
      exact ofBlob_take h hn
    · intro more hmore
      exact ofBlob_append h hmore

/-- The blob of a text, without its last byte, and with a byte behind it. -/
theorem ofBlob_text :
    ofBlob [3, 2, 0, 0, 0, 97, 98] = .ok (.text "ab") ∧
      (∃ e, ofBlob [3, 2, 0, 0, 0, 97] = .error e) ∧
      ofBlob [3, 2, 0, 0, 0, 97, 98, 99] = .error (fault (.trailing 1)) := by
  obtain ⟨_, hgrammar, hends⟩ := ofBlob_eq_ok_iff [3, 2, 0, 0, 0, 97, 98] (.text "ab")
  have hread : ofBlob [3, 2, 0, 0, 0, 97, 98] = .ok (.text "ab") := by
    have hblob : IsBlob (3 :: ([2, 0, 0, 0] ++ Text.utf8 "ab")) (.text "ab") := .text rfl rfl
    exact hgrammar.mpr hblob
  obtain ⟨hpart, hmore⟩ := hends hread
  exact ⟨hread, hpart 6 (by decide), hmore [99] (by decide)⟩

end ColumnValue

end SearchWire
