import Mathlib
import SearchWire.Proofs.Wire.Written

/-!
# The grammar of fields

Which bytes are fields, said without running a reader. A number may take more groups than it needs,
so a field has many spellings; no spelling continues another one (`WireField.Spells.append_nil`).
The reader takes a field off the front of a byte string exactly when the front spells that field
(`WireField.read_eq_ok_iff`), and reaches the end of the bytes exactly when they are spellings of
fields, one behind the other (`Reader.fields_eq_iff`).
-/

namespace SearchWire

/-! ### Numbers -/

namespace Varint

/-- The bytes are the groups of a number, the low-order group first: all of them but the last have
the high bit set. -/
inductive IsForm : Bytes → Nat → Prop
  | last {b : UInt8} (h : b.toNat < 128) : IsForm [b] b.toNat
  | more {b : UInt8} {bs : Bytes} {n : Nat} (h : 128 ≤ b.toNat) (hbs : IsForm bs n) :
    IsForm (b :: bs) (b.toNat - 128 + 128 * n)

/-- The bytes are at most ten groups of a number that fits 64 bits. -/
structure Spells (bs : Bytes) (n : Nat) : Prop where
  isForm : IsForm bs n
  length_le : bs.length ≤ 10
  lt_size : n < UInt64.size

lemma isForm_write (n : Nat) : IsForm (write n) n := by
  induction n using Nat.strong_induction_on with
  | _ n ih =>
    rw [write]
    split
    · rename_i hn
      have hb : (UInt8.ofNat n).toNat = n := by
        rw [UInt8.toNat_ofNat']
        omega
      have hlast : IsForm [UInt8.ofNat n] (UInt8.ofNat n).toNat := .last (by omega)
      rwa [hb] at hlast
    · rename_i hn
      have hb : (UInt8.ofNat (n % 128 + 128)).toNat = n % 128 + 128 := by
        rw [UInt8.toNat_ofNat']
        omega
      have hmore : IsForm (UInt8.ofNat (n % 128 + 128) :: write (n / 128))
          ((UInt8.ofNat (n % 128 + 128)).toNat - 128 + 128 * (n / 128)) :=
        .more (by omega) (ih (n / 128) (by omega))
      have hvalue : n % 128 + 128 - 128 + 128 * (n / 128) = n := by omega
      rwa [hb, hvalue] at hmore

/-- Groups say where they end. -/
lemma IsForm.append_inj {as bs xs ys : Bytes} {m n : Nat} (ha : IsForm as m) (hb : IsForm bs n)
    (h : as ++ xs = bs ++ ys) : m = n ∧ xs = ys := by
  induction ha generalizing bs n with
  | last hlt =>
    cases hb with
    | last _ =>
      simp only [List.singleton_append, List.cons.injEq] at h
      obtain ⟨rfl, rfl⟩ := h
      exact ⟨rfl, rfl⟩
    | more hge _ =>
      simp only [List.cons_append, List.cons.injEq] at h
      obtain ⟨rfl, _⟩ := h
      omega
  | more hge _ ih =>
    cases hb with
    | last hlt =>
      simp only [List.cons_append, List.cons.injEq] at h
      obtain ⟨rfl, _⟩ := h
      omega
    | more _ hbs =>
      simp only [List.cons_append, List.cons.injEq] at h
      obtain ⟨rfl, h⟩ := h
      obtain ⟨rfl, rfl⟩ := ih hbs h
      exact ⟨rfl, rfl⟩

lemma capacity_pos (groups : Nat) : 2 ≤ capacity groups := by
  induction groups with
  | zero => exact le_refl _
  | succ groups ih =>
    rw [capacity]
    omega

/-- Bytes from which a number is read start with its groups, and these are few enough. -/
lemma exists_isForm_of_readGroups {groups : Nat} {bs rest : Bytes} {n : Nat}
    (h : readGroups groups bs = some (n, rest)) :
    ∃ front, IsForm front n ∧ front.length ≤ groups + 1 ∧ n < capacity groups ∧
      bs = front ++ rest := by
  induction groups generalizing bs n with
  | zero =>
    cases bs with
    | nil => simp [readGroups] at h
    | cons b bs =>
      simp only [readGroups, Option.ite_none_right_eq_some, Option.some.injEq,
        Prod.mk.injEq] at h
      obtain ⟨hb, rfl, rfl⟩ := h
      exact ⟨[b], .last (by omega), by simp, Nat.lt_succ_of_le hb, rfl⟩
  | succ groups ih =>
    cases bs with
    | nil => simp [readGroups] at h
    | cons b bs =>
      rw [readGroups] at h
      by_cases hb : b.toNat < 128
      · rw [if_pos hb] at h
        cases h
        have hcapacity := capacity_pos groups
        refine ⟨[b], .last hb, by simp, ?_, rfl⟩
        rw [capacity]
        omega
      · rw [if_neg hb, Option.map_eq_some_iff] at h
        obtain ⟨⟨n', rest'⟩, hread, heq⟩ := h
        cases heq
        obtain ⟨front, hfront, hlength, hlt, rfl⟩ := ih hread
        refine ⟨b :: front, .more (by omega) hfront, by simpa using hlength, ?_, rfl⟩
        have hb256 := b.toNat_lt
        rw [capacity]
        omega

/-- A number is read from its groups, if they are few enough, whatever follows them. -/
lemma IsForm.readGroups_append {groups : Nat} {front : Bytes} {n : Nat} (h : IsForm front n)
    (hlength : front.length ≤ groups + 1) (hlt : n < capacity groups) (rest : Bytes) :
    readGroups groups (front ++ rest) = some (n, rest) := by
  induction h generalizing groups with
  | @last b hb =>
    cases groups with
    | zero =>
      have hcapacity : capacity 0 = 2 := rfl
      rw [List.singleton_append, readGroups, if_pos (by omega)]
    | succ groups => rw [List.singleton_append, readGroups, if_pos hb]
  | @more b bs n hb hbs ih =>
    cases groups with
    | zero => cases hbs <;> simp at hlength
    | succ groups =>
      rw [capacity] at hlt
      have hread : readGroups groups (bs ++ rest) = some (n, rest) :=
        ih (by simpa using hlength) (by omega)
      rw [List.cons_append, readGroups, if_neg (by omega), hread]
      rfl

/-- A number is read exactly where bytes spell it. -/
lemma read_eq_some_iff {bs rest : Bytes} {n : Nat} :
    read bs = some (n, rest) ↔ ∃ front, Spells front n ∧ bs = front ++ rest := by
  constructor
  · intro h
    obtain ⟨front, hform, hlength, hlt, hbs⟩ := exists_isForm_of_readGroups h
    exact ⟨front, ⟨hform, hlength, capacity_nine ▸ hlt⟩, hbs⟩
  · rintro ⟨front, h, rfl⟩
    exact h.isForm.readGroups_append h.length_le (capacity_nine ▸ h.lt_size) rest

end Varint

/-! ### Values -/

namespace WireValue

/-- The bytes are those of a value, without the key. -/
inductive Spells : Bytes → WireValue → Prop
  | varint {bs : Bytes} {raw : UInt64} (h : Varint.Spells bs raw.toNat) : Spells bs (.varint raw)
  | fixed64 {bs : Bytes} {bits : UInt64} (hlength : bs.length = 8)
    (h : Bytes.ofLittleEndian bs = bits.toNat) : Spells bs (.fixed64 bits)
  | bytes {length content : Bytes} (h : Varint.Spells length content.length) :
    Spells (length ++ content) (.bytes content)
  | fixed32 {bs : Bytes} {bits : UInt32} (hlength : bs.length = 4)
    (h : Bytes.ofLittleEndian bs = bits.toNat) : Spells bs (.fixed32 bits)

lemma spells_of_read {t : WireType} {bs rest : Bytes} {v : WireValue}
    (h : read t bs = .ok (v, rest)) : v.type = t ∧ ∃ front, Spells front v ∧ bs = front ++ rest := by
  cases t with
  | varint =>
    rw [read] at h
    split at h
    · rename_i n rest' hn
      cases h
      obtain ⟨front, hfront, rfl⟩ := Varint.read_eq_some_iff.mp hn
      have hback : (UInt64.ofNat n).toNat = n := by
        rw [UInt64.toNat_ofNat']
        exact Nat.mod_eq_of_lt hfront.lt_size
      exact ⟨rfl, front, .varint (by rwa [hback]), rfl⟩
    · cases h
  | fixed64 =>
    rw [read] at h
    split at h
    · rename_i word rest' hword
      cases h
      obtain ⟨rfl, hlength⟩ := Bytes.splitFront?_eq_some_iff.mp hword
      have hlt := Bytes.ofLittleEndian_lt word
      rw [hlength] at hlt
      have hback : (UInt64.ofNat (Bytes.ofLittleEndian word)).toNat = Bytes.ofLittleEndian word := by
        rw [UInt64.toNat_ofNat']
        exact Nat.mod_eq_of_lt hlt
      exact ⟨rfl, word, .fixed64 hlength hback.symm, rfl⟩
    · cases h
  | lengthDelimited =>
    rw [read] at h
    split at h
    · rename_i length rest' hlength
      split at h
      · rename_i content rest'' hcontent
        cases h
        obtain ⟨front, hfront, rfl⟩ := Varint.read_eq_some_iff.mp hlength
        obtain ⟨rfl, rfl⟩ := Bytes.splitFront?_eq_some_iff.mp hcontent
        exact ⟨rfl, front ++ content, .bytes hfront, by rw [List.append_assoc]⟩
      · cases h
    · cases h
  | fixed32 =>
    rw [read] at h
    split at h
    · rename_i word rest' hword
      cases h
      obtain ⟨rfl, hlength⟩ := Bytes.splitFront?_eq_some_iff.mp hword
      have hlt := Bytes.ofLittleEndian_lt word
      rw [hlength] at hlt
      have hback : (UInt32.ofNat (Bytes.ofLittleEndian word)).toNat = Bytes.ofLittleEndian word := by
        rw [UInt32.toNat_ofNat']
        exact Nat.mod_eq_of_lt hlt
      exact ⟨rfl, word, .fixed32 hlength hback.symm, rfl⟩
    · cases h
  | startGroup => cases h
  | endGroup => cases h

lemma Spells.read_append {front : Bytes} {v : WireValue} (h : Spells front v) (rest : Bytes) :
    read v.type (front ++ rest) = .ok (v, rest) := by
  cases h with
  | varint h =>
    rename_i raw
    have hread : Varint.read (front ++ rest) = some (raw.toNat, rest) :=
      Varint.read_eq_some_iff.mpr ⟨front, h, rfl⟩
    simp [type, read, hread]
  | fixed64 hlength h =>
    have hcut : Bytes.splitFront? 8 (front ++ rest) = some (front, rest) :=
      Bytes.splitFront?_eq_some_iff.mpr ⟨rfl, hlength⟩
    simp [type, read, hcut, h]
  | @bytes length content h =>
    have hlength : Varint.read (length ++ (content ++ rest)) =
        some (content.length, content ++ rest) :=
      Varint.read_eq_some_iff.mpr ⟨length, h, rfl⟩
    have hcut : Bytes.splitFront? content.length (content ++ rest) = some (content, rest) :=
      Bytes.splitFront?_eq_some_iff.mpr ⟨rfl, rfl⟩
    rw [List.append_assoc]
    simp [type, read, hlength, hcut]
  | fixed32 hlength h =>
    have hcut : Bytes.splitFront? 4 (front ++ rest) = some (front, rest) :=
      Bytes.splitFront?_eq_some_iff.mpr ⟨rfl, hlength⟩
    simp [type, read, hcut, h]

/-- Where a written value starts with the spelling of a value of its type, it ends with it. -/
lemma Spells.append_nil {front rest : Bytes} {v w : WireValue} (h : Spells front v)
    (ht : v.type = w.type) (heq : w.write = front ++ rest) : rest = [] := by
  cases h with
  | varint h =>
    cases w <;> cases ht
    rename_i raw
    have happend : Varint.write raw.toNat ++ [] = front ++ rest := by rwa [List.append_nil]
    exact ((Varint.isForm_write raw.toNat).append_inj h.isForm happend).2.symm
  | fixed64 hlength h =>
    cases w <;> cases ht
    have hlengths := congrArg List.length heq
    simp only [write, Bytes.length_littleEndian, List.length_append, hlength] at hlengths
    exact List.length_eq_zero_iff.mp (by omega)
  | bytes h =>
    cases w <;> cases ht
    rename_i content
    rw [write, List.append_assoc] at heq
    obtain ⟨hlength, rfl⟩ := (Varint.isForm_write content.length).append_inj h.isForm heq
    rw [List.length_append] at hlength
    exact List.length_eq_zero_iff.mp (by omega)
  | fixed32 hlength h =>
    cases w <;> cases ht
    have hlengths := congrArg List.length heq
    simp only [write, Bytes.length_littleEndian, List.length_append, hlength] at hlengths
    exact List.length_eq_zero_iff.mp (by omega)

end WireValue

/-! ### Fields -/

namespace WireField

/-- The bytes are a key, which holds the number and the wire type, and a value behind it. -/
inductive Spells : Bytes → WireField → Prop
  | keyed {key value : Bytes} {f : WireField} (hnumber : IsFieldNumber f.number)
    (hkey : Varint.Spells key (8 * f.number + f.value.type.code)) (hvalue : f.value.Spells value) :
    Spells (key ++ value) f

/-- The bytes are spellings of fields, one behind the other. -/
inductive SpellAll : Bytes → List WireField → Prop
  | nil : SpellAll [] []
  | cons {front rest : Bytes} {f : WireField} {fs : List WireField} (hf : Spells front f)
    (hfs : SpellAll rest fs) : SpellAll (front ++ rest) (f :: fs)

/-- The value of the last field with the given number, if there is one. -/
def last? (number : Nat) (fs : List WireField) : Option WireValue :=
  (fs.filter (·.number == number)).getLast?.map WireField.value

lemma mem_of_last?_eq_some {n : Nat} {v : WireValue} {fs : List WireField}
    (h : last? n fs = some v) :
    ⟨n, v⟩ ∈ fs := by
  rw [last?, Option.map_eq_some_iff] at h
  obtain ⟨f, hlast, rfl⟩ := h
  obtain ⟨hf, hnumber⟩ := List.mem_filter.mp (List.mem_of_getLast? hlast)
  rwa [← beq_iff_eq.mp hnumber]

lemma code_eq_of_ofCode? {c : Nat} {t : WireType} (h : WireType.ofCode? c = some t) :
    t.code = c := by
  rw [WireType.ofCode?.eq_def] at h
  split at h <;> cases h <;> rfl

lemma spells_of_readKey {bs rest : Bytes} {number : Nat} {t : WireType}
    (h : readKey bs = .ok ((number, t), rest)) :
    IsFieldNumber number ∧ ∃ front, Varint.Spells front (8 * number + t.code) ∧
      bs = front ++ rest := by
  have hsize : UInt32.size = 4294967296 := rfl
  have hcode := t.code_lt
  rw [readKey] at h
  split at h
  · cases h
  · rename_i key rest' hkey
    split at h
    · cases h
    · rename_i hbig
      split at h
      · cases h
      · rename_i t' ht
        split at h
        · cases h
        · rename_i hzero
          cases h
          obtain ⟨front, hfront, rfl⟩ := Varint.read_eq_some_iff.mp hkey
          have hlow := code_eq_of_ofCode? ht
          have hback : 8 * (key / 8) + t.code = key := by omega
          refine ⟨⟨by omega, by omega⟩, front, ?_, rfl⟩
          rwa [hback]

lemma readKey_of_spells {front : Bytes} {number : Nat} {t : WireType}
    (hnumber : IsFieldNumber number) (hfront : Varint.Spells front (8 * number + t.code))
    (rest : Bytes) : readKey (front ++ rest) = .ok ((number, t), rest) := by
  have hsize : UInt32.size = 4294967296 := rfl
  have hcode := t.code_lt
  obtain ⟨hpos, hlt⟩ := hnumber
  have hread : Varint.read (front ++ rest) = some (8 * number + t.code, rest) :=
    Varint.read_eq_some_iff.mpr ⟨front, hfront, rfl⟩
  have hlow : (8 * number + t.code) % 8 = t.code := by omega
  have hhigh : (8 * number + t.code) / 8 = number := by omega
  simp only [readKey, hread, hlow, hhigh, WireType.ofCode?_code]
  rw [if_neg (by omega), if_neg (by omega)]

lemma spells_of_read {bs rest : Bytes} {f : WireField} (h : read bs = .ok (f, rest)) :
    ∃ front, Spells front f ∧ bs = front ++ rest := by
  rw [read] at h
  split at h
  · cases h
  · rename_i number t rest' hreadKey
    split at h
    · cases h
    · rename_i value rest'' hreadValue
      cases h
      obtain ⟨hnumber, key, hkey, rfl⟩ := spells_of_readKey hreadKey
      obtain ⟨rfl, front, hfront, rfl⟩ := WireValue.spells_of_read hreadValue
      exact ⟨key ++ front, .keyed hnumber hkey hfront, by rw [List.append_assoc]⟩

lemma Spells.read_append {front : Bytes} {f : WireField} (h : Spells front f) (rest : Bytes) :
    read (front ++ rest) = .ok (f, rest) := by
  obtain ⟨hnumber, hkey, hvalue⟩ := h
  rw [List.append_assoc, read, readKey_of_spells hnumber hkey]
  simp only [hvalue.read_append]

/-- A field is read exactly where bytes spell it. -/
lemma read_eq_ok_iff {bs rest : Bytes} {f : WireField} :
    read bs = .ok (f, rest) ↔ ∃ front, Spells front f ∧ bs = front ++ rest := by
  refine ⟨spells_of_read, ?_⟩
  rintro ⟨front, h, rfl⟩
  exact h.read_append rest

/-- Where a written field starts with the spelling of a field, it ends with it. -/
lemma Spells.append_nil {front rest : Bytes} {f g : WireField} (h : Spells front f)
    (hg : IsFieldNumber g.number) (heq : g.write = front ++ rest) : rest = [] := by
  obtain ⟨hnumber, hkey, hvalue⟩ := h
  rw [write, List.append_assoc] at heq
  obtain ⟨hkeys, hvalues⟩ := (Varint.isForm_write g.key).append_inj hkey.isForm heq
  rw [key_eq hg] at hkeys
  have hcodef := f.value.type.code_lt
  have hcodeg := g.value.type.code_lt
  have hcode : f.value.type.code = g.value.type.code := by omega
  have htype : f.value.type = g.value.type := by
    simpa using congrArg WireType.ofCode? hcode
  exact hvalue.append_nil htype hvalues

/-- A field that breaks off is no field, however many bytes are left of it. -/
lemma read_take_of_whole {bs : Bytes} (h : ∀ f rest, read bs = .ok (f, rest) → rest = []) {n : Nat}
    (hn : n < bs.length) : ∃ e, read (bs.take n) = .error e := by
  cases hread : read (bs.take n) with
  | error e => exact ⟨e, rfl⟩
  | ok p =>
    obtain ⟨f, rest⟩ := p
    -- a field in front of the cut would be one in front of the whole, and leave nothing of it
    have hwhole := read_append hread (bs.drop n)
    rw [List.take_append_drop] at hwhole
    have hnil := h f _ hwhole
    have hdrop := List.drop_eq_nil_iff.mp (List.append_eq_nil_iff.mp hnil).2
    omega

lemma Spells.read_take {front : Bytes} {f : WireField} (h : Spells front f) {n : Nat}
    (hn : n < front.length) : ∃ e, read (front.take n) = .error e := by
  refine read_take_of_whole (fun g rest hg => ?_) hn
  have hread := h.read_append []
  rw [List.append_nil, hg] at hread
  cases hread
  rfl

lemma read_take_write {f : WireField} (hf : IsFieldNumber f.number) {n : Nat}
    (hn : n < f.write.length) : ∃ e, read (f.write.take n) = .error e := by
  refine read_take_of_whole (fun g rest hg => ?_) hn
  obtain ⟨front, hfront, hwrite⟩ := spells_of_read hg
  exact hfront.append_nil hf hwrite

/-- Where spellings of fields start with those of some, they go on with those of the others. -/
lemma SpellAll.of_append {front rest : Bytes} {fs gs : List WireField} (hfront : SpellAll front fs)
    (h : SpellAll (front ++ rest) gs) : ∃ hs, gs = fs ++ hs ∧ SpellAll rest hs := by
  induction hfront generalizing gs with
  | nil => exact ⟨gs, rfl, h⟩
  | @cons first front f fs hf _ ih =>
    have hread := hf.read_append (front ++ rest)
    rw [← List.append_assoc] at hread
    generalize hbs : first ++ front ++ rest = bs at h hread
    cases h with
    | nil => cases hread
    | @cons first' rest' g gs hg hgs =>
      have hread' := hg.read_append rest'
      rw [hread, Except.ok.injEq, Prod.mk.injEq] at hread'
      obtain ⟨rfl, rfl⟩ := hread'
      obtain ⟨hs, rfl, hrest⟩ := ih hgs
      exact ⟨hs, rfl, hrest⟩

/-- No field starts with the key of a group. -/
lemma not_spellAll_group {t : WireType} (ht : t = .startGroup ∨ t = .endGroup) {number : Nat}
    {key rest : Bytes} (hkey : Varint.Spells key (8 * number + t.code)) {fs : List WireField} :
    ¬ SpellAll (key ++ rest) fs := by
  intro h
  generalize hbs : key ++ rest = bs at h
  cases h with
  | nil =>
    obtain ⟨rfl, _⟩ := List.append_eq_nil_iff.mp hbs
    cases hkey.isForm
  | @cons front rest' f fs hf _ =>
    obtain ⟨_, hkey', _⟩ := hf
    rw [List.append_assoc] at hbs
    obtain ⟨hkeys, _⟩ := hkey.isForm.append_inj hkey'.isForm hbs
    have hcode := t.code_lt
    have hcode' := f.value.type.code_lt
    have htype : t = f.value.type := by
      have hcodes : t.code = f.value.type.code := by omega
      simpa using congrArg WireType.ofCode? hcodes
    cases hvalue : f.value <;> rw [htype, hvalue] at ht <;> rcases ht with ht | ht <;> cases ht

end WireField

/-! ### Messages -/

namespace Reader

open WireField

/-- Fields in front of other bytes are read first, and then what these bytes hold. -/
lemma fields_append {message : String} {front rest : Bytes} {fs : List WireField}
    (h : SpellAll front fs) (seen : List Nat) :
    (Reader.mk message (front ++ rest) seen).fields =
      (Occurrence.ofFields seen fs ++
          (Reader.mk message rest ((fs.map WireField.number).reverse ++ seen)).fields.1,
        (Reader.mk message rest ((fs.map WireField.number).reverse ++ seen)).fields.2) := by
  induction h generalizing seen with
  | nil => rfl
  | @cons first front f fs hf _ ih =>
    have hread := hf.read_append (front ++ rest)
    rw [← List.append_assoc] at hread
    have hseen : ((f :: fs).map WireField.number).reverse ++ seen =
        (fs.map WireField.number).reverse ++ f.number :: seen := by simp
    rw [fields_of_next?_eq_some (next?_of_read hread), ih, hseen]
    rfl

lemma fields_of_spellAll {bs : Bytes} {fs : List WireField} (h : SpellAll bs fs) (message : String)
    (seen : List Nat) :
    (Reader.mk message bs seen).fields = (Occurrence.ofFields seen fs, none) := by
  have hend : (Reader.mk message [] ((fs.map WireField.number).reverse ++ seen)).fields =
      ([], none) := fields_of_next?_eq_none rfl
  rw [← List.append_nil bs, fields_append h, hend, List.append_nil]

lemma exists_spellAll_of_fields {message : String} {bs : Bytes} {seen : List Nat}
    {xs : List Occurrence} (h : (Reader.mk message bs seen).fields = (xs, none)) :
    ∃ fs, SpellAll bs fs ∧ xs = Occurrence.ofFields seen fs := by
  -- the reader stops by itself, so the induction is on what is left to read
  induction hn : bs.length using Nat.strong_induction_on generalizing bs seen xs with
  | _ n ih =>
    subst hn
    by_cases hbs : bs = []
    · subst hbs
      have hnil := fields_of_next?_eq_none (r := ⟨message, [], seen⟩) rfl
      rw [hnil] at h
      cases h
      exact ⟨[], .nil, rfl⟩
    · cases hread : WireField.read bs with
      | error e =>
        rw [fields_of_read_eq_error hbs hread] at h
        cases h
      | ok p =>
        obtain ⟨f, rest⟩ := p
        rw [fields_of_next?_eq_some (next?_of_read hread), Prod.mk.injEq] at h
        obtain ⟨rfl, hend⟩ := h
        obtain ⟨front, hf, hfront⟩ := spells_of_read hread
        have hrest : (Reader.mk message rest (f.number :: seen)).fields =
            ((Reader.mk message rest (f.number :: seen)).fields.1, none) := Prod.ext rfl hend
        obtain ⟨fs, hfs, hxs⟩ := ih rest.length (WireField.read_length hread) hrest rfl
        subst hfront
        exact ⟨f :: fs, .cons hf hfs, congrArg (List.cons _) hxs⟩

/-- The reader reaches the end exactly of bytes that are spellings of fields. -/
theorem fields_eq_iff {message : String} {bs : Bytes} {seen : List Nat} {xs : List Occurrence} :
    (Reader.mk message bs seen).fields = (xs, none) ↔
      ∃ fs, SpellAll bs fs ∧ xs = Occurrence.ofFields seen fs := by
  refine ⟨exists_spellAll_of_fields, ?_⟩
  rintro ⟨fs, h, rfl⟩
  exact fields_of_spellAll h message seen

/-- A field is taken off the front, and its index counts the numbers read so far. -/
lemma exists_read_of_next? {r r' : Reader} {x : Occurrence} (h : r.next? = .ok (some (x, r'))) :
    ∃ f rest, WireField.read r.rest = .ok (f, rest) ∧ x = ⟨f, r.seen.count f.number⟩ ∧
      r' = ⟨r.message, rest, f.number :: r.seen⟩ := by
  rw [next?] at h
  split at h
  · cases h
  · split at h <;> cases h
    rename_i hread
    exact ⟨_, _, hread, rfl, rfl⟩

/-- The bytes in front of a place behind some field spell the fields up to that one, which are
counted from the start. -/
lemma exists_front_of_fields {r : Reader} {before behind : List Occurrence} {x : Occurrence}
    (h : r.fields.1 = before ++ x :: behind) :
    ∃ (front rest : Bytes) (fs : List WireField) (f : WireField), r.rest = front ++ rest ∧
      SpellAll front (fs ++ [f]) ∧ before = Occurrence.ofFields r.seen fs ∧
      x = ⟨f, r.seen.count f.number + (fs.map WireField.number).count f.number⟩ := by
  fun_induction fields r generalizing before with
  | case1 => simp at h
  | case2 => simp at h
  | case3 r y r' hnext fs broken hfs ih =>
    obtain ⟨f, rest', hread, rfl, rfl⟩ := exists_read_of_next? hnext
    obtain ⟨front, hfront, hrest⟩ := spells_of_read hread
    cases before with
    | nil =>
      cases h
      have hsingle := SpellAll.cons hfront .nil
      rw [List.append_nil] at hsingle
      exact ⟨front, rest', [], f, hrest, hsingle, rfl, rfl⟩
    | cons z before =>
      cases h
      have hbehind := congrArg Prod.fst hfs
      obtain ⟨front', rest, gs, g, rfl, hspell, rfl, rfl⟩ := ih hbehind
      refine ⟨front ++ front', rest, f :: gs, g, ?_, .cons hfront hspell, rfl, ?_⟩
      · rw [hrest, List.append_assoc]
      · rw [List.map_cons, List.count_cons, List.count_cons]
        congr 1
        omega

/-- The written form of fields spells them. -/
lemma spellAll_writeAll {fs : List WireField} (h : ∀ f ∈ fs, f.Fits) :
    SpellAll (writeAll fs) fs := by
  obtain ⟨gs, hgs, heq⟩ := exists_spellAll_of_fields (fields_writeAll h "" [])
  have hmap := congrArg (List.map Occurrence.toWireField) heq
  rw [Occurrence.map_ofFields, Occurrence.map_ofFields] at hmap
  subst hmap
  exact hgs

/-- Of spellings of fields, each field is converted. -/
lemma collect_of_spellAll {α : Type} {bs : Bytes} {fs : List WireField} (h : SpellAll bs fs)
    (message : String) (convert : Occurrence → Result α) :
    (start message bs).collect convert = (Occurrence.ofFields [] fs).mapM convert := by
  simp only [collect, start, fields_of_spellAll h]
  cases (Occurrence.ofFields [] fs).mapM convert <;> rfl

/-- Of a written message that breaks off inside a field, the fields in front of that one are read,
and then an error. -/
lemma fields_writeAll_append_take {fs : List WireField} (hfs : ∀ f ∈ fs, f.Fits) {g : WireField}
    (hg : IsFieldNumber g.number) {n : Nat} (hpos : 0 < n) (hn : n < g.write.length)
    (message : String) (seen : List Nat) :
    ∃ e, (Reader.mk message (writeAll fs ++ g.write.take n) seen).fields =
      (Occurrence.ofFields seen fs, some (.malformed message (.framing e))) := by
  obtain ⟨e, he⟩ := read_take_write hg hn
  have hne : g.write.take n ≠ [] := by
    rw [← List.length_pos_iff, List.length_take]
    omega
  refine ⟨e, ?_⟩
  rw [fields_append (spellAll_writeAll hfs), fields_of_read_eq_error hne he, List.append_nil]

end Reader

end SearchWire
