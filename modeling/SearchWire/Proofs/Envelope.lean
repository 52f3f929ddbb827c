import Mathlib
import SearchWire.Envelope
import SearchWire.Proofs.Schema.Leaf
import SearchWire.Proofs.Wire.Grammar

/-!
# The grammar of envelopes

Which bytes are an envelope, and which envelope they are, said of the fields that the bytes spell
(`Envelope.Says`): the kind stands in the last field of one number, and the payload in the last
field of the other. Reading follows this grammar (`Envelope.read_eq_of_spellAll`) and accepts nothing
else (`Envelope.read_grammar`).
-/

namespace SearchWire

open Result

namespace Envelope

variable {f : Family}

/-- The field has the number and the type of the kind, an integer of 32 bits, or those of the
payload. -/
def IsPart (x : WireField) : Prop :=
  (x.number = 1 ∧ ∃ code : Int32, x.value = .varint code.toInt64.toUInt64) ∨
    (x.number = 2 ∧ ∃ content, x.value = .bytes content)

/-- The fields of an envelope say that the code of its kind is the given one, which is zero where no
field says it, and that its payload is the given one, which is empty where no field says it. -/
structure Says (fs : List WireField) (code : Int32) (payload : Bytes) : Prop where
  isPart : ∀ x ∈ fs, IsPart x
  kind : (WireField.last? 1 fs).getD (.varint 0) = .varint code.toInt64.toUInt64
  payload : (WireField.last? 2 fs).getD (.bytes []) = .bytes payload

/-! ### Parts -/

/-- The field that a part of an envelope is written as. -/
def Part.field : Part → WireField
  | .kind code => ⟨1, .varint code.toInt64.toUInt64⟩
  | .payload content => ⟨2, .bytes content⟩

lemma Part.isFieldNumber (p : Part) : IsFieldNumber p.field.number := by
  cases p with
  | kind code => exact (by decide : IsFieldNumber 1)
  | payload content => exact (by decide : IsFieldNumber 2)

lemma readPart_eq_ok_iff {family : String} {x : Occurrence} {p : Part} :
    readPart family x = .ok p ↔ x.toWireField = p.field := by
  obtain ⟨⟨number, value⟩, index⟩ := x
  rw [readPart]
  by_cases hkind : number = 1
  · rw [if_pos hkind]
    simp only [bind_eq_ok_iff, pure_eq_ok_iff, WireField.int32_eq_ok_iff]
    cases p <;> simp [Part.field, hkind]
  · by_cases hpayload : number = 2
    · rw [if_neg hkind, if_pos hpayload]
      simp only [bind_eq_ok_iff, pure_eq_ok_iff, WireField.content_eq_ok_iff]
      cases p <;> simp [Part.field, hpayload]
    · rw [if_neg hkind, if_neg hpayload]
      cases p <;> simp [Part.field, hkind, hpayload]

lemma exists_field_eq_iff {x : WireField} : (∃ p : Part, p.field = x) ↔ IsPart x := by
  obtain ⟨number, value⟩ := x
  constructor
  · rintro ⟨p, hp⟩
    cases p with
    | kind code =>
      cases hp
      exact .inl ⟨rfl, code, rfl⟩
    | payload content =>
      cases hp
      exact .inr ⟨rfl, content, rfl⟩
  · rintro (⟨hnumber, code, hvalue⟩ | ⟨hnumber, content, hvalue⟩)
    · simp only at hnumber hvalue
      exact ⟨.kind code, by rw [Part.field, hnumber, hvalue]⟩
    · simp only at hnumber hvalue
      exact ⟨.payload content, by rw [Part.field, hnumber, hvalue]⟩

lemma exists_map_field_eq {fs : List WireField} (h : ∀ x ∈ fs, IsPart x) :
    ∃ parts : List Part, parts.map Part.field = fs := by
  induction fs with
  | nil => exact ⟨[], rfl⟩
  | cons x fs ih =>
    obtain ⟨hx, hfs⟩ := List.forall_mem_cons.mp h
    obtain ⟨p, rfl⟩ := exists_field_eq_iff.mpr hx
    obtain ⟨parts, rfl⟩ := ih hfs
    exact ⟨p :: parts, rfl⟩

/-- The codes of the parts that are kinds. -/
def kinds (parts : List Part) : List Int32 :=
  parts.filterMap fun | .kind code => some code | .payload _ => none

/-- The contents of the parts that are payloads. -/
def payloads (parts : List Part) : List Bytes :=
  parts.filterMap fun | .kind _ => none | .payload content => some content

lemma filter_one_map_field (parts : List Part) :
    (parts.map Part.field).filter (·.number == 1) =
      (kinds parts).map fun code => Part.field (.kind code) := by
  induction parts with
  | nil => rfl
  | cons p parts ih =>
    cases p with
    | kind code => exact congrArg (List.cons _) ih
    | payload content => exact ih

lemma filter_two_map_field (parts : List Part) :
    (parts.map Part.field).filter (·.number == 2) =
      (payloads parts).map fun content => Part.field (.payload content) := by
  induction parts with
  | nil => rfl
  | cons p parts ih =>
    cases p with
    | kind code => exact ih
    | payload content => exact congrArg (List.cons _) ih

lemma last?_one_map_field (parts : List Part) :
    (WireField.last? 1 (parts.map Part.field)).getD (.varint 0) =
      .varint (lastKind parts).toInt64.toUInt64 := by
  show _ = WireValue.varint ((kinds parts).getLast?.getD 0).toInt64.toUInt64
  rw [WireField.last?, filter_one_map_field, List.getLast?_map]
  cases (kinds parts).getLast? <;> rfl

lemma last?_two_map_field (parts : List Part) :
    (WireField.last? 2 (parts.map Part.field)).getD (.bytes []) = .bytes (lastPayload parts) := by
  show _ = WireValue.bytes ((payloads parts).getLast?.getD [])
  rw [WireField.last?, filter_two_map_field, List.getLast?_map]
  cases (payloads parts).getLast? <;> rfl

lemma varint_injective {a b : Int32}
    (h : WireValue.varint a.toInt64.toUInt64 = .varint b.toInt64.toUInt64) : a = b := by
  have hread := WireField.int32_varint 1 a ""
  rw [h, WireField.int32_varint, Except.ok.injEq] at hread
  exact hread.symm

/-- Parts of an envelope say what the last of them say. -/
lemma says_map_field_iff {parts : List Part} {code : Int32} {payload : Bytes} :
    Says (parts.map Part.field) code payload ↔
      lastKind parts = code ∧ lastPayload parts = payload := by
  constructor
  · rintro ⟨_, hkind, hpayload⟩
    rw [last?_one_map_field] at hkind
    rw [last?_two_map_field, WireValue.bytes.injEq] at hpayload
    exact ⟨varint_injective hkind, hpayload⟩
  · rintro ⟨rfl, rfl⟩
    refine ⟨?_, last?_one_map_field parts, last?_two_map_field parts⟩
    intro x hx
    obtain ⟨p, _, hp⟩ := List.mem_map.mp hx
    exact exists_field_eq_iff.mp ⟨p, hp⟩

/-! ### Reading -/

lemma mapM_readPart_eq_ok_iff {family : String} {xs : List Occurrence} {parts : List Part} :
    xs.mapM (readPart family) = .ok parts ↔
      xs.map Occurrence.toWireField = parts.map Part.field := by
  simp only [mapM_eq_ok_iff, readPart_eq_ok_iff, ← List.forall₂_eq_eq_eq,
    List.forall₂_map_left_iff, List.forall₂_map_right_iff]

lemma collect_readPart_eq_ok_iff {family : String} {bs : Bytes} {parts : List Part} :
    (Reader.start family bs).collect (readPart family) = .ok parts ↔
      WireField.SpellAll bs (parts.map Part.field) := by
  constructor
  · intro h
    obtain ⟨hend, hparts⟩ := Reader.collect_eq_ok_iff.mp h
    obtain ⟨fs, hfs, hfields⟩ := Reader.fields_eq_iff.mp (Prod.ext rfl hend)
    have hstart : (Reader.start family bs).fields.1 = Occurrence.ofFields [] fs := hfields
    rw [hstart, mapM_readPart_eq_ok_iff, Occurrence.map_ofFields] at hparts
    rwa [← hparts]
  · intro h
    rw [Reader.collect_of_spellAll h, mapM_readPart_eq_ok_iff, Occurrence.map_ofFields]

/-- What bytes are read as is what their fields say. -/
lemma read_eq_of_spellAll {bs : Bytes} {fs : List WireField} {code : Int32} {payload : Bytes}
    (hbs : WireField.SpellAll bs fs) (h : Says fs code payload) :
    read f bs = match WireEnum.ofCode? code with
      | some k => .ok ⟨k, payload⟩
      | none => .error (.unsupported f.kinds.title code) := by
  obtain ⟨parts, rfl⟩ := exists_map_field_eq h.isPart
  obtain ⟨rfl, rfl⟩ := says_map_field_iff.mp h
  rw [read, collect_readPart_eq_ok_iff.mpr hbs]
  rfl

lemma exists_says_of_read {bs : Bytes} {e : Envelope f} (h : read f bs = .ok e) :
    ∃ fs, WireField.SpellAll bs fs ∧ Says fs (WireEnum.code e.kind) e.payload := by
  rw [read, bind_eq_ok_iff] at h
  obtain ⟨parts, hparts, h⟩ := h
  refine ⟨parts.map Part.field, collect_readPart_eq_ok_iff.mp hparts, ?_⟩
  rw [says_map_field_iff]
  split at h
  · rename_i k hk
    obtain rfl := pure_eq_ok_iff.mp h
    exact ⟨(WireEnum.ofCode?_eq_some_iff.mp hk).symm, rfl⟩
  · exact absurd h throw_ne_ok

/-- Bytes that go wrong behind the parts of an envelope are no envelope. -/
lemma read_of_broken {bs : Bytes} {fs : List WireField} {e : Error}
    (hbs : (Reader.start f.name bs).fields = (Occurrence.ofFields [] fs, some e))
    (h : ∀ x ∈ fs, IsPart x) : read f bs = .error e := by
  obtain ⟨parts, rfl⟩ := exists_map_field_eq h
  have hparts : (Occurrence.ofFields [] (parts.map Part.field)).mapM (readPart f.name) =
      .ok parts := by
    rw [mapM_readPart_eq_ok_iff, Occurrence.map_ofFields]
  have hcollect : (Reader.start f.name bs).collect (readPart f.name) = .error e := by
    rw [Reader.collect, hbs]
    simp only [hparts]
    rfl
  rw [read, hcollect]
  rfl

lemma spellAll_write {e : Envelope f} (h : e.payload.length < UInt64.size) :
    WireField.SpellAll e.write e.fields := by
  apply Reader.spellAll_writeAll
  intro x hx
  rcases List.mem_pair.mp hx with rfl | rfl
  · obtain ⟨hpos, hlt⟩ := (Part.kind (WireEnum.code e.kind)).isFieldNumber
    exact ⟨hpos, hlt, trivial⟩
  · obtain ⟨hpos, hlt⟩ := (Part.payload e.payload).isFieldNumber
    exact ⟨hpos, hlt, h⟩

/-- Bytes are read as an envelope exactly when they spell fields of the two numbers and types that
say the code of its kind and its payload, and are an error otherwise. Where the fields say a code
that no kind has, that code is reported. An envelope is read back from its bytes, whatever its
payload, if the length of the payload is one that bytes in memory can have. -/
theorem read_grammar (f : Family) :
    (∀ (bs : Bytes) (k : f.Kind) (payload : Bytes), read f bs = .ok ⟨k, payload⟩ ↔
      ∃ fs, WireField.SpellAll bs fs ∧ Says fs (WireEnum.code k) payload) ∧
    (∀ bs : Bytes, (¬ ∃ (k : f.Kind) (payload : Bytes) (fs : List WireField),
      WireField.SpellAll bs fs ∧ Says fs (WireEnum.code k) payload) → ∃ e, read f bs = .error e) ∧
    (∀ (bs : Bytes) (fs : List WireField) (code : Int32) (payload : Bytes),
      WireField.SpellAll bs fs → Says fs code payload → (∀ k : f.Kind, WireEnum.code k ≠ code) →
      read f bs = .error (.unsupported f.kinds.title code)) ∧
    (∀ (k : f.Kind) (payload : Bytes), payload.length < UInt64.size →
      read f (⟨k, payload⟩ : Envelope f).write = .ok ⟨k, payload⟩) := by
  refine ⟨?_, ?_, ?_, ?_⟩
  · intro bs k payload
    constructor
    · intro h
      exact exists_says_of_read h
    · rintro ⟨fs, hfs, hsays⟩
      rw [read_eq_of_spellAll hfs hsays, WireEnum.ofCode?_code]
  · intro bs hnone
    cases hread : read f bs with
    | error e => exact ⟨e, rfl⟩
    | ok e => exact absurd ⟨e.kind, e.payload, exists_says_of_read hread⟩ hnone
  · intro bs fs code payload hfs hsays hforeign
    rw [read_eq_of_spellAll hfs hsays, WireEnum.ofCode?_eq_none_iff.mpr hforeign]
  · intro k payload hlength
    have hsays : Says ([Part.kind (WireEnum.code k), .payload payload].map Part.field)
        (WireEnum.code k) payload := says_map_field_iff.mpr ⟨rfl, rfl⟩
    have hbs : WireField.SpellAll (⟨k, payload⟩ : Envelope f).write
        (⟨k, payload⟩ : Envelope f).fields := spellAll_write hlength
    rw [read_eq_of_spellAll hbs hsays, WireEnum.ofCode?_code]

/-- A wildcard query whose kind and payload are said twice, the kind in more groups than it needs,
a kind that no query has, and a key without a value. -/
theorem read_grammar_query :
    read .query [8, 1, 18, 1, 97, 136, 0, 138, 128, 0, 18, 2, 98, 99] =
        .ok ⟨.wildcard, [98, 99]⟩ ∧
      read .query [8, 20] = .error (.unsupported "QueryType" 20) ∧
      (∃ e, read .query [8] = .error e) ∧
      read .query (⟨.wildcard, [98, 99]⟩ : Envelope .query).write = .ok ⟨.wildcard, [98, 99]⟩ := by
  obtain ⟨hread, hfails, hforeign, hback⟩ := read_grammar .query
  have last : ∀ b : UInt8, b.toNat < 128 → Varint.Spells [b] b.toNat := by
    intro b hb
    exact ⟨.last hb, by simp, lt_trans hb (by decide)⟩
  refine ⟨?_, ?_, ?_, hback _ _ (by decide)⟩
  · rw [hread]
    refine ⟨[⟨1, .varint 1⟩, ⟨2, .bytes [97]⟩, ⟨1, .varint 10⟩, ⟨2, .bytes [98, 99]⟩], ?_, ?_⟩
    · show WireField.SpellAll (([8] ++ [1]) ++ (([18] ++ ([1] ++ [97])) ++
        (([136, 0] ++ [138, 128, 0]) ++ (([18] ++ ([2] ++ [98, 99])) ++ [])))) _
      have hkind : Varint.Spells [136, 0] 8 :=
        ⟨.more (by decide) (.last (by decide)), by decide, by decide⟩
      have hcode : Varint.Spells [138, 128, 0] 10 :=
        ⟨.more (by decide) (.more (by decide) (.last (by decide))), by decide, by decide⟩
      refine .cons (.keyed (by decide) (last 8 (by decide)) (.varint (last 1 (by decide)))) ?_
      refine .cons (.keyed (by decide) (last 18 (by decide)) (.bytes (last 1 (by decide)))) ?_
      refine .cons (.keyed (by decide) hkind (.varint hcode)) ?_
      exact .cons (.keyed (by decide) (last 18 (by decide)) (.bytes (last 2 (by decide)))) .nil
    · exact says_map_field_iff.mpr (⟨rfl, rfl⟩ : lastKind
        [.kind 1, .payload [97], .kind 10, .payload [98, 99]] = 10 ∧ _)
  · refine hforeign _ [⟨1, .varint 20⟩] 20 [] ?_ ?_ ?_
    · show WireField.SpellAll (([8] ++ [20]) ++ []) _
      exact .cons (.keyed (by decide) (last 8 (by decide)) (.varint (last 20 (by decide)))) .nil
    · exact says_map_field_iff.mpr (⟨rfl, rfl⟩ : lastKind [.kind 20] = 20 ∧ _)
    · intro k
      cases k <;> decide
  · apply hfails
    rintro ⟨_, _, fs, hfs, _⟩
    have hend : (Reader.mk "" [8] []).fields = _ := Reader.fields_eq_iff.mpr ⟨fs, hfs, rfl⟩
    have hbroken : (Reader.mk "" [8] []).next? = .error (.malformed "" (.framing .varint)) := rfl
    rw [Reader.fields] at hend
    split at hend <;> simp_all

end Envelope

end SearchWire
