import Mathlib
import SearchWire.Message.Query
import SearchWire.Proofs.Schema.Leaf
import SearchWire.Proofs.Tree.Faults

/-!
# Kinds of errors

Which errors encoding and decoding can end in, whatever the depth at which they arise. Encoding ends
in a missing field, in fields that do not go together, or in a column value that is too long to be
counted in four bytes (`Error.OfEncoding`). Decoding ends in any error but one of size, and a code
that it finds unknown really is none of the enumeration that it names (`Error.OfDecoding`). Readers
are put together of steps, so each of them has one lemma that says so of its own errors
(`Result.FailsOnly`).
-/

namespace SearchWire

open Result

/-! ### Results -/

/-- Whatever error the result is, it has the property. -/
def Result.FailsOnly {α : Type} (P : Error → Prop) (x : Result α) : Prop :=
  ∀ e, x = .error e → P e

namespace Result.FailsOnly

variable {α β : Type} {P : Error → Prop}

lemma of_ok {a : α} : FailsOnly P (.ok a) := fun _ h => nomatch h

lemma of_error {e : Error} (h : P e) : FailsOnly P (.error e : Result α) := by
  rintro _ ⟨⟩
  exact h

lemma imp {Q : Error → Prop} {x : Result α} (h : FailsOnly P x) (hPQ : ∀ e, P e → Q e) :
    FailsOnly Q x :=
  fun e he => hPQ e (h e he)

lemma bind {x : Result α} {f : α → Result β} (hx : FailsOnly P x)
    (hf : ∀ a, x = .ok a → FailsOnly P (f a)) : FailsOnly P (x >>= f) := by
  intro e h
  rcases bind_eq_error_iff.mp h with h | ⟨a, ha, h⟩
  · exact hx e h
  · exact hf a ha e h

lemma mapM {f : α → Result β} {xs : List α} (h : ∀ x ∈ xs, FailsOnly P (f x)) :
    FailsOnly P (xs.mapM f) := by
  intro e he
  obtain ⟨before, x, behind, rfl, _, hx⟩ := mapM_eq_error_iff.mp he
  exact h x (List.mem_append_right _ List.mem_cons_self) e hx

lemma within {x : Result α} {segment : Segment} (h : FailsOnly P x)
    (hwithin : ∀ e, P e → P (e.within segment)) : FailsOnly P (Result.within segment x) := by
  intro e he
  obtain ⟨e', hx, rfl⟩ := within_eq_error_iff.mp he
  exact hwithin e' (h e' hx)

end Result.FailsOnly

/-! ### Enumerations -/

/-- Every enumeration that has codes on the wire. -/
def EnumType.all : List EnumType :=
  [queryKind, groupByKind, aggregationKind, sorterKind, decayParamKind, queryOperator, scoreMode,
    functionScoreMode, functionCombineMode, fieldValueFactorModifier, decayMathFunction,
    multiValueMode, sortOrder, sortMode, geoDistanceType, dateTimeUnit, geoHashPrecision,
    columnReturnType]

lemma EnumType.mem_all (e : EnumType) : e ∈ all := by
  cases e <;> decide

/-- No two enumerations have one title. -/
lemma EnumType.title_injective : Function.Injective EnumType.title := by
  have hnodup : (all.map title).Nodup := by decide
  exact fun e e' h => List.inj_on_of_nodup_map hnodup e.mem_all e'.mem_all h

/-- The title is that of the enumeration and of no other one. -/
def EnumType.IsNamed (title : String) (e : EnumType) : Prop :=
  ∀ e' : EnumType, e'.title = title ↔ e' = e

lemma EnumType.isNamed_title (e : EnumType) : IsNamed e.title e :=
  fun _ => title_injective.eq_iff

/-! ### Kinds -/

namespace Error

/-- The errors that encoding can end in. -/
def OfEncoding : Error → Prop
  | required _ _ _ | invalid _ _ => True
  | tooLarge _ limit => limit = 2 ^ 32 - 1
  | unknownEnum _ _ | malformed _ _ | unsupported _ _ => False

/-- The errors that single fields are refused with: what is not known is not in the enumeration of
that name, or is not the tag of a column value. -/
def OfFields : Error → Prop
  | malformed _ _ => True
  | unknownEnum title raw =>
    (title = "VariantType" ∧ raw ∉ [0, 1, 2, 3, 7]) ∨
      ∃ e : EnumType, e.IsNamed title ∧ ∀ a : e.Value, (WireEnum.code a).toInt64 ≠ raw
  | unsupported title code =>
    ∃ f : Family, f.kinds.IsNamed title ∧ ∀ k : f.Kind, WireEnum.code k ≠ code
  | required _ _ _ | invalid _ _ | tooLarge _ _ => False

/-- The errors that decoding can end in: those of single fields, a missing field, or fields that do
not go together. -/
def OfDecoding (e : Error) : Prop :=
  match e with
  | required _ _ _ | invalid _ _ => True
  | malformed _ _ | unknownEnum _ _ | unsupported _ _ | tooLarge _ _ => e.OfFields

lemma OfEncoding.along {e : Error} (h : e.OfEncoding) (path : List Segment) :
    (e.along path).OfEncoding := by
  induction path with
  | nil => exact h
  | cons segment path ih =>
    show ((e.along path).within segment).OfEncoding
    cases he : e.along path <;> rw [he] at ih <;> exact ih

lemma OfDecoding.of_fields {e : Error} (h : e.OfFields) : e.OfDecoding := by
  cases e with
  | required _ _ _ | invalid _ _ => trivial
  | malformed _ _ | unknownEnum _ _ | unsupported _ _ | tooLarge _ _ => exact h

lemma OfDecoding.within {e : Error} (h : e.OfDecoding) (segment : Segment) :
    (e.within segment).OfDecoding := by
  cases e <;> exact h

end Error

/-! ### Readers -/

section

variable {message : String} {f : WireField}

lemma WireField.failsOnly_varint : (f.varint message).FailsOnly Error.OfFields := by
  rw [varint]
  split
  · exact .of_ok
  · exact .of_error trivial

lemma WireField.failsOnly_content : (f.content message).FailsOnly Error.OfFields := by
  rw [content]
  split
  · exact .of_ok
  · exact .of_error trivial

lemma WireField.failsOnly_int32 : (f.int32 message).FailsOnly Error.OfFields := by
  refine .bind failsOnly_varint fun raw _ => ?_
  show Result.FailsOnly _ (ite _ _ _)
  split
  · exact .of_ok
  · exact .of_error trivial

end

namespace ColumnValue

lemma failsOnly_cut {n : Nat} {bs : Bytes} : (cut n bs).FailsOnly Error.OfFields := by
  rw [cut]
  split
  · exact .of_ok
  · exact .of_error trivial

lemma failsOnly_readCounted {bs : Bytes} : (readCounted bs).FailsOnly Error.OfFields :=
  .bind failsOnly_cut fun _ _ => failsOnly_cut

/-- A tag that no column value has is not among the five that they have. -/
lemma ofFields_variantType {tag : UInt8} (h : tag ∉ [0, 1, 2, 3, 7]) :
    (Error.unknownEnum "VariantType" (Int64.ofNat tag.toNat)).OfFields := by
  refine .inl ⟨rfl, fun hraw => h ?_⟩
  have htag : (Int64.ofNat tag.toNat).toInt = tag.toNat :=
    Int64.toInt_ofNat_of_lt (tag.toNat_lt.trans (by decide))
  simp only [List.mem_cons, List.not_mem_nil, or_false, ← Int64.toInt_inj, htag,
    ← UInt8.toNat_inj] at hraw ⊢
  exact hraw.imp Int.ofNat.inj (.imp Int.ofNat.inj (.imp Int.ofNat.inj (.imp Int.ofNat.inj
    Int.ofNat.inj)))

lemma failsOnly_readBody {tag : UInt8} {bs : Bytes} :
    (readBody tag bs).FailsOnly Error.OfFields := by
  unfold readBody
  split
  · exact .bind failsOnly_cut fun _ _ => .of_ok
  split
  · exact .bind failsOnly_cut fun _ _ => .of_ok
  split
  · split
    · exact .of_error trivial
    · split
      · exact .of_ok
      · split
        · exact .of_ok
        · exact .of_error trivial
  split
  · refine .bind failsOnly_readCounted fun _ _ => ?_
    split
    split
    · exact .of_ok
    · exact .of_error trivial
  split
  · exact .bind failsOnly_readCounted fun _ _ => .of_ok
  · exact .of_error (ofFields_variantType (by simp [*]))

lemma failsOnly_ofBlob {bs : Bytes} : (ofBlob bs).FailsOnly Error.OfFields := by
  cases bs with
  | nil => exact .of_error trivial
  | cons tag bs =>
    refine .bind failsOnly_readBody fun _ _ => ?_
    split
    split
    · exact .of_ok
    · exact .of_error trivial

end ColumnValue

section

variable {message : String} {f : WireField}

lemma Scalar.failsOnly_read {t : Scalar} : (t.read message f).FailsOnly Error.OfFields := by
  cases t
  case text =>
    refine .bind WireField.failsOnly_content fun _ _ => ?_
    split
    · exact .of_ok
    · exact .of_error trivial
  case int32 => exact WireField.failsOnly_int32
  case int64 => exact .bind WireField.failsOnly_varint fun _ _ => .of_ok
  case bool => exact .bind WireField.failsOnly_varint fun _ _ => .of_ok
  case float32 =>
    rw [read]
    split
    · exact .of_ok
    · exact .of_error trivial
  case float64 =>
    rw [read]
    split
    · exact .of_ok
    · exact .of_error trivial
  case bytes => exact WireField.failsOnly_content
  case column => exact .bind WireField.failsOnly_content fun _ _ => ColumnValue.failsOnly_ofBlob
  case enum e =>
    refine .bind WireField.failsOnly_int32 fun code _ => ?_
    split
    · exact .of_ok
    · rename_i hnone
      refine .of_error (.inr ⟨e, e.isNamed_title, fun a hcode => ?_⟩)
      have hback : WireEnum.code a = code := by simpa using congrArg Int64.toInt32 hcode
      exact WireEnum.ofCode?_eq_none_iff.mp hnone a hback

lemma PackedType.failsOnly_read {t : PackedType} :
    (t.read message f).FailsOnly Error.OfFields := by
  obtain ⟨number, value⟩ := f
  cases value with
  | varint raw => cases t <;> exact .of_error trivial
  | fixed64 bits =>
    cases t with
    | float => exact .of_error trivial
    | double => exact .of_ok
  | fixed32 bits =>
    cases t with
    | float => exact .of_ok
    | double => exact .of_error trivial
  | bytes content =>
    cases t
    all_goals
      simp only [read]
      split
      · exact .of_ok
      · exact .of_error trivial

lemma Leaf.failsOnly_readItem {l : Leaf} : (l.readItem message f).FailsOnly Error.OfFields := by
  cases l
  case vector t => exact PackedType.failsOnly_read
  case requiredVector t => exact PackedType.failsOnly_read
  case weight always => exact Scalar.failsOnly_read (t := .float32)
  all_goals exact Scalar.failsOnly_read

end

/-- What ends the fields of a message in front of the end of its bytes is malformed. -/
lemma Reader.ofFields_of_broken {r : Reader} {e : Error} (h : r.fields.2 = some e) :
    e.OfFields := by
  fun_induction fields r with
  | case1 r e' hnext =>
    cases h
    rw [next?] at hnext
    split at hnext
    · cases hnext
    · split at hnext <;> cases hnext
      trivial
  | case2 => cases h
  | case3 r f r' hnext fs broken hfs ih =>
    exact ih (by rw [hfs]; exact h)

lemma Reader.failsOnly_collect {P : Error → Prop} {α : Type} {r : Reader}
    {convert : Occurrence → Result α} (hP : ∀ e : Error, e.OfFields → P e)
    (h : ∀ x ∈ r.fields.1, (convert x).FailsOnly P) : (r.collect convert).FailsOnly P := by
  refine .bind (.mapM h) fun _ _ => ?_
  split
  · exact .of_ok
  · rename_i hbroken
    exact .of_error (hP _ (ofFields_of_broken hbroken))

lemma Envelope.failsOnly_readPart {family : String} {x : Occurrence} :
    (readPart family x).FailsOnly Error.OfFields := by
  rw [readPart]
  split
  · exact .bind WireField.failsOnly_int32 fun _ _ => .of_ok
  split
  · exact .bind WireField.failsOnly_content fun _ _ => .of_ok
  · exact .of_error trivial

/-- An envelope of an unknown kind is one whose code its family does not have. -/
lemma Envelope.failsOnly_read {f : Family} {bs : Bytes} :
    (read f bs).FailsOnly Error.OfFields := by
  refine .bind (Reader.failsOnly_collect (fun _ => id) fun _ _ => failsOnly_readPart) fun _ _ => ?_
  split
  · exact .of_ok
  · rename_i hnone
    exact .of_error ⟨f, f.kinds.isNamed_title, WireEnum.ofCode?_eq_none_iff.mp hnone⟩

/-! ### Trees -/

lemma MessageType.failsOnly_check {m : MessageType} {slots : Slots m} :
    (m.check slots).FailsOnly Error.OfDecoding := by
  intro e h
  rcases check_eq_error h with ⟨_, rfl, _⟩ | ⟨_, _, _, _, _, _, hparam, rfl⟩ | ⟨_, rfl⟩
  · trivial
  · rcases DecayParam.check_eq_error hparam with ⟨_, rfl, _⟩ | ⟨_, rfl⟩ <;> trivial
  · trivial

section

variable {child : (s : Shape) → Bytes → Result (Value s)}

lemma failsOnly_readChild {message : String} {tag : Tag} {index : Option Nat} {s : Shape}
    {x : WireField} (hchild : ∀ bs, (child s bs).FailsOnly Error.OfDecoding) :
    (readChild child message tag index s x).FailsOnly Error.OfDecoding :=
  .bind (WireField.failsOnly_content.imp fun _ => .of_fields) fun content _ =>
    (hchild content).within fun _ he => he.within _

variable (hchild : ∀ s bs, (child s bs).FailsOnly Error.OfDecoding)

include hchild

lemma Slot.failsOnly_readItem {message : String} {x : Occurrence} {s : Slot} :
    (s.readItem child message x).FailsOnly Error.OfDecoding := by
  cases s with
  | leaf tag l => exact Leaf.failsOnly_readItem.imp fun _ => .of_fields
  | child tag s required => exact failsOnly_readChild (hchild s)
  | children tag s => exact failsOnly_readChild (hchild s)
  | decayParam kind content =>
    rw [readItem]
    split
    · exact .bind (Scalar.failsOnly_read.imp fun _ => .of_fields) fun _ _ => .of_ok
    · exact .bind (WireField.failsOnly_content.imp fun _ => .of_fields) fun _ _ => .of_ok

lemma failsOnly_readEntry {message : String} {x : Occurrence} {ss : List Slot} :
    (readEntry child message x ss).FailsOnly Error.OfDecoding := by
  induction ss with
  | nil => exact .of_error trivial
  | cons s ss ih =>
    rw [readEntry]
    split
    · exact .bind (Slot.failsOnly_readItem hchild) fun _ _ => .of_ok
    · exact .bind ih fun _ _ => .of_ok

lemma Slot.failsOnly_settle {m : MessageType} {s : Slot} {items : List s.Item} :
    (s.settle child m items).FailsOnly Error.OfDecoding := by
  cases s with
  | leaf tag l =>
    rw [settle]
    split
    · exact .of_ok
    · exact .of_error trivial
  | child tag s required =>
    rw [settle]
    split
    · exact .of_ok
    · split
      · exact .of_error trivial
      · exact .of_ok
  | children tag s => exact .of_ok
  | decayParam kind content =>
    rw [settle]
    split
    · exact .of_error trivial
    · split
      · exact .of_error trivial
      · exact .bind ((hchild _ _).within fun _ he => he.within _) fun _ _ => .of_ok

lemma failsOnly_settleAll {m : MessageType} {ss : List Slot} {entries : List (Entry ss)} :
    (settleAll child m ss entries).FailsOnly Error.OfDecoding := by
  induction ss with
  | nil => exact .of_ok
  | cons s ss ih =>
    exact .bind (Slot.failsOnly_settle hchild) fun _ _ => .bind ih fun _ _ => .of_ok

/-- One level of reading adds only errors of decoding to those of the children. -/
lemma failsOnly_readShape {s : Shape} {bs : Bytes} :
    (readShape child s bs).FailsOnly Error.OfDecoding := by
  cases s with
  | message m =>
    refine .bind (Reader.failsOnly_collect (fun _ => .of_fields) fun _ _ =>
      failsOnly_readEntry hchild) fun _ _ => ?_
    refine .bind (failsOnly_settleAll hchild) fun _ _ => ?_
    exact .bind MessageType.failsOnly_check fun _ _ => .of_ok
  | node f =>
    exact .bind (Envelope.failsOnly_read.imp fun _ => .of_fields) fun _ _ =>
      .bind (hchild _ _) fun _ _ => .of_ok
  | criterion =>
    refine .bind (Reader.failsOnly_collect (fun _ => .of_fields) fun x _ => ?_) fun found _ => ?_
    · rw [readCriterion]
      split
      · exact .of_error trivial
      · exact .bind (failsOnly_readChild (hchild _)) fun _ _ => .of_ok
    · rw [onlyCriterion.eq_def]
      split
      · exact .of_error trivial
      · exact .of_ok
      · exact .of_error trivial

end

/-- What cannot be decoded fails with an error of decoding, by induction on the bytes. -/
lemma failsOnly_decode (s : Shape) (bs : Bytes) : (decode s bs).FailsOnly Error.OfDecoding := by
  induction hn : bs.length using Nat.strong_induction_on generalizing s bs with
  | _ n ih =>
    subst hn
    rw [decode]
    refine failsOnly_readShape fun s' content => ?_
    split
    · rename_i hlt
      exact ih _ hlt s' content rfl
    · exact .of_error trivial

/-- What cannot be encoded fails with an error of encoding: such are the errors that a message
raises itself, and a path does not change what kind they are. -/
lemma failsOnly_encode {s : Shape} (v : Value s) : (encode v).FailsOnly Error.OfEncoding := by
  intro e h
  obtain ⟨m, w, path, e', _, hraises, rfl⟩ := v.traceable e h
  refine Error.OfEncoding.along ?_ path
  cases hraises with
  | lacks _ | check _ => trivial
  | leaf _ _ => rfl

/-! ### Main result -/

/-- Encoding a value of any shape ends in no other error than a missing field, fields that do not go
together, or a length above the greatest one of four bytes. Decoding never ends in an error of size;
a kind or a code that it finds unknown is not one of the enumeration that the error names, and no
tag of a column value where it names those. -/
theorem error_kinds (s : Shape) :
    (∀ (v : Value s) e, encode v = .error e →
      (∃ path message field, e = .required path message field) ∨
        (∃ message reason, e = .invalid message reason) ∨
        ∃ size, e = .tooLarge size (2 ^ 32 - 1)) ∧
    (∀ bs size limit, decode s bs ≠ .error (.tooLarge size limit)) ∧
    (∀ bs title code, decode s bs = .error (.unsupported title code) →
      ∃ f : Family, f.kinds.IsNamed title ∧ ∀ k : f.Kind, WireEnum.code k ≠ code) ∧
    ∀ bs title raw, decode s bs = .error (.unknownEnum title raw) →
      (title = "VariantType" ∧ raw ∉ [0, 1, 2, 3, 7]) ∨
        ∃ e : EnumType, e.IsNamed title ∧ ∀ a : e.Value, (WireEnum.code a).toInt64 ≠ raw := by
  refine ⟨fun v e h => ?_, fun bs _ _ h => failsOnly_decode s bs _ h,
    fun bs _ _ h => failsOnly_decode s bs _ h, fun bs _ _ h => failsOnly_decode s bs _ h⟩
  have he := failsOnly_encode v e h
  cases e with
  | required path message field => exact .inl ⟨path, message, field, rfl⟩
  | invalid message reason => exact .inr (.inl ⟨message, reason, rfl⟩)
  | tooLarge size limit =>
    have hlimit : limit = 2 ^ 32 - 1 := he
    exact .inr (.inr ⟨size, congrArg _ hlimit⟩)
  | unknownEnum _ _ | malformed _ _ | unsupported _ _ => exact absurd he not_false

/-- An exists query without a field, an envelope of a kind that no query is of, an operator that
does not exist, and a column value with a tag that none has. -/
theorem error_kinds_unknown :
    (∃ path message field, encode ({} : ExistsQuery).toMessage =
        .error (.required path message field)) ∧
      (decode (.node .query) [8, 99, 18, 0] = .error (.unsupported "QueryType" 99) ∧
        ∃ f : Family, f.kinds.IsNamed "QueryType" ∧ ∀ k : f.Kind, WireEnum.code k ≠ 99) ∧
      (decode (.message .matchQuery) [10, 1, 97, 18, 1, 98, 32, 9] =
          .error (.unknownEnum "QueryOperator" 9) ∧
        ∃ e : EnumType, e.IsNamed "QueryOperator" ∧
          ∀ a : e.Value, (WireEnum.code a).toInt64 ≠ 9) ∧
      decode (.message .termQuery) [10, 1, 97, 18, 1, 9] = .error (.unknownEnum "VariantType" 9) ∧
        (9 : Int64) ∉ [0, 1, 2, 3, 7] := by
  have hmissing : encode ({} : ExistsQuery).toMessage =
      .error (.required [] "ExistsQuery" "fieldName") := by cbv
  have hkind : decode (.node .query) [8, 99, 18, 0] = .error (.unsupported "QueryType" 99) := by cbv
  have hoperator : decode (.message .matchQuery) [10, 1, 97, 18, 1, 98, 32, 9] =
      .error (.unknownEnum "QueryOperator" 9) := by cbv
  have htag : decode (.message .termQuery) [10, 1, 97, 18, 1, 9] =
      .error (.unknownEnum "VariantType" 9) := by cbv
  refine ⟨?_, ⟨hkind, (error_kinds _).2.2.1 _ _ _ hkind⟩, ⟨hoperator, ?_⟩, htag, ?_⟩
  · rcases (error_kinds _).1 _ _ hmissing with ⟨path, message, field, h⟩ | ⟨_, _, h⟩ | ⟨_, h⟩
    · exact ⟨path, message, field, hmissing.trans (congrArg _ h)⟩
    · cases h
    · cases h
  · rcases (error_kinds _).2.2.2 _ _ _ hoperator with ⟨h, _⟩ | h
    · exact absurd h (by decide)
    · exact h
  · rcases (error_kinds _).2.2.2 _ _ _ htag with ⟨_, h⟩ | ⟨e, h, _⟩
    · exact h
    · cases e <;> exact absurd ((h _).mpr rfl) (by decide)

end SearchWire
