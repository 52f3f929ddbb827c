import Mathlib
import SearchWire.Proofs.ColumnValue.Blob
import SearchWire.Proofs.Schema.Regular
import SearchWire.Tree.Encoding

/-!
# Leaves

What a leaf is written as is read back, a weight apart that was never set and is always written
(`Leaf.settle_occurrences`, `Leaf.readItem_writeItem`). What is read as a leaf can be written
(`Leaf.exists_write_of_settle`).
-/

namespace SearchWire

open Result

/-! ### Scalars -/

/-- A 32-bit integer is read back from its field. -/
lemma WireField.int32_varint (number : Nat) (n : Int32) (message : String) :
    (⟨number, .varint n.toInt64.toUInt64⟩ : WireField).int32 message = .ok n := by
  simp [int32, WireField.varint, bind, Except.bind, pure, Except.pure]

lemma WireField.varint_eq_ok_iff {f : WireField} {message : String} {raw : UInt64} :
    f.varint message = .ok raw ↔ f.value = .varint raw := by
  rw [varint]
  cases f.value <;> simp

/-- A field is read as a 32-bit integer exactly when it holds its sign extension. -/
lemma WireField.int32_eq_ok_iff {f : WireField} {message : String} {n : Int32} :
    f.int32 message = .ok n ↔ f.value = .varint n.toInt64.toUInt64 := by
  constructor
  · intro h
    simp only [int32, bind_eq_ok_iff, varint_eq_ok_iff] at h
    obtain ⟨raw, hraw, h⟩ := h
    split at h
    · rename_i hwide
      obtain rfl := pure_eq_ok_iff.mp h
      rw [hraw, hwide, UInt64.toUInt64_toInt64]
    · exact absurd h throw_ne_ok
  · intro h
    obtain ⟨number, value⟩ := f
    subst h
    exact int32_varint number n message

/-- The content of a field that holds a member of an enumeration. -/
def WireValue.ofMember {α : Type} [DecidableEq α] [WireEnum α] (a : α) : WireValue :=
  .varint (WireEnum.code a).toInt64.toUInt64

namespace Scalar

/-- A scalar is read back from its field. -/
lemma read_write {t : Scalar} {v : t.Value} {content : WireValue} (h : t.write v = .ok content)
    (message : String) (number : Nat) : t.read message ⟨number, content⟩ = .ok v := by
  cases t <;> simp only [write, bind_eq_ok_iff, pure_eq_ok_iff, Except.ok.injEq] at h
  case text =>
    subst h
    simp [read, WireField.content, bind, Except.bind, pure, Except.pure]
  case int32 =>
    subst h
    exact WireField.int32_varint number v message
  case int64 =>
    subst h
    simp [read, WireField.varint, bind, Except.bind, pure, Except.pure]
  case bool =>
    subst h
    cases v <;> rfl
  case float32 =>
    subst h
    rfl
  case float64 =>
    subst h
    rfl
  case bytes =>
    subst h
    rfl
  case column =>
    obtain ⟨blob, hblob, rfl⟩ := h
    exact ColumnValue.ofBlob_toBlob hblob
  case enum e =>
    subst h
    simp only [read, WireField.int32_varint, bind, Except.bind, WireEnum.ofCode?_code]
    rfl

/-- The scalar takes up no more bytes than can be counted in front of it. -/
def Bounded : (t : Scalar) → t.Value → Prop
  | column, v => v.Bounded
  | text, _ | int32, _ | int64, _ | bool, _ | float32, _ | float64, _ | bytes, _ | enum _, _ => True

/-- Exactly the scalars of bounded length can be written. -/
lemma exists_write_eq_ok_iff {t : Scalar} {v : t.Value} :
    (∃ content, t.write v = .ok content) ↔ t.Bounded v := by
  cases t
  case column =>
    simp only [write, bind_eq_ok_iff, pure_eq_ok_iff, Bounded,
      ← ColumnValue.exists_toBlob_eq_ok_iff]
    constructor
    · rintro ⟨_, blob, hblob, _⟩
      exact ⟨blob, hblob⟩
    · rintro ⟨blob, hblob⟩
      exact ⟨_, blob, hblob, rfl⟩
  all_goals exact ⟨fun _ => trivial, fun _ => ⟨_, rfl⟩⟩

/-- What is read is of bounded length. -/
lemma bounded_of_read {t : Scalar} {message : String} {f : WireField} {v : t.Value}
    (h : t.read message f = .ok v) : t.Bounded v := by
  cases t
  case column =>
    simp only [read, bind_eq_ok_iff] at h
    obtain ⟨blob, _, hblob⟩ := h
    exact ColumnValue.exists_toBlob_eq_ok_iff.mp ⟨blob, ColumnValue.toBlob_ofBlob hblob⟩
  all_goals trivial

/-- A field is read as a member of an enumeration exactly when it holds its code. -/
lemma read_enum_eq_ok_iff {e : EnumType} {message : String} {f : WireField} {a : e.Value} :
    read message f (.enum e) = .ok a ↔ f.value = .ofMember a := by
  constructor
  · intro h
    simp only [read, bind_eq_ok_iff, WireField.int32_eq_ok_iff] at h
    obtain ⟨code, hcode, h⟩ := h
    split at h
    · rename_i hfound
      obtain rfl := pure_eq_ok_iff.mp h
      rw [hcode, WireValue.ofMember, WireEnum.ofCode?_eq_some_iff.mp hfound]
    · exact absurd h throw_ne_ok
  · intro h
    obtain ⟨number, value⟩ := f
    subst h
    exact read_write (t := .enum e) rfl message number

end Scalar

/-- Members of an enumeration are told apart by their fields. -/
lemma WireValue.ofMember_injective {e : EnumType} :
    Function.Injective (ofMember : e.Value → WireValue) := by
  intro a b h
  have ha : (Scalar.enum e).read "" ⟨1, ofMember a⟩ = .ok a := Scalar.read_enum_eq_ok_iff.mpr rfl
  have hb : (Scalar.enum e).read "" ⟨1, ofMember a⟩ = .ok b := Scalar.read_enum_eq_ok_iff.mpr h
  exact Except.ok.inj (ha.symm.trans hb)

/-- A vector is read back from its field. -/
lemma PackedType.read_write (t : PackedType) (xs : List t.Value) (message : String) (number : Nat) :
    t.read message ⟨number, t.write xs⟩ = .ok xs := by
  cases t <;> simp [read, write]

/-! ### Rules -/

namespace Leaf

/-- A leaf with its weight set to one, if it was never set and a message of the type is never
written without one. -/
def withDefault (m : MessageType) : (l : Leaf) → l.Value → l.Value
  | weight _, w => if m.assumesWeight then .of w.value else w
  | required _, v | optional _, v | present _, v | defaulted _ _, v | list _, v | requiredList _, v
  | vector _, v | requiredVector _, v => v

/-- An occurrence is read back from its field. -/
lemma readItem_writeItem {l : Leaf} {x : l.Item} {content : WireValue}
    (h : l.writeItem x = .ok content) (message : String) (number : Nat) :
    l.readItem message ⟨number, content⟩ = .ok x := by
  cases l
  case vector t =>
    cases h
    exact t.read_write x message number
  case requiredVector t =>
    cases h
    exact t.read_write x message number
  case weight always => exact Scalar.read_write (t := .float32) h message number
  all_goals exact Scalar.read_write h message number

/-- The occurrences that a value is written as mean that value, with its weight set. -/
lemma settle_occurrences {m : MessageType} {l : Leaf} (hl : l.Regular m) {v : l.Value}
    {items : List l.Item} (h : l.occurrences v = some items) :
    l.settle items = some (l.withDefault m v) := by
  cases l with
  | required t =>
    cases v <;> simp [occurrences] at h
    subst h
    rfl
  | optional t =>
    cases h
    cases v <;> rfl
  | present t =>
    cases h
    rfl
  | defaulted t d =>
    cases h
    rfl
  | weight always =>
    rw [Regular] at hl
    subst hl
    obtain ⟨explicit⟩ := v
    cases hm : m.assumesWeight <;> rw [hm] at h <;> cases h
    · cases explicit <;> simp [settle, withDefault, hm]
    · simp [settle, withDefault, hm, Weight.of]
  | list t =>
    cases h
    rfl
  | requiredList t =>
    cases h
    rfl
  | vector t =>
    cases h
    cases v <;> simp [settle, withDefault]
  | requiredVector t =>
    cases v <;> simp [occurrences] at h
    subst h
    simp [settle, withDefault]

/-- A weight that is set to what it counts as is written like one that was never set. -/
lemma occurrences_withDefault {m : MessageType} {l : Leaf} (hl : l.Regular m) (v : l.Value) :
    l.occurrences (l.withDefault m v) = l.occurrences v := by
  cases l with
  | weight always =>
    rw [Regular] at hl
    subst hl
    cases hm : m.assumesWeight <;> simp [withDefault, hm, occurrences, Weight.of, Weight.value]
  | _ => rfl

/-- What is read as an occurrence can be written. -/
lemma exists_writeItem_of_readItem {l : Leaf} {message : String} {f : WireField} {x : l.Item}
    (h : l.readItem message f = .ok x) : ∃ content, l.writeItem x = .ok content := by
  cases l
  case vector t => exact ⟨_, rfl⟩
  case requiredVector t => exact ⟨_, rfl⟩
  case weight always => exact ⟨_, rfl⟩
  all_goals exact Scalar.exists_write_eq_ok_iff.mpr (Scalar.bounded_of_read h)

/-- A leaf is written as a field for each of its occurrences. -/
lemma write_eq_ok_iff {message : String} {tag : Tag} {l : Leaf} {v : l.Value}
    {fs : List WireField} :
    l.write message tag v = .ok fs ↔ ∃ items, l.occurrences v = some items ∧
      List.Forall₂ (fun x f => ∃ content, l.writeItem x = .ok content ∧ ⟨tag.number, content⟩ = f)
        items fs := by
  rw [write]
  cases l.occurrences v with
  | none => simp
  | some items =>
    simp only [mapM_eq_ok_iff, bind_eq_ok_iff, pure_eq_ok_iff, Option.some.injEq, exists_eq_left']

/-- A leaf can be written if it has occurrences and each of them can. -/
lemma exists_write_eq_ok_iff {message : String} {tag : Tag} {l : Leaf} {v : l.Value} :
    (∃ fs, l.write message tag v = .ok fs) ↔ ∃ items, l.occurrences v = some items ∧
      ∀ x ∈ items, ∃ content, l.writeItem x = .ok content := by
  rw [write]
  cases l.occurrences v with
  | none => simp
  | some items =>
    simp only [exists_mapM_eq_ok_iff, bind_eq_ok_iff, pure_eq_ok_iff, Option.some.injEq,
      exists_eq_left']
    constructor
    · intro h x hx
      obtain ⟨f, content, hcontent, rfl⟩ := h x hx
      exact ⟨content, hcontent⟩
    · intro h x hx
      obtain ⟨content, hcontent⟩ := h x hx
      exact ⟨_, content, hcontent, rfl⟩

/-- What a leaf is read as can be written, also when the default was read. -/
lemma exists_write_of_settle {m : MessageType} {l : Leaf} (hl : l.Regular m) {items : List l.Item}
    {v : l.Value} (hitems : ∀ x ∈ items, ∃ content, l.writeItem x = .ok content)
    (h : l.settle items = some v) (message : String) (tag : Tag) :
    ∃ fs, l.write message tag v = .ok fs := by
  rw [exists_write_eq_ok_iff]
  cases l with
  | required t =>
    obtain ⟨x, hx, rfl⟩ := Option.map_eq_some_iff.mp h
    refine ⟨[x], rfl, fun y hy => ?_⟩
    rw [List.mem_singleton.mp hy]
    exact hitems x (List.mem_of_getLast? hx)
  | optional t =>
    cases h
    exact ⟨_, rfl, fun x hx => hitems x (List.mem_of_getLast? (by simpa using hx))⟩
  | present t =>
    refine ⟨[v], rfl, fun y hy => ?_⟩
    rw [List.mem_singleton.mp hy]
    exact hitems v (List.mem_of_getLast? h)
  | defaulted t d =>
    cases h
    refine ⟨[_], rfl, fun y hy => ?_⟩
    rw [List.mem_singleton.mp hy]
    cases hlast : items.getLast? with
    | none => exact isOk_iff.mp hl
    | some x => exact hitems x (List.mem_of_getLast? hlast)
  | weight always => cases always <;> exact ⟨_, rfl, fun _ _ => ⟨_, rfl⟩⟩
  | list t =>
    cases h
    exact ⟨items, rfl, hitems⟩
  | requiredList t =>
    cases h
    exact ⟨items, rfl, hitems⟩
  | vector t => exact ⟨_, rfl, fun _ _ => ⟨_, rfl⟩⟩
  | requiredVector t =>
    simp only [settle, Option.ite_none_left_eq_some, Option.some.injEq] at h
    obtain ⟨_, rfl⟩ := h
    exact ⟨_, rfl, fun _ _ => ⟨_, rfl⟩⟩

end Leaf

end SearchWire
