import Mathlib
import SearchWire.Proofs.ColumnValue.Grammar
import SearchWire.Proofs.Schema.Leaf

/-!
# What the fields of a leaf hold

Every type of value has one wire type in which it is written (`Leaf.type_of_writeItem`), and a
content that a field of that wire type has to have, said here without running a reader
(`Leaf.Admits`). What is read from a field has that content (`Leaf.admits_of_readItem`), and so has
the wire type, except for an element of a packed vector that stands alone
(`Leaf.type_of_admits`).
-/

namespace SearchWire

open Result

/-! ### Scalars -/

namespace Scalar

variable {t : Scalar} {value : WireValue}

/-- The wire type in which a scalar is written. -/
def wireType : Scalar → WireType
  | text | bytes | column => .lengthDelimited
  | int32 | int64 | bool | enum _ => .varint
  | float32 => .fixed32
  | float64 => .fixed64

/-- A field with the value holds a scalar of the type: a text in UTF-8, an integer that fits 32
bits, the blob of a column value, the code of an enumeration value, or anything else of the wire
type. -/
def Admits : Scalar → WireValue → Prop
  | text, .bytes content => ∃ s, Text.utf8 s = content
  | int32, .varint raw => ∃ n : Int32, n.toInt64.toUInt64 = raw
  | enum e, .varint raw => ∃ a : e.Value, (WireEnum.code a).toInt64.toUInt64 = raw
  | column, .bytes content => ∃ v, ColumnValue.IsBlob content v
  | int64, .varint _ | bool, .varint _ | bytes, .bytes _ => True
  | float32, .fixed32 _ | float64, .fixed64 _ => True
  | _, _ => False

lemma type_of_write {v : t.Value} (h : t.write v = .ok value) : value.type = t.wireType := by
  cases t
  case column =>
    simp only [write, bind_eq_ok_iff, pure_eq_ok_iff] at h
    obtain ⟨_, _, rfl⟩ := h
    rfl
  all_goals
    cases h
    rfl

lemma type_of_admits (h : t.Admits value) : value.type = t.wireType := by
  cases t <;> cases value <;> first | rfl | exact absurd h not_false

lemma admits_of_read {message : String} {f : WireField} {v : t.Value}
    (h : t.read message f = .ok v) : t.Admits f.value := by
  obtain ⟨number, value⟩ := f
  cases t with
  | text =>
    simp only [read, bind_eq_ok_iff, WireField.content_eq_ok_iff] at h
    obtain ⟨content, rfl, h⟩ := h
    split at h
    · rename_i s hs
      exact ⟨s, (Text.ofUtf8?_eq_some_iff.mp hs).symm⟩
    · exact absurd h throw_ne_ok
  | int32 =>
    obtain rfl := WireField.int32_eq_ok_iff.mp h
    exact ⟨v, rfl⟩
  | int64 | bool =>
    simp only [read, bind_eq_ok_iff, WireField.varint_eq_ok_iff] at h
    obtain ⟨raw, rfl, _⟩ := h
    trivial
  | float32 =>
    cases value with
    | fixed32 bits => trivial
    | _ => cases h
  | float64 =>
    cases value with
    | fixed64 bits => trivial
    | _ => cases h
  | bytes =>
    obtain rfl := WireField.content_eq_ok_iff.mp h
    trivial
  | column =>
    simp only [read, bind_eq_ok_iff, WireField.content_eq_ok_iff] at h
    obtain ⟨content, rfl, hv⟩ := h
    exact ⟨v, ColumnValue.toBlob_eq_ok_iff_isBlob.mp (ColumnValue.toBlob_ofBlob hv)⟩
  | enum e =>
    simp only [read, bind_eq_ok_iff, WireField.int32_eq_ok_iff] at h
    obtain ⟨code, rfl, h⟩ := h
    split at h
    · rename_i a ha
      exact ⟨a, by rw [← WireEnum.ofCode?_eq_some_iff.mp ha]⟩
    · exact absurd h throw_ne_ok

end Scalar

/-! ### Packed vectors -/

namespace PackedType

variable {t : PackedType} {value : WireValue}

/-- The wire type of an element that stands alone. -/
def elementType : PackedType → WireType
  | float => .fixed32
  | double => .fixed64

/-- A field with the value holds a stretch of a vector: a whole number of elements, packed, or one
element that stands alone. -/
def Admits : PackedType → WireValue → Prop
  | t, .bytes content => t.size ∣ content.length
  | float, .fixed32 _ | double, .fixed64 _ => True
  | _, _ => False

lemma type_of_admits (h : t.Admits value) :
    value.type = .lengthDelimited ∨ value.type = t.elementType := by
  cases value with
  | bytes content => exact .inl rfl
  | varint raw => cases t <;> exact absurd h not_false
  | fixed64 bits =>
    cases t with
    | float => exact absurd h not_false
    | double => exact .inr rfl
  | fixed32 bits =>
    cases t with
    | float => exact .inr rfl
    | double => exact absurd h not_false

lemma admits_of_read {message : String} {f : WireField} {xs : List t.Value}
    (h : t.read message f = .ok xs) : t.Admits f.value := by
  obtain ⟨number, value⟩ := f
  cases value with
  | bytes content =>
    have hunpack : t.unpack? content = some xs := by
      cases hxs : t.unpack? content with
      | none => cases t <;> simp [read, hxs] at h
      | some ys => cases t <;> simpa [read, hxs] using h
    rw [PackedType.unpack?_eq_some_iff.mp hunpack]
    exact ⟨xs.length, t.length_pack xs⟩
  | varint raw => cases t <;> cases h
  | fixed64 bits =>
    cases t with
    | float => cases h
    | double => trivial
  | fixed32 bits =>
    cases t with
    | float => trivial
    | double => cases h

end PackedType

/-! ### Leaves -/

namespace Leaf

variable {l : Leaf} {value : WireValue}

/-- The element type of a leaf that is a packed vector. -/
def packed? : Leaf → Option PackedType
  | vector t | requiredVector t => some t
  | required _ | optional _ | present _ | defaulted _ _ | weight _ | list _ | requiredList _ => none

/-- The wire type in which an occurrence of a leaf is written. -/
def wireType : Leaf → WireType
  | required t | optional t | present t | defaulted t _ | list t | requiredList t => t.wireType
  | weight _ => Scalar.float32.wireType
  | vector _ | requiredVector _ => .lengthDelimited

/-- A field with the value holds an occurrence of the leaf. -/
def Admits : Leaf → WireValue → Prop
  | required t, value | optional t, value | present t, value | defaulted t _, value
  | list t, value | requiredList t, value => t.Admits value
  | weight _, value => Scalar.float32.Admits value
  | vector t, value | requiredVector t, value => t.Admits value

lemma type_of_writeItem {x : l.Item} (h : l.writeItem x = .ok value) : value.type = l.wireType := by
  cases l with
  | vector t | requiredVector t =>
    cases h
    rfl
  | weight always => exact Scalar.type_of_write (t := .float32) h
  | _ => exact Scalar.type_of_write h

lemma type_of_admits (h : l.Admits value) :
    value.type = l.wireType ∨ ∃ t, l.packed? = some t ∧ value.type = t.elementType := by
  cases l with
  | vector t | requiredVector t =>
    rcases t.type_of_admits h with htype | htype
    · exact .inl htype
    · exact .inr ⟨t, rfl, htype⟩
  | weight always => exact .inl (Scalar.type_of_admits (t := .float32) h)
  | _ => exact .inl (Scalar.type_of_admits h)

lemma admits_of_readItem {message : String} {f : WireField} {x : l.Item}
    (h : l.readItem message f = .ok x) : l.Admits f.value := by
  cases l with
  | vector t | requiredVector t => exact t.admits_of_read h
  | weight always => exact Scalar.admits_of_read (t := .float32) h
  | _ => exact Scalar.admits_of_read h

/-- What occurs is written, except that an empty vector is not. -/
lemma occurrences_ne_nil {x : l.Item} {xs ys : List l.Item} {v : l.Value} (hx : x ∈ xs)
    (hsettle : l.settle xs = some v) (hwritten : l.occurrences v = some ys)
    (hvector : ∀ t, l ≠ vector t) : ys ≠ [] := by
  have hlast := List.getLast?_eq_some_getLast (List.ne_nil_of_mem hx)
  cases l with
  | required t | optional t =>
    rw [settle, hlast] at hsettle
    cases hsettle
    cases hwritten
    exact List.cons_ne_nil _ _
  | present t | defaulted t d =>
    cases hwritten
    exact List.cons_ne_nil _ _
  | weight always =>
    rw [settle, hlast] at hsettle
    cases hsettle
    cases always <;> cases hwritten <;> exact List.cons_ne_nil _ _
  | list t | requiredList t =>
    cases hsettle
    cases hwritten
    exact List.ne_nil_of_mem hx
  | vector t => exact absurd rfl (hvector t)
  | requiredVector t =>
    simp only [settle, Option.ite_none_left_eq_some, Option.some.injEq] at hsettle
    obtain ⟨_, rfl⟩ := hsettle
    cases hwritten
    exact List.cons_ne_nil _ _

end Leaf

end SearchWire
