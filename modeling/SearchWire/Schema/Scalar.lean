import SearchWire.ColumnValue.Blob
import SearchWire.Schema.EnumType

/-!
# Scalars

The types of values that fill a single field, and how each of them fills it. A field is read as a
scalar only if it has the wire type of that scalar and its content is in range, so that no two
fields of different content are read as the same integer or enumeration value.
-/

namespace SearchWire

/-- The types of values that fill a single field. -/
inductive Scalar
  | text
  | int32
  | int64
  | bool
  | float32
  | float64
  | bytes
  | column
  | enum (e : EnumType)
deriving DecidableEq, Repr

/-- The values of a scalar type. -/
abbrev Scalar.Value : Scalar → Type
  | text => String
  | int32 => Int32
  | int64 => Int64
  | bool => Bool
  | float32 => Binary32
  | float64 => Binary64
  | bytes => Bytes
  | column => ColumnValue
  | enum e => e.Value

namespace WireField

/-- The error of a field of the named message. -/
def fault (f : WireField) (message : String) (x : FieldFault) : Error :=
  .malformed message (.field f.number x)

/-- The error of a field that has another wire type than is expected. -/
def mismatch (f : WireField) (message : String) (expected : WireType) : Error :=
  f.fault message (.wireType expected f.value.type)

/-- The number of a field that holds a variable-length number. -/
def varint (f : WireField) (message : String) : Result UInt64 :=
  match f.value with
  | .varint raw => .ok raw
  | _ => .error (f.mismatch message .varint)

/-- The bytes of a field that holds a byte string. -/
def content (f : WireField) (message : String) : Result Bytes :=
  match f.value with
  | .bytes content => .ok content
  | _ => .error (f.mismatch message .lengthDelimited)

/-- A field is read as bytes exactly when it holds them. -/
theorem content_eq_ok_iff {f : WireField} {message : String} {content : Bytes} :
    f.content message = .ok content ↔ f.value = .bytes content := by
  cases h : f.value <;> simp [WireField.content, h]

/-- The integer of a field, if it fits 32 bits. -/
def int32 (f : WireField) (message : String) : Result Int32 := do
  let raw ← f.varint message
  let wide := raw.toInt64
  if wide.toInt32.toInt64 = wide then return wide.toInt32
  else throw (f.fault message (.overflow wide))

end WireField

namespace Scalar

/-- The content of a field that holds the given value. -/
def write : (t : Scalar) → t.Value → Result WireValue
  | text, s => .ok (.bytes (Text.utf8 s))
  | int32, n => .ok (.varint n.toInt64.toUInt64)
  | int64, n => .ok (.varint n.toUInt64)
  | bool, b => .ok (.varint (if b then 1 else 0))
  | float32, x => .ok (.fixed32 x.bits)
  | float64, x => .ok (.fixed64 x.bits)
  | bytes, content => .ok (.bytes content)
  | column, v => do return .bytes (← v.toBlob)
  | enum _, a => .ok (.varint (WireEnum.code a).toInt64.toUInt64)

/-- The value that a field of the named message holds. -/
def read (message : String) (f : WireField) : (t : Scalar) → Result t.Value
  | text => do
    match Text.ofUtf8? (← f.content message) with
    | some s => return s
    | none => throw (f.fault message .notText)
  | int32 => f.int32 message
  | int64 => do return (← f.varint message).toInt64
  | bool => do return (← f.varint message) != 0
  | float32 =>
    match f.value with
    | .fixed32 bits => .ok ⟨bits⟩
    | _ => .error (f.mismatch message .fixed32)
  | float64 =>
    match f.value with
    | .fixed64 bits => .ok ⟨bits⟩
    | _ => .error (f.mismatch message .fixed64)
  | bytes => f.content message
  | column => do ColumnValue.ofBlob (← f.content message)
  | enum e => do
    let code ← f.int32 message
    match WireEnum.ofCode? code with
    | some a => return a
    | none => throw (.unknownEnum e.title code.toInt64)

/-- Equality of scalar values: floating-point numbers are compared as numbers. -/
def eq : (t : Scalar) → t.Value → t.Value → Bool
  | text, s, t => s == t
  | int32, m, n => m == n
  | int64, m, n => m == n
  | bool, a, b => a == b
  | float32, x, y => x.eq y
  | float64, x, y => x.eq y
  | bytes, x, y => x == y
  | column, v, w => v.eq w
  | enum _, a, b => a == b

end Scalar

namespace PackedType

/-- The content of a field that holds the given vector. -/
def write (t : PackedType) (xs : List t.Value) : WireValue := .bytes (t.pack xs)

/-- The stretch of a vector that a field of the named message holds: a packed vector, or a single
element. -/
def read (message : String) (f : WireField) (t : PackedType) : Result (List t.Value) :=
  match t, f.value with
  | .float, .fixed32 bits => .ok [⟨bits⟩]
  | .double, .fixed64 bits => .ok [⟨bits⟩]
  | t, .bytes content =>
    match t.unpack? content with
    | some xs => .ok xs
    | none => .error (f.fault message (.ragged t content.length))
  | _, _ => .error (f.mismatch message .lengthDelimited)

/-- Equality of elements, as numbers. -/
def eq : (t : PackedType) → t.Value → t.Value → Bool
  | float, x, y => x.eq y
  | double, x, y => x.eq y

end PackedType

end SearchWire
