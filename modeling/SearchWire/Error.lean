import SearchWire.Decimal.Shortest
import SearchWire.Enum.Unit
import SearchWire.Wire.Field
import SearchWire.Wire.Packed

/-!
# Errors

Everything that can go wrong in encoding or decoding, as causes; the wording is in the functions
`text` alone. A missing required field carries the path from the message at the root down to the
message that lacks it, and `Error.within` puts one more step in front of that path. All other errors
pass through unchanged.
-/

namespace SearchWire

/-- One step of a path: from a message into the child that one of its fields holds. -/
structure Segment where
  message : String
  field : String
  /-- The position of the child, when the field holds a list of children. -/
  index : Option Nat
deriving DecidableEq, Repr

/-- Why a field is not of the type that is expected of its number. -/
inductive FieldFault
  /-- The message has no field of this number. -/
  | unknown
  /-- The integer does not fit 32 bits. -/
  | overflow (value : Int64)
  /-- The bytes are no text. -/
  | notText
  | wireType (expected found : WireType)
  /-- The bytes hold no whole number of elements. -/
  | ragged (element : PackedType) (length : Nat)
deriving DecidableEq, Repr

/-- Why bytes are no column value. -/
inductive BlobFault
  | empty
  | short (needed remaining : Nat)
  | notBoolean (byte : UInt8)
  | notText
  | trailing (count : Nat)
deriving DecidableEq, Repr

/-- Why bytes are not the message they should be. -/
inductive Malformation
  | framing (fault : FramingFault)
  | field (number : Nat) (fault : FieldFault)
  | blob (fault : BlobFault)
  /-- A reason in the caller's own words. -/
  | other (reason : String)
deriving DecidableEq, Repr

/-- An amount that is out of its range: a number of units, or a distance. -/
inductive Amount
  | units (count : Int32)
  | distance (value : Binary64)
deriving DecidableEq, Repr

/-- Why the fields of a message do not go together. -/
inductive Conflict
  /-- A score function is of more than one kind. -/
  | functionKinds (found : List String)
  /-- The number of alternatives that are set is not one. -/
  | sorterKinds (count : Nat)
  | coarseUnit (field : String) (unit : DateTimeUnit)
  | scaleNotPositive (scale : Amount)
  | offsetNegative (offset : Amount)
  /-- A reason in the caller's own words. -/
  | other (reason : String)
deriving DecidableEq, Repr

/-- What can go wrong in encoding or decoding. -/
inductive Error
  /-- A required field is not set. -/
  | required (path : List Segment) (message field : String)
  /-- The fields of a message do not go together. -/
  | invalid (message : String) (reason : Conflict)
  /-- A code or tag that its enumeration does not have. -/
  | unknownEnum (title : String) (raw : Int64)
  /-- Bytes that are not the message they should be. -/
  | malformed (message : String) (fault : Malformation)
  /-- An envelope whose kind its family does not have. -/
  | unsupported (title : String) (code : Int32)
  /-- A message above a size limit. -/
  | tooLarge (size limit : Nat)
deriving DecidableEq, Repr

/-- A result, or the error that prevented it. -/
abbrev Result := Except Error

namespace Error

/-- The error seen from the parent of the child in which it arose: a missing field is one step
farther away. -/
def within (s : Segment) : Error → Error
  | required path message field => required (s :: path) message field
  | e => e

end Error

/-- A result of a child, seen from the parent that holds the child at the given step. -/
def Result.within {α : Type} (s : Segment) : Result α → Result α
  | .ok a => .ok a
  | .error e => .error (e.within s)

/-! ### Wording -/

/-- A step as it is shown. -/
def Segment.text (s : Segment) : String :=
  let step := s.message ++ "." ++ s.field
  match s.index with
  | some i => step ++ "[" ++ toString i ++ "]"
  | none => step

/-- A path as it is shown, ready for the field that it leads to. -/
def pathText (path : List Segment) : String :=
  String.join (path.map fun s => s.text ++ " > ")

/-- What a framing fault is called. -/
def FramingFault.text : FramingFault → String
  | varint => undecodable "invalid varint"
  | key n => undecodable ("invalid key value: " ++ toString n)
  | wireType c => undecodable ("invalid wire type value: " ++ toString c)
  | zeroNumber => undecodable "invalid tag value: 0"
  | group t => "unsupported wire type " ++ t.name
  | underflow => undecodable "buffer underflow"
where
  undecodable (cause : String) : String := "failed to decode Protobuf message: " ++ cause

/-- What a fault of the field with the given number is called. -/
def FieldFault.text (number : Nat) : FieldFault → String
  | unknown => "unknown field " ++ toString number
  | overflow v => "field " ++ toString number ++ " value " ++ toString v ++ " overflows int32"
  | notText => "field " ++ toString number ++ " is not valid UTF-8"
  | wireType expected found =>
    "field " ++ toString number ++ " expected " ++ expected.name ++ ", found " ++ found.name
  | ragged t length =>
    "packed " ++ t.name ++ " field " ++ toString number ++ " has " ++ toString length ++ " bytes"

/-- A byte as two hexadecimal digits. -/
def hexByte (b : UInt8) : String :=
  String.ofList [Nat.digitChar (b.toNat / 16), Nat.digitChar (b.toNat % 16)]

/-- What a fault of a column value is called. -/
def BlobFault.text : BlobFault → String
  | empty => "empty value"
  | short needed remaining =>
    "needs " ++ toString needed ++ " bytes but only " ++ toString remaining ++ " remain"
  | notBoolean b => "invalid boolean byte 0x" ++ hexByte b
  | notText => "string is not valid UTF-8"
  | trailing n => toString n ++ " trailing bytes"

/-- What a malformation is called. -/
def Malformation.text : Malformation → String
  | framing f => f.text
  | field n f => f.text n
  | blob f => f.text
  | other reason => reason

/-- An amount as it is shown. -/
def Amount.text : Amount → String
  | units n => toString n
  | distance x => Decimal.shortest x

/-- What a conflict is called. -/
def Conflict.text : Conflict → String
  | functionKinds found =>
    "at most one function kind may be set, found " ++ " and ".intercalate found
  | sorterKinds n => "exactly one sorter kind may be set, found " ++ toString n
  | coarseUnit field unit =>
    field ++ " unit must be day or finer, got " ++ WireEnum.label unit
  | scaleNotPositive a => "scale must be positive, got " ++ a.text
  | offsetNegative a => "offset must not be negative, got " ++ a.text
  | other reason => reason

/-- What an error is called. -/
def Error.text : Error → String
  | required path message field => pathText path ++ message ++ "." ++ field ++ " is required"
  | invalid message reason =>
    "Invalid field combination in " ++ message ++ ": " ++ reason.text
  | unknownEnum title raw => "Unknown " ++ title ++ " value: " ++ toString raw
  | malformed message fault => "Malformed " ++ message ++ ": " ++ fault.text
  | unsupported title code => "Unsupported " ++ title ++ " code: " ++ toString code
  | tooLarge size limit =>
    "Message of " ++ toString size ++ " bytes exceeds limit of " ++ toString limit ++ " bytes"

end SearchWire
