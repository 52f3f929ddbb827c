import SearchWire.ColumnValue.Basic
import SearchWire.Error
import SearchWire.Text.Utf8

/-!
# Column value blobs

A column value travels as a blob: a tag byte for its type and the value behind it. Integers and
doubles take eight bytes in little-endian order, a truth value takes one, and texts and byte strings
stand behind their length in four bytes. A blob ends with its value, and each value has one blob.
-/

namespace SearchWire.ColumnValue

/-- The tag byte of the type of a value. -/
def tag : ColumnValue → UInt8
  | integer _ => 0
  | double _ => 1
  | boolean _ => 2
  | text _ => 3
  | binary _ => 7

/-- The greatest length that is written in front of a text or a byte string. -/
def maxLength : Nat := UInt32.size - 1

/-- Bytes behind their length in four bytes. -/
def writeCounted (content : Bytes) : Result Bytes :=
  if content.length ≤ maxLength then .ok (Bytes.littleEndian 4 content.length ++ content)
  else .error (.tooLarge content.length maxLength)

/-- The value behind the tag byte. -/
def writeBody : ColumnValue → Result Bytes
  | integer n => .ok (Bytes.littleEndian 8 n.toUInt64.toNat)
  | double x => .ok (Bytes.littleEndian 8 x.bits.toNat)
  | boolean b => .ok [if b then 1 else 0]
  | text s => writeCounted (Text.utf8 s)
  | binary content => writeCounted content

/-- The blob of a column value. -/
def toBlob (v : ColumnValue) : Result Bytes := do
  let body ← v.writeBody
  return v.tag :: body

/-- An error of a blob. -/
def fault (f : BlobFault) : Error := .malformed "ColumnValue" (.blob f)

/-- The first `n` bytes and those behind them. -/
def cut (n : Nat) (bs : Bytes) : Result (Bytes × Bytes) :=
  match Bytes.splitFront? n bs with
  | some parts => .ok parts
  | none => .error (fault (.short n bs.length))

/-- The bytes behind a length in four bytes, and those behind them. -/
def readCounted (bs : Bytes) : Result (Bytes × Bytes) := do
  let (length, rest) ← cut 4 bs
  cut (Bytes.ofLittleEndian length) rest

/-- The value behind a tag byte, and the bytes behind it. -/
def readBody (tag : UInt8) (bs : Bytes) : Result (ColumnValue × Bytes) :=
  if tag = 0 then do
    let (word, rest) ← cut 8 bs
    return (integer (UInt64.ofNat (Bytes.ofLittleEndian word)).toInt64, rest)
  else if tag = 1 then do
    let (word, rest) ← cut 8 bs
    return (double ⟨UInt64.ofNat (Bytes.ofLittleEndian word)⟩, rest)
  else if tag = 2 then
    match bs with
    | [] => .error (fault (.short 1 0))
    | b :: rest =>
      if b = 0 then .ok (boolean false, rest)
      else if b = 1 then .ok (boolean true, rest)
      else .error (fault (.notBoolean b))
  else if tag = 3 then do
    let (content, rest) ← readCounted bs
    match Text.ofUtf8? content with
    | some s => return (text s, rest)
    | none => throw (fault .notText)
  else if tag = 7 then do
    let (content, rest) ← readCounted bs
    return (binary content, rest)
  else .error (.unknownEnum "VariantType" (Int64.ofNat tag.toNat))

/-- The column value of a blob. -/
def ofBlob : Bytes → Result ColumnValue
  | [] => .error (fault .empty)
  | tag :: bs => do
    let (v, rest) ← readBody tag bs
    if rest.isEmpty then return v else throw (fault (.trailing rest.length))

end SearchWire.ColumnValue
