import SearchWire.Bytes
import SearchWire.Decimal.Shortest
import SearchWire.Text.Quoted

/-!
# Column values

A column value is what a single column of a row can hold. Queries compare rows with column values,
and aggregations and sorters put them in the place of missing ones.
-/

namespace SearchWire

/-- A value of one column. -/
inductive ColumnValue
  | text (s : String)
  | integer (n : Int64)
  | double (x : Binary64)
  | boolean (b : Bool)
  | binary (content : Bytes)
deriving DecidableEq, Repr

namespace ColumnValue

/-- Equality of column values: doubles are compared as numbers, all else as it stands. -/
def eq : ColumnValue → ColumnValue → Bool
  | text s, text t => s == t
  | integer m, integer n => m == n
  | double x, double y => x.eq y
  | boolean a, boolean b => a == b
  | binary x, binary y => x == y
  | _, _ => false

/-- The name of the type of a column value. -/
def typeName : ColumnValue → String
  | text _ => "STRING"
  | integer _ => "INTEGER"
  | double _ => "DOUBLE"
  | boolean _ => "BOOLEAN"
  | binary _ => "BINARY"

/-- Whether the value is a text. -/
def isText : ColumnValue → Bool
  | text _ => true
  | _ => false

/-- Whether the value is an integer or a double. -/
def isNumeric : ColumnValue → Bool
  | integer _ | double _ => true
  | _ => false

/-- The text that the value is, if it is one. -/
def text? : ColumnValue → Option String
  | text s => some s
  | _ => none

/-- The integer that the value is, if it is one. -/
def integer? : ColumnValue → Option Int64
  | integer n => some n
  | _ => none

/-- The double that the value is, if it is one. -/
def double? : ColumnValue → Option Binary64
  | double x => some x
  | _ => none

/-- The truth value that the value is, if it is one. -/
def boolean? : ColumnValue → Option Bool
  | boolean b => some b
  | _ => none

/-- The bytes that the value is, if it is a byte string. -/
def binary? : ColumnValue → Option Bytes
  | binary content => some content
  | _ => none

/-- A column value as it is shown: a text in quotes, of a byte string only the length. -/
def display : ColumnValue → String
  | text s => Text.quoted s
  | integer n => toString n
  | double x => Decimal.shortest x
  | boolean b => if b then "true" else "false"
  | binary content => "<" ++ toString content.length ++ " bytes>"

instance : Coe String ColumnValue := ⟨text⟩
instance : Coe Int64 ColumnValue := ⟨integer⟩
instance : Coe Int32 ColumnValue := ⟨fun n => integer n.toInt64⟩
instance : Coe Binary64 ColumnValue := ⟨double⟩
instance : Coe Bool ColumnValue := ⟨boolean⟩
instance : Coe Bytes ColumnValue := ⟨binary⟩

end ColumnValue

end SearchWire
