import SearchWire.Tree.Encoding

/-!
# Writing fields

A writer puts a message together, field by field. What is put is a scalar, a packed vector, a child
or a list of children. A put that fails leaves the message as it was, except that the elements of a
list in front of the one that fails stay written. The puts by which a value is encoded are its
script (`SearchWire.Script`).
-/

namespace SearchWire

/-- Something to be put into a message. -/
inductive Put
  | scalar (t : Scalar) (number : Nat) (value : t.Value)
  | optional (t : Scalar) (number : Nat) (value : Option t.Value)
  | vector (t : PackedType) (number : Nat) (values : List t.Value)
  | child {s : Shape} (tag : Tag) (value : Value s)
  | optionalChild {s : Shape} (tag : Tag) (value : Option (Value s))
  | children {s : Shape} (tag : Tag) (values : List (Value s))

/-- The field that a scalar fills. -/
def Scalar.writeField (t : Scalar) (number : Nat) (v : t.Value) : Result WireField := do
  return ⟨number, ← t.write v⟩

/-- The fields that are to be written for a put into the named message, in their order. -/
def Put.fields (message : String) : Put → List (Result WireField)
  | scalar t number v => [t.writeField number v]
  | optional t number v => v.toList.map (t.writeField number)
  | vector t number xs => [.ok ⟨number, t.write xs⟩]
  | child tag v => [tag.writeChild message none (encode v)]
  | optionalChild tag v => v.toList.map fun v => tag.writeChild message none (encode v)
  | children tag vs => vs.zipIdx.map fun (v, i) => tag.writeChild message (some i) (encode v)

/-- A message that is being written: its name, and the bytes written so far. -/
structure Writer where
  message : String
  bytes : Bytes
deriving DecidableEq, Repr

namespace Writer

/-- The writer at the start of a message. -/
def start (message : String) : Writer := ⟨message, []⟩

/-- Write fields until one of them fails; the error is that of the one that fails. -/
def append (w : Writer) : List (Result WireField) → Writer × Option Error
  | [] => (w, none)
  | .ok f :: rest => append ⟨w.message, w.bytes ++ f.write⟩ rest
  | .error e :: _ => (w, some e)

/-- The message that is written, or the error with which writing stopped. -/
def outcome : Writer × Option Error → Result Writer
  | (w, none) => .ok w
  | (_, some e) => .error e

/-- Put something into the message. -/
def put (w : Writer) (p : Put) : Writer × Option Error := w.append (p.fields w.message)

end Writer

end SearchWire
