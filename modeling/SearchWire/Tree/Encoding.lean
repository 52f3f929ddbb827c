import SearchWire.Envelope
import SearchWire.Tree.Check

/-!
# Encoding

A tree is written bottom-up: a leaf as its occurrences, a child as the bytes of its own encoding, a
message as the fields of its slots in the order of the slots, and a node as an envelope around its
message. Encoding stops at the first slot that cannot be written.
-/

namespace SearchWire

/-- The fields of a leaf in the named message. -/
def Leaf.write (message : String) (tag : Tag) (l : Leaf) (v : l.Value) : Result (List WireField) :=
  match l.occurrences v with
  | none => .error (.required [] message tag.name)
  | some items => items.mapM fun x => do return ⟨tag.number, ← l.writeItem x⟩

/-- The field of one child in the named message. -/
def Tag.writeChild (tag : Tag) (message : String) (index : Option Nat) (content : Result Bytes) :
    Result WireField := do
  return ⟨tag.number, .bytes (← content.within ⟨message, tag.name, index⟩)⟩

/-- The fields of a list of children in the named message. -/
def Tag.writeChildren (tag : Tag) (message : String) (contents : List (Result Bytes)) :
    Result (List WireField) :=
  contents.zipIdx.mapM fun (content, i) => tag.writeChild message (some i) content

/-- The field that holds a criterion for buckets of the given kind. -/
def CriterionKind.write (k : CriterionKind) (content : Result Bytes) : Result WireField :=
  k.tag.writeChild Shape.criterion.name none content

/-- What a tree is written as: a shape as bytes, a slot as fields, and a list of values as bytes for
each of them. -/
abbrev Written : Code → Type
  | .shape _ => Result Bytes
  | .slots _ _ => Result (List WireField)
  | .slot _ _ => Result (List WireField)
  | .items _ => List (Result Bytes)

/-- The written form of a tree. -/
@[simp]
def Tree.write : {c : Code} → Tree c → Written c
  | _, record (m := m) slots => do
    m.check slots
    let fields ← slots.write
    return WireField.writeAll fields
  | _, node (f := f) k payload => do
    let content ← payload.write
    return (⟨k, content⟩ : Envelope f).write
  | _, criterion k payload => do
    let field ← k.write payload.write
    return field.write
  | _, nil => .ok []
  | _, cons head tail => do
    let first ← head.write
    let rest ← tail.write
    return first ++ rest
  | .slot m (.leaf tag l), leaf v => l.write m.name tag v
  | .slot m (.child tag _ required), unset =>
    if required then .error (.required [] m.name tag.name) else .ok []
  | .slot m (.child tag _ _), child value => do
    let field ← tag.writeChild m.name none value.write
    return [field]
  | .slot m (.children tag _), children values => tag.writeChildren m.name values.write
  | .slot m (.decayParam _ content), noParam => .error (.required [] m.name content.name)
  | .slot m (.decayParam kind content), param k payload => do
    let field ← content.writeChild m.name none payload.write
    return [⟨kind.number, .varint (WireEnum.code k).toInt64.toUInt64⟩, field]
  | _, empty => []
  | _, item first rest => first.write :: rest.write

/-- The bytes of a value: of a message its fields, of a node its envelope. -/
def encode {s : Shape} (v : Value s) : Result Bytes := v.write

/-- The bytes of a node's content, without the envelope around them. -/
def encodePayload {f : Family} : Node f → Result Bytes
  | .node _ payload => encode payload

end SearchWire
