import SearchWire.Envelope
import SearchWire.Tree.Check

/-!
# Decoding

A message is read in three steps. Its fields are taken apart; each field, in the order of the bytes,
is converted into an entry filed under the slot that it belongs to; and each slot, in the order of
the slots, is settled from its entries. No field is passed over: one that belongs to no slot or does
not convert makes the whole message unreadable, even if a later field of the same number would have
counted instead.

One level of reading is described for any reader of the children (`readShape`), and `decode` closes
the circle. It ends because a child has fewer bytes than the message that holds it, which
`SearchWire.Tree.Descent` shows.
-/

namespace SearchWire

/-- What one field says about its slot: the occurrence of a leaf, a child, or the kind or the
content of a decay parameter. -/
abbrev Slot.Item : Slot → Type
  | .leaf _ l => l.Item
  | .child _ s _ => Value s
  | .children _ s => Value s
  | .decayParam _ _ => DecayParamKind ⊕ Bytes

/-- What one field of a message says, filed under the slot it belongs to. -/
inductive Entry : List Slot → Type
  | here {s : Slot} {ss : List Slot} (x : s.Item) : Entry (s :: ss)
  | there {s : Slot} {ss : List Slot} (e : Entry ss) : Entry (s :: ss)

/-- What an entry says about the first slot. -/
def Entry.here? {s : Slot} {ss : List Slot} : Entry (s :: ss) → Option s.Item
  | here x => some x
  | there _ => none

/-- An entry that says nothing about the first slot, as an entry for the slots behind it. -/
def Entry.there? {s : Slot} {ss : List Slot} : Entry (s :: ss) → Option (Entry ss)
  | here _ => none
  | there e => some e

/-- Whether a field with the given number belongs to a slot. -/
def Slot.accepts : Slot → Nat → Bool
  | .leaf tag _, n => n == tag.number
  | .child tag _ _, n => n == tag.number
  | .children tag _, n => n == tag.number
  | .decayParam kind content, n => n == kind.number || n == content.number

section

variable (child : (s : Shape) → Bytes → Result (Value s))

/-- The child that a field of the named message holds. -/
def readChild (message : String) (tag : Tag) (index : Option Nat) (s : Shape) (x : WireField) :
    Result (Value s) := do
  let content ← x.content message
  (child s content).within ⟨message, tag.name, index⟩

/-- What a field of the named message says about the slot it belongs to. -/
def Slot.readItem (message : String) (x : Occurrence) : (s : Slot) → Result s.Item
  | .leaf _ l => l.readItem message x.toWireField
  | .child tag s _ => readChild child message tag none s x.toWireField
  | .children tag s => readChild child message tag (some x.index) s x.toWireField
  | .decayParam kind _ =>
    if x.number = kind.number then do
      return .inl (← Scalar.read message x.toWireField (.enum .decayParamKind))
    else do return .inr (← x.content message)

/-- What a field of the named message says, filed under its slot. -/
def readEntry (message : String) (x : Occurrence) : (ss : List Slot) → Result (Entry ss)
  | [] => .error (x.fault message .unknown)
  | s :: ss =>
    if s.accepts x.number then do return .here (← s.readItem child message x)
    else do return .there (← readEntry message x ss)

/-- What a slot of a message holds, from what the fields say about it in their order. -/
def Slot.settle (m : MessageType) : (s : Slot) → List s.Item → Result (Tree (.slot m s))
  | .leaf tag l, items =>
    match l.settle items with
    | some v => .ok (.leaf v)
    | none => .error (.required [] m.name tag.name)
  | .child tag _ required, items =>
    match items.getLast? with
    | some v => .ok (.child v)
    | none => if required then .error (.required [] m.name tag.name) else .ok .unset
  | .children _ _, items => .ok (.children (.ofList items))
  | .decayParam kind content, items =>
    match (items.filterMap Sum.getLeft?).getLast? with
    | none => .error (.required [] m.name kind.name)
    | some k =>
      match (items.filterMap Sum.getRight?).getLast? with
      | none => .error (.required [] m.name content.name)
      | some bs => do
        let payload ← (child (.message k.payload) bs).within ⟨m.name, content.name, none⟩
        return .param k payload

/-- What the slots of a message hold, from the entries filed under them. -/
def settleAll (m : MessageType) : (ss : List Slot) → List (Entry ss) → Result (Tree (.slots m ss))
  | [], _ => .ok .nil
  | s :: ss, entries => do
    let head ← s.settle child m (entries.filterMap Entry.here?)
    let tail ← settleAll m ss (entries.filterMap Entry.there?)
    return .cons head tail

/-- The message of the given type that a byte string is. -/
def readMessage (m : MessageType) (bs : Bytes) : Result (Message m) := do
  let entries ← (Reader.start m.name bs).collect fun x => readEntry child m.name x m.slots
  let slots ← settleAll child m m.slots entries
  m.check slots
  return .record slots

/-- The criterion for buckets that a field says. -/
def readCriterion (x : Occurrence) : Result Criterion :=
  match CriterionKind.ofNumber? x.number with
  | none => .error (x.fault Shape.criterion.name .unknown)
  | some k => do
    let payload ←
      readChild child Shape.criterion.name k.tag none (.message k.payload) x.toWireField
    return .criterion k payload

/-- The only one of the criteria that are found. -/
def onlyCriterion : List Criterion → Result Criterion
  | [] => .error (.required [] Shape.criterion.name "sorter")
  | [c] => .ok c
  | cs => .error (.invalid Shape.criterion.name (.sorterKinds cs.length))

/-- The value of a shape that a byte string is. -/
def readShape : (s : Shape) → Bytes → Result (Value s)
  | .message m, bs => readMessage child m bs
  | .node f, bs => do
    let e ← Envelope.read f bs
    let payload ← child (.message (f.payload e.kind)) e.payload
    return .node e.kind payload
  | .criterion, bs => do
    let found ← (Reader.start Shape.criterion.name bs).collect (readCriterion child)
    onlyCriterion found

end

/-- The value that a byte string is: of a message from its fields, of a node from its envelope.
A child is only ever read from fewer bytes than `bs` has, so the other branch is never taken. -/
def decode (s : Shape) (bs : Bytes) : Result (Value s) :=
  readShape
    (fun s' content =>
      if _h : content.length < bs.length then decode s' content
      else .error (.malformed s'.name (.framing .underflow)))
    s bs
termination_by bs.length

/-- The node whose kind is known and whose content is the given bytes, without the envelope around
them. -/
def decodePayload (f : Family) (k : f.Kind) (bs : Bytes) : Result (Node f) := do
  let payload ← decode (.message (f.payload k)) bs
  return .node k payload

end SearchWire
