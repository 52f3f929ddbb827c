import SearchWire.Writer

/-!
# Scripts

A value is written by a script: a list of steps, each of which puts something into its message or
refuses to, because something has to be set and is not. The script of a message makes the check of
the message first and goes on through its slots; that of a node puts the two fields of an envelope,
and that of a criterion the one field of its kind. A message is given up at the first step that
refuses, or whose put fails.
-/

namespace SearchWire

namespace Writer

/-- Take the steps of a script, one after the other. -/
def run (w : Writer) (script : List (Result Put)) : Result Writer :=
  script.foldlM (fun w p => do outcome (w.put (← p))) w

end Writer

/-- The puts that write a leaf, or nothing when it has to be set and is not. -/
def Leaf.puts (number : Nat) : (l : Leaf) → l.Value → Option (List Put)
  | required t, v => v.map fun v => [.scalar t number v]
  | optional t, v => some [.optional t number v]
  | present t, v => some [.scalar t number v]
  | defaulted t _, v => some [.scalar t number v]
  | weight true, w => some [.scalar .float32 number w.value]
  | weight false, w => some [.optional .float32 number w.explicit?]
  | list t, xs => some (xs.map (.scalar t number))
  | requiredList t, xs => xs.map fun xs => xs.map (.scalar t number)
  | vector t, xs => some (if xs.isEmpty then [] else [.vector t number xs])
  | requiredVector t, xs => xs.map fun xs => [.vector t number xs]

/-- The steps that write a leaf of the named message. -/
def Leaf.script (message : String) (tag : Tag) (l : Leaf) (v : l.Value) : List (Result Put) :=
  match l.puts tag.number v with
  | none => [.error (.required [] message tag.name)]
  | some ps => ps.map .ok

namespace Tree

/-- The steps that write a slot of a message. -/
def slotScript {m : MessageType} : {s : Slot} → Tree (.slot m s) → List (Result Put)
  | .leaf tag l, leaf v => l.script m.name tag v
  | .child tag s required, unset =>
    if required then [.error (.required [] m.name tag.name)]
    else [.ok (.optionalChild tag (none : Option (Value s)))]
  | .child tag _ required, child value =>
    [.ok (if required then .child tag value else .optionalChild tag (some value))]
  | .children tag _, children values => [.ok (.children tag values.toList)]
  | .decayParam _ content, noParam => [.error (.required [] m.name content.name)]
  | .decayParam kind content, param k payload =>
    [.ok (.scalar (.enum .decayParamKind) kind.number k), .ok (.child content payload)]

/-- The steps that write the slots of a message. -/
def slotsScript {m : MessageType} : {ss : List Slot} → Tree (.slots m ss) → List (Result Put)
  | [], nil => []
  | _ :: _, cons head tail => head.slotScript ++ tail.slotsScript

/-- The script by which a value is written. The content of a node is encoded before its envelope is
begun. -/
def script : {s : Shape} → Value s → List (Result Put)
  | .message m, record slots =>
    match m.check slots with
    | .ok () => slots.slotsScript
    | .error e => [.error e]
  | .node f, node k payload =>
    match encode payload with
    | .ok content => [.ok (.scalar (.enum f.kinds) 1 k), .ok (.scalar .bytes 2 content)]
    | .error e => [.error e]
  | .criterion, criterion k payload => [.ok (.child k.tag payload)]

end Tree

end SearchWire
