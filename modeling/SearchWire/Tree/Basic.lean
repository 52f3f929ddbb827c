import SearchWire.Schema.Layout

/-!
# Trees

The values of the schema. Queries, group-bys, aggregations, sorters and the messages that they are
made of contain one another, and one indexed family holds them all: the code of a tree says what
belongs at its root, so that a tree in which some message had the wrong slots, or some slot the
wrong kind of child, cannot be written down.

The codes below the shapes are for the parts of a message: its slots together, a single slot, and
the list of children that a slot can hold.
-/

namespace SearchWire

/-- What belongs at the root of a tree. -/
inductive Code
  /-- A value with bytes of its own. -/
  | shape (s : Shape)
  /-- The given slots of a message. -/
  | slots (m : MessageType) (ss : List Slot)
  /-- One slot of a message. -/
  | slot (m : MessageType) (s : Slot)
  /-- A list of values. -/
  | items (s : Shape)

/-- The values of the schema. -/
inductive Tree : Code → Type
  | record {m : MessageType} (slots : Tree (.slots m m.slots)) : Tree (.shape (.message m))
  | node {f : Family} (k : f.Kind) (payload : Tree (.shape (.message (f.payload k)))) :
    Tree (.shape (.node f))
  | criterion (k : CriterionKind) (payload : Tree (.shape (.message k.payload))) :
    Tree (.shape .criterion)
  | nil {m : MessageType} : Tree (.slots m [])
  | cons {m : MessageType} {s : Slot} {ss : List Slot} (head : Tree (.slot m s))
    (tail : Tree (.slots m ss)) : Tree (.slots m (s :: ss))
  | leaf {m : MessageType} {tag : Tag} {l : Leaf} (value : l.Value) : Tree (.slot m (.leaf tag l))
  | unset {m : MessageType} {tag : Tag} {s : Shape} {required : Bool} :
    Tree (.slot m (.child tag s required))
  | child {m : MessageType} {tag : Tag} {s : Shape} {required : Bool} (value : Tree (.shape s)) :
    Tree (.slot m (.child tag s required))
  | children {m : MessageType} {tag : Tag} {s : Shape} (values : Tree (.items s)) :
    Tree (.slot m (.children tag s))
  | noParam {m : MessageType} {kind content : Tag} : Tree (.slot m (.decayParam kind content))
  | param {m : MessageType} {kind content : Tag} (k : DecayParamKind)
    (payload : Tree (.shape (.message k.payload))) : Tree (.slot m (.decayParam kind content))
  | empty {s : Shape} : Tree (.items s)
  | item {s : Shape} (first : Tree (.shape s)) (rest : Tree (.items s)) : Tree (.items s)

/-- The values of a shape. -/
abbrev Value (s : Shape) : Type := Tree (.shape s)

/-- The messages of a type. -/
abbrev Message (m : MessageType) : Type := Value (.message m)

/-- The slots of a message. -/
abbrev Slots (m : MessageType) : Type := Tree (.slots m m.slots)

/-- The nodes of a family. -/
abbrev Node (f : Family) : Type := Value (.node f)

/-- A search expression that selects and scores rows. -/
abbrev Query : Type := Node .query

/-- A division of the rows into buckets. -/
abbrev GroupBy : Type := Node .groupBy

/-- A number or a list of rows that is computed from many rows. -/
abbrev Aggregation : Type := Node .aggregation

/-- One criterion of an order of rows. -/
abbrev Sorter : Type := Node .sorter

/-- One criterion of an order of buckets. -/
abbrev Criterion : Type := Value .criterion

/-- The origin, the scale and the offset of a decay function. -/
structure DecayParam where
  kind : DecayParamKind
  content : Message kind.payload

namespace Tree

/-- The kind of a node. -/
def kind {f : Family} : Node f → f.Kind
  | node k _ => k

/-- The list of values with the given members. -/
def ofList {s : Shape} : List (Value s) → Tree (.items s)
  | [] => empty
  | t :: ts => item t (ofList ts)

/-- What the members of a tree are: those of a list of values; no other tree has any. -/
abbrev Members : Code → Type
  | .items s => List (Value s)
  | .shape _ | .slots _ _ | .slot _ _ => Unit

/-- The members of a tree. -/
def members : {c : Code} → Tree c → Members c
  | .items _, empty => []
  | .items _, item t ts => t :: ts.members
  | .shape _, _ | .slots _ _, _ | .slot _ _, _ => ()

/-- The members of a list of values. -/
def toList {s : Shape} (ts : Tree (.items s)) : List (Value s) := ts.members

@[simp] theorem toList_empty {s : Shape} : (empty : Tree (.items s)).toList = [] := rfl

@[simp] theorem toList_item {s : Shape} (t : Value s) (ts : Tree (.items s)) :
    (item t ts).toList = t :: ts.toList := rfl

/-- The slot that holds the given child, or none. -/
def ofOption {m : MessageType} {tag : Tag} {s : Shape} {required : Bool} :
    Option (Value s) → Tree (.slot m (.child tag s required))
  | none => unset
  | some t => child t

/-- The child that a slot holds, if it holds one. -/
def toOption {m : MessageType} {tag : Tag} {s : Shape} {required : Bool} :
    Tree (.slot m (.child tag s required)) → Option (Value s)
  | unset => none
  | child t => some t

/-- The slot that holds the given list of children. -/
def ofChildren {m : MessageType} {tag : Tag} {s : Shape} (ts : List (Value s)) :
    Tree (.slot m (.children tag s)) :=
  children (ofList ts)

/-- The children that a slot holds. -/
def toChildren {m : MessageType} {tag : Tag} {s : Shape} :
    Tree (.slot m (.children tag s)) → List (Value s)
  | children ts => ts.toList

/-- The slot that holds the given decay parameter, or none. -/
def ofParam {m : MessageType} {kind content : Tag} :
    Option DecayParam → Tree (.slot m (.decayParam kind content))
  | none => noParam
  | some p => param p.kind p.content

/-- The decay parameter that a slot holds, if it holds one. -/
def toParam {m : MessageType} {kind content : Tag} :
    Tree (.slot m (.decayParam kind content)) → Option DecayParam
  | noParam => none
  | param k content => some ⟨k, content⟩

@[simp] theorem toList_ofList {s : Shape} (ts : List (Value s)) : (ofList ts).toList = ts := by
  induction ts with
  | nil => rfl
  | cons t ts ih => simp [ofList, ih]

@[simp] theorem ofList_toList {s : Shape} (t : Tree (.items s)) : ofList t.toList = t := by
  match t with
  | empty => rfl
  | item t ts => simp [ofList, ofList_toList ts]

variable {m : MessageType} {tag : Tag} {s : Shape} {required : Bool} {kind content : Tag}

@[simp] theorem toOption_ofOption (o : Option (Value s)) :
    (ofOption o : Tree (.slot m (.child tag s required))).toOption = o := by
  cases o <;> rfl

@[simp] theorem ofOption_toOption (t : Tree (.slot m (.child tag s required))) :
    ofOption t.toOption = t := by
  cases t <;> rfl

@[simp] theorem toChildren_ofChildren (ts : List (Value s)) :
    (ofChildren ts : Tree (.slot m (.children tag s))).toChildren = ts :=
  toList_ofList ts

@[simp] theorem ofChildren_toChildren (t : Tree (.slot m (.children tag s))) :
    ofChildren t.toChildren = t := by
  cases t with
  | children ts => simp [ofChildren, toChildren]

@[simp] theorem toParam_ofParam (p : Option DecayParam) :
    (ofParam p : Tree (.slot m (.decayParam kind content))).toParam = p := by
  cases p <;> rfl

@[simp] theorem ofParam_toParam (t : Tree (.slot m (.decayParam kind content))) :
    ofParam t.toParam = t := by
  cases t <;> rfl

end Tree

end SearchWire
