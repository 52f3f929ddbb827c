import SearchWire.Text.Quoted
import SearchWire.Tree.Decoding
import SearchWire.Tree.Encoding

/-!
# Coverage

A list of sample nodes covers a family when every kind of the family is the kind of some sample, and
every sample survives being encoded and decoded again. A family is verified by samples if they cover
it and its kinds have codes of their own, from which they are found again.
-/

namespace SearchWire

/-- Why samples do not cover a family. -/
inductive CoverageError
  /-- A sample of the given kind does not encode, or its bytes do not decode. -/
  | codec (family kind : String) (source : Error)
  /-- A sample came back with another kind. -/
  | kindChanged (family expected actual : String)
  /-- There is no sample of these kinds. -/
  | uncovered (family : String) (missing : List String)
deriving DecidableEq, Repr

/-- What a failure of coverage is called. -/
def CoverageError.text : CoverageError → String
  | codec family kind source =>
    family ++ ": sample of kind " ++ kind ++ " failed: " ++ source.text
  | kindChanged family expected actual =>
    family ++ ": sample of kind " ++ expected ++ " came back as " ++ actual
  | uncovered family missing => family ++ ": no sample for kinds " ++ Text.quotedList missing

/-- What is wrong with the codes of the kinds of a family. -/
inductive CodeFault
  /-- Two kinds have the same code. -/
  | duplicateCode (family first second : String) (code : Int32)
  /-- The code of a kind finds another kind, or none. -/
  | unmapped (family kind : String)
  /-- There are more or fewer codes than kinds. -/
  | countMismatch (family : String) (kinds codes : Nat)
deriving DecidableEq, Repr

/-- What a fault of the codes is called. -/
def CodeFault.text : CodeFault → String
  | duplicateCode family first second code =>
    family ++ ": kinds " ++ first ++ " and " ++ second ++ " share wire code " ++ toString code
  | unmapped family kind => family ++ ": kind " ++ kind ++ " does not survive the wire mapping"
  | countMismatch family kinds codes =>
    family ++ ": " ++ toString kinds ++ " kinds but " ++ toString codes ++ " wire codes"

/-- Why a family is not verified. -/
inductive GuardError
  | codes (fault : CodeFault)
  | samples (error : CoverageError)
deriving DecidableEq, Repr

/-- What a failure to verify a family is called. -/
def GuardError.text : GuardError → String
  | codes fault => fault.text
  | samples error => error.text

/-- How many kinds a family has, and how many of them samples were encoded, decoded and given. -/
structure Coverage where
  family : String
  variants : Nat
  encoders : Nat
  decoders : Nat
  generators : Nat
deriving DecidableEq, Repr

/-- Whether every kind was encoded, decoded and given. -/
def Coverage.isComplete (c : Coverage) : Bool :=
  c.encoders == c.variants && c.decoders == c.variants && c.generators == c.variants

namespace Family

variable {f : Family}

/-! ### Samples -/

variable (f) in
/-- The kinds of which samples were given, encoded and decoded so far, each of them once. -/
structure Tally where
  generators : List f.Kind := []
  encoders : List f.Kind := []
  decoders : List f.Kind := []

/-- Encode a sample and decode it again; the kind that comes back is that of the sample. -/
def Tally.add (t : Tally f) (v : Node f) : Except CoverageError (Tally f) := do
  let kind := WireEnum.label v.kind
  let t := { t with generators := t.generators.insert v.kind }
  let bs ← (encode v).mapError (.codec f.name kind)
  let envelope ← (Envelope.read f bs).mapError (.codec f.name kind)
  if envelope.kind ≠ v.kind then
    throw (.kindChanged f.name kind (WireEnum.label envelope.kind))
  let t := { t with encoders := t.encoders.insert v.kind }
  let back ← (decode (.node f) bs).mapError (.codec f.name kind)
  if back.kind ≠ v.kind then
    throw (.kindChanged f.name kind (WireEnum.label back.kind))
  return { t with decoders := t.decoders.insert v.kind }

/-- The kinds of a family of which there is no sample, in the order of declaration. -/
def Tally.missing (t : Tally f) : List f.Kind :=
  WireEnum.values.filter fun k => !t.generators.contains k

/-- The coverage of a family by samples, if they cover it. -/
def coverage (samples : List (Node f)) : Except CoverageError Coverage := do
  let t ← samples.foldlM Tally.add ({} : Tally f)
  if !t.missing.isEmpty then
    throw (.uncovered f.name (t.missing.map WireEnum.label))
  return ⟨f.name, (WireEnum.values : List f.Kind).length, t.encoders.length, t.decoders.length,
    t.generators.length⟩

/-! ### Codes -/

/-- Every kind has a code that none of those in front of it has, and is found from its code. -/
def checkCodesFrom (seen : List f.Kind) : List f.Kind → Except CodeFault Unit
  | [] => .ok ()
  | k :: ks =>
    match seen.find? (WireEnum.code · == WireEnum.code k) with
    | some other => .error <|
      .duplicateCode f.name (WireEnum.label other) (WireEnum.label k) (WireEnum.code k)
    | none =>
      if WireEnum.ofCode? (WireEnum.code k) ≠ some k then
        .error (.unmapped f.name (WireEnum.label k))
      else checkCodesFrom (seen ++ [k]) ks

variable (f) in
/-- The codes of a family are those of its kinds, and there are as many codes as kinds.

An enumeration on the wire has no table of its own: kinds and codes come from the one table
`WireEnum.entry`, which has a row for each kind. Both counts are therefore the number of its rows,
and `CodeFault.countMismatch` is an error that no family raises (`checkCodes_eq_ok`). The comparison
is kept because it is part of what is checked of a family. -/
def checkCodes : Except CodeFault Unit := do
  let kinds : List f.Kind := WireEnum.values
  checkCodesFrom [] kinds
  let codes := (WireEnum.byCode f.Kind).map WireEnum.code
  if codes.length ≠ kinds.length then
    throw (.countMismatch f.name kinds.length codes.length)

/-- The coverage of a family by samples, if its codes are those of its kinds and the samples cover
it. -/
def verify (samples : List (Node f)) : Except GuardError Coverage := do
  (checkCodes f).mapError .codes
  (coverage samples).mapError .samples

end Family

end SearchWire
