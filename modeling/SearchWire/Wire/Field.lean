import SearchWire.Wire.Varint

/-!
# Wire fields

A message is a sequence of fields. A field starts with a key, a variable-length number that holds
the field's number and its wire type; the wire type says how far the value behind the key reaches.
Groups, an obsolete pair of wire types, are named but never read.

`read_write` says that a field is read back from its written form whatever follows it, and
`read_append` that what follows never changes how a field is read. A read takes at least one byte
(`read_length`), and what a field holds as bytes is shorter than what the field is read from
(`read_content_length`).
-/

namespace SearchWire

/-- How the value of a field is laid out. -/
inductive WireType
  | varint
  | fixed64
  | lengthDelimited
  | startGroup
  | endGroup
  | fixed32
deriving DecidableEq, Repr

namespace WireType

/-- The low three bits of the key. -/
def code : WireType → Nat
  | varint => 0
  | fixed64 => 1
  | lengthDelimited => 2
  | startGroup => 3
  | endGroup => 4
  | fixed32 => 5

/-- The wire type with the given code. -/
def ofCode? : Nat → Option WireType
  | 0 => some varint
  | 1 => some fixed64
  | 2 => some lengthDelimited
  | 3 => some startGroup
  | 4 => some endGroup
  | 5 => some fixed32
  | _ => none

/-- The name under which errors speak of the wire type. -/
def name : WireType → String
  | varint => "varint"
  | fixed64 => "fixed64"
  | lengthDelimited => "length-delimited"
  | startGroup => "start-group"
  | endGroup => "end-group"
  | fixed32 => "fixed32"

@[simp] theorem ofCode?_code (t : WireType) : ofCode? t.code = some t := by
  cases t <;> rfl

theorem code_lt (t : WireType) : t.code < 8 := by cases t <;> decide

end WireType

/-- Why the bytes at the front of a message are no field. -/
inductive FramingFault
  /-- A number breaks off or does not fit 64 bits. -/
  | varint
  /-- A key does not fit 32 bits. -/
  | key (value : Nat)
  /-- A key has a wire type that does not exist. -/
  | wireType (code : Nat)
  /-- A key has the field number zero. -/
  | zeroNumber
  /-- A field opens or closes a group. -/
  | group (type : WireType)
  /-- Fewer bytes remain than the value takes. -/
  | underflow
deriving DecidableEq, Repr

/-- The value of a field, of one of the four wire types that are read. -/
inductive WireValue
  | varint (raw : UInt64)
  | fixed64 (bits : UInt64)
  | bytes (content : Bytes)
  | fixed32 (bits : UInt32)
deriving DecidableEq, Repr

/-- A field: its number and its value. -/
structure WireField where
  number : Nat
  value : WireValue
deriving DecidableEq, Repr

namespace WireValue

/-- The wire type of a value. -/
def type : WireValue → WireType
  | varint _ => .varint
  | fixed64 _ => .fixed64
  | bytes _ => .lengthDelimited
  | fixed32 _ => .fixed32

/-- The bytes of a value, without the key. -/
def write : WireValue → Bytes
  | varint raw => Varint.write raw.toNat
  | fixed64 bits => Bytes.littleEndian 8 bits.toNat
  | bytes content => Varint.write content.length ++ content
  | fixed32 bits => Bytes.littleEndian 4 bits.toNat

/-- Read a value of the given wire type from the front of a byte string. -/
def read (t : WireType) (bs : Bytes) : Except FramingFault (WireValue × Bytes) :=
  match t with
  | .varint =>
    match Varint.read bs with
    | some (n, rest) => .ok (.varint (.ofNat n), rest)
    | none => .error .varint
  | .fixed64 =>
    match Bytes.splitFront? 8 bs with
    | some (word, rest) => .ok (.fixed64 (.ofNat (Bytes.ofLittleEndian word)), rest)
    | none => .error .underflow
  | .lengthDelimited =>
    match Varint.read bs with
    | some (length, rest) =>
      match Bytes.splitFront? length rest with
      | some (content, rest) => .ok (.bytes content, rest)
      | none => .error .underflow
    | none => .error .varint
  | .fixed32 =>
    match Bytes.splitFront? 4 bs with
    | some (word, rest) => .ok (.fixed32 (.ofNat (Bytes.ofLittleEndian word)), rest)
    | none => .error .underflow
  | .startGroup => .error (.group .startGroup)
  | .endGroup => .error (.group .endGroup)

end WireValue

namespace WireField

/-- The key in front of a value: the number above the three bits of the wire type, in 32 bits. -/
def key (f : WireField) : Nat := (8 * f.number + f.value.type.code) % UInt32.size

/-- The bytes of a field. -/
def write (f : WireField) : Bytes := Varint.write f.key ++ f.value.write

/-- The bytes of a sequence of fields, one behind the other. -/
def writeAll (fs : List WireField) : Bytes := fs.flatMap write

/-- Read the key at the front of a byte string, as a field number and a wire type. -/
def readKey (bs : Bytes) : Except FramingFault ((Nat × WireType) × Bytes) :=
  match Varint.read bs with
  | none => .error .varint
  | some (key, rest) =>
    if UInt32.size ≤ key then .error (.key key)
    else
      match WireType.ofCode? (key % 8) with
      | none => .error (.wireType (key % 8))
      | some t => if key / 8 = 0 then .error .zeroNumber else .ok ((key / 8, t), rest)

/-- Read the field at the front of a byte string. -/
def read (bs : Bytes) : Except FramingFault (WireField × Bytes) :=
  match readKey bs with
  | .error e => .error e
  | .ok ((number, t), rest) =>
    match WireValue.read t rest with
    | .error e => .error e
    | .ok (value, rest) => .ok (⟨number, value⟩, rest)

end WireField

/-! ### Reading what was written -/

/-- The value fits the wire: the length of a byte string is a word of 64 bits. -/
def WireValue.Fits : WireValue → Prop
  | .bytes content => content.length < UInt64.size
  | _ => True

/-- The field fits the wire: its number stands in a key of 32 bits and is not zero, and its value
fits. -/
def WireField.Fits (f : WireField) : Prop :=
  0 < f.number ∧ 8 * f.number < UInt32.size ∧ f.value.Fits

/-- A value that fits is read back from its written form, whatever follows it. -/
theorem WireValue.read_write (v : WireValue) (rest : Bytes) (h : v.Fits) :
    read v.type (v.write ++ rest) = .ok (v, rest) := by
  cases v with
  | varint raw =>
    have hraw := Varint.read_write raw.toNat rest raw.toNat_lt
    simp [type, write, read, hraw]
  | fixed64 bits =>
    have hcut : Bytes.splitFront? 8 (Bytes.littleEndian 8 bits.toNat ++ rest) =
        some (Bytes.littleEndian 8 bits.toNat, rest) :=
      Bytes.splitFront?_eq_some_iff.mpr ⟨rfl, by simp⟩
    have hbits := Bytes.ofLittleEndian_littleEndian 8 bits.toNat bits.toNat_lt
    simp [type, write, read, hcut, hbits]
  | bytes content =>
    have hlength := Varint.read_write content.length (content ++ rest) h
    have hcut : Bytes.splitFront? content.length (content ++ rest) = some (content, rest) :=
      Bytes.splitFront?_eq_some_iff.mpr ⟨rfl, rfl⟩
    simp [type, write, read, hlength, hcut]
  | fixed32 bits =>
    have hcut : Bytes.splitFront? 4 (Bytes.littleEndian 4 bits.toNat ++ rest) =
        some (Bytes.littleEndian 4 bits.toNat, rest) :=
      Bytes.splitFront?_eq_some_iff.mpr ⟨rfl, by simp⟩
    have hbits := Bytes.ofLittleEndian_littleEndian 4 bits.toNat bits.toNat_lt
    simp [type, write, read, hcut, hbits]

/-- A key is read back as its number and its wire type, whatever follows it. -/
theorem WireField.readKey_write (f : WireField) (rest : Bytes) (h : f.Fits) :
    readKey (Varint.write f.key ++ rest) = .ok ((f.number, f.value.type), rest) := by
  obtain ⟨hpos, hlt, _⟩ := h
  have hcode := f.value.type.code_lt
  have hsize : UInt32.size = 4294967296 := rfl
  have hword : UInt64.size = 18446744073709551616 := rfl
  have hkey : f.key = 8 * f.number + f.value.type.code := Nat.mod_eq_of_lt (by omega)
  have hread := Varint.read_write f.key rest (by omega)
  have hmod : f.key % 8 = f.value.type.code := by omega
  have hdiv : f.key / 8 = f.number := by omega
  simp only [readKey, hread, hmod, hdiv, WireType.ofCode?_code]
  rw [if_neg (by omega), if_neg (by omega)]

/-- A field that fits is read back from its written form, whatever follows it. -/
theorem WireField.read_write (f : WireField) (rest : Bytes) (h : f.Fits) :
    read (f.write ++ rest) = .ok (f, rest) := by
  rw [write, List.append_assoc, read, readKey_write f _ h]
  simp [WireValue.read_write f.value rest h.2.2]

/-! ### What follows a field -/

/-- What follows a value does not change how it is read. -/
theorem WireValue.read_append {t : WireType} {bs rest : Bytes} {v : WireValue}
    (h : read t bs = .ok (v, rest)) (more : Bytes) :
    read t (bs ++ more) = .ok (v, rest ++ more) := by
  cases t <;> simp only [read] at h ⊢
  case varint =>
    split at h <;> simp only [reduceCtorEq, Except.ok.injEq, Prod.mk.injEq] at h
    rename_i hr
    obtain ⟨rfl, rfl⟩ := h
    simp [Varint.read_append hr more]
  case fixed64 =>
    split at h <;> simp only [reduceCtorEq, Except.ok.injEq, Prod.mk.injEq] at h
    rename_i hr
    obtain ⟨rfl, rfl⟩ := h
    simp [Bytes.splitFront?_append hr more]
  case fixed32 =>
    split at h <;> simp only [reduceCtorEq, Except.ok.injEq, Prod.mk.injEq] at h
    rename_i hr
    obtain ⟨rfl, rfl⟩ := h
    simp [Bytes.splitFront?_append hr more]
  case lengthDelimited =>
    split at h
    · rename_i hv
      split at h <;> simp only [reduceCtorEq, Except.ok.injEq, Prod.mk.injEq] at h
      rename_i hr
      obtain ⟨rfl, rfl⟩ := h
      simp [Varint.read_append hv more, Bytes.splitFront?_append hr more]
    · simp at h
  all_goals simp at h

theorem WireField.readKey_append {bs rest : Bytes} {k : Nat × WireType}
    (h : readKey bs = .ok (k, rest)) (more : Bytes) :
    readKey (bs ++ more) = .ok (k, rest ++ more) := by
  simp only [readKey] at h ⊢
  split at h
  · simp at h
  · rename_i hr
    rw [Varint.read_append hr more]
    split at h
    · simp at h
    · rename_i hkey
      split at h
      · simp at h
      · rename_i ht
        split at h <;> simp only [reduceCtorEq, Except.ok.injEq, Prod.mk.injEq] at h
        rename_i hnumber
        obtain ⟨rfl, rfl⟩ := h
        simp only [if_neg hkey, ht, if_neg hnumber]

/-- What follows a field does not change how it is read. -/
theorem WireField.read_append {bs rest : Bytes} {f : WireField} (h : read bs = .ok (f, rest))
    (more : Bytes) : read (bs ++ more) = .ok (f, rest ++ more) := by
  simp only [read] at h ⊢
  split at h
  · simp at h
  · rename_i hk
    split at h <;> simp only [reduceCtorEq, Except.ok.injEq, Prod.mk.injEq] at h
    rename_i hv
    obtain ⟨rfl, rfl⟩ := h
    simp [readKey_append hk more, WireValue.read_append hv more]

/-! ### Progress -/

theorem WireValue.read_length {t : WireType} {bs rest : Bytes} {v : WireValue}
    (h : read t bs = .ok (v, rest)) : rest.length ≤ bs.length := by
  cases t <;> simp only [read] at h
  case varint =>
    split at h <;> simp only [reduceCtorEq, Except.ok.injEq, Prod.mk.injEq] at h
    rename_i hr
    obtain ⟨_, rfl⟩ := h
    exact Nat.le_of_lt (Varint.read_length hr)
  case fixed64 =>
    split at h <;> simp only [reduceCtorEq, Except.ok.injEq, Prod.mk.injEq] at h
    rename_i hr
    obtain ⟨_, rfl⟩ := h
    obtain ⟨rfl, _⟩ := Bytes.splitFront?_eq_some_iff.mp hr
    simp
  case fixed32 =>
    split at h <;> simp only [reduceCtorEq, Except.ok.injEq, Prod.mk.injEq] at h
    rename_i hr
    obtain ⟨_, rfl⟩ := h
    obtain ⟨rfl, _⟩ := Bytes.splitFront?_eq_some_iff.mp hr
    simp
  case lengthDelimited =>
    split at h
    · rename_i hv
      split at h <;> simp only [reduceCtorEq, Except.ok.injEq, Prod.mk.injEq] at h
      rename_i hr
      obtain ⟨_, rfl⟩ := h
      obtain ⟨rfl, _⟩ := Bytes.splitFront?_eq_some_iff.mp hr
      have := Varint.read_length hv
      simp only [List.length_append] at this
      omega
    · simp at h
  all_goals simp at h

theorem WireField.readKey_length {bs rest : Bytes} {k : Nat × WireType}
    (h : readKey bs = .ok (k, rest)) : rest.length < bs.length := by
  simp only [readKey] at h
  split at h
  · simp at h
  · rename_i hr
    split at h
    · simp at h
    · split at h
      · simp at h
      · split at h <;> simp only [reduceCtorEq, Except.ok.injEq, Prod.mk.injEq] at h
        obtain ⟨_, rfl⟩ := h
        exact Varint.read_length hr

/-- Reading a field takes at least one byte. -/
theorem WireField.read_length {bs rest : Bytes} {f : WireField}
    (h : read bs = .ok (f, rest)) : rest.length < bs.length := by
  simp only [read] at h
  split at h
  · simp at h
  · rename_i hk
    split at h <;> simp only [reduceCtorEq, Except.ok.injEq, Prod.mk.injEq] at h
    rename_i hv
    obtain ⟨_, rfl⟩ := h
    exact Nat.lt_of_le_of_lt (WireValue.read_length hv) (readKey_length hk)

/-- A byte string is shorter than the bytes it is read from, as its length stands in front of it. -/
theorem WireValue.read_bytes_length {t : WireType} {bs rest content : Bytes}
    (h : read t bs = .ok (.bytes content, rest)) : content.length < bs.length := by
  cases t <;> simp only [read] at h
  case lengthDelimited =>
    split at h
    · rename_i hv
      split at h <;> simp only [reduceCtorEq, Except.ok.injEq, Prod.mk.injEq, bytes.injEq] at h
      rename_i hr
      obtain ⟨rfl, rfl⟩ := h
      obtain ⟨rfl, _⟩ := Bytes.splitFront?_eq_some_iff.mp hr
      have := Varint.read_length hv
      simp only [List.length_append] at this
      omega
    · simp at h
  case startGroup => simp at h
  case endGroup => simp at h
  all_goals split at h <;> simp at h

/-- What a field holds as bytes is shorter than the bytes that the field is read from. -/
theorem WireField.read_content_length {bs rest content : Bytes} {f : WireField}
    (h : read bs = .ok (f, rest)) (hf : f.value = .bytes content) :
    content.length < bs.length := by
  simp only [read] at h
  split at h
  · simp at h
  · rename_i hk
    split at h <;> simp only [reduceCtorEq, Except.ok.injEq, Prod.mk.injEq] at h
    rename_i hv
    obtain ⟨rfl, rfl⟩ := h
    simp only at hf
    subst hf
    exact Nat.lt_trans (WireValue.read_bytes_length hv) (readKey_length hk)

end SearchWire
