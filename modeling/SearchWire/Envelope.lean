import SearchWire.Schema.Family
import SearchWire.Schema.Scalar
import SearchWire.Wire.Reader

/-!
# Envelopes

A node of a family travels in an envelope of two fields: the code of its kind, and its payload as
bytes. Both are always written, so no envelope is empty. A missing kind is read as the code zero,
which no family assigns (`ofCode?_zero`), and a missing payload as the empty one.
-/

namespace SearchWire

/-- The kind of a node and its content as bytes. -/
structure Envelope (f : Family) where
  kind : f.Kind
  payload : Bytes

namespace Envelope

variable {f : Family}

/-- The fields of an envelope. -/
def fields (e : Envelope f) : List WireField :=
  [⟨1, .varint (WireEnum.code e.kind).toInt64.toUInt64⟩, ⟨2, .bytes e.payload⟩]

/-- The bytes of an envelope. -/
def write (e : Envelope f) : Bytes := WireField.writeAll e.fields

/-- What one field of an envelope says. -/
inductive Part
  | kind (code : Int32)
  | payload (content : Bytes)
deriving DecidableEq, Repr

/-- What a field of an envelope of the named family says. -/
def readPart (family : String) (x : Occurrence) : Result Part :=
  if x.number = 1 then do return .kind (← x.int32 family)
  else if x.number = 2 then do return .payload (← x.content family)
  else .error (x.fault family .unknown)

/-- The code that the last field for the kind says. -/
def lastKind (parts : List Part) : Int32 :=
  (parts.filterMap fun | .kind code => some code | .payload _ => none).getLast?.getD 0

/-- The bytes that the last field for the payload says. -/
def lastPayload (parts : List Part) : Bytes :=
  (parts.filterMap fun | .kind _ => none | .payload content => some content).getLast?.getD []

variable (f) in
/-- The envelope of a family that the given bytes are. -/
def read (bs : Bytes) : Result (Envelope f) := do
  let parts ← (Reader.start f.name bs).collect (readPart f.name)
  match WireEnum.ofCode? (lastKind parts) with
  | some k => return ⟨k, lastPayload parts⟩
  | none => throw (.unsupported f.kinds.title (lastKind parts))

/-- A part of an envelope that is a payload is what a field holds as bytes. -/
theorem readPart_payload {family : String} {x : Occurrence} {content : Bytes}
    (h : readPart family x = .ok (.payload content)) : x.value = .bytes content := by
  simp only [readPart] at h
  split at h
  · cases hx : x.int32 family <;> simp [hx, bind, Except.bind, pure, Except.pure] at h
  · split at h
    · cases hx : x.content family with
      | error e => simp [hx, bind, Except.bind] at h
      | ok bs =>
        simp only [hx, bind, Except.bind, pure, Except.pure, Except.ok.injEq,
          Part.payload.injEq] at h
        exact h ▸ WireField.content_eq_ok_iff.mp hx
    · simp at h

/-- No kind of a family has the code zero. -/
theorem ofCode?_zero (f : Family) : (WireEnum.ofCode? 0 : Option f.Kind) = none := by
  cases f <;> decide

/-- The payload of an envelope has fewer bytes than the envelope. -/
theorem payload_length {f : Family} {bs : Bytes} {e : Envelope f} (h : read f bs = .ok e) :
    e.payload.length < bs.length := by
  simp only [read] at h
  cases hparts : (Reader.start f.name bs).collect (readPart f.name) with
  | error _ => simp [hparts, bind, Except.bind] at h
  | ok parts =>
    simp only [hparts, bind, Except.bind] at h
    split at h <;> simp only [pure, Except.pure, throw, throwThe, MonadExceptOf.throw, reduceCtorEq,
      Except.ok.injEq] at h
    rename_i k hk
    subst h
    simp only [lastPayload]
    cases hlast : (parts.filterMap fun
        | Part.kind _ => none | .payload content => some content).getLast? with
    | none =>
      cases bs with
      | nil =>
        rw [Reader.collect_start_nil, Except.ok.injEq] at hparts
        subst hparts
        simp [lastKind, ofCode?_zero] at hk
      | cons b bs => simp
    | some content =>
      have hmem := List.mem_of_getLast? hlast
      obtain ⟨part, hpart, hcontent⟩ := List.mem_filterMap.mp hmem
      cases part with
      | kind code => simp at hcontent
      | payload content' =>
        simp only [Option.some.injEq] at hcontent
        subst hcontent
        obtain ⟨x, hx, hread⟩ := Reader.exists_of_mem_collect hparts hpart
        exact Reader.fields_content_length hx (readPart_payload hread)

end Envelope

end SearchWire
