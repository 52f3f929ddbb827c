import Mathlib
import SearchWire.Proofs.Writer
import SearchWire.Script

/-!
# Values are written by their scripts

Encoding a value and running its script come to the same: to the same bytes, or to the same error
(`encode_eq_run`). So a value is encoded exactly when no step of its script refuses and what each of
them puts can be written (`exists_encode_iff_writable`), and then its bytes are those that the puts
write (`encode_eq_ok_iff_puts`).
-/

namespace SearchWire

open Result

/-! ### Running scripts -/

/-- The fields that are to be written in a step into the named message; a step that refuses has its
error in place of a field. -/
def stepFields (message : String) : Result Put → List (Result WireField)
  | .ok p => p.fields message
  | .error e => [.error e]

namespace Writer

/-- Running a script writes the fields of its steps, all of them or up to the first that fails. -/
lemma run_eq (w : Writer) (script : List (Result Put)) :
    w.run script = (do return w.extend (← (script.flatMap (stepFields w.message)).mapM id)) := by
  induction script generalizing w with
  | nil =>
    rw [List.flatMap_nil, List.mapM_nil, pure_bind, extend_nil]
    rfl
  | cons p script ih =>
    cases p with
    | error e => rfl
    | ok p =>
      have hcons : w.run (.ok p :: script) = outcome (w.put p) >>= (·.run script) := rfl
      rw [hcons, put, outcome_append, List.flatMap_cons, List.mapM_append, stepFields]
      simp only [bind_assoc, pure_bind, ih, extend_message, extend_extend]

/-- A script runs to its end exactly when each of its steps is a put and the puts succeed. -/
lemma run_eq_ok_iff {w w' : Writer} {script : List (Result Put)} :
    w.run script = .ok w' ↔ ∃ ps : List Put, script = ps.map .ok ∧ Puts w ps w' := by
  induction script generalizing w with
  | nil =>
    constructor
    · rintro ⟨⟩
      exact ⟨[], rfl, .nil⟩
    · rintro ⟨ps, hps, hputs⟩
      cases List.map_eq_nil_iff.mp hps.symm
      cases hputs
      rfl
  | cons p script ih =>
    have hcons : w.run (p :: script) = (p >>= fun p => outcome (w.put p)) >>= (·.run script) := rfl
    simp only [hcons, bind_eq_ok_iff, outcome_eq_ok_iff, ih]
    constructor
    · rintro ⟨w'', ⟨p, rfl, hput⟩, ps, rfl, hputs⟩
      exact ⟨p :: ps, rfl, .cons hput hputs⟩
    · rintro ⟨ps, hps, hputs⟩
      obtain ⟨p, ps, rfl, rfl, rfl⟩ := List.map_eq_cons_iff.mp hps.symm
      obtain ⟨w'', hput, hputs⟩ := puts_cons_iff.mp hputs
      exact ⟨w'', ⟨p, rfl, hput⟩, ps, rfl, hputs⟩

end Writer

/-! ### Fields of scripts -/

/-- Scalars that are put one after the other fill a field each. -/
lemma Scalar.flatMap_fields_scalar (t : Scalar) (message : String) (number : Nat)
    (xs : List t.Value) :
    (xs.map (Put.scalar t number)).flatMap (Put.fields message) = xs.map (t.writeField number) := by
  rw [List.flatMap_map, List.map_eq_flatMap]
  rfl

/-- The puts of a leaf write a field for each of its occurrences. -/
lemma Leaf.flatMap_fields_puts (l : Leaf) (message : String) (number : Nat) (v : l.Value) :
    (l.puts number v).map (·.flatMap (Put.fields message)) =
      (l.occurrences v).map (·.map fun x => do return ⟨number, ← l.writeItem x⟩) := by
  cases l with
  | required t => cases v <;> rfl
  | optional t => cases v <;> rfl
  | present t => rfl
  | defaulted t d => rfl
  | weight always =>
    cases always with
    | true => rfl
    | false => obtain ⟨_ | x⟩ := v <;> rfl
  | list t => exact congrArg some (t.flatMap_fields_scalar message number v)
  | requiredList t =>
    cases v with
    | none => rfl
    | some xs => exact congrArg some (t.flatMap_fields_scalar message number xs)
  | vector t => cases v <;> rfl
  | requiredVector t => cases v <;> rfl

/-- A leaf is written in the fields of its steps. -/
lemma Leaf.write_eq_script (l : Leaf) (message : String) (tag : Tag) (v : l.Value) :
    l.write message tag v = ((l.script message tag v).flatMap (stepFields message)).mapM id := by
  have hfields := l.flatMap_fields_puts message tag.number v
  rw [write, script]
  cases hputs : l.puts tag.number v with
  | none =>
    rw [hputs, Option.map_none, eq_comm, Option.map_eq_none_iff] at hfields
    rw [hfields]
    rfl
  | some ps =>
    rw [hputs, Option.map_some, eq_comm, Option.map_eq_some_iff] at hfields
    obtain ⟨items, hitems, hfields⟩ := hfields
    have hsteps : (ps.map .ok).flatMap (stepFields message) = ps.flatMap (Put.fields message) :=
      List.flatMap_map ..
    rw [hitems, hsteps, ← hfields, List.mapM_map]
    rfl

namespace Tree

variable {m : MessageType}

/-- A slot is written in the fields of its steps. -/
lemma write_slot_eq {s : Slot} (t : Tree (.slot m s)) :
    t.write = (t.slotScript.flatMap (stepFields m.name)).mapM id := by
  cases t with
  | @leaf _ tag l v => exact l.write_eq_script m.name tag v
  | @unset _ tag s required => cases required <;> rfl
  | @child _ tag s required value =>
    have hsteps : (child value : Tree (.slot m (.child tag s required))).slotScript.flatMap
        (stepFields m.name) = [tag.writeChild m.name none (encode value)] := by
      cases required <;> rfl
    rw [hsteps, write, List.mapM_cons, List.mapM_nil]
    rfl
  | @children _ tag s values =>
    have hsteps : (children values : Tree (.slot m (.children tag s))).slotScript.flatMap
        (stepFields m.name) = values.toList.zipIdx.map fun x =>
          tag.writeChild m.name (some x.2) (encode x.1) :=
      List.append_nil _
    rw [hsteps, write, Tag.writeChildren, write_items, List.zipIdx_map, List.mapM_map,
      List.mapM_map]
    rfl
  | noParam => rfl
  | @param _ kind content k payload =>
    have hsteps : (param k payload : Tree (.slot m (.decayParam kind content))).slotScript.flatMap
        (stepFields m.name) = [Scalar.writeField (.enum .decayParamKind) kind.number k,
          content.writeChild m.name none (encode payload)] :=
      rfl
    rw [hsteps, write, encode, List.mapM_cons, List.mapM_cons, List.mapM_nil]
    cases content.writeChild m.name none payload.write <;> rfl

/-- The slots of a message are written in the fields of their steps. -/
lemma write_slots_eq {ss : List Slot} (t : Tree (.slots m ss)) :
    t.write = (t.slotsScript.flatMap (stepFields m.name)).mapM id := by
  induction ss with
  | nil =>
    cases t
    rfl
  | cons s ss ih =>
    cases t with
    | cons head tail =>
      rw [write, slotsScript, List.flatMap_append, List.mapM_append, write_slot_eq head, ih tail]

end Tree

/-! ### Main results -/

/-- A value is encoded as what its script writes, and fails to be encoded with the error at which
its script stops. -/
theorem encode_eq_run {s : Shape} (v : Value s) :
    encode v = (do return (← (Writer.start s.name).run v.script).bytes) := by
  rw [encode]
  cases v with
  | @record m slots =>
    rw [Tree.write, Tree.script]
    cases m.check slots with
    | error e => rfl
    | ok _ =>
      have hmessage : (Writer.start (Shape.message m).name).message = m.name := rfl
      simp only [Writer.run_eq, hmessage, ← Tree.write_slots_eq]
      cases slots.write <;> rfl
  | @node f k payload =>
    rw [Tree.write, Tree.script, encode]
    cases payload.write with
    | error e => rfl
    | ok content =>
      -- a kind and bytes can always be put, whatever message they are put into
      simp only [Writer.run_eq]
      rfl
  | criterion k payload =>
    rw [Tree.write, Tree.script, Writer.run_eq]
    have hsteps : [Except.ok (Put.child k.tag payload)].flatMap
        (stepFields (Writer.start Shape.criterion.name).message) = [k.write payload.write] := rfl
    rw [hsteps, List.mapM_cons, List.mapM_nil]
    cases k.write payload.write with
    | error e => rfl
    | ok field => exact congrArg Except.ok (WireField.writeAll_singleton field).symm

example : (KnnVectorQuery.toMessage { fieldName := some "v", queryVector := some [.one] }).script =
    [.ok (.scalar .text 1 "v"), .error (.required [] "KnnVectorQuery" "topK"),
      .ok (.vector .float 3 [.one]), .ok (.optionalChild ⟨4, "filter"⟩ (none : Option Query)),
      .ok (.optional .float32 5 none)] := rfl

/-- The bytes of a value are those that the puts of its script write. -/
theorem encode_eq_ok_iff_puts {s : Shape} {v : Value s} {bs : Bytes} :
    encode v = .ok bs ↔ ∃ (ps : List Put) (w : Writer), v.script = ps.map .ok ∧
      Writer.Puts (Writer.start s.name) ps w ∧ w.bytes = bs := by
  simp only [encode_eq_run, bind_eq_ok_iff, pure_eq_ok_iff, Writer.run_eq_ok_iff]
  constructor
  · rintro ⟨w, ⟨ps, hps, hputs⟩, hbytes⟩
    exact ⟨ps, w, hps, hputs, hbytes⟩
  · rintro ⟨ps, w, hps, hputs, hbytes⟩
    exact ⟨w, ⟨ps, hps, hputs⟩, hbytes⟩

/-- A value is encoded exactly when no step of its script refuses and what each of them puts can be
written. -/
theorem exists_encode_iff_writable {s : Shape} {v : Value s} :
    (∃ bs, encode v = .ok bs) ↔ ∃ ps : List Put, v.script = ps.map .ok ∧ ∀ p ∈ ps, p.Writable := by
  simp only [encode_eq_ok_iff_puts]
  constructor
  · rintro ⟨_, ps, w, hps, hputs, _⟩
    exact ⟨ps, hps, Writer.exists_puts_iff.mp ⟨w, hputs⟩⟩
  · rintro ⟨ps, hps, hwritable⟩
    obtain ⟨w, hputs⟩ := (Writer.exists_puts_iff (w := Writer.start s.name)).mpr hwritable
    exact ⟨w.bytes, ps, w, hps, hputs, rfl⟩

end SearchWire
