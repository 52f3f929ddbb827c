import Mathlib
import SearchWire.Message.Query
import SearchWire.Proofs.Schema.Leaf
import SearchWire.Proofs.Tree.Written
import SearchWire.Writer

/-!
# Reading what a writer wrote

A put adds one piece to a message for every field that it writes (`Put.pieces`): none for an option
that is not set, one for each member of a list of children, and one for everything else.

Scalars and vectors can be put into any message, column values of more bytes than can be counted
apart, and children can be put if they can be encoded (`Writer.exists_put_iff`). A put that succeeds
adds fields from which its pieces are read (`Writer.exists_fields_of_put`), and a whole script of
puts is read back piece by piece, in the order of the calls (`Writer.fields_of_puts`).
-/

namespace SearchWire

open Result

/-! ### Pieces -/

/-- What a field of a message holds. -/
inductive Content
  | scalar (t : Scalar) (value : t.Value)
  | vector (t : PackedType) (values : List t.Value)
  | child {s : Shape} (value : Value s)

/-- The number of a field, and what it holds. -/
structure Piece where
  number : Nat
  content : Content

/-- The field of the named message has the number of the piece. A scalar or a vector is what the
field converts to, and the encoding of a child is what the field holds as bytes. -/
def Piece.ReadFrom (message : String) (f : WireField) (p : Piece) : Prop :=
  f.number = p.number ∧ match p.content with
    | .scalar t v => t.read message f = .ok v
    | .vector t xs => t.read message f = .ok xs
    | .child v => ∃ content, encode v = .ok content ∧ f.content message = .ok content

namespace Put

/-- The number of the fields that a put writes. -/
def number : Put → Nat
  | scalar _ number _ => number
  | optional _ number _ => number
  | vector _ number _ => number
  | child tag _ => tag.number
  | optionalChild tag _ => tag.number
  | children tag _ => tag.number

/-- What a put adds to a message, field by field. -/
def pieces : Put → List Piece
  | scalar t number v => [⟨number, .scalar t v⟩]
  | optional t number v => v.toList.map fun v => ⟨number, .scalar t v⟩
  | vector t number xs => [⟨number, .vector t xs⟩]
  | child tag v => [⟨tag.number, .child v⟩]
  | optionalChild tag v => v.toList.map fun v => ⟨tag.number, .child v⟩
  | children tag vs => vs.map fun v => ⟨tag.number, .child v⟩

lemma number_of_mem_pieces {p : Put} {x : Piece} (h : x ∈ p.pieces) : x.number = p.number := by
  cases p with
  | scalar t number v | vector t number xs | child tag v =>
    rw [List.mem_singleton.mp h]
    rfl
  | optional t number v | optionalChild tag v | children tag vs =>
    obtain ⟨_, _, rfl⟩ := List.mem_map.mp h
    rfl

/-- What is put can be written: a column value takes up no more bytes than can be counted in front
of it, and every child can be encoded. Other scalars, and vectors, can be written whatever they
are. -/
def Writable : Put → Prop
  | scalar t _ v => t.Bounded v
  | optional t _ v => ∀ x ∈ v, t.Bounded x
  | vector _ _ _ => True
  | child _ v => ∃ content, encode v = .ok content
  | optionalChild _ v => ∀ x ∈ v, ∃ content, encode x = .ok content
  | children _ vs => ∀ v ∈ vs, ∃ content, encode v = .ok content

end Put

lemma Scalar.exists_writeField_iff {t : Scalar} {number : Nat} {v : t.Value} :
    (∃ f, t.writeField number v = .ok f) ↔ t.Bounded v := by
  simp only [writeField, bind_eq_ok_iff, pure_eq_ok_iff, ← exists_write_eq_ok_iff]
  constructor
  · rintro ⟨_, content, hcontent, _⟩
    exact ⟨content, hcontent⟩
  · rintro ⟨content, hcontent⟩
    exact ⟨_, content, hcontent, rfl⟩

lemma Tag.exists_writeChild_iff {tag : Tag} {message : String} {index : Option Nat}
    {content : Result Bytes} :
    (∃ f, tag.writeChild message index content = .ok f) ↔ ∃ bs, content = .ok bs := by
  simp only [writeChild_eq_ok_iff]
  constructor
  · rintro ⟨_, bs, hbs, _⟩
    exact ⟨bs, hbs⟩
  · rintro ⟨bs, hbs⟩
    exact ⟨_, bs, hbs, rfl⟩

/-- All the fields of a put can be written exactly when what is put can. -/
lemma Put.forall_fields_iff {p : Put} {message : String} :
    (∀ r ∈ p.fields message, ∃ f, r = .ok f) ↔ p.Writable := by
  cases p with
  | scalar t number v => simp [fields, Writable, Scalar.exists_writeField_iff]
  | optional t number v => simp [fields, Writable, Scalar.exists_writeField_iff]
  | vector t number xs => simp [fields, Writable]
  | child tag v => simp [fields, Writable, Tag.exists_writeChild_iff]
  | optionalChild tag v => simp [fields, Writable, Tag.exists_writeChild_iff]
  | children tag vs =>
    -- the positions stand in the errors only
    have hvs : vs.zipIdx.map Prod.fst = vs := List.zipIdx_map_fst 0 vs
    simp only [fields, Writable, List.forall_mem_map, Tag.exists_writeChild_iff]
    conv_rhs => rw [← hvs]
    rw [List.forall_mem_map]

lemma Scalar.readFrom_of_writeField {t : Scalar} {number : Nat} {v : t.Value} {f : WireField}
    (h : t.writeField number v = .ok f) (message : String) :
    Piece.ReadFrom message f ⟨number, .scalar t v⟩ := by
  simp only [writeField, bind_eq_ok_iff, pure_eq_ok_iff] at h
  obtain ⟨content, hcontent, rfl⟩ := h
  exact ⟨rfl, read_write hcontent message number⟩

lemma Tag.readFrom_of_writeChild {tag : Tag} {name : String} {index : Option Nat} {s : Shape}
    {v : Value s} {f : WireField} (h : tag.writeChild name index (encode v) = .ok f)
    (message : String) : Piece.ReadFrom message f ⟨tag.number, .child v⟩ := by
  obtain ⟨content, hcontent, rfl⟩ := writeChild_eq_ok_iff.mp h
  exact ⟨rfl, content, hcontent, rfl⟩

/-- The pieces of a put are read from the fields that it writes. -/
lemma Put.readFrom_of_fields {p : Put} {name : String} {fs : List WireField}
    (h : List.Forall₂ (fun r f => r = .ok f) (p.fields name) fs) (message : String) :
    List.Forall₂ (Piece.ReadFrom message) fs p.pieces := by
  cases p with
  | scalar t number v =>
    obtain ⟨f, _, hf, hnil, rfl⟩ := List.forall₂_cons_left_iff.mp h
    cases hnil
    exact .cons (t.readFrom_of_writeField hf message) .nil
  | optional t number v =>
    rw [fields, List.forall₂_map_left_iff] at h
    rw [pieces, List.forall₂_map_right_iff]
    refine h.flip.imp ?_
    intro f v hf
    exact t.readFrom_of_writeField hf message
  | vector t number xs =>
    obtain ⟨f, _, hf, hnil, rfl⟩ := List.forall₂_cons_left_iff.mp h
    cases hnil
    cases hf
    exact .cons ⟨rfl, t.read_write xs message number⟩ .nil
  | child tag v =>
    obtain ⟨f, _, hf, hnil, rfl⟩ := List.forall₂_cons_left_iff.mp h
    cases hnil
    exact .cons (tag.readFrom_of_writeChild hf message) .nil
  | optionalChild tag v =>
    rw [fields, List.forall₂_map_left_iff] at h
    rw [pieces, List.forall₂_map_right_iff]
    refine h.flip.imp ?_
    intro f v hf
    exact tag.readFrom_of_writeChild hf message
  | children tag vs =>
    -- the positions stand in the errors only
    have hpieces : (children tag vs).pieces =
        vs.zipIdx.map fun x => ⟨tag.number, .child x.1⟩ := by
      conv_lhs => rw [pieces, ← List.zipIdx_map_fst 0 vs, List.map_map]
      rfl
    rw [fields, List.forall₂_map_left_iff] at h
    rw [hpieces, List.forall₂_map_right_iff]
    refine h.flip.imp ?_
    intro f x hf
    exact tag.readFrom_of_writeChild hf message

/-! ### Puts that succeed -/

namespace Writer

/-- The message with further fields behind those written so far. -/
def extend (w : Writer) (fs : List WireField) : Writer :=
  ⟨w.message, w.bytes ++ WireField.writeAll fs⟩

@[simp] lemma extend_message (w : Writer) (fs : List WireField) :
    (w.extend fs).message = w.message := rfl

@[simp] lemma extend_nil (w : Writer) : w.extend [] = w := by
  simp [extend, WireField.writeAll]

@[simp] lemma extend_extend (w : Writer) (fs gs : List WireField) :
    (w.extend fs).extend gs = w.extend (fs ++ gs) := by
  simp [extend, WireField.writeAll]

lemma outcome_eq_ok_iff {x : Writer × Option Error} {w : Writer} :
    outcome x = .ok w ↔ x = (w, none) := by
  obtain ⟨w', _ | e⟩ := x <;> simp [outcome]

/-- Either all the fields are written, or the first one that fails gives the error. -/
lemma outcome_append (w : Writer) (rs : List (Result WireField)) :
    outcome (w.append rs) = (do return w.extend (← rs.mapM id)) := by
  induction rs generalizing w with
  | nil =>
    rw [List.mapM_nil, pure_bind, extend_nil]
    rfl
  | cons r rs ih =>
    cases r with
    | error e => rfl
    | ok f =>
      have hextend : (⟨w.message, w.bytes ++ f.write⟩ : Writer) = w.extend [f] := by
        simp [extend, WireField.writeAll]
      have hmapM : (.ok f :: rs).mapM id = (do return f :: (← rs.mapM id)) := List.mapM_cons
      rw [append, hextend, ih, hmapM]
      simp only [bind_assoc, pure_bind, extend_extend, List.singleton_append]

/-- Writing ends without an error exactly when every field can be written. -/
lemma append_eq_none_iff {w w' : Writer} {rs : List (Result WireField)} :
    w.append rs = (w', none) ↔
      ∃ fs, List.Forall₂ (fun r f => r = .ok f) rs fs ∧ w.extend fs = w' := by
  simp only [← outcome_eq_ok_iff, outcome_append, bind_eq_ok_iff, pure_eq_ok_iff, mapM_eq_ok_iff,
    id]

/-- Into whatever message, exactly what can be written can be put. -/
lemma exists_put_iff {w : Writer} {p : Put} : (∃ w', w.put p = (w', none)) ↔ p.Writable := by
  rw [← Put.forall_fields_iff, ← exists_forall₂_iff]
  simp only [put, append_eq_none_iff]
  constructor
  · rintro ⟨_, fs, hfs, _⟩
    exact ⟨fs, hfs⟩
  · rintro ⟨fs, hfs⟩
    exact ⟨_, fs, hfs, rfl⟩

/-- A put that succeeds adds fields from which its pieces are read. -/
lemma exists_fields_of_put {w w' : Writer} {p : Put} (h : w.put p = (w', none)) (message : String) :
    ∃ fs, w.extend fs = w' ∧ List.Forall₂ (Piece.ReadFrom message) fs p.pieces := by
  obtain ⟨fs, hfs, rfl⟩ := append_eq_none_iff.mp h
  exact ⟨fs, rfl, Put.readFrom_of_fields hfs message⟩

/-! ### Scripts -/

/-- The puts succeed one after the other, and lead from one writer to the other. -/
inductive Puts : Writer → List Put → Writer → Prop
  | nil {w : Writer} : Puts w [] w
  | cons {w w' w'' : Writer} {p : Put} {ps : List Put} (h : w.put p = (w', none))
    (hps : Puts w' ps w'') : Puts w (p :: ps) w''

lemma puts_cons_iff {w w'' : Writer} {p : Put} {ps : List Put} :
    Puts w (p :: ps) w'' ↔ ∃ w', w.put p = (w', none) ∧ Puts w' ps w'' := by
  constructor
  · intro h
    cases h with
    | cons h hps => exact ⟨_, h, hps⟩
  · rintro ⟨w', h, hps⟩
    exact .cons h hps

/-- From whatever message, a script succeeds exactly when each of its puts can be written. -/
lemma exists_puts_iff {w : Writer} {ps : List Put} :
    (∃ w', Puts w ps w') ↔ ∀ p ∈ ps, p.Writable := by
  induction ps generalizing w with
  | nil =>
    constructor
    · intro _ _ hp
      exact absurd hp List.not_mem_nil
    · intro _
      exact ⟨w, .nil⟩
  | cons p ps ih =>
    simp only [puts_cons_iff, List.forall_mem_cons]
    constructor
    · rintro ⟨w'', w', hput, hps⟩
      exact ⟨exists_put_iff.mp ⟨w', hput⟩, ih.mp ⟨w'', hps⟩⟩
    · rintro ⟨hp, hps⟩
      obtain ⟨w', hput⟩ := (exists_put_iff (w := w)).mpr hp
      obtain ⟨w'', hputs⟩ := (ih (w := w')).mpr hps
      exact ⟨w'', w', hput, hputs⟩

/-- A script adds fields from which the pieces of all its puts are read. -/
lemma exists_fields_of_puts {w w' : Writer} {ps : List Put} (h : Puts w ps w')
    (message : String) :
    ∃ fs, w.extend fs = w' ∧
      List.Forall₂ (Piece.ReadFrom message) fs (ps.flatMap Put.pieces) := by
  induction h with
  | nil => exact ⟨[], extend_nil _, .nil⟩
  | cons h _ ih =>
    obtain ⟨fs, rfl, hfs⟩ := exists_fields_of_put h message
    obtain ⟨gs, rfl, hgs⟩ := ih
    exact ⟨fs ++ gs, (extend_extend _ fs gs).symm, List.rel_append hfs hgs⟩

end Writer

/-! ### Positions -/

/-- The index of a field counts the fields in front of it that have its number. -/
lemma Occurrence.index_ofFields {seen : List Nat} {fs : List WireField}
    {before behind : List Occurrence} {x : Occurrence}
    (h : ofFields seen fs = before ++ x :: behind) :
    x.index = seen.count x.number + (before.map (·.number)).count x.number := by
  induction before generalizing seen fs with
  | nil =>
    cases fs with
    | nil => cases h
    | cons f fs =>
      cases h
      rfl
  | cons y before ih =>
    cases fs with
    | nil => cases h
    | cons f fs =>
      rw [ofFields, List.cons_append, List.cons.injEq] at h
      obtain ⟨rfl, h⟩ := h
      have hcount : (f.number :: seen).count x.number =
          seen.count x.number + if f.number == x.number then 1 else 0 := List.count_cons
      rw [ih h, hcount, List.map_cons, List.count_cons, Nat.add_right_comm, Nat.add_assoc]

/-! ### Main result -/

namespace Writer

/-- Into any message, exactly what can be written can be put, and a script of puts succeeds exactly
when each of them can be written. The message that it has written is read to its end, whatever the
names under which it is written and read: as one field for each piece, in the order of the calls,
with the number of the piece and what it holds, and with the count of earlier fields of that number.
No byte string in memory is so long that its length does not fit 64 bits. -/
theorem fields_of_puts {name message : String} {ps : List Put} :
    (∀ (w : Writer) (p : Put), (∃ w', w.put p = (w', none)) ↔ p.Writable) ∧
    ((∃ w, Puts (start name) ps w) ↔ ∀ p ∈ ps, p.Writable) ∧
    ∀ w, (∀ p ∈ ps, 1 ≤ p.number ∧ p.number < 2 ^ 29) → Puts (start name) ps w →
      w.bytes.length < UInt64.size →
      ∃ xs : List Occurrence, (Reader.start message w.bytes).fields = (xs, none) ∧
        List.Forall₂ (fun x p => Piece.ReadFrom message x.toWireField p) xs
          (ps.flatMap Put.pieces) ∧
        ∀ before x behind, xs = before ++ x :: behind →
          x.index = (before.map (·.number)).count x.number := by
  refine ⟨fun _ _ => exists_put_iff, exists_puts_iff, ?_⟩
  intro w hnumber h hlength
  obtain ⟨fs, rfl, hfs⟩ := exists_fields_of_puts h message
  have hwritten : ((start name).extend fs).bytes = WireField.writeAll fs := rfl
  have hnumbers : ∀ f ∈ fs, IsFieldNumber f.number := by
    intro f hf
    obtain ⟨x, hx, hread⟩ := exists_of_mem_right hfs.flip hf
    obtain ⟨p, hp, hxp⟩ := List.mem_flatMap.mp hx
    have hsize : UInt32.size = 8 * 2 ^ 29 := rfl
    obtain ⟨hpos, hlt⟩ := hnumber p hp
    rw [hread.1, Put.number_of_mem_pieces hxp]
    exact ⟨hpos, by omega⟩
  have hfits : ∀ f ∈ fs, f.Fits :=
    WireField.fits_of_writeAll hnumbers (by rwa [← hwritten])
  refine ⟨Occurrence.ofFields [] fs, ?_, ?_, ?_⟩
  · rw [hwritten]
    exact Reader.fields_writeAll hfits message []
  · rwa [← List.forall₂_map_left_iff, Occurrence.map_ofFields]
  · intro before x behind hsplit
    rw [Occurrence.index_ofFields hsplit, List.count_nil, Nat.zero_add]

/-- A negative number, an option that is not set, an empty vector, two children of one number, a
column value, and a second number in the field of the first. A child that lacks the name of its
field cannot be put behind them. -/
theorem fields_of_puts_mixed :
    let w₁ : Writer := ⟨"Sample", [8, 249, 255, 255, 255, 255, 255, 255, 255, 255, 1]⟩
    let w₂ : Writer := ⟨"Sample", w₁.bytes ++ [26, 0]⟩
    let w₃ : Writer := ⟨"Sample", w₂.bytes ++ [34, 4, 8, 11, 18, 0, 34, 4, 8, 11, 18, 0]⟩
    let w₄ : Writer := ⟨"Sample", w₃.bytes ++ [42, 6, 3, 1, 0, 0, 0, 97]⟩
    let w₅ : Writer := ⟨"Sample", w₄.bytes ++ [8, 5]⟩
    let ps : List Put := [.scalar .int32 1 (-7), .optional .text 2 none, .vector .float 3 [],
      .children ⟨4, "filters"⟩ [Query.matchAll, Query.matchAll],
      .scalar .column 5 (.text "a"), .scalar .int32 1 5]
    let nameless : Put := .child ⟨6, "filter"⟩
      (.node .fieldExists (ExistsQuery.toMessage {}) : Query)
    (start "Sample").put (.scalar .int32 1 (-7)) = (w₁, none) ∧
      w₁.put (.optional .text 2 none) = (w₁, none) ∧
      w₁.put (.vector .float 3 []) = (w₂, none) ∧
      w₂.put (.children ⟨4, "filters"⟩ [Query.matchAll, Query.matchAll]) = (w₃, none) ∧
      w₃.put (.scalar .column 5 (.text "a")) = (w₄, none) ∧
      w₄.put (.scalar .int32 1 5) = (w₅, none) ∧
      (∀ p ∈ ps, p.Writable) ∧ Puts (start "Sample") ps w₅ ∧
      (∃ xs : List Occurrence, (Reader.start "Sample" w₅.bytes).fields = (xs, none) ∧
        List.Forall₂ (fun x p => Piece.ReadFrom "Sample" x.toWireField p) xs
          [⟨1, .scalar .int32 (-7)⟩, ⟨3, .vector .float []⟩,
            ⟨4, .child Query.matchAll⟩, ⟨4, .child Query.matchAll⟩,
            ⟨5, .scalar .column (.text "a")⟩, ⟨1, .scalar .int32 5⟩] ∧
        ∀ before x behind, xs = before ++ x :: behind →
          x.index = (before.map (·.number)).count x.number) ∧
      ¬ ∃ w, w₅.put nameless = (w, none) := by
  intro w₁ w₂ w₃ w₄ w₅ ps nameless
  have h₁ : (start "Sample").put (.scalar .int32 1 (-7)) = (w₁, none) := by cbv
  have h₂ : w₁.put (.optional .text 2 none) = (w₁, none) := by cbv
  have h₃ : w₁.put (.vector .float 3 []) = (w₂, none) := by cbv
  have h₄ : w₂.put (.children ⟨4, "filters"⟩ [Query.matchAll, Query.matchAll]) = (w₃, none) := by
    cbv
  have h₅ : w₃.put (.scalar .column 5 (.text "a")) = (w₄, none) := by cbv
  have h₆ : w₄.put (.scalar .int32 1 5) = (w₅, none) := by cbv
  have hputs : Puts (start "Sample") ps w₅ :=
    .cons h₁ (.cons h₂ (.cons h₃ (.cons h₄ (.cons h₅ (.cons h₆ .nil)))))
  obtain ⟨hput, hscript, hread⟩ := fields_of_puts
  have hnameless : encode (Tree.node QueryKind.fieldExists (ExistsQuery.toMessage {}) : Query) =
    .error (.required [] "ExistsQuery" "fieldName") := by cbv
  refine ⟨h₁, h₂, h₃, h₄, h₅, h₆, hscript.mp ⟨w₅, hputs⟩, hputs,
    hread w₅ (by decide) hputs (by decide), ?_⟩
  rw [hput]
  rintro ⟨content, hcontent⟩
  rw [hnameless] at hcontent
  cases hcontent

end Writer

end SearchWire
