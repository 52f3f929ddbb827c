import Mathlib
import SearchWire.Message.Query
import SearchWire.Proofs.Tree.Faults
import SearchWire.Proofs.Writer

/-!
# Puts that fail

A put that fails has written whole fields or nothing. Of a list of children, those in front of the
first one that cannot be encoded have been written; every other put has at most one field, and
leaves the writer as it was (`Writer.put_eq_error`).
-/

namespace SearchWire

open Result

/-! ### Errors -/

/-- How a parent reports the error of a child: the path to a missing field gets one step longer, and
any other error stays as it is. -/
inductive Error.ReportedAs (s : Segment) : Error → Error → Prop
  | required {path : List Segment} {message field : String} :
    ReportedAs s (.required path message field) (.required (s :: path) message field)
  | unchanged {e : Error} (h : ∀ path message field, e ≠ .required path message field) :
    ReportedAs s e e

lemma Error.reportedAs_iff {s : Segment} {e e' : Error} :
    ReportedAs s e e' ↔ e.within s = e' := by
  constructor
  · intro h
    cases h with
    | required => rfl
    | unchanged h => exact along_of_forall_ne h [s]
  · rintro rfl
    cases e with
    | required path message field => exact .required
    | invalid _ _ | unknownEnum _ _ | malformed _ _ | unsupported _ _ | tooLarge _ _ =>
      exact .unchanged fun _ _ _ => Error.noConfusion

/-! ### Fields -/

namespace Put

/-- A put of a list of children, which may have written some of them when it fails. -/
def IsList : Put → Prop
  | children _ _ => True
  | scalar _ _ _ | optional _ _ _ | vector _ _ _ | child _ _ | optionalChild _ _ => False

lemma length_fields_le_one {p : Put} (h : ¬ p.IsList) (message : String) :
    (p.fields message).length ≤ 1 := by
  cases p with
  | scalar t number v | vector t number xs | child tag v => exact le_refl _
  | optional t number v | optionalChild tag v => cases v <;> simp [fields]
  | children tag vs => exact absurd trivial h

end Put

/-- Children are written as a field for each of them, whatever their positions in the errors. -/
lemma Tag.forall₂_writeChild_iff {tag : Tag} {message : String} {s : Shape} {vs : List (Value s)}
    {fs : List WireField} :
    List.Forall₂ (fun x f => tag.writeChild message (some x.2) (encode x.1) = .ok f) vs.zipIdx fs ↔
      ∃ contents, List.Forall₂ (fun v content => encode v = .ok content) vs contents ∧
        fs = contents.map (⟨tag.number, .bytes ·⟩) := by
  have hvs : vs.zipIdx.map Prod.fst = vs := List.zipIdx_map_fst 0 vs
  simp only [writeChild_eq_ok_iff]
  constructor
  · intro h
    obtain ⟨contents, hcontents, rfl⟩ := exists_map_of_forall₂ h
    refine ⟨contents, ?_, rfl⟩
    rwa [← hvs, List.forall₂_map_left_iff]
  · rintro ⟨contents, hcontents, rfl⟩
    rw [← hvs, List.forall₂_map_left_iff] at hcontents
    rw [List.forall₂_map_right_iff]
    exact hcontents.imp fun x content h => ⟨content, h, rfl⟩

/-- The fields of a list of children fail first at the first child that cannot be encoded. -/
lemma Put.fields_children_eq_append_iff {message : String} {s : Shape} {tag : Tag}
    {vs : List (Value s)} {fs : List WireField} {e : Error} :
    (∃ before behind, (children tag vs).fields message = before ++ .error e :: behind ∧
        List.Forall₂ (fun r f => r = .ok f) before fs) ↔
      ∃ (before : List (Value s)) (v : Value s) (behind : List (Value s)) (contents : List Bytes)
        (e' : Error), vs = before ++ v :: behind ∧
          List.Forall₂ (fun v content => encode v = .ok content) before contents ∧
          encode v = .error e' ∧
          Error.ReportedAs ⟨message, tag.name, some before.length⟩ e' e ∧
          fs = contents.map (⟨tag.number, .bytes ·⟩) := by
  rw [fields]
  constructor
  · rintro ⟨_, _, hfields, hbefore⟩
    obtain ⟨_, _, hzip, rfl, hrest⟩ := List.map_eq_append_iff.mp hfields
    obtain ⟨_, _, rfl, herror, rfl⟩ := List.map_eq_cons_iff.mp hrest
    obtain ⟨before, _, rfl, rfl, hbehind⟩ := List.zipIdx_eq_append_iff.mp hzip
    obtain ⟨v, behind, rfl, rfl, rfl⟩ := List.zipIdx_eq_cons_iff.mp hbehind.symm
    rw [List.forall₂_map_left_iff] at hbefore
    obtain ⟨contents, hcontents, hfs⟩ := Tag.forall₂_writeChild_iff.mp hbefore
    obtain ⟨e', he', hwithin⟩ := Tag.writeChild_eq_error_iff.mp herror
    rw [Nat.zero_add] at hwithin
    exact ⟨before, v, behind, contents, e', rfl, hcontents, he',
      Error.reportedAs_iff.mpr hwithin, hfs⟩
  · rintro ⟨before, v, behind, contents, e', rfl, hcontents, he', hreported, hfs⟩
    have herror : tag.writeChild message (some before.length) (encode v) = .error e :=
      Tag.writeChild_eq_error_iff.mpr ⟨e', he', Error.reportedAs_iff.mp hreported⟩
    have hbefore : List.Forall₂ (fun x f => tag.writeChild message (some x.2) (encode x.1) = .ok f)
        before.zipIdx fs :=
      Tag.forall₂_writeChild_iff.mpr ⟨contents, hcontents, hfs⟩
    refine ⟨before.zipIdx.map fun x => tag.writeChild message (some x.2) (encode x.1),
      (behind.zipIdx (before.length + 1)).map fun x =>
        tag.writeChild message (some x.2) (encode x.1), ?_, List.forall₂_map_left_iff.mpr hbefore⟩
    rw [← herror, List.zipIdx_append, List.zipIdx_cons, List.map_append, List.map_cons,
      Nat.zero_add]

namespace Writer

variable {w w' : Writer} {e : Error}

/-- Writing stops at the first field that fails, behind the fields in front of it. -/
lemma append_eq_some_iff {rs : List (Result WireField)} :
    w.append rs = (w', some e) ↔ ∃ before behind fs, rs = before ++ .error e :: behind ∧
      List.Forall₂ (fun r f => r = .ok f) before fs ∧
      w' = ⟨w.message, w.bytes ++ WireField.writeAll fs⟩ := by
  induction rs generalizing w with
  | nil => simp [append]
  | cons r rs ih =>
    cases r with
    | error e' =>
      constructor
      · intro h
        cases h
        exact ⟨[], rs, [], rfl, .nil, by simp [WireField.writeAll]⟩
      · rintro ⟨before, behind, fs, hrs, hbefore, rfl⟩
        cases hbefore with
        | nil =>
          cases hrs
          simp [append, WireField.writeAll]
        | cons hr _ =>
          subst hr
          cases hrs
    | ok f =>
      rw [append, ih]
      constructor
      · rintro ⟨before, behind, fs, rfl, hbefore, rfl⟩
        exact ⟨.ok f :: before, behind, f :: fs, rfl, .cons rfl hbefore,
          by simp [WireField.writeAll]⟩
      · rintro ⟨before, behind, fs, hrs, hbefore, rfl⟩
        cases hbefore with
        | nil => cases hrs
        | cons hr hbefore =>
          subst hr
          cases hrs
          exact ⟨_, behind, _, rfl, hbefore, by simp [WireField.writeAll]⟩

/-! ### Main result -/

/-- A put that fails leaves the writer as it was, unless it is one of a list of children. That fails
exactly if some child cannot be encoded: the children in front of the first such one stay written,
one field for each of them, and its own error is reported at its position. -/
theorem put_eq_error :
    (∀ {w w' : Writer} {p : Put} {e : Error}, ¬ p.IsList → w.put p = (w', some e) → w' = w) ∧
    ∀ {w w' : Writer} {s : Shape} {tag : Tag} {vs : List (Value s)} {e : Error},
      w.put (.children tag vs) = (w', some e) ↔
        ∃ (before : List (Value s)) (v : Value s) (behind : List (Value s)) (contents : List Bytes)
          (e' : Error), vs = before ++ v :: behind ∧
            List.Forall₂ (fun v content => encode v = .ok content) before contents ∧
            encode v = .error e' ∧
            Error.ReportedAs ⟨w.message, tag.name, some before.length⟩ e' e ∧
            w' = ⟨w.message, w.bytes ++
              WireField.writeAll (contents.map (⟨tag.number, .bytes ·⟩))⟩ := by
  constructor
  · intro w w' p e hp h
    obtain ⟨before, behind, fs, hfields, hbefore, rfl⟩ := append_eq_some_iff.mp h
    -- there is no room for a field in front of the one that fails
    have hlength := p.length_fields_le_one hp w.message
    rw [hfields, List.length_append, List.length_cons] at hlength
    obtain rfl : before = [] := List.length_eq_zero_iff.mp (by omega)
    cases hbefore
    simp [WireField.writeAll]
  · intro w w' s tag vs e
    rw [put, append_eq_some_iff]
    constructor
    · rintro ⟨rs, rs', fs, hfields, hrs, rfl⟩
      obtain ⟨before, v, behind, contents, e', hvs, hcontents, he', hreported, rfl⟩ :=
        Put.fields_children_eq_append_iff.mp ⟨rs, rs', hfields, hrs⟩
      exact ⟨before, v, behind, contents, e', hvs, hcontents, he', hreported, rfl⟩
    · rintro ⟨before, v, behind, contents, e', hvs, hcontents, he', hreported, rfl⟩
      obtain ⟨rs, rs', hfields, hrs⟩ := Put.fields_children_eq_append_iff.mpr
        ⟨before, v, behind, contents, e', hvs, hcontents, he', hreported, rfl⟩
      exact ⟨rs, rs', _, hfields, hrs, rfl⟩

/-- A filter without the name of a field, alone and behind one that can be written, with bytes in
front of both; and a score function of two kinds, whose error has no path. -/
theorem put_eq_error_filter :
    let w : Writer := ⟨"BoolQuery", [40, 1]⟩
    let fields : Query := .node .fieldExists (ExistsQuery.toMessage {})
    let scored : Message .scoreFunction := ScoreFunction.toMessage
      { fieldValueFactor := some (FieldValueFactorFunction.toMessage {}),
        random := some (.record .nil) }
    let missing (index : Option Nat) : Error :=
      .required [⟨"BoolQuery", "must", index⟩] "ExistsQuery" "fieldName"
    (w.put (.child ⟨1, "must"⟩ fields)).2 = some (missing none) ∧
      (w.put (.child ⟨1, "must"⟩ fields)).1 = w ∧
      w.put (.children ⟨1, "must"⟩ [Query.matchAll, fields, Query.matchAll]) =
        (⟨"BoolQuery", [40, 1, 10, 4, 8, 11, 18, 0]⟩, some (missing (some 1))) ∧
      w.put (.children ⟨2, "functions"⟩ [scored]) = (w, some
        (.invalid "Function" (.functionKinds ["fieldValueFactor", "random"]))) := by
  intro w fields scored missing
  obtain ⟨hsingle, hlist⟩ := put_eq_error
  have hfields : encode fields = .error (.required [] "ExistsQuery" "fieldName") := by cbv
  have hfailed : (w.put (.child ⟨1, "must"⟩ fields)).2 = some (missing none) := by cbv
  refine ⟨hfailed, hsingle (p := .child ⟨1, "must"⟩ fields) not_false (Prod.ext rfl hfailed), ?_,
    ?_⟩
  · rw [hlist]
    refine ⟨[Query.matchAll], fields, [Query.matchAll], [[8, 11, 18, 0]], _, rfl, ?_, hfields,
      .required, ?_⟩
    · exact .cons (by cbv) .nil
    · cbv
  · rw [hlist]
    refine ⟨[], scored, [], [], _, rfl, .nil, ?_, .unchanged ?_, rfl⟩
    · cbv
    · intro _ _ _
      exact Error.noConfusion

end Writer

end SearchWire
