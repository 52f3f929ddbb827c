import Mathlib
import SearchWire.Message.Query
import SearchWire.Proofs.Tree.Missing

/-!
# Where encoding fails

The path of a missing field is put together backwards, one segment at every level that the error
passes. That it leads to the message that lacks the field is said by following it from the root:
`Tree.ReachedFrom` is the way of the encoder down to one of the messages in a value, with the
segments that it leaves behind, and `Tree.Raises` is what can go wrong in a message itself. Every
error is raised in a message that is reached (`Tree.traceable`), and what goes wrong in a message
that is reached is carried to the root (`Tree.ReachedFrom.failsWith`).
-/

namespace SearchWire

open Result

/-! ### Leaves -/

lemma ColumnValue.toBlob_eq_error {v : ColumnValue} {e : Error} (h : v.toBlob = .error e) :
    ∃ size, e = .tooLarge size maxLength := by
  have hcounted : ∀ {content : Bytes}, writeCounted content = .error e →
      ∃ size, e = .tooLarge size maxLength := by
    intro content h
    rw [writeCounted] at h
    split at h <;> cases h
    exact ⟨_, rfl⟩
  have hbody := bind_pure_eq_error_iff.mp h
  cases v with
  | text s => exact hcounted hbody
  | binary content => exact hcounted hbody
  | integer _ | double _ | boolean _ => cases hbody

lemma Scalar.write_eq_error {t : Scalar} {v : t.Value} {e : Error} (h : t.write v = .error e) :
    ∃ size, e = .tooLarge size ColumnValue.maxLength := by
  cases t
  case column => exact ColumnValue.toBlob_eq_error (bind_pure_eq_error_iff.mp h)
  all_goals cases h

namespace Leaf

lemma writeItem_eq_error {l : Leaf} {x : l.Item} {e : Error} (h : l.writeItem x = .error e) :
    ∃ size, e = .tooLarge size ColumnValue.maxLength := by
  cases l
  case vector t => cases h
  case requiredVector t => cases h
  case weight always => cases h
  all_goals exact Scalar.write_eq_error h

lemma occurrences_eq_none {l : Leaf} {v : l.Value} (h : l.occurrences v = none) :
    l.isRequired = true ∧ l.isSet v = false := by
  cases l with
  | required t | requiredList t | requiredVector t =>
    cases v with
    | none => exact ⟨rfl, rfl⟩
    | some _ => cases h
  | weight always => cases always <;> cases h
  | optional _ | present _ | defaulted _ _ | list _ | vector _ => cases h

/-- A leaf cannot be written if it has to be set and is not, or if one of its values is too long. -/
lemma write_eq_error {message : String} {tag : Tag} {l : Leaf} {v : l.Value} {e : Error}
    (h : l.write message tag v = .error e) :
    (l.isRequired = true ∧ l.isSet v = false ∧ e = .required [] message tag.name) ∨
      ∃ size, e = .tooLarge size ColumnValue.maxLength := by
  rw [write] at h
  split at h
  · rename_i hnone
    cases h
    obtain ⟨hrequired, hunset⟩ := occurrences_eq_none hnone
    exact .inl ⟨hrequired, hunset, rfl⟩
  · obtain ⟨_, x, _, _, _, hx⟩ := mapM_eq_error_iff.mp h
    exact .inr (writeItem_eq_error (bind_pure_eq_error_iff.mp hx))

end Leaf

/-! ### Children -/

lemma Tag.writeChild_eq_error_iff {tag : Tag} {message : String} {index : Option Nat}
    {content : Result Bytes} {e : Error} :
    tag.writeChild message index content = .error e ↔
      ∃ e', content = .error e' ∧ e'.within ⟨message, tag.name, index⟩ = e := by
  rw [writeChild, bind_pure_eq_error_iff, within_eq_error_iff]

/-- Children fail at the first of them that does, which is the one that the error speaks of. -/
lemma Tag.writeChildren_eq_error_iff {tag : Tag} {message : String} {contents : List (Result Bytes)}
    {e : Error} :
    tag.writeChildren message contents = .error e ↔
      ∃ before behind e', contents = before ++ .error e' :: behind ∧
        (∀ content ∈ before, ∃ bs, content = .ok bs) ∧
        e'.within ⟨message, tag.name, some before.length⟩ = e := by
  simp only [writeChildren, mapM_zipIdx_eq_error_iff, writeChild_eq_error_iff, writeChild_eq_ok_iff]
  constructor
  · rintro ⟨before, _, behind, rfl, hbefore, e', rfl, rfl⟩
    refine ⟨before, behind, e', rfl, fun content hcontent => ?_, rfl⟩
    rw [← List.zipIdx_map_fst 0 before] at hcontent
    obtain ⟨y, hy, rfl⟩ := List.mem_map.mp hcontent
    obtain ⟨_, bs, hbs, _⟩ := hbefore y hy
    exact ⟨bs, hbs⟩
  · rintro ⟨before, behind, e', rfl, hbefore, rfl⟩
    refine ⟨before, _, behind, rfl, fun y hy => ?_, e', rfl, rfl⟩
    obtain ⟨bs, hbs⟩ := hbefore y.1 (List.fst_mem_of_mem_zipIdx hy)
    exact ⟨_, bs, hbs, rfl⟩

/-! ### The way to a message -/

/-- The error as it is seen from the root, when it arises at the end of the path. -/
def Error.along (path : List Segment) (e : Error) : Error := path.foldr Error.within e

lemma Error.along_required (path path' : List Segment) (message field : String) :
    (required path' message field).along path = required (path ++ path') message field := by
  induction path with
  | nil => rfl
  | cons s path ih =>
    show ((required path' message field).along path).within s = _
    rw [ih]
    rfl

/-- Only the errors of missing fields have a path. -/
lemma Error.along_of_forall_ne {e : Error}
    (h : ∀ path message field, e ≠ required path message field) (path : List Segment) :
    e.along path = e := by
  induction path with
  | nil => rfl
  | cons s path ih =>
    show (e.along path).within s = e
    rw [ih]
    cases e with
    | required path message field => exact absurd rfl (h path message field)
    | invalid _ _ | unknownEnum _ _ | malformed _ _ | unsupported _ _ | tooLarge _ _ => rfl

namespace Tree

variable {m : MessageType}

/-- The encoder, on its way through a tree, gets to a message in it. The path has a segment for
every child it goes into: the name of the message that holds the child, the field in which it does,
and its position in a list, all elements in front of which can be encoded. -/
inductive ReachedFrom (w : Message m) : {c : Code} → Tree c → List Segment → Prop
  | here : ReachedFrom w w []
  | record {m' : MessageType} {slots : Slots m'} {path : List Segment}
    (hcheck : m'.check slots = .ok ()) (h : ReachedFrom w slots path) :
    ReachedFrom w (.record slots) path
  /-- A parameter is looked at before any slot of its decay function is written. -/
  | checked {m' : MessageType} {slots : Slots m'} {kind content : Tag} {k : DecayParamKind}
    {payload : Message k.payload}
    (hparam : (Tree.param k payload : Tree (.slot m' (.decayParam kind content))).StandsIn slots)
    (h : ReachedFrom w payload []) :
    ReachedFrom w (.record slots) [⟨m'.name, content.name, none⟩]
  | node {f : Family} {k : f.Kind} {payload : Message (f.payload k)} {path : List Segment}
    (h : ReachedFrom w payload path) : ReachedFrom w (.node k payload) path
  | criterion {k : CriterionKind} {payload : Message k.payload} {path : List Segment}
    (h : ReachedFrom w payload path) :
    ReachedFrom w (.criterion k payload) (⟨Shape.criterion.name, k.tag.name, none⟩ :: path)
  | head {m' : MessageType} {s : Slot} {ss : List Slot} {first : Tree (.slot m' s)}
    {rest : Tree (.slots m' ss)} {path : List Segment} (h : ReachedFrom w first path) :
    ReachedFrom w (.cons first rest) path
  | tail {m' : MessageType} {s : Slot} {ss : List Slot} {first : Tree (.slot m' s)}
    {rest : Tree (.slots m' ss)} {fs : List WireField} {path : List Segment}
    (hfirst : first.write = .ok fs) (h : ReachedFrom w rest path) :
    ReachedFrom w (.cons first rest) path
  | child {m' : MessageType} {tag : Tag} {s : Shape} {required : Bool} {value : Value s}
    {path : List Segment} (h : ReachedFrom w value path) :
    ReachedFrom w (.child value : Tree (.slot m' (.child tag s required)))
      (⟨m'.name, tag.name, none⟩ :: path)
  | children {m' : MessageType} {tag : Tag} {s : Shape} {values : Tree (.items s)}
    {before behind : List (Value s)} {value : Value s} {path : List Segment}
    (hvalues : values.toList = before ++ value :: behind)
    (hbefore : ∀ u ∈ before, ∃ bs, encode u = .ok bs) (h : ReachedFrom w value path) :
    ReachedFrom w (.children values : Tree (.slot m' (.children tag s)))
      (⟨m'.name, tag.name, some before.length⟩ :: path)
  | param {m' : MessageType} {kind content : Tag} {k : DecayParamKind} {payload : Message k.payload}
    {path : List Segment} (h : ReachedFrom w payload path) :
    ReachedFrom w (.param k payload : Tree (.slot m' (.decayParam kind content)))
      (⟨m'.name, content.name, none⟩ :: path)

/-- An error that arises in a message itself, and not in a message that it holds: a field is
missing, the fields do not go together, or a value is too long. -/
inductive Raises : Message m → Error → Prop
  | lacks {w : Message m} {field : String} (h : w.Lacks field) :
    Raises w (.required [] m.name field)
  | check {slots : Slots m} {message : String} {reason : Conflict}
    (h : m.check slots = .error (.invalid message reason)) :
    Raises (.record slots) (.invalid message reason)
  | leaf {slots : Slots m} {tag : Tag} {l : Leaf} {v : l.Value} {size : Nat}
    (hleaf : (.leaf v : Tree (.slot m (.leaf tag l))).StandsIn slots)
    (h : l.write m.name tag v = .error (.tooLarge size ColumnValue.maxLength)) :
    Raises (.record slots) (.tooLarge size ColumnValue.maxLength)

/-! ### From the message to the root -/

/-- A message in which nothing is required, and nothing excludes anything else, is complete if its
slots are. -/
lemma complete_record {slots : Slots m} (hrequired : m.requiredFields = [])
    (hexclusive : m.exclusiveFields = []) (h : slots.Complete) : (record slots).Complete := by
  refine ⟨fun name hname => ?_, ?_, h⟩
  · rw [hrequired] at hname
    exact absurd hname List.not_mem_nil
  · rw [hexclusive]
    exact Nat.zero_le 1

/-- Nothing in a parameter of a decay function can be too long, or has to be set. -/
lemma complete_payload (k : DecayParamKind) (payload : Message k.payload) : payload.Complete := by
  have hamount : ∀ {tag : Tag}
      (t : Tree (.slot .dateDecayParam (.child tag (.message .dateTimeValue) false))),
      t.Complete := by
    intro tag t
    cases t with
    | unset => trivial
    | child value =>
      match value with
      | .record (.cons (.leaf _) (.cons (.leaf _) .nil)) =>
        exact complete_record rfl rfl ⟨trivial, trivial, trivial⟩
  cases k with
  | date =>
    match payload with
    | .record (.cons (.leaf _) (.cons (.leaf _) (.cons scale (.cons offset .nil)))) =>
      exact complete_record rfl rfl
        ⟨fun _ _ => trivial, fun _ _ => trivial, hamount scale, hamount offset, trivial⟩
  | numeric =>
    match payload with
    | .record (.cons (.leaf _) (.cons (.leaf _) (.cons (.leaf _) .nil))) =>
      exact complete_record rfl rfl
        ⟨fun _ _ => trivial, fun _ _ => trivial, fun _ _ => trivial, trivial⟩
  | geo =>
    match payload with
    | .record (.cons (.leaf _) (.cons (.leaf _) (.cons (.leaf _) .nil))) =>
      exact complete_record rfl rfl
        ⟨fun _ _ => trivial, fun _ _ => trivial, fun _ _ => trivial, trivial⟩

/-- The parameter of a decay function can always be written, whatever its check says. -/
lemma writable_payload (k : DecayParamKind) (payload : Message k.payload) : payload.Writable :=
  payload.writableIff.mpr (complete_payload k payload)

/-- A tree cannot be written, and this is the error: of a list of values, that of no value. -/
def FailsWith (e : Error) : {c : Code} → Tree c → Prop
  | .shape _, t => t.write = .error e
  | .slots _ _, t => t.write = .error e
  | .slot _ _, t => t.write = .error e
  | .items _, _ => False

/-- The error of a message that is reached is that of the whole tree, with the path to the message
in front of its own. -/
lemma ReachedFrom.failsWith {w : Message m} {e : Error} (he : encode w = .error e) {c : Code}
    {t : Tree c} {path : List Segment} (h : w.ReachedFrom t path) : t.FailsWith (e.along path) := by
  induction h with
  | here => exact he
  | record hcheck _ ih =>
    exact bind_eq_error_iff.mpr (.inr ⟨(), hcheck, bind_pure_eq_error_iff.mpr ih⟩)
  | @checked _ _ _ _ k payload _ _ ih =>
    obtain ⟨_, hbs⟩ := writable_payload k payload
    cases hbs.symm.trans ih
  | node _ ih => exact bind_pure_eq_error_iff.mpr ih
  | criterion _ ih =>
    exact bind_pure_eq_error_iff.mpr (Tag.writeChild_eq_error_iff.mpr ⟨_, ih, rfl⟩)
  | head _ ih => exact bind_eq_error_iff.mpr (.inl ih)
  | tail hfirst _ ih =>
    exact bind_eq_error_iff.mpr (.inr ⟨_, hfirst, bind_pure_eq_error_iff.mpr ih⟩)
  | child _ ih =>
    exact bind_pure_eq_error_iff.mpr (Tag.writeChild_eq_error_iff.mpr ⟨_, ih, rfl⟩)
  | @children _ _ _ _ before behind value path hvalues hbefore _ ih =>
    have hvalue : value.write = .error (e.along path) := ih
    refine Tag.writeChildren_eq_error_iff.mpr
      ⟨before.map write, behind.map write, e.along path, ?_, ?_, ?_⟩
    · rw [write_items, hvalues, List.map_append, List.map_cons, hvalue]
    · exact List.forall_mem_map.mpr hbefore
    · rw [List.length_map]
      rfl
  | param _ ih =>
    exact bind_pure_eq_error_iff.mpr (Tag.writeChild_eq_error_iff.mpr ⟨_, ih, rfl⟩)

/-! ### From the root to the message -/

/-- A message that is reached raises the error, which has the path to that message in front. -/
def Traced {c : Code} (t : Tree c) (e : Error) : Prop :=
  ∃ (m : MessageType) (w : Message m) (path : List Segment) (e' : Error),
    w.ReachedFrom t path ∧ w.Raises e' ∧ e'.along path = e

/-- A slot itself cannot be written, and not a message in it: it has to be set and is not, or a
value in it is too long. -/
inductive Blocks : {s : Slot} → Tree (.slot m s) → Error → Prop
  | unset {s : Slot} {t : Tree (.slot m s)} (hrequired : s.isRequired = true)
    (hunset : t.isSet = false) : Blocks t (.required [] m.name s.name)
  | leaf {tag : Tag} {l : Leaf} {v : l.Value} {size : Nat}
    (h : l.write m.name tag v = .error (.tooLarge size ColumnValue.maxLength)) :
    Blocks (.leaf v : Tree (.slot m (.leaf tag l))) (.tooLarge size ColumnValue.maxLength)

/-- What blocks a slot of a message is raised by the message. -/
lemma Blocks.raises {slots : Slots m} {s : Slot} {t : Tree (.slot m s)} {e : Error}
    (h : t.Blocks e) (ht : t.StandsIn slots) : (record slots).Raises e := by
  cases h with
  | unset hrequired hunset =>
    refine .lacks (.field ?_ (ht.not_mem_setFields m.nodup_names hunset))
    rw [m.requiredFields_eq]
    exact List.mem_map_of_mem (List.mem_filter.mpr ⟨ht.mem, hrequired⟩)
  | leaf h => exact .leaf ht h

/-- Every error in writing a tree is traced to a message in it; of slots, to a message that they
hold, unless one of them is blocked itself. -/
def Traceable : {c : Code} → Tree c → Prop
  | .shape _, t => ∀ e, t.write = .error e → t.Traced e
  | .slots m _, t => ∀ e, t.write = .error e →
    (∃ (s : Slot) (t' : Tree (.slot m s)), t'.StandsIn t ∧ t'.Blocks e) ∨ t.Traced e
  | .slot _ _, t => ∀ e, t.write = .error e → t.Blocks e ∨ t.Traced e
  | .items _, ts => ∀ t ∈ ts.toList, ∀ e, t.write = .error e → t.Traced e

/-- What a child's error is traced to, the message that holds the child has a step farther away. -/
lemma Traced.within {c c' : Code} {t : Tree c} {t' : Tree c'} {e : Error} {segment : Segment}
    (h : t.Traced e) (hstep : ∀ {m : MessageType} {w : Message m} {path : List Segment},
      w.ReachedFrom t path → w.ReachedFrom t' (segment :: path)) :
    t'.Traced (e.within segment) := by
  obtain ⟨m, w, path, e', hw, he', rfl⟩ := h
  exact ⟨m, w, segment :: path, e', hstep hw, he', rfl⟩

lemma Traced.imp {c c' : Code} {t : Tree c} {t' : Tree c'} {e : Error} (h : t.Traced e)
    (hstep : ∀ {m : MessageType} {w : Message m} {path : List Segment},
      w.ReachedFrom t path → w.ReachedFrom t' path) : t'.Traced e := by
  obtain ⟨m, w, path, e', hw, he', he⟩ := h
  exact ⟨m, w, path, e', hstep hw, he', he⟩

/-- What the check of a message reports is raised by the message itself, or by a parameter that
lacks a field. -/
lemma traced_of_check {slots : Slots m} {e : Error} (h : m.check slots = .error e) :
    (record slots).Traced e := by
  rcases MessageType.check_eq_error h with ⟨field, rfl, hlacks⟩ |
    ⟨kind, content, k, payload, e', hparam, hcheck, rfl⟩ | ⟨reason, rfl⟩
  · exact ⟨m, _, [], _, .here, .lacks hlacks, rfl⟩
  · rcases DecayParam.check_eq_error hcheck with ⟨field, rfl, hlacks⟩ | ⟨reason, rfl⟩
    · exact ⟨_, payload, _, _, .checked hparam .here, .lacks hlacks, rfl⟩
    · exact ⟨m, _, [], _, .here, .check h, rfl⟩
  · exact ⟨m, _, [], _, .here, .check h, rfl⟩

lemma traceable {c : Code} (t : Tree c) : t.Traceable := by
  induction t with
  | record slots ih =>
    intro e h
    rcases bind_eq_error_iff.mp h with hcheck | ⟨_, hcheck, h⟩
    · exact traced_of_check hcheck
    · rcases ih e (bind_pure_eq_error_iff.mp h) with ⟨s, t, ht, hblocks⟩ | htraced
      · exact ⟨_, _, [], _, .here, hblocks.raises ht, rfl⟩
      · exact htraced.imp (.record hcheck)
  | node k payload ih =>
    intro e h
    exact (ih e (bind_pure_eq_error_iff.mp h)).imp .node
  | criterion k payload ih =>
    intro e h
    obtain ⟨e', hcontent, rfl⟩ := Tag.writeChild_eq_error_iff.mp (bind_pure_eq_error_iff.mp h)
    exact (ih e' hcontent).within .criterion
  | nil =>
    intro e h
    cases h
  | cons first rest ihfirst ihrest =>
    intro e h
    rcases bind_eq_error_iff.mp h with h | ⟨fs, hfirst, h⟩
    · rcases ihfirst e h with hblocks | htraced
      · exact .inl ⟨_, first, .head, hblocks⟩
      · exact .inr (htraced.imp .head)
    · rcases ihrest e (bind_pure_eq_error_iff.mp h) with ⟨s, t, ht, hblocks⟩ | htraced
      · exact .inl ⟨s, t, .tail ht, hblocks⟩
      · exact .inr (htraced.imp (.tail hfirst))
  | leaf v =>
    intro e h
    rcases Leaf.write_eq_error h with ⟨hrequired, hunset, rfl⟩ | ⟨size, rfl⟩
    · exact .inl (.unset hrequired hunset)
    · exact .inl (.leaf h)
  | @unset _ _ _ required =>
    intro e h
    cases required with
    | false => cases h
    | true =>
      cases h
      exact .inl (.unset rfl rfl)
  | child value ih =>
    intro e h
    obtain ⟨e', hcontent, rfl⟩ := Tag.writeChild_eq_error_iff.mp (bind_pure_eq_error_iff.mp h)
    exact .inr ((ih e' hcontent).within .child)
  | children values ih =>
    intro e h
    obtain ⟨before, behind, e', hvalues, hbefore, rfl⟩ := Tag.writeChildren_eq_error_iff.mp h
    rw [write_items] at hvalues
    obtain ⟨before, rest, hvalues, rfl, hrest⟩ := List.map_eq_append_iff.mp hvalues
    obtain ⟨value, behind, rfl, hvalue, _⟩ := List.map_eq_cons_iff.mp hrest
    have hmem : value ∈ values.toList := hvalues ▸ List.mem_append_right _ List.mem_cons_self
    have hwritten : ∀ u ∈ before, ∃ bs, encode u = .ok bs :=
      fun u hu => hbefore _ (List.mem_map_of_mem hu)
    rw [List.length_map]
    exact .inr ((ih value hmem e' hvalue).within (.children hvalues hwritten))
  | noParam =>
    intro e h
    cases h
    exact .inl (.unset rfl rfl)
  | param k payload ih =>
    intro e h
    obtain ⟨e', hcontent, rfl⟩ := Tag.writeChild_eq_error_iff.mp (bind_pure_eq_error_iff.mp h)
    exact .inr ((ih e' hcontent).within .param)
  | empty => exact fun _ h => absurd h List.not_mem_nil
  | item first rest ihfirst ihrest => exact List.forall_mem_cons.mpr ⟨ihfirst, ihrest⟩

end Tree

/-! ### Main result -/

/-- The path of a missing field leads from the value down to a message of the name that the error
gives, and that message lacks the field; and where encoding a message that the encoder gets to finds
a field missing, encoding the whole value finds it with the path to the message in front. Every
other error is raised in a message that the encoder gets to, and whatever other error encoding such
a message ends in, encoding the whole value ends in the same. -/
theorem encode_error_traced {s : Shape} (v : Value s) :
    (∀ path message field, encode v = .error (.required path message field) →
      ∃ (m : MessageType) (w : Message m),
        w.ReachedFrom v path ∧ m.name = message ∧ w.Lacks field) ∧
    (∀ (m : MessageType) (w : Message m) (path path' : List Segment) (message field : String),
      w.ReachedFrom v path → encode w = .error (.required path' message field) →
        encode v = .error (.required (path ++ path') message field)) ∧
    ∀ e, (∀ path message field, e ≠ .required path message field) →
      (encode v = .error e →
        ∃ (m : MessageType) (w : Message m) (path : List Segment),
          w.ReachedFrom v path ∧ w.Raises e) ∧
      ∀ (m : MessageType) (w : Message m) (path : List Segment),
        w.ReachedFrom v path → encode w = .error e → encode v = .error e := by
  refine ⟨fun path message field h => ?_, fun m w path path' message field hw h => ?_,
    fun e he => ⟨fun h => ?_, fun m w path hw h => ?_⟩⟩
  · obtain ⟨m, w, path', e, hw, hraises, hpath⟩ := v.traceable _ h
    cases hraises with
    | lacks hlacks =>
      rw [Error.along_required, List.append_nil] at hpath
      cases hpath
      exact ⟨m, w, hw, rfl, hlacks⟩
    | check _ | leaf _ _ =>
      rw [Error.along_of_forall_ne (by simp)] at hpath
      cases hpath
  · rw [← Error.along_required]
    exact hw.failsWith h
  · obtain ⟨m, w, path, e', hw, hraises, rfl⟩ := v.traceable _ h
    cases hraises with
    | lacks _ =>
      rw [Error.along_required] at he
      exact absurd rfl (he _ _ _)
    | check hcheck =>
      rw [Error.along_of_forall_ne (by simp)]
      exact ⟨m, _, path, hw, .check hcheck⟩
    | leaf hleaf hlong =>
      rw [Error.along_of_forall_ne (by simp)]
      exact ⟨m, _, path, hw, .leaf hleaf hlong⟩
  · have hv := hw.failsWith h
    rwa [Error.along_of_forall_ne he] at hv

/-- An exists query without a field two messages down, the second of the queries that have to match;
a parameter in time without an origin; and a score function of two kinds, which is of two kinds
wherever it stands. -/
theorem encode_error_traced_boolQuery :
    let nested : Query := NestedQuery.of "p" ({} : ExistsQuery) .max
    let deep : Query := ({ must := [Query.matchAll, nested] } : BoolQuery)
    let decay : Message .decayFunction := DecayFunction.toMessage
      { fieldName := "f", param := some (DateDecayParam.toParam {}) }
    let twice : Message .scoreFunction := ScoreFunction.toMessage
      { decay, random := some (RandomScoreFunction.toMessage {}) }
    let scored : Message .functionsScoreQuery := FunctionsScoreQuery.toMessage
      { functions := [twice] }
    let deepPath : List Segment :=
      [⟨"BoolQuery", "must", some 1⟩, ⟨"NestedQuery", "query", none⟩]
    let decayPath : List Segment := [⟨"DecayFunction", "param", none⟩]
    let conflict : Error := .invalid "Function" (.functionKinds ["decay", "random"])
    encode deep = .error (.required deepPath "ExistsQuery" "fieldName") ∧
    (∃ (m : MessageType) (w : Message m),
      w.ReachedFrom deep deepPath ∧ m.name = "ExistsQuery" ∧ w.Lacks "fieldName") ∧
    encode decay = .error (.required decayPath "DecayFuncDateParam" "origin") ∧
    (∃ (m : MessageType) (w : Message m),
      w.ReachedFrom decay decayPath ∧ m.name = "DecayFuncDateParam" ∧ w.Lacks "origin") ∧
    encode twice = .error conflict ∧ encode scored = .error conflict := by
  intro nested deep decay twice scored deepPath decayPath conflict
  have hdeep : encode deep = .error (.required deepPath "ExistsQuery" "fieldName") := by cbv
  have hdecay : encode decay = .error (.required decayPath "DecayFuncDateParam" "origin") := by cbv
  have htwice : encode twice = .error conflict := by cbv
  have hreached : twice.ReachedFrom scored [⟨"FunctionsScoreQuery", "functions", some 0⟩] := by
    have hfirst : (.unset : Tree (.slot .functionsScoreQuery
        (.child ⟨1, "query"⟩ (.node .query) false))).write = .ok [] := rfl
    have hvalues : (Tree.ofList [twice]).toList = [] ++ twice :: [] := rfl
    exact .record rfl (.tail hfirst (.head (.children hvalues (by simp) .here)))
  refine ⟨hdeep, (encode_error_traced deep).1 _ _ _ hdeep, hdecay,
    (encode_error_traced decay).1 _ _ _ hdecay, htwice, ?_⟩
  exact ((encode_error_traced scored).2.2 conflict (by simp [conflict])).2 _ twice _ hreached htwice

end SearchWire
