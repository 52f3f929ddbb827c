import Mathlib
import SearchWire.Message.Query
import SearchWire.Proofs.Tree.Absent
import SearchWire.Proofs.Tree.ErrorKinds
import SearchWire.Proofs.Tree.Nodes

/-!
# The paths of missing fields

A message that cannot be read because a field is missing is reported with a path. That the path is
real is said of the bytes alone: `Misses` follows it from the root, one segment for every child that
the reader goes into, down to the bytes in which the field is missing. Decoding fails with a path
exactly if the path can be followed so (`decode_eq_required_iff`).
-/

namespace SearchWire

open Result

/-- The bytes, read as a value of the shape, miss a field. The path leads from them to the message
that misses it. -/
inductive Misses : Shape → Bytes → List Segment → String → String → Prop
  /-- The fields of a message all convert, but one that has to occur does not. It is the first. -/
  | field {m : MessageType} {bs : Bytes} {fs : List WireField} {tag : Tag}
    (hbs : WireField.SpellAll bs fs) (hfs : ∀ f ∈ fs, m.Converts f)
    (htag : firstAbsent m.slots fs = some tag) : Misses (.message m) bs [] m.name tag.name
  /-- A criterion for buckets has no field at all. -/
  | criterion : Misses .criterion [] [] Shape.criterion.name "sorter"
  /-- A node misses what the message does that the kind in its envelope selects. -/
  | node {f : Family} {bs content : Bytes} {fs : List WireField} {k : f.Kind} {path : List Segment}
    {message field : String} (hbs : WireField.SpellAll bs fs)
    (henvelope : Envelope.Says fs (WireEnum.code k) content)
    (h : Misses (.message (f.payload k)) content path message field) :
    Misses (.node f) bs path message field
  /-- Behind fields that convert stands a child that misses something. -/
  | child {m : MessageType} {tag : Tag} {s : Shape} {required : Bool} {before : List WireField}
    {front rest content : Bytes} {path : List Segment} {message field : String}
    (hslot : .child tag s required ∈ m.slots)
    (hfront : WireField.SpellAll front (before ++ [⟨tag.number, .bytes content⟩]))
    (hbefore : ∀ f ∈ before, m.Converts f) (h : Misses s content path message field) :
    Misses (.message m) (front ++ rest) (⟨m.name, tag.name, none⟩ :: path) message field
  /-- Behind fields that convert stands an element of a list that misses something. Its position is
  the number of elements in front of it. -/
  | element {m : MessageType} {tag : Tag} {s : Shape} {before : List WireField}
    {front rest content : Bytes} {path : List Segment} {message field : String}
    (hslot : .children tag s ∈ m.slots)
    (hfront : WireField.SpellAll front (before ++ [⟨tag.number, .bytes content⟩]))
    (hbefore : ∀ f ∈ before, m.Converts f) (h : Misses s content path message field) :
    Misses (.message m) (front ++ rest)
      (⟨m.name, tag.name, some ((before.map WireField.number).count tag.number)⟩ :: path) message
      field
  /-- Behind fields that are criteria stands one that misses something. -/
  | choice {k : CriterionKind} {before : List WireField} {front rest content : Bytes}
    {path : List Segment} {message field : String}
    (hfront : WireField.SpellAll front (before ++ [⟨k.tag.number, .bytes content⟩]))
    (hbefore : ∀ f ∈ before, f.IsCriterion)
    (h : Misses (.message k.payload) content path message field) :
    Misses .criterion (front ++ rest) (⟨Shape.criterion.name, k.tag.name, none⟩ :: path) message
      field
  /-- The fields of a decay function all convert and all occur that have to, but the last content,
  read by the last kind, misses something. -/
  | param {bs content : Bytes} {fs : List WireField} {k : DecayParamKind} {path : List Segment}
    {message field : String} (hbs : WireField.SpellAll bs fs)
    (hfs : ∀ f ∈ fs, MessageType.decayFunction.Converts f)
    (hnone : firstAbsent MessageType.decayFunction.slots fs = none)
    (hk : WireField.last? 3 fs = some (.ofMember k))
    (hcontent : WireField.last? 4 fs = some (.bytes content))
    (h : Misses (.message k.payload) content path message field) :
    Misses (.message .decayFunction) bs (decayParamSegment :: path) message field
  /-- Here the last content is a parameter of the last kind, but its check misses a field. -/
  | check {bs content : Bytes} {fs : List WireField} {p : DecayParam} {field : String}
    (hbs : WireField.SpellAll bs fs) (hfs : ∀ f ∈ fs, MessageType.decayFunction.Converts f)
    (hnone : firstAbsent MessageType.decayFunction.slots fs = none)
    (hk : WireField.last? 3 fs = some (.ofMember p.kind))
    (hcontent : WireField.last? 4 fs = some (.bytes content))
    (hp : decode (.message p.kind.payload) content = .ok p.content)
    (hcheck : p.check = .error (.required [] p.kind.payload.name field)) :
    Misses (.message .decayFunction) bs [decayParamSegment] p.kind.payload.name field

section

variable {m : MessageType} {bs : Bytes} {fs : List WireField} {path : List Segment}
  {message field : String}

/-! ### Errors -/

/-- One step away, a missing field has one segment more. -/
lemma Error.within_eq_required_iff {e : Error} {segment : Segment} :
    e.within segment = .required path message field ↔
      ∃ path', e = .required path' message field ∧ path = segment :: path' := by
  constructor
  · intro h
    cases e <;> cases h
    exact ⟨_, rfl, rfl⟩
  · rintro ⟨path', rfl, rfl⟩
    rfl

/-- No field is refused because another one is missing. -/
lemma not_required_of_failsOnly {α : Type} {x : Result α} (h : x.FailsOnly Error.OfFields) :
    x ≠ .error (.required path message field) :=
  fun hx => h _ hx

/-- Fields fail at the first one that is not converted, if not at bytes that are no field. -/
lemma Reader.collect_eq_error {α : Type} {r : Reader} {convert : Occurrence → Result α}
    (h : r.collect convert = .error (.required path message field)) :
    ∃ before x behind, r.fields.1 = before ++ x :: behind ∧
      (∀ y ∈ before, ∃ z, convert y = .ok z) ∧
        convert x = .error (.required path message field) := by
  rcases bind_eq_error_iff.mp h with hmapM | ⟨_, _, hend⟩
  · exact mapM_eq_error_iff.mp hmapM
  · split at hend
    · cases hend
    · rename_i hbroken
      cases hend
      exact absurd (ofFields_of_broken hbroken) not_false

lemma Reader.collect_of_front {α : Type} {name : String} {front rest : Bytes}
    {before : List WireField} {f : WireField} {convert : Occurrence → Result α} {e : Error}
    (hfront : WireField.SpellAll front (before ++ [f]))
    (hbefore : ∀ x ∈ Occurrence.ofFields [] before, ∃ z, convert x = .ok z)
    (h : convert ⟨f, (before.map WireField.number).count f.number⟩ = .error e) :
    (Reader.start name (front ++ rest)).collect convert = .error e := by
  have hfields : (Reader.start name (front ++ rest)).fields.1 =
      Occurrence.ofFields [] (before ++ [f]) ++ _ := congrArg Prod.fst (fields_append hfront [])
  rw [Occurrence.ofFields_append, List.append_nil, List.append_assoc] at hfields
  refine bind_eq_error_iff.mpr (.inl (mapM_eq_error_iff.mpr ?_))
  refine ⟨Occurrence.ofFields [] before, _, _, hfields, hbefore, ?_⟩
  rwa [List.count_reverse]

lemma Reader.content_length_of_fields {r : Reader} {before behind : List Occurrence}
    {x : Occurrence} (h : r.fields.1 = before ++ x :: behind) (content : Bytes)
    (hx : x.value = .bytes content) : content.length < r.rest.length := by
  apply fields_content_length (x := x) _ hx
  rw [h]
  exact List.mem_append_right _ List.mem_cons_self

/-! ### Children -/

/-- A child is missing something if it is read from bytes that do. -/
lemma readChild_eq_required_iff {name : String} {tag : Tag} {index : Option Nat} {s : Shape}
    {f : WireField} :
    readChild decode name tag index s f = .error (.required path message field) ↔
      ∃ content path', f.value = .bytes content ∧
        decode s content = .error (.required path' message field) ∧
        path = ⟨name, tag.name, index⟩ :: path' := by
  rw [readChild, bind_eq_error_iff]
  simp only [within_eq_error_iff, Error.within_eq_required_iff, WireField.content_eq_ok_iff]
  constructor
  · rintro (h | ⟨content, hcontent, _, he, path', rfl, rfl⟩)
    · exact absurd h (not_required_of_failsOnly WireField.failsOnly_content)
    · exact ⟨content, path', hcontent, he, rfl⟩
  · rintro ⟨content, path', hcontent, h, rfl⟩
    exact .inr ⟨content, hcontent, _, h, path', rfl, rfl⟩

/-- Of the fields of a message, only those that hold children miss something. -/
lemma exists_child_of_readEntry {name : String} {f : WireField} {index : Nat} {ss : List Slot}
    (h : readEntry decode name ⟨f, index⟩ ss = .error (.required path message field)) :
    ∃ tag s content path', f = ⟨tag.number, .bytes content⟩ ∧
      decode s content = .error (.required path' message field) ∧
      ((∃ required, Slot.child tag s required ∈ ss) ∧ path = ⟨name, tag.name, none⟩ :: path' ∨
        Slot.children tag s ∈ ss ∧ path = ⟨name, tag.name, some index⟩ :: path') := by
  obtain ⟨number, value⟩ := f
  induction ss with
  | nil => cases h
  | cons s ss ih =>
    rw [readEntry] at h
    by_cases haccepts : s.accepts number = true
    · rw [if_pos haccepts, bind_pure_eq_error_iff] at h
      cases s with
      | leaf tag l => exact absurd h (not_required_of_failsOnly Leaf.failsOnly_readItem)
      | child tag s required =>
        obtain ⟨content, path', rfl, hcontent, rfl⟩ := readChild_eq_required_iff.mp h
        obtain rfl : number = tag.number := beq_iff_eq.mp haccepts
        exact ⟨tag, s, content, path', rfl, hcontent,
          .inl ⟨⟨required, List.mem_cons_self⟩, rfl⟩⟩
      | children tag s =>
        obtain ⟨content, path', rfl, hcontent, rfl⟩ := readChild_eq_required_iff.mp h
        obtain rfl : number = tag.number := beq_iff_eq.mp haccepts
        exact ⟨tag, s, content, path', rfl, hcontent, .inr ⟨List.mem_cons_self, rfl⟩⟩
      | decayParam kind content =>
        rw [Slot.readItem] at h
        split at h
        · exact absurd (bind_pure_eq_error_iff.mp h)
            (not_required_of_failsOnly Scalar.failsOnly_read)
        · exact absurd (bind_pure_eq_error_iff.mp h)
            (not_required_of_failsOnly WireField.failsOnly_content)
    · rw [if_neg haccepts, bind_pure_eq_error_iff] at h
      obtain ⟨tag, t, content, path', hf, hcontent, hslot⟩ := ih h
      refine ⟨tag, t, content, path', hf, hcontent, hslot.imp ?_ ?_⟩
      · exact And.imp_left (Exists.imp fun required => List.mem_cons_of_mem s)
      · exact And.imp_left (List.mem_cons_of_mem s)

/-- A field that is not converted is not filed. -/
lemma readEntry_eq_error {ss : List Slot} {s : Slot} {x : Occurrence} {e : Error}
    (hss : RegularLayout m ss) (hs : s ∈ ss) (hnumber : x.number ∈ s.numbers)
    (h : s.readItem decode m.name x = .error e) : readEntry decode m.name x ss = .error e := by
  induction ss with
  | nil => cases hs
  | cons t ss ih =>
    rcases List.mem_cons.mp hs with rfl | hs
    · rw [readEntry_of_mem_numbers hnumber, bind_pure_eq_error_iff]
      exact h
    · rw [readEntry_of_mem_tail hss (List.mem_flatMap.mpr ⟨s, hs, hnumber⟩),
        bind_pure_eq_error_iff]
      exact ih hss.tail hs

/-! ### From the error to the path -/

/-- What the bytes are reported to miss, read as a value of the shape, they miss. -/
def ReportsMissed (s : Shape) (bs : Bytes) : Prop :=
  ∀ ⦃path message field⦄, decode s bs = .error (.required path message field) →
    Misses s bs path message field

/-- All fields convert where they are converted one after the other. -/
lemma converts_of_readEntry {xs : List Occurrence}
    (h : ∀ x ∈ xs, ∃ e, readEntry decode m.name x m.slots = .ok e) :
    ∀ f ∈ xs.map Occurrence.toWireField, m.Converts f := by
  intro f hf
  obtain ⟨x, hx, rfl⟩ := List.mem_map.mp hf
  obtain ⟨e, he⟩ := h x hx
  exact exists_item?_of_readEntry he

/-- A message whose check misses a field is a decay function, and its parameter misses it. -/
lemma Misses.of_check {slots : Slots m} (hbs : WireField.SpellAll bs fs)
    (hfs : ∀ f ∈ fs, m.Converts f) (hnone : firstAbsent m.slots fs = none)
    (hslots : settleFields m m.slots fs = .ok slots)
    (h : m.check slots = .error (.required path message field)) :
    Misses (.message m) bs path message field := by
  cases m
  case scoreFunction =>
    rw [MessageType.check, ScoreFunction.check] at h
    split at h <;> cases h
  case decayFunction =>
    obtain ⟨p, hparam, content, hk, hcontent, hp⟩ := DecayFunction.exists_param hfs hslots
    rw [MessageType.check, DecayFunction.check, hparam] at h
    obtain ⟨e, he, hwithin⟩ := within_eq_error_iff.mp h
    obtain ⟨path', rfl, rfl⟩ := Error.within_eq_required_iff.mp hwithin
    rcases DecayParam.check_eq_error he with ⟨name, heq, _⟩ | ⟨reason, heq⟩ <;> cases heq
    exact .check hbs hfs hnone hk hcontent hp he
  all_goals cases h

/-- The only decay parameter is that of a decay function. -/
lemma MessageType.eq_decayFunction_of_mem {kind content : Tag}
    (h : .decayParam kind content ∈ m.slots) :
    m = .decayFunction ∧ kind = ⟨3, "paramType"⟩ ∧ content = ⟨4, "param"⟩ := by
  cases m <;> simp [slots] at h ⊢
  exact h

/-- Fields that all convert miss something as slots, or in a check. -/
lemma Misses.of_converts (hbs : WireField.SpellAll bs fs) (hfs : ∀ f ∈ fs, m.Converts f)
    (ih : ∀ s content, content.length < bs.length → ReportsMissed s content)
    (h : decode (.message m) bs = .error (.required path message field)) :
    Misses (.message m) bs path message field := by
  rw [decode_message_eq_settleFields hbs hfs] at h
  have hsettled := MessageType.settled hfs
  generalize hresult : settleFields m m.slots fs = result at h hsettled
  cases hsettled with
  | @ok slots hnone =>
    exact of_check hbs hfs hnone hresult (bind_pure_eq_error_iff.mp h)
  | absent htag =>
    cases h
    exact .field hbs hfs htag
  | @param kind content k bs' e hs hnone hk hbs' he =>
    have hwithin := Except.error.inj h
    obtain ⟨path', rfl, rfl⟩ := Error.within_eq_required_iff.mp hwithin
    obtain ⟨rfl, rfl, rfl⟩ := MessageType.eq_decayFunction_of_mem hs
    have hlength := hbs.below_length (WireField.mem_of_last?_eq_some hbs') bs' rfl
    exact .param hbs hfs hnone hk hbs' (ih _ bs' hlength he)

/-- A field that misses something, behind fields that convert, is a child or an element of a list
that does. -/
lemma Misses.of_readEntry {x : Occurrence} {before behind : List Occurrence}
    (hfields : (Reader.start m.name bs).fields.1 = before ++ x :: behind)
    (hbefore : ∀ y ∈ before, ∃ e, readEntry decode m.name y m.slots = .ok e)
    (ih : ∀ s content, content.length < bs.length → ReportsMissed s content)
    (h : readEntry decode m.name x m.slots = .error (.required path message field)) :
    Misses (.message m) bs path message field := by
  have hconverts := converts_of_readEntry hbefore
  have hshort := Reader.content_length_of_fields hfields
  obtain ⟨front, rest, fs, f, hbs, hfront, rfl, rfl⟩ := Reader.exists_front_of_fields hfields
  obtain rfl : bs = front ++ rest := hbs
  rw [Occurrence.map_ofFields] at hconverts
  obtain ⟨tag, s, content, path', rfl, hcontent, hslot⟩ := exists_child_of_readEntry h
  have hmisses := ih s content (hshort content rfl) hcontent
  rcases hslot with ⟨⟨required, hslot⟩, rfl⟩ | ⟨hslot, rfl⟩
  · exact .child hslot hfront hconverts hmisses
  · simpa [Reader.start] using Misses.element hslot hfront hconverts hmisses

/-- Where a criterion cannot be read because a field is missing, it is missing in one of the fields,
or there is none. -/
lemma Misses.of_criterion
    (ih : ∀ s content, content.length < bs.length → ReportsMissed s content)
    (h : decode .criterion bs = .error (.required path message field)) :
    Misses .criterion bs path message field := by
  rw [decode_eq, readShape] at h
  rcases bind_eq_error_iff.mp h with h | ⟨found, hfound, h⟩
  · obtain ⟨before, x, behind, hfields, hbefore, hx⟩ := Reader.collect_eq_error h
    have hshort := Reader.content_length_of_fields hfields
    obtain ⟨front, rest, fs, f, hbs, hfront, rfl, rfl⟩ := Reader.exists_front_of_fields hfields
    obtain rfl : bs = front ++ rest := hbs
    have hcriteria : ∀ f ∈ fs, f.IsCriterion := by
      intro f hf
      obtain ⟨y, hy, rfl⟩ := Occurrence.exists_mem_ofFields hf []
      exact exists_readCriterion_iff.mp (hbefore y hy)
    obtain ⟨number, value⟩ := f
    rw [readCriterion] at hx
    split at hx
    · cases hx
    · rename_i k hk
      obtain rfl := CriterionKind.ofNumber?_eq_some_iff.mp hk
      obtain ⟨content, path', rfl, hcontent, rfl⟩ :=
        readChild_eq_required_iff.mp (bind_pure_eq_error_iff.mp hx)
      exact .choice hfront hcriteria (ih _ content (hshort content rfl) hcontent)
  · obtain ⟨hend, hmapM⟩ := Reader.collect_eq_ok_iff.mp hfound
    obtain ⟨fs, hbs, hfields⟩ := Reader.fields_eq_iff.mp (Prod.ext rfl hend)
    rw [onlyCriterion.eq_def] at h
    split at h
    · cases h
      have hnil : (Reader.start Shape.criterion.name bs).fields.1 = [] :=
        List.forall₂_nil_right_iff.mp (mapM_eq_ok_iff.mp hmapM)
      have hfs : [] = fs := by
        rw [← Occurrence.map_ofFields [] fs, ← hfields]
        exact congrArg (List.map Occurrence.toWireField) hnil.symm
      subst hfs
      cases hbs
      exact .criterion
    · cases h
    · cases h

/-- What cannot be read because a field is missing misses it, by induction on the bytes. -/
lemma reportsMissed (s : Shape) (bs : Bytes) : ReportsMissed s bs := by
  induction hn : bs.length using Nat.strong_induction_on generalizing s bs with
  | _ n ih =>
    subst hn
    have ih : ∀ s content, content.length < bs.length → ReportsMissed s content :=
      fun s content hlt => ih content.length hlt s content rfl
    intro path message field h
    cases s with
    | criterion => exact .of_criterion ih h
    | node f =>
      rw [decode_node_eq] at h
      rcases bind_eq_error_iff.mp h with h | ⟨e, he, h⟩
      · exact absurd h (not_required_of_failsOnly Envelope.failsOnly_read)
      · obtain ⟨fs, hbs, henvelope⟩ := Envelope.exists_says_of_read he
        have hlength := Envelope.payload_length he
        exact .node hbs henvelope (ih _ e.payload hlength (bind_pure_eq_error_iff.mp h))
    | message m =>
      have hread := h
      rw [decode_eq, readShape, readMessage] at hread
      rcases bind_eq_error_iff.mp hread with hcollect | ⟨entries, hentries, _⟩
      · obtain ⟨before, x, behind, hfields, hbefore, hx⟩ := Reader.collect_eq_error hcollect
        exact .of_readEntry hfields hbefore ih hx
      · obtain ⟨fs, hbs, hfs⟩ := exists_converts_of_collect hentries
        exact .of_converts hbs hfs ih h

/-! ### From the path to the error -/

/-- Of fields that convert, a message reports the first one that has to occur and does not. -/
lemma decode_of_firstAbsent {tag : Tag} (hbs : WireField.SpellAll bs fs)
    (hfs : ∀ f ∈ fs, m.Converts f) (htag : firstAbsent m.slots fs = some tag) :
    decode (.message m) bs = .error (.required [] m.name tag.name) := by
  rw [decode_message_eq_settleFields hbs hfs]
  have hsettled := MessageType.settled hfs
  generalize settleFields m m.slots fs = result at hsettled
  cases hsettled with
  | ok hnone => cases htag.symm.trans hnone
  | absent htag' =>
    cases htag.symm.trans htag'
    rfl
  | param _ hnone _ _ _ => cases htag.symm.trans hnone

/-- Behind fields that convert, a message reports what its child is missing. -/
lemma decode_of_front {s : Slot} {before : List WireField} {front rest : Bytes} {f : WireField}
    {e : Error} (hs : s ∈ m.slots) (hnumber : f.number ∈ s.numbers)
    (hfront : WireField.SpellAll front (before ++ [f])) (hbefore : ∀ f ∈ before, m.Converts f)
    (h : s.readItem decode m.name ⟨f, (before.map WireField.number).count f.number⟩ = .error e) :
    decode (.message m) (front ++ rest) = .error e := by
  rw [decode_eq, readShape, readMessage]
  refine bind_eq_error_iff.mpr (.inl (Reader.collect_of_front hfront ?_ ?_))
  · intro x hx
    obtain ⟨s', hs', item, hitem⟩ := hbefore _ (Occurrence.mem_of_mem_ofFields hx)
    exact exists_readEntry m.regular hs' hitem x.index
  · exact readEntry_eq_error m.regular hs hnumber h

/-- Of the fields of a decay function that convert and of which none is missing, the parameter is
read as the last kind and the last content say, and checked. -/
lemma decode_decayFunction_eq {k : DecayParamKind} {content : Bytes}
    (hbs : WireField.SpellAll bs fs) (hfs : ∀ f ∈ fs, MessageType.decayFunction.Converts f)
    (hnone : firstAbsent MessageType.decayFunction.slots fs = none)
    (hk : WireField.last? 3 fs = some (.ofMember k))
    (hcontent : WireField.last? 4 fs = some (.bytes content)) {e : Error}
    (h : (decode (.message k.payload) content >>= fun payload =>
      DecayParam.check ⟨k, payload⟩) = .error e) :
    decode (.message .decayFunction) bs = .error (e.within decayParamSegment) := by
  have hkind : ∀ k', WireField.last? 3 fs = some (.ofMember k') → k' = k := fun k' hk' =>
    WireValue.ofMember_injective (e := .decayParamKind) (Option.some.inj (hk'.symm.trans hk))
  have hbytes : ∀ bs', WireField.last? 4 fs = some (.bytes bs') → bs' = content := fun bs' hbs' =>
    WireValue.bytes.inj (Option.some.inj (hbs'.symm.trans hcontent))
  rw [decode_message_eq_settleFields hbs hfs]
  have hsettled := MessageType.settled hfs
  generalize hresult : settleFields .decayFunction MessageType.decayFunction.slots fs = result
    at hsettled
  cases hsettled with
  | @ok slots _ =>
    obtain ⟨⟨k', payload⟩, hparam, bs', hk', hbs', hpayload⟩ :=
      DecayFunction.exists_param hfs hresult
    obtain rfl := hkind k' hk'
    obtain rfl := hbytes bs' hbs'
    have hread : decode (.message k'.payload) bs' = .ok payload := hpayload
    rw [hread] at h
    refine bind_pure_eq_error_iff.mpr ?_
    show MessageType.decayFunction.check slots = _
    rw [MessageType.check, DecayFunction.check, hparam]
    exact within_eq_error_iff.mpr ⟨e, h, rfl⟩
  | absent htag => cases htag.symm.trans hnone
  | @param kind content' k' bs' e' hs _ hk' hbs' he =>
    obtain ⟨_, rfl, rfl⟩ := MessageType.eq_decayFunction_of_mem hs
    obtain rfl := hkind k' hk'
    obtain rfl := hbytes bs' hbs'
    rw [he] at h
    cases h
    rfl

/-- What misses a field cannot be read, by following the path. -/
lemma Misses.decode_eq {s : Shape} (h : Misses s bs path message field) :
    decode s bs = .error (.required path message field) := by
  induction h with
  | field hbs hfs htag => exact decode_of_firstAbsent hbs hfs htag
  | criterion =>
    rw [SearchWire.decode_eq, readShape, Reader.collect_start_nil]
    rfl
  | @node f bs content fs k path message field hbs henvelope _ ih =>
    have hread := Envelope.read_eq_of_spellAll (f := f) hbs henvelope
    rw [WireEnum.ofCode?_code] at hread
    rw [decode_node_eq, hread]
    exact bind_pure_eq_error_iff.mpr ih
  | child hslot hfront hbefore _ ih =>
    refine decode_of_front hslot List.mem_cons_self hfront hbefore ?_
    exact readChild_eq_required_iff.mpr ⟨_, _, rfl, ih, rfl⟩
  | element hslot hfront hbefore _ ih =>
    refine decode_of_front hslot List.mem_cons_self hfront hbefore ?_
    exact readChild_eq_required_iff.mpr ⟨_, _, rfl, ih, rfl⟩
  | @choice k before front rest content path message field hfront hbefore _ ih =>
    rw [SearchWire.decode_eq, readShape]
    refine bind_eq_error_iff.mpr (.inl (Reader.collect_of_front hfront ?_ ?_))
    · intro x hx
      exact exists_readCriterion_iff.mpr (hbefore _ (Occurrence.mem_of_mem_ofFields hx))
    · rw [readCriterion]
      simp only [CriterionKind.ofNumber?_number]
      exact bind_pure_eq_error_iff.mpr (readChild_eq_required_iff.mpr ⟨_, _, rfl, ih, rfl⟩)
  | param hbs hfs hnone hk hcontent _ ih =>
    exact decode_decayFunction_eq hbs hfs hnone hk hcontent (bind_eq_error_iff.mpr (.inl ih))
  | check hbs hfs hnone hk hcontent hp hcheck =>
    exact decode_decayFunction_eq hbs hfs hnone hk hcontent
      (bind_eq_error_iff.mpr (.inr ⟨_, hp, hcheck⟩))

end

/-! ### Main result -/

/-- Decoding fails because a field is missing exactly if the path can be followed, from the bytes of
the root to those that miss the field. -/
theorem decode_eq_required_iff {s : Shape} {bs : Bytes} {path : List Segment}
    {message field : String} :
    decode s bs = .error (.required path message field) ↔ Misses s bs path message field :=
  ⟨fun h => reportsMissed s bs h, Misses.decode_eq⟩

/-- Between the first and the second query that must match stands one that must not. The second one
has no field name. -/
example : decode (.node .query)
    [8, 6, 18, 18, 10, 4, 8, 11, 18, 0, 18, 4, 8, 11, 18, 0, 10, 4, 8, 16, 18, 0] =
    .error (.required [⟨"BoolQuery", "must", some 1⟩] "ExistsQuery" "fieldName") := by
  cbv

end SearchWire
