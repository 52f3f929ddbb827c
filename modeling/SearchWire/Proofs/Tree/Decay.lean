import Mathlib
import SearchWire.Proofs.Tree.Accepted
import SearchWire.Proofs.Tree.Faults
import SearchWire.Proofs.Tree.Rearranged

/-!
# Decay functions on both sides

A decay function is checked before it is written and after it is read, and the two checks agree
(`decayFunction_checked`). Any message is read from the fields that its slots would be written as,
and from all fields that say the same, as far as the check across its slots, which is the one that
it passes before it is written (`decode_message_of_agree_write`). A message that fails it is never
written, but its fields can be put together by hand (`DecayFunction.fields`).
-/

namespace SearchWire

open Result

variable {bs : Bytes} {fs gs : List WireField}

/-! ### Messages whose check is still to be made -/

section

variable {m : MessageType} {slots : Slots m}

/-- The fields that the slots are written as convert, and say what the slots held. -/
lemma settleFields_write (hslots : slots.write = .ok gs) (hbelow : ∀ g ∈ gs, g.Below UInt64.size) :
    (∀ g ∈ gs, m.Converts g) ∧ settleFields m m.slots gs = .ok slots.withDefaults := by
  have hwrite : slots.write = .ok ((Occurrence.ofFields [] gs).map Occurrence.toWireField) := by
    rwa [Occurrence.map_ofFields]
  obtain ⟨entries, hentries, hsettle⟩ := settleAll_write m.regular readsBack_decode hwrite
    fun x hx => hbelow _ (Occurrence.mem_of_mem_ofFields hx)
  constructor
  · intro g hg
    obtain ⟨x, hx, rfl⟩ := Occurrence.exists_mem_ofFields hg []
    obtain ⟨e, he⟩ := exists_forall₂_iff.mp ⟨entries, hentries⟩ x hx
    exact exists_item?_of_readEntry he
  · rw [settleAll_eq_settleFields m.regular hentries, Occurrence.map_ofFields] at hsettle
    exact hsettle

/-- Whatever says the same as the fields that the slots are written as is read as these slots, if
they go together, and otherwise fails with the error with which the message cannot be written. -/
theorem decode_message_of_agree_write (hslots : slots.write = .ok gs)
    (hbelow : ∀ g ∈ gs, g.Below UInt64.size) (hbs : WireField.SpellAll bs fs)
    (hfs : ∀ f ∈ fs, m.Converts f) (hagree : m.Agree fs gs) (hoccur : m.OccurAlike fs gs) :
    decode (.message m) bs = do
      m.check slots
      return (Tree.record slots).withDefaults := by
  have hsettle : settleFields m m.slots fs = .ok slots.withDefaults := by
    rw [← (settleFields_write hslots hbelow).2]
    apply settleFields_congr
    intro s hs
    exact Slot.settle_eq_of_agree (hagree s hs) (hoccur s hs)
  rw [decode_message_eq_settleFields hbs hfs, hsettle, ← m.check_withDefaults slots]
  rfl

end

/-! ### Decay functions -/

/-- A value that may be left out is written as its only field if it is there. -/
lemma Leaf.write_optional {t : Scalar} {content : t.Value → WireValue}
    (h : ∀ v, t.write v = .ok (content v)) (message : String) (tag : Tag) (v : Option t.Value) :
    (Leaf.optional t).write message tag v = .ok (v.map (⟨tag.number, content ·⟩)).toList := by
  cases v with
  | none => rfl
  | some v =>
    simp only [write, occurrences, writeItem, Option.toList_some, List.mapM_cons, List.mapM_nil, h,
      Option.map_some]
    rfl

namespace DecayFunction

variable {x : DecayFunction} {p : DecayParam} {name : String} {content : Bytes} {e : Error}

/-- The fields of a decay function, put together without looking at its parameter: that is of the
given kind, and its own bytes are given. -/
def fields (x : DecayFunction) (name : String) (k : DecayParamKind) (content : Bytes) :
    List WireField :=
  [⟨1, .bytes (Text.utf8 name)⟩] ++ ((x.mathFunction.map (⟨2, .ofMember ·⟩)).toList ++
    ([⟨3, .ofMember k⟩, ⟨4, .bytes content⟩] ++ ((x.decay.map (⟨5, .fixed64 ·.bits⟩)).toList ++
      (x.multiValueMode.map (⟨6, .ofMember ·⟩)).toList)))

/-- The slots of a decay function. -/
def slots (x : DecayFunction) : Slots .decayFunction :=
  .cons (.leaf x.fieldName) <|
  .cons (.leaf x.mathFunction) <|
  .cons (.ofParam x.param) <|
  .cons (.leaf x.decay) <|
  .cons (.leaf x.multiValueMode) <|
  .nil

lemma check_slots (x : DecayFunction) : MessageType.decayFunction.check x.slots = x.check :=
  congrArg check (ofMessage_toMessage x)

/-- The fields are those that the slots of the function are written as. -/
lemma write_slots (hname : x.fieldName = some name) (hparam : x.param = some p)
    (hcontent : encode p.content = .ok content) :
    x.slots.write = .ok (x.fields name p.kind content) := by
  rw [slots, hname, hparam, fields]
  refine Tree.write_cons_eq_ok_iff.mpr ⟨_, rfl, _, ?_, rfl⟩
  refine Tree.write_cons_eq_ok_iff.mpr ⟨_, Leaf.write_optional (fun _ => rfl) _ _ _, _, ?_, rfl⟩
  refine Tree.write_cons_eq_ok_iff.mpr
    ⟨_, Tree.write_param_eq_ok_iff.mpr ⟨content, hcontent, rfl⟩, _, ?_, rfl⟩
  refine Tree.write_cons_eq_ok_iff.mpr ⟨_, Leaf.write_optional (fun _ => rfl) _ _ _, _, ?_, rfl⟩
  exact Tree.write_cons_eq_ok_iff.mpr
    ⟨_, Leaf.write_optional (fun _ => rfl) _ _ _, [], rfl, List.append_nil _⟩

/-- No weight is left out of a decay function. -/
lemma withDefaults_toMessage (x : DecayFunction) : x.toMessage.withDefaults = x.toMessage := by
  obtain ⟨fieldName, mathFunction, param, decay, multiValueMode⟩ := x
  cases param with
  | none => rfl
  | some p =>
    simp only [toMessage, Tree.ofParam, Tree.withDefaults, Tree.withDefaults_decayParam]
    rfl

/-- The fields all convert, and whatever says the same is read as that function if it passes its
check, and otherwise fails with the same error. -/
lemma decode_of_agree_fields (hname : x.fieldName = some name) (hparam : x.param = some p)
    (hcontent : encode p.content = .ok content)
    (hlength : (WireField.writeAll (x.fields name p.kind content)).length < UInt64.size) :
    (∀ f ∈ x.fields name p.kind content, MessageType.decayFunction.Converts f) ∧
      ∀ {bs fs}, WireField.SpellAll bs fs → (∀ f ∈ fs, MessageType.decayFunction.Converts f) →
        MessageType.decayFunction.Agree fs (x.fields name p.kind content) →
        decode (.message .decayFunction) bs = do
          x.check
          return x.toMessage := by
  have hwrite := write_slots hname hparam hcontent
  have hbelow : ∀ g ∈ x.fields name p.kind content, g.Below UInt64.size :=
    fun g hg bs hbs => (WireField.below_writeAll g hg bs hbs).trans hlength
  refine ⟨(settleFields_write hwrite hbelow).1, fun hbs hfs hagree => ?_⟩
  have hoccur : ∀ fs gs, MessageType.decayFunction.OccurAlike fs gs := by
    intro fs gs s hs
    apply Slot.occurAlike_of_isSingular
    simp only [MessageType.slots, List.mem_cons, List.not_mem_nil, or_false] at hs
    rcases hs with rfl | rfl | rfl | rfl | rfl <;> trivial
  rw [decode_message_of_agree_write hwrite hbelow hbs hfs hagree (hoccur _ _), check_slots,
    ← withDefaults_toMessage]
  rfl

/-- A function that does not pass its check cannot be written. -/
lemma encode_of_check_eq_error (h : x.check = .error e) : encode x.toMessage = .error e :=
  Tree.write_record_of_check_eq_error (x.check_slots.trans h)

/-- A function with the name of a field that passes its check can be written. -/
lemma exists_encode_of_check (hname : x.fieldName = some name) (h : x.check = .ok ()) :
    ∃ bs, encode x.toMessage = .ok bs := by
  obtain ⟨p, hparam⟩ : ∃ p, x.param = some p := by
    cases hp : x.param with
    | none =>
      rw [check, hp] at h
      cases h
    | some p => exact ⟨p, rfl⟩
  obtain ⟨content, hcontent⟩ := Tree.writable_payload p.kind p.content
  rw [← check_slots] at h
  exact ⟨_, Tree.write_record_eq_ok_iff.mpr ⟨h, _, write_slots hname hparam hcontent, rfl⟩⟩

/-- What is read as a decay function passes its check. -/
lemma check_of_decode {v : Message .decayFunction}
    (h : decode (.message .decayFunction) bs = .ok v) :
    (ofMessage v).check = .ok () := by
  obtain ⟨_, _, _, slots, _, hcheck, rfl⟩ := decode_message_eq_ok_iff.mp h
  exact hcheck

lemma check_eq_ok_iff_param : x.check = .ok () ↔ ∃ p, x.param = some p ∧ p.check = .ok () := by
  rw [check]
  cases x.param with
  | none => simp
  | some p => simp [within_eq_ok_iff]

end DecayFunction

/-! ### Main result -/

/-- Of a decay function with the name of a field and a parameter, the parameter passes its check and
the function is read back from its bytes; or the parameter fails its check, and with the same error,
seen from the function, the function cannot be written and its fields cannot be read, whatever
fields say them. And a decay function that is read has a parameter that passes its check. -/
theorem decayFunction_checked :
    (∀ (x : DecayFunction) (name : String) (p : DecayParam), x.fieldName = some name →
      x.param = some p →
      (p.check = .ok () → ∃ bs, encode x.toMessage = .ok bs ∧
        (bs.length < UInt64.size → decode (.message .decayFunction) bs = .ok x.toMessage)) ∧
      ∀ e, p.check = .error e →
        encode x.toMessage = .error (e.within decayParamSegment) ∧
        ∃ content, encode p.content = .ok content ∧
          ((WireField.writeAll (x.fields name p.kind content)).length < UInt64.size →
            (∀ f ∈ x.fields name p.kind content, MessageType.decayFunction.Converts f) ∧
            ∀ bs fs, WireField.SpellAll bs fs →
              (∀ f ∈ fs, MessageType.decayFunction.Converts f) →
              MessageType.decayFunction.Agree fs (x.fields name p.kind content) →
              decode (.message .decayFunction) bs = .error (e.within decayParamSegment))) ∧
    ∀ bs v, decode (.message .decayFunction) bs = .ok v →
      ∃ p, (DecayFunction.ofMessage v).param = some p ∧ p.check = .ok () := by
  refine ⟨fun x name p hname hparam => ⟨fun hcheck => ?_, fun e he => ?_⟩, fun bs v hv => ?_⟩
  · have hfunction : x.check = .ok () := DecayFunction.check_eq_ok_iff_param.mpr ⟨p, hparam, hcheck⟩
    obtain ⟨bs, hbs⟩ := DecayFunction.exists_encode_of_check hname hfunction
    refine ⟨bs, hbs, fun hlength => ?_⟩
    rw [decode_encode hbs hlength, x.withDefaults_toMessage]
  · have hfunction : x.check = .error (e.within decayParamSegment) := by
      rw [DecayFunction.check, hparam]
      exact within_eq_error_iff.mpr ⟨e, he, rfl⟩
    obtain ⟨content, hcontent⟩ := Tree.writable_payload p.kind p.content
    refine ⟨DecayFunction.encode_of_check_eq_error hfunction, content, hcontent, fun hlength => ?_⟩
    obtain ⟨hconverts, hdecode⟩ :=
      DecayFunction.decode_of_agree_fields hname hparam hcontent hlength
    refine ⟨hconverts, fun bs fs hbs hfs hagree => ?_⟩
    rw [hdecode hbs hfs hagree, hfunction]
    rfl
  · exact DecayFunction.check_eq_ok_iff_param.mp (DecayFunction.check_of_decode hv)

/-- A function that decays from a NaN is read back, and one that decays from no point at all fails
alike when it is written and when its fields are read in the opposite order. -/
theorem decayFunction_checked_origin :
    let fromNaN : DecayFunction :=
      { fieldName := some "a"
        param := some (NumericDecayParam.toParam
          { origin := some ⟨0x7ff8000000000001⟩, scale := some .infinity }) }
    let fromNowhere : DecayFunction :=
      { fieldName := some "a", param := some (GeoDecayParam.toParam { scale := some .infinity }) }
    let scale : Bytes := [17, 0, 0, 0, 0, 0, 0, 240, 127]
    let missing : Error := .required [decayParamSegment] "DecayFuncGeoParam" "origin"
    (∃ bs, encode fromNaN.toMessage = .ok bs ∧
        decode (.message .decayFunction) bs = .ok fromNaN.toMessage) ∧
      encode fromNowhere.toMessage = .error missing ∧
      decode (.message .decayFunction) (WireField.writeAll
        [⟨4, .bytes scale⟩, ⟨3, .varint 3⟩, ⟨1, .bytes [97]⟩]) = .error missing ∧
      ∃ p, (DecayFunction.ofMessage fromNaN.toMessage).param = some p ∧ p.check = .ok () := by
  intro fromNaN fromNowhere scale missing
  obtain ⟨hchecked, hread⟩ := decayFunction_checked
  obtain ⟨hpass, -⟩ := hchecked fromNaN "a" _ rfl rfl
  obtain ⟨-, hfail⟩ := hchecked fromNowhere "a" _ rfl rfl
  obtain ⟨hencode, content, hcontent, hfields⟩ := hfail _ rfl
  obtain ⟨bs, hbs, hback⟩ := hpass rfl
  have hbytes : encode fromNaN.toMessage = .ok [10, 1, 97, 24, 2, 34, 18, 9, 1, 0, 0, 0, 0, 0, 248,
      127, 17, 0, 0, 0, 0, 0, 0, 240, 127] := by cbv
  have hscale : encode (GeoDecayParam.toParam { scale := some .infinity }).content = .ok scale := by
    cbv
  obtain rfl : bs = _ := Except.ok.inj (hbs.symm.trans hbytes)
  obtain rfl : content = scale := Except.ok.inj (hcontent.symm.trans hscale)
  have hnan := hback (by decide)
  refine ⟨⟨_, hbs, hnan⟩, hencode, ?_, hread _ _ hnan⟩
  have hsaid : fromNowhere.fields "a" .geo scale =
      [⟨1, .bytes [97]⟩, ⟨3, .varint 3⟩, ⟨4, .bytes scale⟩] := by cbv
  obtain ⟨hconverts, hdecode⟩ := hfields (by cbv)
  rw [show (GeoDecayParam.toParam { scale := some .infinity }).kind = .geo from rfl, hsaid]
    at hconverts hdecode
  have hreversed : ∀ n, [⟨4, .bytes scale⟩, ⟨3, .varint 3⟩, ⟨1, .bytes [97]⟩].filter
      (fun f : WireField => f.number == n) =
        [⟨1, .bytes [97]⟩, ⟨3, .varint 3⟩, ⟨4, .bytes scale⟩].filter (·.number == n) := by
    intro n
    by_cases h1 : 1 = n
    · subst h1
      rfl
    · by_cases h4 : 4 = n
      · subst h4
        rfl
      · simp [List.filter_cons, h1, h4]
  have hconverts' : ∀ f ∈ [⟨4, .bytes scale⟩, ⟨3, .varint 3⟩, ⟨1, .bytes [97]⟩],
      MessageType.decayFunction.Converts f := by
    intro f hf
    exact hconverts f (by simpa [or_comm, or_assoc, or_left_comm] using hf)
  exact hdecode _ _ (Reader.spellAll_writeAll (by
    simp [scale, WireField.Fits, WireValue.Fits, UInt32.size, UInt64.size])) hconverts'
    (MessageType.Rearranged.agree (.reordered hreversed) hconverts').1

end SearchWire
