import Mathlib
import SearchWire.Message.GroupBy
import SearchWire.Proofs.Tree.Accepted
import SearchWire.Proofs.Tree.Rearranged

/-!
# Alternatives

Two types of messages leave a choice between several fields, and count in different ways. A score
function is of one kind at most, and its kinds are the fields that occur, however often each of them
does: the last one of a kind counts. A criterion for buckets is a single field, and a second one is
too many even if it is of the same kind (`decode_alternatives`).
-/

namespace SearchWire

open Result

variable {bs : Bytes} {fs : List WireField}

/-! ### Score functions -/

namespace ScoreFunction

/-- The score function in which every field holds what the last field of its number says. -/
def ofFields (fs : List WireField) : ScoreFunction where
  weight := ((Slot.leaf ⟨1, "weight"⟩ (.optional .float32)).items .scoreFunction fs).getLast?
  filter := ((Slot.child ⟨2, "filter"⟩ (.node .query) false).items .scoreFunction fs).getLast?
  fieldValueFactor := ((Slot.child ⟨3, "fieldValueFactor"⟩ (.message .fieldValueFactorFunction)
    false).items .scoreFunction fs).getLast?
  decay := ((Slot.child ⟨4, "decay"⟩ (.message .decayFunction) false).items .scoreFunction
    fs).getLast?
  random := ((Slot.child ⟨5, "random"⟩ (.message .randomScoreFunction) false).items .scoreFunction
    fs).getLast?

/-- The kinds of which the score function is are those whose fields occur. -/
structure IsOfKinds (x : ScoreFunction) (fs : List WireField) : Prop where
  fieldValueFactor : x.fieldValueFactor.isSome = true ↔ ∃ f ∈ fs, f.number = 3
  decay : x.decay.isSome = true ↔ ∃ f ∈ fs, f.number = 4
  random : x.random.isSome = true ↔ ∃ f ∈ fs, f.number = 5

/-- Of the fields that select a kind, all that occur are of one kind. -/
def OneKind (fs : List WireField) : Prop :=
  ∀ f ∈ fs, ∀ g ∈ fs, f.number ∈ [3, 4, 5] → g.number ∈ [3, 4, 5] → f.number = g.number

end ScoreFunction

/-- A child that may be left out is the last one that occurs. -/
lemma Slot.settle_child {m : MessageType} {tag : Tag} {s : Shape} (items : List (Value s)) :
    (child tag s false).settle decode m items = .ok (.ofOption items.getLast?) := by
  rw [settle]
  cases items.getLast? <;> rfl

/-- A field of a child occurs exactly when something is said about the child. -/
lemma isSome_getLast?_items_iff {m : MessageType} {tag : Tag} {s : Shape} {required : Bool}
    (hs : .child tag s required ∈ m.slots) (hfs : ∀ f ∈ fs, m.Converts f) :
    ((Slot.child tag s required).items m fs).getLast?.isSome = true ↔
      ∃ f ∈ fs, f.number = tag.number := by
  rw [Option.isSome_iff_ne_none, Ne, List.getLast?_eq_none_iff, Slot.items_eq_nil_iff hs hfs]
  simp [Slot.accepts]

namespace ScoreFunction

/-- Fields that all convert are read as what the last of each number say, if these go together. -/
lemma decode_eq (hbs : WireField.SpellAll bs fs)
    (hfs : ∀ f ∈ fs, MessageType.scoreFunction.Converts f) :
    decode (.message .scoreFunction) bs = do
      (ofFields fs).check
      return (ofFields fs).toMessage := by
  have hsettle : settleFields .scoreFunction MessageType.scoreFunction.slots fs =
      .ok (.cons (.leaf (ofFields fs).weight) (.cons (.ofOption (ofFields fs).filter)
        (.cons (.ofOption (ofFields fs).fieldValueFactor) (.cons (.ofOption (ofFields fs).decay)
          (.cons (.ofOption (ofFields fs).random) .nil))))) := by
    simp only [MessageType.slots, settleFields, Slot.settle_child]
    rfl
  have hback := ofMessage_toMessage (ofFields fs)
  rw [toMessage] at hback
  rw [decode_message_eq_settleFields hbs hfs, hsettle]
  show (do
    (ofMessage _).check
    return _) = _
  rw [hback]
  rfl

/-- What the last fields say is of the kinds whose fields occur. -/
lemma isOfKinds_ofFields (hfs : ∀ f ∈ fs, MessageType.scoreFunction.Converts f) :
    (ofFields fs).IsOfKinds fs where
  fieldValueFactor := isSome_getLast?_items_iff (by simp [MessageType.slots]) hfs
  decay := isSome_getLast?_items_iff (by simp [MessageType.slots]) hfs
  random := isSome_getLast?_items_iff (by simp [MessageType.slots]) hfs

/-- Score functions of the same kinds list the same kinds. -/
lemma IsOfKinds.kinds_eq {x y : ScoreFunction} (hx : x.IsOfKinds fs) (hy : y.IsOfKinds fs) :
    x.kinds = y.kinds := by
  rw [kinds, kinds, Bool.eq_iff_iff.mpr (hx.fieldValueFactor.trans hy.fieldValueFactor.symm),
    Bool.eq_iff_iff.mpr (hx.decay.trans hy.decay.symm),
    Bool.eq_iff_iff.mpr (hx.random.trans hy.random.symm)]

/-- The fields that select a kind are of one kind if no two of them are of different kinds. -/
lemma oneKind_iff : OneKind fs ↔
    ¬ ((∃ f ∈ fs, f.number = 3) ∧ ∃ f ∈ fs, f.number = 4) ∧
      ¬ ((∃ f ∈ fs, f.number = 3) ∧ ∃ f ∈ fs, f.number = 5) ∧
      ¬ ((∃ f ∈ fs, f.number = 4) ∧ ∃ f ∈ fs, f.number = 5) := by
  constructor
  · intro h
    refine ⟨?_, ?_, ?_⟩
    all_goals
      rintro ⟨⟨f, hf, hfn⟩, g, hg, hgn⟩
      have heq := h f hf g hg (by simp [hfn]) (by simp [hgn])
      omega
  · rintro ⟨h34, h35, h45⟩ f hf g hg hfn hgn
    simp only [List.mem_cons, List.not_mem_nil, or_false] at hfn hgn
    rcases hfn with hfn | hfn | hfn <;> rcases hgn with hgn | hgn | hgn
    · rw [hfn, hgn]
    · exact absurd ⟨⟨f, hf, hfn⟩, g, hg, hgn⟩ h34
    · exact absurd ⟨⟨f, hf, hfn⟩, g, hg, hgn⟩ h35
    · exact absurd ⟨⟨g, hg, hgn⟩, f, hf, hfn⟩ h34
    · rw [hfn, hgn]
    · exact absurd ⟨⟨f, hf, hfn⟩, g, hg, hgn⟩ h45
    · exact absurd ⟨⟨g, hg, hgn⟩, f, hf, hfn⟩ h35
    · exact absurd ⟨⟨g, hg, hgn⟩, f, hf, hfn⟩ h45
    · rw [hfn, hgn]

/-- A score function is of one kind at most exactly when the fields that select its kinds are. -/
lemma IsOfKinds.length_kinds_le_one_iff {x : ScoreFunction} (hx : x.IsOfKinds fs) :
    x.kinds.length ≤ 1 ↔ OneKind fs := by
  rw [oneKind_iff, ← hx.fieldValueFactor, ← hx.decay, ← hx.random, kinds]
  cases x.fieldValueFactor.isSome <;> cases x.decay.isSome <;> cases x.random.isSome <;> decide

/-- A score function of several kinds is refused, and its kinds are listed. -/
lemma check_eq_error_of_not_oneKind {x : ScoreFunction} (hx : x.IsOfKinds fs) (h : ¬ OneKind fs) :
    x.check = .error (.invalid MessageType.scoreFunction.name (.functionKinds x.kinds)) := by
  rw [check, if_neg (hx.length_kinds_le_one_iff.not.mpr h)]

/-- What a score function fails its check with, it cannot be written with. -/
lemma encode_of_check_eq_error {x : ScoreFunction} {e : Error} (h : x.check = .error e) :
    encode x.toMessage = .error e :=
  Tree.write_record_of_check_eq_error ((congrArg check (ofMessage_toMessage x)).trans h)

lemma decode_eq_ok_iff (hbs : WireField.SpellAll bs fs)
    (hfs : ∀ f ∈ fs, MessageType.scoreFunction.Converts f) {v : Message .scoreFunction} :
    decode (.message .scoreFunction) bs = .ok v ↔ OneKind fs ∧ v = (ofFields fs).toMessage := by
  have hkinds := isOfKinds_ofFields hfs
  rw [decode_eq hbs hfs]
  by_cases h : OneKind fs
  · rw [check, if_pos (hkinds.length_kinds_le_one_iff.mpr h)]
    show Except.ok _ = Except.ok v ↔ _
    rw [Except.ok.injEq, eq_comm, and_iff_right h]
  · rw [check_eq_error_of_not_oneKind hkinds h]
    show Except.error _ = Except.ok v ↔ _
    simp only [reduceCtorEq, h, false_and]

end ScoreFunction

/-! ### Criteria for buckets -/

/-- Of fields that all are criteria, the only one is taken. -/
lemma decode_criterion_eq (hbs : WireField.SpellAll bs fs) (hfs : ∀ f ∈ fs, f.IsCriterion) :
    ∃ found : List Criterion, found.length = fs.length ∧
      decode .criterion bs = onlyCriterion found := by
  have hread : ∀ x ∈ Occurrence.ofFields [] fs, ∃ c, readCriterion decode x = .ok c := by
    intro x hx
    exact exists_readCriterion_iff.mpr (hfs _ (Occurrence.mem_of_mem_ofFields hx))
  obtain ⟨found, hfound⟩ := exists_mapM_eq_ok_iff.mpr hread
  have hlength := (mapM_eq_ok_iff.mp hfound).length_eq
  rw [← List.length_map Occurrence.toWireField, Occurrence.map_ofFields] at hlength
  refine ⟨found, hlength.symm, ?_⟩
  rw [decode_eq, readShape, Reader.collect_of_spellAll hbs, hfound]
  rfl

lemma onlyCriterion_of_two_le {found : List Criterion} (h : 2 ≤ found.length) :
    onlyCriterion found = .error (.invalid Shape.criterion.name (.sorterKinds found.length)) := by
  match found, h with
  | _ :: _ :: _, _ => rfl

/-! ### Main result -/

/-- Fields that all convert are a score function exactly when those of them that select a kind are
of one kind, and the last field of every number is kept; otherwise they are refused with the error
with which a score function of these kinds is refused when it is written. Fields that all are
criteria for buckets are a criterion exactly when there is one of them, no criterion when there is
none, and too many, as many as there are, when there are several. -/
theorem decode_alternatives :
    (∀ {bs : Bytes} {fs : List WireField}, WireField.SpellAll bs fs →
      (∀ f ∈ fs, MessageType.scoreFunction.Converts f) →
      ((∃ v, decode (.message .scoreFunction) bs = .ok v) ↔ ScoreFunction.OneKind fs) ∧
      (∀ v, decode (.message .scoreFunction) bs = .ok v →
        v = (ScoreFunction.ofFields fs).toMessage) ∧
      (¬ ScoreFunction.OneKind fs → ∀ x : ScoreFunction, x.IsOfKinds fs →
        encode x.toMessage = .error (.invalid "Function" (.functionKinds x.kinds)) ∧
          decode (.message .scoreFunction) bs =
            .error (.invalid "Function" (.functionKinds x.kinds)))) ∧
    (∀ {bs : Bytes} {fs : List WireField}, WireField.SpellAll bs fs →
      (∀ f ∈ fs, f.IsCriterion) →
      ((∃ c, decode .criterion bs = .ok c) ↔ fs.length = 1) ∧
      (fs = [] → decode .criterion bs = .error (.required [] "GroupBySorter" "sorter")) ∧
      (2 ≤ fs.length → decode .criterion bs =
        .error (.invalid "GroupBySorter" (.sorterKinds fs.length)))) := by
  constructor
  · intro bs fs hbs hfs
    refine ⟨?_, fun v hv => ((ScoreFunction.decode_eq_ok_iff hbs hfs).mp hv).2, ?_⟩
    · simp only [ScoreFunction.decode_eq_ok_iff hbs hfs, exists_and_left, exists_eq, and_true]
    · intro h x hx
      have hsaid := ScoreFunction.isOfKinds_ofFields hfs
      refine ⟨ScoreFunction.encode_of_check_eq_error
        (ScoreFunction.check_eq_error_of_not_oneKind hx h), ?_⟩
      rw [ScoreFunction.decode_eq hbs hfs, ScoreFunction.check_eq_error_of_not_oneKind hsaid h,
        hsaid.kinds_eq hx]
      rfl
  · intro bs fs hbs hfs
    obtain ⟨found, hlength, hdecode⟩ := decode_criterion_eq hbs hfs
    rw [hdecode, ← hlength]
    refine ⟨?_, ?_, onlyCriterion_of_two_le⟩
    · simp only [onlyCriterion_eq_ok_iff, List.length_eq_one_iff]
    · rintro rfl
      rw [List.length_nil, List.length_eq_zero_iff] at hlength
      rw [hlength]
      rfl

/-- A score function whose field value factor is said twice, one with a random score and a field
value factor, and criteria for buckets of the same kind, none, one and two of them. -/
theorem decode_alternatives_repeated :
    let factor (fieldName : String) : Message .fieldValueFactorFunction :=
      FieldValueFactorFunction.toMessage { fieldName }
    let factorA : WireField := ⟨3, .bytes [10, 1, 97]⟩
    let factorB : WireField := ⟨3, .bytes [10, 1, 98]⟩
    let random : WireField := ⟨5, .bytes []⟩
    let key : WireField := ⟨1, .bytes []⟩
    let conflict : Error := .invalid "Function" (.functionKinds ["fieldValueFactor", "random"])
    decode (.message .scoreFunction) (WireField.writeAll [factorA, factorB]) =
        .ok (ScoreFunction.toMessage { fieldValueFactor := some (factor "b") }) ∧
      (encode (ScoreFunction.toMessage
          { fieldValueFactor := some (factor "c"), random := some (.record .nil) }) =
        .error conflict ∧
        decode (.message .scoreFunction) (WireField.writeAll [random, factorA]) =
          .error conflict) ∧
      decode .criterion [] = .error (.required [] "GroupBySorter" "sorter") ∧
      (∃ c, decode .criterion (WireField.writeAll [key]) = .ok c) ∧
      decode .criterion (WireField.writeAll [key, key]) =
        .error (.invalid "GroupBySorter" (.sorterKinds 2)) := by
  intro factor factorA factorB random key conflict
  obtain ⟨hscore, hcriterion⟩ := decode_alternatives
  have hfactorA : MessageType.scoreFunction.Converts factorA :=
    ⟨.child ⟨3, "fieldValueFactor"⟩ (.message .fieldValueFactorFunction) false,
      by simp [MessageType.slots], factor "a", by cbv⟩
  have hfactorB : MessageType.scoreFunction.Converts factorB :=
    ⟨.child ⟨3, "fieldValueFactor"⟩ (.message .fieldValueFactorFunction) false,
      by simp [MessageType.slots], factor "b", by cbv⟩
  have hrandom : MessageType.scoreFunction.Converts random :=
    ⟨.child ⟨5, "random"⟩ (.message .randomScoreFunction) false, by simp [MessageType.slots],
      .record .nil, by cbv⟩
  have hkey : key.IsCriterion := ⟨.groupKey, [], GroupKeySort.toMessage {}, rfl, by cbv⟩
  have hspell : ∀ fs : List WireField, (∀ f ∈ fs, f ∈ [factorA, factorB, random, key]) →
      WireField.SpellAll (WireField.writeAll fs) fs := by
    intro fs hfs
    apply Reader.spellAll_writeAll
    intro f hf
    have hf := hfs f hf
    simp only [List.mem_cons, List.not_mem_nil, or_false] at hf
    rcases hf with rfl | rfl | rfl | rfl <;>
      simp [factorA, factorB, random, key, WireField.Fits, WireValue.Fits, UInt32.size,
        UInt64.size]
  refine ⟨?_, ?_, ?_, ?_, ?_⟩
  · obtain ⟨haccepted, hlast, -⟩ := hscore (hspell [factorA, factorB] (by simp))
      (by simp [hfactorA, hfactorB])
    obtain ⟨v, hv⟩ := haccepted.mpr (by simp [ScoreFunction.OneKind, factorA, factorB])
    rw [hv, hlast v hv]
    cbv
  · exact (hscore (hspell [random, factorA] (by simp)) (by simp [hfactorA, hrandom])).2.2
      (by simp [ScoreFunction.OneKind, random, factorA])
      { fieldValueFactor := some (factor "c"), random := some (.record .nil) }
      ⟨by simp [random, factorA], by simp [random, factorA], by simp [random, factorA]⟩
  · exact (hcriterion .nil (by simp)).2.1 rfl
  · exact (hcriterion (hspell [key] (by simp)) (by simp [hkey])).1.mpr rfl
  · exact (hcriterion (hspell [key, key] (by simp)) (by simp [hkey])).2.2 (by decide)

end SearchWire
