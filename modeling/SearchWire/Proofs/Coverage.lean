import Mathlib
import SearchWire.Coverage
import SearchWire.Message.Sort
import SearchWire.Proofs.Tree.RoundTrip

/-!
# Verified families

A family is verified by samples exactly when all of them encode and every kind of the family is the
kind of some sample (`Family.verify_samples`). Only two things can go wrong: a sample does not
encode, and then the first one that does not is reported, or there is no sample of some kinds. The
codes of a family are never at fault, because no two kinds share one (`Family.checkCodes_eq_ok`),
and whatever encodes is read back as a node of its kind (`Family.Tally.add_of_encode_eq_ok`).
-/

namespace SearchWire

open Result

namespace Family

variable {f : Family}

/-! ### Codes -/

/-- Kinds of which none occurs twice have codes of their own. -/
lemma checkCodesFrom_eq_ok {seen ks : List f.Kind} (h : (seen ++ ks).Nodup) :
    checkCodesFrom seen ks = .ok () := by
  induction ks generalizing seen with
  | nil => rfl
  | cons k ks ih =>
    have hnew : k ∉ seen := fun hk =>
      (List.nodup_append.mp h).2.2 k hk k List.mem_cons_self rfl
    have hfind : seen.find? (WireEnum.code · == WireEnum.code k) = none := by
      rw [List.find?_eq_none]
      intro other hother hcode
      rw [WireEnum.code_injective (beq_iff_eq.mp hcode)] at hother
      exact hnew hother
    rw [checkCodesFrom, hfind]
    simp only [WireEnum.ofCode?_code, ne_eq, not_true_eq_false, if_false]
    apply ih
    rwa [List.append_assoc]

/-- The codes of every family are those of its kinds. -/
lemma checkCodes_eq_ok (f : Family) : checkCodes f = .ok () := by
  have hcount : ((WireEnum.byCode f.Kind).map WireEnum.code).length =
      (WireEnum.values : List f.Kind).length := by
    rw [List.length_map, WireEnum.byCode, List.length_mergeSort]
  rw [checkCodes, checkCodesFrom_eq_ok (by exact WireEnum.nodup_values)]
  simp only [hcount, ne_eq, not_true_eq_false, if_false]
  rfl

/-! ### One sample -/

/-- The tally in which the given kinds were given, encoded and decoded. -/
def Tally.of (ks : List f.Kind) : Tally f := ⟨ks, ks, ks⟩

/-- A node keeps its kind when the weights in it are set. -/
lemma kind_withDefaults (v : Node f) : v.withDefaults.kind = v.kind := by
  cases v
  rfl

lemma exists_envelope {v : Node f} {bs : Bytes} (h : encode v = .ok bs)
    (hlength : bs.length < UInt64.size) : ∃ e, Envelope.read f bs = .ok e ∧ e.kind = v.kind := by
  cases v with
  | node k payload =>
    obtain ⟨content, _, rfl⟩ := Tree.write_node_eq_ok_iff.mp h
    exact ⟨⟨k, content⟩, Envelope.read_write hlength, rfl⟩

/-- A sample that encodes is read back as a node of its kind. -/
lemma Tally.add_of_encode_eq_ok {v : Node f} {bs : Bytes} (ks : List f.Kind)
    (h : encode v = .ok bs) (hlength : bs.length < UInt64.size) :
    (of ks).add v = .ok (of (ks.insert v.kind)) := by
  obtain ⟨e, he, hkind⟩ := exists_envelope h hlength
  have hback := decode_encode h hlength
  simp only [add, of, h, he, hback, hkind, kind_withDefaults, Except.mapError, bind, Except.bind,
    ne_eq, not_true_eq_false, if_false]
  rfl

lemma Tally.add_of_encode_eq_error {v : Node f} {e : Error} (t : Tally f)
    (h : encode v = .error e) :
    t.add v = .error (.codec f.name (WireEnum.label v.kind) e) := by
  rw [add, h]
  rfl

/-! ### All samples -/

section

variable {samples before behind : List (Node f)} {ks : List f.Kind} {k : f.Kind}

/-- The kinds of samples, each of them once, behind kinds that were found before. -/
def kindsFrom (ks : List f.Kind) (samples : List (Node f)) : List f.Kind :=
  samples.foldl (fun ks v => ks.insert v.kind) ks

lemma mem_kindsFrom : k ∈ kindsFrom ks samples ↔ k ∈ ks ∨ ∃ v ∈ samples, v.kind = k := by
  induction samples generalizing ks with
  | nil => simp [kindsFrom]
  | cons v samples ih =>
    have hcons : kindsFrom ks (v :: samples) = kindsFrom (ks.insert v.kind) samples := rfl
    rw [hcons, ih, List.mem_insert_iff, List.exists_mem_cons_iff, or_assoc, or_left_comm,
      eq_comm (a := k)]

lemma nodup_kindsFrom (h : ks.Nodup) : (kindsFrom ks samples).Nodup := by
  induction samples generalizing ks with
  | nil => exact h
  | cons v samples ih => exact ih h.insert

/-- Samples that all encode are tallied by their kinds. -/
lemma foldlM_add_eq_ok
    (hencode : ∀ v ∈ samples, ∃ bs, encode v = .ok bs ∧ bs.length < UInt64.size) :
    samples.foldlM Tally.add (Tally.of ks) = .ok (Tally.of (kindsFrom ks samples)) := by
  induction samples generalizing ks with
  | nil => rfl
  | cons v samples ih =>
    obtain ⟨⟨bs, hbs, hlength⟩, hencode⟩ := List.forall_mem_cons.mp hencode
    rw [List.foldlM_cons, Tally.add_of_encode_eq_ok ks hbs hlength]
    exact ih hencode

/-- The first sample that does not encode ends the tally. -/
lemma foldlM_add_eq_error {v : Node f} {e : Error}
    (hbefore : ∀ u ∈ before, ∃ bs, encode u = .ok bs ∧ bs.length < UInt64.size)
    (h : encode v = .error e) : (before ++ v :: behind).foldlM Tally.add (Tally.of ks) =
      .error (.codec f.name (WireEnum.label v.kind) e) := by
  rw [List.foldlM_append, foldlM_add_eq_ok hbefore]
  show (do
    let t ← Tally.add _ v
    behind.foldlM Tally.add t) = _
  rw [Tally.add_of_encode_eq_error _ h]
  rfl

/-- The kinds of which there is no sample, in the order of declaration. -/
def missingKinds (samples : List (Node f)) : List f.Kind :=
  WireEnum.values.filter fun k => ∀ v ∈ samples, v.kind ≠ k

lemma missing_of_kindsFrom : (Tally.of (kindsFrom [] samples)).missing = missingKinds samples := by
  rw [Tally.missing, missingKinds]
  apply List.filter_congr
  intro k _
  rw [Bool.eq_iff_iff]
  simp [Tally.of, mem_kindsFrom]

/-- Every kind is there once if none is missing. -/
lemma length_kindsFrom (h : missingKinds samples = []) :
    (kindsFrom [] samples).length = (WireEnum.values : List f.Kind).length := by
  apply List.Perm.length_eq
  rw [List.perm_ext_iff_of_nodup (nodup_kindsFrom List.nodup_nil) WireEnum.nodup_values]
  intro k
  rw [iff_true_right (WireEnum.mem_values k), mem_kindsFrom]
  have hk := List.filter_eq_nil_iff.mp h k (WireEnum.mem_values k)
  simpa using hk

lemma missingKinds_eq_nil_iff : missingKinds samples = [] ↔ ∀ k, ∃ v ∈ samples, v.kind = k := by
  rw [missingKinds, List.filter_eq_nil_iff]
  simp [WireEnum.mem_values]

variable (f) in
/-- The coverage of a family of which no kind is missing. -/
def fullCoverage : Coverage :=
  let count := (WireEnum.values : List f.Kind).length
  ⟨f.name, count, count, count, count⟩

lemma verify_eq (samples : List (Node f)) :
    verify samples = (coverage samples).mapError .samples := by
  rw [verify, checkCodes_eq_ok]
  rfl

/-- The first sample that does not encode is reported. -/
lemma verify_of_first {v : Node f} {e : Error}
    (hbefore : ∀ u ∈ before, ∃ bs, encode u = .ok bs ∧ bs.length < UInt64.size)
    (h : encode v = .error e) : verify (before ++ v :: behind) =
      .error (.samples (.codec f.name (WireEnum.label v.kind) e)) := by
  have htally : (before ++ v :: behind).foldlM Tally.add ({} : Tally f) = .error _ :=
    foldlM_add_eq_error hbefore h
  rw [verify_eq, coverage, htally]
  rfl

/-- Samples that all encode cover the family if none of its kinds is missing. -/
lemma verify_of_encode
    (hencode : ∀ v ∈ samples, ∃ bs, encode v = .ok bs ∧ bs.length < UInt64.size) :
    verify samples = if missingKinds samples = [] then .ok (fullCoverage f) else
      .error (.samples (.uncovered f.name ((missingKinds samples).map WireEnum.label))) := by
  have htally : samples.foldlM Tally.add ({} : Tally f) = .ok (Tally.of (kindsFrom [] samples)) :=
    foldlM_add_eq_ok hencode
  simp only [verify_eq, coverage, htally, bind, Except.bind, missing_of_kindsFrom]
  by_cases h : missingKinds samples = []
  · simp only [h, List.isEmpty_nil, Bool.not_true, Bool.false_eq_true, if_false, if_true, Tally.of,
      length_kindsFrom h]
    rfl
  · rw [if_neg h, if_pos (by simpa using h)]
    rfl

/-- Samples all encode, or there is a first one that does not. -/
lemma encode_all_or_first (samples : List (Node f)) :
    (∀ v ∈ samples, ∃ bs, encode v = .ok bs) ∨ ∃ before v behind e,
      samples = before ++ v :: behind ∧ (∀ u ∈ before, ∃ bs, encode u = .ok bs) ∧
        encode v = .error e := by
  rw [← exists_mapM_eq_ok_iff]
  cases h : samples.mapM encode with
  | ok contents => exact .inl ⟨contents, rfl⟩
  | error e =>
    obtain ⟨before, v, behind, hsamples, hbefore, hv⟩ := mapM_eq_error_iff.mp h
    exact .inr ⟨before, v, behind, e, hsamples, hbefore, hv⟩

end

/-! ### Main result -/

/-- A family is verified exactly by samples that all encode and are of every kind, and its coverage
is then complete. Otherwise the first sample that does not encode is reported, with its kind and its
error, whatever kinds there are; if all samples encode, the kinds without a sample are reported, in
the order of declaration. Nothing else ever is. The bytes of a sample have to be so few that their
number fits 64 bits, as those of everything in memory do. -/
theorem verify_samples {f : Family} {samples : List (Node f)}
    (hmemory : ∀ v ∈ samples, ∀ bs, encode v = .ok bs → bs.length < UInt64.size) :
    ((∃ c, verify samples = .ok c) ↔
      (∀ v ∈ samples, ∃ bs, encode v = .ok bs) ∧ ∀ k, ∃ v ∈ samples, v.kind = k) ∧
    (∀ c, verify samples = .ok c → c = fullCoverage f ∧ c.isComplete = true) ∧
    (∀ before v behind e, samples = before ++ v :: behind →
      (∀ u ∈ before, ∃ bs, encode u = .ok bs) → encode v = .error e →
      verify samples = .error (.samples (.codec f.name (WireEnum.label v.kind) e))) ∧
    ((∀ v ∈ samples, ∃ bs, encode v = .ok bs) → (∃ k, ∀ v ∈ samples, v.kind ≠ k) →
      verify samples =
        .error (.samples (.uncovered f.name ((missingKinds samples).map WireEnum.label)))) ∧
    ∀ e, verify samples = .error e →
      (∃ v ∈ samples, ∃ e', encode v = .error e' ∧
        e = .samples (.codec f.name (WireEnum.label v.kind) e')) ∨
      ∃ missing, e = .samples (.uncovered f.name missing) := by
  have hbounded : ∀ vs : List (Node f), vs ⊆ samples → (∀ v ∈ vs, ∃ bs, encode v = .ok bs) →
      ∀ v ∈ vs, ∃ bs, encode v = .ok bs ∧ bs.length < UInt64.size := by
    intro vs hvs hencode v hv
    obtain ⟨bs, hbs⟩ := hencode v hv
    exact ⟨bs, hbs, hmemory v (hvs hv) bs hbs⟩
  have hfirst : ∀ before v behind e, samples = before ++ v :: behind →
      (∀ u ∈ before, ∃ bs, encode u = .ok bs) → encode v = .error e →
      verify samples = .error (.samples (.codec f.name (WireEnum.label v.kind) e)) := by
    rintro before v behind e rfl hbefore hv
    exact verify_of_first (hbounded before (List.subset_append_left _ _) hbefore) hv
  have hall : (∀ v ∈ samples, ∃ bs, encode v = .ok bs) → verify samples =
      if missingKinds samples = [] then .ok (fullCoverage f) else
        .error (.samples (.uncovered f.name ((missingKinds samples).map WireEnum.label))) :=
    fun hencode => verify_of_encode (hbounded samples (List.Subset.refl _) hencode)
  have hcovered : ∀ c, verify samples = .ok c → (∀ v ∈ samples, ∃ bs, encode v = .ok bs) ∧
      missingKinds samples = [] ∧ c = fullCoverage f := by
    intro c hc
    rcases encode_all_or_first samples with hencode | ⟨before, v, behind, e, hsplit, hbefore, hv⟩
    · rw [hall hencode] at hc
      by_cases hmissing : missingKinds samples = []
      · rw [if_pos hmissing] at hc
        exact ⟨hencode, hmissing, (Except.ok.inj hc).symm⟩
      · rw [if_neg hmissing] at hc
        cases hc
    · rw [hfirst before v behind e hsplit hbefore hv] at hc
      cases hc
  refine ⟨⟨?_, ?_⟩, ?_, hfirst, ?_, ?_⟩
  · rintro ⟨c, hc⟩
    obtain ⟨hencode, hmissing, _⟩ := hcovered c hc
    exact ⟨hencode, missingKinds_eq_nil_iff.mp hmissing⟩
  · rintro ⟨hencode, hkinds⟩
    rw [hall hencode, if_pos (missingKinds_eq_nil_iff.mpr hkinds)]
    exact ⟨_, rfl⟩
  · intro c hc
    obtain ⟨_, _, rfl⟩ := hcovered c hc
    simp [Coverage.isComplete, fullCoverage]
  · rintro hencode ⟨k, hk⟩
    rw [hall hencode, if_neg]
    rw [missingKinds_eq_nil_iff]
    intro hkinds
    obtain ⟨v, hv, hvk⟩ := hkinds k
    exact hk v hv hvk
  · intro e he
    rcases encode_all_or_first samples with hencode | ⟨before, v, behind, e', hsplit, hbefore, hv⟩
    · rw [hall hencode] at he
      by_cases hmissing : missingKinds samples = []
      · rw [if_pos hmissing] at he
        cases he
      · rw [if_neg hmissing] at he
        exact .inr ⟨_, (Except.error.inj he).symm⟩
    · rw [hfirst before v behind e' hsplit hbefore hv] at he
      exact .inl ⟨v, by simp [hsplit], e', hv, (Except.error.inj he).symm⟩

/-- A sorter of every kind verifies the sorters. Behind the order by documents, an order by no field
at all ends the verification, although other kinds are missing; on its own, the order by documents
leaves the other four without a sample. -/
theorem verify_samples_sorters :
    let doc : Sorter := DocSort.of .desc
    let field : Sorter := FieldSort.of "a" .asc
    let noField : Sorter := ({} : FieldSort)
    let others : List Sorter := [({ fieldName := some "a" } : GeoDistanceSort),
      ScoreSort.of .desc, PrimaryKeySort.of .asc]
    verify (doc :: field :: others) = .ok (fullCoverage .sorter) ∧
      verify [doc, noField] = .error (.samples
        (.codec "Sorter" "Field" (.required [] "FieldSort" "fieldName"))) ∧
      verify [doc] = .error (.samples
        (.uncovered "Sorter" ["Field", "GeoDistance", "Score", "PrimaryKey"])) := by
  intro doc field noField others
  have hdoc : encode doc = .ok [8, 5, 18, 2, 8, 1] := by cbv
  have hfield : encode field = .ok [8, 1, 18, 5, 10, 1, 97, 16, 0] := by cbv
  have hothers : ∀ v ∈ others, ∃ bs, encode v = .ok bs ∧ bs.length < UInt64.size := by
    refine List.forall_mem_cons.mpr ⟨⟨[8, 2, 18, 3, 10, 1, 97], by cbv, by decide⟩, ?_⟩
    refine List.forall_mem_cons.mpr ⟨⟨[8, 3, 18, 2, 8, 1], by cbv, by decide⟩, ?_⟩
    exact List.forall_mem_singleton.mpr ⟨[8, 4, 18, 2, 8, 0], by cbv, by decide⟩
  have hnoField : encode noField = .error (.required [] "FieldSort" "fieldName") := by cbv
  have hsmall : ∀ v ∈ doc :: field :: others, ∃ bs, encode v = .ok bs ∧ bs.length < UInt64.size :=
    List.forall_mem_cons.mpr ⟨⟨_, hdoc, by decide⟩,
      List.forall_mem_cons.mpr ⟨⟨_, hfield, by decide⟩, hothers⟩⟩
  have hmemory : ∀ v ∈ noField :: doc :: field :: others, ∀ bs, encode v = .ok bs →
      bs.length < UInt64.size := by
    refine List.forall_mem_cons.mpr ⟨fun bs hbs => ?_, fun v hv bs hbs => ?_⟩
    · cases hnoField.symm.trans hbs
    · obtain ⟨content, hcontent, hlength⟩ := hsmall v hv
      obtain rfl := Except.ok.inj (hcontent.symm.trans hbs)
      exact hlength
  have hkinds : ∀ k, ∃ v ∈ doc :: field :: others, v.kind = k := by
    intro k
    have hmem : k ∈ [SorterKind.doc, .field, .geoDistance, .score, .primaryKey] := by
      cases k <;> decide
    exact List.mem_map.mp hmem
  refine ⟨?_, ?_, ?_⟩
  · have hall : ∀ v ∈ doc :: field :: others, ∀ bs, encode v = .ok bs → bs.length < UInt64.size :=
      fun v hv => hmemory v (List.mem_cons_of_mem _ hv)
    obtain ⟨hverified, hcomplete, -⟩ := verify_samples hall
    obtain ⟨c, hc⟩ := hverified.mpr ⟨fun v hv => (hsmall v hv).imp fun _ => And.left, hkinds⟩
    rw [hc, (hcomplete c hc).1]
  · have hboth : ∀ v ∈ [doc, noField], ∀ bs, encode v = .ok bs → bs.length < UInt64.size :=
      fun v hv => hmemory v (by simp at hv ⊢; tauto)
    obtain ⟨-, -, hfirst, -⟩ := verify_samples hboth
    exact hfirst [doc] noField [] _ rfl (by simp [hdoc]) hnoField
  · have hdocs : ∀ v ∈ [doc], ∀ bs, encode v = .ok bs → bs.length < UInt64.size :=
      fun v hv => hmemory v (by simp at hv ⊢; tauto)
    obtain ⟨-, -, -, hmissing, -⟩ := verify_samples hdocs
    refine hmissing (by simp [hdoc]) ⟨SorterKind.field, fun v hv hkind => ?_⟩
    rw [List.mem_singleton.mp hv] at hkind
    cases hkind

end Family

end SearchWire
