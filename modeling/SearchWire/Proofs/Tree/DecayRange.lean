import Mathlib
import SearchWire.Proofs.Tree.Missing

/-!
# The range of decay parameters

Which decay parameters pass their check, said of the bits of their distances, and of the units and
values of their amounts of time (`DecayParam.check_range`). A scale lies above both zeros and may be
infinite; an offset may also be a zero of either sign; neither is a NaN.
-/

namespace SearchWire

open Result

/-! ### Distances -/

namespace Binary64

variable {x : Binary64}

lemma isNaN_eq_false_iff : x.isNaN = false ↔ x.magnitude ≤ infinityMagnitude := by
  rw [isNaN, decide_eq_false_iff_not, Nat.not_lt]

/-- Without a sign, the bits are the magnitude, and that is the position. -/
lemma rank_of_lt (h : x.bits.toNat < 0x8000000000000000) :
    x.magnitude = x.bits.toNat ∧ x.rank = x.bits.toNat := by
  have hmagnitude : x.magnitude = x.bits.toNat := Nat.mod_eq_of_lt h
  have hsign : x.isNegative = false := decide_eq_false (Nat.not_le.mpr h)
  rw [rank, hsign, if_neg Bool.false_ne_true, hmagnitude]
  exact ⟨rfl, rfl⟩

/-- With a sign, the position is not above that of the zeros. -/
lemma rank_of_le (h : 0x8000000000000000 ≤ x.bits.toNat) :
    x.bits.toNat = 0x8000000000000000 + x.magnitude ∧ x.rank = -x.magnitude := by
  have hlt := x.bits.toNat_lt
  have hsign : x.isNegative = true := decide_eq_true h
  rw [rank, hsign, if_pos rfl, magnitude]
  exact ⟨by omega, rfl⟩

/-- The bits of the positive numbers lie above those of zero and not above those of infinity. The
negative numbers and the NaNs have greater ones. -/
lemma isPositive_iff : x.isPositive = true ↔ 0 < x.bits ∧ x.bits ≤ 0x7ff0000000000000 := by
  have hinfinity : (0x7ff0000000000000 : UInt64).toNat = infinityMagnitude := rfl
  have hlt : infinityMagnitude < 0x8000000000000000 := by decide
  rw [isPositive, Bool.and_eq_true, Bool.not_eq_true', decide_eq_true_eq, isNaN_eq_false_iff,
    UInt64.lt_iff_toNat_lt, UInt64.le_iff_toNat_le, UInt64.toNat_zero, hinfinity]
  rcases Nat.lt_or_ge x.bits.toNat 0x8000000000000000 with hsign | hsign
  · obtain ⟨hmagnitude, hrank⟩ := rank_of_lt hsign
    omega
  · obtain ⟨hbits, hrank⟩ := rank_of_le hsign
    omega

/-- To these, the numbers that are not negative add both zeros. -/
lemma isNonnegative_iff :
    x.isNonnegative = true ↔ x.bits ≤ 0x7ff0000000000000 ∨ x.bits = 0x8000000000000000 := by
  have hinfinity : (0x7ff0000000000000 : UInt64).toNat = infinityMagnitude := rfl
  have hlt : infinityMagnitude < 0x8000000000000000 := by decide
  have hzero : (0x8000000000000000 : UInt64).toNat = 0x8000000000000000 := rfl
  rw [isNonnegative, Bool.and_eq_true, Bool.not_eq_true', decide_eq_true_eq, isNaN_eq_false_iff,
    UInt64.le_iff_toNat_le, ← UInt64.toNat_inj, hinfinity, hzero]
  rcases Nat.lt_or_ge x.bits.toNat 0x8000000000000000 with hsign | hsign
  · obtain ⟨hmagnitude, hrank⟩ := rank_of_lt hsign
    omega
  · obtain ⟨hbits, hrank⟩ := rank_of_le hsign
    omega

end Binary64

/-- A scale that is set to a positive number, and an offset that is not negative if it is set. -/
structure DistancesInRange (scale offset : Option Binary64) : Prop where
  scale : ∃ s, scale = some s ∧ 0 < s.bits ∧ s.bits ≤ 0x7ff0000000000000
  offset : ∀ o ∈ offset, o.bits ≤ 0x7ff0000000000000 ∨ o.bits = 0x8000000000000000

lemma checkDistances_eq_ok_iff {m : MessageType} {scale offset : Option Binary64} :
    checkDistances m scale offset = .ok () ↔ DistancesInRange scale offset := by
  constructor
  · intro h
    cases scale with
    | none => cases h
    | some s =>
      simp only [checkDistances] at h
      split at h
      · cases h
      · rename_i hs
        rw [Bool.not_eq_true, Bool.not_eq_false', Binary64.isPositive_iff] at hs
        refine ⟨⟨s, rfl, hs⟩, ?_⟩
        rintro o rfl
        simp only at h
        split at h
        · cases h
        · rename_i ho
          rwa [Bool.not_eq_true, Bool.not_eq_false', Binary64.isNonnegative_iff] at ho
  · rintro ⟨⟨s, rfl, hs⟩, hoffset⟩
    rw [← Binary64.isPositive_iff] at hs
    cases offset with
    | none => simp [checkDistances, hs, pure, Except.pure]
    | some o =>
      have ho := Binary64.isNonnegative_iff.mpr (hoffset o rfl)
      simp [checkDistances, hs, ho, pure, Except.pure]

/-! ### Amounts of time -/

/-- The amount is in days or a finer unit. -/
def DateTimeValue.IsFine (x : DateTimeValue) : Prop :=
  x.unit ∈ [.day, .hour, .minute, .second, .millisecond]

/-- A scale that is set to a positive amount of time, and an offset that is not negative if it is
set, both of them in days or finer units. -/
structure DurationsInRange (scale offset : Option (Message .dateTimeValue)) : Prop where
  scale : ∃ s, scale.map DateTimeValue.ofMessage = some s ∧ s.IsFine ∧ 0 < s.value
  offset : ∀ o ∈ offset.map DateTimeValue.ofMessage, o.IsFine ∧ 0 ≤ o.value

namespace DateTimeValue

variable {x : DateTimeValue}

lemma checkUnit_eq_ok_iff {field : String} {u : Unit} :
    x.checkUnit field = .ok u ↔ x.IsFine := by
  obtain ⟨value, unit⟩ := x
  cases unit <;> simp [checkUnit, IsFine, DateTimeUnit.isDayOrFiner]

lemma checkScale_eq_ok_iff : x.checkScale = .ok () ↔ x.IsFine ∧ 0 < x.value := by
  rw [checkScale, bind_eq_ok_iff]
  simp only [checkUnit_eq_ok_iff, if_throw_eq_ok_iff, exists_const, Int32.not_le]

lemma checkOffset_eq_ok_iff : x.checkOffset = .ok () ↔ x.IsFine ∧ 0 ≤ x.value := by
  rw [checkOffset, bind_eq_ok_iff]
  simp only [checkUnit_eq_ok_iff, if_throw_eq_ok_iff, exists_const, Int32.not_lt]

end DateTimeValue

namespace DateDecayParam

variable {x : DateDecayParam}

/-- An origin in time is set in either of its forms, or in both. -/
def HasOrigin (x : DateDecayParam) : Prop := x.originLong ≠ none ∨ x.originString ≠ none

lemma check_of_not_hasOrigin (h : ¬ x.HasOrigin) :
    x.check = .error (.required [] MessageType.dateDecayParam.name "origin") := by
  rw [HasOrigin, not_or, not_ne_iff, not_ne_iff] at h
  rw [check, h.1, h.2]
  rfl

/-- With an origin, the check goes on to the scale and the offset. -/
lemma check_of_hasOrigin (h : x.HasOrigin) :
    x.check = (match x.scale with
      | none => .error (.required [] MessageType.dateDecayParam.name "scale")
      | some s => do
        (DateTimeValue.ofMessage s).checkScale
        match x.offset with
        | none => return
        | some o => (DateTimeValue.ofMessage o).checkOffset) := by
  have hset : (x.originLong.isNone && x.originString.isNone) = false := by
    rwa [Bool.and_eq_false_iff, Option.isNone_eq_false_iff, Option.isNone_eq_false_iff,
      Option.isSome_iff_ne_none, Option.isSome_iff_ne_none]
  rw [check, hset, if_neg Bool.false_ne_true]
  cases x.scale <;> rfl

lemma check_eq_ok_iff (h : x.HasOrigin) :
    x.check = .ok () ↔ DurationsInRange x.scale x.offset := by
  rw [check_of_hasOrigin h]
  constructor
  · intro hcheck
    split at hcheck
    · cases hcheck
    · rename_i s hs
      obtain ⟨_, hscale, hoffset⟩ := bind_eq_ok_iff.mp hcheck
      refine ⟨⟨_, by rw [hs]; rfl, DateTimeValue.checkScale_eq_ok_iff.mp hscale⟩, ?_⟩
      intro _ hmem
      obtain ⟨o, ho, rfl⟩ := Option.map_eq_some_iff.mp hmem
      rw [ho] at hoffset
      exact DateTimeValue.checkOffset_eq_ok_iff.mp hoffset
  · rintro ⟨⟨_, hmap, hscale⟩, hoffset⟩
    obtain ⟨s, hs, rfl⟩ := Option.map_eq_some_iff.mp hmap
    rw [hs]
    refine bind_eq_ok_iff.mpr ⟨(), DateTimeValue.checkScale_eq_ok_iff.mpr hscale, ?_⟩
    cases ho : x.offset with
    | none => rfl
    | some o =>
      rw [ho] at hoffset
      exact DateTimeValue.checkOffset_eq_ok_iff.mpr (hoffset _ rfl)

end DateDecayParam

/-! ### Parameters -/

namespace DecayParam

/-- An origin is set. -/
def HasOrigin : DecayParam → Prop
  | ⟨.date, content⟩ => (DateDecayParam.ofMessage content).HasOrigin
  | ⟨.numeric, content⟩ => (NumericDecayParam.ofMessage content).origin ≠ none
  | ⟨.geo, content⟩ => (GeoDecayParam.ofMessage content).origin ≠ none

/-- A scale is set. -/
def HasScale : DecayParam → Prop
  | ⟨.date, content⟩ => (DateDecayParam.ofMessage content).scale ≠ none
  | ⟨.numeric, content⟩ => (NumericDecayParam.ofMessage content).scale ≠ none
  | ⟨.geo, content⟩ => (GeoDecayParam.ofMessage content).scale ≠ none

/-- A scale is set and in range, and so is the offset if it is set. -/
def InRange : DecayParam → Prop
  | ⟨.date, content⟩ =>
    DurationsInRange (DateDecayParam.ofMessage content).scale
      (DateDecayParam.ofMessage content).offset
  | ⟨.numeric, content⟩ =>
    DistancesInRange (NumericDecayParam.ofMessage content).scale
      (NumericDecayParam.ofMessage content).offset
  | ⟨.geo, content⟩ =>
    DistancesInRange (GeoDecayParam.ofMessage content).scale
      (GeoDecayParam.ofMessage content).offset

variable {p : DecayParam} {e : Error}

lemma check_of_not_hasOrigin (h : ¬ p.HasOrigin) :
    p.check = .error (.required [] p.kind.payload.name "origin") := by
  obtain ⟨k, content⟩ := p
  cases k with
  | date => exact DateDecayParam.check_of_not_hasOrigin h
  | numeric =>
    have horigin : (NumericDecayParam.ofMessage content).origin = none := not_ne_iff.mp h
    rw [check, NumericDecayParam.check, horigin]
    rfl
  | geo =>
    have horigin : (GeoDecayParam.ofMessage content).origin = none := not_ne_iff.mp h
    rw [check, GeoDecayParam.check, horigin]
    rfl

/-- With an origin, the check of a number or a point is that of its distances. -/
lemma check_numeric {content : Message (DecayParamKind.payload .numeric)}
    (h : HasOrigin ⟨.numeric, content⟩) : check ⟨.numeric, content⟩ =
      checkDistances .numericDecayParam (NumericDecayParam.ofMessage content).scale
        (NumericDecayParam.ofMessage content).offset := by
  obtain ⟨origin, horigin⟩ := Option.ne_none_iff_exists'.mp h
  rw [check, NumericDecayParam.check, horigin]
  rfl

lemma check_geo {content : Message (DecayParamKind.payload .geo)}
    (h : HasOrigin ⟨.geo, content⟩) : check ⟨.geo, content⟩ =
      checkDistances .geoDecayParam (GeoDecayParam.ofMessage content).scale
        (GeoDecayParam.ofMessage content).offset := by
  obtain ⟨origin, horigin⟩ := Option.ne_none_iff_exists'.mp h
  rw [check, GeoDecayParam.check, horigin]
  rfl

lemma check_of_not_hasScale (h : p.HasOrigin) (hscale : ¬ p.HasScale) :
    p.check = .error (.required [] p.kind.payload.name "scale") := by
  obtain ⟨k, content⟩ := p
  cases k with
  | date =>
    have hnone : (DateDecayParam.ofMessage content).scale = none := not_ne_iff.mp hscale
    rw [check, DateDecayParam.check_of_hasOrigin h, hnone]
    rfl
  | numeric =>
    have hnone : (NumericDecayParam.ofMessage content).scale = none := not_ne_iff.mp hscale
    rw [check_numeric h, hnone]
    rfl
  | geo =>
    have hnone : (GeoDecayParam.ofMessage content).scale = none := not_ne_iff.mp hscale
    rw [check_geo h, hnone]
    rfl

lemma check_eq_ok_iff_inRange (h : p.HasOrigin) : p.check = .ok () ↔ p.InRange := by
  obtain ⟨k, content⟩ := p
  cases k with
  | date => exact DateDecayParam.check_eq_ok_iff h
  | numeric =>
    rw [check_numeric h]
    exact checkDistances_eq_ok_iff
  | geo =>
    rw [check_geo h]
    exact checkDistances_eq_ok_iff

/-- With an origin and a scale, only a conflict is reported. -/
lemma exists_conflict_of_check (h : p.HasOrigin) (hscale : p.HasScale) (he : p.check = .error e) :
    ∃ reason, e = .invalid p.kind.payload.name reason := by
  obtain ⟨k, content⟩ := p
  cases k with
  | date =>
    rcases DateDecayParam.check_eq_error he with ⟨hlong, hstring, _⟩ | ⟨hnone, _⟩ | hreason
    · exact absurd h (not_or.mpr ⟨not_ne_iff.mpr hlong, not_ne_iff.mpr hstring⟩)
    · exact absurd hnone hscale
    · exact hreason
  | numeric =>
    rw [check_numeric h] at he
    rcases checkDistances_eq_error he with ⟨hnone, _⟩ | hreason
    · exact absurd hnone hscale
    · exact hreason
  | geo =>
    rw [check_geo h] at he
    rcases checkDistances_eq_error he with ⟨hnone, _⟩ | hreason
    · exact absurd hnone hscale
    · exact hreason

/-! ### Main result -/

/-- A decay parameter passes its check exactly with an origin, and with a scale and possibly an
offset in range. What is missing is reported as missing, the origin in front of the scale and both
of them in front of anything else; whatever else is wrong is a conflict. -/
theorem check_range (p : DecayParam) :
    (p.check = .ok () ↔ p.HasOrigin ∧ p.InRange) ∧
    (¬ p.HasOrigin → p.check = .error (.required [] p.kind.payload.name "origin")) ∧
    (p.HasOrigin → ¬ p.HasScale →
      p.check = .error (.required [] p.kind.payload.name "scale")) ∧
    (p.HasOrigin → p.HasScale → ¬ p.InRange →
      ∃ reason, p.check = .error (.invalid p.kind.payload.name reason)) := by
  refine ⟨⟨fun hcheck => ?_, fun ⟨horigin, hrange⟩ => (check_eq_ok_iff_inRange horigin).mpr hrange⟩,
    check_of_not_hasOrigin, check_of_not_hasScale, fun horigin hscale hrange => ?_⟩
  · have horigin : p.HasOrigin := by
      by_contra hnone
      rw [check_of_not_hasOrigin hnone] at hcheck
      cases hcheck
    exact ⟨horigin, (check_eq_ok_iff_inRange horigin).mp hcheck⟩
  · cases he : p.check with
    | ok _ => exact absurd ((check_eq_ok_iff_inRange horigin).mp he) hrange
    | error e =>
      obtain ⟨reason, rfl⟩ := exists_conflict_of_check horigin hscale he
      exact ⟨reason, rfl⟩

/-- The least positive scale with a negative zero as offset from a NaN; a negative zero as scale; no
scale; no origin, with a scale that is a NaN; and a week as offset. -/
theorem check_range_zeros :
    let least : NumericDecayParam :=
      { origin := some ⟨0x7ff8000000000001⟩
        scale := some ⟨1⟩
        offset := some ⟨0x8000000000000000⟩ }
    let negativeZero : NumericDecayParam :=
      { origin := some ⟨0⟩
        scale := some ⟨0x8000000000000000⟩ }
    let noScale : GeoDecayParam := { origin := some "0,0" }
    let noOrigin : GeoDecayParam := { scale := some ⟨0x7ff8000000000000⟩ }
    let week : DateDecayParam :=
      { originLong := some 0
        scale := some (DateTimeValue.days 1).toMessage
        offset := some (DateTimeValue.mk 0 .week).toMessage }
    least.toParam.check = .ok () ∧
      (∃ reason, negativeZero.toParam.check = .error (.invalid "DecayFuncNumericParam" reason)) ∧
      noScale.toParam.check = .error (.required [] "DecayFuncGeoParam" "scale") ∧
      noOrigin.toParam.check = .error (.required [] "DecayFuncGeoParam" "origin") ∧
      ∃ reason, week.toParam.check = .error (.invalid "DecayFuncDateParam" reason) := by
  intro least negativeZero noScale noOrigin week
  refine ⟨?_, ?_, ?_, ?_, ?_⟩
  · refine (check_range least.toParam).1.mpr
      ⟨Option.some_ne_none _, ⟨_, rfl, by decide, by decide⟩, ?_⟩
    rintro _ ⟨⟩
    exact .inr rfl
  · refine (check_range negativeZero.toParam).2.2.2 (Option.some_ne_none _)
      (Option.some_ne_none _) ?_
    rintro ⟨⟨_, ⟨⟩, _, hle⟩, _⟩
    exact absurd hle (by decide)
  · exact (check_range noScale.toParam).2.2.1 (Option.some_ne_none _) (not_not_intro rfl)
  · exact (check_range noOrigin.toParam).2.1 (not_not_intro rfl)
  · refine (check_range week.toParam).2.2.2 (.inl (Option.some_ne_none _))
      (Option.some_ne_none _) ?_
    rintro ⟨_, hoffset⟩
    have hweek := (hoffset _ rfl).1
    simp [DateTimeValue.IsFine] at hweek

end DecayParam

end SearchWire
