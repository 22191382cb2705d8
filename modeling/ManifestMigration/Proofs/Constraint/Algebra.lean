import ManifestMigration.Proofs.Constraint.Operations
import Mathlib.Data.List.Forall2

/-! Constraints form a Boolean algebra under their own equality.

    A normal list of ranges is known from the cuts it covers: the first range starts at the least of
    them and ends at the first cut that is missing. An absent bound has a flag without a meaning, and
    when every such flag is unset two ranges with the same ends are equal. So two constraints are
    equal as soon as they cover the same cuts, and the laws are those of sets. -/

namespace ManifestMigration

/-- The flag of an absent bound is not set. -/
structure VersionRange.Unmarked (r : VersionRange) : Prop where
  lower : r.lower = none → r.closedLower = false
  upper : r.upper = none → r.closedUpper = false

namespace VersionRange

theorem sameBound_iff_start {v w : Option Version} {a b : Bool} (ha : v = none → a = false)
    (hb : w = none → b = false) :
    sameBound v w = true ∧ a = b ↔ Cut.start v a = Cut.start w b := by
  cases v with
  | none => cases w <;> simp_all [sameBound, Cut.start, Cut.of_ne_bot.symm]
  | some v =>
    cases w with
    | none => simp [sameBound, Cut.start]
    | some w => cases a <;> cases b <;> simp [sameBound, Version.same_iff, Cut.start, Cut.of]

theorem sameBound_iff_stop {v w : Option Version} {a b : Bool} (ha : v = none → a = false)
    (hb : w = none → b = false) :
    sameBound v w = true ∧ a = b ↔ Cut.stop v a = Cut.stop w b := by
  cases v with
  | none => cases w <;> simp_all [sameBound, Cut.stop, Cut.of_ne_top.symm]
  | some v =>
    cases w with
    | none => simp [sameBound, Cut.stop]
    | some w => cases a <;> cases b <;> simp [sameBound, Version.same_iff, Cut.stop, Cut.of]

/-- Unmarked ranges are equal when they have the same ends. -/
theorem same_iff {r s : VersionRange} (hr : r.Unmarked) (hs : s.Unmarked) :
    r.same s = true ↔ r.lowerCut = s.lowerCut ∧ r.upperCut = s.upperCut := by
  rw [lowerCut, lowerCut, upperCut, upperCut, ← sameBound_iff_start hr.lower hs.lower,
    ← sameBound_iff_stop hr.upper hs.upper]
  simp only [same, Bool.and_eq_true, beq_iff_eq]
  rw [and_and_and_comm, and_assoc (a := _ ∧ _)]

end VersionRange

/-! ### A normal list is known from its cuts -/

/-- A normal list starts with the least of its cuts. -/
theorem Normal.lowerCut_le {r : VersionRange} {rs : List VersionRange} (h : Normal (r :: rs))
    {p : Cut} (hp : p ∈ cutsOf (r :: rs)) : r.lowerCut ≤ p := by
  rcases mem_cutsOf_cons.mp hp with hp | hp
  · exact hp.1
  · exact ((h.inhabited r (List.mem_cons_self ..)).trans (h.lt_of_mem hp)).le

/-- The cut at which the first range ends is missing. -/
theorem Normal.upperCut_notMem {r : VersionRange} {rs : List VersionRange}
    (h : Normal (r :: rs)) : r.upperCut ∉ cutsOf (r :: rs) := by
  rw [mem_cutsOf_cons, not_or]
  exact ⟨fun hr => lt_irrefl _ hr.2, fun hrs => lt_irrefl _ (h.lt_of_mem hrs)⟩

theorem Normal.lowerCut_mem {r : VersionRange} {rs : List VersionRange} (h : Normal (r :: rs)) :
    r.lowerCut ∈ cutsOf (r :: rs) :=
  mem_cutsOf_cons.mpr (.inl ⟨le_rfl, h.inhabited r (List.mem_cons_self ..)⟩)

/-- What the ranges after the first one cover. -/
theorem Normal.mem_tail_iff {r : VersionRange} {rs : List VersionRange} (h : Normal (r :: rs))
    {p : Cut} : p ∈ cutsOf rs ↔ p ∈ cutsOf (r :: rs) ∧ r.upperCut ≤ p := by
  constructor
  · exact fun hp => ⟨mem_cutsOf_cons.mpr (.inr hp), (h.lt_of_mem hp).le⟩
  · rintro ⟨hp, hle⟩
    exact (mem_cutsOf_cons.mp hp).resolve_left fun hr => hr.2.not_ge hle

/-- If the first ranges start together, the first of them to end shows that both end there. -/
theorem Normal.upperCut_le {r s : VersionRange} {rs ss : List VersionRange}
    (hr : Normal (r :: rs)) (hcuts : cutsOf (r :: rs) = cutsOf (s :: ss))
    (hstart : r.lowerCut = s.lowerCut) : s.upperCut ≤ r.upperCut := by
  by_contra hlt
  have hin : r.upperCut ∈ s.cuts :=
    ⟨hstart ▸ (hr.inhabited r (List.mem_cons_self ..)).le, not_le.mp hlt⟩
  exact hr.upperCut_notMem (hcuts ▸ mem_cutsOf_cons.mpr (.inl hin))

/-- Normal lists that cover the same cuts have ranges with the same ends. -/
theorem Normal.ends_eq : ∀ {rs ss : List VersionRange}, Normal rs → Normal ss →
    cutsOf rs = cutsOf ss →
      List.Forall₂ (fun r s => r.lowerCut = s.lowerCut ∧ r.upperCut = s.upperCut) rs ss
  | [], [], _, _, _ => .nil
  | [], s :: ss, _, hs, hcuts => absurd (hcuts ▸ hs.lowerCut_mem) mem_cutsOf_nil
  | r :: rs, [], hr, _, hcuts => absurd (hcuts ▸ hr.lowerCut_mem) mem_cutsOf_nil
  | r :: rs, s :: ss, hr, hs, hcuts => by
    have hstart : r.lowerCut = s.lowerCut :=
      le_antisymm (hr.lowerCut_le (hcuts ▸ hs.lowerCut_mem))
        (hs.lowerCut_le (hcuts ▸ hr.lowerCut_mem))
    have hstop : r.upperCut = s.upperCut :=
      le_antisymm (hs.upperCut_le hcuts.symm hstart.symm) (hr.upperCut_le hcuts hstart)
    refine .cons ⟨hstart, hstop⟩ (ends_eq hr.tail hs.tail (Set.ext fun p => ?_))
    rw [hr.mem_tail_iff, hs.mem_tail_iff, hcuts, hstop]

namespace Constraint

/-- No range of the constraint has the flag of an absent bound set. -/
def Unmarked (c : Constraint) : Prop := ∀ r ∈ c.ranges, r.Unmarked

theorem same_iff_forall₂ {c d : Constraint} :
    c.same d = true ↔ List.Forall₂ (fun r s => r.same s = true) c.ranges d.ranges := by
  rw [List.forall₂_iff_zip, same, Bool.and_eq_true, beq_iff_eq, List.all_eq_true]
  simp only [Prod.forall]

/-- Constraints are equal when they cover the same cuts. -/
theorem same_of_cuts_eq {c d : Constraint} (hc : Normal c.ranges) (hd : Normal d.ranges)
    (huc : c.Unmarked) (hud : d.Unmarked) (h : ∀ p, p ∈ c.cuts ↔ p ∈ d.cuts) :
    c.same d = true := by
  rw [same_iff_forall₂, List.forall₂_iff_get]
  obtain ⟨hlength, hends⟩ := List.forall₂_iff_get.mp (hc.ends_eq hd (Set.ext h))
  refine ⟨hlength, fun i hi hj => ?_⟩
  exact (VersionRange.same_iff (huc _ (List.get_mem ..)) (hud _ (List.get_mem ..))).mpr
    (hends i hi hj)

/-! ### Flags under the operations -/

theorem unmarked_stretch {r s : VersionRange} (hr : r.Unmarked) (hs : s.Unmarked) :
    (stretch r s).Unmarked := by
  rw [stretch]
  split
  · exact ⟨hr.lower, hs.upper⟩
  · exact hr

theorem unmarked_ofRanges {rs : List VersionRange} (h : ∀ r ∈ rs, r.Unmarked) :
    (ofRanges rs).Unmarked :=
  fun _ ht => ofRanges_keeps (fun _ _ => unmarked_stretch) h ht

theorem unmarked_union {c d : Constraint} (hc : c.Unmarked) (hd : d.Unmarked) :
    (c.union d).Unmarked :=
  unmarked_ofRanges (List.forall_mem_append.mpr ⟨hc, hd⟩)

/-- A bound that both ranges lack is never marked, one that a range has comes with its own flag. -/
theorem unmarked_inter? {r s t : VersionRange} (h : r.inter? s = some t) : t.Unmarked := by
  obtain ⟨lower, upper, closedLower, closedUpper⟩ := r
  obtain ⟨lower', upper', closedLower', closedUpper'⟩ := s
  simp only [VersionRange.inter?] at h
  split at h
  case isTrue => cases h
  case isFalse =>
    cases h
    constructor
    · cases lower <;> cases lower' <;> simp [VersionRange.higherLower]
      split <;> simp
    · cases upper <;> cases upper' <;> simp [VersionRange.lowerUpper]
      split <;> simp

theorem unmarked_inter (c d : Constraint) : (c.inter d).Unmarked := by
  refine unmarked_ofRanges fun t ht => ?_
  obtain ⟨r, _, ht⟩ := List.mem_flatMap.mp ht
  obtain ⟨s, _, ht⟩ := List.mem_filterMap.mp ht
  exact unmarked_inter? ht

theorem unmarked_gapTo_some (start : GapStart) (low : Version) (closed : Bool) :
    (gapTo start (some low) closed).Unmarked := by
  cases start <;> exact ⟨by simp [gapTo], by simp [gapTo]⟩

theorem unmarked_gapTo_none (start : GapStart) : (gapTo start none false).Unmarked := by
  cases start <;> exact ⟨by simp [gapTo], by simp [gapTo]⟩

theorem unmarked_gapBefore {start : GapStart} {r t : VersionRange} (ht : t ∈ gapBefore start r) :
    t.Unmarked := by
  rw [gapBefore] at ht
  split at ht
  · rw [List.mem_singleton.mp ht]
    exact unmarked_gapTo_some ..
  · cases ht

theorem unmarked_gapsFrom {t : VersionRange} : ∀ {start : GapStart} {rs : List VersionRange},
    t ∈ gapsFrom start rs → t.Unmarked
  | start, [], ht => by
    rw [List.mem_singleton.mp ht]
    exact unmarked_gapTo_none start
  | start, r :: rest, ht => by
    rw [gapsFrom] at ht
    split at ht
    · rcases List.mem_append.mp ht with ht | ht
      · exact unmarked_gapBefore ht
      · exact unmarked_gapsFrom ht
    · exact unmarked_gapBefore ht

theorem unmarked_complement (c : Constraint) : c.complement.Unmarked :=
  unmarked_ofRanges fun _ ht => unmarked_gapsFrom ht

theorem Combination.unmarked {base : Constraint → Prop} (hbase : ∀ c, base c → c.Unmarked) :
    ∀ {c : Constraint}, Combination base c → c.Unmarked
  | _, .base hc => hbase _ hc
  | _, .union hc hd => unmarked_union (hc.unmarked hbase) (hd.unmarked hbase)
  | _, .inter _ _ => unmarked_inter _ _
  | _, .complement _ => unmarked_complement _

/-! ### The laws -/

/-- The constraints that need no operand: everything, nothing, and any union of unmarked ranges. -/
inductive Plain : Constraint → Prop where
  | any : Plain any
  | empty : Plain empty
  | ofRanges {rs : List VersionRange} (h : ∀ r ∈ rs, r.Unmarked) : Plain (ofRanges rs)

theorem unmarked_any : any.Unmarked := List.forall_mem_singleton.mpr ⟨fun _ => rfl, fun _ => rfl⟩

theorem unmarked_empty : empty.Unmarked := fun _ hr => by cases hr

theorem Plain.unmarked {c : Constraint} : Plain c → c.Unmarked
  | .any => unmarked_any
  | .empty => unmarked_empty
  | .ofRanges h => unmarked_ofRanges h

theorem Plain.normal {c : Constraint} : Plain c → Normal c.ranges
  | .any => normal_any
  | .empty => normal_empty
  | .ofRanges _ => normal_ofRanges _

theorem mem_cuts_empty {p : Cut} : p ∉ empty.cuts := mem_cutsOf_nil

variable {c d e : Constraint}

/-- Combinations are equal when they cover the same cuts. -/
theorem Combination.same_of_cuts (hc : Combination Plain c) (hd : Combination Plain d)
    (h : ∀ p, p ∈ c.cuts ↔ p ∈ d.cuts) : c.same d = true :=
  same_of_cuts_eq (hc.normal fun _ => Plain.normal) (hd.normal fun _ => Plain.normal)
    (hc.unmarked fun _ => Plain.unmarked) (hd.unmarked fun _ => Plain.unmarked) h

theorem Combination.mem_complement (hc : Combination Plain c) {p : Cut} :
    p ∈ c.complement.cuts ↔ p < ⊤ ∧ p ∉ c.cuts :=
  mem_cuts_complement (hc.normal fun _ => Plain.normal)

/-- No constraint covers the cut above all versions. -/
theorem lt_top_of_mem_cuts {p : Cut} (hp : p ∈ c.cuts) : p < ⊤ := by
  obtain ⟨r, _, hp⟩ := hp
  exact hp.2.trans_le le_top

section Laws

variable (hc : Combination Plain c) (hd : Combination Plain d) (he : Combination Plain e)
include hc

theorem same_idem : (c.union c).same c = true ∧ (c.inter c).same c = true := by
  refine ⟨(hc.union hc).same_of_cuts hc fun p => ?_, (hc.inter hc).same_of_cuts hc fun p => ?_⟩
  · rw [mem_cuts_union, or_self]
  · rw [mem_cuts_inter, and_self]

theorem same_complement_complement : c.complement.complement.same c = true := by
  refine hc.complement.complement.same_of_cuts hc fun p => ?_
  rw [hc.complement.mem_complement, hc.mem_complement, not_and, not_not]
  exact ⟨fun h => h.2 h.1, fun hp => ⟨lt_top_of_mem_cuts hp, fun _ => hp⟩⟩

/-- A constraint and its complement divide the versions among them. -/
theorem same_complement :
    (c.union c.complement).same any = true ∧ (c.inter c.complement).same empty = true := by
  refine ⟨(hc.union hc.complement).same_of_cuts (.base .any) fun p => ?_,
    (hc.inter hc.complement).same_of_cuts (.base .empty) fun p => ?_⟩
  · rw [mem_cuts_union, hc.mem_complement, mem_cuts_any]
    constructor
    · rintro (hp | ⟨hp, _⟩)
      · exact lt_top_of_mem_cuts hp
      · exact hp
    · intro hp
      by_cases hin : p ∈ c.cuts
      · exact .inl hin
      · exact .inr ⟨hp, hin⟩
  · rw [mem_cuts_inter, hc.mem_complement, iff_false_right mem_cuts_empty]
    exact fun ⟨hin, _, hout⟩ => hout hin

include hd

theorem same_comm : (c.union d).same (d.union c) = true ∧ (c.inter d).same (d.inter c) = true := by
  refine ⟨(hc.union hd).same_of_cuts (hd.union hc) fun p => ?_,
    (hc.inter hd).same_of_cuts (hd.inter hc) fun p => ?_⟩
  · rw [mem_cuts_union, mem_cuts_union, or_comm]
  · rw [mem_cuts_inter, mem_cuts_inter, and_comm]

theorem same_absorb :
    (c.union (c.inter d)).same c = true ∧ (c.inter (c.union d)).same c = true := by
  refine ⟨(hc.union (hc.inter hd)).same_of_cuts hc fun p => ?_,
    (hc.inter (hc.union hd)).same_of_cuts hc fun p => ?_⟩
  · rw [mem_cuts_union, mem_cuts_inter, or_iff_left_of_imp And.left]
  · rw [mem_cuts_inter, mem_cuts_union, and_iff_left_of_imp Or.inl]

theorem same_de_morgan :
    (c.union d).complement.same (c.complement.inter d.complement) = true ∧
      (c.inter d).complement.same (c.complement.union d.complement) = true := by
  refine ⟨(hc.union hd).complement.same_of_cuts (hc.complement.inter hd.complement) fun p => ?_,
    (hc.inter hd).complement.same_of_cuts (hc.complement.union hd.complement) fun p => ?_⟩
  · rw [(hc.union hd).mem_complement, mem_cuts_union, mem_cuts_inter, hc.mem_complement,
      hd.mem_complement, not_or, and_and_left]
  · rw [(hc.inter hd).mem_complement, mem_cuts_inter, mem_cuts_union, hc.mem_complement,
      hd.mem_complement, not_and_or, and_or_left]

include he

theorem same_assoc : ((c.union d).union e).same (c.union (d.union e)) = true ∧
    ((c.inter d).inter e).same (c.inter (d.inter e)) = true := by
  refine ⟨((hc.union hd).union he).same_of_cuts (hc.union (hd.union he)) fun p => ?_,
    ((hc.inter hd).inter he).same_of_cuts (hc.inter (hd.inter he)) fun p => ?_⟩
  · simp only [mem_cuts_union, or_assoc]
  · simp only [mem_cuts_inter, and_assoc]

theorem same_distrib :
    (c.union (d.inter e)).same ((c.union d).inter (c.union e)) = true ∧
      (c.inter (d.union e)).same ((c.inter d).union (c.inter e)) = true := by
  refine ⟨(hc.union (hd.inter he)).same_of_cuts ((hc.union hd).inter (hc.union he)) fun p => ?_,
    (hc.inter (hd.union he)).same_of_cuts ((hc.inter hd).union (hc.inter he)) fun p => ?_⟩
  · simp only [mem_cuts_union, mem_cuts_inter, or_and_left]
  · simp only [mem_cuts_union, mem_cuts_inter, and_or_left]

end Laws

/-- The order of ranges, and whether some of them are repeated, has no effect on their union. -/
theorem same_ofRanges {rs ss : List VersionRange} (hrs : ∀ r ∈ rs, r.Unmarked)
    (h : ∀ r, r ∈ rs ↔ r ∈ ss) : (ofRanges rs).same (ofRanges ss) = true := by
  have hss : ∀ r ∈ ss, r.Unmarked := fun r hr => hrs r ((h r).mpr hr)
  have hc : Combination Plain (ofRanges rs) := .base (.ofRanges hrs)
  have hd : Combination Plain (ofRanges ss) := .base (.ofRanges hss)
  refine hc.same_of_cuts hd fun p => ?_
  rw [mem_cuts_ofRanges, mem_cuts_ofRanges]
  exact exists_congr fun r => and_congr_left fun _ => h r

/-- The operations obey the laws of a Boolean algebra, by the equality of constraints and not only
    in what they allow, and a union of ranges does not depend on how its ranges are listed. -/
theorem boolean_algebra :
    (∀ c d e : Constraint, Combination Plain c → Combination Plain d → Combination Plain e →
      ((c.union d).same (d.union c) = true ∧ (c.inter d).same (d.inter c) = true) ∧
      (((c.union d).union e).same (c.union (d.union e)) = true ∧
        ((c.inter d).inter e).same (c.inter (d.inter e)) = true) ∧
      ((c.union c).same c = true ∧ (c.inter c).same c = true) ∧
      ((c.union (c.inter d)).same c = true ∧ (c.inter (c.union d)).same c = true) ∧
      ((c.union (d.inter e)).same ((c.union d).inter (c.union e)) = true ∧
        (c.inter (d.union e)).same ((c.inter d).union (c.inter e)) = true) ∧
      c.complement.complement.same c = true ∧
      ((c.union c.complement).same any = true ∧ (c.inter c.complement).same empty = true) ∧
      ((c.union d).complement.same (c.complement.inter d.complement) = true ∧
        (c.inter d).complement.same (c.complement.union d.complement) = true)) ∧
    ∀ rs ss : List VersionRange, (∀ r ∈ rs, r.Unmarked) → (∀ r, r ∈ rs ↔ r ∈ ss) →
      (ofRanges rs).same (ofRanges ss) = true := by
  refine ⟨fun c d e hc hd he => ?_, fun rs ss => same_ofRanges⟩
  exact ⟨same_comm hc hd, same_assoc hc hd he, same_idem hc, same_absorb hc hd,
    same_distrib hc hd he, same_complement_complement hc, same_complement hc,
    same_de_morgan hc hd⟩

theorem boolean_algebra_of_touching :
    let low : VersionRange := .below (.final 1 [5]) false
    let high : VersionRange := .above (.final 1 [5, 0]) true
    let c := ofRanges [low, high]
    let d := (ofRange (.exact (.final 1 [5]))).complement
    Combination Plain c ∧ Combination Plain d ∧ (∀ r ∈ [low, high], r.Unmarked) ∧
      (c.union d).same (d.union c) = true ∧ (c.inter d).same (d.inter c) = true ∧
      d.complement.complement.same d = true ∧
      (ofRanges [low, high]).same (ofRanges [high, low, high]) = true := by
  intro low high c d
  have hlow : low.Unmarked := ⟨fun _ => rfl, fun h => by cases h⟩
  have hhigh : high.Unmarked := ⟨fun h => (by cases h), fun _ => rfl⟩
  have hexact : (VersionRange.exact (.final 1 [5])).Unmarked :=
    ⟨fun h => (by cases h), fun h => (by cases h)⟩
  have hrs : ∀ r ∈ [low, high], r.Unmarked :=
    List.forall_mem_cons.mpr ⟨hlow, List.forall_mem_singleton.mpr hhigh⟩
  have hc : Combination Plain c := .base (.ofRanges hrs)
  have hd : Combination Plain d :=
    .complement (.base (.ofRanges (List.forall_mem_singleton.mpr hexact)))
  obtain ⟨laws, listing⟩ := boolean_algebra
  obtain ⟨⟨hunion, hinter⟩, -⟩ := laws c d c hc hd hc
  obtain ⟨-, -, -, -, -, hcomplement, -⟩ := laws d c c hd hc hc
  have hsame : ∀ r, r ∈ [low, high] ↔ r ∈ [high, low, high] := fun r => by
    simp only [List.mem_cons, List.not_mem_nil, or_false]
    exact ⟨.inr, fun h => h.elim .inr id⟩
  exact ⟨hc, hd, hrs, hunion, hinter, hcomplement, listing _ _ hrs hsame⟩

end Constraint

end ManifestMigration
