import ManifestMigration.Proofs.Constraint.Cuts

/-! Union, intersection and complement mean what they say, and whatever is built with them is in
    normal form.

    Every operation ends by normalizing a list of ranges, so its result is normal whatever went in;
    only the complement needs a normal operand, because it walks along the ranges and takes what
    lies between two neighbours for a gap. -/

namespace ManifestMigration

namespace Constraint

/-! ### Unions of arbitrary ranges -/

theorem normal_ofRanges (rs : List VersionRange) : Normal (ofRanges rs).ranges := by
  have hasc := ascending_sortByLower (rs.filter fun r => !r.isEmpty)
  have hne : ∀ r ∈ sortByLower (rs.filter fun r => !r.isEmpty), r.lowerCut < r.upperCut := by
    intro r hr
    have hr := (List.mem_filter.mp (mem_sortByLower.mp hr)).2
    exact VersionRange.isEmpty_eq_false_iff.mp (by simpa using hr)
  rw [ofRanges]
  cases hs : sortByLower (rs.filter fun r => !r.isEmpty) with
  | nil => exact ⟨by simp [join], List.Pairwise.nil⟩
  | cons r rest =>
    rw [hs] at hasc hne
    exact normal_joinFrom hasc hne

/-- Dropping empty ranges, sorting and joining keep the cuts. -/
theorem mem_cuts_ofRanges {rs : List VersionRange} {p : Cut} :
    p ∈ (ofRanges rs).cuts ↔ p ∈ cutsOf rs := by
  have hsort : p ∈ cutsOf (sortByLower (rs.filter fun r => !r.isEmpty)) ↔ p ∈ cutsOf rs := by
    constructor
    · rintro ⟨r, hr, hp⟩
      exact ⟨r, (List.mem_filter.mp (mem_sortByLower.mp hr)).1, hp⟩
    · rintro ⟨r, hr, hp⟩
      refine ⟨r, mem_sortByLower.mpr (List.mem_filter.mpr ⟨hr, ?_⟩), hp⟩
      rw [Bool.not_eq_true', VersionRange.isEmpty_eq_false_iff]
      exact hp.1.trans_lt hp.2
  rw [← hsort, cuts, ofRanges]
  have hasc := ascending_sortByLower (rs.filter fun r => !r.isEmpty)
  cases hs : sortByLower (rs.filter fun r => !r.isEmpty) with
  | nil => rfl
  | cons r rest => exact mem_cutsOf_joinFrom (hs ▸ hasc)

/-- What stretching keeps holds of the joined ranges when it holds of those that are joined. -/
theorem joinFrom_keeps {Keeps : VersionRange → Prop} {t : VersionRange}
    (hstretch : ∀ r s, Keeps r → Keeps s → Keeps (stretch r s)) :
    ∀ {r : VersionRange} {rest : List VersionRange}, (∀ s ∈ r :: rest, Keeps s) →
      t ∈ joinFrom r rest → Keeps t
  | _, [], h, ht => h t ht
  | r, s :: rest, h, ht => by
    obtain ⟨hr, hrest⟩ := List.forall_mem_cons.mp h
    obtain ⟨hs, hmore⟩ := List.forall_mem_cons.mp hrest
    rw [joinFrom] at ht
    split at ht
    · exact joinFrom_keeps hstretch (List.forall_mem_cons.mpr ⟨hstretch r s hr hs, hmore⟩) ht
    · rcases List.mem_cons.mp ht with rfl | ht
      · exact hr
      · exact joinFrom_keeps hstretch hrest ht

theorem ofRanges_keeps {Keeps : VersionRange → Prop} {rs : List VersionRange} {t : VersionRange}
    (hstretch : ∀ r s, Keeps r → Keeps s → Keeps (stretch r s)) (h : ∀ r ∈ rs, Keeps r)
    (ht : t ∈ (ofRanges rs).ranges) : Keeps t := by
  have hsorted : ∀ r ∈ sortByLower (rs.filter fun r => !r.isEmpty), Keeps r := fun r hr =>
    h r (List.mem_filter.mp (mem_sortByLower.mp hr)).1
  rw [ofRanges] at ht
  cases hs : sortByLower (rs.filter fun r => !r.isEmpty) with
  | nil =>
    rw [hs] at ht
    cases ht
  | cons r rest =>
    rw [hs] at ht hsorted
    exact joinFrom_keeps hstretch hsorted ht

theorem mem_cuts_any {p : Cut} : p ∈ any.cuts ↔ p < ⊤ := by
  simp [cuts, any, VersionRange.any, VersionRange.cuts, VersionRange.lowerCut,
    VersionRange.upperCut, Cut.start, Cut.stop]

theorem mem_cuts_ofRange {r : VersionRange} {p : Cut} : p ∈ (ofRange r).cuts ↔ p ∈ r.cuts := by
  rw [ofRange, mem_cuts_ofRanges, mem_cutsOf_cons, or_iff_left mem_cutsOf_nil]

/-! ### The operations -/

theorem mem_cuts_union {c d : Constraint} {p : Cut} :
    p ∈ (c.union d).cuts ↔ p ∈ c.cuts ∨ p ∈ d.cuts := by
  rw [union, mem_cuts_ofRanges, mem_cutsOf_append, cuts, cuts]

theorem mem_cuts_inter {c d : Constraint} {p : Cut} :
    p ∈ (c.inter d).cuts ↔ p ∈ c.cuts ∧ p ∈ d.cuts := by
  rw [inter, mem_cuts_ofRanges]
  constructor
  · rintro ⟨t, ht, hp⟩
    obtain ⟨r, hr, ht⟩ := List.mem_flatMap.mp ht
    obtain ⟨s, hs, ht⟩ := List.mem_filterMap.mp ht
    obtain ⟨hpr, hps⟩ := VersionRange.exists_inter?_iff.mp ⟨t, ht, hp⟩
    exact ⟨⟨r, hr, hpr⟩, ⟨s, hs, hps⟩⟩
  · rintro ⟨⟨r, hr, hpr⟩, ⟨s, hs, hps⟩⟩
    obtain ⟨t, ht, hp⟩ := VersionRange.exists_inter?_iff.mpr ⟨hpr, hps⟩
    exact ⟨t, List.mem_flatMap.mpr ⟨r, hr, List.mem_filterMap.mpr ⟨s, hs, ht⟩⟩, hp⟩

/-- The cut at which a gap starts. -/
def GapStart.cut (start : GapStart) : Cut :=
  .start (start.map (·.1)) ((start.map (·.2)).getD false)

/-- The gap after a range starts where the range ends. -/
theorem cut_gapStart (high : Version) (closed : Bool) :
    GapStart.cut (some (high, !closed)) = Cut.stop (some high) closed := by
  simp [GapStart.cut, Cut.start, Cut.stop]

theorem mem_cutsOf_gapBefore {start : GapStart} {r : VersionRange} {p : Cut} :
    p ∈ cutsOf (gapBefore start r) ↔ start.cut ≤ p ∧ p < r.lowerCut := by
  obtain ⟨lower, _, closed, _⟩ := r
  cases lower with
  | none => simp [gapBefore, VersionRange.lowerCut, Cut.start]
  | some low =>
    rw [gapBefore, mem_cutsOf_cons, or_iff_left mem_cutsOf_nil]
    rfl

/-- The gaps cover what the ranges do not, from the start of the first gap on. -/
theorem mem_cutsOf_gapsFrom {p : Cut} : ∀ {start : GapStart} {rs : List VersionRange}, Normal rs →
    (∀ r ∈ rs, start.cut ≤ r.lowerCut) →
    (p ∈ cutsOf (gapsFrom start rs) ↔ start.cut ≤ p ∧ p < ⊤ ∧ p ∉ cutsOf rs)
  | start, [], _, _ => by
    rw [gapsFrom, mem_cutsOf_cons, or_iff_left mem_cutsOf_nil, iff_true_intro mem_cutsOf_nil,
      and_true]
    rfl
  | start, r :: rest, hn, hstart => by
    have hlow := hstart r (List.mem_cons_self ..)
    have hlt := hn.inhabited r (List.mem_cons_self ..)
    rw [gapsFrom, mem_cutsOf_cons, VersionRange.cuts, Set.mem_Ico]
    cases hup : r.upper with
    | none =>
      -- an unbounded range is the last one, so the gap before it is the only one left
      have htop : r.upperCut = ⊤ := by rw [VersionRange.upperCut, hup]; rfl
      have hrest : p ∉ cutsOf rest := fun hp => not_top_lt (htop ▸ hn.lt_of_mem hp)
      rw [mem_cutsOf_gapBefore, htop, or_iff_left hrest]
      constructor
      · rintro ⟨hsp, hpl⟩
        exact ⟨hsp, hpl.trans_le le_top, fun h => h.1.not_gt hpl⟩
      · rintro ⟨hsp, hpt, h⟩
        exact ⟨hsp, not_le.mp fun hle => h ⟨hle, hpt⟩⟩
    | some high =>
      have hcut : GapStart.cut (some (high, !r.closedUpper)) = r.upperCut := by
        rw [cut_gapStart, VersionRange.upperCut, hup]
      have hnext : p ∈ cutsOf (gapsFrom (some (high, !r.closedUpper)) rest) ↔ _ :=
        mem_cutsOf_gapsFrom hn.tail fun s hs =>
          hcut ▸ ((List.pairwise_cons.mp hn.apart).1 s hs).le
      rw [mem_cutsOf_append, mem_cutsOf_gapBefore, hnext, hcut]
      constructor
      · rintro (⟨hsp, hpl⟩ | ⟨hrp, hpt, hp⟩)
        · refine ⟨hsp, hpl.trans_le le_top, ?_⟩
          rintro (hp | hp)
          · exact hp.1.not_gt hpl
          · exact (hn.lt_of_mem hp).not_gt (hpl.trans hlt)
        · refine ⟨hlow.trans (hlt.le.trans hrp), hpt, ?_⟩
          rintro (hp' | hp')
          · exact hrp.not_gt hp'.2
          · exact hp hp'
      · rintro ⟨hsp, hpt, hp⟩
        rcases lt_or_ge p r.lowerCut with hpl | hpl
        · exact .inl ⟨hsp, hpl⟩
        · exact .inr ⟨not_lt.mp fun hpr => hp (.inl ⟨hpl, hpr⟩), hpt, fun h => hp (.inr h)⟩

theorem mem_cuts_complement {c : Constraint} (hc : Normal c.ranges) {p : Cut} :
    p ∈ c.complement.cuts ↔ p < ⊤ ∧ p ∉ c.cuts := by
  rw [complement, mem_cuts_ofRanges, mem_cutsOf_gapsFrom hc fun _ _ => bot_le, cuts]
  exact and_iff_right bot_le

theorem mem_cuts_complement_ofRange {r : VersionRange} {p : Cut} :
    p ∈ (ofRange r).complement.cuts ↔ p < ⊤ ∧ p ∉ r.cuts := by
  have hnormal : Normal (ofRange r).ranges := normal_ofRanges [r]
  rw [mem_cuts_complement hnormal, mem_cuts_ofRange]

/-! ### Constraints built with the operations -/

/-- What unions, intersections and complements make out of the constraints of a class. -/
inductive Combination (base : Constraint → Prop) : Constraint → Prop where
  | base {c : Constraint} (hc : base c) : Combination base c
  | union {c d : Constraint} (hc : Combination base c) (hd : Combination base d) :
    Combination base (c.union d)
  | inter {c d : Constraint} (hc : Combination base c) (hd : Combination base d) :
    Combination base (c.inter d)
  | complement {c : Constraint} (hc : Combination base c) : Combination base c.complement

theorem Combination.normal {base : Constraint → Prop} (hbase : ∀ c, base c → Normal c.ranges) :
    ∀ {c : Constraint}, Combination base c → Normal c.ranges
  | _, .base hc => hbase _ hc
  | _, .union _ _ => normal_ofRanges _
  | _, .inter _ _ => normal_ofRanges _
  | _, .complement _ => normal_ofRanges _

/-- The constraints that need no operand: everything, nothing, and any union of ranges. -/
inductive Elementary : Constraint → Prop where
  | any : Elementary any
  | empty : Elementary empty
  | ofRanges (rs : List VersionRange) : Elementary (ofRanges rs)

theorem normal_any : Normal any.ranges :=
  ⟨by simp [any, VersionRange.any, VersionRange.lowerCut, VersionRange.upperCut, Cut.start,
    Cut.stop], List.pairwise_singleton _ _⟩

theorem normal_empty : Normal empty.ranges := ⟨by simp [empty], List.Pairwise.nil⟩

theorem Elementary.normal {c : Constraint} : Elementary c → Normal c.ranges
  | .any => normal_any
  | .empty => normal_empty
  | .ofRanges rs => normal_ofRanges rs

/-- A union of ranges allows the versions of its ranges, and the operations are those of sets. -/
theorem mem_operations :
    (∀ (rs : List VersionRange) (v : Version), v ∈ ofRanges rs ↔ ∃ r ∈ rs, v ∈ r) ∧
    ∀ c d : Constraint, Combination Elementary c → Combination Elementary d → ∀ v : Version,
      (v ∈ c.union d ↔ v ∈ c ∨ v ∈ d) ∧ (v ∈ c.inter d ↔ v ∈ c ∧ v ∈ d) ∧
        (v ∈ c.complement ↔ v ∉ c) := by
  refine ⟨fun rs v => ?_, fun c d hc _ v => ⟨?_, ?_, ?_⟩⟩
  · rw [mem_iff, mem_cuts_ofRanges]
    exact exists_congr fun r => and_congr_right fun _ => VersionRange.mem_iff.symm
  · simp only [mem_iff, mem_cuts_union]
  · simp only [mem_iff, mem_cuts_inter]
  · simp only [mem_iff, mem_cuts_complement (hc.normal fun _ => Elementary.normal)]
    exact and_iff_right Cut.of_lt_top

theorem mem_operations_of_excluded :
    let c := (ofRanges [.exact (.final 1 [5]), .below (.final 0 [3]) true]).complement
    Combination Elementary c ∧ Combination Elementary any ∧
      (Version.final 1 [5] ∈ c.union any ↔ Version.final 1 [5] ∈ c ∨ Version.final 1 [5] ∈ any) ∧
      (Version.final 1 [5] ∈ c.complement ↔ Version.final 1 [5] ∉ c) := by
  intro c
  have hc : Combination Elementary c := .complement (.base (.ofRanges _))
  have hany : Combination Elementary any := .base .any
  obtain ⟨hunion, _, hcomplement⟩ := mem_operations.2 c any hc hany (.final 1 [5])
  exact ⟨hc, hany, hunion, hcomplement⟩

/-- Whatever is built has no empty range, and between two consecutive ranges a gap: the first ends
    below the start of the second, or where it starts with that version in neither. So only the
    first range may lack a lower bound, and only the last an upper bound. -/
theorem ranges_apart (c : Constraint) (hc : Combination Elementary c) :
    (∀ r ∈ c.ranges, r.isEmpty = false) ∧
    (∀ i low high, c.ranges[i]? = some low → c.ranges[i + 1]? = some high →
      ∃ stop start, low.upper = some stop ∧ high.lower = some start ∧
        (stop.compare start = .lt ∨
          stop.compare start = .eq ∧ low.closedUpper = false ∧ high.closedLower = false)) ∧
    ∀ i r, c.ranges[i]? = some r →
      (r.lower = none → i = 0) ∧ (r.upper = none → i + 1 = c.ranges.length) := by
  have hn := hc.normal fun _ => Elementary.normal
  have hgap : ∀ i low high, c.ranges[i]? = some low → c.ranges[i + 1]? = some high →
      low.upperCut < high.lowerCut := by
    intro i low high hlow hhigh
    obtain ⟨hi, rfl⟩ := List.getElem?_eq_some_iff.mp hlow
    obtain ⟨hj, rfl⟩ := List.getElem?_eq_some_iff.mp hhigh
    exact List.pairwise_iff_getElem.mp hn.apart i (i + 1) hi hj (Nat.lt_succ_self i)
  refine ⟨fun r hr => VersionRange.isEmpty_eq_false_iff.mpr (hn.inhabited r hr),
    fun i low high hlow hhigh => ?_, fun i r hr => ⟨fun hlower => ?_, fun hupper => ?_⟩⟩
  · exact VersionRange.upperCut_lt_lowerCut_iff.mp (hgap i low high hlow hhigh)
  · cases i with
    | zero => rfl
    | succ j =>
      -- the range before it would have to end below every version
      obtain ⟨hj, hr'⟩ := List.getElem?_eq_some_iff.mp hr
      have hlt := hgap j _ r (List.getElem?_eq_getElem (Nat.lt_of_succ_lt hj)) hr
      rw [VersionRange.lowerCut, hlower] at hlt
      exact absurd hlt not_lt_bot
  · obtain ⟨hi, hr'⟩ := List.getElem?_eq_some_iff.mp hr
    by_contra hne
    have hj : i + 1 < c.ranges.length := by omega
    have hlt := hgap i r _ hr (List.getElem?_eq_getElem hj)
    rw [VersionRange.upperCut, hupper] at hlt
    exact absurd hlt not_top_lt

theorem ranges_apart_of_touching :
    let low : VersionRange := .below (.final 1 [5]) false
    let high : VersionRange := .above (.final 1 [5, 0]) false
    let c := (ofRanges [⟨none, none, true, true⟩, .halfOpen (.final 2 []) (.final 1 [])]).complement
    let d := (ofRanges [high, low]).union c
    Combination Elementary d ∧ d.ranges = [low, high] ∧ (∀ r ∈ d.ranges, r.isEmpty = false) ∧
      ∃ stop start, low.upper = some stop ∧ high.lower = some start ∧
        (stop.compare start = .lt ∨
          stop.compare start = .eq ∧ low.closedUpper = false ∧ high.closedLower = false) := by
  intro low high c d
  have hd : Combination Elementary d :=
    .union (.base (.ofRanges _)) (.complement (.base (.ofRanges _)))
  have hranges : d.ranges = [low, high] := by decide +kernel
  obtain ⟨hempty, hgap, -⟩ := ranges_apart d hd
  exact ⟨hd, hranges, hempty, hgap 0 low high (by rw [hranges]; rfl) (by rw [hranges]; rfl)⟩

end Constraint

end ManifestMigration
