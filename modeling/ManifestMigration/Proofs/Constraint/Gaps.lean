import ManifestMigration.Constraint.Specifier
import ManifestMigration.Proofs.Constraint.Cuts

/-! The range around a constraint and the gaps in it.

    A cut inside the range around a list of ranges lies in one of them or in a gap between two
    neighbours, and when the list is normal it does not lie in both. -/

namespace ManifestMigration

/-- The ranges follow each other in the list. -/
def Neighbours (rs : List VersionRange) (low high : VersionRange) : Prop := [low, high] <:+: rs

theorem neighbours_cons_cons {r s low high : VersionRange} {rest : List VersionRange} :
    Neighbours (r :: s :: rest) low high ↔
      low = r ∧ high = s ∨ Neighbours (s :: rest) low high := by
  rw [Neighbours, List.infix_cons_iff, List.cons_prefix_cons, List.cons_prefix_cons, Neighbours]
  simp

theorem not_neighbours_singleton {r low high : VersionRange} : ¬ Neighbours [r] low high :=
  fun h => absurd h.length_le (by simp)

theorem Neighbours.mem {rs : List VersionRange} {low high : VersionRange}
    (h : Neighbours rs low high) : low ∈ rs ∧ high ∈ rs :=
  ⟨h.subset (by simp), h.subset (by simp)⟩

theorem not_neighbours_nil {low high : VersionRange} : ¬ Neighbours [] low high :=
  fun h => absurd h.length_le (by simp)

/-- Between two neighbours of a normal list there is a gap. -/
theorem Normal.upperCut_lt_lowerCut {rs : List VersionRange} {low high : VersionRange}
    (hn : Normal rs) (h : Neighbours rs low high) : low.upperCut < high.lowerCut :=
  (List.pairwise_cons.mp (hn.apart.sublist h.sublist)).1 high (List.mem_singleton_self high)

/-- Nothing lies in the gap between two neighbours of a normal list. -/
theorem Normal.not_mem_gap {low high : VersionRange} {p : Cut} (hlow : low.upperCut ≤ p)
    (hhigh : p < high.lowerCut) : ∀ {rs : List VersionRange}, Normal rs → Neighbours rs low high →
      p ∉ cutsOf rs
  | [], _, h => absurd h not_neighbours_nil
  | [_], _, h => absurd h not_neighbours_singleton
  | r :: s :: rest, hn, h => by
    rw [mem_cutsOf_cons, not_or]
    rcases neighbours_cons_cons.mp h with ⟨rfl, rfl⟩ | h
    · refine ⟨fun hp => hp.2.not_ge hlow, ?_⟩
      rw [mem_cutsOf_cons, not_or]
      refine ⟨fun hp => hp.1.not_gt hhigh, fun hp => ?_⟩
      have hlt := hn.tail.inhabited high (List.mem_cons_self ..)
      exact (hn.tail.lt_of_mem hp).not_gt (hhigh.trans hlt)
    · refine ⟨fun hp => ?_, hn.tail.not_mem_gap hlow hhigh h⟩
      have hbefore := (List.pairwise_cons.mp hn.apart).1 low h.mem.1
      have hlt := hn.tail.inhabited low h.mem.1
      exact hp.2.not_ge ((hbefore.trans hlt).le.trans hlow)

namespace Constraint

/-- The exclusions of a list of gaps are those of its neighbours. -/
theorem mem_gapExclusions {gap : Option Exclusion} : ∀ {rs : List VersionRange},
    gap ∈ gapExclusions rs ↔ ∃ low high, Neighbours rs low high ∧ gapExclusion? low high = gap
  | [] => by simp [gapExclusions, Neighbours]
  | [r] => by simp [gapExclusions, not_neighbours_singleton]
  | r :: s :: rest => by
    rw [gapExclusions, List.mem_cons, mem_gapExclusions]
    simp only [neighbours_cons_cons, or_and_right, exists_or]
    refine or_congr ?_ Iff.rfl
    simp [eq_comm]

/-- A cut between the start of the first range and the end of the last one lies in a range or in
    a gap. -/
theorem mem_cutsOf_or_gap {p : Cut} : ∀ {r : VersionRange} {rest : List VersionRange},
    r.lowerCut ≤ p → (∀ last ∈ (r :: rest).getLast?, p < last.upperCut) → p ∈ cutsOf (r :: rest) ∨
      ∃ low high, Neighbours (r :: rest) low high ∧ low.upperCut ≤ p ∧ p < high.lowerCut
  | r, [], hlow, hlast => .inl (mem_cutsOf_cons.mpr (.inl ⟨hlow, hlast r rfl⟩))
  | r, s :: rest, hlow, hlast => by
    rcases lt_or_ge p r.upperCut with hr | hr
    · exact .inl (mem_cutsOf_cons.mpr (.inl ⟨hlow, hr⟩))
    rcases lt_or_ge p s.lowerCut with hs | hs
    · exact .inr ⟨r, s, neighbours_cons_cons.mpr (.inl ⟨rfl, rfl⟩), hr, hs⟩
    rw [List.getLast?_cons_cons] at hlast
    rcases mem_cutsOf_or_gap hs hlast with hp | ⟨low, high, hneighbours, hgap⟩
    · exact .inl (mem_cutsOf_cons.mpr (.inr hp))
    · exact .inr ⟨low, high, neighbours_cons_cons.mpr (.inr hneighbours), hgap⟩

/-! ### The range around a constraint -/

/-- The range around a constraint runs from the start of the first range to the end of the last. -/
theorem cuts_hull {c : Constraint} {r : VersionRange} {rest : List VersionRange}
    (hc : c.ranges = r :: rest) : ∃ last, (r :: rest).getLast? = some last ∧
      c.hull.lowerCut = r.lowerCut ∧ c.hull.upperCut = last.upperCut := by
  refine ⟨_, List.getLast?_eq_some_getLast (List.cons_ne_nil r rest), ?_⟩
  rw [hull, hc, List.head?_cons, List.getLast?_eq_some_getLast (List.cons_ne_nil r rest)]
  exact ⟨rfl, rfl⟩

/-- The last range of a normal list starts and ends last. -/
theorem le_last {last r : VersionRange} : ∀ {rs : List VersionRange}, Normal rs →
    rs.getLast? = some last → r ∈ rs → r.lowerCut ≤ last.lowerCut ∧ r.upperCut ≤ last.upperCut
  | [s], _, hlast, hr => by
    cases hlast
    rw [List.mem_singleton.mp hr]
    exact ⟨le_rfl, le_rfl⟩
  | s :: t :: rest, hn, hlast, hr => by
    rw [List.getLast?_cons_cons] at hlast
    rcases List.mem_cons.mp hr with rfl | hr
    · have hmem := List.mem_of_getLast? hlast
      have hgap := (List.pairwise_cons.mp hn.apart).1 last hmem
      have hr := hn.inhabited r (List.mem_cons_self ..)
      have hl := hn.tail.inhabited last hmem
      exact ⟨(hr.trans hgap).le, (hgap.trans hl).le⟩
    · exact le_last hn.tail hlast hr

variable {c : Constraint}

/-- The constraint lies within the range around it. -/
theorem mem_cuts_hull (hn : Normal c.ranges) {p : Cut} (hp : p ∈ c.cuts) : p ∈ c.hull.cuts := by
  obtain ⟨t, ht, hp⟩ := hp
  cases hc : c.ranges with
  | nil => rw [hc] at ht; cases ht
  | cons r rest =>
    obtain ⟨last, hlast, hlow, hup⟩ := cuts_hull hc
    rw [hc] at ht hn
    have hle := le_last hn hlast ht
    refine ⟨hlow ▸ ?_, hup ▸ hp.2.trans_le hle.2⟩
    rcases List.mem_cons.mp ht with rfl | ht
    · exact hp.1
    · have hr := hn.inhabited r (List.mem_cons_self ..)
      exact ((hr.trans ((List.pairwise_cons.mp hn.apart).1 t ht)).trans_le hp.1).le

/-- Where the last range starts, the range around the constraint is past all of its gaps. -/
theorem exists_mem_cuts_hull (hn : Normal c.ranges) (hne : c.isEmpty = false) :
    ∃ p ∈ c.hull.cuts, ∀ low high, Neighbours c.ranges low high → high.lowerCut ≤ p := by
  have hlast := List.getLast?_eq_some_getLast (List.isEmpty_eq_false_iff.mp hne)
  have hmem := List.mem_of_getLast? hlast
  have hcuts : (c.ranges.getLast (List.isEmpty_eq_false_iff.mp hne)).lowerCut ∈ c.cuts :=
    ⟨_, hmem, le_rfl, hn.inhabited _ hmem⟩
  exact ⟨_, mem_cuts_hull hn hcuts, fun _ _ h => (le_last hn hlast h.mem.2).1⟩

/-- What lies within the range around a constraint lies in the constraint or in a gap of it. -/
theorem mem_cuts_or_gap {p : Cut} (hne : c.isEmpty = false) (hp : p ∈ c.hull.cuts) :
    p ∈ c.cuts ∨
      ∃ low high, Neighbours c.ranges low high ∧ low.upperCut ≤ p ∧ p < high.lowerCut := by
  obtain ⟨r, rest, hc⟩ := List.exists_cons_of_ne_nil (List.isEmpty_eq_false_iff.mp hne)
  obtain ⟨last, hlast, hlow, hup⟩ := cuts_hull hc
  rw [cuts, hc]
  refine mem_cutsOf_or_gap (hlow ▸ hp.1) fun last' hlast' => ?_
  rw [Option.mem_def, hlast, Option.some.injEq] at hlast'
  exact hlast' ▸ hup ▸ hp.2

end Constraint

end ManifestMigration
