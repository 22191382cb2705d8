import ManifestMigration.Constraint.Basic
import ManifestMigration.Proofs.Version.Range
import Mathlib.Order.MinMax

/-! What the operations on constraints do to the cuts they cover, and the normal form they keep.

    Unions of intervals of cuts are easier to follow than sets of versions: between two ranges that
    do not touch there is always a cut, but there need not be a version. Sorting and joining keeps
    the cuts and separates the ranges; intersection, union and complement are then what their names
    say, cut by cut. -/

namespace ManifestMigration

/-- The cuts that some range of the list has. -/
def cutsOf (rs : List VersionRange) : Set Cut := {p | ∃ r ∈ rs, p ∈ r.cuts}

@[simp] theorem mem_cutsOf_nil {p : Cut} : p ∉ cutsOf [] := by simp [cutsOf]

@[simp] theorem mem_cutsOf_cons {p : Cut} {r : VersionRange} {rs : List VersionRange} :
    p ∈ cutsOf (r :: rs) ↔ p ∈ r.cuts ∨ p ∈ cutsOf rs := by simp [cutsOf]

@[simp] theorem mem_cutsOf_append {p : Cut} {rs ss : List VersionRange} :
    p ∈ cutsOf (rs ++ ss) ↔ p ∈ cutsOf rs ∨ p ∈ cutsOf ss := by
  simp only [cutsOf, Set.mem_ofPred_eq, List.mem_append, or_and_right, exists_or]

/-- No range is empty, and each one ends before the next one starts, with a gap between. -/
structure Normal (rs : List VersionRange) : Prop where
  inhabited : ∀ r ∈ rs, r.lowerCut < r.upperCut
  apart : rs.Pairwise fun r s => r.upperCut < s.lowerCut

theorem Normal.tail {r : VersionRange} {rs : List VersionRange} (h : Normal (r :: rs)) :
    Normal rs :=
  ⟨fun s hs => h.inhabited s (List.mem_cons_of_mem _ hs), (List.pairwise_cons.mp h.apart).2⟩

/-- The first range of a normal list ends before what the others cover. -/
theorem Normal.lt_of_mem {r : VersionRange} {rs : List VersionRange} (h : Normal (r :: rs))
    {p : Cut} (hp : p ∈ cutsOf rs) : r.upperCut < p := by
  obtain ⟨s, hs, hsp⟩ := hp
  exact ((List.pairwise_cons.mp h.apart).1 s hs).trans_le hsp.1

namespace Constraint

/-- The cuts that the constraint covers. -/
def cuts (c : Constraint) : Set Cut := cutsOf c.ranges

/-- The version lies in one of the ranges. -/
def Allows (c : Constraint) (v : Version) : Prop := ∃ r ∈ c.ranges, v ∈ r

instance : Membership Version Constraint := ⟨Allows⟩

instance (c : Constraint) (v : Version) : Decidable (v ∈ c) :=
  inferInstanceAs <| Decidable <| ∃ r ∈ c.ranges, v ∈ r

theorem mem_iff {c : Constraint} {v : Version} : v ∈ c ↔ Cut.of v false ∈ c.cuts :=
  exists_congr fun _ => and_congr_right fun _ => VersionRange.mem_iff

/-! ### Sorting -/

theorem mem_insertByLower {r t : VersionRange} :
    ∀ {rs : List VersionRange}, t ∈ insertByLower r rs ↔ t = r ∨ t ∈ rs
  | [] => by simp [insertByLower]
  | s :: rest => by
    rw [insertByLower]
    split
    · rw [List.mem_cons]
    · rw [List.mem_cons, mem_insertByLower, List.mem_cons, or_left_comm]

theorem mem_sortByLower {t : VersionRange} :
    ∀ {rs : List VersionRange}, t ∈ sortByLower rs ↔ t ∈ rs
  | [] => Iff.rfl
  | r :: rest => by rw [sortByLower, mem_insertByLower, mem_sortByLower, List.mem_cons]

/-- Ranges in the order of their lower bounds. -/
abbrev Ascending (rs : List VersionRange) : Prop :=
  rs.Pairwise fun r s => r.lowerCut ≤ s.lowerCut

theorem ascending_insertByLower {r : VersionRange} :
    ∀ {rs : List VersionRange}, Ascending rs → Ascending (insertByLower r rs)
  | [], _ => List.pairwise_singleton _ _
  | s :: rest, h => by
    obtain ⟨hs, hrest⟩ := List.pairwise_cons.mp h
    rw [insertByLower]
    split
    case isTrue hle =>
      have hrs := VersionRange.compareLower_ne_gt_iff.mp hle
      refine List.pairwise_cons.mpr ⟨fun t ht => ?_, h⟩
      rcases List.mem_cons.mp ht with rfl | ht
      · exact hrs
      · exact hrs.trans (hs t ht)
    case isFalse hgt =>
      have hsr := (not_le.mp (mt VersionRange.compareLower_ne_gt_iff.mpr hgt)).le
      refine List.pairwise_cons.mpr ⟨fun t ht => ?_, ascending_insertByLower hrest⟩
      rcases mem_insertByLower.mp ht with rfl | ht
      · exact hsr
      · exact hs t ht

theorem ascending_sortByLower : ∀ rs : List VersionRange, Ascending (sortByLower rs)
  | [] => List.Pairwise.nil
  | _ :: rest => ascending_insertByLower (ascending_sortByLower rest)

/-! ### Joining -/

@[simp] theorem lowerCut_stretch (r s : VersionRange) : (stretch r s).lowerCut = r.lowerCut := by
  rw [stretch]
  split <;> rfl

@[simp] theorem upperCut_stretch (r s : VersionRange) :
    (stretch r s).upperCut = max r.upperCut s.upperCut := by
  rw [stretch]
  split
  case isTrue h =>
    have hlt := VersionRange.compareUpper_eq_gt_iff.mp (beq_iff_eq.mp h)
    exact (max_eq_right hlt.le).symm
  case isFalse h =>
    rw [beq_iff_eq, VersionRange.compareUpper_eq_gt_iff, not_lt] at h
    exact (max_eq_left h).symm

/-- Stretching over a range that touches covers just the two. -/
theorem mem_cuts_stretch {r s : VersionRange} (hle : r.lowerCut ≤ s.lowerCut)
    (htouch : s.lowerCut ≤ r.upperCut) {p : Cut} :
    p ∈ (stretch r s).cuts ↔ p ∈ r.cuts ∨ p ∈ s.cuts := by
  simp only [VersionRange.cuts, Set.mem_Ico, lowerCut_stretch, upperCut_stretch, lt_max_iff]
  constructor
  · rintro ⟨hlow, hup | hup⟩
    · exact .inl ⟨hlow, hup⟩
    · rcases lt_or_ge p r.upperCut with hlt | hge
      · exact .inl ⟨hlow, hlt⟩
      · exact .inr ⟨htouch.trans hge, hup⟩
  · rintro (⟨hlow, hup⟩ | ⟨hlow, hup⟩)
    · exact ⟨hlow, .inl hup⟩
    · exact ⟨hle.trans hlow, .inr hup⟩

/-- A stretched range may stand in for its first part and the range it was stretched over. -/
theorem ascending_stretch {r s : VersionRange} {rest : List VersionRange}
    (h : Ascending (r :: s :: rest)) : Ascending (stretch r s :: rest) := by
  obtain ⟨hr, hs⟩ := List.pairwise_cons.mp h
  refine List.pairwise_cons.mpr ⟨fun t ht => ?_, (List.pairwise_cons.mp hs).2⟩
  rw [lowerCut_stretch]
  exact hr t (List.mem_cons_of_mem _ ht)

/-- Joining keeps the cuts. -/
theorem mem_cutsOf_joinFrom {p : Cut} : ∀ {r : VersionRange} {rest : List VersionRange},
    Ascending (r :: rest) → (p ∈ cutsOf (joinFrom r rest) ↔ p ∈ cutsOf (r :: rest))
  | _, [], _ => Iff.rfl
  | r, s :: rest, h => by
    have hrs := (List.pairwise_cons.mp h).1 s (List.mem_cons_self ..)
    rw [joinFrom]
    split
    case isTrue ht =>
      rw [mem_cutsOf_joinFrom (ascending_stretch h), mem_cutsOf_cons,
        mem_cuts_stretch hrs (VersionRange.touches_iff.mp ht), mem_cutsOf_cons, mem_cutsOf_cons,
        or_assoc]
    case isFalse =>
      rw [mem_cutsOf_cons, mem_cutsOf_joinFrom (List.pairwise_cons.mp h).2, ← mem_cutsOf_cons]

/-- No joined range starts before the first range did. -/
theorem lowerCut_le_of_mem_joinFrom {t : VersionRange} :
    ∀ {r : VersionRange} {rest : List VersionRange}, Ascending (r :: rest) →
      t ∈ joinFrom r rest → r.lowerCut ≤ t.lowerCut
  | r, [], _, ht => by rw [List.mem_singleton.mp ht]
  | r, s :: rest, h, ht => by
    rw [joinFrom] at ht
    split at ht
    · have hle := lowerCut_le_of_mem_joinFrom (ascending_stretch h) ht
      rwa [lowerCut_stretch] at hle
    · rcases List.mem_cons.mp ht with rfl | ht
      · exact le_rfl
      · have hrs := (List.pairwise_cons.mp h).1 s (List.mem_cons_self ..)
        exact hrs.trans (lowerCut_le_of_mem_joinFrom (List.pairwise_cons.mp h).2 ht)

/-- Joining separates the ranges. -/
theorem normal_joinFrom : ∀ {r : VersionRange} {rest : List VersionRange}, Ascending (r :: rest) →
    (∀ s ∈ r :: rest, s.lowerCut < s.upperCut) → Normal (joinFrom r rest)
  | r, [], _, hne => ⟨hne, List.pairwise_singleton _ _⟩
  | r, s :: rest, h, hne => by
    rw [joinFrom]
    split
    case isTrue =>
      refine normal_joinFrom (ascending_stretch h) fun t ht => ?_
      rcases List.mem_cons.mp ht with rfl | ht
      · rw [lowerCut_stretch, upperCut_stretch]
        exact lt_max_of_lt_left (hne r (List.mem_cons_self ..))
      · exact hne t (List.mem_cons_of_mem _ (List.mem_cons_of_mem _ ht))
    case isFalse hgap =>
      rw [VersionRange.touches_iff, not_le] at hgap
      have hasc := (List.pairwise_cons.mp h).2
      have hrest := normal_joinFrom hasc fun t ht => hne t (List.mem_cons_of_mem _ ht)
      refine ⟨fun t ht => ?_, List.pairwise_cons.mpr ⟨fun t ht => ?_, hrest.apart⟩⟩
      · rcases List.mem_cons.mp ht with rfl | ht
        · exact hne t (List.mem_cons_self ..)
        · exact hrest.inhabited t ht
      · exact hgap.trans_le (lowerCut_le_of_mem_joinFrom hasc ht)

end Constraint

end ManifestMigration
