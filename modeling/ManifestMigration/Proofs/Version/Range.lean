import ManifestMigration.Version.Range
import ManifestMigration.Proofs.Version.Preorder
import Mathlib.Data.Prod.Lex
import Mathlib.Order.Interval.Set.LinearOrder
import Mathlib.Order.WithBot

/-! Ranges as intervals of cuts.

    A cut is a place between versions: right before or right after one of them, below all or above
    all. Cuts are linearly ordered, and a range is the half-open interval between two of them,
    whichever of its bounds are present and inclusive; a version lies in the range when the cut
    right before it does. Emptiness, touching, intersection and the two orders of bounds are then
    statements about the ends of intervals. -/

namespace ManifestMigration

/-- A place between versions. -/
abbrev Cut := WithBot (WithTop (Version.Key ×ₗ Bool))

namespace Cut

/-- The cut right before a version, or right after it. -/
def of (v : Version) (past : Bool) : Cut :=
  ((toLex (v.key, past) : Version.Key ×ₗ Bool) : WithTop (Version.Key ×ₗ Bool))

variable {v w : Version} {a b : Bool}

theorem of_le_of : of v a ≤ of w b ↔ v.key < w.key ∨ v.key = w.key ∧ a ≤ b := by
  rw [of, of, WithBot.coe_le_coe, WithTop.coe_le_coe, Prod.Lex.toLex_le_toLex]

theorem of_lt_of : of v a < of w b ↔ v.key < w.key ∨ v.key = w.key ∧ a < b := by
  rw [of, of, WithBot.coe_lt_coe, WithTop.coe_lt_coe, Prod.Lex.toLex_lt_toLex]

theorem of_congr (h : v.key = w.key) (a : Bool) : of v a = of w a := by rw [of, of, h]

@[simp] theorem bot_lt_of : ⊥ < of v a := WithBot.bot_lt_coe _

@[simp] theorem of_lt_top : of v a < ⊤ := WithBot.coe_lt_coe.mpr (WithTop.coe_lt_top _)

@[simp] theorem of_ne_bot : of v a ≠ ⊥ := bot_lt_of.ne'

@[simp] theorem of_ne_top : of v a ≠ ⊤ := of_lt_top.ne

theorem before_le_before : of v false ≤ of w false ↔ v.key ≤ w.key := by
  simp [of_le_of, le_iff_lt_or_eq (a := v.key)]

/-- The cut from which on versions satisfy a lower bound. -/
def start : Option Version → Bool → Cut
  | none, _ => ⊥
  | some v, closed => of v (!closed)

/-- The cut up to which versions satisfy an upper bound. -/
def stop : Option Version → Bool → Cut
  | none, _ => ⊤
  | some v, closed => of v closed

end Cut

namespace VersionRange

/-- The cut at which the range starts. -/
def lowerCut (r : VersionRange) : Cut := .start r.lower r.closedLower

/-- The cut at which the range ends. -/
def upperCut (r : VersionRange) : Cut := .stop r.upper r.closedUpper

/-- The cuts of the range, its start among them and its end not. -/
def cuts (r : VersionRange) : Set Cut := Set.Ico r.lowerCut r.upperCut

/-- The version satisfies each bound that is present. -/
def Contains (r : VersionRange) (v : Version) : Prop :=
  (∀ low ∈ r.lower, low.compare v = .lt ∨ r.closedLower = true ∧ low.compare v = .eq) ∧
    ∀ high ∈ r.upper, v.compare high = .lt ∨ r.closedUpper = true ∧ v.compare high = .eq

instance : Membership Version VersionRange := ⟨Contains⟩

instance (r : VersionRange) (v : Version) : Decidable (v ∈ r) :=
  inferInstanceAs <| Decidable <| _ ∧ ∀ high ∈ r.upper, _

/-- A version lies in a range when the cut right before it does. -/
theorem mem_iff {r : VersionRange} {v : Version} : v ∈ r ↔ Cut.of v false ∈ r.cuts := by
  obtain ⟨lower, upper, closedLower, closedUpper⟩ := r
  refine and_congr ?_ ?_
  · cases lower with
    | none => simp [lowerCut, Cut.start]
    | some low =>
      cases closedLower <;>
        simp [lowerCut, Cut.start, Cut.of_le_of, Version.compare_eq_lt_iff,
          Version.compare_eq_eq_iff]
  · cases upper with
    | none => simp [upperCut, Cut.stop]
    | some high =>
      cases closedUpper <;>
        simp [upperCut, Cut.stop, Cut.of_lt_of, Version.compare_eq_lt_iff,
          Version.compare_eq_eq_iff]

theorem mem_halfOpen_iff {v low high : Version} :
    v ∈ halfOpen low high ↔ low.key ≤ v.key ∧ v.key < high.key := by
  rw [mem_iff, cuts, Set.mem_Ico]
  change Cut.of low false ≤ Cut.of v false ∧ Cut.of v false < Cut.of high false ↔ _
  rw [Cut.before_le_before, ← not_le, Cut.before_le_before, not_le]

theorem mem_exact_iff {v w : Version} : w ∈ exact v ↔ w.key = v.key := by
  rw [mem_iff, cuts, Set.mem_Ico]
  change Cut.of v false ≤ Cut.of w false ∧ Cut.of w false < Cut.of v true ↔ _
  rw [Cut.before_le_before, Cut.of_lt_of]
  constructor
  · rintro ⟨hle, hlt | ⟨heq, -⟩⟩
    · exact absurd hlt hle.not_gt
    · exact heq
  · exact fun heq => ⟨heq.ge, .inr ⟨heq, Bool.false_lt_true⟩⟩

/-! ### Ends of ranges -/

/-- A range is empty when it does not end after its start. -/
theorem isEmpty_iff : ∀ {r : VersionRange}, r.isEmpty = true ↔ r.upperCut ≤ r.lowerCut
  | ⟨none, none, _, _⟩ => by simp [isEmpty, lowerCut, upperCut, Cut.start, Cut.stop]
  | ⟨none, some _, _, _⟩ => by simp [isEmpty, lowerCut, upperCut, Cut.start, Cut.stop]
  | ⟨some _, none, _, _⟩ => by simp [isEmpty, lowerCut, upperCut, Cut.start, Cut.stop]
  | ⟨some low, some high, closedLower, closedUpper⟩ => by
    simp only [isEmpty, lowerCut, upperCut, Cut.start, Cut.stop, Cut.of_le_of]
    cases h : low.compare high with
    | lt =>
      have hlt := Version.compare_eq_lt_iff.mp h
      simp [hlt.not_gt, hlt.ne']
    | eq =>
      have heq := Version.compare_eq_eq_iff.mp h
      cases closedLower <;> cases closedUpper <;> simp [heq]
    | gt => simp [Version.compare_eq_gt_iff.mp h]

theorem isEmpty_eq_false_iff {r : VersionRange} : r.isEmpty = false ↔ r.lowerCut < r.upperCut := by
  rw [← Bool.not_eq_true, isEmpty_iff, not_le]

/-- Two ranges touch when the second starts no later than the first ends. -/
theorem touches_iff : ∀ {r s : VersionRange}, r.touches s = true ↔ s.lowerCut ≤ r.upperCut
  | ⟨_, none, _, _⟩, ⟨_, _, _, _⟩ => by simp [touches, upperCut, Cut.stop]
  | ⟨_, some _, _, _⟩, ⟨none, _, _, _⟩ => by simp [touches, lowerCut, Cut.start]
  | ⟨_, some high, _, closedUpper⟩, ⟨some low, _, closedLower, _⟩ => by
    simp only [touches, lowerCut, upperCut, Cut.start, Cut.stop, Cut.of_le_of]
    cases h : high.compare low with
    | lt =>
      have hlt := Version.compare_eq_lt_iff.mp h
      simp [hlt.not_gt, hlt.ne']
    | eq =>
      have heq := Version.compare_eq_eq_iff.mp h
      cases closedLower <;> cases closedUpper <;> simp [heq]
    | gt => simp [Version.compare_eq_gt_iff.mp h]

theorem compareLower_ne_gt_iff :
    ∀ {r s : VersionRange}, (r.compareLower s != .gt) = true ↔ r.lowerCut ≤ s.lowerCut
  | ⟨none, _, _, _⟩, ⟨lower, _, _, _⟩ => by cases lower <;> simp [compareLower, lowerCut, Cut.start]
  | ⟨some _, _, _, _⟩, ⟨none, _, _, _⟩ => by simp [compareLower, lowerCut, Cut.start]
  | ⟨some v, _, a, _⟩, ⟨some w, _, b, _⟩ => by
    simp only [compareLower, lowerCut, Cut.start, Cut.of_le_of]
    cases h : v.compare w with
    | lt => simp [Version.compare_eq_lt_iff.mp h]
    | eq => cases a <;> cases b <;> simp [Version.compare_eq_eq_iff.mp h, compareFlags]
    | gt =>
      have hgt := Version.compare_eq_gt_iff.mp h
      simp [hgt.not_gt, hgt.ne']

theorem compareUpper_eq_gt_iff :
    ∀ {r s : VersionRange}, r.compareUpper s = .gt ↔ s.upperCut < r.upperCut
  | ⟨_, none, _, _⟩, ⟨_, upper, _, _⟩ => by cases upper <;> simp [compareUpper, upperCut, Cut.stop]
  | ⟨_, some _, _, _⟩, ⟨_, none, _, _⟩ => by simp [compareUpper, upperCut, Cut.stop]
  | ⟨_, some v, _, a⟩, ⟨_, some w, _, b⟩ => by
    simp only [compareUpper, upperCut, Cut.stop, Cut.of_lt_of]
    cases h : v.compare w with
    | lt =>
      have hlt := Version.compare_eq_lt_iff.mp h
      simp [hlt.not_gt, hlt.ne']
    | eq => cases a <;> cases b <;> simp [Version.compare_eq_eq_iff.mp h, compareFlags]
    | gt => simp [Version.compare_eq_gt_iff.mp h]

/-- There is a gap between two ranges when the first ends below the start of the second, or where
    it starts with that version in neither. -/
theorem upperCut_lt_lowerCut_iff : ∀ {r s : VersionRange}, r.upperCut < s.lowerCut ↔
    ∃ high low, r.upper = some high ∧ s.lower = some low ∧ (high.compare low = .lt ∨
      high.compare low = .eq ∧ r.closedUpper = false ∧ s.closedLower = false)
  | ⟨_, none, _, _⟩, ⟨_, _, _, _⟩ => by simp [upperCut, Cut.stop]
  | ⟨_, some _, _, _⟩, ⟨none, _, _, _⟩ => by simp [lowerCut, Cut.start]
  | ⟨_, some high, _, a⟩, ⟨some low, _, b, _⟩ => by
    simp only [lowerCut, upperCut, Cut.start, Cut.stop, Cut.of_lt_of, ← Version.compare_eq_lt_iff,
      ← Version.compare_eq_eq_iff, Option.some.injEq, ↓existsAndEq, true_and]
    cases a <;> cases b <;> simp

/-! ### Intersection -/

theorem start_higherLower : ∀ r s : VersionRange,
    Cut.start (higherLower r s).1 (higherLower r s).2 = max r.lowerCut s.lowerCut
  | ⟨none, _, _, _⟩, ⟨lower, _, _, _⟩ => by cases lower <;> simp [higherLower, lowerCut, Cut.start]
  | ⟨some _, _, _, _⟩, ⟨none, _, _, _⟩ => by simp [higherLower, lowerCut, Cut.start]
  | ⟨some v, _, a, _⟩, ⟨some w, _, b, _⟩ => by
    simp only [higherLower, lowerCut, Cut.start]
    cases h : v.compare w with
    | lt => exact (max_eq_right (Cut.of_le_of.mpr (.inl (Version.compare_eq_lt_iff.mp h)))).symm
    | eq =>
      have heq := Version.compare_eq_eq_iff.mp h
      cases a <;> cases b <;> simp [Cut.of, heq, Prod.Lex.toLex_le_toLex]
    | gt => exact (max_eq_left (Cut.of_le_of.mpr (.inl (Version.compare_eq_gt_iff.mp h)))).symm

theorem stop_lowerUpper : ∀ r s : VersionRange,
    Cut.stop (lowerUpper r s).1 (lowerUpper r s).2 = min r.upperCut s.upperCut
  | ⟨_, none, _, _⟩, ⟨_, upper, _, _⟩ => by cases upper <;> simp [lowerUpper, upperCut, Cut.stop]
  | ⟨_, some _, _, _⟩, ⟨_, none, _, _⟩ => by simp [lowerUpper, upperCut, Cut.stop]
  | ⟨_, some v, _, a⟩, ⟨_, some w, _, b⟩ => by
    simp only [lowerUpper, upperCut, Cut.stop]
    cases h : v.compare w with
    | lt => exact (min_eq_left (Cut.of_le_of.mpr (.inl (Version.compare_eq_lt_iff.mp h)))).symm
    | eq =>
      have heq := Version.compare_eq_eq_iff.mp h
      cases a <;> cases b <;> simp [Cut.of, heq, Prod.Lex.toLex_le_toLex]
    | gt => exact (min_eq_right (Cut.of_le_of.mpr (.inl (Version.compare_eq_gt_iff.mp h)))).symm

/-- An empty range has no cuts. -/
theorem cuts_eq_empty {r : VersionRange} (h : r.isEmpty = true) : r.cuts = ∅ :=
  Set.Ico_eq_empty (not_lt.mpr (isEmpty_iff.mp h))

/-- What two ranges have in common, cut by cut. -/
theorem exists_inter?_iff {r s : VersionRange} {p : Cut} :
    (∃ t, r.inter? s = some t ∧ p ∈ t.cuts) ↔ p ∈ r.cuts ∧ p ∈ s.cuts := by
  let both : VersionRange :=
    ⟨(higherLower r s).1, (lowerUpper r s).1, (higherLower r s).2, (lowerUpper r s).2⟩
  have hinter : r.inter? s = if both.isEmpty then none else some both := rfl
  have hcuts : both.cuts = r.cuts ∩ s.cuts := by
    rw [cuts, cuts, cuts, Set.Ico_inter_Ico, lowerCut, upperCut]
    exact congr_arg₂ Set.Ico (start_higherLower r s) (stop_lowerUpper r s)
  rw [hinter, ← Set.mem_inter_iff, ← hcuts]
  cases hempty : both.isEmpty with
  | true => simp [cuts_eq_empty hempty]
  | false => simp

end VersionRange

end ManifestMigration
