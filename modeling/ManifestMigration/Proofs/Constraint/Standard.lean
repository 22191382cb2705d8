import ManifestMigration.Proofs.Constraint.Interpreter
import ManifestMigration.Proofs.Constraint.Specifier
import ManifestMigration.Proofs.Version.Standard

/-! Interpreter requirements as PEP 440 writes them: clauses with commas between them.

    A requirement is put together from clauses that compare with a version, and from exclusions of
    interpreter series. It has no clause when a union accepts no known series and is bounded neither
    below nor above: then it is a star. A clause belongs to PEP 440 if its version is written in
    ASCII. -/

namespace ManifestMigration

namespace Constraint

open Text (IsAscii)
open Version (IsPublic)

/-! ### The grammar -/

/-- The operators of PEP 440. -/
def standardOperators : List String := ["~=", "==", "!=", "<=", ">=", "<", ">", "==="]

/-- An operator and a version, or an operator of equality and a version with a wildcard behind. -/
inductive IsClause : List Char → Prop where
  | compare {op : String} {v : List Char} (hop : op ∈ standardOperators) (hv : IsPublic v) :
    IsClause (op.toList ++ v)
  | series {op : String} {v : List Char} (hop : op ∈ ["==", "!="]) (hv : IsPublic v) :
    IsClause (op.toList ++ (v ++ ['.', '*']))

/-- Clauses with a comma between each two, and blanks behind the comma perhaps. -/
inductive IsSpecifier : List Char → Prop where
  | single {w : List Char} (hw : IsClause w) : IsSpecifier w
  | comma {w gap s : List Char} (hw : IsClause w) (hgap : ∀ c ∈ gap, c = ' ')
    (hs : IsSpecifier s) : IsSpecifier (w ++ ',' :: (gap ++ s))

variable {s w : List Char} {c : Constraint} {P : Version → Prop}

/-- A clause starts with an operator. -/
theorem IsClause.head (h : IsClause w) (u : List Char) : (w ++ u).head? ≠ some '*' := by
  have hoperators : ∀ op ∈ standardOperators, op.toList ≠ [] ∧ op.toList.head? ≠ some '*' := by
    decide
  have hhead : ∀ {op : String} {v : List Char}, op ∈ standardOperators →
      ((op.toList ++ v) ++ u).head? ≠ some '*' := by
    intro op v hop
    obtain ⟨hne, hstar⟩ := hoperators op hop
    rwa [List.append_assoc, List.head?_append_of_ne_nil _ hne]
  cases h with
  | compare hop hv => exact hhead hop
  | series hop hv => exact hhead ((show ["==", "!="] ⊆ standardOperators by decide) hop)

theorem IsSpecifier.head (h : IsSpecifier s) : s.head? ≠ some '*' := by
  cases h with
  | single hw =>
    have hhead := hw.head []
    rwa [List.append_nil] at hhead
  | comma hw hgap hs => exact hw.head _

theorem IsClause.ascii (h : IsClause w) : IsAscii w := by
  have hoperators : ∀ op ∈ standardOperators, IsAscii op.toList := by decide
  cases h with
  | compare hop hv => exact Text.isAscii_append.mpr ⟨hoperators _ hop, hv.ascii⟩
  | series hop hv =>
    have hop := (show ["==", "!="] ⊆ standardOperators by decide) hop
    have hstar : IsAscii ['.', '*'] := by decide
    exact Text.isAscii_append.mpr
      ⟨hoperators _ hop, Text.isAscii_append.mpr ⟨hv.ascii, hstar⟩⟩

/-- Specifiers are written in ASCII. -/
theorem IsSpecifier.ascii (h : IsSpecifier s) : IsAscii s := by
  induction h with
  | single hw => exact hw.ascii
  | comma hw hgap hs ih =>
    refine Text.isAscii_append.mpr ⟨hw.ascii, List.forall_mem_cons.mpr ⟨by decide,
      Text.isAscii_append.mpr ⟨fun c hc => ?_, ih⟩⟩⟩
    rw [hgap c hc]
    decide

/-- Clauses are joined to a specifier. -/
theorem isSpecifier_intercalate {gap : List Char} (hgap : ∀ c ∈ gap, c = ' ') :
    ∀ {w : String} {ws : List String}, (∀ u ∈ w :: ws, IsClause u.toList) →
      IsSpecifier ((String.ofList (',' :: gap)).intercalate (w :: ws)).toList
  | w, [], h => by
    rw [String.intercalate_singleton]
    exact .single (h w (List.mem_cons_self ..))
  | w, x :: ws, h => by
    obtain ⟨hw, hws⟩ := List.forall_mem_cons.mp h
    rw [String.intercalate_cons_cons, String.toList_append, String.toList_append,
      String.toList_ofList, List.append_assoc, List.cons_append]
    exact .comma hw hgap (isSpecifier_intercalate hgap hws)

/-! ### Clauses that are written -/

/-- The operators that clauses are written with. -/
def writtenOperators : List String := [">=", ">", "<=", "<", "=="]

/-- A clause with a version that has the property, or the exclusion of an interpreter series. -/
inductive Written (P : Version → Prop) : String → Prop where
  | compare {op : String} {v : Version} (hop : op ∈ writtenOperators) (hv : P v) :
    Written P (op ++ v.text)
  | exclude {series : Nat × Nat} (hs : series ∈ interpreterSeries) :
    Written P s!"!={seriesText series}.*"

theorem ascii_text_final (major : Nat) (tail : List Nat) :
    IsAscii (Version.final major tail).text.toList := by
  have hdigits : ∀ n, IsAscii (Text.digits n) := fun n c hc =>
    Text.toNat_lt_of_isDigit (Nat.isDigit_of_mem_toDigits (by decide) (by decide) hc)
  rw [Version.toList_text_final, Text.isAscii_append]
  refine ⟨hdigits major, fun c hc => ?_⟩
  obtain ⟨n, -, hc⟩ := List.mem_flatMap.mp hc
  rcases List.mem_cons.mp hc with rfl | hc
  · decide
  · exact hdigits n c hc

theorem toList_exclusion (series : Nat × Nat) : (s!"!={seriesText series}.*").toList =
    "!=".toList ++ ((Version.final series.1 [series.2]).text.toList ++ ['.', '*']) := by
  rw [text_final_series]
  change ("!=" ++ seriesText series ++ ".*").toList = _
  simp

/-- A clause that is written in ASCII is one of PEP 440. -/
theorem Written.isClause {w : String} (h : Written Version.Legible w) (hascii : IsAscii w.toList) :
    IsClause w.toList := by
  cases h with
  | @compare op v hop hv =>
    rw [String.toList_append] at hascii ⊢
    have hmem := (show writtenOperators ⊆ standardOperators by decide) hop
    exact .compare hmem (hv.isPublic_iff.mpr (Text.isAscii_append.mp hascii).2)
  | @exclude series hs =>
    rw [toList_exclusion]
    exact .series (by decide) ((legible_final_series hs).isPublic_iff.mpr (ascii_text_final _ _))

theorem Written.ascii {w : String} (h : Written (fun v => IsAscii v.text.toList) w) :
    IsAscii w.toList := by
  cases h with
  | @compare op v hop hv =>
    have hoperators : ∀ op ∈ writtenOperators, IsAscii op.toList := by decide
    rw [String.toList_append]
    exact Text.isAscii_append.mpr ⟨hoperators op hop, hv⟩
  | @exclude series hs =>
    have hmarks : IsAscii "!=".toList ∧ IsAscii ['.', '*'] := by decide
    rw [toList_exclusion]
    exact Text.isAscii_append.mpr
      ⟨hmarks.1, Text.isAscii_append.mpr ⟨ascii_text_final _ _, hmarks.2⟩⟩

theorem isAscii_intercalate {sep : String} (hsep : IsAscii sep.toList) :
    ∀ {w : String} {ws : List String}, IsAscii (sep.intercalate (w :: ws)).toList ↔
      ∀ u ∈ w :: ws, IsAscii u.toList
  | w, [] => by simp
  | w, x :: ws => by
    rw [String.intercalate_cons_cons, String.toList_append, String.toList_append,
      Text.isAscii_append, Text.isAscii_append, isAscii_intercalate hsep, and_iff_left hsep]
    exact (List.forall_mem_cons (p := fun u : String => IsAscii u.toList)).symm

/-- Clauses that are written with commas between them. -/
def Joined (P : Version → Prop) (t : String) : Prop :=
  ∃ sep ∈ [",", ", "], ∃ w ws, (∀ u ∈ w :: ws, Written P u) ∧ t = sep.intercalate (w :: ws)

theorem ascii_of_mem_separators {sep : String} (h : sep ∈ [",", ", "]) : IsAscii sep.toList := by
  have hall : ∀ sep ∈ [",", ", "], IsAscii sep.toList := by decide
  exact hall sep h

theorem Joined.isSpecifier_iff {t : String} (h : Joined Version.Legible t) :
    IsSpecifier t.toList ↔ IsAscii t.toList := by
  constructor
  · exact IsSpecifier.ascii
  · obtain ⟨sep, hsep, w, ws, hws, rfl⟩ := h
    intro hascii
    have hclauses : ∀ u ∈ w :: ws, IsClause u.toList := fun u hu =>
      (hws u hu).isClause ((isAscii_intercalate (ascii_of_mem_separators hsep)).mp hascii u hu)
    have hgap : ∃ gap : List Char, sep = String.ofList (',' :: gap) ∧ ∀ c ∈ gap, c = ' ' := by
      simp only [List.mem_cons, List.not_mem_nil, or_false] at hsep
      rcases hsep with rfl | rfl
      · exact ⟨[], rfl, List.forall_mem_nil _⟩
      · exact ⟨[' '], rfl, List.forall_mem_singleton.mpr rfl⟩
    obtain ⟨gap, rfl, hgap⟩ := hgap
    exact isSpecifier_intercalate hgap hclauses

theorem Joined.ascii {t : String} (h : Joined (fun v => IsAscii v.text.toList) t) :
    IsAscii t.toList := by
  obtain ⟨sep, hsep, w, ws, hws, rfl⟩ := h
  exact (isAscii_intercalate (ascii_of_mem_separators hsep)).mpr fun u hu => (hws u hu).ascii

/-! ### The text of a requirement -/

theorem written_clauses {r : VersionRange} (hr : r.Bounded P) : ∀ w ∈ r.clauses, Written P w := by
  have hlower : ∀ closed : Bool, (if closed then ">=" else ">") ∈ writtenOperators := by decide
  have hupper : ∀ closed : Bool, (if closed then "<=" else "<") ∈ writtenOperators := by decide
  obtain ⟨lower, upper, closedLower, closedUpper⟩ := r
  rw [VersionRange.clauses, List.forall_mem_append]
  constructor
  · cases lower with
    | none => exact List.forall_mem_nil _
    | some v =>
      exact List.forall_mem_singleton.mpr (.compare (hlower closedLower) (hr.lower v rfl))
  · cases upper with
    | none => exact List.forall_mem_nil _
    | some v =>
      exact List.forall_mem_singleton.mpr (.compare (hupper closedUpper) (hr.upper v rfl))

/-- A range with a bound is written as its clauses. -/
theorem joined_render {r : VersionRange} (hr : r.Bounded P) (hany : r.isAny = false) :
    Joined P r.render := by
  have hwritten := written_clauses hr
  cases hclauses : r.clauses with
  | nil =>
    rw [VersionRange.isAny_iff.mpr hclauses] at hany
    cases hany
  | cons w ws =>
    rw [hclauses] at hwritten
    exact ⟨",", by decide, w, ws, hwritten, by rw [render_eq_clauseText, hclauses, clauseText]⟩

/-- A pinned version is written as itself or as the series that it stands for. -/
theorem joined_exactSpecifier {v : Version} (hP : ∀ v, v.IsRelease → P v) (hfits : v.Fits)
    (hv : P v) : Joined P (exactSpecifier v) := by
  rw [exactSpecifier]
  split
  · next series hseries =>
    obtain ⟨major, tail, high, rfl, hfloor, hhigh, -, -⟩ := pinSeries?_spec hfits hseries
    refine joined_render ⟨fun w hw => ?_, fun w hw => ?_⟩ rfl
    · cases hw
      exact hP _ hfloor
    · cases hw
      exact hP _ hhigh
  · refine ⟨",", by decide, "==" ++ v.text, [], ?_, by rw [String.intercalate_singleton]⟩
    exact List.forall_mem_singleton.mpr (.compare (by decide) hv)

theorem joined_specifier (hP : ∀ v, v.IsRelease → P v) (hl : c.Bounded Version.Legible)
    (hb : c.Bounded P) {r : VersionRange} (hr : c.ranges = [r]) (hany : c.isAny = false) :
    Joined P c.specifier.text := by
  obtain ⟨ranges⟩ := c
  obtain rfl : ranges = [r] := hr
  cases hpin : pinned? ⟨[r]⟩ with
  | some v =>
    obtain ⟨-, r', hr', hlower⟩ := cuts_of_constraint_pinned? hpin
    obtain rfl : r = r' := List.head_eq_of_cons_eq hr'
    have hmem : r ∈ (⟨[r]⟩ : Constraint).ranges := List.mem_singleton_self r
    rw [specifier, hpin]
    exact joined_exactSpecifier hP ((hl r hmem).lower v hlower).fits ((hb r hmem).lower v hlower)
  | none =>
    rw [specifier, hpin]
    exact joined_render (hb r (List.mem_singleton_self r)) hany

/-- A union that accepts no known series and is bounded neither below nor above. -/
structure Untold (c : Constraint) : Prop where
  several : 2 ≤ c.ranges.length
  refused : ∀ s ∈ interpreterSeries, c.acceptsSeries s = false
  unbounded : c.hull.isAny = true

/-- A requirement is written in clauses, unless nothing is told of its union. Then it is a star. -/
theorem interpreterSpecifier_cases (hP : ∀ v, v.IsRelease → P v) (hl : c.Bounded Version.Legible)
    (hb : c.Bounded P) (hne : c.isEmpty = false) (hany : c.isAny = false) :
    c.Untold ∧ c.interpreterSpecifier = "*" ∨ ¬ c.Untold ∧ Joined P c.interpreterSpecifier := by
  rw [interpreterSpecifier]
  split
  · next hlength =>
    have hone : ∃ r, c.ranges = [r] := by
      refine List.length_eq_one_iff.mp ?_
      have hpos : c.ranges.length ≠ 0 := by
        rw [Ne, List.length_eq_zero_iff, ← List.isEmpty_iff]
        simpa [isEmpty] using hne
      omega
    obtain ⟨r, hr⟩ := hone
    refine .inr ⟨fun h => ?_, joined_specifier hP hl hb hr hany⟩
    exact absurd h.several (by omega)
  · next hlength =>
    split
    · next hnone =>
      have hrefused : ∀ s ∈ interpreterSeries, c.acceptsSeries s = false := fun s hs =>
        (Bool.not_eq_true _).mp (List.find?_eq_none.mp hnone s hs)
      cases hhull : c.hull.isAny with
      | true =>
        left
        refine ⟨⟨by omega, hrefused, hhull⟩, ?_⟩
        rw [VersionRange.render, hhull, if_pos rfl]
      | false =>
        right
        refine ⟨fun h => ?_, joined_render (bounded_hull hb) hhull⟩
        rw [h.unbounded] at hhull
        cases hhull
    · next lowest hlowest =>
      have hmem := List.mem_of_find?_eq_some hlowest
      right
      constructor
      · intro h
        have haccepts := List.find?_some hlowest
        rw [h.refused lowest hmem] at haccepts
        cases haccepts
      · refine ⟨", ", by decide, _, _, List.forall_mem_cons.mpr ⟨?_, ?_⟩, rfl⟩
        · rw [← text_final_series]
          refine .compare (by decide) (hP _ ⟨lowest.1, [lowest.2], rfl, ?_⟩)
          exact (legible_final_series hmem).fits
        · intro u hu
          obtain ⟨series, hseries, rfl⟩ := List.mem_map.mp hu
          exact .exclude (List.mem_of_mem_filter hseries)

/-- The requirement of a constraint that was read belongs to PEP 440 exactly if something is told of
    its union and it is written in ASCII, as it is when its bounds are. -/
theorem isSpecifier_interpreterSpecifier_iff (hc : Readable c) (hne : c.isEmpty = false)
    (hany : c.isAny = false) :
    (IsSpecifier c.interpreterSpecifier.toList ↔
      ¬ c.Untold ∧ IsAscii c.interpreterSpecifier.toList) ∧
    (c.Untold → c.interpreterSpecifier = "*") ∧
    (c.Bounded (fun v => IsAscii v.text.toList) → IsAscii c.interpreterSpecifier.toList) := by
  have hl := hc.bounded
  refine ⟨?_, ?_, fun hb => ?_⟩
  · rcases interpreterSpecifier_cases (fun _ h => h.legible) hl hl hne hany with
      ⟨huntold, htext⟩ | ⟨huntold, hjoined⟩
    · refine iff_of_false (fun h => ?_) fun h => h.1 huntold
      rw [htext] at h
      exact h.head (by decide)
    · rw [hjoined.isSpecifier_iff, and_iff_right huntold]
  · intro huntold
    rcases interpreterSpecifier_cases (fun _ h => h.legible) hl hl hne hany with
      ⟨-, htext⟩ | ⟨htold, -⟩
    · exact htext
    · exact absurd huntold htold
  · have hrelease : ∀ v : Version, v.IsRelease → IsAscii v.text.toList := by
      rintro _ ⟨major, tail, rfl, -⟩
      exact ascii_text_final major tail
    rcases interpreterSpecifier_cases hrelease hl hb hne hany with ⟨-, htext⟩ | ⟨-, hjoined⟩
    · rw [htext]
      decide
    · exact hjoined.ascii

end Constraint

end ManifestMigration
