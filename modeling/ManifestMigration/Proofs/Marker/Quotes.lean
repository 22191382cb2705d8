import ManifestMigration.Marker
import ManifestMigration.Proofs.Version.Grammar

/-! The quotes that a marker gets around its versions.

    A text divides in one way into versions, as long as they can be, and single characters between
    them. The quotes go around two numbers of a version at a time, so a version is quoted as a whole
    if it has one or two of them. -/

namespace ManifestMigration.Marker

open Version (Numbers NoNumber tailText)

/-- A stretch of a marker: a character outside of versions, or a version with its numbers. -/
inductive Stretch where
  | other (c : Char)
  | version (first : List Char) (more : List (List Char))
  deriving DecidableEq, Repr

/-- The stretches of a text. No version goes on behind its stretch. -/
inductive Divides : List Char → List Stretch → Prop where
  | nil : Divides [] []
  | other {c : Char} {s : List Char} {ps : List Stretch} (hc : Text.isDigit c = false)
    (h : Divides s ps) : Divides (c :: s) (.other c :: ps)
  | version {first s : List Char} {more : List (List Char)} {ps : List Stretch}
    (hnumbers : Numbers (first :: more)) (hend : NoNumber s) (h : Divides s ps) :
    Divides (first ++ (tailText more ++ s)) (.version first more :: ps)

namespace Stretch

/-- The stretch with the whole version in single quotes. -/
def quoted : Stretch → List Char
  | .other c => [c]
  | .version first more => '\'' :: (first ++ (tailText more ++ ['\'']))

/-- A version with single quotes around two numbers at a time. The dot between two pairs is outside
    of the quotes. -/
def quotePairs (first : List Char) : List (List Char) → List Char
  | [] => '\'' :: (first ++ ['\''])
  | [second] => '\'' :: (first ++ '.' :: (second ++ ['\'']))
  | second :: third :: more =>
    '\'' :: (first ++ '.' :: (second ++ '\'' :: '.' :: quotePairs third more))

/-- The stretch with the version quoted two numbers at a time. -/
def inPairs : Stretch → List Char
  | .other c => [c]
  | .version first more => quotePairs first more

/-- No version of three numbers or more. -/
def Short : Stretch → Prop
  | .other _ => True
  | .version _ more => more.length ≤ 1

end Stretch

variable {s t ds : List Char} {more : List (List Char)} {ps qs : List Stretch} {p : Stretch}

/-! ### The division of a text -/

theorem length_readTail_le (s : List Char) : (Version.readTail s).2.length ≤ s.length := by
  have hlength := congrArg List.length (Version.exists_tailText s)
  rw [List.length_append] at hlength
  omega

/-- The stretches of a text, read from its start. -/
def stretches : List Char → List Stretch
  | [] => []
  | c :: s =>
    if Text.isDigit c then
      let first := Text.splitDigits (c :: s)
      let more := Version.readTail first.2
      .version first.1 more.1 :: stretches more.2
    else .other c :: stretches s
termination_by s => s.length
decreasing_by
  · next hc =>
    have hfirst : (Text.splitDigits (c :: s)).2 = (Text.splitDigits s).2 :=
      List.dropWhile_cons_of_pos hc
    have hmore := length_readTail_le (Text.splitDigits s).2
    have := Text.length_splitDigits_le s
    simp only [hfirst, List.length_cons]
    omega
  · simp

theorem stretches_append {first : List Char} (hnumbers : Numbers (first :: more))
    (hend : NoNumber s) :
    stretches (first ++ (tailText more ++ s)) = .version first more :: stretches s := by
  obtain ⟨⟨hne, hfirst⟩, hmore⟩ := List.forall_mem_cons.mp hnumbers
  obtain ⟨c, u, rfl⟩ := List.exists_cons_of_ne_nil hne
  have hsplit := Text.splitDigits_append hfirst (Version.head_tailText hend.digit more)
  rw [List.cons_append] at hsplit ⊢
  rw [stretches, if_pos (hfirst c (List.mem_cons_self ..)), hsplit]
  simp only [Version.readTail_tailText hend hmore]

theorem divides_stretches (s : List Char) : Divides s (stretches s) := by
  fun_induction stretches s with
  | case1 => exact .nil
  | case2 c s hc first more ih =>
    have hend := Text.head_splitDigits (c :: s)
    have hne : first.1 ≠ [] := by
      intro hnil
      have hfirst : c :: s.takeWhile Text.isDigit = first.1 :=
        (List.takeWhile_cons_of_pos hc).symm
      rw [hnil] at hfirst
      cases hfirst
    have hnumbers : Numbers (first.1 :: more.1) :=
      List.forall_mem_cons.mpr
        ⟨⟨hne, fun d => List.mem_takeWhile_imp⟩, Version.numbers_readTail first.2⟩
    have htext : c :: s = first.1 ++ (tailText more.1 ++ more.2) := by
      rw [← Version.exists_tailText first.2]
      exact List.takeWhile_append_dropWhile.symm
    rw [htext]
    exact .version hnumbers (Version.noNumber_readTail first.2 hend) ih
  | case3 c s hc ih => exact .other ((Bool.not_eq_true _).mp hc) ih

/-- Each text has one division. -/
theorem divides_iff : Divides s ps ↔ stretches s = ps := by
  constructor
  · intro h
    induction h with
    | nil => rw [stretches]
    | other hc h ih => rw [stretches, if_neg (by rw [hc]; decide), ih]
    | version hnumbers hend h ih => rw [stretches_append hnumbers hend, ih]
  · rintro rfl
    exact divides_stretches s

/-! ### Where the quotes go -/

theorem quoteFrom_other {c : Char} (hc : Text.isDigit c = false) (s : List Char) :
    quoteFrom .outside (c :: s) = c :: quoteFrom .outside s := by
  rw [quoteFrom, if_neg (by rw [hc]; decide)]

theorem quoteFrom_append {place : Place} (hplace : place ≠ .outside)
    (hds : ∀ c ∈ ds, Text.isDigit c = true) (s : List Char) :
    quoteFrom place (ds ++ s) = ds ++ quoteFrom place s := by
  induction ds with
  | nil => rfl
  | cons c ds ih =>
    obtain ⟨hc, hds⟩ := List.forall_mem_cons.mp hds
    cases place with
    | outside => exact absurd rfl hplace
    | first => rw [List.cons_append, quoteFrom, if_pos hc, ih hds]; rfl
    | second => rw [List.cons_append, quoteFrom, if_pos hc, ih hds]; rfl

/-- A number starts a quote. -/
theorem quoteFrom_outside (hne : ds ≠ []) (hds : ∀ c ∈ ds, Text.isDigit c = true)
    (s : List Char) : quoteFrom .outside (ds ++ s) = '\'' :: (ds ++ quoteFrom .first s) := by
  obtain ⟨c, ds, rfl⟩ := List.exists_cons_of_ne_nil hne
  obtain ⟨hc, hds⟩ := List.forall_mem_cons.mp hds
  rw [List.cons_append, quoteFrom, if_pos hc, quoteFrom_append (by decide) hds]
  rfl

/-- The second number of a quote is behind a dot. -/
theorem quoteFrom_dot (hne : ds ≠ []) (hds : ∀ c ∈ ds, Text.isDigit c = true) (s : List Char) :
    quoteFrom .first ('.' :: (ds ++ s)) = '.' :: (ds ++ quoteFrom .second s) := by
  have hstart : startsWithDigit (ds ++ s) = true := by
    obtain ⟨c, ds, rfl⟩ := List.exists_cons_of_ne_nil hne
    exact hds c (List.mem_cons_self ..)
  rw [quoteFrom, if_neg (by decide), hstart, if_pos (by decide), quoteFrom_append (by decide) hds]

/-- Where no number goes on the quote ends. -/
theorem quoteFrom_first (hs : NoNumber s) :
    quoteFrom .first s = '\'' :: quoteFrom .outside s := by
  cases s with
  | nil => rfl
  | cons c s =>
    have hc : ¬ Text.isDigit c = true := by rw [hs.digit c rfl]; decide
    have hdot : ¬ (c == '.' && startsWithDigit s) = true := by
      rw [Bool.and_eq_true, beq_iff_eq]
      rintro ⟨rfl, hstart⟩
      cases s with
      | nil => cases hstart
      | cons d s =>
        have hd := hs.dot _ rfl d rfl
        rw [startsWithDigit] at hstart
        simp [hd] at hstart
    rw [quoteFrom_other (hs.digit c rfl), quoteFrom, if_neg hc, if_neg hdot]

/-- A quote ends behind its second number. -/
theorem quoteFrom_second (hs : ∀ c ∈ s.head?, Text.isDigit c = false) :
    quoteFrom .second s = '\'' :: quoteFrom .outside s := by
  cases s with
  | nil => rfl
  | cons c s =>
    have hc : ¬ Text.isDigit c = true := by rw [hs c rfl]; decide
    rw [quoteFrom_other (hs c rfl), quoteFrom, if_neg hc]

/-- Of a version two numbers at a time are quoted. -/
theorem quoteFrom_version (hs : NoNumber s) : ∀ {first : List Char} {more : List (List Char)},
    Numbers (first :: more) → quoteFrom .outside (first ++ (tailText more ++ s)) =
      Stretch.quotePairs first more ++ quoteFrom .outside s
  | first, [], h => by
    obtain ⟨hne, hfirst⟩ := h first (List.mem_cons_self ..)
    rw [quoteFrom_outside hne hfirst, tailText, List.flatMap_nil, List.nil_append,
      quoteFrom_first hs]
    simp [Stretch.quotePairs]
  | first, [second], h => by
    obtain ⟨⟨hne, hfirst⟩, h⟩ := List.forall_mem_cons.mp h
    obtain ⟨hne', hsecond⟩ := h second (List.mem_cons_self ..)
    rw [quoteFrom_outside hne hfirst, Version.tailText_cons, quoteFrom_dot hne' hsecond, tailText,
      List.flatMap_nil, List.nil_append, quoteFrom_second hs.digit]
    simp [Stretch.quotePairs]
  | first, second :: third :: more, h => by
    obtain ⟨⟨hne, hfirst⟩, h⟩ := List.forall_mem_cons.mp h
    obtain ⟨⟨hne', hsecond⟩, h⟩ := List.forall_mem_cons.mp h
    have ih := quoteFrom_version hs h
    rw [quoteFrom_outside hne hfirst, Version.tailText_cons, quoteFrom_dot hne' hsecond,
      quoteFrom_second (Version.head_tailText hs.digit _), Version.tailText_cons,
      quoteFrom_other (by decide), ih]
    simp [Stretch.quotePairs]

/-- Stretch by stretch, the versions of a text are quoted two numbers at a time. -/
theorem quoteFrom_of_divides (h : Divides s ps) :
    quoteFrom .outside s = ps.flatMap Stretch.inPairs := by
  induction h with
  | nil => rfl
  | other hc h ih =>
    rw [quoteFrom_other hc, ih, List.flatMap_cons]
    rfl
  | version hnumbers hend h ih =>
    rw [quoteFrom_version hend hnumbers, ih, List.flatMap_cons]
    rfl

/-! ### Versions that are quoted as a whole -/

namespace Stretch

theorem inPairs_eq_quoted (hp : p.Short) : p.inPairs = p.quoted := by
  cases p with
  | other c => rfl
  | version first more =>
    match more with
    | [] => rfl
    | [second] => simp [inPairs, quotePairs, quoted, tailText]
    | _ :: _ :: _ => exact absurd hp (by simp [Short])

theorem length_quotePairs : ∀ (first : List Char) (more : List (List Char)),
    (quotePairs first more).length =
      first.length + (tailText more).length + 2 * (more.length / 2 + 1)
  | first, [] => by simp [quotePairs, tailText]
  | first, [second] => by simp [quotePairs, tailText]; omega
  | first, second :: third :: more => by
    have ih := length_quotePairs third more
    simp [quotePairs, tailText, ih] at ih ⊢
    omega

/-- Quotes inside of a version make it longer. -/
theorem length_quoted_lt (hp : ¬ p.Short) : p.quoted.length < p.inPairs.length := by
  cases p with
  | other c => exact absurd trivial hp
  | version first more =>
    have hlong : 1 < more.length := by simpa [Short] using hp
    simp only [inPairs, length_quotePairs, quoted, List.length_cons, List.length_append,
      List.length_nil]
    omega

theorem length_quoted_le (p : Stretch) : p.quoted.length ≤ p.inPairs.length := by
  by_cases hp : p.Short
  · rw [inPairs_eq_quoted hp]
  · exact Nat.le_of_lt (length_quoted_lt hp)

end Stretch

theorem length_flatMap_quoted_le (ps : List Stretch) :
    (ps.flatMap Stretch.quoted).length ≤ (ps.flatMap Stretch.inPairs).length := by
  induction ps with
  | nil => exact Nat.le_refl _
  | cons p ps ih =>
    rw [List.flatMap_cons, List.flatMap_cons, List.length_append, List.length_append]
    exact Nat.add_le_add p.length_quoted_le ih

theorem flatMap_inPairs_eq_iff :
    ps.flatMap Stretch.inPairs = ps.flatMap Stretch.quoted ↔ ∀ p ∈ ps, p.Short := by
  constructor
  · intro h
    induction ps with
    | nil => simp
    | cons p ps ih =>
      rw [List.flatMap_cons, List.flatMap_cons] at h
      have hlength := congrArg List.length h
      rw [List.length_append, List.length_append] at hlength
      have hrest := length_flatMap_quoted_le ps
      have hp : p.Short := by
        by_contra hp
        have hlt := Stretch.length_quoted_lt hp
        omega
      rw [Stretch.inPairs_eq_quoted hp] at h
      exact List.forall_mem_cons.mpr ⟨hp, ih (List.append_cancel_left h)⟩
  · intro h
    rw [List.flatMap_def, List.flatMap_def,
      List.map_congr_left fun p hp => Stretch.inPairs_eq_quoted (h p hp)]

/-- A marker is kept but for the quotes around its versions, which are put around two numbers at a
    time. The markers that have each version quoted as a whole are those without a version of three
    numbers or more. -/
theorem quoteVersions_divided (marker : String) : ∃ ps, Divides marker.toList ps ∧
    (∀ qs, Divides marker.toList qs → qs = ps) ∧
    (quoteVersions marker).toList = ps.flatMap Stretch.inPairs ∧
    ((quoteVersions marker).toList = ps.flatMap Stretch.quoted ↔ ∀ p ∈ ps, p.Short) := by
  have hdivides := divides_stretches marker.toList
  have hquotes : (quoteVersions marker).toList =
      (stretches marker.toList).flatMap Stretch.inPairs := by
    rw [quoteVersions, String.toList_ofList, quoteFrom_of_divides hdivides]
  refine ⟨_, hdivides, fun qs hqs => (divides_iff.mp hqs).symm, hquotes, ?_⟩
  rw [hquotes, flatMap_inPairs_eq_iff]

example : quoteVersions ">=3.8,<3.12" = ">='3.8',<'3.12'" := by decide

/-- The third number of a version gets quotes of its own. -/
theorem quoteVersions_splits_version :
    let ps := [Stretch.other '>', .other '=', .version ['3'] [['8'], ['1']]]
    Divides ">=3.8.1".toList ps ∧ ps.flatMap Stretch.quoted = ">='3.8.1'".toList ∧
      quoteVersions ">=3.8.1" = ">='3.8'.'1'" ∧
      (quoteVersions ">=3.8.1").toList ≠ ps.flatMap Stretch.quoted := by
  intro ps
  have hdigits : ∀ ds ∈ [['3'], ['8'], ['1']], ds ≠ [] ∧ ds.all Text.isDigit = true := by decide
  have hnumbers : Numbers [['3'], ['8'], ['1']] :=
    fun ds hds => (hdigits ds hds).imp_right List.all_eq_true.mp
  have hend : NoNumber [] := ⟨nofun, nofun⟩
  exact ⟨.other (by decide) (.other (by decide) (.version hnumbers hend .nil)), by decide,
    by decide, by decide⟩

end ManifestMigration.Marker
