import Mathlib.Data.List.Basic
import ManifestMigration.Proofs.Name.Canonical

/-! The canonical form of a name is a normal form: runs of letters and digits with one hyphen between
    two of them.

    This does not depend on how other scripts are written in ASCII, as long as ASCII stays as it is.
    The runs are collected in one pass, which keeps in mind whether something else came since the last
    letter or digit; a hyphen is written when the next run starts, so there is none at either end. For
    names that start and end with a letter or a digit and hold hyphens, low lines and dots besides, the
    canonical form is the normalized name of PEP 503. -/

namespace ManifestMigration

namespace Text

variable {sep p q : Char → Bool}

/-! ### Runs of separators -/

/-- Every run of separators becomes one hyphen. -/
def collapse (sep : Char → Bool) : List Char → List Char
  | [] => []
  | c :: s =>
    if sep c then if s.head?.any sep then collapse sep s else '-' :: collapse sep s
    else c :: collapse sep s

theorem collapse_map {f : Char → Char} (hf : f '-' = '-') : ∀ {s : List Char},
    (∀ c ∈ s, p (f c) = q c) → collapse p (s.map f) = (collapse q s).map f
  | [], _ => rfl
  | c :: s, h => by
    obtain ⟨hc, hs⟩ := List.forall_mem_cons.mp h
    have hhead : (s.map f).head?.any p = s.head?.any q := by
      cases s with
      | nil => rfl
      | cons d s => exact hs d (List.mem_cons_self ..)
    rw [List.map_cons, collapse, collapse, hc, hhead, collapse_map hf hs]
    split
    · split
      · rfl
      · rw [List.map_cons, hf]
    · rfl

/-- A text that ends with a word is its words with one hyphen between two of them where there are
    separators; one that starts with separators has a hyphen more. -/
theorem intercalate_wordsBy : ∀ {s : List Char}, (∃ c ∈ s.getLast?, sep c = false) →
    (s.head?.any sep = false → ['-'].intercalate (wordsBy sep s) = collapse sep s) ∧
      (s.head?.any sep = true → '-' :: ['-'].intercalate (wordsBy sep s) = collapse sep s)
  | [], h => by simp at h
  | [c], h => by
    have hc : sep c = false := by simpa using h
    simp [wordsBy, pieces, collapse, hc]
  | c :: d :: s, h => by
    have hlast : ∃ c ∈ (d :: s).getLast?, sep c = false := by
      rwa [List.getLast?_cons_cons] at h
    obtain ⟨hword, hgap⟩ := intercalate_wordsBy hlast
    simp only [List.head?_cons, Option.any_some] at hword hgap ⊢
    rw [collapse, List.head?_cons, Option.any_some]
    cases hc : sep c with
    | true =>
      refine ⟨fun h => absurd h (by decide), fun _ => ?_⟩
      rw [wordsBy_cons hc, if_pos rfl]
      cases hd : sep d with
      | true => rw [if_pos rfl, hgap hd]
      | false => rw [if_neg Bool.false_ne_true, hword hd]
    | false =>
      refine ⟨fun _ => ?_, fun h => absurd h (by decide)⟩
      rw [if_neg Bool.false_ne_true]
      cases hd : sep d with
      | true =>
        have hwords : wordsBy sep (c :: d :: s) = [c] :: wordsBy sep (d :: s) := by
          rw [wordsBy_cons hd]
          exact (wordsBy_append hd [c] s).trans (by simp [wordsBy, pieces, hc])
        obtain ⟨e, he, hsep⟩ := hlast
        have hne : wordsBy sep (d :: s) ≠ [] := fun hnil => by
          rw [wordsBy_eq_nil_iff.mp hnil e (List.mem_of_mem_getLast? he)] at hsep
          cases hsep
        obtain ⟨w, ws, hmore⟩ := List.exists_cons_of_ne_nil hne
        rw [hwords, hmore, List.intercalate_cons_cons, ← hmore, ← hgap hd]
        rfl
      | false =>
        obtain ⟨w, ws, hpieces⟩ := pieces_cons_of_neg sep hd s
        rw [← hword hd, wordsBy, pieces, hc, wordsBy, hpieces]
        cases hfilter : ws.filter fun w => !w.isEmpty <;> simp [hfilter, List.intercalate_cons_cons]

end Text

namespace Name

variable {ascii : List Char → List Char} {name text u w : List Char} {c : Char} {scan : Scan}

/-- What is neither a letter nor a digit. -/
def isGap (c : Char) : Bool := !c.isAlphanum

/-! ### One pass -/

/-- What has been collected, and whether something else came since. -/
structure Scan where
  slug : List Char
  pending : Bool

/-- A letter or a digit is collected, behind a hyphen if there was a gap before it. -/
def Scan.step (scan : Scan) (c : Char) : Scan :=
  if isGap c then ⟨scan.slug, true⟩
  else
    ⟨(if scan.pending && !scan.slug.isEmpty then scan.slug ++ ['-'] else scan.slug) ++ [c], false⟩

/-- The pass over a text. -/
def Scan.run (text : List Char) : Scan := text.foldl Scan.step ⟨[], false⟩

/-- What a pass has collected: the runs of the text, the last of which may go on. -/
inductive Scan.Collects : List Char → Scan → Prop where
  | gap {u : List Char} (hu : ∀ c ∈ u.getLast?, isGap c = true) :
      Collects u ⟨['-'].intercalate (Text.wordsBy isGap u), !u.isEmpty⟩
  | run {u w : List Char} (hu : ∀ c ∈ u.getLast?, isGap c = true) (hne : w ≠ [])
      (hw : ∀ c ∈ w, isGap c = false) :
      Collects (u ++ w) ⟨['-'].intercalate (Text.wordsBy isGap u ++ [w]), false⟩

namespace Scan

theorem Collects.slug_eq (h : Collects text scan) :
    scan.slug = ['-'].intercalate (Text.wordsBy isGap text) := by
  cases h with
  | gap hu => rfl
  | run hu hne hw => rw [Text.wordsBy_append_word hu hne hw]

theorem Collects.step_of_gap (h : Collects text scan) (hc : isGap c = true) :
    Collects (text ++ [c]) (scan.step c) := by
  have hstep : scan.step c =
      ⟨['-'].intercalate (Text.wordsBy isGap (text ++ [c])), !(text ++ [c]).isEmpty⟩ := by
    rw [step, if_pos hc, h.slug_eq, Text.wordsBy_concat hc,
      List.isEmpty_eq_false_iff.mpr (List.concat_ne_nil c text), Bool.not_false]
  rw [hstep]
  exact .gap (by simpa using hc)

/-- A run starts behind a gap, with a hyphen unless it is the first one, and goes on behind itself. -/
theorem Collects.step_of_not_gap (h : Collects text scan) (hc : isGap c = false) :
    Collects (text ++ [c]) (scan.step c) := by
  cases h with
  | gap hu =>
    have hstep : step ⟨['-'].intercalate (Text.wordsBy isGap text), !text.isEmpty⟩ c =
        ⟨['-'].intercalate (Text.wordsBy isGap text ++ [[c]]), false⟩ := by
      by_cases hwords : Text.wordsBy isGap text = []
      · simp [step, hc, hwords]
      · have htext : text ≠ [] := by
          rintro rfl
          exact hwords rfl
        have hslug : ['-'].intercalate (Text.wordsBy isGap text) ≠ [] :=
          mt (Text.intercalate_eq_nil_iff fun w => Text.ne_nil_of_mem_wordsBy).mp hwords
        rw [Text.intercalate_concat _ _ hwords]
        simp [step, hc, hslug, htext]
    rw [hstep]
    exact .run hu (List.cons_ne_nil c []) (List.forall_mem_singleton.mpr hc)
  | @run u w hu hne hw =>
    have hstep : step ⟨['-'].intercalate (Text.wordsBy isGap u ++ [w]), false⟩ c =
        ⟨['-'].intercalate (Text.wordsBy isGap u ++ [w ++ [c]]), false⟩ := by
      rw [Text.intercalate_concat_append]
      simp [step, hc]
    rw [hstep, List.append_assoc]
    exact .run hu (by simp) (List.forall_mem_append.mpr ⟨hw, List.forall_mem_singleton.mpr hc⟩)

theorem collects_run (text : List Char) : Collects text (run text) := by
  induction text using List.reverseRecOn with
  | nil => exact .gap (by simp)
  | append_singleton text c ih =>
    rw [run, List.foldl_concat]
    cases hc : isGap c with
    | true => exact ih.step_of_gap hc
    | false => exact ih.step_of_not_gap hc

end Scan

/-! ### Normal forms -/

/-- A lower-case letter or a digit of ASCII. -/
def isSlugChar (c : Char) : Bool := c.isLower || c.isDigit

/-- Runs of lower-case letters and digits with one hyphen between two of them. -/
inductive IsSlug : List Char → Prop where
  | run {w : List Char} (hne : w ≠ []) (hw : ∀ c ∈ w, isSlugChar c = true) : IsSlug w
  | hyphen {w s : List Char} (hne : w ≠ []) (hw : ∀ c ∈ w, isSlugChar c = true) (hs : IsSlug s) :
      IsSlug (w ++ '-' :: s)

theorem isSlug_intercalate : ∀ {ws : List (List Char)}, ws ≠ [] →
    (∀ w ∈ ws, w ≠ [] ∧ ∀ c ∈ w, isSlugChar c = true) → IsSlug (['-'].intercalate ws)
  | [w], _, h => by
    obtain ⟨hne, hw⟩ := h w (List.mem_singleton_self w)
    rw [List.intercalate_singleton]
    exact .run hne hw
  | w :: w' :: ws, _, h => by
    obtain ⟨⟨hne, hw⟩, hmore⟩ := List.forall_mem_cons.mp h
    rw [List.intercalate_cons_cons, List.append_assoc, List.singleton_append]
    exact .hyphen hne hw (isSlug_intercalate (List.cons_ne_nil w' ws) hmore)

/-- Between two runs there are hyphens only. -/
theorem IsSlug.of_mem {s : List Char} (h : IsSlug s) : ∀ c ∈ s, isSlugChar c = true ∨ c = '-' := by
  induction h with
  | run hne hw => exact fun c hc => .inl (hw c hc)
  | hyphen hne hw hs ih =>
    intro c hc
    rcases List.mem_append.mp hc with hc | hc
    · exact .inl (hw c hc)
    · rcases List.mem_cons.mp hc with rfl | hc
      · exact .inr rfl
      · exact ih c hc

theorem isSlugChar_toLower (c : Char) : isSlugChar c.toLower = c.isAlphanum := by
  have hletter : c.toLower.isAlpha = c.toLower.isLower := by
    change (c.toLower.isUpper || c.toLower.isLower) = c.toLower.isLower
    rw [Text.isUpper_toLower, Bool.false_or]
  rw [← Text.isAlphanum_toLower, Char.isAlphanum, hletter, isSlugChar]

/-- The characters of a slug are written in ASCII and in lower case. -/
theorem of_isSlugChar (h : isSlugChar c = true) :
    c.toNat < 128 ∧ c.toLower = c ∧ isGap c = false := by
  have hlt : c.toNat < 128 := by
    rcases Bool.or_eq_true_iff.mp h with hlower | hdigit
    · have hrange : (decide (c.val ≥ 97) && decide (c.val ≤ 122)) = true := hlower
      have hhigh : c.toNat ≤ 122 := of_decide_eq_true (Bool.and_eq_true_iff.mp hrange).2
      omega
    · exact Text.toNat_lt_of_isDigit hdigit
  have hform := Text.of_ascii (fun c => !isSlugChar c || (c.toLower == c && !isGap c))
    (by decide +kernel) hlt
  exact ⟨hlt, by simpa [h] using hform⟩

/-! ### Names in ASCII -/

/-- A way of writing texts in ASCII that leaves ASCII as it is. -/
def KeepsAscii (ascii : List Char → List Char) : Prop := ∀ s, Text.IsAscii s → ascii s = s

/-- The canonical form of a name, from the way in which it is written in ASCII. -/
def slug (ascii : List Char → List Char) (name : List Char) : List Char :=
  (Scan.run ((ascii name).map Char.toLower)).slug

/-- The runs of a name. -/
def slugRuns (ascii : List Char → List Char) (name : List Char) : List (List Char) :=
  Text.wordsBy isGap ((ascii name).map Char.toLower)

theorem slug_eq (ascii : List Char → List Char) (name : List Char) :
    slug ascii name = ['-'].intercalate (slugRuns ascii name) :=
  (Scan.collects_run _).slug_eq

theorem of_mem_slugRuns (h : w ∈ slugRuns ascii name) :
    w ≠ [] ∧ ∀ c ∈ w, isSlugChar c = true := by
  refine ⟨Text.ne_nil_of_mem_wordsBy h, fun c hc => ?_⟩
  have hpiece := List.mem_of_mem_filter h
  have hgap := Text.not_sep_of_mem_pieces hc hpiece
  obtain ⟨d, -, rfl⟩ := List.mem_map.mp (Text.mem_of_mem_pieces hc hpiece)
  rw [isGap, Bool.not_eq_false', Text.isAlphanum_toLower] at hgap
  rwa [isSlugChar_toLower]

theorem slugRuns_eq_nil_iff :
    slugRuns ascii name = [] ↔ ∀ c ∈ ascii name, c.isAlphanum = false := by
  rw [slugRuns, Text.wordsBy_eq_nil_iff, List.forall_mem_map]
  simp only [isGap, Text.isAlphanum_toLower, Bool.not_eq_true']

theorem slug_eq_nil_iff : slug ascii name = [] ↔ ∀ c ∈ ascii name, c.isAlphanum = false := by
  rw [slug_eq, ← slugRuns_eq_nil_iff]
  exact Text.intercalate_eq_nil_iff fun w hw => (of_mem_slugRuns hw).1

theorem isSlug_slug (h : slug ascii name ≠ []) : IsSlug (slug ascii name) := by
  rw [slug_eq] at h ⊢
  refine isSlug_intercalate (fun hnil => h ?_) fun w => of_mem_slugRuns
  rw [hnil]
  rfl

/-- The runs of a slug are those it was joined from. -/
theorem slug_slug (hascii : KeepsAscii ascii) (name : List Char) :
    slug ascii (slug ascii name) = slug ascii name := by
  have hchars : ∀ c ∈ slug ascii name, c.toNat < 128 ∧ c.toLower = c := by
    intro c hc
    have hslug := isSlug_slug (List.ne_nil_of_mem hc)
    rcases hslug.of_mem c hc with hc | rfl
    · obtain ⟨hlt, hlower, -⟩ := of_isSlugChar hc
      exact ⟨hlt, hlower⟩
    · decide
  have hlower : (ascii (slug ascii name)).map Char.toLower = slug ascii name := by
    rw [hascii _ fun c hc => (hchars c hc).1]
    exact (List.map_congr_left fun c hc => (hchars c hc).2).trans (List.map_id _)
  have hruns : slugRuns ascii (slug ascii name) = slugRuns ascii name := by
    rw [slugRuns, hlower, slug_eq]
    refine Text.wordsBy_intercalate (by decide) fun w hw => ?_
    obtain ⟨hne, hw⟩ := of_mem_slugRuns hw
    exact ⟨hne, fun c hc => (of_isSlugChar (hw c hc)).2.2⟩
  rw [slug_eq, hruns, slug_eq]

/-! ### Names of distributions -/

/-- What PEP 503 takes for one in a name. -/
def isSeparator (c : Char) : Bool := c == '-' || c == '_' || c == '.'

/-- The normalized name of PEP 503: every run of separators as one hyphen, in lower case. -/
def normalized (name : List Char) : List Char := (Text.collapse isSeparator name).map Char.toLower

/-- Letters, digits and separators of ASCII, with a letter or a digit at either end. -/
structure IsDistribution (name : List Char) : Prop where
  chars : name.all (fun c => c.isAlphanum || isSeparator c) = true
  head : name.head?.any Char.isAlphanum = true
  last : name.getLast?.any Char.isAlphanum = true

theorem of_isSeparator (h : isSeparator c = true) : c.toNat < 128 ∧ isGap c = true := by
  simp only [isSeparator, Bool.or_eq_true, beq_iff_eq] at h
  rcases h with (rfl | rfl) | rfl <;> decide

theorem toNat_lt_of_isAlphanum (h : c.isAlphanum = true) : c.toNat < 128 := by
  rw [← isSlugChar_toLower] at h
  exact Text.toNat_lt_of_toLower (of_isSlugChar h).1

theorem isGap_toLower (c : Char) : isGap c.toLower = isGap c := by
  rw [isGap, Text.isAlphanum_toLower, isGap]

theorem slug_of_isDistribution (hascii : KeepsAscii ascii) (h : IsDistribution name) :
    slug ascii name = normalized name := by
  have hchars : ∀ c ∈ name, c.isAlphanum = true ∨ isSeparator c = true := fun c hc =>
    Bool.or_eq_true_iff.mp (List.all_eq_true.mp h.chars c hc)
  have hkeep : ascii name = name := by
    refine hascii name fun c hc => ?_
    rcases hchars c hc with hc | hc
    · exact toNat_lt_of_isAlphanum hc
    · exact (of_isSeparator hc).1
  have hgap : ∀ c ∈ name, isGap c.toLower = isSeparator c := by
    intro c hc
    rw [isGap_toLower]
    cases hsep : isSeparator c with
    | true => exact (of_isSeparator hsep).2
    | false =>
      have halphanum := (hchars c hc).resolve_right (by rw [hsep]; decide)
      rw [isGap, halphanum, Bool.not_true]
  have hhead : (name.map Char.toLower).head?.any isGap = false := by
    obtain ⟨c, hc, halphanum⟩ := (Option.any_eq_true ..).mp h.head
    rw [List.head?_map, hc, Option.map_some, Option.any_some, isGap_toLower, isGap, halphanum,
      Bool.not_true]
  have hlast : ∃ c ∈ (name.map Char.toLower).getLast?, isGap c = false := by
    obtain ⟨c, hc, halphanum⟩ := (Option.any_eq_true ..).mp h.last
    refine ⟨c.toLower, ?_, ?_⟩
    · rw [List.getLast?_map, hc, Option.map_some, Option.mem_some_iff]
    · rw [isGap_toLower, isGap, halphanum, Bool.not_true]
  rw [slug_eq, slugRuns, hkeep, (Text.intercalate_wordsBy hlast).1 hhead,
    Text.collapse_map (by decide) hgap, normalized]

/-! ### Names and modules -/

/-- The canonical form of a name as a text. -/
def canonicalBy (ascii : List Char → List Char) (name : String) : String :=
  String.ofList (slug ascii name.toList)

/-- The name of the module: low lines for the hyphens of the canonical form. -/
def moduleBy (ascii : List Char → List Char) (name : String) : String :=
  String.ofList ((canonicalBy ascii name).toList.map fun c => if c = '-' then '_' else c)

/-- What makes a canonical form a normal form. -/
structure IsNormalForm (ascii : List Char → List Char) (canonical module : String → String)
    (name : String) : Prop where
  slug : canonical name = "" ∨ IsSlug (canonical name).toList
  empty_iff : canonical name = "" ↔ ∀ c ∈ ascii name.toList, c.isAlphanum = false
  idempotent : canonical (canonical name) = canonical name
  module : module (canonical name) = module name
  normalized : IsDistribution name.toList →
    canonical name = String.ofList (normalized name.toList)

theorem isNormalForm_by (hascii : KeepsAscii ascii) (name : String) :
    IsNormalForm ascii (canonicalBy ascii) (moduleBy ascii) name := by
  have hidempotent : canonicalBy ascii (canonicalBy ascii name) = canonicalBy ascii name := by
    rw [canonicalBy, canonicalBy, String.toList_ofList, slug_slug hascii]
  have hempty : canonicalBy ascii name = "" ↔ slug ascii name.toList = [] :=
    String.ofList_eq_empty_iff
  refine ⟨?_, ?_, hidempotent, ?_, fun h => ?_⟩
  · by_cases hnil : slug ascii name.toList = []
    · exact .inl (hempty.mpr hnil)
    · refine .inr ?_
      rw [canonicalBy, String.toList_ofList]
      exact isSlug_slug hnil
  · rw [hempty, slug_eq_nil_iff]
  · rw [moduleBy, hidempotent, moduleBy]
  · rw [canonicalBy, slug_of_isDistribution hascii h]

/-- The way in which names are written in ASCII here: one character after another. -/
def written (name : List Char) : List Char := name.flatMap transliterate

theorem keepsAscii_written : KeepsAscii written := by
  intro s hs
  rw [written, List.flatMap_congr fun c hc => transliterate_of_lt (hs c hc)]
  exact List.flatMap_singleton' s

theorem map_toList_runs (name : String) :
    (runs name).map String.toList = slugRuns written name.toList := by
  have hruns : runs name = (slugRuns written name.toList).map String.ofList := rfl
  rw [hruns, List.map_map]
  exact (List.map_congr_left fun w _ => String.toList_ofList).trans (List.map_id _)

/-- The one pass makes what the runs are joined to. -/
theorem canonical_eq (name : String) : canonical name = canonicalBy written name := by
  have hhyphen : "-".toList = ['-'] := rfl
  rw [← String.toList_inj, canonical, String.toList_intercalate, map_toList_runs, hhyphen,
    canonicalBy, String.toList_ofList, slug_eq]

theorem moduleOf_eq (name : String) : moduleOf name = moduleBy written name := by
  have hplain : ∀ w ∈ slugRuns written name.toList,
      w.map (fun c => if c = '-' then '_' else c) = w := by
    intro w hw
    refine (List.map_congr_left fun c hc => if_neg ?_).trans (List.map_id _)
    rintro rfl
    exact absurd ((of_mem_slugRuns hw).2 _ hc) (by decide)
  have hline : "_".toList = ['_'] := rfl
  rw [← String.toList_inj, moduleOf, String.toList_intercalate, map_toList_runs, hline, moduleBy,
    String.toList_ofList, canonicalBy, String.toList_ofList, slug_eq, Text.map_intercalate,
    List.map_congr_left hplain, List.map_id', if_pos rfl]

/-- Whatever names look like in ASCII, as long as ASCII stays as it is, their canonical forms are
    normal forms, and so are those that are computed here. -/
theorem canonical_isNormalForm :
    (∀ ascii, KeepsAscii ascii → ∀ name,
      IsNormalForm ascii (canonicalBy ascii) (moduleBy ascii) name) ∧
    ∀ name, IsNormalForm written canonical moduleOf name := by
  have hcanonical : canonical = canonicalBy written := funext canonical_eq
  have hmodule : moduleOf = moduleBy written := funext moduleOf_eq
  refine ⟨fun ascii hascii => isNormalForm_by hascii, ?_⟩
  rw [hcanonical, hmodule]
  exact isNormalForm_by keepsAscii_written

theorem canonical_isNormalForm_of_umlaut :
    KeepsAscii written ∧
      IsNormalForm written (canonicalBy written) (moduleBy written) "Über..Paket " ∧
      IsNormalForm written canonical moduleOf "Über..Paket " ∧
      canonical "Über..Paket " = "uber-paket" ∧ moduleOf "Über..Paket " = "uber_paket" ∧
      IsDistribution "My.Project_-Name".toList ∧ canonical "My.Project_-Name" = "my-project-name" := by
  have hdistribution : IsDistribution "My.Project_-Name".toList := ⟨by decide, by decide, by decide⟩
  obtain ⟨hany, hhere⟩ := canonical_isNormalForm
  refine ⟨keepsAscii_written, hany written keepsAscii_written _, hhere _, by decide +kernel,
    by decide +kernel, hdistribution, ?_⟩
  rw [(hhere _).normalized hdistribution]
  decide

end Name

end ManifestMigration
