import ManifestMigration.Proofs.Version.Text

/-! The texts that are read as versions, and the numbers that are written in them.

    A version is a `v` perhaps, dotted numbers that fit a word, and up to three marks. The labels of
    the marks are told apart by what may follow them: where a label is read, no earlier one of the
    list starts the text, and where a mark is left out, none of its labels starts the next mark. A
    separator between two marks may be taken by either of them. Any digits may write the number of
    a mark, but it is read as it is written only if they are ASCII digits and the number fits a
    word. -/

namespace ManifestMigration

namespace Text

/-! ### Numbers as they are written -/

/-- What a digit of any script counts. -/
def digitValue (c : Char) : Nat :=
  ((digitZeros.find? fun z => z ≤ c.toNat && c.toNat < z + 10).map (c.toNat - ·)).getD 0

/-- The number that digits write, however large; no digits stand for zero. -/
def value (digits : List Char) : Nat := digits.foldl (fun n c => 10 * n + digitValue c) 0

theorem digitValue_of_ascii {c : Char} (h : c.isDigit = true) :
    digitValue c = c.toNat - '0'.toNat := by
  have hbounds : 48 ≤ c.toNat ∧ c.toNat ≤ 57 := by
    simpa [Char.isDigit, UInt32.le_iff_toNat_le] using h
  have hvalues : ∀ n ∈ List.range' 48 10, digitValue (Char.ofNat n) = n - 48 := by decide
  have hc := hvalues c.toNat (List.mem_range'_1.mpr (by omega))
  rwa [Char.ofNat_toNat] at hc

theorem value_eq_ofDigitChars {ds : List Char} (h : ∀ c ∈ ds, c.isDigit = true) :
    value ds = Nat.ofDigitChars 10 ds 0 := by
  refine List.foldl_ext _ _ _ fun n c hc => ?_
  rw [digitValue_of_ascii (h c hc)]

theorem word?_eq_some_iff {ds : List Char} {n : Nat} : word? ds = some n ↔
    ds ≠ [] ∧ (∀ c ∈ ds, c.isDigit = true) ∧ value ds = n ∧ n < wordLimit := by
  have hword : (!ds.isEmpty && ds.all Char.isDigit) = true ↔
      ds ≠ [] ∧ ∀ c ∈ ds, c.isDigit = true := by
    rw [Bool.and_eq_true, Bool.not_eq_true', List.isEmpty_eq_false_iff, List.all_eq_true]
  rw [word?, Option.ite_none_right_eq_some, hword, and_assoc]
  refine and_congr_right fun _ => and_congr_right fun hdigits => ?_
  rw [← value_eq_ofDigitChars hdigits]
  change (if value ds < wordLimit then some (value ds) else none) = some n ↔ _
  rw [Option.ite_none_right_eq_some, Option.some.injEq]
  constructor
  · rintro ⟨hlt, rfl⟩
    exact ⟨rfl, hlt⟩
  · rintro ⟨rfl, hlt⟩
    exact ⟨hlt, rfl⟩

end Text

namespace Version

theorem markNumber_of_word? {ds : List Char} {n : Nat} (h : Text.word? ds = some n) :
    markNumber ds = n := by
  rw [markNumber, h]
  rfl

/-- The number of a mark is read as it is written when it is written in ASCII digits and fits. -/
theorem markNumber_eq_value_iff {ds : List Char} : markNumber ds = Text.value ds ↔
    Text.value ds = 0 ∨ (∀ c ∈ ds, c.isDigit = true) ∧ Text.value ds < Text.wordLimit := by
  cases hword : Text.word? ds with
  | none =>
    rw [markNumber, hword]
    refine ⟨fun h => .inl h.symm, fun h => ?_⟩
    rcases h with h | ⟨hdigits, hlt⟩
    · exact h.symm
    · by_cases hnil : ds = []
      · rw [hnil]
        rfl
      · have hsome := Text.word?_eq_some_iff.mpr ⟨hnil, hdigits, rfl, hlt⟩
        rw [hword] at hsome
        cases hsome
  | some n =>
    obtain ⟨-, hdigits, hvalue, hlt⟩ := Text.word?_eq_some_iff.mp hword
    rw [markNumber_of_word? hword, hvalue]
    exact ⟨fun _ => .inr ⟨hdigits, hlt⟩, fun _ => rfl⟩

/-! ### Labels -/

theorem dropLabel?_eq_some_iff : ∀ {label s rest : List Char}, dropLabel? label s = some rest ↔
    ∃ u, s = u ++ rest ∧ u.map foldLetter = label
  | [], s, rest => by simp [dropLabel?]
  | l :: label, [], rest => by
    simp only [dropLabel?, reduceCtorEq, false_iff]
    rintro ⟨u, hu, hfold⟩
    rw [(List.append_eq_nil_iff.mp hu.symm).1] at hfold
    cases hfold
  | l :: label, c :: s, rest => by
    rw [dropLabel?]
    constructor
    · intro h
      split at h
      case isTrue hc =>
        obtain ⟨u, rfl, rfl⟩ := dropLabel?_eq_some_iff.mp h
        exact ⟨c :: u, rfl, by rw [List.map_cons, beq_iff_eq.mp hc]⟩
      case isFalse => cases h
    · rintro ⟨u, hu, hfold⟩
      obtain ⟨d, u, rfl⟩ := List.exists_cons_of_ne_nil (show u ≠ [] by rintro rfl; cases hfold)
      obtain ⟨rfl, rfl⟩ := List.cons.inj hu
      obtain ⟨rfl, hrest⟩ := List.cons.inj hfold
      rw [if_pos (beq_self_eq_true _)]
      exact dropLabel?_eq_some_iff.mpr ⟨u, rfl, hrest⟩

/-- A text that starts with the word and may go on with a letter of `next` may start with the
    label. -/
def mayStart (next : List Char) : List Char → List Char → Bool
  | [], _ => true
  | l :: _, [] => next.contains l
  | l :: label, c :: word => l == c && mayStart next label word

/-- A label does not start a text that starts with a word which rules it out. -/
theorem dropLabel?_eq_none {next : List Char} : ∀ {label u s : List Char},
    label ⊆ labelLetters → mayStart next label (u.map foldLetter) = false →
    (∀ c ∈ s.head?, foldLetter c ∈ labelLetters → foldLetter c ∈ next) →
    dropLabel? label (u ++ s) = none
  | [], _, _, _, h, _ => by cases h
  | l :: label, c :: u, s, hl, h, hs => by
    rw [List.cons_append, dropLabel?]
    split
    case isTrue hc =>
      rw [List.map_cons, mayStart, beq_iff_eq.mp hc, beq_self_eq_true, Bool.true_and] at h
      exact dropLabel?_eq_none (List.subset_of_cons_subset hl) h hs
    case isFalse => rfl
  | l :: label, [], [], _, _, _ => rfl
  | l :: label, [], c :: s, hl, h, hs => by
    rw [List.nil_append, dropLabel?]
    split
    case isTrue hc =>
      have hmem := hl (List.mem_cons_self ..)
      rw [← beq_iff_eq.mp hc] at hmem h
      have hnext := List.contains_iff_mem.mpr (hs c rfl hmem)
      rw [List.map_nil, mayStart, hnext] at h
      cases h
    case isFalse => rfl

theorem foldLetter_of_isDigit {c : Char} (h : Text.isDigit c = true) : foldLetter c = c := by
  have hlong : (c == 'ſ') = false := by
    rw [beq_eq_false_iff_ne]
    rintro rfl
    revert h
    decide
  have hlower : ¬ (c.val ≥ 'A'.val ∧ c.val ≤ 'Z'.val) := by
    rintro ⟨hlow, hhigh⟩
    have hbounds : 65 ≤ c.toNat ∧ c.toNat ≤ 90 := ⟨hlow, hhigh⟩
    have hletters : ∀ n ∈ List.range' 65 26, Text.isDigit (Char.ofNat n) = false := by decide
    have hc := hletters c.toNat (List.mem_range'_1.mpr (by omega))
    rw [Char.ofNat_toNat, h] at hc
    cases hc
  rw [foldLetter, hlong, if_neg Bool.false_ne_true]
  exact dif_neg hlower

/-- A letter of a label is no digit. -/
theorem isDigit_eq_false_of_letter {c : Char} (h : foldLetter c ∈ labelLetters) :
    Text.isDigit c = false := by
  by_contra hdigit
  rw [Bool.not_eq_false] at hdigit
  have hletters : labelLetters.any Text.isDigit = false := by decide
  rw [foldLetter_of_isDigit hdigit] at h
  exact List.any_eq_false.mp hletters c h hdigit

/-! ### Marks -/

/-- What may stand before a label and behind it. -/
def separators : List (List Char) := [[], ['-'], ['_'], ['.']]

theorem dropSeparator_cons {c : Char} (s : List Char) :
    dropSeparator (c :: s) = if c = '-' ∨ c = '_' ∨ c = '.' then s else c :: s := by
  simp only [dropSeparator, Bool.or_eq_true, beq_iff_eq, or_assoc]

theorem dropSeparator_of_letter {c : Char} (h : foldLetter c ∈ labelLetters) (s : List Char) :
    dropSeparator (c :: s) = c :: s := by
  rw [dropSeparator_cons, if_neg]
  rintro (rfl | rfl | rfl) <;> revert h <;> decide

theorem dropSeparator_of_isDigit {c : Char} (h : Text.isDigit c = true) (s : List Char) :
    dropSeparator (c :: s) = c :: s := by
  rw [dropSeparator_cons, if_neg]
  rintro (rfl | rfl | rfl) <;> revert h <;> decide

theorem exists_separator : ∀ s : List Char, ∃ gap ∈ separators, s = gap ++ dropSeparator s
  | [] => ⟨[], by decide, rfl⟩
  | c :: s => by
    rw [dropSeparator_cons]
    split
    case isTrue hc =>
      refine ⟨[c], ?_, rfl⟩
      rcases hc with rfl | rfl | rfl <;> decide
    case isFalse => exact ⟨[], by decide, rfl⟩

/-- A separator is dropped if no other one follows. -/
theorem dropSeparator_append {gap s : List Char} (hgap : gap ∈ separators)
    (hs : gap = [] → dropSeparator s = s) : dropSeparator (gap ++ s) = s := by
  simp only [separators, List.mem_cons, List.not_mem_nil, or_false] at hgap
  rcases hgap with rfl | rfl | rfl | rfl
  · exact hs rfl
  all_goals rfl

/-- A mark as it is written: a label in any case with a separator before and behind it perhaps, and
    the digits of its number, which may be missing. -/
structure MarkText {α : Type} (labels : List (String × α)) where
  lead : List Char
  label : List Char
  meant : α
  gap : List Char
  digits : List Char
  hlead : lead ∈ separators := by decide
  hlabel : (String.ofList (label.map foldLetter), meant) ∈ labels := by decide
  hgap : gap ∈ separators := by decide
  hdigits : digits.all Text.isDigit = true := by decide

variable {α β : Type} {labels : List (String × α)} {others : List (String × β)}
  {next r s : List Char}

namespace MarkText

/-- What follows the label. -/
def rest (m : MarkText labels) : List Char := m.gap ++ m.digits

def text (m : MarkText labels) : List Char := m.lead ++ (m.label ++ m.rest)

/-- What is marked, with its digits read as a number. -/
def content (number : List Char → Nat) (m : MarkText labels) : α × Nat := (m.meant, number m.digits)

end MarkText

/-- Labels that are told apart, when what goes on behind a mark starts with a letter of `next`: they
    are words, and none of them may be read where a later one is meant. -/
structure Clear (next : List Char) (labels : List (String × α)) : Prop where
  letters : next ⊆ labelLetters
  words : ∀ e ∈ labels, e.1.toList ≠ [] ∧ e.1.toList ⊆ labelLetters
  apart : labels.Pairwise fun e f => mayStart next e.1.toList f.1.toList = false

/-- Behind a separator perhaps, the text goes on with a letter of `next` if it goes on. -/
def Follows (next s : List Char) : Prop := ∀ c ∈ (dropSeparator s).head?, foldLetter c ∈ next

/-- The text, or what is left of it when the mark before has taken its separator. -/
def Near (s t : List Char) : Prop := s = t ∨ s = dropSeparator t

/-- A mark starts with a letter behind its separator. -/
theorem MarkText.head_label (hc : Clear next labels) (m : MarkText labels) :
    ∃ c u, m.label = c :: u ∧ foldLetter c ∈ labelLetters := by
  obtain ⟨hne, hletters⟩ := hc.words _ m.hlabel
  rw [String.toList_ofList] at hne hletters
  cases hu : m.label with
  | nil => exact absurd (by rw [hu, List.map_nil]) hne
  | cons c u => exact ⟨c, u, rfl, hletters (by rw [hu]; exact List.mem_cons_self ..)⟩

theorem Near.dropSeparator_text (hc : Clear next labels) (m : MarkText labels)
    (hs : Near s (m.text ++ r)) : dropSeparator s = m.label ++ (m.rest ++ r) := by
  obtain ⟨c, u, hu, hletter⟩ := m.head_label hc
  have hown : dropSeparator (m.label ++ (m.rest ++ r)) = m.label ++ (m.rest ++ r) := by
    rw [hu, List.cons_append, dropSeparator_of_letter hletter]
  have htext : dropSeparator (m.text ++ r) = m.label ++ (m.rest ++ r) := by
    rw [MarkText.text, List.append_assoc, List.append_assoc]
    exact dropSeparator_append m.hlead fun _ => hown
  rcases hs with rfl | rfl
  · exact htext
  · rw [htext, hown]

/-- What follows a mark starts with no digit, nor does what is left of it without its separator. -/
theorem Follows.isDigit_eq_false (hnext : next ⊆ labelLetters) (hr : Follows next r)
    (hs : Near s r) : ∀ c ∈ s.head?, Text.isDigit c = false := by
  have hdropped : ∀ c ∈ (dropSeparator r).head?, Text.isDigit c = false := fun c hc =>
    isDigit_eq_false_of_letter (hnext (hr c hc))
  rcases hs with rfl | rfl
  · intro c hc
    obtain ⟨s, rfl⟩ := List.head?_eq_some_iff.mp hc
    by_contra hdigit
    rw [Bool.not_eq_false] at hdigit
    rw [hdropped c (by rw [dropSeparator_of_isDigit hdigit]; rfl)] at hdigit
    cases hdigit
  · exact hdropped

/-- The digits of a mark are read up to what follows it. -/
theorem splitDigits_rest (hc : Clear next labels) (m : MarkText labels) (hr : Follows next r) :
    ∃ t, Text.splitDigits (dropSeparator (m.rest ++ r)) = (m.digits, t) ∧ Near t r := by
  have hdigits := List.all_eq_true.mp m.hdigits
  rw [MarkText.rest, List.append_assoc]
  by_cases hbare : m.gap = [] ∧ m.digits = []
  · -- nothing stands behind the label, so the next separator is taken
    have hnear : Near (dropSeparator r) r := .inr rfl
    rw [hbare.1, hbare.2]
    exact ⟨dropSeparator r, Text.splitDigits_append (List.forall_mem_nil _)
      (hr.isDigit_eq_false hc.letters hnear), hnear⟩
  · have hgap : m.gap = [] → dropSeparator (m.digits ++ r) = m.digits ++ r := by
      intro hnil
      obtain ⟨c, u, hu⟩ := List.exists_cons_of_ne_nil fun h => hbare ⟨hnil, h⟩
      rw [hu, List.cons_append,
        dropSeparator_of_isDigit (hdigits c (by rw [hu]; exact List.mem_cons_self ..))]
    rw [dropSeparator_append m.hgap hgap]
    exact ⟨r, Text.splitDigits_append hdigits (hr.isDigit_eq_false hc.letters (.inl rfl)),
      .inl rfl⟩

/-- No label that is ruled out by the label of a mark starts the text of the mark. -/
theorem dropLabel?_text (hc : Clear next labels) (m : MarkText labels) (hr : Follows next r)
    {label : List Char} (hl : label ⊆ labelLetters)
    (h : mayStart next label (m.label.map foldLetter) = false) :
    dropLabel? label (m.label ++ (m.rest ++ r)) = none := by
  refine dropLabel?_eq_none hl h fun c hhead hletter => ?_
  -- a letter behind the label stands in front of what follows the mark
  obtain ⟨u, hu⟩ := List.head?_eq_some_iff.mp hhead
  obtain ⟨t, hdigits, hnear⟩ := splitDigits_rest hc m hr
  have hneg : ¬ Text.isDigit c = true := by rw [isDigit_eq_false_of_letter hletter]; decide
  rw [hu, dropSeparator_of_letter hletter, Text.splitDigits, List.dropWhile_cons_of_neg hneg,
    Prod.mk.injEq] at hdigits
  obtain ⟨-, rfl⟩ := hdigits
  refine hr c ?_
  rcases hnear with heq | heq
  · rw [← heq, dropSeparator_of_letter hletter]
    rfl
  · rw [← heq]
    rfl

/-- A mark is read, and at most the separator of what follows it with it. -/
theorem readMark_text (hc : Clear next labels) (m : MarkText labels) (hr : Follows next r)
    (hs : Near s (m.text ++ r)) :
    ∃ t, readMark labels s = (some (m.content markNumber), t) ∧ Near t r := by
  obtain ⟨t, hdigits, hnear⟩ := splitDigits_rest hc m hr
  refine ⟨t, ?_, hnear⟩
  have hread : readMark? labels s = some (m.content markNumber, t) := by
    obtain ⟨before, after, hsplit⟩ := List.append_of_mem m.hlabel
    refine List.findSome?_eq_some_iff.mpr ⟨before, _, after, hsplit, ?_, fun e he => ?_⟩
    · have hlabel : dropLabel? (m.label.map foldLetter) (m.label ++ (m.rest ++ r)) =
          some (m.rest ++ r) := dropLabel?_eq_some_iff.mpr ⟨m.label, rfl, rfl⟩
      simp only [hs.dropSeparator_text hc, String.toList_ofList, hlabel, Option.map_some, hdigits]
      rfl
    · have hmem : e ∈ labels := hsplit ▸ List.mem_append_left _ he
      have hapart := (List.pairwise_append.mp (hsplit ▸ hc.apart)).2.2 e he _
        (List.mem_cons_self ..)
      rw [String.toList_ofList] at hapart
      have hnone := dropLabel?_text hc m hr (hc.words e hmem).2 hapart
      simp only [hs.dropSeparator_text hc, hnone, Option.map_none]
  rw [readMark, hread]

/-- Labels of which none is read where a mark with one of the others stands, when what goes on
    behind that mark starts with a letter of `next`. -/
def Apart (next : List Char) (labels : List (String × α)) (others : List (String × β)) : Prop :=
  ∀ e ∈ labels, ∀ f ∈ others, mayStart next e.1.toList f.1.toList = false

variable {next' : List Char}

/-- No mark is read where one with other labels stands. -/
theorem readMark_of_apart (hc : Clear next' labels) (ho : Clear next others)
    (hapart : Apart next labels others) (m : MarkText others) (hr : Follows next r)
    (hs : Near s (m.text ++ r)) : readMark labels s = (none, s) := by
  have hread : readMark? labels s = none := by
    refine List.findSome?_eq_none_iff.mpr fun e he => ?_
    have hword := hapart e he _ m.hlabel
    rw [String.toList_ofList] at hword
    have hnone := dropLabel?_text ho m hr (hc.words e he).2 hword
    simp only [hs.dropSeparator_text ho, hnone, Option.map_none]
  rw [readMark, hread]

theorem readMark_nil (hc : Clear next labels) : readMark labels [] = (none, []) := by
  have hread : readMark? labels [] = none := by
    refine List.findSome?_eq_none_iff.mpr fun e he => ?_
    obtain ⟨l, label, hlabel⟩ := List.exists_cons_of_ne_nil (hc.words e he).1
    simp only [dropSeparator, hlabel, dropLabel?, Option.map_none]
  rw [readMark, hread]

/-- The text of a mark that may be missing. -/
def markText (m? : Option (MarkText labels)) : List Char := m?.elim [] MarkText.text

/-- A mark is read if it is there, when nothing can be taken for it otherwise. -/
theorem readMark_markText (hc : Clear next labels) (m? : Option (MarkText labels))
    (hr : Follows next r)
    (habsent : ∀ t, Near t r → readMark labels t = (none, t)) (hs : Near s (markText m? ++ r)) :
    ∃ t, readMark labels s = (m?.map (·.content markNumber), t) ∧ Near t r := by
  cases m? with
  | none => exact ⟨s, habsent s hs, hs⟩
  | some m => exact readMark_text hc m hr hs

/-- What is read as a mark is one. -/
theorem exists_markText (labels : List (String × α)) (s : List Char) :
    ∃ m? : Option (MarkText labels), s = markText m? ++ (readMark labels s).2 ∧
      (readMark labels s).1 = m?.map (·.content markNumber) := by
  cases hread : readMark? labels s with
  | none =>
    rw [readMark, hread]
    exact ⟨none, rfl, rfl⟩
  | some found =>
    obtain ⟨⟨label, meant⟩, he, h⟩ := List.exists_of_findSome?_eq_some hread
    obtain ⟨t, ht, rfl⟩ := Option.map_eq_some_iff.mp h
    obtain ⟨u, hu, hfold⟩ := dropLabel?_eq_some_iff.mp ht
    obtain ⟨lead, hlead, hs⟩ := exists_separator s
    obtain ⟨gap, hgap, ht⟩ := exists_separator t
    let m : MarkText labels := ⟨lead, u, meant, gap, (Text.splitDigits (dropSeparator t)).1, hlead,
      by rwa [hfold, String.ofList_toList], hgap, List.all_takeWhile⟩
    have hdigits : dropSeparator t = m.digits ++ (dropSeparator t).dropWhile Text.isDigit :=
      List.takeWhile_append_dropWhile.symm
    have htext : s = m.text ++ (dropSeparator t).dropWhile Text.isDigit := by
      change s = lead ++ (u ++ (gap ++ m.digits)) ++ _
      rw [List.append_assoc, List.append_assoc, List.append_assoc, ← hdigits, ← ht, ← hu]
      exact hs
    rw [readMark, hread]
    exact ⟨some m, htext, rfl⟩

/-! ### The marks of a version -/

theorem clear_preLabels : Clear "prd".toList preLabels :=
  ⟨by decide, by decide, by decide⟩

theorem clear_postLabels : Clear "d".toList postLabels :=
  ⟨by decide, by decide, by decide⟩

theorem clear_devLabels : Clear [] devLabels := ⟨by decide, by decide, by decide⟩

theorem apart_pre_post : Apart "d".toList preLabels postLabels := by
  unfold Apart
  decide

theorem apart_pre_dev : Apart [] preLabels devLabels := by
  unfold Apart
  decide

theorem apart_post_dev : Apart [] postLabels devLabels := by
  unfold Apart
  decide

theorem follows_markText (ho : Clear next others)
    (hfirst : ∀ e ∈ others, e.1.toList.take 1 ⊆ next') (m? : Option (MarkText others))
    (hr : Follows next' r) : Follows next' (markText m? ++ r) := by
  cases m? with
  | none => exact hr
  | some m =>
    intro c hc
    have hdropped : dropSeparator (m.text ++ r) = m.label ++ (m.rest ++ r) :=
      Near.dropSeparator_text ho m (.inl rfl)
    obtain ⟨d, u, hu, -⟩ := m.head_label ho
    rw [show markText (some m) = m.text from rfl, hdropped, hu] at hc
    obtain rfl : d = c := Option.some.inj hc
    refine hfirst _ m.hlabel ?_
    rw [String.toList_ofList, hu]
    exact List.mem_cons_self ..

theorem Follows.mono (hr : Follows next r) (hsub : next ⊆ next') : Follows next' r :=
  fun c hc => hsub (hr c hc)

theorem readMark_absent (hc : Clear next' labels) (ho : Clear next others)
    (hapart : Apart next labels others) (m? : Option (MarkText others)) (hr : Follows next r)
    (hrest : ∀ t, Near t r → readMark labels t = (none, t)) :
    ∀ t, Near t (markText m? ++ r) → readMark labels t = (none, t) := by
  cases m? with
  | none => exact hrest
  | some m => exact fun t ht => readMark_of_apart hc ho hapart m hr ht

theorem readMark_near_nil (hc : Clear next labels) :
    ∀ t, Near t [] → readMark labels t = (none, t) := by
  rintro t (rfl | rfl) <;> exact readMark_nil hc

/-- The text of the marks of a version. -/
def marksText (pre? : Option (MarkText preLabels)) (post? : Option (MarkText postLabels))
    (dev? : Option (MarkText devLabels)) : List Char :=
  markText pre? ++ (markText post? ++ (markText dev? ++ []))

theorem follows_devText (dev? : Option (MarkText devLabels)) :
    Follows "d".toList (markText dev? ++ []) :=
  follows_markText clear_devLabels (by decide) dev? fun _ hc => by cases hc

theorem follows_postText (post? : Option (MarkText postLabels))
    (dev? : Option (MarkText devLabels)) :
    Follows "prd".toList (markText post? ++ (markText dev? ++ [])) :=
  follows_markText clear_postLabels (by decide) post?
    ((follows_devText dev?).mono (by decide))

theorem follows_marksText (pre? : Option (MarkText preLabels))
    (post? : Option (MarkText postLabels)) (dev? : Option (MarkText devLabels)) :
    Follows "abcprd".toList (marksText pre? post? dev?) :=
  follows_markText clear_preLabels (by decide) pre?
    ((follows_postText post? dev?).mono (by decide))

/-- Marks that are written one after another are read one after another. -/
theorem readMarks (pre? : Option (MarkText preLabels)) (post? : Option (MarkText postLabels))
    (dev? : Option (MarkText devLabels)) : ∃ t u,
      readMark preLabels (marksText pre? post? dev?) = (pre?.map (·.content markNumber), t) ∧
      readMark postLabels t = (post?.map (·.content markNumber), u) ∧
      readMark devLabels u = (dev?.map (·.content markNumber), []) := by
  have hend : Follows [] [] := fun _ hc => by cases hc
  have hdev := follows_devText dev?
  have hpost := follows_postText post? dev?
  obtain ⟨t, hpreRead, ht⟩ := readMark_markText clear_preLabels pre? hpost
    (readMark_absent clear_preLabels clear_postLabels apart_pre_post post? hdev
      (readMark_absent clear_preLabels clear_devLabels apart_pre_dev dev? hend
        (readMark_near_nil clear_preLabels))) (.inl rfl)
  obtain ⟨u, hpostRead, hu⟩ := readMark_markText clear_postLabels post? hdev
    (readMark_absent clear_postLabels clear_devLabels apart_post_dev dev? hend
      (readMark_near_nil clear_postLabels)) ht
  obtain ⟨w, hdevRead, hw⟩ := readMark_markText clear_devLabels dev? hend
    (readMark_near_nil clear_devLabels) hu
  obtain rfl : w = [] := hw.elim id id
  exact ⟨t, u, hpreRead, hpostRead, hdevRead⟩

/-! ### Releases -/

theorem mapM_word?_eq_some : ∀ {ss : List (List Char)},
    (∀ ds ∈ ss, (Text.word? ds).isSome = true) → ss.mapM Text.word? = some (ss.map markNumber)
  | [], _ => rfl
  | ds :: ss, h => by
    obtain ⟨hds, hss⟩ := List.forall_mem_cons.mp h
    obtain ⟨n, hn⟩ := Option.isSome_iff_exists.mp hds
    rw [List.mapM_cons, hn, mapM_word?_eq_some hss, List.map_cons, markNumber_of_word? hn]
    rfl

theorem of_mapM_word?_eq_some : ∀ {ss : List (List Char)} {ns : List Nat},
    ss.mapM Text.word? = some ns →
      (∀ ds ∈ ss, (Text.word? ds).isSome = true) ∧ ns = ss.map markNumber
  | [], _, h => ⟨List.forall_mem_nil _, (Option.some.inj h).symm⟩
  | ds :: ss, ns, h => by
    rw [List.mapM_cons] at h
    obtain ⟨n, hn, h⟩ := Option.bind_eq_some_iff.mp h
    obtain ⟨ms, hms, h⟩ := Option.bind_eq_some_iff.mp h
    obtain ⟨hss, rfl⟩ := of_mapM_word?_eq_some hms
    obtain rfl := Option.some.inj h
    refine ⟨List.forall_mem_cons.mpr ⟨by rw [hn]; rfl, hss⟩, ?_⟩
    rw [List.map_cons, markNumber_of_word? hn]

/-- The text of the segments behind the first. -/
def tailText (tail : List (List Char)) : List Char := tail.flatMap ('.' :: ·)

theorem tailText_cons (ds : List Char) (tail : List (List Char)) (r : List Char) :
    tailText (ds :: tail) ++ r = '.' :: (ds ++ (tailText tail ++ r)) := by
  simp [tailText]

theorem exists_tailText (s : List Char) : s = tailText (readTail s).1 ++ (readTail s).2 := by
  fun_induction readTail s with
  | case1 s hnone => rfl
  | case2 s hsome more rest hmore ih =>
    rw [hmore] at ih
    rw [tailText_cons, ← ih]
    exact congrArg _ List.takeWhile_append_dropWhile.symm
  | case3 s => rfl

/-- Behind a segment there is no digit. -/
theorem head_tailText (hr : ∀ c ∈ r.head?, Text.isDigit c = false) (tail : List (List Char)) :
    ∀ c ∈ (tailText tail ++ r).head?, Text.isDigit c = false := by
  cases tail with
  | nil => exact hr
  | cons ds tail =>
    rw [tailText_cons]
    exact fun c hc => Option.some.inj hc ▸ by decide

/-- Runs of digits, none of them empty. -/
def Numbers (ss : List (List Char)) : Prop :=
  ∀ ds ∈ ss, ds ≠ [] ∧ ∀ c ∈ ds, Text.isDigit c = true

/-- The text does not go on with a number, be it behind a dot. -/
structure NoNumber (s : List Char) : Prop where
  digit : ∀ c ∈ s.head?, Text.isDigit c = false
  dot : ∀ t, s = '.' :: t → ∀ c ∈ t.head?, Text.isDigit c = false

theorem Follows.noNumber (hnext : next ⊆ labelLetters) (hr : Follows next r) : NoNumber r where
  digit := hr.isDigit_eq_false hnext (.inl rfl)
  dot t ht := by
    have hdigit := hr.isDigit_eq_false hnext (.inr rfl)
    rwa [ht, dropSeparator_cons, if_pos (by decide)] at hdigit

/-- The segments behind the first are read up to where no number goes on. -/
theorem readTail_tailText (hr : NoNumber r) : ∀ {tail : List (List Char)}, Numbers tail →
    readTail (tailText tail ++ r) = (tail, r)
  | [], _ => by
    change readTail r = ([], r)
    unfold readTail
    split
    case h_1 s =>
      have hnone := Text.splitDigits_append (List.forall_mem_nil _) (hr.dot s rfl)
      rw [List.nil_append] at hnone
      rw [hnone]
      rfl
    case h_2 => rfl
  | ds :: tail, h => by
    obtain ⟨⟨hne, hdigits⟩, htail⟩ := List.forall_mem_cons.mp h
    have hsplit := Text.splitDigits_append hdigits (head_tailText hr.digit tail)
    rw [tailText_cons, readTail, hsplit, List.isEmpty_eq_false_iff.mpr hne,
      readTail_tailText hr htail]
    rfl

theorem numbers_readTail (s : List Char) : Numbers (readTail s).1 := by
  fun_induction readTail s with
  | case1 s hnone => exact List.forall_mem_nil _
  | case2 s hsome more rest hmore ih =>
    rw [hmore] at ih
    refine List.forall_mem_cons.mpr ⟨⟨fun hnil => hsome ?_, fun c => List.mem_takeWhile_imp⟩, ih⟩
    rw [hnil]
    rfl
  | case3 s => exact List.forall_mem_nil _

theorem noNumber_readTail (s : List Char) (hs : ∀ c ∈ s.head?, Text.isDigit c = false) :
    NoNumber (readTail s).2 := by
  fun_induction readTail s with
  | case1 s hnone =>
    refine ⟨hs, ?_⟩
    rintro t ht c hc
    obtain rfl : s = t := (List.cons.inj ht).2
    obtain ⟨u, rfl⟩ := List.head?_eq_some_iff.mp hc
    by_contra hdigit
    rw [Bool.not_eq_false] at hdigit
    rw [Text.splitDigits, List.takeWhile_cons_of_pos hdigit] at hnone
    cases hnone
  | case2 s hsome more rest hmore ih =>
    rw [hmore] at ih
    exact ih (Text.head_splitDigits s)
  | case3 s hdot => exact ⟨hs, fun t ht => absurd ht (hdot t)⟩

/-! ### Versions -/

/-- A version as it is written, in its parts. -/
structure VersionText where
  vee : List Char
  major : List Char
  tail : List (List Char)
  pre : Option (MarkText preLabels)
  post : Option (MarkText postLabels)
  dev : Option (MarkText devLabels)
  hvee : vee ∈ [[], ['v'], ['V']] := by decide
  segments : ∀ ds ∈ major :: tail, (Text.word? ds).isSome = true := by decide

namespace VersionText

/-- The text without the `v`. -/
def core (T : VersionText) : List Char :=
  T.major ++ (tailText T.tail ++ marksText T.pre T.post T.dev)

def text (T : VersionText) : List Char := T.vee ++ T.core

/-- The version, with its runs of digits read as numbers. -/
def version (number : List Char → Nat) (T : VersionText) : Version :=
  ⟨number T.major, T.tail.map number, T.pre.map (·.content number),
    T.post.map (number ·.digits), T.dev.map (number ·.digits), String.ofList T.core⟩

/-- The version that is read: the number of a mark is zero when it is no ASCII number that fits. -/
def read (T : VersionText) : Version := T.version markNumber

/-- The version that is written, with numbers of any size. -/
def written (T : VersionText) : Version := T.version Text.value

theorem ofText?_core (T : VersionText) : ofText? T.core = some T.read := by
  obtain ⟨hmajor, htail⟩ := List.forall_mem_cons.mp T.segments
  obtain ⟨major, hword⟩ := Option.isSome_iff_exists.mp hmajor
  have hletters : "abcprd".toList ⊆ labelLetters := by decide
  have hmarks := (follows_marksText T.pre T.post T.dev).noNumber hletters
  have hnumbers : Numbers T.tail := by
    intro ds hds
    obtain ⟨n, hn⟩ := Option.isSome_iff_exists.mp (htail ds hds)
    exact ⟨(Text.of_word?_eq_some hn).1, (Text.of_word?_eq_some hn).2.1⟩
  have hfirst : Text.splitDigits T.core =
      (T.major, tailText T.tail ++ marksText T.pre T.post T.dev) :=
    Text.splitDigits_append (Text.of_word?_eq_some hword).2.1
      (head_tailText hmarks.digit T.tail)
  obtain ⟨t, u, hpre, hpost, hdev⟩ := readMarks T.pre T.post T.dev
  simp only [ofText?, hfirst, readTail_tailText hmarks hnumbers, hpre, hpost, hdev, hword,
    mapM_word?_eq_some htail, Option.map_map]
  rw [read, version, markNumber_of_word? hword]
  rfl

end VersionText

/-- What is read as a version has its parts. -/
theorem exists_versionText {s : List Char} {v : Version} (h : ofText? s = some v) {vee : List Char}
    (hvee : vee ∈ [[], ['v'], ['V']]) : ∃ T : VersionText, T.text = vee ++ s ∧ T.read = v := by
  obtain ⟨pre?, hpreText, hpre⟩ := exists_markText preLabels (readTail (Text.splitDigits s).2).2
  obtain ⟨post?, hpostText, hpost⟩ := exists_markText postLabels
    (readMark preLabels (readTail (Text.splitDigits s).2).2).2
  obtain ⟨dev?, hdevText, hdev⟩ := exists_markText devLabels
    (readMark postLabels (readMark preLabels (readTail (Text.splitDigits s).2).2).2).2
  simp only [ofText?, hpre, hpost, hdev] at h
  split at h
  case h_2 => cases h
  case h_1 major tail hmajor htail hend =>
    obtain ⟨hsegments, rfl⟩ := of_mapM_word?_eq_some htail
    rw [hend] at hdevText
    have hfirst : s = (Text.splitDigits s).1 ++ (Text.splitDigits s).2 :=
      List.takeWhile_append_dropWhile.symm
    let T : VersionText := ⟨vee, (Text.splitDigits s).1, (readTail (Text.splitDigits s).2).1, pre?,
      post?, dev?, hvee, List.forall_mem_cons.mpr ⟨by rw [hmajor]; rfl, hsegments⟩⟩
    have hcore : T.core = s := by
      change (Text.splitDigits s).1 ++ (tailText (readTail (Text.splitDigits s).2).1 ++
        (markText pre? ++ (markText post? ++ (markText dev? ++ [])))) = s
      rw [← hdevText, ← hpostText, ← hpreText, ← exists_tailText, ← hfirst]
    refine ⟨T, congrArg _ hcore, ?_⟩
    cases h
    rw [VersionText.read, VersionText.version, hcore, markNumber_of_word? hmajor, Option.map_map,
      Option.map_map]
    rfl

theorem exists_vee : ∀ s : List Char, ∃ vee ∈ [[], ['v'], ['V']], s = vee ++ dropV s
  | [] => ⟨[], by decide, rfl⟩
  | c :: s => by
    rw [dropV]
    split
    case isTrue hc =>
      refine ⟨[c], ?_, rfl⟩
      simp only [Bool.or_eq_true, beq_iff_eq] at hc
      rcases hc with rfl | rfl <;> decide
    case isFalse => exact ⟨[], by decide, rfl⟩

theorem VersionText.dropV_text (T : VersionText) : dropV T.text = T.core := by
  obtain ⟨major, hword⟩ := Option.isSome_iff_exists.mp (T.segments T.major (List.mem_cons_self ..))
  obtain ⟨hne, hdigits, -⟩ := Text.of_word?_eq_some hword
  obtain ⟨c, u, hu⟩ := List.exists_cons_of_ne_nil hne
  have hc : ¬ (c == 'v' || c == 'V') = true := by
    have hdigit := hdigits c (hu ▸ List.mem_cons_self ..)
    simp only [Bool.or_eq_true, beq_iff_eq]
    rintro (rfl | rfl) <;> revert hdigit <;> decide
  have hvee := T.hvee
  simp only [List.mem_cons, List.not_mem_nil, or_false] at hvee
  rw [text]
  rcases hvee with hvee | hvee | hvee <;> rw [hvee]
  · rw [List.nil_append, core, hu, List.cons_append, dropV, if_neg hc]
  · rfl
  · rfl

/-- A text is read as a version exactly if, but for blanks around it, it is a version as it may be
    written; what is read then is what the parts say. -/
theorem parse?_eq_some_iff {s : String} {v : Version} : parse? s = some v ↔
    ∃ T : VersionText, Text.trim s.toList = T.text ∧ T.read = v := by
  constructor
  · intro h
    obtain ⟨vee, hvee, htrim⟩ := exists_vee (Text.trim s.toList)
    obtain ⟨T, htext, hread⟩ := exists_versionText h hvee
    exact ⟨T, htrim.trans htext.symm, hread⟩
  · rintro ⟨T, htrim, rfl⟩
    rw [parse?, htrim, T.dropV_text, T.ofText?_core]

end Version

end ManifestMigration
