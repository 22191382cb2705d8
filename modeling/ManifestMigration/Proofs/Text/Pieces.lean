import ManifestMigration.Text.Blank
import ManifestMigration.Text.Digit
import Mathlib.Data.List.DropRight

/-! Cutting a text that was put together, and the numbers written in it.

    Cutting at separators gives back the pieces that were joined, trimming leaves a text alone that
    neither starts nor ends with a blank, and a run of digits is read up to where it ends. -/

namespace ManifestMigration.Text

/-! ### Digits -/

theorem isDigit_of_ascii {c : Char} (h : c.isDigit = true) : isDigit c = true := by
  obtain ⟨hlow, hhigh⟩ : 48 ≤ c.toNat ∧ c.toNat ≤ 57 := by
    simpa [Char.isDigit, UInt32.le_iff_toNat_le] using h
  refine List.any_eq_true.mpr ⟨0x30, by decide, ?_⟩
  simp only [Bool.and_eq_true, decide_eq_true_eq]
  omega

/-- The code points of blanks, one by one. -/
def blankCodes : List Nat :=
  [9, 10, 11, 12, 13, 0x20, 0x85, 0xA0, 0x1680, 0x2000, 0x2001, 0x2002, 0x2003, 0x2004, 0x2005,
   0x2006, 0x2007, 0x2008, 0x2009, 0x200A, 0x2028, 0x2029, 0x202F, 0x205F, 0x3000]

theorem mem_blankCodes {c : Char} (h : isBlank c = true) : c.toNat ∈ blankCodes := by
  simp only [isBlank, Bool.or_eq_true, Bool.and_eq_true, decide_eq_true_eq, beq_iff_eq] at h
  simp only [blankCodes, List.mem_cons, List.not_mem_nil, or_false]
  omega

/-- What a class that holds no code point of a blank contains is no blank. -/
theorem isBlank_eq_false {p : Char → Bool} (hp : ∀ n ∈ blankCodes, p (Char.ofNat n) = false)
    {c : Char} (h : p c = true) : isBlank c = false := by
  by_contra hblank
  have hc := hp _ (mem_blankCodes ((Bool.not_eq_false _).mp hblank))
  rw [Char.ofNat_toNat, h] at hc
  cases hc

/-! ### Numbers -/

/-- The digits that a number is written with. -/
abbrev digits (n : Nat) : List Char := Nat.toDigits 10 n

theorem isDigit_of_mem_digits {n : Nat} {c : Char} (h : c ∈ digits n) : isDigit c = true :=
  isDigit_of_ascii (Nat.isDigit_of_mem_toDigits (by decide) (by decide) h)

theorem digits_injective : Function.Injective digits :=
  Function.LeftInverse.injective (g := fun s => Nat.ofDigitChars 10 s 0) fun _ =>
    Nat.ofDigitChars_ten_toDigits

theorem word?_digits {n : Nat} (h : n < wordLimit) : word? (digits n) = some n := by
  have hdigits : (!(digits n).isEmpty && (digits n).all Char.isDigit) = true := by
    rw [Bool.and_eq_true, Bool.not_eq_true', List.isEmpty_eq_false_iff, List.all_eq_true]
    exact ⟨Nat.toDigits_ne_nil, fun c => Nat.isDigit_of_mem_toDigits (by decide) (by decide)⟩
  rw [word?, if_pos hdigits]
  simp only [Nat.ofDigitChars_ten_toDigits, if_pos h]

/-- A word is read from digits, at least one, and fits. -/
theorem of_word?_eq_some {s : List Char} {n : Nat} (h : word? s = some n) :
    s ≠ [] ∧ (∀ c ∈ s, isDigit c = true) ∧ n < wordLimit := by
  rw [word?] at h
  split at h
  case isFalse => cases h
  case isTrue hs =>
    rw [Bool.and_eq_true, Bool.not_eq_true', List.isEmpty_eq_false_iff, List.all_eq_true] at hs
    by_cases hlt : Nat.ofDigitChars 10 s 0 < wordLimit
    · simp only [if_pos hlt, Option.some.injEq] at h
      exact ⟨hs.1, fun c hc => isDigit_of_ascii (hs.2 c hc), h ▸ hlt⟩
    · simp only [if_neg hlt] at h
      cases h

/-- A run of digits is read up to where it ends. -/
theorem splitDigits_append {u s : List Char} (hu : ∀ c ∈ u, isDigit c = true)
    (hs : ∀ c ∈ s.head?, isDigit c = false) : splitDigits (u ++ s) = (u, s) := by
  have hend : s.takeWhile isDigit = [] ∧ s.dropWhile isDigit = s := by
    cases s with
    | nil => exact ⟨rfl, rfl⟩
    | cons c s =>
      have hc : ¬ isDigit c = true := by rw [hs c rfl]; decide
      exact ⟨List.takeWhile_cons_of_neg hc, List.dropWhile_cons_of_neg hc⟩
  rw [splitDigits, List.takeWhile_append_of_pos hu, List.dropWhile_append_of_pos hu, hend.1, hend.2,
    List.append_nil]

/-- Behind a run of digits there is none. -/
theorem head_splitDigits (s : List Char) : ∀ c ∈ (splitDigits s).2.head?, isDigit c = false := by
  intro c hc
  have hrest := List.head?_dropWhile_not isDigit s
  rw [show s.dropWhile isDigit = (splitDigits s).2 from rfl, hc] at hrest
  simpa using hrest

/-! ### Trimming -/

theorem trimStart_eq_self {s : List Char} (hhead : ∀ c ∈ s.head?, isBlank c = false) :
    trimStart s = s := by
  cases s with
  | nil => rfl
  | cons c s => exact List.dropWhile_cons_of_neg (by rw [hhead c rfl]; decide)

theorem trim_eq_self {s : List Char} (hhead : ∀ c ∈ s.head?, isBlank c = false)
    (hlast : ∀ c ∈ s.getLast?, isBlank c = false) : trim s = s := by
  rw [trim, trimStart_eq_self hhead]
  refine List.rdropWhile_eq_self_iff.mpr fun hne hblank => ?_
  rw [hlast _ (List.getLast?_eq_some_getLast hne)] at hblank
  cases hblank

/-- Trimming takes blanks away at both ends. -/
theorem exists_trim (s : List Char) : ∃ p q, s = p ++ (trim s ++ q) ∧
    (∀ c ∈ p, isBlank c = true) ∧ ∀ c ∈ q, isBlank c = true := by
  refine ⟨s.takeWhile isBlank, (trimStart s).rtakeWhile isBlank, ?_,
    fun c => List.mem_takeWhile_imp, fun c => List.mem_rtakeWhile_imp⟩
  have hend : trim s ++ (trimStart s).rtakeWhile isBlank = trimStart s :=
    List.rdropWhile_append_rtakeWhile
  rw [hend]
  exact List.takeWhile_append_dropWhile.symm

theorem trim_eq_nil_iff {s : List Char} : trim s = [] ↔ ∀ c ∈ s, isBlank c = true := by
  constructor
  · intro h c hc
    obtain ⟨p, q, hs, hp, hq⟩ := exists_trim s
    rw [h, List.nil_append] at hs
    exact (List.mem_append.mp (hs ▸ hc)).elim (hp c) (hq c)
  · intro h
    rw [trim, trimStart, List.dropWhile_eq_nil_iff.mpr h]
    rfl

theorem trimEnd_append {q : List Char} (hq : ∀ c ∈ q, isBlank c = true) (s : List Char) :
    trimEnd (s ++ q) = trimEnd s := by
  have hrev : ∀ c ∈ q.reverse, isBlank c = true := fun c hc => hq c (List.mem_reverse.mp hc)
  rw [trimEnd, List.reverse_append, List.dropWhile_append_of_pos hrev, trimEnd]

/-- Blanks around a text are taken away with its own. -/
theorem trim_append_append {p q : List Char} (hp : ∀ c ∈ p, isBlank c = true)
    (hq : ∀ c ∈ q, isBlank c = true) (s : List Char) : trim (p ++ (s ++ q)) = trim s := by
  rw [trim, trimStart, List.dropWhile_append_of_pos hp, List.dropWhile_append]
  split
  · next hs =>
    rw [List.dropWhile_eq_nil_iff.mpr hq, trim, trimStart, List.isEmpty_iff.mp hs]
  · rw [trimEnd_append hq, trim, trimStart]

theorem trim_trim (s : List Char) : trim (trim s) = trim s := by
  obtain ⟨p, q, hs, hp, hq⟩ := exists_trim s
  conv_rhs => rw [hs]
  rw [trim_append_append hp hq]

/-- What ends with no blank stays in front of what is trimmed. -/
theorem trimEnd_append_of_getLast? {u : List Char} (hu : ∀ c ∈ u.getLast?, isBlank c = false)
    (s : List Char) : trimEnd (u ++ s) = u ++ trimEnd s := by
  induction s using List.reverseRecOn with
  | nil =>
    rw [List.append_nil]
    change u.rdropWhile isBlank = u ++ ([] : List Char).rdropWhile isBlank
    rw [List.rdropWhile_nil, List.append_nil, List.rdropWhile_eq_self_iff]
    intro hne hblank
    rw [hu _ (List.getLast?_eq_some_getLast hne)] at hblank
    cases hblank
  | append_singleton s c ih =>
    change (u ++ (s ++ [c])).rdropWhile isBlank = u ++ (s ++ [c]).rdropWhile isBlank
    rw [← List.append_assoc]
    by_cases hc : isBlank c = true
    · rw [List.rdropWhile_concat_pos _ _ _ hc, List.rdropWhile_concat_pos _ _ _ hc]
      exact ih
    · rw [List.rdropWhile_concat_neg _ _ _ hc, List.rdropWhile_concat_neg _ _ _ hc,
        List.append_assoc]

/-- Trimming takes no character away but blanks. -/
theorem countP_trim {p : Char → Bool} (hp : ∀ c, isBlank c = true → p c = false) (s : List Char) :
    (trim s).countP p = s.countP p := by
  obtain ⟨u, v, hs, hu, hv⟩ := exists_trim s
  have hnone : ∀ w : List Char, (∀ c ∈ w, isBlank c = true) → w.countP p = 0 := by
    intro w hw
    rw [List.countP_eq_zero]
    intro c hc
    simp [hp c (hw c hc)]
  conv_rhs => rw [hs]
  rw [List.countP_append, List.countP_append, hnone u hu, hnone v hv, Nat.zero_add, Nat.add_zero]

/-! ### Pieces -/

theorem pieces_eq_splitOnP (sep : Char → Bool) : ∀ s, pieces sep s = s.splitOnP sep
  | [] => rfl
  | c :: s => by
    rw [pieces, List.splitOnP_cons_eq_if_modifyHead, pieces_eq_splitOnP sep s]
    cases hs : s.splitOnP sep with
    | nil => exact absurd hs (List.splitOnP_ne_nil sep s)
    | cons w ws => rfl

/-- A text without separators is one piece. -/
theorem pieces_of_forall {sep : Char → Bool} {w : List Char} (h : ∀ c ∈ w, sep c = false) :
    pieces sep w = [w] := by
  rw [pieces_eq_splitOnP, List.splitOnP_eq_singleton h]

/-- The first piece ends at the first separator. -/
theorem pieces_append_cons {sep : Char → Bool} {w : List Char} (h : ∀ c ∈ w, sep c = false)
    {c : Char} (hc : sep c = true) (s : List Char) :
    pieces sep (w ++ c :: s) = w :: pieces sep s := by
  rw [pieces_eq_splitOnP, List.splitOnP_append_cons_of_forall_mem h c hc, pieces_eq_splitOnP]

/-- Pieces that were joined by a separator and contain none are cut apart again. -/
theorem pieces_intercalate {sep : Char → Bool} {c : Char} (hc : sep c = true) :
    ∀ {ws : List (List Char)}, ws ≠ [] → (∀ w ∈ ws, ∀ c ∈ w, sep c = false) →
      pieces sep ([c].intercalate ws) = ws
  | [w], _, h => by
    rw [List.intercalate_singleton]
    exact pieces_of_forall (h w (List.mem_singleton_self w))
  | w :: w' :: ws, _, h => by
    rw [List.intercalate_cons_cons, List.append_assoc, List.singleton_append,
      pieces_append_cons (h w (List.mem_cons_self ..)) hc,
      pieces_intercalate hc (List.cons_ne_nil w' ws) fun u hu => h u (List.mem_cons_of_mem _ hu)]

/-- A text that was put together holds its pieces and what joins them. -/
theorem of_mem_intercalate {c a : Char} : ∀ {ws : List (List Char)}, c ∈ [a].intercalate ws →
    c = a ∨ ∃ w ∈ ws, c ∈ w
  | [], h => by cases h
  | [w], h => .inr ⟨w, List.mem_singleton_self w, by rwa [List.intercalate_singleton] at h⟩
  | w :: w' :: ws, h => by
    rw [List.intercalate_cons_cons, List.mem_append, List.mem_append, List.mem_singleton] at h
    rcases h with (h | h) | h
    · exact .inr ⟨w, List.mem_cons_self .., h⟩
    · exact .inl h
    · refine (of_mem_intercalate h).imp_right fun ⟨u, hu, hcu⟩ => ?_
      exact ⟨u, List.mem_cons_of_mem _ hu, hcu⟩

/-- A word that is added is joined to the others. -/
theorem intercalate_concat (a : Char) (w : List Char) : ∀ {ws : List (List Char)}, ws ≠ [] →
    [a].intercalate (ws ++ [w]) = [a].intercalate ws ++ a :: w
  | [v], _ => by simp [List.intercalate_cons_cons]
  | v :: v' :: ws, _ => by
    have ih := intercalate_concat a w (List.cons_ne_nil v' ws)
    simp only [List.cons_append, List.intercalate_cons_cons] at ih ⊢
    rw [ih]
    simp

/-- The last word may grow after the words have been joined. -/
theorem intercalate_concat_append (a : Char) (ws : List (List Char)) (w v : List Char) :
    [a].intercalate (ws ++ [w ++ v]) = [a].intercalate (ws ++ [w]) ++ v := by
  by_cases h : ws = []
  · simp [h]
  · rw [intercalate_concat a _ h, intercalate_concat a _ h, List.append_assoc, List.cons_append]

/-- Words that were joined are nothing only if there are none. -/
theorem intercalate_eq_nil_iff {a : Char} {ws : List (List Char)} (h : ∀ w ∈ ws, w ≠ []) :
    [a].intercalate ws = [] ↔ ws = [] := by
  constructor
  · intro hnil
    cases ws with
    | nil => rfl
    | cons w ws =>
      have hw := h w (List.mem_cons_self ..)
      cases ws with
      | nil => exact absurd (by simpa using hnil) hw
      | cons w' ws => simp [List.intercalate_cons_cons] at hnil
  · rintro rfl
    rfl

theorem map_intercalate (f : Char → Char) (a : Char) : ∀ ws : List (List Char),
    ([a].intercalate ws).map f = [f a].intercalate (ws.map (List.map f))
  | [] => rfl
  | [w] => by simp
  | w :: w' :: ws => by
    have ih := map_intercalate f a (w' :: ws)
    simp only [List.map_cons, List.intercalate_cons_cons, List.map_append, List.map_nil] at ih ⊢
    rw [ih]

/-- A first character that is no separator starts the first piece. -/
theorem pieces_cons_of_neg (sep : Char → Bool) {c : Char} (hc : sep c = false) (s : List Char) :
    ∃ w ws, pieces sep (c :: s) = (c :: w) :: ws := by
  simp only [pieces, hc]
  cases pieces sep s with
  | nil => exact ⟨[], [], rfl⟩
  | cons w ws => exact ⟨w, ws, rfl⟩

/-- Every character of a piece is one of the text. -/
theorem mem_of_mem_pieces {sep : Char → Bool} {c : Char} {w : List Char} (hc : c ∈ w) :
    ∀ {s : List Char}, w ∈ pieces sep s → c ∈ s
  | [], h => by
    rw [List.mem_singleton.mp h] at hc
    cases hc
  | a :: s, h => by
    rw [pieces_eq_splitOnP, List.splitOnP_cons_eq_if_modifyHead, ← pieces_eq_splitOnP] at h
    split at h
    · rcases List.mem_cons.mp h with rfl | h
      · cases hc
      · exact List.mem_cons_of_mem _ (mem_of_mem_pieces hc h)
    · cases hs : pieces sep s with
      | nil => rw [hs] at h; cases h
      | cons u us =>
        rw [hs, List.modifyHead_cons, List.mem_cons] at h
        rcases h with rfl | h
        · rcases List.mem_cons.mp hc with rfl | hc
          · exact List.mem_cons_self ..
          · exact List.mem_cons_of_mem _ (mem_of_mem_pieces hc (hs ▸ List.mem_cons_self ..))
        · exact List.mem_cons_of_mem _ (mem_of_mem_pieces hc (hs ▸ List.mem_cons_of_mem _ h))

theorem pieces_ne_nil (sep : Char → Bool) (s : List Char) : pieces sep s ≠ [] := by
  rw [pieces_eq_splitOnP]
  exact List.splitOnP_ne_nil sep s

/-- A separator cuts a text in two, wherever it stands. -/
theorem pieces_append {sep : Char → Bool} {c : Char} (hc : sep c = true) (u s : List Char) :
    pieces sep (u ++ c :: s) = pieces sep u ++ pieces sep s := by
  rw [pieces_eq_splitOnP, pieces_eq_splitOnP, pieces_eq_splitOnP, List.splitOnP_append_cons u s hc]

/-- A separator at the end is followed by an empty piece. -/
theorem pieces_concat {sep : Char → Bool} {c : Char} (hc : sep c = true) (s : List Char) :
    pieces sep (s ++ [c]) = pieces sep s ++ [[]] :=
  pieces_append hc s []

/-- Pieces hold no separators. -/
theorem not_sep_of_mem_pieces {sep : Char → Bool} {c : Char} {w : List Char} (hc : c ∈ w) :
    ∀ {s : List Char}, w ∈ pieces sep s → sep c = false
  | [], h => by
    rw [List.mem_singleton.mp h] at hc
    cases hc
  | a :: s, h => by
    rw [pieces_eq_splitOnP, List.splitOnP_cons_eq_if_modifyHead, ← pieces_eq_splitOnP] at h
    split at h
    · rcases List.mem_cons.mp h with rfl | h
      · cases hc
      · exact not_sep_of_mem_pieces hc h
    case isFalse ha =>
      obtain ⟨u, us, hs⟩ := List.exists_cons_of_ne_nil (pieces_ne_nil sep s)
      rw [hs, List.modifyHead_cons, List.mem_cons] at h
      rcases h with rfl | h
      · rcases List.mem_cons.mp hc with rfl | hc
        · exact (Bool.not_eq_true _).mp ha
        · exact not_sep_of_mem_pieces hc (hs ▸ List.mem_cons_self ..)
      · exact not_sep_of_mem_pieces hc (hs ▸ List.mem_cons_of_mem _ h)

/-- A last character that is no separator ends the last piece. -/
theorem pieces_concat_of_neg (sep : Char → Bool) {c : Char} (hc : sep c = false) :
    ∀ s : List Char, ∃ ws w, pieces sep (s ++ [c]) = ws ++ [w ++ [c]]
  | [] => ⟨[], [], by simp [pieces, hc]⟩
  | a :: s => by
    obtain ⟨ws, w, h⟩ := pieces_concat_of_neg sep hc s
    rw [List.cons_append, pieces, h]
    split
    · exact ⟨[] :: ws, w, rfl⟩
    · cases ws with
      | nil => exact ⟨[], a :: w, rfl⟩
      | cons u us => exact ⟨(a :: u) :: us, w, rfl⟩

theorem ne_nil_of_mem_wordsBy {sep : Char → Bool} {s w : List Char} (h : w ∈ wordsBy sep s) :
    w ≠ [] := by
  rintro rfl
  cases (List.mem_filter.mp h).2

/-- A separator cuts the words of a text in two. -/
theorem wordsBy_append {sep : Char → Bool} {c : Char} (hc : sep c = true) (u s : List Char) :
    wordsBy sep (u ++ c :: s) = wordsBy sep u ++ wordsBy sep s := by
  rw [wordsBy, pieces_append hc, List.filter_append, wordsBy, wordsBy]

theorem wordsBy_cons {sep : Char → Bool} {c : Char} (hc : sep c = true) (s : List Char) :
    wordsBy sep (c :: s) = wordsBy sep s :=
  wordsBy_append hc [] s

theorem wordsBy_concat {sep : Char → Bool} {c : Char} (hc : sep c = true) (s : List Char) :
    wordsBy sep (s ++ [c]) = wordsBy sep s := by
  rw [wordsBy_append hc]
  exact List.append_nil _

/-- A text without words has nothing but separators. -/
theorem wordsBy_eq_nil_iff {sep : Char → Bool} : ∀ {s : List Char},
    wordsBy sep s = [] ↔ ∀ c ∈ s, sep c = true
  | [] => by simp [wordsBy, pieces]
  | c :: s => by
    rw [List.forall_mem_cons, ← wordsBy_eq_nil_iff]
    cases hc : sep c with
    | true => simp [wordsBy_cons hc]
    | false =>
      obtain ⟨w, ws, hpieces⟩ := pieces_cons_of_neg sep hc s
      rw [wordsBy, hpieces]
      simp

/-- Separators around a text make no words. -/
theorem wordsBy_append_append {sep : Char → Bool} {p q : List Char} (s : List Char)
    (hp : ∀ c ∈ p, sep c = true) (hq : ∀ c ∈ q, sep c = true) :
    wordsBy sep (p ++ (s ++ q)) = wordsBy sep s := by
  have hend : wordsBy sep (s ++ q) = wordsBy sep s := by
    induction q using List.reverseRecOn with
    | nil => rw [List.append_nil]
    | append_singleton q c ih =>
      obtain ⟨hq, hlast⟩ := List.forall_mem_append.mp hq
      have hc : sep c = true := hlast c (List.mem_singleton_self c)
      rw [← ih hq, ← List.append_assoc, wordsBy_concat hc]
  induction p with
  | nil => exact hend
  | cons c p ih =>
    obtain ⟨hc, hp⟩ := List.forall_mem_cons.mp hp
    rw [← ih hp, List.cons_append, wordsBy_cons hc]

/-- What stands behind a separator is a word. -/
theorem wordsBy_append_word {sep : Char → Bool} {u w : List Char}
    (hu : ∀ c ∈ u.getLast?, sep c = true) (hne : w ≠ []) (hw : ∀ c ∈ w, sep c = false) :
    wordsBy sep (u ++ w) = wordsBy sep u ++ [w] := by
  have hword : wordsBy sep w = [w] := by
    rw [wordsBy, pieces_of_forall hw]
    simp [hne]
  cases u using List.reverseRecOn with
  | nil => exact hword
  | append_singleton u c =>
    have hc : sep c = true := hu c (by simp)
    rw [List.append_assoc, List.singleton_append, wordsBy_append hc, hword, wordsBy_concat hc]

/-- Words that were joined by a separator and contain none are cut apart again. -/
theorem wordsBy_intercalate {sep : Char → Bool} {a : Char} (ha : sep a = true)
    {ws : List (List Char)} (h : ∀ w ∈ ws, w ≠ [] ∧ ∀ c ∈ w, sep c = false) :
    wordsBy sep ([a].intercalate ws) = ws := by
  by_cases hnil : ws = []
  · subst hnil
    rfl
  · rw [wordsBy, pieces_intercalate ha hnil fun w hw => (h w hw).2, List.filter_eq_self]
    intro w hw
    simp [(h w hw).1]

end ManifestMigration.Text
