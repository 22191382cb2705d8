import ManifestMigration.Proofs.Text.Pieces
import ManifestMigration.Version.Reader

/-! The text of a version reads back as that version.

    A version that was read keeps the text it was read from, with its separators and labels as they
    were; a final release is written with its segments. Either way the text consists of digits, of
    letters of labels and of the separators `-`, `_` and `.`, and starts with a digit, so it can
    stand in a list of clauses. -/

namespace ManifestMigration

namespace Version

/-! ### Characters of a version -/

/-- The letters that the labels are made of. -/
def labelLetters : List Char := "abcdehiloprstvw".toList

/-- A character that a version may be written with. -/
def isTextChar (c : Char) : Bool :=
  Text.isDigit c || c == '-' || c == '_' || c == '.' || labelLetters.contains (foldLetter c)

theorem isTextChar_of_isDigit {c : Char} (h : Text.isDigit c = true) : isTextChar c = true := by
  simp only [isTextChar, h, Bool.true_or]

theorem isBlank_eq_false_of_isTextChar {c : Char} (h : isTextChar c = true) :
    Text.isBlank c = false :=
  Text.isBlank_eq_false (by decide) h

/-- The text goes on with the rest behind characters that a version may be written with. -/
def Spelled (s rest : List Char) : Prop := ∃ u, s = u ++ rest ∧ ∀ c ∈ u, isTextChar c = true

theorem Spelled.refl (s : List Char) : Spelled s s := ⟨[], rfl, by simp⟩

theorem Spelled.trans {s t r : List Char} : Spelled s t → Spelled t r → Spelled s r
  | ⟨u, hs, hu⟩, ⟨w, ht, hw⟩ => ⟨u ++ w, by rw [hs, ht, List.append_assoc], fun c hc =>
      (List.mem_append.mp hc).elim (hu c) (hw c)⟩

theorem spelled_cons {c : Char} (hc : isTextChar c = true) (s : List Char) : Spelled (c :: s) s :=
  ⟨[c], rfl, by simpa using hc⟩

theorem spelled_splitDigits (s : List Char) : Spelled s (Text.splitDigits s).2 := by
  refine ⟨s.takeWhile Text.isDigit, List.takeWhile_append_dropWhile.symm, fun c hc => ?_⟩
  exact isTextChar_of_isDigit (List.all_eq_true.mp List.all_takeWhile c hc)

theorem spelled_dropSeparator : ∀ s : List Char, Spelled s (dropSeparator s)
  | [] => .refl _
  | c :: s => by
    rw [dropSeparator]
    split
    case isTrue hc =>
      refine spelled_cons ?_ s
      simp only [Bool.or_eq_true] at hc
      simp only [isTextChar, Bool.or_eq_true]
      tauto
    case isFalse => exact .refl _

theorem spelled_dropLabel? : ∀ {label s rest : List Char}, (∀ l ∈ label, l ∈ labelLetters) →
    dropLabel? label s = some rest → Spelled s rest
  | [], _, _, _, h => by
    rw [dropLabel?, Option.some.injEq] at h
    exact h ▸ .refl _
  | _ :: _, [], _, _, h => by cases h
  | l :: label, c :: s, rest, hl, h => by
    rw [dropLabel?] at h
    split at h
    case isTrue hc =>
      have hletter : labelLetters.contains (foldLetter c) = true := by
        rw [beq_iff_eq.mp hc, List.contains_iff_mem]
        exact hl l (List.mem_cons_self ..)
      refine (spelled_cons (by rw [isTextChar, hletter, Bool.or_true]) s).trans ?_
      exact spelled_dropLabel? (fun k hk => hl k (List.mem_cons_of_mem _ hk)) h
    case isFalse => cases h

/-- The labels are made of the letters of labels. -/
def labelsSpelled {α : Type} (labels : List (String × α)) : Bool :=
  labels.all fun e => e.1.toList.all labelLetters.contains

theorem spelled_readMark {α : Type} {labels : List (String × α)} (hl : labelsSpelled labels = true)
    (s : List Char) : Spelled s (readMark labels s).2 := by
  rw [readMark]
  split
  case h_2 => exact .refl _
  case h_1 mark rest h =>
    obtain ⟨e, he, h⟩ := List.exists_of_findSome?_eq_some h
    obtain ⟨t, ht, h⟩ := Option.map_eq_some_iff.mp h
    have hletters : ∀ l ∈ e.1.toList, l ∈ labelLetters := fun l hmem =>
      List.contains_iff_mem.mp (List.all_eq_true.mp (List.all_eq_true.mp hl e he) l hmem)
    have hlabel := spelled_dropLabel? hletters ht
    have hrest : (Text.splitDigits (dropSeparator t)).2 = rest := (Prod.mk.injEq .. ▸ h).2
    rw [← hrest]
    exact (spelled_dropSeparator s).trans <| hlabel.trans <|
      (spelled_dropSeparator t).trans (spelled_splitDigits _)

theorem spelled_readTail (s : List Char) : Spelled s (readTail s).2 := by
  fun_induction readTail s with
  | case1 s hnone => exact .refl _
  | case2 s hsome more rest hmore ih =>
    rw [hmore] at ih
    exact (spelled_cons (by decide) s).trans ((spelled_splitDigits s).trans ih)
  | case3 s => exact .refl _

/-! ### Reading back -/

/-- The version is read back from its text. -/
def Legible (v : Version) : Prop := parse? v.text = some v

/-- The segments of the release fit a word. -/
def Fits (v : Version) : Prop := ∀ n ∈ v.release, n < Text.wordLimit

theorem lt_of_mapM_word? {n : Nat} : ∀ {ss : List (List Char)} {ns : List Nat},
    ss.mapM Text.word? = some ns → n ∈ ns → n < Text.wordLimit
  | [], ns, h, hn => by
    rw [List.mapM_nil, Option.pure_def, Option.some.injEq] at h
    rw [← h] at hn
    cases hn
  | s :: ss, ns, h, hn => by
    rw [List.mapM_cons] at h
    obtain ⟨m, hm, h⟩ := Option.bind_eq_some_iff.mp h
    obtain ⟨ms, hms, h⟩ := Option.bind_eq_some_iff.mp h
    rw [Option.pure_def, Option.some.injEq] at h
    rw [← h, List.mem_cons] at hn
    rcases hn with rfl | hn
    · exact (Text.of_word?_eq_some hm).2.2
    · exact lt_of_mapM_word? hms hn

/-- A text that starts with a number starts with a digit. -/
theorem head_of_word? {text : List Char} {n : Nat}
    (h : Text.word? (Text.splitDigits text).1 = some n) :
    ∃ c s, text = c :: s ∧ Text.isDigit c = true := by
  have hne := (Text.of_word?_eq_some h).1
  cases text with
  | nil => exact absurd rfl hne
  | cons c s =>
    refine ⟨c, s, rfl, ?_⟩
    by_contra hc
    exact hne (List.takeWhile_cons_of_neg hc)

/-- What is known of a text that was read, and of the version read from it. -/
theorem of_ofText?_eq_some {text : List Char} {v : Version} (h : ofText? text = some v) :
    v.text = String.ofList text ∧ (∀ c ∈ text, isTextChar c = true) ∧
      (∃ c s, text = c :: s ∧ Text.isDigit c = true) ∧ v.Fits := by
  simp only [ofText?] at h
  split at h
  case h_2 => cases h
  case h_1 major tail hmajor htail hrest =>
    have hpre : labelsSpelled preLabels = true := by decide +kernel
    have hpost : labelsSpelled postLabels = true := by decide +kernel
    have hdev : labelsSpelled devLabels = true := by decide +kernel
    have hspelled := (spelled_splitDigits text).trans <| (spelled_readTail _).trans <|
      (spelled_readMark hpre _).trans <| (spelled_readMark hpost _).trans <|
      spelled_readMark hdev _
    rw [hrest] at hspelled
    obtain ⟨u, hu, hchars⟩ := hspelled
    rw [List.append_nil] at hu
    cases h
    refine ⟨rfl, hu ▸ hchars, head_of_word? hmajor, fun n hn => ?_⟩
    rcases List.mem_cons.mp hn with rfl | hn
    · exact (Text.of_word?_eq_some hmajor).2.2
    · exact lt_of_mapM_word? htail hn

theorem dropV_suffix (s : List Char) : dropV s <:+ s := by
  unfold dropV
  split
  · split
    · exact List.suffix_cons ..
    · exact List.suffix_rfl
  · exact List.suffix_rfl

/-- A text without blanks that starts with a digit is read as it stands. -/
theorem dropV_trim {text : List Char} (hchars : ∀ c ∈ text, isTextChar c = true)
    (hhead : ∃ c s, text = c :: s ∧ Text.isDigit c = true) : dropV (Text.trim text) = text := by
  have hblank : ∀ c ∈ text, Text.isBlank c = false := fun c hc =>
    isBlank_eq_false_of_isTextChar (hchars c hc)
  rw [Text.trim_eq_self (fun c hc => hblank c (List.mem_of_mem_head? hc)) fun c hc =>
    hblank c (List.mem_of_mem_getLast? hc)]
  obtain ⟨c, s, rfl, hc⟩ := hhead
  rw [dropV, if_neg]
  simp only [Bool.or_eq_true, beq_iff_eq]
  rintro (rfl | rfl) <;> revert hc <;> decide

/-- A version that was read is legible. -/
theorem legible_of_ofText? {text : List Char} {v : Version} (h : ofText? text = some v) :
    v.Legible := by
  obtain ⟨htext, hchars, hhead, -⟩ := of_ofText?_eq_some h
  rw [Legible, parse?, htext, String.toList_ofList, dropV_trim hchars hhead, h]

theorem Legible.ofText?_eq {v : Version} (h : v.Legible) : ofText? v.text.toList = some v := by
  have htext := (of_ofText?_eq_some h).1
  rw [Legible, parse?] at h
  rwa [htext, String.toList_ofList]

theorem dropV_cases (s : List Char) :
    dropV s = s ∨ ∃ c, isTextChar c = true ∧ s = c :: dropV s := by
  cases s with
  | nil => exact .inl rfl
  | cons c s =>
    rw [dropV]
    split
    case isTrue hc =>
      refine .inr ⟨c, ?_, rfl⟩
      rcases Bool.or_eq_true_iff.mp hc with hc | hc <;> rw [beq_iff_eq.mp hc] <;> decide
    case isFalse => exact .inl rfl

/-- A text that names a version is one word, the blanks around it apart. -/
theorem chars_of_parse? {t : String} (h : parse? t = some v) :
    Text.trim t.toList ≠ [] ∧ ∀ c ∈ Text.trim t.toList, isTextChar c = true := by
  obtain ⟨-, hchars, ⟨c, s, hhead, -⟩, -⟩ := of_ofText?_eq_some h
  have hne : dropV (Text.trim t.toList) ≠ [] := hhead ▸ List.cons_ne_nil c s
  rcases dropV_cases (Text.trim t.toList) with hdrop | ⟨d, hd, hdrop⟩
  · rw [hdrop] at hne hchars
    exact ⟨hne, hchars⟩
  · rw [hdrop]
    exact ⟨List.cons_ne_nil _ _, List.forall_mem_cons.mpr ⟨hd, hchars⟩⟩

/-- The blanks around it are not needed. -/
theorem parse?_trim {t : String} (h : parse? t = some v) :
    parse? (String.ofList (Text.trim t.toList)) = some v := by
  obtain ⟨-, hchars⟩ := chars_of_parse? h
  have hblank : ∀ c ∈ Text.trim t.toList, Text.isBlank c = false := fun c hc =>
    isBlank_eq_false_of_isTextChar (hchars c hc)
  rw [parse?, String.toList_ofList, Text.trim_eq_self
    (fun c hc => hblank c (List.mem_of_mem_head? hc)) fun c hc =>
      hblank c (List.mem_of_mem_getLast? hc)]
  exact h

/-! ### Final releases -/

/-- Segments with a dot before each. -/
def dotted (ns : List Nat) : List Char := ns.flatMap fun n => '.' :: Text.digits n

theorem toList_text_final : ∀ (major : Nat) (tail : List Nat),
    (final major tail).text.toList = Text.digits major ++ dotted tail
  | major, [] => by simp [final, dotted]
  | major, n :: tail => by
    have ih := toList_text_final n tail
    simp only [final, List.map_cons, String.intercalate_cons_cons, String.toList_append] at ih ⊢
    rw [ih]
    simp [dotted]

/-- Behind a number there is a dot or nothing. -/
theorem head_dotted (ns : List Nat) : ∀ c ∈ (dotted ns).head?, Text.isDigit c = false := by
  cases ns with
  | nil => simp [dotted]
  | cons n ns =>
    intro c hc
    rw [dotted, List.flatMap_cons, List.cons_append, List.head?_cons, Option.mem_some_iff] at hc
    rw [← hc]
    decide

theorem splitDigits_digits_dotted (n : Nat) (ns : List Nat) :
    Text.splitDigits (Text.digits n ++ dotted ns) = (Text.digits n, dotted ns) :=
  Text.splitDigits_append (fun _ => Text.isDigit_of_mem_digits) (head_dotted ns)

theorem readTail_dotted : ∀ ns : List Nat, readTail (dotted ns) = (ns.map Text.digits, [])
  | [] => by simp [dotted, readTail]
  | n :: ns => by
    have hdotted : dotted (n :: ns) = '.' :: (Text.digits n ++ dotted ns) := by simp [dotted]
    have hne : (Text.digits n).isEmpty = false := by
      rw [List.isEmpty_eq_false_iff]
      exact Nat.toDigits_ne_nil
    rw [hdotted, readTail, splitDigits_digits_dotted, hne, readTail_dotted ns]
    rfl

theorem mapM_word?_digits : ∀ {ns : List Nat}, (∀ n ∈ ns, n < Text.wordLimit) →
    (ns.map Text.digits).mapM Text.word? = some ns
  | [], _ => rfl
  | n :: ns, h => by
    rw [List.map_cons, List.mapM_cons, Text.word?_digits (h n (List.mem_cons_self ..)),
      mapM_word?_digits fun m hm => h m (List.mem_cons_of_mem _ hm)]
    rfl

/-- A final release whose segments fit is legible. -/
theorem legible_final {major : Nat} {tail : List Nat} (h : (final major tail).Fits) :
    (final major tail).Legible := by
  have hmajor := h major (List.mem_cons_self ..)
  have htail : ∀ n ∈ tail, n < Text.wordLimit := fun n hn => h n (List.mem_cons_of_mem _ hn)
  refine legible_of_ofText? (?_ : ofText? (final major tail).text.toList = _)
  have hpre : readMark preLabels [] = (none, []) := by decide +kernel
  have hpost : readMark postLabels [] = (none, []) := by decide +kernel
  have hdev : readMark devLabels [] = (none, []) := by decide +kernel
  simp only [ofText?, toList_text_final, splitDigits_digits_dotted, readTail_dotted,
    Text.word?_digits hmajor, mapM_word?_digits htail, hpre, hpost, hdev, Option.map_none]
  rw [← toList_text_final, String.ofList_toList]
  rfl

end Version

end ManifestMigration
