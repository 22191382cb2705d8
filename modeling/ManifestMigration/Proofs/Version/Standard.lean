import ManifestMigration.Proofs.Text.Ascii
import ManifestMigration.Proofs.Version.Grammar

/-! Versions as PEP 440 writes them, next to the texts that are read here.

    The grammar of PEP 440 knows ASCII alone. A text that is read and is written in ASCII belongs to
    it; what is read besides are digits of other scripts in the number of a mark, and the long s. -/

namespace ManifestMigration

namespace Version

open Text (IsAscii)

theorem foldLetter_of_ascii {c : Char} (hc : c.toNat < 128) : foldLetter c = c.toLower := by
  exact beq_iff_eq.mp (Text.of_ascii (fun c => foldLetter c == c.toLower) (by decide +kernel) hc)

/-! ### The grammar -/

/-- ASCII digits, at least one. -/
def IsNumber (ds : List Char) : Prop := ds ≠ [] ∧ ∀ c ∈ ds, c.isDigit = true

/-- A mark: a label in any case with a separator before and behind it perhaps, and a number, which
    may be missing. -/
inductive IsMark (labels : List String) : List Char → Prop where
  | mk {lead label gap digits : List Char} (hlead : lead ∈ separators)
    (hlabel : String.ofList (label.map Char.toLower) ∈ labels) (hgap : gap ∈ separators)
    (hdigits : ∀ c ∈ digits, c.isDigit = true) : IsMark labels (lead ++ (label ++ (gap ++ digits)))

/-- A public version of PEP 440. The number of a post release may stand alone behind a hyphen. -/
inductive IsPublic : List Char → Prop where
  | mk {vee epoch first pre post dev : List Char} {more : List (List Char)}
    (hvee : vee ∈ [[], ['v'], ['V']])
    (hepoch : epoch = [] ∨ ∃ n, IsNumber n ∧ epoch = n ++ ['!'])
    (hrelease : ∀ ds ∈ first :: more, IsNumber ds)
    (hpre : pre = [] ∨ IsMark ["a", "b", "c", "rc", "alpha", "beta", "pre", "preview"] pre)
    (hpost : post = [] ∨ IsMark ["post", "rev", "r"] post ∨ ∃ n, IsNumber n ∧ post = '-' :: n)
    (hdev : dev = [] ∨ IsMark ["dev"] dev) :
    IsPublic (vee ++ (epoch ++ (first ++ (tailText more ++ (pre ++ (post ++ dev))))))

variable {s : List Char} {labels : List String}

/-! ### ASCII -/

theorem IsNumber.ascii (h : IsNumber s) : IsAscii s :=
  fun c hc => Text.toNat_lt_of_isDigit (h.2 c hc)

theorem ascii_of_mem_separators (h : s ∈ separators) : IsAscii s := by
  have hall : ∀ s ∈ separators, IsAscii s := by decide
  exact hall s h

theorem IsMark.ascii (hlabels : ∀ l ∈ labels, IsAscii l.toList) (h : IsMark labels s) :
    IsAscii s := by
  obtain @⟨lead, label, gap, digits, hlead, hlabel, hgap, hdigits⟩ := h
  have hword : IsAscii label := by
    intro c hc
    refine Text.toNat_lt_of_toLower (hlabels _ hlabel c.toLower ?_)
    rw [String.toList_ofList]
    exact List.mem_map_of_mem hc
  refine Text.isAscii_append.mpr ⟨ascii_of_mem_separators hlead, Text.isAscii_append.mpr
    ⟨hword, Text.isAscii_append.mpr ⟨ascii_of_mem_separators hgap, fun c hc => ?_⟩⟩⟩
  exact Text.toNat_lt_of_isDigit (hdigits c hc)

theorem ascii_tailText {more : List (List Char)} (h : ∀ ds ∈ more, IsNumber ds) :
    IsAscii (tailText more) := by
  intro c hc
  obtain ⟨ds, hds, hc⟩ := List.mem_flatMap.mp hc
  rcases List.mem_cons.mp hc with rfl | hc
  · decide
  · exact (h ds hds).ascii c hc

/-- The versions of PEP 440 are written in ASCII. -/
theorem IsPublic.ascii (h : IsPublic s) : IsAscii s := by
  obtain @⟨vee, epoch, first, pre, post, dev, more, hvee, hepoch, hrelease, hpre, hpost, hdev⟩ := h
  obtain ⟨hfirst, hmore⟩ := List.forall_mem_cons.mp hrelease
  have hnil : IsAscii [] := List.forall_mem_nil _
  simp only [Text.isAscii_append]
  refine ⟨?_, ?_, hfirst.ascii, ascii_tailText hmore, ?_, ?_, ?_⟩
  · have hall : ∀ s ∈ [[], ['v'], ['V']], IsAscii s := by decide
    exact hall vee hvee
  · rcases hepoch with rfl | ⟨n, hn, rfl⟩
    · exact hnil
    · exact Text.isAscii_append.mpr ⟨hn.ascii, List.forall_mem_singleton.mpr (by decide)⟩
  · rcases hpre with rfl | hpre
    · exact hnil
    · exact hpre.ascii (by decide)
  · rcases hpost with rfl | hpost | ⟨n, hn, rfl⟩
    · exact hnil
    · exact hpost.ascii (by decide)
    · exact List.forall_mem_cons.mpr ⟨by decide, hn.ascii⟩
  · rcases hdev with rfl | hdev
    · exact hnil
    · exact hdev.ascii (by decide)

/-! ### What is read -/

variable {α : Type}

/-- A mark that is read and written in ASCII is one of PEP 440. -/
theorem MarkText.isMark {marks : List (String × α)} (m : MarkText marks) (h : IsAscii m.text) :
    IsMark (marks.map (·.1)) m.text := by
  rw [text, rest] at h ⊢
  simp only [Text.isAscii_append] at h
  obtain ⟨-, hlabel, -, hdigits⟩ := h
  refine .mk m.hlead ?_ m.hgap fun c hc => ?_
  · have hfold : m.label.map Char.toLower = m.label.map foldLetter :=
      List.map_congr_left fun c hc => (foldLetter_of_ascii (hlabel c hc)).symm
    rw [hfold]
    exact List.mem_map_of_mem m.hlabel
  · exact (Text.isDigit_iff_of_ascii (hdigits c hc)).mp (List.all_eq_true.mp m.hdigits c hc)

theorem isMark_markText {marks : List (String × α)} (m? : Option (MarkText marks))
    (h : IsAscii (markText m?)) : markText m? = [] ∨ IsMark (marks.map (·.1)) (markText m?) := by
  cases m? with
  | none => exact .inl rfl
  | some m => exact .inr (m.isMark h)

theorem IsMark.mono {others : List String} (h : IsMark labels s) (hsub : labels ⊆ others) :
    IsMark others s := by
  obtain ⟨hlead, hlabel, hgap, hdigits⟩ := h
  exact .mk hlead (hsub hlabel) hgap hdigits

/-- A version that is read and written in ASCII is one of PEP 440. -/
theorem VersionText.isPublic (T : VersionText) (h : IsAscii T.text) : IsPublic T.text := by
  have hmarks : IsAscii (marksText T.pre T.post T.dev) := by
    rw [text, core] at h
    simp only [Text.isAscii_append] at h
    exact h.2.2.2
  rw [marksText] at hmarks
  simp only [Text.isAscii_append] at hmarks
  obtain ⟨hpre, hpost, hdev, -⟩ := hmarks
  have hrelease : ∀ ds ∈ T.major :: T.tail, IsNumber ds := by
    intro ds hds
    obtain ⟨n, hn⟩ := Option.isSome_iff_exists.mp (T.segments ds hds)
    obtain ⟨hne, hdigits, -⟩ := Text.word?_eq_some_iff.mp hn
    exact ⟨hne, hdigits⟩
  have htext : T.text = T.vee ++ ([] ++ (T.major ++ (tailText T.tail ++
      (markText T.pre ++ (markText T.post ++ markText T.dev))))) := by
    rw [text, core, marksText, List.append_nil, List.nil_append]
  rw [htext]
  refine .mk T.hvee (.inl rfl) hrelease ?_ ?_ ?_
  · exact (isMark_markText T.pre hpre).imp_right fun hmark => hmark.mono (by decide)
  · exact (isMark_markText T.post hpost).imp_right .inl
  · exact isMark_markText T.dev hdev

/-- The text of a version that was read belongs to PEP 440 exactly if it is written in ASCII. -/
theorem Legible.isPublic_iff {v : Version} (hv : v.Legible) :
    IsPublic v.text.toList ↔ IsAscii v.text.toList := by
  constructor
  · exact IsPublic.ascii
  · intro h
    obtain ⟨T, htext, -⟩ := exists_versionText hv.ofText?_eq (List.mem_cons_self ..)
    rw [List.nil_append] at htext
    rw [← htext] at h ⊢
    exact T.isPublic h

end Version

end ManifestMigration
