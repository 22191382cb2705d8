import ManifestMigration.Proofs.Project

/-! When a conversion fails.

    A manifest that was read is read again, and its old section is found again, so that neither the
    text nor the schema can be what a conversion fails on. All that is left to go wrong are the
    people: the first entry of the authors, then of the maintainers, that is not made of two words. -/

namespace ManifestMigration

/-- The entry is not made of a name and an address, two words. -/
def Person.isMalformed (entry : String) : Bool := (Text.words entry.toList).length != 2

theorem Person.isMalformed_iff {entry : String} :
    Person.isMalformed entry = true ↔ (Text.words entry.toList).length ≠ 2 := bne_iff_ne

theorem Person.parse?_eq_none_iff {entry : String} :
    Person.parse? entry = none ↔ Person.isMalformed entry = true := by
  rw [parse?, isMalformed_iff]
  split
  · next hwords => simp [hwords]
  · next hwords =>
    refine iff_of_true rfl fun hlength => ?_
    obtain ⟨name, email, htwo⟩ := List.length_eq_two.mp hlength
    exact hwords name email htwo

namespace Conversion

open Toml

variable {entry key : String} {entries : List String} {t : Table} {poetry : Item} {m : Metadata}
  {r : Requirements}

theorem peopleValue_eq_error_iff :
    peopleValue entries = .error entry ↔ entries.find? Person.isMalformed = some entry := by
  rw [peopleValue, bind_eq_error, @mapM_eq_error_iff String Value _ Person.isMalformed]
  · simp [pure, Except.pure]
  · intro entry e
    rw [← Person.parse?_eq_none_iff]
    cases Person.parse? entry <;> simp [eq_comm]

theorem addPeople_eq_error_iff :
    addPeople key entries t = .error entry ↔ entries.find? Person.isMalformed = some entry := by
  rw [addPeople]
  split
  · next hnone => simp [List.isEmpty_iff.mp hnone]
  · rw [bind_eq_error, peopleValue_eq_error_iff]
    simp [pure, Except.pure]

theorem find?_of_addPeople {u : Table} (h : addPeople key entries t = .ok u) :
    entries.find? Person.isMalformed = none := by
  by_contra hsome
  obtain ⟨entry, hentry⟩ := Option.ne_none_iff_exists'.mp hsome
  rw [addPeople_eq_error_iff.mpr hentry] at h
  cases h

theorem find?_of_projectTable (h : projectTable poetry m r = .ok t) :
    (m.authors ++ m.maintainers).find? Person.isMalformed = none := by
  obtain ⟨u, hauthors, h⟩ := bind_eq_ok.mp h
  obtain ⟨v, hmaintainers, -⟩ := bind_eq_ok.mp h
  rw [List.find?_append, find?_of_addPeople hauthors, find?_of_addPeople hmaintainers]
  rfl

theorem find?_of_projectTable_eq_error (h : projectTable poetry m r = .error entry) :
    (m.authors ++ m.maintainers).find? Person.isMalformed = some entry := by
  rw [List.find?_append]
  rcases bind_eq_error.mp h with hauthor | ⟨t, hauthors, h⟩
  · rw [addPeople_eq_error_iff.mp hauthor, Option.some_or]
  · rw [find?_of_addPeople hauthors, Option.none_or]
    rcases bind_eq_error.mp h with hmaintainer | ⟨u, -, h⟩
    · exact addPeople_eq_error_iff.mp hmaintainer
    · cases h

/-- The project section fails on the first entry that is not a person, authors first. -/
theorem projectTable_eq_error_iff : projectTable poetry m r = .error entry ↔
    (m.authors ++ m.maintainers).find? Person.isMalformed = some entry := by
  refine ⟨find?_of_projectTable_eq_error, fun hentry => ?_⟩
  cases hresult : projectTable poetry m r with
  | error other =>
    rw [find?_of_projectTable_eq_error hresult] at hentry
    rw [Option.some.inj hentry]
  | ok t =>
    rw [find?_of_projectTable hresult] at hentry
    cases hentry

end Conversion

namespace Project

variable {t : Tree} {root : Path} {locate : Bool} {p : Project} {virtualProject : Bool}
  {r : Requirements} {e : Failure}

/-- The entries of a project that have to be people. -/
def people (p : Project) : List String :=
  p.manifest.metadata.authors ++ p.manifest.metadata.maintainers

/-- A project that was loaded fails to be converted for its first malformed entry, or not at all. -/
theorem convert_eq_error_iff (h : load t root locate = .ok p) :
    p.convert virtualProject r = .error e ↔
      ∃ entry, p.people.find? Person.isMalformed = some entry ∧ e = .malformedPerson entry := by
  obtain ⟨text, -, hparse⟩ := exists_parse_of_load h
  rw [convert, Manifest.convert_eq hparse, people]
  cases hproject : Conversion.projectTable ((Conversion.poetryItem? p.manifest.document).getD
      (.table .empty)) p.manifest.metadata r with
  | error entry =>
    rw [Conversion.projectTable_eq_error_iff.mp hproject]
    simp [eq_comm]
  | ok project =>
    rw [Conversion.find?_of_projectTable hproject]
    simp

/-- Converting a loaded project fails exactly when an author or a maintainer is not written as two
    words, whatever it requires and whether it is virtual. The failure is a fault, and names such an
    entry: neither the text of the manifest nor its schema is refused any more. -/
theorem convert_fails_iff (h : load t root locate = .ok p) (virtualProject : Bool)
    (r : Requirements) :
    ((∃ e, p.convert virtualProject r = .error e) ↔
        ∃ entry ∈ p.people, (Text.words entry.toList).length ≠ 2) ∧
      ∀ e, p.convert virtualProject r = .error e → e.isFault = true ∧
        ∃ entry ∈ p.people, (Text.words entry.toList).length ≠ 2 ∧ e = .malformedPerson entry := by
  have hfound : ∀ entry, p.people.find? Person.isMalformed = some entry →
      entry ∈ p.people ∧ (Text.words entry.toList).length ≠ 2 := fun entry hentry =>
    ⟨List.mem_of_find?_eq_some hentry, Person.isMalformed_iff.mp (List.find?_some hentry)⟩
  refine ⟨⟨?_, ?_⟩, ?_⟩
  · rintro ⟨e, he⟩
    obtain ⟨entry, hentry, -⟩ := (convert_eq_error_iff h).mp he
    exact ⟨entry, hfound entry hentry⟩
  · rintro ⟨entry, hmem, hwords⟩
    have hsome : (p.people.find? Person.isMalformed).isSome = true :=
      List.find?_isSome.mpr ⟨entry, hmem, Person.isMalformed_iff.mpr hwords⟩
    obtain ⟨first, hfirst⟩ := Option.isSome_iff_exists.mp hsome
    exact ⟨_, (convert_eq_error_iff h).mpr ⟨first, hfirst, rfl⟩⟩
  · intro e he
    obtain ⟨entry, hentry, rfl⟩ := (convert_eq_error_iff h).mp he
    obtain ⟨hmem, hwords⟩ := hfound entry hentry
    exact ⟨rfl, entry, hmem, hwords, rfl⟩

/-- A manifest in an inline table, with an author of two words and a maintainer of three. -/
def crowdText : String :=
  "tool.poetry = \x7b name = \"demo\", version = \"1\", description = \"\", " ++
    "authors = [\"Jane <jane@example.com>\"], maintainers = [\"Jane Doe <jane@example.com>\"] \x7d\n"

/-- A directory with that manifest. -/
def crowd : Tree := ⟨[(["w"], .directory), (["w", "pyproject.toml"], .file crowdText.toUTF8)]⟩

theorem convert_fails_of_crowd : ∃ p, load crowd ⟨"/w"⟩ false = .ok p ∧
    (∃ e, p.convert true ⟨none, [], ["pytest"]⟩ = .error e) ∧
    ((∃ e, p.convert true ⟨none, [], ["pytest"]⟩ = .error e) ↔
      ∃ entry ∈ p.people, (Text.words entry.toList).length ≠ 2) ∧
    ∀ e, p.convert true ⟨none, [], ["pytest"]⟩ = .error e → e.isFault = true ∧
      ∃ entry ∈ p.people, (Text.words entry.toList).length ≠ 2 ∧ e = .malformedPerson entry := by
  have hcheck : Manifest.readsAs crowdText (fun _ m =>
      (m.metadata.authors ++ m.metadata.maintainers).any Person.isMalformed) = true := by
    decide +kernel
  obtain ⟨m, hm, hcheck⟩ := Manifest.exists_of_readsAs hcheck
  obtain ⟨entry, hmem, hbad⟩ := List.any_eq_true.mp hcheck
  have hmanifest : crowd.locate true (manifestPath ⟨"/w"⟩) =
      .ok (["w", "pyproject.toml"], some (.file crowdText.toUTF8)) := by decide +kernel
  have hp : load crowd ⟨"/w"⟩ false = .ok ⟨⟨"/w"⟩, m, none⟩ := by
    rw [load_eq hmanifest hm]
    rfl
  obtain ⟨hiff, hfault⟩ := convert_fails_iff hp true ⟨none, [], ["pytest"]⟩
  exact ⟨_, hp, hiff.mpr ⟨entry, hmem, Person.isMalformed_iff.mp hbad⟩, hiff, hfault⟩

end Project

end ManifestMigration
