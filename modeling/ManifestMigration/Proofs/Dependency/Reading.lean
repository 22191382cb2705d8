import ManifestMigration.Proofs.Manifest.Conditions

/-! What is read from a declaration that is accepted.

    A text gives a package from a registry, a table that or one from a git repository, and an array
    gives what its tables give. The constraint was read from a text, and the condition has no blanks at
    its ends. -/

namespace ManifestMigration.Dependency

open Toml

variable {name : String} {group : Group} {d : Dependency} {ds : List Dependency} {c : Constraint}
  {entries : List (String × Data)} {value : Data}

theorem parse_of_readConstraint {text : String} (h : readConstraint name text = .ok c) :
    Constraint.parse text = .ok c := by
  rw [readConstraint] at h
  split at h
  · next hc => rw [hc, Except.ok.inj h]
  · cases h

theorem trimmed_trimmed (s : String) : trimmed (trimmed s) = trimmed s := by
  rw [trimmed, trimmed, String.toList_ofList, Text.trim_trim]

/-- What is taken from a marker is trimmed. -/
theorem trimmed_of_interpreter? {marker said : String} (h : Marker.interpreter? marker = some said) :
    trimmed said = said := by
  rw [Marker.interpreter?] at h
  split at h
  · cases h
  · next rest _ =>
    generalize hcondition : Text.trim (rest.filter _) = condition at h
    cases condition with
    | nil => cases h
    | cons a condition =>
      cases h
      rw [trimmed, String.toList_ofList, ← hcondition, Text.trim_trim]

theorem ofText_cases {s : String} (h : ofText name group s = .ok d) :
    ∃ text c marker?, Constraint.parse text = .ok c ∧
      d = plain name group c (marker? >>= Marker.interpreter?) := by
  obtain ⟨c, hc, h⟩ := bind_eq_ok.mp h
  cases h
  exact ⟨_, c, _, parse_of_readConstraint hc, rfl⟩

theorem ofTable_cases (h : ofTable name group entries = .ok d) :
    (∃ url tag? extras, (entries.lookup "git").isSome ∧
      d = ⟨name, extras, group, .git url tag?⟩) ∨
    ∃ text c extras said?, entries.lookup "git" = none ∧ Constraint.parse text = .ok c ∧
      d = ⟨name, extras, group, .registry c (Option.map trimmed said?)⟩ := by
  rw [ofTable] at h
  split at h
  · next git hgit =>
    obtain ⟨-, -, h⟩ := bind_eq_ok.mp h
    obtain ⟨url, -, h⟩ := bind_eq_ok.mp h
    obtain ⟨extras, -, h⟩ := bind_eq_ok.mp h
    obtain ⟨tag?, -, h⟩ := bind_eq_ok.mp h
    cases h
    exact .inl ⟨url, tag?, extras, Option.isSome_of_eq_some hgit, rfl⟩
  · next hgit hversion =>
    obtain ⟨-, -, h⟩ := bind_eq_ok.mp h
    obtain ⟨text, -, h⟩ := bind_eq_ok.mp h
    obtain ⟨c, hc, h⟩ := bind_eq_ok.mp h
    obtain ⟨extras, -, h⟩ := bind_eq_ok.mp h
    obtain ⟨said?, -, h⟩ := bind_eq_ok.mp h
    cases h
    exact .inr ⟨text, c, extras, said?, hgit, parse_of_readConstraint hc, rfl⟩
  · cases h

/-- What holds of the package of each text and each table holds of all packages of a declaration. -/
theorem forall_of_ofDeclaration {P : Dependency → Prop}
    (htext : ∀ s d, ofText name group s = .ok d → P d)
    (htable : ∀ entries d, ofTable name group entries = .ok d → P d)
    (h : ofDeclaration name group value = .ok ds) : ∀ d ∈ ds, P d := by
  rw [ofDeclaration.eq_def] at h
  split at h
  · obtain ⟨e, he, rfl⟩ := map_eq_ok.mp h
    exact List.forall_mem_singleton.mpr (htext _ e he)
  · obtain ⟨e, he, rfl⟩ := map_eq_ok.mp h
    exact List.forall_mem_singleton.mpr (htable _ e he)
  · intro d hd
    obtain ⟨item, -, hitem⟩ := exists_mem_of_forall₂ (mapM_eq_ok_iff.mp h) hd
    cases item with
    | table entries => exact htable _ d hitem
    | scalar s => cases hitem
    | array items => cases hitem
  · cases h

/-- The constraint, if there is one, was read from a text. -/
def IsRead (d : Dependency) : Prop :=
  ∀ c said?, d.source = .registry c said? → ∃ text, Constraint.parse text = .ok c

theorem isRead_of_ofDeclaration (h : ofDeclaration name group value = .ok ds) (hd : d ∈ ds) :
    d.IsRead := by
  refine forall_of_ofDeclaration (fun s d hread => ?_) (fun entries d hread => ?_) h d hd
  · obtain ⟨text, c, marker?, hc, rfl⟩ := ofText_cases hread
    rintro _ _ ⟨⟩
    exact ⟨text, hc⟩
  · obtain ⟨url, tag?, extras, -, rfl⟩ | ⟨text, c, extras, said?, -, hc, rfl⟩ :=
      ofTable_cases hread
    · rintro _ _ ⟨⟩
    · rintro _ _ ⟨⟩
      exact ⟨text, hc⟩

/-- The condition, if there is one, has no blanks at its ends. -/
def IsTrimmed (d : Dependency) : Prop :=
  ∀ c said, d.source = .registry c (some said) → trimmed said = said

theorem isTrimmed_of_ofDeclaration (h : ofDeclaration name group value = .ok ds) (hd : d ∈ ds) :
    d.IsTrimmed := by
  refine forall_of_ofDeclaration (fun s d hread => ?_) (fun entries d hread => ?_) h d hd
  · obtain ⟨text, c, marker?, -, rfl⟩ := ofText_cases hread
    intro _ said hsource
    obtain ⟨-, hsaid⟩ := Source.registry.inj hsource
    obtain ⟨marker, -, hmarker⟩ := Option.bind_eq_some_iff.mp hsaid
    exact trimmed_of_interpreter? hmarker
  · obtain ⟨url, tag?, extras, -, rfl⟩ | ⟨text, c, extras, said?, -, -, rfl⟩ :=
      ofTable_cases hread
    · rintro _ _ ⟨⟩
    · intro _ said hsource
      obtain ⟨-, hsaid⟩ := Source.registry.inj hsource
      obtain ⟨python, -, rfl⟩ := Option.map_eq_some_iff.mp hsaid
      exact trimmed_trimmed python

end ManifestMigration.Dependency
