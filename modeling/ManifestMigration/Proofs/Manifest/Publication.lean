import ManifestMigration.Proofs.Manifest.Declarations

/-! What a project publishes, and which group it comes from.

    The published requirements come from the main group alone. The interpreter requirement need not:
    the dependency that states it may be declared in either group, and since the development group is
    read last, it has the last word. -/

namespace ManifestMigration

namespace Requirements

variable {group other : Group} {es : List (String × Toml.Data)} {ds main dev : List Dependency}

/-- The interpreter requirement that the dependencies of a group state: that of the last one that
    does not allow every interpreter. -/
def statedBy (group : Group) (ds : List Dependency) : Option String :=
  ((ds.filter fun d => d.group == group).filterMap interpreterOf?).getLast?

theorem filter_group_self (h : List.Forall₂ (Dependency.Declares group) es ds) :
    (ds.filter fun d => d.group == group) = ds := by
  rw [List.filter_eq_self]
  intro d hd
  obtain ⟨e, -, he⟩ := exists_mem_of_forall₂ h hd
  simp [he.group]

theorem filter_group_other (h : List.Forall₂ (Dependency.Declares other) es ds)
    (hne : other ≠ group) : (ds.filter fun d => d.group == group) = [] := by
  rw [List.filter_eq_nil_iff]
  intro d hd
  obtain ⟨e, -, he⟩ := exists_mem_of_forall₂ h hd
  simp [he.group, hne]

theorem statedBy_main (hmain : List.Forall₂ (Dependency.Declares .main) es main)
    {es' : List (String × Toml.Data)} (hdev : List.Forall₂ (Dependency.Declares .dev) es' dev) :
    statedBy .main (main ++ dev) = (main.filterMap interpreterOf?).getLast? := by
  rw [statedBy, List.filter_append, filter_group_self hmain,
    filter_group_other hdev (by decide), List.append_nil]

theorem statedBy_dev (hmain : List.Forall₂ (Dependency.Declares .main) es main)
    {es' : List (String × Toml.Data)} (hdev : List.Forall₂ (Dependency.Declares .dev) es' dev) :
    statedBy .dev (main ++ dev) = (dev.filterMap interpreterOf?).getLast? := by
  rw [statedBy, List.filter_append, filter_group_other hmain (by decide), filter_group_self hdev,
    List.nil_append]

/-- The development group has the last word on the interpreter. -/
theorem interpreter_ofDependencies (hmain : List.Forall₂ (Dependency.Declares .main) es main)
    {es' : List (String × Toml.Data)} (hdev : List.Forall₂ (Dependency.Declares .dev) es' dev) :
    (ofDependencies (main ++ dev)).interpreter =
      (statedBy .dev (main ++ dev)).or (statedBy .main (main ++ dev)) := by
  rw [statedBy_main hmain hdev, statedBy_dev hmain hdev, ofDependencies, List.filterMap_append,
    List.getLast?_append]

end Requirements

namespace Manifest

open Requirements

variable {m₁ m₂ : Manifest} {ds₁ ds₂ : List Dependency}

/-- What two projects publish that declare the same main dependencies: the same requirements, and as
    far as their development groups state the same about the interpreter, the same interpreter
    requirement. One that only a development group states takes the place of the shared one. -/
theorem published_of_main (hmain : m₁.poetry.lookup "dependencies" = m₂.poetry.lookup "dependencies")
    (h₁ : m₁.dependencies = .ok ds₁) (h₂ : m₂.dependencies = .ok ds₂) :
    (ofDependencies ds₁).main = (ofDependencies ds₂).main ∧
      (ofDependencies ds₁).interpreter = (statedBy .dev ds₁).or (statedBy .main ds₁) ∧
      (ofDependencies ds₂).interpreter = (statedBy .dev ds₂).or (statedBy .main ds₁) ∧
      (statedBy .dev ds₁ = statedBy .dev ds₂ →
        (ofDependencies ds₁).interpreter = (ofDependencies ds₂).interpreter) := by
  obtain ⟨main, hm₁, h₁⟩ := bind_eq_ok.mp h₁
  obtain ⟨dev₁, hd₁, h₁⟩ := bind_eq_ok.mp h₁
  obtain ⟨main₂, hm₂, h₂⟩ := bind_eq_ok.mp h₂
  obtain ⟨dev₂, hd₂, h₂⟩ := bind_eq_ok.mp h₂
  cases h₁
  cases h₂
  have hsame : m₁.declarations .main = m₂.declarations .main := by
    rw [declarations, declarations, hmain]
  rw [hsame, hm₂] at hm₁
  obtain rfl := Except.ok.inj hm₁
  have hread := Dependency.declares_all hm₂
  have hread₁ := Dependency.declares_all hd₁
  have hread₂ := Dependency.declares_all hd₂
  have hown : statedBy .main (main₂ ++ dev₁) = statedBy .main (main₂ ++ dev₂) := by
    rw [statedBy_main hread hread₁, statedBy_main hread hread₂]
  have hstates₁ := interpreter_ofDependencies hread hread₁
  have hstates₂ := interpreter_ofDependencies hread hread₂
  rw [← hown] at hstates₂
  refine ⟨?_, hstates₁, hstates₂, fun hdev => ?_⟩
  · rw [main_ofDependencies hread₁, main_ofDependencies hread₂]
  · rw [hstates₁, hstates₂, hdev]

/-- A manifest without a development group. -/
def mainGroupText : String :=
  "[tool.poetry]\nname = \"demo\"\nversion = \"1\"\ndescription = \"\"\n\n" ++
    "[tool.poetry.dependencies]\nhttpx = \"^0.24\"\npython = \"^3.8\"\n\n"

/-- The manifest with a development group that asks for a newer interpreter. -/
def newerInterpreterText : String :=
  mainGroupText ++ "[tool.poetry.group.dev.dependencies]\npython = \"^3.11\"\n"

/-- The manifest with a development group that says nothing about the interpreter. -/
def sameInterpreterText : String :=
  mainGroupText ++ "[tool.poetry.dev-dependencies]\npytest = \"^7\"\npython = \"*\"\n"

theorem exists_published :
    ∃ m₁ m₂ ds₁ ds₂, parse newerInterpreterText = .ok m₁ ∧ parse sameInterpreterText = .ok m₂ ∧
      m₁.poetry.lookup "dependencies" = m₂.poetry.lookup "dependencies" ∧
      m₁.dependencies = .ok ds₁ ∧ m₂.dependencies = .ok ds₂ ∧
      (ofDependencies ds₁).interpreter = some ">=3.11,<4.0" ∧
      (ofDependencies ds₂).interpreter = some ">=3.8,<4.0" := by
  have hcheck : readsAs newerInterpreterText (fun _ m₁ =>
      readsAs sameInterpreterText fun _ m₂ =>
        decide (m₁.poetry.lookup "dependencies" = m₂.poetry.lookup "dependencies") &&
          m₁.dependencies.toOption.any fun ds₁ => m₂.dependencies.toOption.any fun ds₂ =>
            decide ((ofDependencies ds₁).interpreter = some ">=3.11,<4.0" ∧
              (ofDependencies ds₂).interpreter = some ">=3.8,<4.0")) = true := by
    decide +kernel
  obtain ⟨m₁, hm₁, hcheck⟩ := exists_of_readsAs hcheck
  obtain ⟨m₂, hm₂, hcheck⟩ := exists_of_readsAs hcheck
  obtain ⟨hmain, hcheck⟩ := Bool.and_eq_true_iff.mp hcheck
  obtain ⟨ds₁, h₁, hcheck⟩ := exists_ok_of_any hcheck
  obtain ⟨ds₂, h₂, hcheck⟩ := exists_ok_of_any hcheck
  obtain ⟨hfirst, hsecond⟩ := of_decide_eq_true hcheck
  exact ⟨m₁, m₂, ds₁, ds₂, hm₁, hm₂, of_decide_eq_true hmain, h₁, h₂, hfirst, hsecond⟩

theorem published_of_newer : ∃ m₁ m₂ ds₁ ds₂, parse newerInterpreterText = .ok m₁ ∧
    parse sameInterpreterText = .ok m₂ ∧
    m₁.poetry.lookup "dependencies" = m₂.poetry.lookup "dependencies" ∧
    m₁.dependencies = .ok ds₁ ∧ m₂.dependencies = .ok ds₂ ∧
    (ofDependencies ds₁).main = (ofDependencies ds₂).main ∧
    (ofDependencies ds₁).interpreter = (statedBy .dev ds₁).or (statedBy .main ds₁) ∧
    (ofDependencies ds₂).interpreter = (statedBy .dev ds₂).or (statedBy .main ds₁) := by
  obtain ⟨m₁, m₂, ds₁, ds₂, hm₁, hm₂, hmain, h₁, h₂, -⟩ := exists_published
  obtain ⟨hrequirements, hstates₁, hstates₂, -⟩ := published_of_main hmain h₁ h₂
  exact ⟨m₁, m₂, ds₁, ds₂, hm₁, hm₂, hmain, h₁, h₂, hrequirements, hstates₁, hstates₂⟩

/-- It is not so that the main dependencies alone decide what is published. -/
theorem dev_group_overrides_interpreter : ¬ ∀ text₁ text₂ m₁ m₂ ds₁ ds₂,
    parse text₁ = .ok m₁ → parse text₂ = .ok m₂ →
    m₁.poetry.lookup "dependencies" = m₂.poetry.lookup "dependencies" →
    m₁.dependencies = .ok ds₁ → m₂.dependencies = .ok ds₂ →
    (ofDependencies ds₁).interpreter = (ofDependencies ds₂).interpreter ∧
      (ofDependencies ds₁).main = (ofDependencies ds₂).main := by
  intro hclaim
  obtain ⟨m₁, m₂, ds₁, ds₂, hm₁, hm₂, hmain, h₁, h₂, hfirst, hsecond⟩ := exists_published
  obtain ⟨hsame, -⟩ := hclaim _ _ m₁ m₂ ds₁ ds₂ hm₁ hm₂ hmain h₁ h₂
  rw [hfirst, hsecond] at hsame
  exact absurd hsame (by decide)

end Manifest

end ManifestMigration
