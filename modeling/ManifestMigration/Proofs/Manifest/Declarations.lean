import ManifestMigration.Proofs.Dependency.Reading
import ManifestMigration.Proofs.Manifest.Conversion
import Mathlib.Data.List.Forall2

/-! Where the requirements of the new manifest come from: the declarations of the old one, one by one
    and in their order.

    A declaration table is a list of declared variants. Reading it, sorting the dependencies of both
    groups apart again and writing the two arrays keeps that list, but for the interpreter. -/

namespace ManifestMigration

open Toml

/-! ### What a table declares -/

/-- What is declared under a name, one by one: an array stands for its elements. -/
def variants : String × Data → List (String × Data)
  | (name, .array items) => items.map fun item => (name, item)
  | e => [e]

/-- The declaration is a plain one of the interpreter, and of no package. -/
def isInterpreter (e : String × Data) : Bool :=
  e.1 == Dependency.interpreterName && (e.2.get? "git").isNone

/-- The packages that a table declares, one by one. -/
def declaredPackages (table : List (String × Data)) : List (String × Data) :=
  (table.flatMap variants).filter fun e => !isInterpreter e

/-- The requirement asks for what is declared. -/
def AsksFor (group : Group) (e : String × Data) (requirement : String) : Prop :=
  ∃ d, Dependency.ofDeclaration e.1 group e.2 = .ok [d] ∧ requirement = d.requirement

namespace Dependency

variable {name : String} {group : Group} {d : Dependency} {ds : List Dependency}

/-- What reading one declaration gives. -/
structure Declares (group : Group) (e : String × Data) (d : Dependency) : Prop where
  reads : ofDeclaration e.1 group e.2 = .ok [d]
  group : d.group = group
  interpreter : d.interpreter?.isSome = isInterpreter e

theorem declares_of_ofText {said : String} (h : ofText name group said = .ok d) :
    Declares group (name, .scalar (.string said)) d := by
  have hreads : ofDeclaration name group (.scalar (.string said)) = .ok [d] := by
    rw [ofDeclaration, h]
    rfl
  obtain ⟨text, c, marker?, -, rfl⟩ := ofText_cases h
  refine ⟨hreads, rfl, ?_⟩
  simp only [interpreter?, plain, isInterpreter, Data.get?, Option.isNone_none, Bool.and_true]
  by_cases hname : name = interpreterName <;> simp [hname]

theorem declares_of_ofTable {entries : List (String × Data)}
    (h : ofTable name group entries = .ok d) : Declares group (name, .table entries) d := by
  have hreads : ofDeclaration name group (.table entries) = .ok [d] := by
    rw [ofDeclaration, h]
    rfl
  obtain ⟨url, tag?, extras, hgit, rfl⟩ | ⟨text, c, extras, said?, hgit, -, rfl⟩ := ofTable_cases h
  · obtain ⟨git, hgit⟩ := Option.isSome_iff_exists.mp hgit
    exact ⟨hreads, rfl, by simp [interpreter?, isInterpreter, Data.get?, hgit]⟩
  · refine ⟨hreads, rfl, ?_⟩
    simp only [interpreter?, isInterpreter, Data.get?, hgit, Option.isNone_none, Bool.and_true]
    by_cases hname : name = interpreterName <;> simp [hname]

/-- A declaration is read variant by variant. -/
theorem declares_variants {value : Data} (h : ofDeclaration name group value = .ok ds) :
    List.Forall₂ (Declares group) (variants (name, value)) ds := by
  rw [ofDeclaration.eq_def] at h
  split at h
  · obtain ⟨d, hd, rfl⟩ := map_eq_ok.mp h
    exact .cons (declares_of_ofText hd) .nil
  · obtain ⟨d, hd, rfl⟩ := map_eq_ok.mp h
    exact .cons (declares_of_ofTable hd) .nil
  · rw [variants, List.forall₂_map_left_iff]
    refine (mapM_eq_ok_iff.mp h).imp fun item d hd => ?_
    cases item with
    | table entries => exact declares_of_ofTable hd
    | scalar s => cases hd
    | array items => cases hd
  · cases h

/-- A table of declarations is read variant by variant. -/
theorem declares_all {table : List (String × Data)} (h : ofDeclarations group table = .ok ds) :
    List.Forall₂ (Declares group) (table.flatMap variants) ds := by
  obtain ⟨each, heach, h⟩ := bind_eq_ok.mp h
  cases h
  have hall := (mapM_eq_ok_iff.mp heach).imp fun _ _ he => declares_variants he
  rw [List.flatMap_def]
  exact List.rel_flatten (List.forall₂_map_left_iff.mpr hall)

end Dependency

/-! ### The requirements of a group -/

namespace Requirements

variable {group other : Group} {es : List (String × Data)} {ds : List Dependency}

/-- The packages of one group among what its table declares, in their order. -/
theorem packages_of_declares (h : List.Forall₂ (Dependency.Declares group) es ds) :
    List.Forall₂ (AsksFor group) (es.filter fun e => !isInterpreter e)
      ((packages group ds).map Dependency.requirement) := by
  rw [List.forall₂_map_right_iff]
  refine (List.rel_filter ?_ h).imp fun e d hd => ⟨d, hd.reads, rfl⟩
  intro e d hd
  change (!isInterpreter e) = true ↔ (d.interpreter?.isNone && d.group == group) = true
  rw [← hd.interpreter, hd.group]
  simp

/-- What a table of another group declares is not among them. -/
theorem packages_of_other (h : List.Forall₂ (Dependency.Declares other) es ds)
    (hne : other ≠ group) : packages group ds = [] := by
  rw [packages, List.filter_eq_nil_iff]
  intro d hd
  obtain ⟨e, -, he⟩ := exists_mem_of_forall₂ h hd
  simp [he.group, hne]

theorem main_ofDependencies {main dev : List Dependency}
    (hdev : List.Forall₂ (Dependency.Declares .dev) es dev) :
    (ofDependencies (main ++ dev)).main = (packages .main main).map Dependency.requirement := by
  have happend : packages .main (main ++ dev) = packages .main main ++ packages .main dev :=
    List.filter_append ..
  rw [ofDependencies, happend, packages_of_other hdev (by decide), List.append_nil]

theorem dev_ofDependencies {main dev : List Dependency}
    (hmain : List.Forall₂ (Dependency.Declares .main) es main) :
    (ofDependencies (main ++ dev)).dev = (packages .dev dev).map Dependency.requirement := by
  have happend : packages .dev (main ++ dev) = packages .dev main ++ packages .dev dev :=
    List.filter_append ..
  rw [ofDependencies, happend, packages_of_other hmain (by decide), List.nil_append]

end Requirements

/-! ### The requirements in the new manifest -/

namespace Conversion

variable {project : Table} {poetry : Item} {m : Metadata} {r : Requirements}

/-- Texts as an array. -/
def texts (rs : List String) : Data := .array (rs.map fun s => .scalar (.string s))

theorem data_requirementsValue (rs : List String) : (requirementsValue rs).data = texts rs := by
  rw [requirementsValue]
  cases rs with
  | nil => rfl
  | cons s rs =>
    refine congrArg Data.array ?_
    rw [valuesData_eq_map, List.map_map]
    rfl

theorem get?_addText {key k : String} {text? : Option String} {t : Table} (hk : k ≠ key) :
    (addText key text? t).get? k = t.get? k := by
  cases text? with
  | none => rfl
  | some text => rw [addText, TableOf.get?_set, if_neg hk]

theorem get?_projectTable (h : projectTable poetry m r = .ok project) :
    project.get? "dependencies" = some (.value (requirementsValue r.main)) := by
  obtain ⟨t, -, h⟩ := bind_eq_ok.mp h
  obtain ⟨u, -, h⟩ := bind_eq_ok.mp h
  cases h
  split
  · rw [get?_addText (by decide), TableOf.get?_set, if_pos rfl]
  · rw [TableOf.get?_set, if_neg (by decide), get?_addText (by decide), TableOf.get?_set,
      if_pos rfl]

theorem get?_ryeTable (virtualProject : Bool) : (ryeTable virtualProject r).get? "dev-dependencies" =
    if r.dev = [] then none else some (.value (requirementsValue r.dev)) := by
  rw [ryeTable]
  by_cases hdev : r.dev = []
  · cases virtualProject <;> simp [hdev]
  · simp [hdev]

end Conversion

namespace Manifest

variable {text out : String} {m : Manifest} {ds : List Dependency} {virtualProject : Bool}
  {r : Requirements} {d : Document} {data : Data}

/-- The entries of the table at a key path; where there is no table there are none. -/
def tableAt (data : Data) (path : List String) : List (String × Data) :=
  (data.at? path >>= Data.table?).getD []

/-- Where the declarations of a group are. The older key of the development group wins. -/
def declarationPath (data : Data) : Group → List String
  | .main => ["tool", "poetry", "dependencies"]
  | .dev =>
    if (data.at? ["tool", "poetry", "dev-dependencies"]).isSome then
      ["tool", "poetry", "dev-dependencies"]
    else ["tool", "poetry", "group", "dev", "dependencies"]

theorem declarations_eq (h : data.at? ["tool", "poetry"] = some (.table m.poetry)) (group : Group) :
    m.declarations group = tableAt data (declarationPath data group) := by
  have hat : ∀ key path, data.at? ("tool" :: "poetry" :: key :: path) =
      m.poetry.lookup key >>= fun inside => inside.at? path := by
    intro key path
    change data.at? (["tool", "poetry"] ++ key :: path) = _
    rw [Data.at?_append, h]
    rfl
  cases group with
  | main => rw [declarations, tableAt, declarationPath, hat]; simp [Data.at?]
  | dev =>
    rw [declarations, tableAt, declarationPath, hat]
    cases hdev : m.poetry.lookup "dev-dependencies" with
    | some table => simp [hat, hdev, Data.at?]
    | none => simp [hat, Data.at?, Option.bind_assoc]

/-- What the two groups ask for is what their tables declare, one by one and in their order. -/
theorem requirements_asked (hpoetry : data.at? ["tool", "poetry"] = some (.table m.poetry))
    (hds : m.dependencies = .ok ds) :
    List.Forall₂ (AsksFor .main) (declaredPackages (tableAt data (declarationPath data .main)))
        (Requirements.ofDependencies ds).main ∧
      List.Forall₂ (AsksFor .dev) (declaredPackages (tableAt data (declarationPath data .dev)))
        (Requirements.ofDependencies ds).dev := by
  obtain ⟨main, hmain, h⟩ := bind_eq_ok.mp hds
  obtain ⟨dev, hdev, h⟩ := bind_eq_ok.mp h
  cases h
  rw [declarations_eq hpoetry] at hmain hdev
  have hmain := Dependency.declares_all hmain
  have hdev := Dependency.declares_all hdev
  rw [Requirements.main_ofDependencies hdev, Requirements.dev_ofDependencies hmain]
  exact ⟨Requirements.packages_of_declares hmain, Requirements.packages_of_declares hdev⟩

theorem at?_dependencies (hm : parse text = .ok m) (hd : m.Converts virtualProject r d) :
    d.data.at? ["project", "dependencies"] = some (Conversion.texts r.main) := by
  obtain ⟨project, hproject, rfl⟩ := hd
  rw [Data.at?, get?_data_document, Conversion.get?_document_project (convertible hm)]
  simp only [Option.map_some, Option.bind_eq_bind, Option.bind_some, Data.at?, get?_data_table,
    Conversion.get?_projectTable hproject]
  exact congrArg some (Conversion.data_requirementsValue r.main)

theorem at?_devDependencies (hm : parse text = .ok m) (hd : m.Converts virtualProject r d) :
    d.data.at? ["tool", "rye", "dev-dependencies"] =
      if r.dev = [] then none else some (Conversion.texts r.dev) := by
  have hsource := convertible hm
  obtain ⟨project, hproject, rfl⟩ := hd
  obtain ⟨i, hi⟩ := TableOf.exists_get?_of_mem hsource.tool
  rw [Data.at?, get?_data_document, Conversion.get?_document_tool hsource, hi]
  have hrye : ("rye" = "hatch") = False := by simp
  simp only [Option.map_some, Option.bind_eq_bind, Option.bind_some, Data.at?,
    Conversion.data_newTool, get?_data_table, Conversion.get?_toolTable, hrye, false_and, if_false,
    if_true, Conversion.get?_ryeTable]
  split
  · rfl
  · exact congrArg some (Conversion.data_requirementsValue r.dev)

/-- The requirements of the new manifest are those that its declarations ask for, one by one and in
    their order: no dependency is lost, listed twice or moved to the other group. -/
theorem requirements_listed (hm : parse text = .ok m) (hds : m.dependencies = .ok ds)
    (hout : m.convert virtualProject (.ofDependencies ds) = .ok out) :
    ∃ data d, Document.parse? text = some m.document ∧ m.document.data? = some data ∧
      m.Converts virtualProject (.ofDependencies ds) d ∧ out = d.print ∧
      ∃ main dev,
        List.Forall₂ (AsksFor .main)
          (declaredPackages (tableAt data (declarationPath data .main))) main ∧
        List.Forall₂ (AsksFor .dev)
          (declaredPackages (tableAt data (declarationPath data .dev))) dev ∧
        d.data.at? ["project", "dependencies"] = some (Conversion.texts main) ∧
        d.data.at? ["tool", "rye", "dev-dependencies"] =
          if dev = [] then none else some (Conversion.texts dev) := by
  obtain ⟨hparse, data, hdata, -, hpoetry, -⟩ := exists_of_parse hm
  obtain ⟨d, hd, hprint⟩ := (convert_eq_ok_iff hm).mp hout
  obtain ⟨hmain, hdev⟩ := requirements_asked hpoetry hds
  exact ⟨data, d, hparse, hdata, hd, hprint, _, _, hmain, hdev, at?_dependencies hm hd,
    at?_devDependencies hm hd⟩

/-- A manifest with declarations of every shape, and the interpreter among them. -/
def declarationsText : String :=
  "[tool.poetry]\nname = \"demo\"\nversion = \"1\"\ndescription = \"\"\n\n" ++
    "[tool.poetry.dependencies]\nhttpx = \"^0.24\"\npython = \"^3.8\"\n" ++
    "rich = [\x7b version = \"13\", python = \"<3.12\" \x7d, \x7b version = \"14\" \x7d]\n" ++
    "flask = \x7b git = \"https://example.org/flask\" \x7d\n\n" ++
    "[tool.poetry.group.dev.dependencies]\npytest = \"*\"\n"

theorem requirements_listed_of_declarations :
    ∃ m ds out, parse declarationsText = .ok m ∧ m.dependencies = .ok ds ∧
      m.convert false (.ofDependencies ds) = .ok out ∧
      ∃ data d, m.document.data? = some data ∧ m.Converts false (.ofDependencies ds) d ∧
        out = d.print ∧ ∃ main dev,
          List.Forall₂ (AsksFor .main)
            (declaredPackages (tableAt data (declarationPath data .main))) main ∧
          List.Forall₂ (AsksFor .dev)
            (declaredPackages (tableAt data (declarationPath data .dev))) dev ∧
          d.data.at? ["project", "dependencies"] = some (Conversion.texts main) ∧
          d.data.at? ["tool", "rye", "dev-dependencies"] =
            if dev = [] then none else some (Conversion.texts dev) := by
  have hcheck : readsAs declarationsText (fun _ m =>
      decide (m.metadata.authors = [] ∧ m.metadata.maintainers = []) &&
        m.dependencies.toOption.any fun _ => true) = true := by
    decide +kernel
  obtain ⟨m, hm, hcheck⟩ := exists_of_readsAs hcheck
  obtain ⟨hpeople, hcheck⟩ := Bool.and_eq_true_iff.mp hcheck
  obtain ⟨hauthors, hmaintainers⟩ := of_decide_eq_true hpeople
  obtain ⟨ds, hds, -⟩ := exists_ok_of_any hcheck
  obtain ⟨out, hout⟩ :=
    exists_convert_of_no_people hm hauthors hmaintainers false (.ofDependencies ds)
  obtain ⟨data, d, -, hlisted⟩ := requirements_listed hm hds hout
  exact ⟨m, ds, out, hm, hds, hout, data, d, hlisted⟩

end Manifest

end ManifestMigration
