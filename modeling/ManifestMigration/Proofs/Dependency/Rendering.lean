import ManifestMigration.Proofs.Constraint.Specifier
import ManifestMigration.Proofs.Manifest.Interpreter

/-! The condition of a dependency is found again in its requirement.

    A specifier is made of operators, versions, stars and commas, so the first semicolon of a
    requirement is the one in front of its condition. What follows the name of the interpreter's
    version there is the condition, with quotes around its versions that do not count. The condition
    itself may hold anything else: semicolons, or that name again. -/

namespace ManifestMigration

namespace Constraint

variable {c : Constraint}

/-- A specifier is made of clauses. -/
theorem exists_standalone_specifier (hb : c.Bounded Version.Legible) (hne : c.isEmpty = false) :
    ∃ ws, (∀ w ∈ ws, Standalone w) ∧ c.specifier.text = clauseText ws := by
  cases hpin : c.pinned? with
  | some v =>
    obtain ⟨-, r, hr, hlower⟩ := cuts_of_constraint_pinned? hpin
    have hlegible : v.Legible := (hb r (hr ▸ List.mem_singleton_self r)).lower v hlower
    have htext : c.specifier.text = exactSpecifier v := by rw [specifier, hpin]
    rw [htext, exactSpecifier]
    split
    · next series hseries =>
      obtain ⟨major, tail, high, rfl, hfloor, hhigh, -, -⟩ := pinSeries?_spec hlegible.fits hseries
      refine ⟨_, standalone_clauses ⟨fun w hw => ?_, fun w hw => ?_⟩, render_eq_clauseText _⟩
      · cases hw
        exact hfloor.legible
      · cases hw
        exact hhigh.legible
    · refine ⟨["==" ++ v.text], List.forall_mem_singleton.mpr ?_, by simp [clauseText]⟩
      exact standalone_comparison .equal (by decide) hlegible
  | none =>
    refine ⟨_, ?_, text_specifier hne hpin⟩
    refine List.forall_mem_append.mpr ⟨standalone_clauses (bounded_hull hb), ?_⟩
    refine List.forall_mem_map.mpr fun e he => ?_
    obtain ⟨low, high, hneighbours, hgap⟩ := mem_exclusions.mp he
    exact Exclusion.standalone_text (closes_of_gapExclusion? (hb low hneighbours.mem.1) hgap).1

/-- What a specifier is written with. -/
theorem of_mem_specifier {a : Char} (hb : c.Bounded Version.Legible) (hne : c.isEmpty = false)
    (ha : a ∈ c.specifier.text.toList) : a = ',' ∨ isClauseChar a = true := by
  obtain ⟨ws, hws, htext⟩ := exists_standalone_specifier hb hne
  obtain ⟨us, hus, -, hstandalone, -⟩ := exists_intercalate_eq hws
  rw [htext, hus, String.toList_intercalate] at ha
  refine (Text.of_mem_intercalate ha).imp_right ?_
  rintro ⟨w, hw, ha⟩
  obtain ⟨u, hu, rfl⟩ := List.mem_map.mp hw
  exact (hstandalone u hu).chars a ha

end Constraint

namespace Dependency

variable {name said : String} {group : Group} {value : Toml.Data} {d : Dependency}
  {ds : List Dependency} {c : Constraint} {said? : Option String} {a : Char}

theorem of_mem_qualifiedName (ha : a ∈ d.qualifiedName.toList) :
    a ∈ d.name.toList ∨ a ∈ ['[', ',', ']'] ∨ ∃ e ∈ d.extras, a ∈ e.toList := by
  rw [qualifiedName] at ha
  split at ha
  · exact .inl ha
  · have hopen : "[".toList = ['['] := rfl
    have hcomma : ",".toList = [','] := rfl
    have hclose : "]".toList = [']'] := rfl
    simp only [String.toList_append, List.mem_append, String.toList_intercalate, hopen, hcomma,
      hclose, List.mem_singleton] at ha
    rcases ha with ((ha | rfl) | ha) | rfl
    · exact .inl ha
    · exact .inr (.inl (by simp))
    · rcases Text.of_mem_intercalate ha with rfl | ⟨w, hw, ha⟩
      · exact .inr (.inl (by simp))
      · obtain ⟨e, he, rfl⟩ := List.mem_map.mp hw
        exact .inr (.inr ⟨e, he, ha⟩)
    · exact .inr (.inl (by simp))

/-- Without a condition there is no semicolon in a requirement, unless the name or an extra has one. -/
theorem semicolon_notMem_requirement (hread : d.IsRead) (hsource : d.source = .registry c none)
    (hname : ';' ∉ d.name.toList) (hextras : ∀ e ∈ d.extras, ';' ∉ e.toList) :
    ';' ∉ d.requirement.toList := by
  obtain ⟨text, htext⟩ := hread c none hsource
  have hqualified : ';' ∉ d.qualifiedName.toList := by
    intro h
    rcases of_mem_qualifiedName h with h | h | ⟨e, he, h⟩
    · exact hname h
    · exact absurd h (by decide)
    · exact hextras e he h
  have hversions : ';' ∉ c.specifier.text.toList := by
    intro h
    have hbounded : c.Bounded Version.Legible := Constraint.Readable.bounded ⟨text, htext⟩
    have hne := (Constraint.readables_of_parse htext).2.2.1
    exact absurd (Constraint.of_mem_specifier hbounded hne h) (by decide)
  rw [requirement, hsource]
  simp only
  split
  · exact hqualified
  · simp only [String.append_empty, String.toList_append, List.mem_append]
    rintro (h | h)
    · exact hqualified h
    · split at h
      · cases h
      · exact hversions h

/-- A requirement is cut in two in front of its condition, and a condition without quotes is found
    again in the second part. Without a condition there is nothing to cut. -/
theorem condition_survives (h : ofDeclaration name group value = .ok ds) (hd : d ∈ ds)
    (hsource : d.source = .registry c said?) (hany : c.isAny = false)
    (hname : ';' ∉ d.name.toList) (hextras : ∀ e ∈ d.extras, ';' ∉ e.toList) :
    (∀ said, said? = some said → said ≠ "" → (∀ a ∈ said.toList, Marker.isPlain a = true) →
      ∃ marker, Marker.split d.requirement =
          (trimmed { d with source := .registry c none }.requirement, some marker) ∧
        Marker.interpreter? marker = some said) ∧
    (said? = none → ';' ∉ d.requirement.toList) := by
  have hread := isRead_of_ofDeclaration h hd
  constructor
  · rintro said rfl hne hplain
    have hbefore : ';' ∉ { d with source := .registry c none }.requirement.toList := by
      refine semicolon_notMem_requirement (c := c) ?_ rfl hname hextras
      rintro _ _ ⟨⟩
      exact hread c _ hsource
    obtain ⟨name, extras, group, source⟩ := d
    obtain rfl : source = .registry c (some said) := hsource
    have htext : (⟨name, extras, group, .registry c (some said)⟩ : Dependency).requirement =
        (⟨name, extras, group, .registry c none⟩ : Dependency).requirement ++ ";" ++
          (" python_version " ++ Marker.quoteVersions said) := by
      have hlead : "; python_version " = ";" ++ " python_version " := rfl
      rw [requirement_registry hany, hlead, String.append_assoc, String.append_assoc]
    refine ⟨_, by rw [htext, split_marker hbefore], ?_⟩
    have htrim : Text.trim said.toList = said.toList := by
      have hsaid := congrArg String.toList (isTrimmed_of_ofDeclaration h hd c said rfl)
      rwa [trimmed, String.toList_ofList] at hsaid
    have hunquote : Marker.unquote (Marker.quoteVersions said).toList = said.toList := by
      rw [Marker.unquote_quoteVersions, Marker.unquote, List.filter_eq_self.mpr hplain, htrim]
    rw [interpreter?_mention, hunquote, if_neg (by simpa using hne), String.ofList_toList]
  · rintro rfl
    exact semicolon_notMem_requirement hread hsource hname hextras

theorem condition_survives_semicolon :
    let said := "<3.11; python_version 3"
    let value := Toml.Data.table [("version", .scalar (.string ">=1,<2 || >=3,<4")),
      ("python", .scalar (.string said)), ("extras", .array [.scalar (.string "http2")])]
    ∃ c d, d = ⟨"httpx", ["http2"], .main, .registry c (some said)⟩ ∧
      ofDeclaration "httpx" .main value = .ok [d] ∧ c.isAny = false ∧
      d.requirement = "httpx[http2]>=1,<4,!=2.*; python_version <'3.11'; python_version '3'" ∧
      ∃ marker, Marker.split d.requirement =
          (trimmed { d with source := .registry c none }.requirement, some marker) ∧
        Marker.interpreter? marker = some said := by
  intro said value
  have hcheck : (Constraint.parse ">=1,<2 || >=3,<4").toOption.any (fun c =>
      (ofDeclaration "httpx" .main value).toOption.any fun ds =>
        ds == [⟨"httpx", ["http2"], .main, .registry c (some said)⟩] && (!c.isAny &&
          ds.map requirement ==
            ["httpx[http2]>=1,<4,!=2.*; python_version <'3.11'; python_version '3'"])) = true := by
    decide +kernel
  obtain ⟨c, -, hcheck⟩ := exists_ok_of_any hcheck
  obtain ⟨ds, hds, hcheck⟩ := exists_ok_of_any hcheck
  simp only [Bool.and_eq_true, beq_iff_eq, Bool.not_eq_true'] at hcheck
  obtain ⟨rfl, hany, hrequirement⟩ := hcheck
  have hname : ';' ∉ "httpx".toList := by decide
  have hextras : ∀ e ∈ ["http2"], ';' ∉ e.toList := by decide
  have hplain : said.toList.all Marker.isPlain = true := by decide
  refine ⟨c, _, rfl, hds, hany, (List.cons.inj hrequirement).1, ?_⟩
  exact (condition_survives hds (List.mem_singleton_self _) rfl hany hname hextras).1 said rfl
    (by decide) (List.all_eq_true.mp hplain)

end Dependency

end ManifestMigration
