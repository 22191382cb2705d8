import ManifestMigration.Dependency.Declaration
import ManifestMigration.Proofs.Marker.Conjunction
import ManifestMigration.Proofs.Sequence

/-! Conditions on the interpreter in the declaration of a dependency.

    A text may have a marker behind its range, and the condition is taken from the marker. A table
    has the condition under a key of its own. Both trim it. They part where nothing is left: the
    text then declares no condition, the table an empty one. -/

namespace ManifestMigration.Dependency

variable {name range said : String} {group : Group} {entries : List (String × Toml.Data)}
  {c : Constraint} {cause : Constraint.Error}

/-- A package from a registry, without extras. -/
def plain (name : String) (group : Group) (c : Constraint) (said? : Option String) : Dependency :=
  ⟨name, [], group, .registry c said?⟩

/-- A text without blanks at its ends. -/
def trimmed (s : String) : String := String.ofList (Text.trim s.toList)

/-! ### Markers -/

theorem split_marker (hrange : ';' ∉ range.toList) (marker : String) :
    Marker.split (range ++ ";" ++ marker) = (trimmed range, some (trimmed marker)) := by
  have htext : (range ++ ";" ++ marker).toList = range.toList ++ ';' :: marker.toList := by simp
  rw [Marker.split, htext, Text.splitOnce?_singleton hrange]
  rfl

theorem parse_trimmed (range : String) :
    Constraint.parse (trimmed range) = Constraint.parse range := by
  rw [Constraint.parse, Constraint.parse, trimmed, String.toList_ofList, Text.trim_trim]

/-- A text with a marker is read as its range is, with the condition taken from the marker. -/
theorem ofText_of_ok (hrange : ';' ∉ range.toList) (hc : Constraint.parse range = .ok c)
    (marker : String) : ofText name group (range ++ ";" ++ marker) =
      .ok (plain name group c (Marker.interpreter? (trimmed marker))) := by
  rw [ofText, split_marker hrange]
  simp [readConstraint, parse_trimmed, hc, plain]

theorem ofText_of_error (hrange : ';' ∉ range.toList) (hc : Constraint.parse range = .error cause)
    (marker : String) : ofText name group (range ++ ";" ++ marker) =
      .error (.invalidConstraint name (trimmed range) cause) := by
  rw [ofText, split_marker hrange]
  simp [readConstraint, parse_trimmed, hc]

/-- The requirement ends in the condition, unless every version is allowed. -/
theorem requirement_registry (hany : c.isAny = false) (name : String) (extras : List String)
    (group : Group) (said : String) :
    (⟨name, extras, group, .registry c (some said)⟩ : Dependency).requirement =
      (⟨name, extras, group, .registry c none⟩ : Dependency).requirement ++
        ("; python_version " ++ Marker.quoteVersions said) := by
  simp [requirement, hany, qualifiedName, String.append_assoc]

theorem requirement_plain (hany : c.isAny = false) (name : String) (group : Group)
    (said : String) : (plain name group c (some said)).requirement =
      (plain name group c none).requirement ++
        ("; python_version " ++ Marker.quoteVersions said) :=
  requirement_registry hany name [] group said

/-- From a marker that is a conjunction a condition is taken and written into the requirement. It is
    the condition on the interpreter exactly if that stands alone in the conjunction. -/
theorem ofText_conjunction (name range : String) (group : Group) (lead trail : List Char)
    (K : Marker.Conjunction) (hrange : ';' ∉ range.toList)
    (hlead : ∀ a ∈ lead, Text.isBlank a = true) (htrail : ∀ a ∈ trail, Text.isBlank a = true) :
    ∃ said, (said = String.ofList K.interpreter.condition ↔ K.Alone) ∧
      (∀ cause, Constraint.parse range = .error cause →
        ofText name group (range ++ ";" ++ String.ofList (lead ++ (K.text ++ trail))) =
          .error (.invalidConstraint name (trimmed range) cause)) ∧
      ∀ c, Constraint.parse range = .ok c →
        ∃ d, ofText name group (range ++ ";" ++ String.ofList (lead ++ (K.text ++ trail))) = .ok d ∧
          d = plain name group c (some said) ∧
          (c.isAny = false → d.requirement = (plain name group c none).requirement ++
            ("; python_version " ++ Marker.quoteVersions said)) := by
  obtain ⟨said, hsaid, halone⟩ := K.interpreter?_text
  have hmarker : trimmed (String.ofList (lead ++ (K.text ++ trail))) =
      String.ofList (Text.trim K.text) := by
    rw [trimmed, String.toList_ofList, Text.trim_append_append hlead htrail]
  refine ⟨said, halone, fun cause hc => ofText_of_error hrange hc _, fun c hc => ?_⟩
  refine ⟨_, ofText_of_ok hrange hc _, ?_, fun hany => ?_⟩
  · rw [hmarker, hsaid]
  · rw [hmarker, hsaid, requirement_plain hany]

/-- The comparison `sys_platform == 'win32'`. -/
def onWindows : Marker.Term where
  name := "sys_platform".toList
  before := [' ']
  operator := ['=', '=']
  after := [' ']
  quote := '\''
  value := "win32".toList
  hoperator := .sign (by decide)

/-- The comparison `platform_release == 'python_version'`. -/
def onRelease : Marker.Term where
  name := "platform_release".toList
  before := [' ']
  operator := ['=', '=']
  after := [' ']
  quote := '\''
  value := "python_version".toList
  hoperator := .sign (by decide)

/-- The comparison `python_version < '3.11'`. -/
def belowEleven : Marker.Term where
  name := "python_version".toList
  before := [' ']
  operator := ['<']
  after := [' ']
  quote := '\''
  value := "3.11".toList
  hoperator := .sign (by decide)

/-- The word `and` between single blanks. -/
def spaced : Marker.Joint where
  gap := [' ']
  space := [' ']

theorem ofText_conjunction_of_windows :
    let K : Marker.Conjunction :=
      { earlier := [(onWindows, spaced)], interpreter := belowEleven, later := [] }
    K.Alone ∧ ∃ c d, Constraint.parse ">=1.1" = .ok c ∧
      ofText "tomli" .main (">=1.1" ++ ";" ++ String.ofList ([' '] ++ (K.text ++ []))) = .ok d ∧
      d = plain "tomli" .main c (some "< 3.11") ∧
      d.requirement = (plain "tomli" .main c none).requirement ++
        ("; python_version " ++ Marker.quoteVersions "< 3.11") := by
  intro K
  have halone : K.Alone := ⟨by decide, rfl, by decide⟩
  have hcheck : (Constraint.parse ">=1.1").toOption.any (fun c => !c.isAny) = true := by
    decide +kernel
  obtain ⟨c, hc, hany⟩ := exists_ok_of_any hcheck
  obtain ⟨said, hsaid, -, hok⟩ :=
    ofText_conjunction "tomli" ">=1.1" .main [' '] [] K (by decide)
      (List.forall_mem_singleton.mpr rfl) (List.forall_mem_nil _)
  obtain ⟨d, hd, hplain, hrequirement⟩ := hok c hc
  obtain rfl : said = "< 3.11" := (hsaid.mpr halone).trans (by decide)
  exact ⟨halone, c, d, hc, hd, hplain, hrequirement (by simpa using hany)⟩

/-- What follows the interpreter's comparison is taken along with it, and so is what follows a value
    that mentions the interpreter's version. -/
theorem ofText_takes_other_terms :
    let K : Marker.Conjunction :=
      { earlier := [], interpreter := belowEleven, later := [(spaced, onWindows)] }
    let L : Marker.Conjunction :=
      { earlier := [(onRelease, spaced)], interpreter := belowEleven, later := [] }
    K.text = "python_version < '3.11' and sys_platform == 'win32'".toList ∧
      L.text = "platform_release == 'python_version' and python_version < '3.11'".toList ∧
      K.interpreter.condition = "< 3.11".toList ∧ L.interpreter.condition = "< 3.11".toList ∧
      ∃ c d e, ofText "tomli" .main (">=1.1; " ++ String.ofList K.text) = .ok d ∧
        d = plain "tomli" .main c (some "< 3.11 and sys_platform == win32") ∧
        d.requirement = "tomli>=1.1; python_version < '3.11' and sys_platform == win'32'" ∧
        ofText "tomli" .main (">=1.1; " ++ String.ofList L.text) = .ok e ∧
        e = plain "tomli" .main c (some "and python_version < 3.11") ∧
        e.requirement = "tomli>=1.1; python_version and python_version < '3.11'" := by
  intro K L
  have hcheck : (Constraint.parse ">=1.1").toOption.any (fun c =>
      (ofText "tomli" .main (">=1.1; " ++ String.ofList K.text)).toOption.any fun d =>
        (ofText "tomli" .main (">=1.1; " ++ String.ofList L.text)).toOption.any fun e =>
          d == plain "tomli" .main c (some "< 3.11 and sys_platform == win32") &&
          (d.requirement == "tomli>=1.1; python_version < '3.11' and sys_platform == win'32'" &&
          (e == plain "tomli" .main c (some "and python_version < 3.11") &&
          e.requirement == "tomli>=1.1; python_version and python_version < '3.11'"))) = true := by
    decide +kernel
  obtain ⟨c, hc, hcheck⟩ := exists_ok_of_any hcheck
  obtain ⟨d, hd, hcheck⟩ := exists_ok_of_any hcheck
  obtain ⟨e, he, hcheck⟩ := exists_ok_of_any hcheck
  simp only [Bool.and_eq_true, beq_iff_eq] at hcheck
  obtain ⟨hd', hdreq, he', hereq⟩ := hcheck
  exact ⟨by decide, by decide, by decide, by decide, c, d, e, hd, hd', hdreq, he, he', hereq⟩

/-! ### One declaration as a text and as a table -/

/-- The declaration as a text. -/
def asText (range said : String) : String := range ++ "; python_version " ++ said

theorem asText_eq (range said : String) :
    asText range said = range ++ ";" ++ (" python_version " ++ said) := by
  have hsplit : "; python_version " = ";" ++ " python_version " := by decide
  rw [asText, hsplit, String.append_assoc, String.append_assoc, String.append_assoc]

/-- The entries are the declaration as a table, in whatever order. -/
structure IsTable (range said : String) (entries : List (String × Toml.Data)) : Prop where
  version : entries.lookup "version" = some (.scalar (.string range))
  python : entries.lookup "python" = some (.scalar (.string said))
  only : ∀ e ∈ entries, e.1 = "version" ∨ e.1 = "python"

/-- Both declarations are refused for their constraint, and for the same cause, or both declare one
    dependency. -/
inductive Agree : Except Error Dependency → Except Error Dependency → Prop where
  | refused (name range range' : String) (cause : Constraint.Error) :
    Agree (.error (.invalidConstraint name range cause))
      (.error (.invalidConstraint name range' cause))
  | read (d : Dependency) : Agree (.ok d) (.ok d)

/-- The condition that the text states: none when nothing is said. -/
def condition? (said : String) : Option String :=
  if Text.trim said.toList = [] then none else some (trimmed said)

/-- What follows the name of the interpreter's version is taken, without quotes and trimmed. -/
theorem interpreter?_mention (said : String) :
    Marker.interpreter? (trimmed (" python_version " ++ said)) =
      if Marker.unquote said.toList = [] then none
      else some (String.ofList (Marker.unquote said.toList)) := by
  have hblank : ∀ a ∈ [' '], Text.isBlank a = true := List.forall_mem_singleton.mpr rfl
  have htext : (" python_version " ++ said).toList =
      [' '] ++ ((Marker.interpreterVersion ++ ([' '] ++ (said.toList ++ []))) ++ []) := by
    have hname : " python_version ".toList = [' '] ++ (Marker.interpreterVersion ++ [' ']) := by
      decide
    rw [String.toList_append, hname]
    simp only [List.append_assoc, List.append_nil]
  have hstart : ∀ a ∈ (Marker.interpreterVersion ++ ([' '] ++ (said.toList ++ []))).head?,
      Text.isBlank a = false := by
    have hhead : Marker.interpreterVersion.head? = some 'p' := by decide
    rw [List.head?_append, hhead, Option.some_or]
    rintro a ⟨⟩
    rfl
  have hend : ∀ a ∈ Marker.interpreterVersion.getLast?, Text.isBlank a = false := by
    rintro a ⟨⟩
    rfl
  have hmarker : Text.trim (" python_version " ++ said).toList =
      Marker.interpreterVersion ++ Text.trimEnd ([' '] ++ (said.toList ++ [])) := by
    rw [htext, Text.trim_append_append hblank (List.forall_mem_nil _), Text.trim,
      Text.trimStart_eq_self hstart, Text.trimEnd_append_of_getLast? hend]
  have hunquote : Marker.unquote (Text.trimEnd ([' '] ++ (said.toList ++ []))) =
      Marker.unquote said.toList := by
    rw [Marker.unquote_trimEnd, Marker.unquote_append_append hblank (List.forall_mem_nil _)]
  rw [trimmed, hmarker, Marker.interpreter?_of_splitOnce? (Text.splitOnce?_append _ _), hunquote]

theorem interpreter?_said (hsaid : ∀ a ∈ said.toList, Marker.isPlain a = true) :
    Marker.interpreter? (trimmed (" python_version " ++ said)) = condition? said := by
  rw [interpreter?_mention, Marker.unquote, List.filter_eq_self.mpr hsaid]
  rfl

theorem ofText_asText (hrange : ';' ∉ range.toList)
    (hsaid : ∀ a ∈ said.toList, Marker.isPlain a = true) (hc : Constraint.parse range = .ok c) :
    ofText name group (asText range said) = .ok (plain name group c (condition? said)) := by
  rw [asText_eq, ofText_of_ok hrange hc, interpreter?_said hsaid]

namespace IsTable

theorem lookup_eq_none (h : IsTable range said entries) {key : String} (hversion : key ≠ "version")
    (hpython : key ≠ "python") : entries.lookup key = none := by
  rw [List.lookup_eq_none_iff]
  intro e he
  rcases h.only e he with hkey | hkey
  · simpa [hkey] using hversion
  · simpa [hkey] using hpython

theorem checkKeys_eq (h : IsTable range said entries) :
    checkKeys name versionKeys entries = .ok () := by
  have hfind : entries.find? (fun e => !versionKeys.contains e.1) = none := by
    rw [List.find?_eq_none]
    intro e he
    rcases h.only e he with hkey | hkey <;> simp [hkey, versionKeys]
  rw [checkKeys, hfind]

theorem ofTable_eq (h : IsTable range said entries) :
    ofTable name group entries = (do
      let c ← readConstraint name range
      return plain name group c (some (trimmed said))) := by
  have hgit : entries.lookup "git" = none := h.lookup_eq_none (by decide) (by decide)
  have hextras : entries.lookup "extras" = none := h.lookup_eq_none (by decide) (by decide)
  rw [ofTable, hgit, h.version]
  simp only [h.checkKeys_eq, readText, Toml.Data.string?, readExtras, hextras, readOptional,
    h.python]
  rfl

theorem ofTable_of_ok (h : IsTable range said entries) (hc : Constraint.parse range = .ok c) :
    ofTable name group entries = .ok (plain name group c (some (trimmed said))) := by
  rw [h.ofTable_eq, readConstraint, hc]
  rfl

theorem ofTable_of_error (h : IsTable range said entries)
    (hc : Constraint.parse range = .error cause) :
    ofTable name group entries = .error (.invalidConstraint name range cause) := by
  rw [h.ofTable_eq, readConstraint, hc]
  rfl

end IsTable

theorem agree_ok_iff {d e : Dependency} : Agree (.ok d) (.ok e) ↔ d = e := by
  constructor
  · intro h
    cases h
    rfl
  · rintro rfl
    exact .read d

theorem condition?_eq_none_iff :
    condition? said = none ↔ ∀ a ∈ said.toList, Text.isBlank a = true := by
  rw [condition?, ← Text.trim_eq_nil_iff]
  split <;> simp_all

theorem condition?_eq_some_iff :
    condition? said = some (trimmed said) ↔ ∃ a ∈ said.toList, Text.isBlank a = false := by
  by_cases hblank : ∀ a ∈ said.toList, Text.isBlank a = true
  · rw [condition?_eq_none_iff.mpr hblank]
    refine iff_of_false (by simp) ?_
    rintro ⟨a, ha, hne⟩
    rw [hblank a ha] at hne
    cases hne
  · rw [condition?, if_neg (Text.trim_eq_nil_iff.not.mpr hblank)]
    refine iff_of_true rfl ?_
    simpa using hblank

/-- An empty condition leaves its beginning in the requirement. -/
theorem requirement_of_empty (name : String) (group : Group) (c : Constraint) :
    (plain name group c (some "")).requirement =
      (plain name group c none).requirement ++ if c.isAny then "" else "; python_version " := by
  cases hany : c.isAny with
  | true =>
    simp [requirement, plain, hany]
    rfl
  | false => exact requirement_plain hany name group ""

/-- The two shapes of a declaration agree, unless the range can be read and the condition says
    nothing. Then the text declares the dependency without a condition, and the table with an empty
    one, of which the requirement keeps the beginning. -/
theorem shapes_agree_iff (name : String) (group : Group) (hrange : ';' ∉ range.toList)
    (hsaid : ∀ a ∈ said.toList, Marker.isPlain a = true) (h : IsTable range said entries) :
    (Agree (ofText name group (asText range said)) (ofTable name group entries) ↔
      (∃ cause, Constraint.parse range = .error cause) ∨
        ∃ a ∈ said.toList, Text.isBlank a = false) ∧
    ∀ c, Constraint.parse range = .ok c → (∀ a ∈ said.toList, Text.isBlank a = true) →
      ∃ d e, ofText name group (asText range said) = .ok d ∧ ofTable name group entries = .ok e ∧
        d = plain name group c none ∧ e = plain name group c (some "") ∧
        e.requirement = d.requirement ++ if c.isAny then "" else "; python_version " := by
  constructor
  · cases hc : Constraint.parse range with
    | error cause =>
      rw [asText_eq, ofText_of_error hrange hc, h.ofTable_of_error hc]
      exact iff_of_true (.refused ..) (.inl ⟨cause, rfl⟩)
    | ok c =>
      have hsame : plain name group c (condition? said) =
          plain name group c (some (trimmed said)) ↔ condition? said = some (trimmed said) := by
        simp [plain]
      rw [ofText_asText hrange hsaid hc, h.ofTable_of_ok hc, agree_ok_iff, hsame,
        condition?_eq_some_iff]
      simp
  · intro c hc hblank
    have htext : ofText name group (asText range said) = _ := ofText_asText hrange hsaid hc
    have htable : ofTable name group entries = _ := h.ofTable_of_ok hc
    rw [condition?_eq_none_iff.mpr hblank] at htext
    rw [trimmed, Text.trim_eq_nil_iff.mpr hblank] at htable
    exact ⟨_, _, htext, htable, rfl, rfl, requirement_of_empty name group c⟩

theorem shapes_agree_of_condition :
    Agree (ofText "tomli" .main (asText " >=1.1" "< 3.11 "))
      (ofTable "tomli" .main
        [("python", .scalar (.string "< 3.11 ")), ("version", .scalar (.string " >=1.1"))]) :=
  (shapes_agree_iff "tomli" .main (by decide) (List.all_eq_true.mp (by decide))
    ⟨rfl, rfl, by decide⟩).1.mpr
    (.inr ⟨'<', by decide, by decide⟩)

/-- Nothing after the name of the interpreter's version: the table gives a requirement that ends in
    that name. -/
theorem shapes_part_without_condition :
    let entries : List (String × Toml.Data) :=
      [("version", .scalar (.string ">=1")), ("python", .scalar (.string ""))]
    IsTable ">=1" "" entries ∧
      ∃ d e, ofText "foo" .main (asText ">=1" "") = .ok d ∧ ofTable "foo" .main entries = .ok e ∧
        d.requirement = "foo>=1" ∧ e.requirement = "foo>=1; python_version " ∧
        ¬ Agree (.ok d) (.ok e) := by
  intro entries
  have htable : IsTable ">=1" "" entries := ⟨rfl, rfl, by decide⟩
  have hcheck : (Constraint.parse ">=1").toOption.any (fun c =>
      (plain "foo" .main c none).requirement == "foo>=1" &&
        (plain "foo" .main c (some "")).requirement == "foo>=1; python_version ") = true := by
    decide +kernel
  obtain ⟨c, hc, hcheck⟩ := exists_ok_of_any hcheck
  obtain ⟨hd, he⟩ := (Bool.and_eq_true _ _).mp hcheck
  have hd := beq_iff_eq.mp hd
  have he := beq_iff_eq.mp he
  refine ⟨htable, _, _, ofText_asText (by decide) (List.forall_mem_nil _) hc,
    htable.ofTable_of_ok hc, hd, he, ?_⟩
  rw [agree_ok_iff]
  intro hsame
  simp [plain] at hsame
  exact absurd hsame (by decide)

end ManifestMigration.Dependency
