import ManifestMigration.Dependency.Declaration
import ManifestMigration.Proofs.Manifest.Conditions

/-! Which declarations are accepted, and which part of one that is not is blamed.

    A declaration is a text with a constraint, a table with a git repository or with a version, or an
    array of such tables. The keys of a table are checked before anything else in it, so the first key
    that does not belong there is named, whatever else is wrong; a table without both says nothing of
    its keys. Of several declarations the first that is refused decides. -/

namespace ManifestMigration.Dependency

open Toml

variable {name n key : String} {group : Group} {entries table : List (String × Data)}
  {items : List Data} {value item : Data} {allowed : List String} {error : Error}

/-! ### Shapes -/

/-- A value that is a text. -/
def IsText (value : Data) : Prop := ∃ s, value = .scalar (.string s)

/-- A value that is an array of texts. -/
def IsTexts (value : Data) : Prop := ∃ items, value = .array items ∧ ∀ item ∈ items, IsText item

/-- A constraint can be read from a text. -/
def IsConstraint (text : String) : Prop := ∃ c, Constraint.parse text = .ok c

/-- A table that declares a package from a git repository. -/
structure IsGitTable (entries : List (String × Data)) : Prop where
  keys : ∀ e ∈ entries, e.1 ∈ ["git", "tag", "extras"]
  git : ∃ url, entries.lookup "git" = some url ∧ IsText url
  tag : ∀ tag, entries.lookup "tag" = some tag → IsText tag
  extras : ∀ extras, entries.lookup "extras" = some extras → IsTexts extras

/-- A table that declares a package in some versions. -/
structure IsVersionTable (entries : List (String × Data)) : Prop where
  keys : ∀ e ∈ entries, e.1 ∈ ["version", "extras", "python"]
  git : entries.lookup "git" = none
  version : ∃ text, entries.lookup "version" = some (.scalar (.string text)) ∧ IsConstraint text
  python : ∀ python, entries.lookup "python" = some python → IsText python
  extras : ∀ extras, entries.lookup "extras" = some extras → IsTexts extras

/-- A table that declares a package. -/
def IsPackageTable (entries : List (String × Data)) : Prop :=
  IsGitTable entries ∨ IsVersionTable entries

/-- A value that declares packages. The constraint of a text ends at the first semicolon. -/
inductive IsDeclaration : Data → Prop
  | text {s : String} (h : IsConstraint (String.ofList (s.toList.takeWhile (· ≠ ';')))) :
    IsDeclaration (.scalar (.string s))
  | table {entries : List (String × Data)} (h : IsPackageTable entries) :
    IsDeclaration (.table entries)
  | array {items : List Data}
    (h : ∀ item ∈ items, ∃ entries, item = .table entries ∧ IsPackageTable entries) :
    IsDeclaration (.array items)

/-! ### Parts of a table -/

theorem readText_eq_ok_iff {s : String} :
    readText name value = .ok s ↔ value = .scalar (.string s) := by
  constructor
  · intro hs
    match value, hs with
    | .scalar (.string s), rfl => rfl
  · rintro rfl
    rfl

theorem exists_readText_iff (name : String) (value : Data) :
    (∃ s, readText name value = .ok s) ↔ IsText value :=
  exists_congr fun _ => readText_eq_ok_iff

theorem exists_readOptional_iff (name key : String) (entries : List (String × Data)) :
    (∃ text?, readOptional name key entries = .ok text?) ↔
      ∀ value, entries.lookup key = some value → IsText value := by
  rw [readOptional]
  cases entries.lookup key with
  | none => simp
  | some value =>
    constructor
    · rintro ⟨text?, h⟩ value ⟨⟩
      obtain ⟨s, hs, -⟩ := map_eq_ok.mp h
      exact (exists_readText_iff name value).mp ⟨s, hs⟩
    · intro h
      obtain ⟨s, hs⟩ := (exists_readText_iff name value).mpr (h value rfl)
      exact ⟨some s, map_eq_ok.mpr ⟨s, hs, rfl⟩⟩

theorem exists_readExtras_iff (name : String) (entries : List (String × Data)) :
    (∃ extras, readExtras name entries = .ok extras) ↔
      ∀ extras, entries.lookup "extras" = some extras → IsTexts extras := by
  rw [readExtras]
  split
  case h_1 hnone => simp [hnone]
  case h_2 items hitems =>
    rw [exists_mapM_eq_ok_iff]
    simp only [exists_readText_iff]
    constructor
    · rintro h extras hextras
      cases hitems.symm.trans hextras
      exact ⟨items, rfl, h⟩
    · intro h
      obtain ⟨_, ⟨⟩, htexts⟩ := h _ hitems
      exact htexts
  case h_3 value hnot hvalue =>
    constructor
    · rintro ⟨_, ⟨⟩⟩
    · intro h
      obtain ⟨items, rfl, -⟩ := h value hvalue
      exact absurd rfl (hnot items)

theorem exists_readConstraint_iff (name text : String) :
    (∃ c, readConstraint name text = .ok c) ↔ IsConstraint text := by
  rw [readConstraint, IsConstraint]
  cases Constraint.parse text <;> simp

/-- A key is the first that does not belong into a table. -/
def FirstOutside (allowed : List String) (entries : List (String × Data)) (key : String) : Prop :=
  ∃ before value after, entries = before ++ (key, value) :: after ∧
    (∀ e ∈ before, e.1 ∈ allowed) ∧ key ∉ allowed

theorem exists_checkKeys_iff (name : String) (allowed : List String)
    (entries : List (String × Data)) :
    (∃ u, checkKeys name allowed entries = .ok u) ↔ ∀ e ∈ entries, e.1 ∈ allowed := by
  rw [checkKeys]
  split
  case h_1 key value hfound =>
    constructor
    · rintro ⟨_, ⟨⟩⟩
    · intro h
      have hin := h _ (List.mem_of_find?_eq_some hfound)
      have hout := List.find?_some hfound
      simp [hin] at hout
  case h_2 hnone =>
    simpa [List.find?_eq_none] using hnone

theorem checkKeys_eq_error_iff : checkKeys name allowed entries = .error error ↔
    ∃ key, FirstOutside allowed entries key ∧ error = .unsupportedKey name key := by
  have hfind : ∀ {e}, entries.find? (fun e => !allowed.contains e.1) = some e ↔
      ∃ before after, entries = before ++ e :: after ∧ (∀ e ∈ before, e.1 ∈ allowed) ∧
        e.1 ∉ allowed := by
    intro e
    rw [List.find?_eq_some_iff_append]
    simp only [Bool.not_not, List.contains_iff_mem, Bool.not_eq_true', ← Bool.not_eq_true]
    grind
  rw [checkKeys]
  split
  case h_1 key value hfound =>
    obtain ⟨before, after, happend, hbefore, hkey⟩ := hfind.mp hfound
    constructor
    · rintro ⟨⟩
      exact ⟨key, ⟨before, value, after, happend, hbefore, hkey⟩, rfl⟩
    · rintro ⟨key', ⟨before', value', after', happend', hbefore', hkey'⟩, rfl⟩
      have hsame := hfound.symm.trans (hfind.mpr ⟨before', after', happend', hbefore', hkey'⟩)
      cases hsame
      rfl
  case h_2 hnone =>
    constructor
    · rintro ⟨⟩
    · rintro ⟨key, ⟨before, value, after, happend, hbefore, hkey⟩, -⟩
      have hfound := hfind.mpr ⟨before, after, happend, hbefore, hkey⟩
      rw [hnone] at hfound
      cases hfound

/-! ### Tables -/

/-- The keys that a table with a repository or a version may have. -/
def allowedKeys? (entries : List (String × Data)) : Option (List String) :=
  if (entries.lookup "git").isSome then some ["git", "tag", "extras"]
  else if (entries.lookup "version").isSome then some ["version", "extras", "python"]
  else none

theorem exists_ofTable_iff :
    (∃ d, ofTable name group entries = .ok d) ↔ IsPackageTable entries := by
  rw [ofTable]
  split
  case h_1 git hgit =>
    have hiff : IsPackageTable entries ↔ (∀ e ∈ entries, e.1 ∈ gitKeys) ∧ IsText git ∧
        (∀ extras, entries.lookup "extras" = some extras → IsTexts extras) ∧
        (∀ tag, entries.lookup "tag" = some tag → IsText tag) ∧ True := by
      constructor
      · rintro (h | h)
        · obtain ⟨url, hurl, htext⟩ := h.git
          cases hgit.symm.trans hurl
          exact ⟨h.keys, htext, h.extras, h.tag, trivial⟩
        · rw [h.git] at hgit
          cases hgit
      · rintro ⟨hkeys, htext, hextras, htag, -⟩
        exact .inl ⟨hkeys, ⟨git, hgit, htext⟩, htag, hextras⟩
    rw [hiff, ← exists_checkKeys_iff name, ← exists_readText_iff name, ← exists_readExtras_iff name,
      ← exists_readOptional_iff name]
    refine exists_bind_eq_ok_iff fun _ _ => ?_
    refine exists_bind_eq_ok_iff fun url _ => ?_
    refine exists_bind_eq_ok_iff fun extras _ => ?_
    exact exists_bind_eq_ok_iff fun tag? _ => iff_of_true ⟨_, rfl⟩ trivial
  case h_2 version hgit hversion =>
    have hiff : IsPackageTable entries ↔ (∀ e ∈ entries, e.1 ∈ versionKeys) ∧ IsText version ∧
        (∀ text, version = .scalar (.string text) → IsConstraint text) ∧
        (∀ extras, entries.lookup "extras" = some extras → IsTexts extras) ∧
        (∀ python, entries.lookup "python" = some python → IsText python) ∧ True := by
      constructor
      · rintro (h | h)
        · obtain ⟨url, hurl, -⟩ := h.git
          cases hgit.symm.trans hurl
        · obtain ⟨text, htext, hconstraint⟩ := h.version
          cases hversion.symm.trans htext
          refine ⟨h.keys, ⟨text, rfl⟩, fun text' htext' => ?_, h.extras, h.python, trivial⟩
          cases htext'
          exact hconstraint
      · rintro ⟨hkeys, ⟨text, rfl⟩, hconstraint, hextras, hpython, -⟩
        exact .inr ⟨hkeys, hgit, ⟨text, hversion, hconstraint text rfl⟩, hpython, hextras⟩
    rw [hiff, ← exists_checkKeys_iff name, ← exists_readText_iff name, ← exists_readExtras_iff name,
      ← exists_readOptional_iff name]
    refine exists_bind_eq_ok_iff fun _ _ => ?_
    refine exists_bind_eq_ok_iff fun text htext => ?_
    rw [readText_eq_ok_iff.mp htext]
    have hconstraint : (∀ text', Data.scalar (.string text) = .scalar (.string text') →
        IsConstraint text') ↔ ∃ c, readConstraint name text = .ok c := by
      rw [exists_readConstraint_iff]
      exact ⟨fun h => h text rfl, fun h text' htext' => by cases htext'; exact h⟩
    rw [hconstraint]
    refine exists_bind_eq_ok_iff fun c _ => ?_
    refine exists_bind_eq_ok_iff fun extras _ => ?_
    exact exists_bind_eq_ok_iff fun said? _ => iff_of_true ⟨_, rfl⟩ trivial
  case h_3 hgit hversion =>
    constructor
    · rintro ⟨_, ⟨⟩⟩
    · rintro (h | h)
      · obtain ⟨url, hurl, -⟩ := h.git
        cases hgit.symm.trans hurl
      · obtain ⟨text, htext, -⟩ := h.version
        cases hversion.symm.trans htext

/-! ### Keys that do not belong -/

/-- A step does not fail for a key. -/
def BlamesNoKey {α : Type} (x : Except Error α) : Prop := ∀ n key, x ≠ .error (.unsupportedKey n key)

theorem BlamesNoKey.bind {α β : Type} {x : Except Error α} {f : α → Except Error β}
    (hx : BlamesNoKey x) (hf : ∀ a, BlamesNoKey (f a)) : BlamesNoKey (x >>= f) := by
  intro n key h
  rcases bind_eq_error.mp h with h | ⟨a, -, h⟩
  · exact hx n key h
  · exact hf a n key h

theorem blamesNoKey_pure {α : Type} (a : α) : BlamesNoKey (pure a) := by
  intro n key h
  cases h

theorem blamesNoKey_unsupportedShape {α : Type} (name : String) :
    BlamesNoKey (.error (.unsupportedShape name) : Except Error α) := by
  intro n key h
  cases h

theorem blamesNoKey_readText (value : Data) : BlamesNoKey (readText name value) := by
  intro n key h
  rw [readText] at h
  split at h <;> cases h

theorem blamesNoKey_readOptional (key : String) : BlamesNoKey (readOptional name key entries) := by
  rw [readOptional]
  split
  · exact blamesNoKey_pure none
  · exact (blamesNoKey_readText _).bind fun _ => blamesNoKey_pure _

theorem blamesNoKey_readExtras : BlamesNoKey (readExtras name entries) := by
  rw [readExtras]
  split
  · exact blamesNoKey_pure []
  · intro n key h
    obtain ⟨_, item, _, -, -, hitem⟩ := mapM_eq_error_iff_append.mp h
    exact blamesNoKey_readText item n key hitem
  · exact blamesNoKey_unsupportedShape name

theorem blamesNoKey_readConstraint (text : String) : BlamesNoKey (readConstraint name text) := by
  intro n key h
  rw [readConstraint] at h
  split at h <;> cases h

theorem bind_eq_error_of_blamesNoKey {α β : Type} {x : Except Error α} {f : α → Except Error β}
    (hf : ∀ a, BlamesNoKey (f a)) :
    x >>= f = .error (.unsupportedKey n key) ↔ x = .error (.unsupportedKey n key) := by
  rw [bind_eq_error]
  exact or_iff_left fun ⟨a, _, h⟩ => hf a n key h

/-- The first key that does not belong into a table is named, whatever else is wrong in it. -/
theorem ofTable_eq_unsupportedKey_iff :
    ofTable name group entries = .error (.unsupportedKey n key) ↔
      n = name ∧ ∃ allowed, allowedKeys? entries = some allowed ∧ FirstOutside allowed entries key := by
  have hchecks : ∀ {allowed}, checkKeys name allowed entries = .error (.unsupportedKey n key) ↔
      n = name ∧ FirstOutside allowed entries key := by
    intro allowed
    rw [checkKeys_eq_error_iff]
    constructor
    · rintro ⟨key', hkey, ⟨⟩⟩
      exact ⟨rfl, hkey⟩
    · rintro ⟨rfl, hkey⟩
      exact ⟨key, hkey, rfl⟩
  rw [ofTable, allowedKeys?]
  split
  case h_1 git hgit =>
    rw [bind_eq_error_of_blamesNoKey, hchecks, hgit]
    · simp [gitKeys]
    · refine fun _ => (blamesNoKey_readText git).bind fun _ => ?_
      refine blamesNoKey_readExtras.bind fun _ => ?_
      exact (blamesNoKey_readOptional "tag").bind fun _ => blamesNoKey_pure _
  case h_2 version hgit hversion =>
    rw [bind_eq_error_of_blamesNoKey, hchecks, hgit, hversion]
    · simp [versionKeys]
    · refine fun _ => (blamesNoKey_readText version).bind fun text => ?_
      refine (blamesNoKey_readConstraint text).bind fun _ => ?_
      refine blamesNoKey_readExtras.bind fun _ => ?_
      exact (blamesNoKey_readOptional "python").bind fun _ => blamesNoKey_pure _
  case h_3 hgit hversion =>
    rw [hgit, hversion]
    simp

/-! ### Declarations -/

/-- The constraint of a text ends at its first semicolon. -/
theorem split_fst (s : String) :
    (Marker.split s).1 = trimmed (String.ofList (s.toList.takeWhile (· ≠ ';'))) := by
  rw [Marker.split, trimmed, String.toList_ofList]
  by_cases hmem : ';' ∈ s.toList
  · obtain ⟨range, marker, hs, hrange⟩ := List.eq_append_cons_of_mem hmem
    have hplain : ∀ c ∈ range, decide (c ≠ ';') = true := by
      intro c hc
      rw [decide_eq_true_eq]
      rintro rfl
      exact hrange hc
    rw [hs, Text.splitOnce?_singleton hrange, List.takeWhile_append_of_pos hplain,
      List.takeWhile_cons_of_neg (by decide), List.append_nil]
  · have hnone : Text.splitOnce? [';'] s.toList = none := by
      rw [Text.splitOnce?_eq_none_iff]
      exact fun hcut => hmem (hcut.subset (List.mem_singleton_self _))
    have hplain : ∀ c ∈ s.toList, decide (c ≠ ';') = true := by
      intro c hc
      rw [decide_eq_true_eq]
      rintro rfl
      exact hmem hc
    rw [hnone, List.takeWhile_eq_self_iff.mpr hplain]

theorem exists_ofText_iff (name : String) (group : Group) (s : String) :
    (∃ d, ofText name group s = .ok d) ↔
      IsConstraint (String.ofList (s.toList.takeWhile (· ≠ ';'))) := by
  have hrange : IsConstraint (String.ofList (s.toList.takeWhile (· ≠ ';'))) ↔
      IsConstraint (Marker.split s).1 ∧ True := by
    rw [split_fst, IsConstraint, IsConstraint, parse_trimmed, and_true]
  rw [hrange, ← exists_readConstraint_iff name]
  exact exists_bind_eq_ok_iff fun c _ => iff_of_true ⟨_, rfl⟩ trivial

/-- Reads one of several variants. -/
def ofVariant (name : String) (group : Group) : Data → Except Error Dependency
  | .table entries => ofTable name group entries
  | _ => .error (.unsupportedShape name)

theorem ofDeclaration_array :
    ofDeclaration name group (.array items) = items.mapM (ofVariant name group) := rfl

theorem ofDeclaration_table :
    ofDeclaration name group (.table entries) = (fun d => [d]) <$> ofTable name group entries := rfl

theorem exists_ofVariant_iff (name : String) (group : Group) (item : Data) :
    (∃ d, ofVariant name group item = .ok d) ↔
      ∃ entries, item = .table entries ∧ IsPackageTable entries := by
  match item with
  | .table entries =>
    rw [ofVariant, exists_ofTable_iff]
    simp
  | .scalar _ | .array _ => simp [ofVariant]

theorem exists_ofDeclaration_iff (name : String) (group : Group) (value : Data) :
    (∃ ds, ofDeclaration name group value = .ok ds) ↔ IsDeclaration value := by
  match value with
  | .scalar (.string s) =>
    rw [ofDeclaration, exists_map_eq_ok_iff, exists_ofText_iff]
    exact ⟨.text, fun h => by cases h; assumption⟩
  | .table entries =>
    rw [ofDeclaration_table, exists_map_eq_ok_iff, exists_ofTable_iff]
    exact ⟨.table, fun h => by cases h; assumption⟩
  | .array items =>
    rw [ofDeclaration_array, exists_mapM_eq_ok_iff]
    simp only [exists_ofVariant_iff]
    exact ⟨.array, fun h => by cases h; assumption⟩
  | .scalar (.integer _) | .scalar (.float _) | .scalar (.boolean _) | .scalar (.moment _) =>
    exact iff_of_false (by rintro ⟨_, ⟨⟩⟩) nofun

/-- A variant is refused as it would be alone; only tables are variants. -/
def IsRefused (name : String) (group : Group) (item : Data) (error : Error) : Prop :=
  (∃ entries, item = .table entries ∧ ofDeclaration name group item = .error error) ∨
    (∀ entries, item ≠ .table entries) ∧ error = .unsupportedShape name

theorem ofVariant_eq_error_iff :
    ofVariant name group item = .error error ↔ IsRefused name group item error := by
  match item with
  | .table entries =>
    rw [ofVariant, IsRefused, ofDeclaration_table, map_eq_error]
    simp
  | .scalar _ | .array _ => simp [ofVariant, IsRefused, eq_comm]

/-- Declarations are accepted by their shape. The first key that does not belong into a table with a
    repository or a version is named, and of the variants under a name, and of the declarations in a
    table, the first that is refused is blamed. -/
theorem declarations_read (name : String) (group : Group) :
    (∀ value, (∃ ds, ofDeclaration name group value = .ok ds) ↔ IsDeclaration value) ∧
    (∀ entries n key, ofDeclaration name group (.table entries) = .error (.unsupportedKey n key) ↔
      n = name ∧ ∃ allowed, allowedKeys? entries = some allowed ∧ FirstOutside allowed entries key) ∧
    (∀ items error, ofDeclaration name group (.array items) = .error error ↔
      ∃ before item after, items = before ++ item :: after ∧
        (∀ variant ∈ before, ∃ entries, variant = .table entries ∧ IsPackageTable entries) ∧
        IsRefused name group item error) ∧
    ∀ table error, ofDeclarations group table = .error error ↔
      ∃ before n value after, table = before ++ (n, value) :: after ∧
        (∀ e ∈ before, IsDeclaration e.2) ∧ ofDeclaration n group value = .error error := by
  refine ⟨exists_ofDeclaration_iff name group, fun entries n key => ?_, fun items error => ?_,
    fun table error => ?_⟩
  · rw [ofDeclaration_table, map_eq_error, ofTable_eq_unsupportedKey_iff]
  · rw [ofDeclaration_array, mapM_eq_error_iff_append]
    simp only [exists_ofVariant_iff, ofVariant_eq_error_iff]
  · have hall : ofDeclarations group table = .error error ↔
        table.mapM (fun e => ofDeclaration e.1 group e.2) = .error error := by
      rw [ofDeclarations, bind_eq_error]
      exact or_iff_left fun ⟨_, _, h⟩ => nomatch h
    rw [hall, mapM_eq_error_iff_append]
    simp only [exists_ofDeclaration_iff, Prod.exists]

/-- The repository is no text here, and neither is the tag. -/
example : ofDeclaration "lib" .main (.table [("tag", .array []), ("rev", .array []),
    ("git", .array []), ("branch", .array [])]) = .error (.unsupportedKey "lib" "rev") := rfl

end ManifestMigration.Dependency
