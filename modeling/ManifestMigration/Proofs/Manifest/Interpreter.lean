import ManifestMigration.Proofs.Constraint.Standard
import ManifestMigration.Proofs.Manifest.Declarations

/-! The interpreter requirement of a project, as a specifier of PEP 440.

    The requirement is the text of a constraint that was read from a declaration and does not allow
    every interpreter. It is a specifier, unless it is the star of a union that nothing is told of,
    or the declaration was not written in ASCII. -/

namespace ManifestMigration

open Constraint (IsSpecifier)
open Text (IsAscii)

namespace Dependency

variable {name : String} {group : Group} {d : Dependency} {ds : List Dependency} {c : Constraint}

/-- Was read from a table of declarations. -/
def Declared (d : Dependency) : Prop :=
  ∃ group table ds, ofDeclarations group table = .ok ds ∧ d ∈ ds

theorem Declared.isRead (h : d.Declared) : d.IsRead := by
  obtain ⟨group, table, ds, hds, hd⟩ := h
  obtain ⟨each, heach, hds⟩ := bind_eq_ok.mp hds
  cases hds
  obtain ⟨es, hes, hd⟩ := List.mem_flatten.mp hd
  obtain ⟨e, -, he⟩ := exists_mem_of_forall₂ (mapM_eq_ok_iff.mp heach) hes
  exact isRead_of_ofDeclaration he hd

/-- The constraint on the interpreter was read from a text, and allows some version. -/
theorem Declared.interpreter (h : d.Declared) (hc : d.interpreter? = some c) :
    Constraint.Readable c ∧ c.isEmpty = false := by
  rw [interpreter?] at hc
  split at hc
  · next constraint said? hsource =>
    split at hc
    · obtain rfl := Option.some.inj hc
      obtain ⟨text, htext⟩ := h.isRead _ _ hsource
      exact ⟨⟨text, htext⟩, (Constraint.readables_of_parse htext).2.2.1⟩
    · cases hc
  · cases hc

end Dependency

namespace Requirements

variable {ds : List Dependency} {t : String}

/-- The interpreter requirement is stated by one of the dependencies. -/
theorem exists_of_interpreter (h : (ofDependencies ds).interpreter = some t) :
    ∃ d ∈ ds, ∃ c, d.interpreter? = some c ∧ c.isAny = false ∧ t = c.interpreterSpecifier := by
  have hmem := List.mem_of_getLast? h
  obtain ⟨d, hd, hstates⟩ := List.mem_filterMap.mp hmem
  rw [interpreterOf?] at hstates
  split at hstates
  · next c hc =>
    split at hstates
    · cases hstates
    · next hany =>
      exact ⟨d, hd, c, hc, (Bool.not_eq_true _).mp hany, (Option.some.inj hstates).symm⟩
  · cases hstates

/-- The interpreter requirement of declared dependencies is a specifier of PEP 440 exactly if
    something is told of its union and it is written in ASCII. A requirement that is not told is a
    star, and one of which the bounds are written in ASCII is so itself. -/
theorem interpreter_isSpecifier_iff (hds : ∀ d ∈ ds, d.Declared)
    (h : (ofDependencies ds).interpreter = some t) :
    ∃ d ∈ ds, ∃ c, d.interpreter? = some c ∧ c.isAny = false ∧ t = c.interpreterSpecifier ∧
      (IsSpecifier t.toList ↔ ¬ c.Untold ∧ IsAscii t.toList) ∧ (c.Untold → t = "*") ∧
      (c.Bounded (fun v => IsAscii v.text.toList) → IsAscii t.toList) := by
  obtain ⟨d, hd, c, hc, hany, rfl⟩ := exists_of_interpreter h
  obtain ⟨hread, hne⟩ := (hds d hd).interpreter hc
  exact ⟨d, hd, c, hc, hany, rfl, Constraint.isSpecifier_interpreterSpecifier_iff hread hne hany⟩

theorem interpreter_isSpecifier_of_union : ∃ ds,
    Dependency.ofDeclarations .main [("python", .scalar (.string "~2.7 || >=3.5"))] = .ok ds ∧
    (∀ d ∈ ds, d.Declared) ∧
    (ofDependencies ds).interpreter = some ">=2.7, !=3.0.*, !=3.1.*, !=3.2.*, !=3.3.*, !=3.4.*" ∧
    IsSpecifier ">=2.7, !=3.0.*, !=3.1.*, !=3.2.*, !=3.3.*, !=3.4.*".toList := by
  have hcheck : (Dependency.ofDeclarations .main
      [("python", .scalar (.string "~2.7 || >=3.5"))]).toOption.any (fun ds =>
        (ofDependencies ds).interpreter ==
          some ">=2.7, !=3.0.*, !=3.1.*, !=3.2.*, !=3.3.*, !=3.4.*") = true := by
    decide +kernel
  obtain ⟨ds, hread, hcheck⟩ := exists_ok_of_any hcheck
  have hinterpreter := beq_iff_eq.mp hcheck
  have hds : ∀ d ∈ ds, d.Declared := fun d hd => ⟨.main, _, ds, hread, hd⟩
  obtain ⟨d, -, c, -, -, htext, hiff, huntold, -⟩ := interpreter_isSpecifier_iff hds hinterpreter
  refine ⟨ds, hread, hds, hinterpreter, hiff.mpr ⟨fun h => ?_, ?_⟩⟩
  · exact absurd (huntold h) (by decide)
  · decide +kernel

/-- A union around all known series is stated as a star, and a digit of another script in a mark is
    stated as it is written. Neither is a specifier. -/
theorem interpreter_not_isSpecifier :
    (∃ ds, Dependency.ofDeclarations .main [("python", .scalar (.string "<2 || >=4"))] = .ok ds ∧
      (ofDependencies ds).interpreter = some "*") ∧
    (∃ ds, Dependency.ofDeclarations .main [("python", .scalar (.string ">=3.8a٣"))] = .ok ds ∧
      (ofDependencies ds).interpreter = some ">=3.8a٣") ∧
    ¬ IsSpecifier "*".toList ∧ ¬ IsSpecifier ">=3.8a٣".toList := by
  have hstar : (Dependency.ofDeclarations .main
      [("python", .scalar (.string "<2 || >=4"))]).toOption.any (fun ds =>
        (ofDependencies ds).interpreter == some "*") = true := by
    decide +kernel
  have hdigit : (Dependency.ofDeclarations .main
      [("python", .scalar (.string ">=3.8a٣"))]).toOption.any (fun ds =>
        (ofDependencies ds).interpreter == some ">=3.8a٣") = true := by
    decide +kernel
  obtain ⟨ds, hds, hstar⟩ := exists_ok_of_any hstar
  obtain ⟨es, hes, hdigit⟩ := exists_ok_of_any hdigit
  refine ⟨⟨ds, hds, beq_iff_eq.mp hstar⟩, ⟨es, hes, beq_iff_eq.mp hdigit⟩, fun h => ?_, fun h => ?_⟩
  · exact h.head (by decide)
  · exact absurd (h.ascii '٣' (by decide)) (by decide)

end Requirements

end ManifestMigration
