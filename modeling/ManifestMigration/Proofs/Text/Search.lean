import ManifestMigration.Text.Search
import Mathlib.Data.List.Infix

/-! What it means that a text is found inside another: it stands there, with something before it and
    something after it. -/

namespace ManifestMigration.Text

theorem dropPrefix?_eq_some_iff : ∀ {needle s rest : List Char},
    dropPrefix? needle s = some rest ↔ s = needle ++ rest
  | [], s, rest => by simp [dropPrefix?]
  | _ :: _, [], rest => by simp [dropPrefix?]
  | n :: needle, c :: s, rest => by
    rw [dropPrefix?]
    split
    · next h => simp [dropPrefix?_eq_some_iff, beq_iff_eq.mp h]
    · next h =>
      have hne : c ≠ n := fun heq => h (beq_iff_eq.mpr heq)
      simp [hne]

theorem isSome_dropPrefix?_iff {needle s : List Char} :
    (dropPrefix? needle s).isSome = true ↔ needle <+: s := by
  rw [Option.isSome_iff_exists]
  simp only [dropPrefix?_eq_some_iff]
  exact exists_congr fun _ => eq_comm

theorem occursIn_iff {needle : List Char} : ∀ {s : List Char},
    occursIn needle s = true ↔ needle <:+: s
  | [] => by
    rw [occursIn, splitOnce?, List.infix_nil, ← List.isEmpty_iff]
    cases needle <;> simp
  | c :: s => by
    rw [List.infix_cons_iff, ← occursIn_iff, ← isSome_dropPrefix?_iff, occursIn, splitOnce?]
    split
    · next h => simp [h]
    · next h => simp [h, occursIn]

/-! ### The first place where a text is found -/

variable {needle u v s before rest : List Char} {c : Char}

theorem splitOnce?_eq_none_iff : splitOnce? needle s = none ↔ ¬ needle <:+: s := by
  rw [← occursIn_iff, occursIn, Bool.not_eq_true, Option.isSome_eq_false_iff,
    Option.isNone_iff_eq_none]

/-- What is found is an occurrence, and none starts before it. -/
theorem of_splitOnce?_eq_some : ∀ {s before : List Char}, splitOnce? needle s = some (before, rest) →
    s = before ++ (needle ++ rest) ∧ ∀ u v, s = u ++ (needle ++ v) → before.length ≤ u.length
  | [], before, h => by
    rw [splitOnce?] at h
    split at h
    · next hempty =>
      cases h
      rw [List.isEmpty_iff.mp hempty]
      exact ⟨rfl, fun u v _ => Nat.zero_le _⟩
    · cases h
  | c :: s, before, h => by
    rw [splitOnce?] at h
    split at h
    · next after hafter =>
      cases h
      rw [List.nil_append]
      exact ⟨dropPrefix?_eq_some_iff.mp hafter, fun u v _ => Nat.zero_le _⟩
    · next hnone =>
      obtain ⟨⟨earlier, after⟩, hfound, heq⟩ := Option.map_eq_some_iff.mp h
      cases heq
      obtain ⟨hs, hfirst⟩ := of_splitOnce?_eq_some hfound
      refine ⟨by rw [hs, List.cons_append], fun u v huv => ?_⟩
      cases u with
      | nil =>
        rw [List.nil_append, ← dropPrefix?_eq_some_iff, hnone] at huv
        cases huv
      | cons d u =>
        rw [List.length_cons, List.length_cons]
        exact Nat.succ_le_succ (hfirst u v (List.cons.inj huv).2)

/-- The text is split at the first occurrence of the needle. -/
theorem splitOnce?_eq_some_iff : splitOnce? needle s = some (before, rest) ↔
    s = before ++ (needle ++ rest) ∧ ∀ u v, s = u ++ (needle ++ v) → before.length ≤ u.length := by
  constructor
  · exact of_splitOnce?_eq_some
  · rintro ⟨hs, hfirst⟩
    cases hfound : splitOnce? needle s with
    | none =>
      exact absurd ⟨before, rest, by rw [hs, List.append_assoc]⟩
        (splitOnce?_eq_none_iff.mp hfound)
    | some found =>
      obtain ⟨earlier, after⟩ := found
      obtain ⟨hsame, hleast⟩ := of_splitOnce?_eq_some hfound
      have hlength := Nat.le_antisymm (hfirst _ _ hsame) (hleast _ _ hs)
      obtain ⟨hbefore, hrest⟩ := List.append_inj (hs.symm.trans hsame) hlength
      rw [hbefore, List.append_cancel_left hrest]

theorem splitOnce?_append (needle rest : List Char) :
    splitOnce? needle (needle ++ rest) = some ([], rest) :=
  splitOnce?_eq_some_iff.mpr ⟨rfl, fun _ _ _ => Nat.zero_le _⟩

/-- A text is cut where a character stands for the first time. -/
theorem splitOnce?_singleton {u : List Char} (hu : c ∉ u) (v : List Char) :
    splitOnce? [c] (u ++ c :: v) = some (u, v) := by
  refine splitOnce?_eq_some_iff.mpr ⟨rfl, fun x y h => ?_⟩
  by_contra hlt
  rcases List.append_eq_append_iff.mp h with ⟨as, rfl, -⟩ | ⟨bs, rfl, hbs⟩
  · exact hlt (by simp)
  · cases bs with
    | nil => exact hlt (by simp)
    | cons b bs =>
      rw [(List.cons.inj hbs).1] at hu
      exact hu (by simp)

theorem eq_nil_of_prefix_cons {l : List Char} (h : l <+: c :: v) (hc : c ∉ l) : l = [] := by
  cases l with
  | nil => rfl
  | cons d l =>
    rw [(List.cons_prefix_cons.mp h).1] at hc
    exact absurd (List.mem_cons_self ..) hc

/-- A needle is not found across a character that it does not hold. -/
theorem infix_append_cons_iff (hc : c ∉ needle) :
    needle <:+: u ++ c :: v ↔ needle <:+: u ∨ needle <:+: v := by
  constructor
  · intro h
    rcases List.infix_append_iff.mp h with h | h | ⟨l, r, rfl, hl, hr⟩
    · exact .inl h
    · rcases List.infix_cons_iff.mp h with h | h
      · rw [eq_nil_of_prefix_cons h hc]
        exact .inl (List.nil_infix ..)
      · exact .inr h
    · have hnil := eq_nil_of_prefix_cons hr fun hmem => hc (List.mem_append_right _ hmem)
      rw [hnil, List.append_nil]
      exact .inl hl.isInfix
  · rintro (h | h)
    · exact h.trans (List.prefix_append ..).isInfix
    · exact h.trans ((List.suffix_cons ..).trans (List.suffix_append ..)).isInfix

/-- Behind a text without the needle and a character that the needle does not hold, the needle is
    found where it stands. -/
theorem splitOnce?_append_cons (hne : needle ≠ []) (hc : c ∉ needle) (hu : ¬ needle <:+: u) :
    splitOnce? needle (u ++ c :: (needle ++ v)) = some (u ++ [c], v) := by
  refine splitOnce?_eq_some_iff.mpr ⟨by simp, fun x y h => ?_⟩
  rw [List.length_append, List.length_singleton]
  by_contra hlt
  rcases List.append_eq_append_iff.mp h with ⟨as, rfl, has⟩ | ⟨bs, rfl, hbs⟩
  · obtain rfl : as = [] := by
      rw [List.length_append] at hlt
      exact List.length_eq_zero_iff.mp (by omega)
    exact hne (eq_nil_of_prefix_cons ⟨y, has.symm⟩ hc)
  · rcases List.append_eq_append_iff.mp hbs with ⟨as, rfl, -⟩ | ⟨as, rfl, has⟩
    · exact hu ⟨x, as, by rw [List.append_assoc]⟩
    · cases as with
      | nil => exact hu ⟨x, [], by simp⟩
      | cons d as =>
        rw [(List.cons.inj has).1] at hc
        exact hc (by simp)

end ManifestMigration.Text
