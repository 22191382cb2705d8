import Mathlib.Data.List.Forall2

/-! Steps that may fail, one after another: a sequence succeeds when each of its steps does. -/

namespace ManifestMigration

variable {ε α β σ : Type}

theorem ok_bind {a : α} {f : α → Except ε β} : Except.ok a >>= f = f a := rfl

theorem bind_eq_ok {x : Except ε α} {f : α → Except ε β} {b : β} :
    x >>= f = .ok b ↔ ∃ a, x = .ok a ∧ f a = .ok b := by
  cases x with
  | error e => simp [bind, Except.bind]
  | ok a => simp [bind, Except.bind]

theorem bind_eq_error {x : Except ε α} {f : α → Except ε β} {e : ε} :
    x >>= f = .error e ↔ x = .error e ∨ ∃ a, x = .ok a ∧ f a = .error e := by
  cases x with
  | error e' => simp [bind, Except.bind]
  | ok a => simp [bind, Except.bind]

/-- Two steps succeed when each does, if the second does not depend on what the first one gives. -/
theorem exists_bind_eq_ok_iff {x : Except ε α} {f : α → Except ε β} {P : Prop}
    (h : ∀ a, x = .ok a → ((∃ b, f a = .ok b) ↔ P)) :
    (∃ b, x >>= f = .ok b) ↔ (∃ a, x = .ok a) ∧ P := by
  constructor
  · rintro ⟨b, hb⟩
    obtain ⟨a, ha, hb⟩ := bind_eq_ok.mp hb
    exact ⟨⟨a, ha⟩, (h a ha).mp ⟨b, hb⟩⟩
  · rintro ⟨⟨a, ha⟩, hp⟩
    obtain ⟨b, hb⟩ := (h a ha).mpr hp
    exact ⟨b, bind_eq_ok.mpr ⟨a, ha, hb⟩⟩

theorem map_eq_ok {x : Except ε α} {f : α → β} {b : β} :
    f <$> x = .ok b ↔ ∃ a, x = .ok a ∧ f a = b := by
  cases x with
  | error e => simp [Functor.map, Except.map]
  | ok a => simp [Functor.map, Except.map]

theorem map_eq_error {x : Except ε α} {f : α → β} {e : ε} : f <$> x = .error e ↔ x = .error e := by
  cases x <;> simp [Functor.map, Except.map]

theorem exists_map_eq_ok_iff {x : Except ε α} {f : α → β} :
    (∃ b, f <$> x = .ok b) ↔ ∃ a, x = .ok a := by
  cases x <;> simp [Functor.map, Except.map]

/-- A sequence of readings answers what each of them does, in order. -/
theorem mapM_eq_ok_iff {f : α → Except ε β} : ∀ {as : List α} {bs : List β},
    as.mapM f = .ok bs ↔ List.Forall₂ (fun a b => f a = .ok b) as bs
  | [], bs => by simp [pure, Except.pure, eq_comm]
  | a :: as, bs => by
    rw [List.mapM_cons, bind_eq_ok]
    constructor
    · rintro ⟨b, hb, h⟩
      obtain ⟨bs', hbs, h⟩ := bind_eq_ok.mp h
      cases h
      exact .cons hb (mapM_eq_ok_iff.mp hbs)
    · rintro (_ | ⟨hb, hbs⟩)
      exact ⟨_, hb, bind_eq_ok.mpr ⟨_, mapM_eq_ok_iff.mpr hbs, rfl⟩⟩

theorem exists_mapM_eq_ok_iff {f : α → Except ε β} : ∀ {as : List α},
    (∃ bs, as.mapM f = .ok bs) ↔ ∀ a ∈ as, ∃ b, f a = .ok b
  | [] => by simp [pure, Except.pure]
  | a :: as => by
    rw [List.forall_mem_cons, ← exists_mapM_eq_ok_iff]
    constructor
    · rintro ⟨bs, h⟩
      cases mapM_eq_ok_iff.mp h with
      | cons hb hbs => exact ⟨⟨_, hb⟩, _, mapM_eq_ok_iff.mpr hbs⟩
    · rintro ⟨⟨b, hb⟩, bs, hbs⟩
      exact ⟨b :: bs, mapM_eq_ok_iff.mpr (.cons hb (mapM_eq_ok_iff.mp hbs))⟩

theorem exists_mem_of_forall₂ {R : α → β → Prop} {b : β} : ∀ {as : List α} {bs : List β},
    List.Forall₂ R as bs → b ∈ bs → ∃ a ∈ as, R a b
  | _, _, .nil, hb => by cases hb
  | a :: as, b' :: bs, .cons h hs, hb => by
    rcases List.mem_cons.mp hb with rfl | hb
    · exact ⟨a, List.mem_cons_self .., h⟩
    · obtain ⟨a', ha', hR⟩ := exists_mem_of_forall₂ hs hb
      exact ⟨a', List.mem_cons_of_mem _ ha', hR⟩

/-- Steps that read something and take it in can as well read everything first. -/
theorem foldlM_eq_mapM {step : σ → α → Except ε σ} {read : α → Except ε β} {take : σ → β → σ}
    (hstep : ∀ s a, step s a = take s <$> read a) : ∀ (as : List α) (s : σ),
    as.foldlM step s = (fun bs => bs.foldl take s) <$> as.mapM read
  | [], s => rfl
  | a :: as, s => by
    rw [List.foldlM_cons, List.mapM_cons, hstep]
    cases ha : read a with
    | error e => rfl
    | ok b =>
      change as.foldlM step (take s b) = _
      rw [foldlM_eq_mapM hstep]
      cases as.mapM read with
      | error e => rfl
      | ok bs => rfl

theorem forall_mem_iff_of_forall₂ {P : α → Prop} {Q : β → Prop} : ∀ {as : List α} {bs : List β},
    List.Forall₂ (fun a b => P a ↔ Q b) as bs → ((∀ a ∈ as, P a) ↔ ∀ b ∈ bs, Q b)
  | _, _, .nil => by simp
  | a :: as, b :: bs, .cons h hs => by
    rw [List.forall_mem_cons, List.forall_mem_cons, h, forall_mem_iff_of_forall₂ hs]

theorem exists_mem_iff_of_forall₂ {P : α → Prop} {Q : β → Prop} : ∀ {as : List α} {bs : List β},
    List.Forall₂ (fun a b => P a ↔ Q b) as bs → ((∃ a ∈ as, P a) ↔ ∃ b ∈ bs, Q b)
  | _, _, .nil => by simp
  | a :: as, b :: bs, .cons h hs => by
    rw [List.exists_mem_cons_iff, List.exists_mem_cons_iff, h, exists_mem_iff_of_forall₂ hs]

/-- A sequence of readings fails as the first of them does that fails. -/
theorem mapM_eq_error_iff_append {f : α → Except ε β} {e : ε} : ∀ {as : List α},
    as.mapM f = .error e ↔ ∃ before a after, as = before ++ a :: after ∧
      (∀ b ∈ before, ∃ r, f b = .ok r) ∧ f a = .error e
  | [] => by simp [pure, Except.pure]
  | a :: as => by
    rw [List.mapM_cons, bind_eq_error]
    constructor
    · rintro (hfirst | ⟨r, hfirst, hrest⟩)
      · exact ⟨[], a, as, rfl, List.forall_mem_nil _, hfirst⟩
      · have hmore : as.mapM f = .error e := by
          rcases bind_eq_error.mp hrest with hmore | ⟨rs, -, hpure⟩
          · exact hmore
          · cases hpure
        obtain ⟨before, b, after, rfl, hbefore, hb⟩ := mapM_eq_error_iff_append.mp hmore
        exact ⟨a :: before, b, after, rfl, List.forall_mem_cons.mpr ⟨⟨r, hfirst⟩, hbefore⟩, hb⟩
    · rintro ⟨before, b, after, happend, hbefore, hb⟩
      cases before with
      | nil =>
        cases happend
        exact .inl hb
      | cons b' before =>
        cases happend
        obtain ⟨⟨r, hr⟩, hbefore⟩ := List.forall_mem_cons.mp hbefore
        refine .inr ⟨r, hr, bind_eq_error.mpr (.inl ?_)⟩
        exact mapM_eq_error_iff_append.mpr ⟨before, b, after, rfl, hbefore, hb⟩

/-- Where a step refuses the bad arguments, and names them, a sequence fails on the first of them. -/
theorem mapM_eq_error_iff {f : α → Except α β} {bad : α → Bool}
    (hf : ∀ a e, f a = .error e ↔ bad a = true ∧ e = a) {e : α} {as : List α} :
    as.mapM f = .error e ↔ as.find? bad = some e := by
  have hok : ∀ a, (∃ r, f a = .ok r) ↔ bad a = false := by
    intro a
    cases hfa : f a with
    | ok r =>
      have hgood : bad a ≠ true := fun hbad => by simpa [hfa] using (hf a a).mpr ⟨hbad, rfl⟩
      simpa using hgood
    | error e => simp [((hf a e).mp hfa).1]
  rw [mapM_eq_error_iff_append, List.find?_eq_some_iff_append]
  constructor
  · rintro ⟨before, a, after, happend, hbefore, ha⟩
    obtain ⟨hbad, rfl⟩ := (hf a e).mp ha
    refine ⟨hbad, before, after, happend, fun b hb => ?_⟩
    rw [(hok b).mp (hbefore b hb), Bool.not_false]
  · rintro ⟨hbad, before, after, happend, hbefore⟩
    refine ⟨before, e, after, happend, fun b hb => (hok b).mpr ?_, (hf e e).mpr ⟨hbad, rfl⟩⟩
    simpa using hbefore b hb

/-- What every successful step keeps holds of the result when it holds at the start. -/
theorem foldlM_keeps {step : σ → α → Except ε σ} {Keeps : σ → Prop}
    (hstep : ∀ s a t, Keeps s → step s a = .ok t → Keeps t) :
    ∀ {as : List α} {s t : σ}, Keeps s → as.foldlM step s = .ok t → Keeps t
  | [], s, t, hs, h => Except.ok.inj h ▸ hs
  | a :: as, s, t, hs, h => by
    rw [List.foldlM_cons] at h
    obtain ⟨u, hu, h⟩ := bind_eq_ok.mp h
    exact foldlM_keeps hstep (hstep s a u hs hu) h

/-- A check of the result that comes out true says that there is a result, and that it passes. -/
theorem exists_ok_of_any {x : Except ε α} {check : α → Bool} (h : x.toOption.any check = true) :
    ∃ a, x = .ok a ∧ check a = true := by
  cases x with
  | error e => cases h
  | ok a => exact ⟨a, rfl, h⟩

/-! ### Steps with a state -/

section
variable {x : EStateM ε σ α} {f : α → EStateM ε σ β} {s t : σ} {a : α} {e : ε}

theorem bind_of_ok (h : x s = .ok a t) : (x >>= f) s = f a t := by
  change EStateM.bind x f s = _
  rw [EStateM.bind, h]

theorem bind_of_error (h : x s = .error e t) : (x >>= f) s = .error e t := by
  change EStateM.bind x f s = _
  rw [EStateM.bind, h]

/-- A sequence that succeeds goes through a state in which its first step left off. -/
theorem exists_of_bind_eq_ok {b : β} {u : σ} (h : (x >>= f) s = .ok b u) :
    ∃ a t, x s = .ok a t ∧ f a t = .ok b u := by
  cases hx : x s with
  | ok a t => exact ⟨a, t, rfl, (bind_of_ok hx).symm.trans h⟩
  | error e t =>
    rw [bind_of_error hx] at h
    cases h

end

end ManifestMigration
