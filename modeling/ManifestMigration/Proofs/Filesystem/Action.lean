import ManifestMigration.Filesystem.Copy
import ManifestMigration.Proofs.Sequence

/-! What actions on a tree of files leave behind, whether they succeed or fail.

    A relation between the tree before and the tree after holds of a sequence of actions when it
    holds of each of them and can be passed on. -/

namespace ManifestMigration

deriving instance DecidableEq for Tree

/-- Two runs can be compared by what they come to and what they leave behind. -/
instance decEqResult {ε σ α : Type} [DecidableEq ε] [DecidableEq σ] [DecidableEq α] :
    DecidableEq (EStateM.Result ε σ α)
  | .ok a s, .ok b t => decidable_of_iff (a = b ∧ s = t) (by simp)
  | .error e s, .error f t => decidable_of_iff (e = f ∧ s = t) (by simp)
  | .ok .., .error .. | .error .., .ok .. => isFalse nofun

namespace Action

variable {α β : Type} {x : Action α} {f : α → Action β} {t : Tree}

theorem performPartly_of_ok {failure : SystemError → Failure}
    {f : Tree → Except SystemError Unit × Tree} {u : Tree} (h : f t = (.ok (), u)) :
    performPartly failure f t = .ok () u := by
  rw [performPartly, h]

theorem performPartly_of_error {failure : SystemError → Failure}
    {f : Tree → Except SystemError Unit × Tree} {e : SystemError} {u : Tree}
    (h : f t = (.error e, u)) : performPartly failure f t = .error (failure e) u := by
  rw [performPartly, h]

theorem perform_of_ok {failure : SystemError → Failure} {f : Tree → Except SystemError Tree}
    {u : Tree} (h : f t = .ok u) : perform failure f t = .ok () u := by
  rw [perform, h]

theorem perform_of_error {failure : SystemError → Failure} {f : Tree → Except SystemError Tree}
    {e : SystemError} (h : f t = .error e) : perform failure f t = .error (failure e) t := by
  rw [perform, h]

theorem look_bind {f : Tree → α} {g : α → Action β} : (look f >>= g) t = g (f t) t :=
  bind_of_ok rfl

/-- What an action leaves behind, whether it succeeds or fails. -/
def after (x : Action α) (t : Tree) : Tree :=
  match x t with
  | .ok _ u => u
  | .error _ u => u

theorem after_of_ok {a : α} {u : Tree} (h : x t = .ok a u) : x.after t = u := by rw [after, h]

theorem after_of_error {e : Failure} {u : Tree} (h : x t = .error e u) : x.after t = u := by
  rw [after, h]

theorem after_bind_of_ok {a : α} {u : Tree} (h : x t = .ok a u) :
    (x >>= f).after t = (f a).after u := by
  rw [after, bind_of_ok h, after]

theorem after_bind_of_error {e : Failure} {u : Tree} (h : x t = .error e u) :
    (x >>= f).after t = u :=
  after_of_error (bind_of_error h)

/-- What an action answers does not matter for what it leaves behind. -/
theorem after_bind_pure {f : α → β} : (x >>= fun a => pure (f a)).after t = x.after t := by
  cases h : x t with
  | ok a u =>
    rw [after_bind_of_ok h, after_of_ok h]
    rfl
  | error e u => rw [after_bind_of_error h, after_of_error h]

/-- What holds of each step, and goes from one tree over another to a third, holds of a sequence. -/
theorem after_bind {R : Tree → Tree → Prop} (htrans : ∀ {t u v}, R t u → R u v → R t v)
    (hx : R t (x.after t)) (hf : ∀ a u, x t = .ok a u → R u ((f a).after u)) :
    R t ((x >>= f).after t) := by
  cases h : x t with
  | ok a u =>
    rw [after_of_ok h] at hx
    rw [after_bind_of_ok h]
    exact htrans hx (hf a u h)
  | error e u =>
    rw [after_of_error h] at hx
    rwa [after_bind_of_error h]

/-- An action that changes nothing. -/
def Reads (x : Action α) : Prop := ∀ t, x.after t = t

theorem reads_pure (a : α) : Reads (pure a) := fun _ => rfl

theorem reads_throw (e : Failure) : Reads (throw e : Action α) := fun _ => rfl

theorem reads_look (f : Tree → α) : Reads (look f) := fun _ => rfl

theorem reads_attempt (f : Tree → Except Failure α) : Reads (attempt f) := fun t => by
  rw [after, attempt]
  cases f t <;> rfl

theorem Reads.bind (hx : Reads x) (hf : ∀ a, Reads (f a)) : Reads (x >>= f) := fun t =>
  after_bind (R := fun t u => u = t) (fun htu huv => huv.trans htu) (hx t) fun a u _ => hf a u

/-- An action that fails, if it does, with a failure of some kind. -/
def Fails (P : Failure → Prop) (x : Action α) : Prop := ∀ t e u, x t = .error e u → P e

section
variable {P : Failure → Prop}

theorem Fails.bind (hx : Fails P x) (hf : ∀ a, Fails P (f a)) : Fails P (x >>= f) := by
  intro t e u hfail
  cases h : x t with
  | ok a v => exact hf a v e u ((bind_of_ok h).symm.trans hfail)
  | error e' v =>
    rw [bind_of_error h] at hfail
    cases hfail
    exact hx t e u h

end

end Action

end ManifestMigration
