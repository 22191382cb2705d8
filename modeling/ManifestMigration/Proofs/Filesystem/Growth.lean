import ManifestMigration.Proofs.Filesystem.Action
import ManifestMigration.Proofs.Filesystem.Ways

/-! A copy takes nothing away, wherever it goes.

    Copying only makes directories and links where nothing was, and writes files where nothing or a
    file was. So whatever was in the tree is still there, and every way to a directory still leads
    there; what was in files may be written over. This needs no assumption on where the copy goes, and
    it holds if the copying is cut short. -/

namespace ManifestMigration

namespace Tree

variable {t u v : Tree} {l m : Location} {e : Entry} {p : Path} {name : String} {above : Location}

/-- Whatever is in the first tree is in the second one too, and the same but for what is in files. -/
def Grows (t u : Tree) : Prop :=
  ∀ l e, t.get? l = some e → ∃ f, u.get? l = some f ∧ f.emptied = e.emptied

namespace Grows

theorem refl (t : Tree) : t.Grows t := fun _ e he => ⟨e, he, rfl⟩

theorem trans (h : t.Grows u) (h' : u.Grows v) : t.Grows v := by
  intro l e he
  obtain ⟨f, hf, hef⟩ := h l e he
  obtain ⟨g, hg, hfg⟩ := h' l f hf
  exact ⟨g, hg, hfg.trans hef⟩

theorem isSome (h : t.Grows u) (hl : (t.get? l).isSome) : (u.get? l).isSome := by
  obtain ⟨e, he⟩ := Option.isSome_iff_exists.mp hl
  obtain ⟨f, hf, -⟩ := h l e he
  exact Option.isSome_of_eq_some hf

theorem keeps (h : t.Grows u) : t.Keeps u := by
  intro l e he hfile
  obtain ⟨f, hf, hsame⟩ := h l e he
  cases e with
  | file content => exact absurd rfl (hfile content)
  | directory => cases f <;> cases hsame; exact hf
  | link target => cases f <;> cases hsame; exact hf

/-- An entry may be put where nothing is, or in the place of one that differs in its content only. -/
theorem put (hl : l ≠ []) (h : ∀ old, t.get? l = some old → e.emptied = old.emptied) :
    t.Grows (t.put l e) := by
  intro m f hf
  rw [get?_put hl]
  split
  case isTrue hm => exact ⟨e, rfl, h f (hm ▸ hf)⟩
  case isFalse => exact ⟨f, hf, rfl⟩

end Grows

theorem grows_put_of_none (hnone : t.get? l = none) : t.Grows (t.put l e) := by
  refine .put ?_ fun old hold => ?_
  · rintro rfl
    cases hnone
  · rw [hnone] at hold
    cases hold

theorem get?_of_locateClosed {found : Option Entry} (h : t.locateClosed p = .ok (l, found)) :
    t.get? l = found := by
  rw [locateClosed, flaw?_of_locateClosed h] at h
  exact get?_of_locate h

/-! ### Operations -/

/-- A file is written where nothing is, or over a file. -/
theorem grows_put_of_writable {content : ByteArray} (h : t.writable p = .ok l) :
    t.Grows (t.put l (.file content)) := by
  rw [writable] at h
  split at h
  · obtain ⟨found, -, h⟩ := bind_eq_ok.mp h
    cases h
  obtain ⟨⟨m, found⟩, hlocate, hwritable⟩ := bind_eq_ok.mp h
  have hthere := get?_of_locate hlocate
  rcases found with _ | (content' | target | _)
  · cases hwritable
    exact grows_put_of_none hthere
  · cases hwritable
    refine .put ?_ fun old hold => ?_
    · rintro rfl
      cases hthere
    · rw [hthere] at hold
      cases hold
      rfl
  · rw [locate, flaw?_of_locate hlocate] at hlocate
    exact absurd hlocate not_link_of_walkLinks
  · cases hwritable

theorem grows_copyFile {source target : Path} (h : t.copyFile source target = .ok u) : t.Grows u := by
  obtain ⟨content, -, h⟩ := bind_eq_ok.mp h
  obtain ⟨⟨there, _⟩, -, h⟩ := bind_eq_ok.mp h
  obtain ⟨l, hl, hput⟩ := bind_eq_ok.mp h
  cases hput
  exact grows_put_of_writable hl

theorem grows_makeLink {target : String} (h : t.makeLink target p = .ok u) : t.Grows u := by
  rw [makeLink] at h
  split at h
  · cases h
  obtain ⟨⟨l, found⟩, hlocate, h⟩ := bind_eq_ok.mp h
  cases found with
  | some e => cases h
  | none =>
    simp only at h
    split at h
    · cases h
    · cases h
      exact grows_put_of_none (get?_of_locateClosed hlocate)

theorem grows_makeDirectory (h : t.makeDirectory p = .ok u) : t.Grows u := by
  obtain ⟨⟨l, found⟩, hlocate, h⟩ := bind_eq_ok.mp h
  cases found with
  | some e => cases h
  | none =>
    cases h
    exact grows_put_of_none (get?_of_locateClosed hlocate)

theorem grows_makeNested : ∀ (ps : List Path) (t : Tree), t.Grows (t.makeNested ps).2
  | [], t => .refl t
  | p :: above, t => by
    have ih := grows_makeNested above t
    rw [makeNested]
    split
    case h_1 u hmake => exact grows_makeDirectory hmake
    case h_2 =>
      split
      case h_1 e u hnested =>
        rw [hnested] at ih
        exact ih
      case h_2 u hnested =>
        rw [hnested] at ih
        split
        case h_1 v hmake => exact ih.trans (grows_makeDirectory hmake)
        case h_2 => split <;> exact ih
    case h_3 => split <;> exact .refl t

end Tree

/-! ### Actions -/

namespace Action

variable {α β : Type} {x : Action α} {f : α → Action β}

/-- An action that takes nothing away, whatever it comes to. -/
def Adds (x : Action α) : Prop := ∀ t : Tree, t.Grows (x.after t)

theorem Reads.adds (h : Reads x) : Adds x := fun t => by
  rw [h t]
  exact .refl t

theorem Adds.bind (hx : Adds x) (hf : ∀ a, Adds (f a)) : Adds (x >>= f) := fun t =>
  after_bind Tree.Grows.trans (hx t) fun a u _ => hf a u

theorem adds_perform {failure : SystemError → Failure} {g : Tree → Except SystemError Tree}
    (h : ∀ t u, g t = .ok u → t.Grows u) : Adds (perform failure g) := by
  intro t
  rw [after, perform]
  cases hg : g t with
  | error e => exact .refl t
  | ok u => exact h t u hg

theorem adds_performPartly {failure : SystemError → Failure}
    {g : Tree → Except SystemError Unit × Tree} (h : ∀ t : Tree, t.Grows (g t).2) :
    Adds (performPartly failure g) := by
  intro t
  have hgrows := h t
  rw [after, performPartly]
  rcases hg : g t with ⟨e | _, u⟩ <;> rw [hg] at hgrows <;> exact hgrows

end Action

open ManifestMigration.Action

theorem adds_copyEntry (source target : Path) : ∀ e, Adds (copyEntry source target e)
  | .directory => (adds_performPartly fun t => Tree.grows_makeNested _ t).bind fun _ =>
    (reads_pure 0).adds
  | .link _ => (adds_perform fun _ _ h => Tree.grows_makeLink h).bind fun _ => (reads_pure 1).adds
  | .file _ => (adds_perform fun _ _ h => Tree.grows_copyFile h).bind fun _ => (reads_pure 1).adds

theorem adds_copyEntries (source target : Path) : ∀ es, Adds (copyEntries source target es)
  | [] => (reads_pure 0).adds
  | _ :: es => (adds_copyEntry _ _ _).bind fun _ =>
    (adds_copyEntries source target es).bind fun _ => (reads_pure _).adds

/-- Copying takes nothing away, wherever the copy goes and however far it gets. -/
theorem adds_copyTree (source target : Path) : Adds (copyTree source target) := by
  refine (reads_look _).adds.bind fun origin => ?_
  cases origin with
  | error e => exact (reads_throw _).adds
  | ok found =>
    refine (reads_look _).adds.bind fun entries => (adds_copyEntry _ _ _).bind fun copied =>
      (adds_copyEntries source target entries).bind fun others => (reads_look _).adds.bind fun inside => ?_
    cases inside with
    | true => exact Adds.bind (reads_throw _).adds fun _ => (reads_pure _).adds
    | false => exact (reads_pure _).adds

end ManifestMigration
