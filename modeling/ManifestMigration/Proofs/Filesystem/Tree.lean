import ManifestMigration.Filesystem.Copy
import Mathlib.Data.List.Induction
import Mathlib.Data.List.Nodup

/-! What is at a location after each change of a tree, and what a tree of a file system is like.

    A tree is looked at through `get?`, so every change is told by what it does to that. A tree of a
    file system is well-formed: whatever there is stands in a directory, under a name that a file
    can have, and no location is listed twice. -/

namespace ManifestMigration

/-- A name that a file can have. -/
structure IsName (name : String) : Prop where
  named : Path.isIdle name = false
  child : name ≠ ".."
  piece : '/' ∉ name.toList
  proper : '\x00' ∉ name.toList
  short : name.utf8ByteSize ≤ nameLimit

instance (name : String) : Decidable (IsName name) :=
  decidable_of_iff (Path.isIdle name = false ∧ name ≠ ".." ∧ '/' ∉ name.toList ∧
      '\x00' ∉ name.toList ∧ name.utf8ByteSize ≤ nameLimit)
    ⟨fun ⟨named, child, piece, proper, short⟩ => ⟨named, child, piece, proper, short⟩,
      fun h => ⟨h.named, h.child, h.piece, h.proper, h.short⟩⟩

/-- A link holds a path that may lead somewhere. -/
def Entry.Proper : Entry → Prop
  | .link target => Path.flaw? ⟨target⟩ = none
  | _ => True

instance : ∀ e : Entry, Decidable e.Proper
  | .link target => inferInstanceAs (Decidable (Path.flaw? ⟨target⟩ = none))
  | .file _ | .directory => inferInstanceAs (Decidable True)

theorem IsName.ne_empty {name : String} (h : IsName name) : name ≠ "" := by
  rintro rfl
  cases h.named

namespace Tree

variable {t u : Tree} {k l m : Location} {e : Entry}

@[simp] theorem get?_nil (t : Tree) : t.get? [] = some .directory := rfl

theorem get?_of_ne_nil (h : l ≠ []) : t.get? l = t.entries.lookup l := by
  rw [get?, if_neg (by simpa using h)]

/-! ### Changes -/

theorem lookup_filter (keeps : Location → Bool) : ∀ es : List (Location × Entry),
    (es.filter fun e => keeps e.1).lookup m = if keeps m then es.lookup m else none
  | [] => by simp
  | (k, e) :: es => by
    rw [List.filter_cons]
    by_cases hm : m = k
    · subst hm
      cases hkeeps : keeps m with
      | true => simp
      | false => simp [hkeeps, lookup_filter keeps es]
    · have hbeq : (m == k) = false := beq_eq_false_iff_ne.mpr hm
      cases keeps k <;> simp [List.lookup_cons, hbeq, lookup_filter keeps es]

theorem lookup_replace (e : Entry) : ∀ es : List (Location × Entry),
    (es.map fun old => if old.1 == l then (l, e) else old).lookup m =
      if m = l then (es.lookup l).map (fun _ => e) else es.lookup m
  | [] => by simp
  | (k, old) :: es => by
    have ih := lookup_replace e es
    rw [List.map_cons]
    by_cases hk : k = l
    · subst hk
      rw [if_pos (beq_self_eq_true _)]
      by_cases hm : m = k
      · simp [hm]
      · have hbeq : (m == k) = false := beq_eq_false_iff_ne.mpr hm
        simp only [List.lookup_cons, hbeq, ih, if_neg hm]
    · rw [if_neg (mt beq_iff_eq.mp hk)]
      by_cases hm : m = k
      · subst hm
        simp [hk]
      · have hbeq : (m == k) = false := beq_eq_false_iff_ne.mpr hm
        have hl : (l == k) = false := beq_eq_false_iff_ne.mpr (Ne.symm hk)
        simp only [List.lookup_cons, hbeq, hl, ih]

/-- Entries that are not looked for may be changed, as long as they are not found afterwards. -/
theorem lookup_map {f : Location × Entry → Location × Entry} : ∀ {es : List (Location × Entry)},
    (∀ e ∈ es, f e = e ∨ e.1 ≠ m ∧ (f e).1 ≠ m) → (es.map f).lookup m = es.lookup m
  | [], _ => rfl
  | (k, e) :: es, h => by
    have ih := lookup_map fun e he => h e (List.mem_cons_of_mem _ he)
    rw [List.map_cons]
    rcases h (k, e) (List.mem_cons_self ..) with hkeep | ⟨hold, hnew⟩
    · rw [hkeep, List.lookup_cons, List.lookup_cons, ih]
    · have hskip : ∀ {e : Location × Entry}, e.1 ≠ m → ∀ es, (e :: es).lookup m = es.lookup m := by
        intro e he es
        rw [List.lookup_cons, beq_eq_false_iff_ne.mpr (Ne.symm he)]
      rw [hskip hold, hskip hnew, ih]

theorem isPrefixOf_eq_false (h : ¬ l <+: m) : l.isPrefixOf m = false :=
  Bool.eq_false_iff.mpr (mt List.isPrefixOf_iff_prefix.mp h)

theorem get?_put (hl : l ≠ []) : (t.put l e).get? m = if m = l then some e else t.get? m := by
  cases m with
  | nil => simp [hl.symm]
  | cons a m =>
    rw [get?_of_ne_nil (List.cons_ne_nil a m), get?_of_ne_nil (List.cons_ne_nil a m), put]
    cases hold : t.entries.lookup l with
    | some old =>
      rw [Option.isSome_some, if_pos rfl, lookup_replace, hold]
      rfl
    | none =>
      rw [Option.isSome_none, if_neg Bool.false_ne_true, List.lookup_append]
      by_cases hm : a :: m = l
      · subst hm
        simp [hold]
      · have hbeq : (a :: m == l) = false := beq_eq_false_iff_ne.mpr hm
        simp [List.lookup_cons, hbeq, hm]

theorem get?_erase (hl : l ≠ []) : (t.erase l).get? m = if l <+: m then none else t.get? m := by
  cases m with
  | nil => simp [hl]
  | cons a m =>
    rw [get?_of_ne_nil (List.cons_ne_nil a m), get?_of_ne_nil (List.cons_ne_nil a m), erase,
      lookup_filter fun k => !l.isPrefixOf k]
    by_cases hp : l <+: a :: m
    · rw [if_pos hp, List.isPrefixOf_iff_prefix.mpr hp, Bool.not_true, if_neg Bool.false_ne_true]
    · rw [if_neg hp, isPrefixOf_eq_false hp, Bool.not_false, if_pos rfl]

theorem get?_clear : (t.clear l).get? m = if l <+: m ∧ m ≠ l then none else t.get? m := by
  cases m with
  | nil =>
    rw [if_neg fun h => h.2 (List.prefix_nil.mp h.1).symm]
    rfl
  | cons a m =>
    rw [get?_of_ne_nil (List.cons_ne_nil a m), get?_of_ne_nil (List.cons_ne_nil a m), clear,
      lookup_filter fun k => !l.isPrefixOf k || k == l]
    by_cases hp : l <+: a :: m
    · rw [List.isPrefixOf_iff_prefix.mpr hp]
      by_cases hm : a :: m = l <;> simp [hp, hm]
    · rw [isPrefixOf_eq_false hp, Bool.not_false, Bool.true_or, if_pos rfl, if_neg fun h => hp h.1]

theorem get?_move (hsource : ¬ l <+: m) (htarget : ¬ k <+: m) :
    (t.move l k).get? m = t.get? m := by
  cases m with
  | nil => rfl
  | cons a m =>
    rw [get?_of_ne_nil (List.cons_ne_nil a m), get?_of_ne_nil (List.cons_ne_nil a m), move,
      lookup_map, erase, lookup_filter fun l => !k.isPrefixOf l, isPrefixOf_eq_false htarget,
      Bool.not_false, if_pos rfl]
    rintro ⟨source, e⟩ -
    by_cases he : l.isPrefixOf source = true
    · refine .inr ⟨fun h => hsource (h ▸ List.isPrefixOf_iff_prefix.mp he), ?_⟩
      rw [if_pos he]
      exact fun h => htarget ⟨_, h⟩
    · exact .inl (if_neg he)

/-- Entries that are moved are found where they went. -/
theorem lookup_moved (hin : ¬ k <+: l ++ m) : ∀ es : List (Location × Entry),
    ((es.filter fun e => !k.isPrefixOf e.1).map fun e =>
      if l.isPrefixOf e.1 then (k ++ e.1.drop l.length, e.2) else e).lookup (k ++ m) =
      es.lookup (l ++ m)
  | [] => rfl
  | (source, e) :: es => by
    have ih := lookup_moved hin es
    rw [List.filter_cons]
    by_cases hk : k <+: source
    · have hne : l ++ m ≠ source := fun heq => hin (heq ▸ hk)
      rw [List.isPrefixOf_iff_prefix.mpr hk, Bool.not_true, if_neg Bool.false_ne_true, ih,
        List.lookup_cons, beq_eq_false_iff_ne.mpr hne]
    rw [isPrefixOf_eq_false hk, Bool.not_false, if_pos rfl, List.map_cons]
    by_cases hl : l <+: source
    · obtain ⟨rest, rfl⟩ := hl
      rw [List.isPrefixOf_iff_prefix.mpr (List.prefix_append l rest), if_pos rfl, List.drop_left,
        List.lookup_cons, List.lookup_cons, ih]
      by_cases hm : m = rest
      · rw [hm, beq_self_eq_true, beq_self_eq_true]
      · have hout : (k ++ m == k ++ rest) = false := by simpa using hm
        have hsame : (l ++ m == l ++ rest) = false := by simpa using hm
        rw [hout, hsame]
    · have hout : k ++ m ≠ source := fun heq => hk ⟨m, heq⟩
      have hsame : l ++ m ≠ source := fun heq => hl ⟨m, heq⟩
      rw [isPrefixOf_eq_false hl, if_neg Bool.false_ne_true, List.lookup_cons, List.lookup_cons, ih,
        beq_eq_false_iff_ne.mpr hout, beq_eq_false_iff_ne.mpr hsame]

/-- What is moved is found at its new place. -/
theorem get?_move_target (hl : l ≠ []) (hk : k ≠ []) (hin : ¬ k <+: l ++ m) :
    (t.move l k).get? (k ++ m) = t.get? (l ++ m) := by
  rw [get?_of_ne_nil (List.append_ne_nil_of_left_ne_nil hk m),
    get?_of_ne_nil (List.append_ne_nil_of_left_ne_nil hl m)]
  exact lookup_moved hin t.entries

/-- What is moved is not at its old place any more. -/
theorem get?_move_source (hl : l ≠ []) (hin : ¬ k <+: l ++ m) : (t.move l k).get? (l ++ m) = none := by
  rw [get?_of_ne_nil (List.append_ne_nil_of_left_ne_nil hl m), List.lookup_eq_none_iff]
  rintro ⟨place, e⟩ he
  obtain ⟨⟨source, f⟩, -, heq⟩ := List.mem_map.mp he
  rw [bne_iff_ne]
  rintro rfl
  by_cases hmoved : l <+: source
  · rw [List.isPrefixOf_iff_prefix.mpr hmoved, if_pos rfl] at heq
    exact hin ⟨_, congrArg Prod.fst heq⟩
  · rw [isPrefixOf_eq_false hmoved, if_neg Bool.false_ne_true] at heq
    exact hmoved ⟨m, (congrArg Prod.fst heq).symm⟩

/-- A directory that is emptied before it is removed is removed with what was in it. -/
theorem erase_clear : (t.clear l).erase l = t.erase l := by
  rw [erase, clear, List.filter_filter, erase]
  congr 1
  refine List.filter_congr fun e _ => ?_
  cases l.isPrefixOf e.1 <;> rfl

theorem below_clear : (t.clear l).below l = [] := by
  refine List.filterMap_eq_nil_iff.mpr fun e he => if_neg fun h => ?_
  have hkept := (List.mem_filter.mp he).2
  grind

/-! ### Smaller trees -/

/-- What is in the first tree is in the second one. -/
def Within (u t : Tree) : Prop := ∀ l, u.get? l = t.get? l ∨ u.get? l = none

theorem within_erase (hl : l ≠ []) : (t.erase l).Within t := by
  intro m
  rw [get?_erase hl]
  split
  · exact .inr rfl
  · exact .inl rfl

theorem within_clear : (t.clear l).Within t := by
  intro m
  rw [get?_clear]
  split
  · exact .inr rfl
  · exact .inl rfl

/-! ### Listings -/

theorem lookup_eq_some : ∀ {es : List (Location × Entry)}, (es.map Prod.fst).Nodup →
    (es.lookup l = some e ↔ (l, e) ∈ es)
  | [], _ => by simp
  | (k, f) :: es, h => by
    obtain ⟨hk, h⟩ := List.nodup_cons.mp h
    rw [List.lookup_cons, List.mem_cons, Prod.mk.injEq]
    by_cases hl : l = k
    · subst hl
      rw [beq_self_eq_true, Option.some.injEq]
      have hnot : (l, e) ∉ es := fun he => hk (List.mem_map.mpr ⟨_, he, rfl⟩)
      simp [hnot, eq_comm]
    · rw [beq_eq_false_iff_ne.mpr hl, lookup_eq_some h]
      simp [hl]

theorem relative_eq_some {f : Entry} :
    (if l.isPrefixOf k && k != l then some (k.drop l.length, e) else none) = some (m, f) ↔
      m ≠ [] ∧ k = l ++ m ∧ e = f := by
  constructor
  · intro h
    split at h
    case isFalse => cases h
    case isTrue hk =>
      rw [Option.some.injEq, Prod.mk.injEq] at h
      obtain ⟨rfl, rfl⟩ := h
      rw [Bool.and_eq_true, List.isPrefixOf_iff_prefix, bne_iff_ne] at hk
      obtain ⟨⟨m, rfl⟩, hne⟩ := hk
      rw [List.drop_left]
      exact ⟨fun hm => hne (by rw [hm, List.append_nil]), rfl, rfl⟩
  · rintro ⟨hm, rfl, rfl⟩
    have hpre : (l.isPrefixOf (l ++ m) && l ++ m != l) = true := by
      rw [Bool.and_eq_true, List.isPrefixOf_iff_prefix, bne_iff_ne]
      exact ⟨List.prefix_append l m, fun h => hm (List.append_right_eq_self.mp h)⟩
    rw [if_pos hpre, List.drop_left]

theorem mem_below : (m, e) ∈ t.below l ↔ m ≠ [] ∧ (l ++ m, e) ∈ t.entries := by
  rw [below, List.mem_filterMap]
  constructor
  · rintro ⟨⟨k, f⟩, hf, h⟩
    obtain ⟨hm, rfl, rfl⟩ := relative_eq_some.mp h
    exact ⟨hm, hf⟩
  · rintro ⟨hm, h⟩
    exact ⟨_, h, relative_eq_some.mpr ⟨hm, rfl, rfl⟩⟩

theorem isSome_get? (hl : l ≠ []) : (t.get? l).isSome ↔ ∃ e, (l, e) ∈ t.entries := by
  rw [get?_of_ne_nil hl, List.lookup_isSome_iff]
  constructor
  · rintro ⟨⟨k, e⟩, h, hk⟩
    exact ⟨e, beq_iff_eq.mp hk ▸ h⟩
  · rintro ⟨e, h⟩
    exact ⟨_, h, beq_self_eq_true l⟩

/-- The names in a directory are those of the entries that stand in it. -/
theorem mem_listing {n : String} :
    n ∈ (t.listing l).map Prod.fst ↔ (t.get? (l ++ [n])).isSome := by
  rw [isSome_get? (List.concat_ne_nil n l), List.mem_map]
  constructor
  · rintro ⟨⟨k, e⟩, h, rfl⟩
    obtain ⟨⟨m, f⟩, hm, hname⟩ := List.mem_filterMap.mp h
    match m, hname with
    | [_], hname =>
      cases hname
      exact ⟨_, (mem_below.mp hm).2⟩
  · rintro ⟨e, h⟩
    refine ⟨(n, e), List.mem_filterMap.mpr ⟨([n], e), ?_, rfl⟩, rfl⟩
    exact mem_below.mpr ⟨List.cons_ne_nil n [], h⟩

/-- What is above something else is listed first. -/
theorem preorder_sorted (t : Tree) (l : Location) :
    (t.preorder l).Pairwise fun a b => a.1.length ≤ b.1.length := by
  refine (List.pairwise_mergeSort (fun a b c hab hbc => ?_) (fun a b => ?_) (t.below l)).imp
    fun h => of_decide_eq_true h
  · simp only [decide_eq_true_eq] at hab hbc ⊢
    exact Nat.le_trans hab hbc
  · simp only [Bool.or_eq_true, decide_eq_true_eq]
    exact Nat.le_total ..

theorem preorder_of_sorted {l : Location}
    (h : (t.below l).Pairwise fun a b => a.1.length ≤ b.1.length) : t.preorder l = t.below l :=
  List.mergeSort_of_pairwise (h.imp fun h => decide_eq_true h)

/-- An order of what is below a location: everything comes once, and nothing after what is inside of
    it. -/
structure Visits (t : Tree) (l : Location) (order : List (Location × Entry)) : Prop where
  perm : order.Perm (t.below l)
  above : order.Pairwise fun a b => ¬ b.1 <+: a.1

/-! ### Trees of a file system -/

/-- Everything stands in a directory, once, under the name of a file, and a link holds a path. -/
structure WellFormed (t : Tree) : Prop where
  nodup : (t.entries.map Prod.fst).Nodup
  isName : ∀ {l n}, (t.get? (l ++ [n])).isSome → IsName n
  above : ∀ {l n}, (t.get? (l ++ [n])).isSome → t.get? l = some .directory
  proper : ∀ {l e}, t.get? l = some e → e.Proper

/-- It is enough to look at what is listed. -/
theorem wellFormed_iff : t.WellFormed ↔ (t.entries.map Prod.fst).Nodup ∧
    ∀ e ∈ t.entries, ∀ n ∈ e.1.getLast?, IsName n ∧ t.get? e.1.dropLast = some .directory ∧
      e.2.Proper := by
  constructor
  · intro h
    refine ⟨h.nodup, fun (l, e) he n hn => ?_⟩
    obtain ⟨l, rfl⟩ := List.getLast?_eq_some_iff.mp hn
    have hget : t.get? (l ++ [n]) = some e := by
      rw [get?_of_ne_nil (List.concat_ne_nil n l)]
      exact (lookup_eq_some h.nodup).mpr he
    have hsome : (t.get? (l ++ [n])).isSome := Option.isSome_of_eq_some hget
    rw [List.dropLast_concat]
    exact ⟨h.isName hsome, h.above hsome, h.proper hget⟩
  · rintro ⟨hnodup, h⟩
    have hlast : ∀ {l n}, (t.get? (l ++ [n])).isSome → IsName n ∧ t.get? l = some .directory := by
      intro l n hsome
      obtain ⟨e, he⟩ := (isSome_get? (List.concat_ne_nil n l)).mp hsome
      obtain ⟨hname, hdir, -⟩ := h _ he n List.getLast?_concat
      rw [List.dropLast_concat] at hdir
      exact ⟨hname, hdir⟩
    refine ⟨hnodup, fun hsome => (hlast hsome).1, fun hsome => (hlast hsome).2, fun {l e} hget => ?_⟩
    cases l using List.reverseRecOn with
    | nil =>
      cases hget
      trivial
    | append_singleton l n =>
      rw [get?_of_ne_nil (List.concat_ne_nil n l),
        lookup_eq_some hnodup] at hget
      exact (h _ hget n List.getLast?_concat).2.2

instance (t : Tree) : Decidable t.WellFormed := decidable_of_iff _ wellFormed_iff.symm

namespace WellFormed

/-- What is listed at a location is what is there. -/
theorem get?_eq_some (h : t.WellFormed) (hl : l ≠ []) :
    t.get? l = some e ↔ (l, e) ∈ t.entries := by
  rw [get?_of_ne_nil hl]
  exact lookup_eq_some h.nodup

/-- Whatever has something below it is a directory. -/
theorem directory (h : t.WellFormed) (hm : m ≠ []) (hsome : (t.get? (l ++ m)).isSome) :
    t.get? l = some .directory := by
  induction m using List.reverseRecOn with
  | nil => exact absurd rfl hm
  | append_singleton m n ih =>
    rw [← List.append_assoc] at hsome
    have habove := h.above hsome
    cases m with
    | nil => rwa [List.append_nil] at habove
    | cons a m => exact ih (List.cons_ne_nil a m) (Option.isSome_of_eq_some habove)

/-- Where nothing is, there is nothing below either. -/
theorem vacant (h : t.WellFormed) (hnone : t.get? l = none) (m : Location) :
    t.get? (l ++ m) = none := by
  cases m with
  | nil => rw [List.append_nil, hnone]
  | cons a m =>
    by_contra hsome
    rw [h.directory (List.cons_ne_nil a m) (Option.isSome_iff_ne_none.mpr hsome)] at hnone
    cases hnone

theorem isName_of_mem (h : t.WellFormed) {n : String} (hsome : (t.get? (l ++ m)).isSome)
    (hn : n ∈ m) : IsName n := by
  obtain ⟨before, after, rfl⟩ := List.append_of_mem hn
  cases after with
  | nil =>
    rw [← List.append_assoc] at hsome
    exact h.isName hsome
  | cons a after =>
    rw [← List.singleton_append, ← List.append_assoc, ← List.append_assoc] at hsome
    have hdir := h.directory (List.cons_ne_nil a after) hsome
    exact h.isName (Option.isSome_of_eq_some hdir)

theorem mem_below (h : t.WellFormed) :
    (m, e) ∈ t.below l ↔ m ≠ [] ∧ t.get? (l ++ m) = some e := by
  rw [Tree.mem_below]
  exact and_congr_right fun hm => (h.get?_eq_some (List.append_ne_nil_of_right_ne_nil l hm)).symm

/-- Nothing is listed twice. -/
theorem nodup_below (h : t.WellFormed) (l : Location) : ((t.below l).map Prod.fst).Nodup := by
  refine List.pairwise_map.mpr (List.Pairwise.filterMap _ ?_ (List.pairwise_map.mp h.nodup))
  rintro ⟨a, e⟩ ⟨b, f⟩ hab ⟨c, _⟩ hc ⟨d, _⟩ hd rfl
  obtain ⟨-, rfl, -⟩ := relative_eq_some.mp hc
  exact hab (relative_eq_some.mp hd).2.1.symm

theorem nodup_listing (h : t.WellFormed) (l : Location) : ((t.listing l).map Prod.fst).Nodup := by
  refine List.pairwise_map.mpr (List.Pairwise.filterMap _ ?_ (List.pairwise_map.mp (h.nodup_below l)))
  rintro ⟨a, e⟩ ⟨b, f⟩ hab ⟨n, _⟩ hn ⟨m, _⟩ hm rfl
  match a, b, hn, hm with
  | [_], [_], hn, hm =>
    cases hn
    cases hm
    exact hab rfl

/-- The order in which entries are listed makes no difference. -/
theorem same_of_perm (h : t.WellFormed) (hu : u.WellFormed) (hperm : t.entries.Perm u.entries) :
    t.Same u := by
  intro l
  cases l with
  | nil => rfl
  | cons n l =>
    ext e
    rw [h.get?_eq_some (List.cons_ne_nil n l), hu.get?_eq_some (List.cons_ne_nil n l), hperm.mem_iff]

/-- In trees with the same entries a directory has the same names, in whatever order. -/
theorem listing_perm (h : t.WellFormed) (hu : u.WellFormed) (hsame : t.Same u) (l : Location) :
    ((t.listing l).map Prod.fst).Perm ((u.listing l).map Prod.fst) := by
  rw [List.perm_ext_iff_of_nodup (h.nodup_listing l) (hu.nodup_listing l)]
  intro n
  rw [mem_listing, mem_listing, hsame]

/-- Directories come before their contents when what is nearer comes first. -/
theorem visits_preorder (h : t.WellFormed) (l : Location) : t.Visits l (t.preorder l) := by
  have hperm : (t.preorder l).Perm (t.below l) := List.mergeSort_perm _ _
  have hnodup := (hperm.map Prod.fst).nodup_iff.mpr (h.nodup_below l)
  refine ⟨hperm, (preorder_sorted t l).imp₂ ?_ (List.pairwise_map.mp hnodup)⟩
  exact fun a b hlength hne hpre => hne (hpre.eq_of_length_le hlength).symm

/-- Something new can be put into a directory. -/
theorem put {n : String} (h : t.WellFormed) (hname : IsName n) (hdir : t.get? l = some .directory)
    (hvacant : t.get? (l ++ [n]) = none) (hproper : e.Proper) : (t.put (l ++ [n]) e).WellFormed := by
  have hne := List.concat_ne_nil n l
  refine ⟨?_, fun {m n'} hsome => ?_, fun {m n'} hsome => ?_, fun {m f} hget => ?_⟩
  · have hlookup : t.entries.lookup (l ++ [n]) = none := by rwa [get?_of_ne_nil hne] at hvacant
    have hnew : l ++ [n] ∉ t.entries.map Prod.fst := by
      intro hmem
      obtain ⟨⟨k, f⟩, hf, rfl⟩ := List.mem_map.mp hmem
      have hsome := (isSome_get? hne).mpr ⟨f, hf⟩
      rw [hvacant] at hsome
      cases hsome
    rw [Tree.put, hlookup, Option.isSome_none, if_neg Bool.false_ne_true, List.map_append,
      List.nodup_append]
    refine ⟨h.nodup, List.nodup_singleton _, fun a ha b hb heq => ?_⟩
    rw [heq, List.mem_singleton.mp hb] at ha
    exact hnew ha
  · rw [get?_put hne] at hsome
    split at hsome
    case isTrue heq =>
      obtain ⟨-, hn⟩ := List.append_inj' heq rfl
      cases hn
      exact hname
    case isFalse => exact h.isName hsome
  · have hkeep : t.get? m = some .directory → (t.put (l ++ [n]) e).get? m = some .directory := by
      intro hm
      rw [get?_put hne, if_neg, hm]
      rintro rfl
      rw [hvacant] at hm
      cases hm
    rw [get?_put hne] at hsome
    split at hsome
    case isTrue heq =>
      obtain ⟨rfl, -⟩ := List.append_inj' heq rfl
      exact hkeep hdir
    case isFalse => exact hkeep (h.above hsome)
  · rw [get?_put hne] at hget
    split at hget
    · cases hget
      exact hproper
    · exact h.proper hget

/-- A part of a tree is a tree, as long as nothing is left in a directory that is not. -/
theorem within (h : t.WellFormed) (hu : u.Within t) (hnodup : (u.entries.map Prod.fst).Nodup)
    (habove : ∀ {m n}, u.get? m = none → u.get? (m ++ [n]) = none) : u.WellFormed := by
  have hkept : ∀ {m e}, u.get? m = some e → t.get? m = some e := by
    intro m e hm
    rcases hu m with hsame | hnone
    · rw [← hsame, hm]
    · rw [hnone] at hm
      cases hm
  have hsome : ∀ {m}, (u.get? m).isSome → (t.get? m).isSome := by
    intro m hm
    obtain ⟨e, he⟩ := Option.isSome_iff_exists.mp hm
    exact Option.isSome_of_eq_some (hkept he)
  refine ⟨hnodup, fun hm => h.isName (hsome hm), fun {m n} hm => ?_, fun hm => h.proper (hkept hm)⟩
  rcases hu m with hsame | hnone
  · rw [hsame, h.above (hsome hm)]
  · rw [habove hnone] at hm
    cases hm

theorem erase (h : t.WellFormed) (hl : l ≠ []) : (t.erase l).WellFormed := by
  refine h.within (within_erase hl) (h.nodup.sublist (List.filter_sublist.map Prod.fst)) ?_
  intro m n hm
  rw [get?_erase hl] at hm ⊢
  split at hm
  case isTrue hpre => rw [if_pos (hpre.trans (List.prefix_append m [n]))]
  case isFalse =>
    rw [h.vacant hm [n]]
    exact ite_self none

theorem clear (h : t.WellFormed) : (t.clear l).WellFormed := by
  refine h.within within_clear (h.nodup.sublist (List.filter_sublist.map Prod.fst)) ?_
  intro m n hm
  rw [get?_clear] at hm ⊢
  split at hm
  case isTrue hpre =>
    refine if_pos ⟨hpre.1.trans (List.prefix_append m [n]), ?_⟩
    rintro rfl
    have hlength := hpre.1.length_le
    rw [List.length_append, List.length_singleton] at hlength
    omega
  case isFalse =>
    rw [h.vacant hm [n]]
    exact ite_self none

/-- A file can be written over. -/
theorem overwrite {content old : ByteArray} (h : t.WellFormed) (hfile : t.get? l = some (.file old)) :
    (t.put l (.file content)).WellFormed := by
  have hl : l ≠ [] := by
    rintro rfl
    cases hfile
  have hsome : ∀ {m}, ((t.put l (.file content)).get? m).isSome → (t.get? m).isSome := by
    intro m hm
    rw [get?_put hl] at hm
    split at hm
    case isTrue heq => exact heq ▸ Option.isSome_of_eq_some hfile
    case isFalse => exact hm
  have hdir : ∀ {m}, t.get? m = some .directory → (t.put l (.file content)).get? m = some .directory := by
    intro m hm
    rw [get?_put hl, if_neg, hm]
    rintro rfl
    rw [hfile] at hm
    cases hm
  refine ⟨?_, fun hm => h.isName (hsome hm), fun hm => hdir (h.above (hsome hm)), fun {m e} hm => ?_⟩
  · rw [get?_of_ne_nil hl] at hfile
    rw [Tree.put, hfile, Option.isSome_some, if_pos rfl, List.map_map]
    refine (congrArg List.Nodup (List.map_congr_left fun e _ => ?_)).mpr h.nodup
    rw [Function.comp_apply]
    split
    case isTrue heq => exact (beq_iff_eq.mp heq).symm
    case isFalse => rfl
  · rw [get?_put hl] at hm
    split at hm
    · cases hm
      trivial
    · exact h.proper hm

/-- Nothing that is moved lands on anything that stays. -/
theorem nodup_move (h : t.WellFormed) (hl : l ≠ []) : ((t.move k l).entries.map Prod.fst).Nodup := by
  have hout : ∀ e ∈ (t.erase l).entries, ¬ l <+: e.1 := by
    intro e he hpre
    have hkept := (List.mem_filter.mp he).2
    rw [List.isPrefixOf_iff_prefix.mpr hpre] at hkept
    cases hkept
  rw [Tree.move, List.map_map]
  refine List.pairwise_map.mpr ((List.pairwise_map.mp (h.erase hl).nodup).imp_of_mem ?_)
  intro a b ha hb hne heq
  simp only [Function.comp_apply] at heq
  split at heq <;> split at heq
  case isTrue.isTrue hka hkb =>
    obtain ⟨ra, hra⟩ := List.isPrefixOf_iff_prefix.mp hka
    obtain ⟨rb, hrb⟩ := List.isPrefixOf_iff_prefix.mp hkb
    refine hne ?_
    rw [← hra, ← hrb, List.drop_left, List.drop_left] at heq
    rw [← hra, ← hrb, List.append_cancel_left heq]
  case isTrue.isFalse => exact hout b hb ⟨_, heq⟩
  case isFalse.isTrue => exact hout a ha ⟨_, heq.symm⟩
  case isFalse.isFalse => exact hne heq

/-- Something can be moved to a new name in a directory, as long as that is not inside of it. -/
theorem move {n : String} (h : t.WellFormed) (hk : k ≠ []) (hname : IsName n)
    (hdir : t.get? l = some .directory) (hinto : ¬ k <+: l) (hout : ∀ m, ¬ l ++ [n] <+: k ++ m) :
    (t.move k (l ++ [n])).WellFormed := by
  have hne := List.concat_ne_nil n l
  -- a location is where something went, where something was, or elsewhere
  have hstays : ∀ {m}, ¬ k <+: m → ¬ l ++ [n] <+: m →
      (t.move k (l ++ [n])).get? m = t.get? m := fun hm hm' => get?_move hm hm'
  have hwent : ∀ m, (t.move k (l ++ [n])).get? (l ++ [n] ++ m) = t.get? (k ++ m) := fun m =>
    get?_move_target hk hne (hout m)
  have hleft : ∀ m, (t.move k (l ++ [n])).get? (k ++ m) = none := fun m =>
    get?_move_source hk (hout m)
  have hparent : (t.move k (l ++ [n])).get? l = some .directory := by
    rw [hstays hinto, hdir]
    intro hpre
    have hlength := hpre.length_le
    simp only [List.length_append, List.length_singleton] at hlength
    omega
  have hcases : ∀ {m n'}, ((t.move k (l ++ [n])).get? (m ++ [n'])).isSome →
      IsName n' ∧ (t.move k (l ++ [n])).get? m = some .directory := by
    intro m n' hsome
    by_cases hin : l ++ [n] <+: m ++ [n']
    · rcases List.prefix_concat_iff.mp hin with heq | ⟨m, rfl⟩
      · obtain ⟨rfl, hn⟩ := List.append_inj' heq rfl
        cases hn
        exact ⟨hname, hparent⟩
      · rw [List.append_assoc (l ++ [n]), hwent, ← List.append_assoc] at hsome
        exact ⟨h.isName hsome, by rw [hwent, h.above hsome]⟩
    · by_cases hwas : k <+: m ++ [n']
      · obtain ⟨more, hmore⟩ := hwas
        rw [← hmore, hleft] at hsome
        cases hsome
      · rw [hstays hwas hin] at hsome
        refine ⟨h.isName hsome, ?_⟩
        rw [hstays (fun hm => hwas (hm.trans (List.prefix_append ..)))
          (fun hm => hin (hm.trans (List.prefix_append ..))), h.above hsome]
  refine ⟨?_, fun hsome => (hcases hsome).1, fun hsome => (hcases hsome).2, fun {m e} hm => ?_⟩
  · exact h.nodup_move hne
  · by_cases hin : l ++ [n] <+: m
    · obtain ⟨m, rfl⟩ := hin
      rw [hwent] at hm
      exact h.proper hm
    · by_cases hwas : k <+: m
      · obtain ⟨m, rfl⟩ := hwas
        rw [hleft] at hm
        cases hm
      · rw [hstays hwas hin] at hm
        exact h.proper hm

/-- Where nothing is, there is nothing to remove. -/
theorem erase_of_get?_eq_none (h : t.WellFormed) (hl : l ≠ []) (hnone : t.get? l = none) :
    t.erase l = t := by
  have hall : ∀ e ∈ t.entries, (!l.isPrefixOf e.1) = true := by
    rintro ⟨k, e⟩ he
    refine (Bool.not_eq_true' _).mpr (isPrefixOf_eq_false ?_)
    rintro ⟨m, rfl⟩
    have hsome : (t.get? (l ++ m)).isSome :=
      (isSome_get? (List.append_ne_nil_of_left_ne_nil hl m)).mpr ⟨e, he⟩
    cases m with
    | nil =>
      rw [List.append_nil, hnone] at hsome
      cases hsome
    | cons a m =>
      rw [h.directory (List.cons_ne_nil a m) hsome] at hnone
      cases hnone
  rw [Tree.erase, List.filter_eq_self.mpr hall]

end WellFormed

/-! ### Changes that stay in one place -/

/-- Whatever changed is strictly inside a location. -/
def Confined (l : Location) (t u : Tree) : Prop := ∀ m, ¬ (l <+: m ∧ m ≠ l) → u.get? m = t.get? m

namespace Confined

theorem trans {v : Tree} (h : Confined l t u) (h' : Confined l u v) : Confined l t v :=
  fun m hm => (h' m hm).trans (h m hm)

theorem symm (h : Confined l t u) : Confined l u t := fun m hm => (h m hm).symm

/-- A directory may be emptied. -/
theorem clear (l : Location) (t : Tree) : Confined l t (t.clear l) := fun _ hm => by
  rw [get?_clear, if_neg hm]

theorem put (hm : m ≠ []) : Confined l t (t.put (l ++ m) e) := by
  intro k hk
  rw [get?_put (List.append_ne_nil_of_right_ne_nil l hm), if_neg]
  rintro rfl
  exact hk ⟨List.prefix_append l m, fun h => hm (List.append_right_eq_self.mp h)⟩

end Confined

/-- Directories and links are kept. -/
def Keeps (t u : Tree) : Prop :=
  ∀ l e, t.get? l = some e → (∀ content, e ≠ .file content) → u.get? l = some e

theorem keeps_put {l : Location} {e : Entry} (hl : l ≠ []) (hvacant : t.get? l = none) :
    t.Keeps (t.put l e) := by
  intro m f hm _
  rw [get?_put hl, if_neg, hm]
  rintro rfl
  rw [hvacant] at hm
  cases hm

theorem keeps_of_erase (hl : l ≠ []) (h : ∀ m, ¬ l <+: m → u.get? m = t.get? m) :
    (t.erase l).Keeps u := by
  intro m e hm _
  rw [get?_erase hl] at hm
  split at hm
  · cases hm
  case isFalse hpre => rw [h m hpre, hm]

theorem erase_keeps (t : Tree) (l : Location) (n : String) :
    (t.erase (l ++ [n])).Keeps t :=
  keeps_of_erase (List.concat_ne_nil n l) fun _ _ => rfl

end Tree

end ManifestMigration
