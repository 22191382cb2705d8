import ManifestMigration.Proofs.Constraint.Reading
import ManifestMigration.Proofs.Constraint.Algebra

/-! A constraint as alternatives of clauses.

    A text is cut at the bars first and at commas and blanks then, with operators put in front of
    what follows them; after that it only matters which alternatives there are and which clauses
    each of them has. Reading it succeeds when every clause can be read, and what is allowed is the
    union of what the clauses of an alternative have in common. -/

namespace ManifestMigration

namespace Constraint

/-! ### A text as alternatives of clauses -/

/-- The clauses of each alternative of a text. -/
def clauses (s : List Char) : List (List (List Char)) := (alternatives s).map tokens

/-- What clauses allow together. -/
def allOf (cs : List Constraint) : Constraint := cs.foldl inter any

/-- What alternatives of clauses allow. -/
def anyOf (css : List (List Constraint)) : Constraint := (css.map allOf).foldl union empty

/-- Reads every clause. -/
def readAll (wss : List (List (List Char))) : Except Error (List (List Constraint)) :=
  wss.mapM fun ws => ws.mapM readOne

theorem foldlM_restrict_eq (ws : List (List Char)) :
    ws.foldlM restrict any = allOf <$> ws.mapM readOne := by
  refine foldlM_eq_mapM (fun soFar w => ?_) ws any
  rw [restrict, readOne]
  cases readClause w with
  | error e => rfl
  | ok clause =>
    change (clause.constraint >>= fun c => pure (soFar.inter c)) = _ <$> clause.constraint
    cases clause.constraint <;> rfl

theorem foldlM_extend_eq (as : List (List Char)) :
    as.foldlM extend empty = anyOf <$> readAll (as.map tokens) := by
  have hextend : ∀ (soFar : Constraint) (a : List Char), extend soFar a =
      (fun (soFar : Constraint) (cs : List Constraint) => soFar.union (allOf cs)) soFar <$>
        (tokens a).mapM readOne := by
    intro soFar a
    rw [extend, foldlM_restrict_eq]
    cases (tokens a).mapM readOne <;> rfl
  rw [foldlM_eq_mapM hextend, readAll, List.mapM_map]
  refine congrArg (fun f => f <$> _) (funext fun css => ?_)
  rw [anyOf, List.foldl_map]

/-! ### What clauses allow -/

theorem mem_cuts_foldl_inter {p : Cut} : ∀ (cs : List Constraint) (d : Constraint),
    p ∈ (cs.foldl inter d).cuts ↔ p ∈ d.cuts ∧ ∀ c ∈ cs, p ∈ c.cuts
  | [], d => by simp
  | c :: cs, d => by
    rw [List.foldl_cons, mem_cuts_foldl_inter cs, mem_cuts_inter, List.forall_mem_cons, and_assoc]

theorem mem_cuts_allOf {cs : List Constraint} {p : Cut} :
    p ∈ (allOf cs).cuts ↔ p < ⊤ ∧ ∀ c ∈ cs, p ∈ c.cuts := by
  rw [allOf, mem_cuts_foldl_inter, mem_cuts_any]

theorem mem_cuts_foldl_union {p : Cut} : ∀ (cs : List Constraint) (d : Constraint),
    p ∈ (cs.foldl union d).cuts ↔ p ∈ d.cuts ∨ ∃ c ∈ cs, p ∈ c.cuts
  | [], d => by simp
  | c :: cs, d => by
    rw [List.foldl_cons, mem_cuts_foldl_union cs, mem_cuts_union, List.exists_mem_cons_iff,
      or_assoc]

theorem mem_cuts_anyOf {css : List (List Constraint)} {p : Cut} :
    p ∈ (anyOf css).cuts ↔ ∃ cs ∈ css, p < ⊤ ∧ ∀ c ∈ cs, p ∈ c.cuts := by
  rw [anyOf, mem_cuts_foldl_union, or_iff_right mem_cuts_empty]
  simp only [List.mem_map, exists_exists_and_eq_and, mem_cuts_allOf]

theorem normal_foldl_union : ∀ (cs : List Constraint) {d : Constraint}, Normal d.ranges →
    Normal (cs.foldl union d).ranges
  | [], _, hd => hd
  | _ :: cs, _, _ => normal_foldl_union cs (normal_ofRanges _)

theorem normal_anyOf (css : List (List Constraint)) : Normal (anyOf css).ranges :=
  normal_foldl_union _ normal_empty

/-- A constraint in normal form is empty when it covers no cut. -/
theorem isEmpty_iff_cuts {c : Constraint} (hc : Normal c.ranges) :
    c.isEmpty = true ↔ ∀ p, p ∉ c.cuts := by
  rw [isEmpty, List.isEmpty_iff]
  constructor
  · intro h p
    rw [cuts, h]
    exact mem_cutsOf_nil
  · intro h
    cases hr : c.ranges with
    | nil => rfl
    | cons r rest =>
      rw [hr] at hc
      refine absurd ?_ (h r.lowerCut)
      rw [cuts, hr]
      exact hc.lowerCut_mem

/-- Every clause can be read. -/
def Readables (wss : List (List (List Char))) : Prop :=
  ∀ ws ∈ wss, ∀ w ∈ ws, ∃ c, readOne w = .ok c

/-- The cuts that the clauses of some alternative have in common. -/
def cutsAllowed (wss : List (List (List Char))) : Set Cut :=
  {p | ∃ ws ∈ wss, p < ⊤ ∧ ∀ w ∈ ws, p ∈ cutsRead (String.ofList w)}

theorem exists_readAll_iff {wss : List (List (List Char))} :
    (∃ css, readAll wss = .ok css) ↔ Readables wss := by
  rw [readAll, exists_mapM_eq_ok_iff]
  exact forall₂_congr fun ws _ => exists_mapM_eq_ok_iff

/-- What alternatives of clauses allow, cut by cut. -/
theorem mem_cuts_of_readAll {wss : List (List (List Char))} {css : List (List Constraint)}
    (h : readAll wss = .ok css) {p : Cut} : p ∈ (anyOf css).cuts ↔ p ∈ cutsAllowed wss := by
  rw [mem_cuts_anyOf]
  refine (exists_mem_iff_of_forall₂ ((mapM_eq_ok_iff.mp h).imp fun ws cs hcs => ?_)).symm
  refine and_congr_right fun _ => forall_mem_iff_of_forall₂ ?_
  refine (mapM_eq_ok_iff.mp hcs).imp fun w c hc => mem_cutsRead ?_
  rwa [String.toList_ofList]

/-! ### Cutting at the bars -/

/-- A text without bars. -/
def Barless (s : List Char) : Prop := ∀ c ∈ s, c ≠ '|'

/-- Double bars, or a single one that no bar follows. -/
def IsBar (bar rest : List Char) : Prop :=
  bar = ['|', '|'] ∨ bar = ['|'] ∧ rest.head? ≠ some '|'

/-- The text has these alternatives, with bars between them that are taken in pairs. -/
inductive Parted : List Char → List (List Char) → Prop where
  | last {a : List Char} (ha : Barless a) : Parted a [a]
  | cons {a bar rest : List Char} {as : List (List Char)} (ha : Barless a) (hbar : IsBar bar rest)
    (hrest : Parted rest as) : Parted (a ++ (bar ++ rest)) (a :: as)

theorem alternatives_bar {s : List Char} (h : s.head? ≠ some '|') :
    alternatives ('|' :: s) = [] :: alternatives s := by
  cases s with
  | nil => rfl
  | cons c s =>
    rw [alternatives]
    intro t heq
    rw [heq] at h
    exact h rfl

/-- The first bars end the first alternative. -/
theorem alternatives_append_bar {bar rest : List Char} (hbar : IsBar bar rest) :
    ∀ {a : List Char}, Barless a → alternatives (a ++ (bar ++ rest)) = a :: alternatives rest
  | [], _ => by
    rcases hbar with rfl | ⟨rfl, hrest⟩
    · rw [List.nil_append, List.cons_append, List.singleton_append, alternatives]
    · exact alternatives_bar hrest
  | c :: a, ha => by
    obtain ⟨hc, ha⟩ := List.forall_mem_cons.mp ha
    rw [List.cons_append, alternatives, alternatives_append_bar hbar ha]
    · exact fun _ h _ => hc h
    · exact hc

theorem Parted.alternatives_eq {s : List Char} {as : List (List Char)} (h : Parted s as) :
    alternatives s = as := by
  induction h with
  | last ha => exact alternatives_of_forall ha
  | cons ha hbar _ ih => rw [alternatives_append_bar hbar ha, ih]

theorem exists_isBar {s : List Char} (h : s.head? = some '|') :
    ∃ bar rest, IsBar bar rest ∧ s = bar ++ rest := by
  obtain ⟨t, rfl⟩ := List.head?_eq_some_iff.mp h
  cases ht : t.head? with
  | none => exact ⟨['|'], t, .inr ⟨rfl, by simp [ht]⟩, rfl⟩
  | some c =>
    by_cases hc : c = '|'
    · subst hc
      obtain ⟨rest, rfl⟩ := List.head?_eq_some_iff.mp ht
      exact ⟨['|', '|'], rest, .inl rfl, rfl⟩
    · exact ⟨['|'], t, .inr ⟨rfl, by simpa [ht] using hc⟩, rfl⟩

theorem exists_parted : ∀ s : List Char, ∃ as, Parted s as
  | [] => ⟨_, .last (List.forall_mem_nil _)⟩
  | c :: s => by
    by_cases hc : c = '|'
    · have hhead : (c :: s).head? = some '|' := by rw [hc, List.head?_cons]
      obtain ⟨bar, rest, hbar, hs⟩ := exists_isBar hhead
      have hlength : rest.length ≤ s.length := by
        have hsame := congrArg List.length hs
        rcases hbar with rfl | ⟨rfl, -⟩ <;>
          simp only [List.length_append, List.length_cons, List.length_nil] at hsame <;> omega
      obtain ⟨as, has⟩ := exists_parted rest
      have h : Parted ([] ++ (bar ++ rest)) ([] :: as) := .cons (List.forall_mem_nil _) hbar has
      rw [hs]
      exact ⟨_, h⟩
    · obtain ⟨as, has⟩ := exists_parted s
      cases has with
      | last ha => exact ⟨_, .last (List.forall_mem_cons.mpr ⟨hc, ha⟩)⟩
      | cons ha hbar hrest => exact ⟨_, .cons (List.forall_mem_cons.mpr ⟨hc, ha⟩) hbar hrest⟩
termination_by s => s.length

theorem parted_alternatives (s : List Char) : Parted s (alternatives s) := by
  obtain ⟨as, has⟩ := exists_parted s
  rwa [has.alternatives_eq]

/-- A text without bars has one alternative. -/
theorem clauses_of_barless {s : List Char} (hs : Barless s) : clauses s = [tokens s] := by
  rw [clauses, alternatives_of_forall hs, List.map_singleton]

theorem alternatives_append_bars {s : List Char} (hs : Barless s) (t : List Char) :
    alternatives (s ++ '|' :: '|' :: t) = s :: alternatives t :=
  alternatives_append_bar (.inl rfl) hs

/-! ### Blanks around a text -/

/-- A character between clauses. -/
def isSeparator (c : Char) : Bool := c == ',' || Text.isBlank c

/-- A class of characters without blanks, commas and bars. -/
theorem uncut_of_class {p : Char → Bool} (hblank : ∀ n ∈ Text.blankCodes, p (Char.ofNat n) = false)
    (hp : p ',' = false ∧ p '|' = false) {c : Char} (hc : p c = true) :
    isSeparator c = false ∧ c ≠ '|' := by
  have hne : ∀ {d : Char}, p d = false → c ≠ d := by
    rintro d hd rfl
    rw [hc] at hd
    cases hd
  rw [isSeparator, Text.isBlank_eq_false hblank hc, Bool.or_false]
  exact ⟨beq_eq_false_iff_ne.mpr (hne hp.1), hne hp.2⟩

theorem isSeparator_of_isBlank {c : Char} (hc : Text.isBlank c = true) : isSeparator c = true :=
  Bool.or_eq_true_iff.mpr (.inr hc)

/-- The separators around an alternative do not count. -/
theorem tokens_append_append {p q : List Char} (s : List Char)
    (hp : ∀ c ∈ p, isSeparator c = true) (hq : ∀ c ∈ q, isSeparator c = true) :
    tokens (p ++ (s ++ q)) = tokens s :=
  congrArg (attachOperators []) (Text.wordsBy_append_append s hp hq)

theorem ne_bar_of_isBlank {c : Char} (hc : Text.isBlank c = true) : c ≠ '|' := by
  rintro rfl
  revert hc
  decide

theorem tokens_cons {c : Char} (hc : isSeparator c = true) (s : List Char) :
    tokens (c :: s) = tokens s := by
  have h := tokens_append_append s (List.forall_mem_singleton.mpr hc)
    (List.forall_mem_nil fun d => isSeparator d = true)
  rwa [List.append_nil] at h

theorem tokens_concat {c : Char} (hc : isSeparator c = true) (s : List Char) :
    tokens (s ++ [c]) = tokens s :=
  tokens_append_append s (List.forall_mem_nil _) (List.forall_mem_singleton.mpr hc)

theorem Parted.clauses_eq {s : List Char} {as : List (List Char)} (h : Parted s as) :
    clauses s = as.map tokens := by
  rw [clauses, h.alternatives_eq]

theorem Parted.clauses_cons {c : Char} (hc : Text.isBlank c = true) {s : List Char}
    {as : List (List Char)} : Parted s as → clauses (c :: s) = as.map tokens
  | .last ha => by
    have h : Parted (c :: s) [c :: s] :=
      .last (List.forall_mem_cons.mpr ⟨ne_bar_of_isBlank hc, ha⟩)
    rw [h.clauses_eq, List.map_singleton, List.map_singleton,
      tokens_cons (isSeparator_of_isBlank hc)]
  | .cons (a := a) ha hbar hrest => by
    have h : Parted (c :: (a ++ _)) ((c :: a) :: _) :=
      .cons (List.forall_mem_cons.mpr ⟨ne_bar_of_isBlank hc, ha⟩) hbar hrest
    rw [h.clauses_eq, List.map_cons, List.map_cons, tokens_cons (isSeparator_of_isBlank hc)]

theorem Parted.clauses_concat {c : Char} (hc : Text.isBlank c = true) {s : List Char}
    {as : List (List Char)} (h : Parted s as) : clauses (s ++ [c]) = as.map tokens := by
  have hbar := ne_bar_of_isBlank hc
  induction h with
  | @last a ha =>
    have h : Parted (a ++ [c]) [a ++ [c]] :=
      .last (List.forall_mem_append.mpr ⟨ha, List.forall_mem_singleton.mpr hbar⟩)
    rw [h.clauses_eq, List.map_singleton, List.map_singleton,
      tokens_concat (isSeparator_of_isBlank hc)]
  | @cons a bar rest as ha hbar hrest ih =>
    have hnext : IsBar bar (rest ++ [c]) := by
      refine hbar.imp_right fun ⟨hone, hhead⟩ => ⟨hone, ?_⟩
      cases rest with
      | nil => simpa using ne_bar_of_isBlank hc
      | cons d rest => simpa using hhead
    rw [List.append_assoc, List.append_assoc, clauses, alternatives_append_bar hnext ha,
      List.map_cons, List.map_cons]
    exact congrArg _ ih

/-- The blanks around a text do not count. -/
theorem clauses_append_append {p q : List Char} (hp : ∀ c ∈ p, Text.isBlank c = true)
    (hq : ∀ c ∈ q, Text.isBlank c = true) (s : List Char) :
    clauses (p ++ (s ++ q)) = clauses s := by
  have hend : clauses (s ++ q) = clauses s := by
    induction q using List.reverseRecOn with
    | nil => rw [List.append_nil]
    | append_singleton q c ih =>
      obtain ⟨hq, hlast⟩ := List.forall_mem_append.mp hq
      rw [← List.append_assoc, (parted_alternatives (s ++ q)).clauses_concat
        (hlast c (List.mem_singleton_self c)), ← ih hq, clauses]
  induction p with
  | nil => exact hend
  | cons c p ih =>
    obtain ⟨hc, hp⟩ := List.forall_mem_cons.mp hp
    rw [← ih hp, List.cons_append, (parted_alternatives (p ++ (s ++ q))).clauses_cons hc, clauses]

theorem clauses_trim (s : List Char) : clauses (Text.trim s) = clauses s := by
  obtain ⟨p, q, hs, hp, hq⟩ := Text.exists_trim s
  conv_rhs => rw [hs]
  exact (clauses_append_append hp hq _).symm

/-! ### Reading a text -/

/-- A text is read clause by clause, and then allows what its alternatives do. -/
theorem parse_eq (s : String) : parse s =
    if (Text.trim s.toList).isEmpty then .error .blank
    else readAll (clauses s.toList) >>= fun css =>
      if (anyOf css).isEmpty then .error .matchesNothing else .ok (anyOf css) := by
  rw [← clauses_trim]
  simp only [parse, foldlM_extend_eq, clauses]
  cases readAll ((alternatives (Text.trim s.toList)).map tokens) <;> rfl

/-- A text whose clauses can be read is read, and allows what they do, unless that is nothing. -/
theorem parse_of_readables {s : String} (hs : Text.trim s.toList ≠ [])
    (h : Readables (clauses s.toList)) :
    ∃ d : Constraint, Normal d.ranges ∧
      (∀ p, p ∈ d.cuts ↔ p ∈ cutsAllowed (clauses s.toList)) ∧
      parse s = if d.isEmpty then .error .matchesNothing else .ok d := by
  obtain ⟨css, hcss⟩ := exists_readAll_iff.mpr h
  refine ⟨anyOf css, normal_anyOf css, fun p => mem_cuts_of_readAll hcss, ?_⟩
  rw [parse_eq, List.isEmpty_eq_false_iff.mpr hs, hcss]
  rfl

/-- A text that is read is not blank, its clauses can be read, and what they allow is what the
    text allows, which is something. -/
theorem readables_of_parse {s : String} {c : Constraint} (h : parse s = .ok c) :
    Text.trim s.toList ≠ [] ∧ Readables (clauses s.toList) ∧ c.isEmpty = false ∧
      ∀ p, p ∈ c.cuts ↔ p ∈ cutsAllowed (clauses s.toList) := by
  rw [parse_eq] at h
  split at h
  case isTrue => cases h
  case isFalse hs =>
    obtain ⟨css, hcss, h⟩ := bind_eq_ok.mp h
    split at h
    case isTrue => cases h
    case isFalse hempty =>
      cases h
      exact ⟨fun hnil => hs (List.isEmpty_iff.mpr hnil), exists_readAll_iff.mp ⟨css, hcss⟩,
        (Bool.not_eq_true _).mp hempty, fun p => mem_cuts_of_readAll hcss⟩

/-- A text of one clause is read as what the clause allows, unless that is nothing, and fails as
    the clause does. -/
theorem parse_of_clause {s : String} {w : List Char} (hs : Text.trim s.toList ≠ [])
    (h : clauses s.toList = [[w]]) :
    (∀ e, readOne w = .error e → parse s = .error e) ∧
      ∀ c, readOne w = .ok c → ∃ d : Constraint, Normal d.ranges ∧
        (∀ p, p ∈ d.cuts ↔ p ∈ c.cuts) ∧
        parse s = if d.isEmpty then .error .matchesNothing else .ok d := by
  constructor
  · intro e he
    rw [parse_eq, List.isEmpty_eq_false_iff.mpr hs, h]
    simp only [readAll, List.mapM_cons, he]
    rfl
  · intro c hc
    have hread : Readables (clauses s.toList) := by
      rw [h]
      exact List.forall_mem_singleton.mpr (List.forall_mem_singleton.mpr ⟨c, hc⟩)
    obtain ⟨d, hd, hcuts, hparse⟩ := parse_of_readables hs hread
    refine ⟨d, hd, fun p => ?_, hparse⟩
    have hone : p ∈ cutsRead (String.ofList w) ↔ p ∈ c.cuts := mem_cutsRead (by
      rwa [String.toList_ofList])
    rw [hcuts, h]
    simp only [cutsAllowed, Set.mem_ofPred_eq, List.mem_singleton, exists_eq_left, forall_eq, hone]
    exact and_iff_right_of_imp lt_top_of_mem_cuts

/-- A clause of one range is read as that range, unless it is empty. -/
theorem parse_of_range {s : String} {w : List Char} (hs : Text.trim s.toList ≠ [])
    (h : clauses s.toList = [[w]]) {r : VersionRange} (hread : readOne w = .ok (ofRange r)) :
    ∃ d : Constraint, (∀ x : Version, x ∈ d ↔ x ∈ r) ∧
      parse s = if r.isEmpty then .error .matchesNothing else .ok d := by
  obtain ⟨d, hd, hcuts, hparse⟩ := (parse_of_clause hs h).2 _ hread
  have hcover : ∀ p, p ∈ d.cuts ↔ p ∈ r.cuts := fun p => by rw [hcuts, mem_cuts_ofRange]
  have hempty : d.isEmpty = r.isEmpty := by
    rw [Bool.eq_iff_iff, isEmpty_iff_cuts hd, VersionRange.isEmpty_iff, ← not_lt,
      ← Set.Ico_eq_empty_iff, Set.eq_empty_iff_forall_notMem]
    exact forall_congr' fun p => not_congr (hcover p)
  refine ⟨d, fun x => ?_, hempty ▸ hparse⟩
  rw [mem_iff, hcover, VersionRange.mem_iff]

/-! ### Texts put together -/

/-- A bar makes an empty alternative, whether it pairs with the next one or not. -/
theorem mem_alternatives_cons_bar {x : List Char} : ∀ {t : List Char},
    x ∈ alternatives ('|' :: t) ↔ x = [] ∨ x ∈ alternatives t
  | [] => by simp [alternatives]
  | c :: t => by
    by_cases hc : c = '|'
    · subst hc
      rw [alternatives, List.mem_cons, mem_alternatives_cons_bar, or_self_left]
    · rw [alternatives_bar (by simpa using hc), List.mem_cons]

/-- Bars between two texts part their alternatives, but for an empty one perhaps. -/
theorem Parted.mem_append_bars {x : List Char} (t : List Char) {s : List Char}
    {as : List (List Char)} (h : Parted s as) :
    x ∈ alternatives (s ++ '|' :: '|' :: t) ↔ x ∈ as ∨ x ∈ alternatives t := by
  induction h with
  | last ha => rw [alternatives_append_bars ha, List.mem_cons, List.mem_singleton]
  | @cons a bar rest as ha hbar hrest ih =>
    by_cases hodd : bar = ['|'] ∧ rest = []
    · -- the bar at the end pairs with the first of those that follow
      obtain ⟨rfl, rfl⟩ := hodd
      rw [← hrest.alternatives_eq, List.append_nil, List.append_assoc, List.singleton_append,
        alternatives_append_bars ha, List.mem_cons, mem_alternatives_cons_bar]
      simp [alternatives, or_assoc]
    · have hnext : IsBar bar (rest ++ '|' :: '|' :: t) := by
        refine hbar.imp_right fun h => ⟨h.1, ?_⟩
        obtain ⟨hone, hhead⟩ := h
        cases rest with
        | nil => exact absurd ⟨hone, rfl⟩ hodd
        | cons d rest => simpa using hhead
      rw [List.append_assoc, List.append_assoc, alternatives_append_bar hnext ha, List.mem_cons,
        ih, List.mem_cons, or_assoc]

theorem mem_clauses_append_bars {ws : List (List Char)} {s t : List Char} :
    ws ∈ clauses (s ++ '|' :: '|' :: t) ↔ ws ∈ clauses s ∨ ws ∈ clauses t := by
  simp only [clauses, List.mem_map, (parted_alternatives s).mem_append_bars, or_and_right,
    exists_or]

/-! ### Operators that stand apart -/

/-- An operator that stands apart joins what follows it, but not across the end of a text whose
    clauses are all more than operators. -/
theorem attachOperators_append (vs : List (List Char)) : ∀ {pending : List Char}
    {us : List (List Char)}, pending.all isOperator = true →
    (∀ w ∈ attachOperators pending us, w.all isOperator = false) →
      attachOperators pending (us ++ vs) = attachOperators pending us ++ attachOperators [] vs
  | pending, [], hp, h => by
    have hnil : pending = [] := by
      by_contra hne
      have hlast := h pending (by simp [attachOperators, hne])
      rw [hp] at hlast
      cases hlast
    rw [hnil]
    rfl
  | pending, u :: us, hp, h => by
    rw [List.cons_append]
    simp only [attachOperators] at h ⊢
    split
    case isTrue hu =>
      rw [if_pos hu] at h
      exact attachOperators_append vs (by rw [List.all_append, hp, hu]; rfl) h
    case isFalse hu =>
      rw [if_neg hu] at h
      rw [List.cons_append, attachOperators_append vs rfl (List.forall_mem_cons.mp h).2]

/-- A separator between two texts parts their clauses. -/
theorem tokens_append {c : Char} (hc : isSeparator c = true) {s : List Char}
    (hs : ∀ w ∈ tokens s, w.all isOperator = false) (t : List Char) :
    tokens (s ++ c :: t) = tokens s ++ tokens t := by
  have hwords := Text.wordsBy_append hc s t
  exact (congrArg (attachOperators []) hwords).trans (attachOperators_append _ rfl hs)

/-- A text that names a version holds a digit. -/
theorem exists_isDigit_of_readVersion {s : List Char} {v : Version}
    (h : readVersion s = .ok v) : ∃ c ∈ s, Text.isDigit c = true := by
  rw [readVersion, Version.parse?, String.toList_ofList] at h
  split at h
  case h_2 => cases h
  case h_1 w hw =>
    obtain ⟨-, -, ⟨c, u, hu, hc⟩, -⟩ := Version.of_ofText?_eq_some hw
    obtain ⟨p, q, hs, -, -⟩ := Text.exists_trim s
    have hmem : c ∈ Text.trim s := (Version.dropV_suffix _).mem (hu ▸ List.mem_cons_self ..)
    rw [hs]
    exact ⟨c, List.mem_append_right _ (List.mem_append_left _ hmem), hc⟩

theorem readVersion_ne_ok {s : List Char} (hs : s.all isOperator = true) (v : Version) :
    readVersion s ≠ .ok v := by
  intro h
  obtain ⟨c, hc, hdigit⟩ := exists_isDigit_of_readVersion h
  have hop := List.all_eq_true.mp hs c hc
  rw [isOperator_eq_false_of_isDigit hdigit] at hop
  cases hop

theorem readPlain_ne_ok {s : List Char} (hs : s.all isOperator = true) (clause : Clause) :
    readPlain s ≠ .ok clause := by
  have hdrop : s.dropWhile isOperator = [] :=
    List.dropWhile_eq_nil_iff.mpr fun c => List.all_eq_true.mp hs c
  intro h
  simp only [readPlain, hdrop] at h
  split at h
  · cases h
  · cases h
  case h_3 hne => exact hne rfl

/-- A clause that can be read is more than an operator. -/
theorem all_isOperator_eq_false {w : List Char} {c : Constraint} (h : readOne w = .ok c) :
    w.all isOperator = false := by
  by_contra hop
  rw [Bool.not_eq_false] at hop
  obtain ⟨clause, hclause, -⟩ := bind_eq_ok.mp h
  cases w with
  | nil => cases hclause
  | cons a s =>
    obtain ⟨ha, hs⟩ := Bool.and_eq_true_iff.mp (List.all_cons ▸ hop)
    unfold readClause at hclause
    rw [all_isStar_eq_false ha, if_neg Bool.false_ne_true] at hclause
    split at hclause
    case h_1 heq =>
      rw [(List.cons.inj heq).2, List.all_cons, Bool.and_eq_true] at hs
      obtain ⟨v, hv, -⟩ := map_eq_ok.mp hclause
      exact readVersion_ne_ok hs.2 v hv
    case h_2 heq =>
      obtain ⟨v, hv, -⟩ := map_eq_ok.mp hclause
      exact readVersion_ne_ok ((List.cons.inj heq).2 ▸ hs) v hv
    case h_3 heq =>
      obtain ⟨v, hv, -⟩ := map_eq_ok.mp hclause
      exact readVersion_ne_ok ((List.cons.inj heq).2 ▸ hs) v hv
    case h_4 => exact readPlain_ne_ok hop clause hclause

end Constraint
end ManifestMigration
