import ManifestMigration.Proofs.Version.Grammar
import ManifestMigration.Proofs.Version.Preorder
import Mathlib.Data.List.Lex
import Mathlib.Data.Prod.Lex
import Mathlib.Order.WithBot

/-! The order of versions next to the sort key of PEP 440.

    Releases are compared with the zeros at their end dropped, and marks by a key that puts a
    development release without other marks first, then the pre-releases, the final release and the
    post releases. The comparison packs phase and number of a pre-release into one word, counts a
    post release that is missing as `0` and a development release that is missing as the largest
    word. Versions keep their place as long as none of the three makes two of them meet. -/

namespace ManifestMigration

namespace Version

/-! ### Keys -/

/-- What PEP 440 sorts versions with one release by: the pre-release, the post release and the
    development release. -/
abbrev MarksKey := WithBot (WithTop (ℕ ×ₗ ℕ)) ×ₗ WithBot ℕ ×ₗ WithTop ℕ

/-- What PEP 440 sorts versions by: the release, and then the marks. -/
abbrev SortKey := List ℕ ×ₗ MarksKey

/-- The release without the zeros at its end. -/
def trimmed (release : List ℕ) : List ℕ := release.rdropWhile (· == 0)

/-- A development release without other marks comes before every pre-release, and what is no
    pre-release behind them. -/
def preKey (v : Version) : WithBot (WithTop (ℕ ×ₗ ℕ)) :=
  match v.pre, v.post, v.dev with
  | some (phase, n), _, _ => ((toLex (phase.rank, n) : ℕ ×ₗ ℕ) : WithTop (ℕ ×ₗ ℕ))
  | none, none, some _ => ⊥
  | none, _, _ => ⊤

/-- What is no post release comes first. -/
def postKey (v : Version) : WithBot ℕ :=
  match v.post with
  | none => ⊥
  | some n => WithBot.some n

/-- What is no development release comes last. -/
def devKey (v : Version) : WithTop ℕ :=
  match v.dev with
  | none => ⊤
  | some n => WithTop.some n

def marksKey (v : Version) : MarksKey := toLex (v.preKey, toLex (v.postKey, v.devKey))

def sortKey (v : Version) : SortKey := toLex (trimmed v.release, v.marksKey)

/-! ### Comparisons and keys -/

section Orders

variable {α β : Type} {o p : Ordering}

/-- What a comparison answers holds of two keys, as far as it does not put the first one last. -/
structure Orders [LT α] (o : Ordering) (a b : α) : Prop where
  lt : o = .lt → a < b
  eq : o = .eq → a = b

/-- Comparisons made one after the other order pairs of keys. -/
theorem Orders.then [LinearOrder α] [LinearOrder β] {a b : α} {c d : β} (h : Orders o a b)
    (h' : o = .eq → Orders p c d) : Orders (o.then p) (toLex (a, c)) (toLex (b, d)) := by
  cases o with
  | lt => exact ⟨fun _ => Prod.Lex.toLex_lt_toLex.mpr (.inl (h.lt rfl)), nofun⟩
  | eq =>
    obtain rfl := h.eq rfl
    refine ⟨fun hlt => Prod.Lex.toLex_lt_toLex.mpr (.inr ⟨rfl, (h' rfl).lt hlt⟩), fun heq => ?_⟩
    rw [(h' rfl).eq heq]
  | gt => exact ⟨nofun, nofun⟩

theorem orders_compare [LT α] {a b : ℕ} {x y : α} (hlt : a < b → x < y) (heq : a = b → x = y) :
    Orders (Ord.compare a b) x y :=
  ⟨fun h => hlt (Nat.compare_eq_lt.mp h), fun h => heq (Nat.compare_eq_eq.mp h)⟩

end Orders

/-! ### Releases -/

/-- A release without the zeros at its end, from its first segment and the others. -/
theorem trimmed_eq (xs : List ℕ) : trimmed xs =
    if xs.headD 0 = 0 ∧ trimmed xs.tail = [] then [] else xs.headD 0 :: trimmed xs.tail := by
  cases xs with
  | nil => rfl
  | cons x xs =>
    rw [trimmed, List.rdropWhile, List.reverse_cons, List.dropWhile_append, List.headD_cons,
      List.tail_cons]
    by_cases hnil : trimmed xs = []
    · have hempty : xs.reverse.dropWhile (· == 0) = [] := List.reverse_eq_nil_iff.mp hnil
      by_cases hx : x = 0 <;> simp [hempty, hnil, hx]
    · have hne : xs.reverse.dropWhile (· == 0) ≠ [] := mt List.reverse_eq_nil_iff.mpr hnil
      rw [if_neg (mt List.isEmpty_iff.mp hne), if_neg fun h => hnil h.2, List.reverse_append]
      rfl

/-- What is put in front of trimmed releases orders them first. -/
theorem cons_lt_of_trimmed {x y : ℕ} {xs ys : List ℕ} (h : x < y ∨ x = y ∧ xs < ys) :
    (if x = 0 ∧ xs = [] then [] else x :: xs) < if y = 0 ∧ ys = [] then [] else y :: ys := by
  have hy : ¬ (y = 0 ∧ ys = []) := by
    rintro ⟨rfl, rfl⟩
    rcases h with h | ⟨-, h⟩
    · exact Nat.not_lt_zero _ h
    · exact List.not_lt_nil _ h
  rw [if_neg hy]
  split
  · exact List.nil_lt_cons y ys
  · exact List.cons_lt_cons_iff.mpr h

/-- Comparing releases with zeros behind the shorter one is comparing them without the zeros at
    their ends. -/
theorem orders_compareReleases : ∀ (n : ℕ) {xs ys : List ℕ}, xs.length ≤ n → ys.length ≤ n →
    Orders (compareReleases xs ys) (trimmed xs) (trimmed ys)
  | 0, xs, ys, hx, hy => by
    rw [List.eq_nil_of_length_eq_zero (Nat.le_zero.mp hx),
      List.eq_nil_of_length_eq_zero (Nat.le_zero.mp hy)]
    exact ⟨nofun, fun _ => rfl⟩
  | n + 1, xs, ys, hx, hy => by
    have ih : Orders (compareReleases xs.tail ys.tail) (trimmed xs.tail) (trimmed ys.tail) :=
      orders_compareReleases n (by rw [List.length_tail]; omega) (by rw [List.length_tail]; omega)
    rw [compareReleases_eq_then, trimmed_eq xs, trimmed_eq ys]
    constructor
    · intro h
      rcases Ordering.then_eq_lt.mp h with hlt | ⟨heq, hlt⟩
      · exact cons_lt_of_trimmed (.inl (Nat.compare_eq_lt.mp hlt))
      · exact cons_lt_of_trimmed (.inr ⟨Nat.compare_eq_eq.mp heq, ih.lt hlt⟩)
    · intro h
      obtain ⟨hhead, htail⟩ := Ordering.then_eq_eq.mp h
      rw [Nat.compare_eq_eq.mp hhead, ih.eq htail]

/-! ### Marks -/

/-- The packed marks keep their place: the number of an alpha or a beta release is less than the
    distance of the phases, the number of a release candidate does not use the bit of its phase, a
    post release of a pre-release has a number, and the number of a development release of another
    mark is not the last one before the largest word. -/
structure Kept (v : Version) : Prop where
  pre : ∀ m ∈ v.pre, m.2 < 1 <<< 32 ∨ m.1 = .candidate ∧ m.2.testBit 33 = false
  post : v.pre.isSome → v.post ≠ some 0
  dev : ∀ n ∈ v.dev, n + 2 < Text.wordLimit ∨ v.stage = 0 ∧ n + 1 < Text.wordLimit

variable {v w : Version}

theorem shiftLeft_or_eq_add {n i : ℕ} (h : n.testBit i = false) :
    1 <<< i ||| n = 1 <<< i + n := by
  rw [Nat.one_shiftLeft]
  have hbit : n / 2 ^ i % 2 = 0 := by
    rw [Nat.testBit_eq_decide_div_mod_eq, decide_eq_false_iff_not] at h
    omega
  have hlow : n % 2 ^ (i + 1) < 2 ^ i := by
    rw [Nat.mod_pow_succ, hbit, Nat.mul_zero, Nat.add_zero]
    exact Nat.mod_lt _ (Nat.two_pow_pos i)
  have hn := Nat.div_add_mod n (2 ^ (i + 1))
  have hsum := Nat.add_lt_add_left hlow (2 ^ i)
  rw [← Nat.two_pow_succ] at hsum
  calc 2 ^ i ||| n
      = 2 ^ i ||| (2 ^ (i + 1) * (n / 2 ^ (i + 1)) ||| n % 2 ^ (i + 1)) := by
        rw [← Nat.two_pow_add_eq_or_of_lt (Nat.mod_lt _ (Nat.two_pow_pos _)), hn]
    _ = 2 ^ (i + 1) * (n / 2 ^ (i + 1)) ||| (2 ^ i * 1 ||| n % 2 ^ (i + 1)) := by
        rw [← Nat.or_assoc, Nat.or_comm (2 ^ i), Nat.or_assoc, Nat.mul_one]
    _ = 2 ^ i + n := by
        rw [← Nat.two_pow_add_eq_or_of_lt hlow, Nat.mul_one, ← Nat.two_pow_add_eq_or_of_lt hsum]
        omega

theorem preRank_eq {phase : Phase} {n : ℕ} (hv : v.Kept) (hpre : v.pre = some (phase, n)) :
    v.preRank = phase.rank <<< 32 + n ∧ (phase.rank = 2 ∨ n < 1 <<< 32) := by
  simp only [preRank, hpre]
  rcases hv.pre _ hpre with hn | ⟨rfl, hbit⟩
  · exact ⟨(Nat.shiftLeft_add_eq_or_of_lt (Nat.one_shiftLeft 32 ▸ hn) _).symm, .inr hn⟩
  · exact ⟨shiftLeft_or_eq_add hbit, .inl rfl⟩

/-- Versions of one stage are both pre-releases or none is, and both post releases or none is unless
    they are pre-releases. -/
theorem same_stage (h : v.stage = w.stage) : v.pre.isSome = w.pre.isSome ∧
    (v.post.isSome = w.post.isSome ∨ v.pre.isSome = true ∧ w.pre.isSome = true) := by
  obtain ⟨major, tail, pre, post, dev, text⟩ := v
  obtain ⟨major', tail', pre', post', dev', text'⟩ := w
  cases pre <;> cases post <;> cases dev <;> cases pre' <;> cases post' <;> cases dev' <;>
    simp [stage] at h ⊢

theorem dev_ne_none (h : v.stage = 0) : v.dev ≠ none := by
  obtain ⟨major, tail, pre, post, dev, text⟩ := v
  cases pre <;> cases post <;> cases dev <;> simp [stage] at h ⊢

theorem preKey_of_none (h : v.pre = none) : v.preKey = if v.stage = 0 then ⊥ else ⊤ := by
  obtain ⟨major, tail, pre, post, dev, text⟩ := v
  obtain rfl : pre = none := h
  cases post <;> cases dev <;> rfl

theorem preKey_of_some {phase : Phase} {n : ℕ} (h : v.pre = some (phase, n)) :
    v.preKey = ((toLex (phase.rank, n) : ℕ ×ₗ ℕ) : WithTop (ℕ ×ₗ ℕ)) := by
  simp only [preKey, h]

theorem orders_pre (hv : v.Kept) (hw : w.Kept) (h : v.stage = w.stage) :
    Orders (Ord.compare v.preRank w.preRank) v.preKey w.preKey := by
  have hsome := (same_stage h).1
  match hpv : v.pre, hpw : w.pre with
  | none, none =>
    rw [show v.preRank = 0 by rw [preRank, hpv], show w.preRank = 0 by rw [preRank, hpw],
      preKey_of_none hpv, preKey_of_none hpw, h]
    exact ⟨nofun, fun _ => rfl⟩
  | none, some _ => rw [hpv, hpw] at hsome; cases hsome
  | some _, none => rw [hpv, hpw] at hsome; cases hsome
  | some (phase, n), some (phase', n') =>
    obtain ⟨hrank, hbound⟩ := preRank_eq hv hpv
    obtain ⟨hrank', hbound'⟩ := preRank_eq hw hpw
    have hphase : phase.rank ≤ 2 := by cases phase <;> decide
    have hphase' : phase'.rank ≤ 2 := by cases phase' <;> decide
    rw [preKey_of_some hpv, preKey_of_some hpw]
    refine orders_compare (fun hlt => ?_) fun heq => ?_
    · rw [WithBot.coe_lt_coe, WithTop.coe_lt_coe, Prod.Lex.toLex_lt_toLex]
      change phase.rank < phase'.rank ∨ phase.rank = phase'.rank ∧ n < n'
      omega
    · rw [show phase.rank = phase'.rank by omega, show n = n' by omega]

theorem orders_post (hv : v.Kept) (hw : w.Kept) (h : v.stage = w.stage) :
    Orders (Ord.compare (v.post.getD 0) (w.post.getD 0)) v.postKey w.postKey := by
  obtain ⟨-, hsome⟩ := same_stage h
  rw [postKey, postKey]
  match hpv : v.post, hpw : w.post with
  | none, none => exact orders_compare (fun hlt => absurd hlt (Nat.lt_irrefl 0)) fun _ => rfl
  | none, some n =>
    have hne : n ≠ 0 := by
      rw [hpv, hpw] at hsome
      obtain ⟨-, hpre⟩ := hsome.resolve_left nofun
      exact fun hzero => hw.post hpre (hzero ▸ hpw)
    exact orders_compare (fun _ => WithBot.bot_lt_coe n) fun heq => absurd heq.symm hne
  | some n, none =>
    have hne : n ≠ 0 := by
      rw [hpv, hpw] at hsome
      obtain ⟨hpre, -⟩ := hsome.resolve_left nofun
      exact fun hzero => hv.post hpre (hzero ▸ hpv)
    exact orders_compare (fun hlt => absurd hlt (Nat.not_lt_zero n)) fun heq => absurd heq hne
  | some n, some n' =>
    exact orders_compare (fun hlt => WithBot.coe_lt_coe.mpr hlt) fun heq => congrArg _ heq

/-- A development release that could be taken for none has no other marks, and what it is compared
    with then is a development release too. -/
theorem Kept.dev_lt {n : ℕ} (hw : w.Kept) (h : v.stage = w.stage) (hnone : v.dev = none)
    (hn : w.dev = some n) : n + 1 < Text.wordLimit - 1 := by
  rcases hw.dev n hn with hlt | ⟨hstage, -⟩
  · omega
  · exact absurd hnone (dev_ne_none (h.trans hstage))

theorem devRank_of_none (h : v.dev = none) : v.devRank = Text.wordLimit - 1 := by rw [devRank, h]

/-- The rank of a development release that keeps its place is counted without starting again. -/
theorem Kept.devRank_of_some {n : ℕ} (hv : v.Kept) (hn : v.dev = some n) : v.devRank = n + 1 := by
  have hlt : n + 1 < Text.wordLimit := by
    rcases hv.dev n hn with hlt | ⟨-, hlt⟩
    · exact Nat.lt_of_succ_lt hlt
    · exact hlt
  rw [devRank, hn]
  exact Text.nextWord_of_lt hlt

theorem orders_dev (hv : v.Kept) (hw : w.Kept) (h : v.stage = w.stage) :
    Orders (Ord.compare v.devRank w.devRank) v.devKey w.devKey := by
  rw [devKey, devKey]
  match hdv : v.dev, hdw : w.dev with
  | none, none =>
    rw [devRank_of_none hdv, devRank_of_none hdw]
    exact orders_compare (fun hlt => absurd hlt (Nat.lt_irrefl _)) fun _ => rfl
  | none, some n =>
    have hlt := hw.dev_lt h hdv hdw
    rw [devRank_of_none hdv, hw.devRank_of_some hdw]
    exact orders_compare (fun hgt => absurd hgt hlt.not_gt) fun heq => absurd heq hlt.ne'
  | some n, none =>
    have hlt := hv.dev_lt h.symm hdw hdv
    rw [hv.devRank_of_some hdv, devRank_of_none hdw]
    exact orders_compare (fun _ => WithTop.coe_lt_top n) fun heq => absurd heq hlt.ne
  | some n, some n' =>
    rw [hv.devRank_of_some hdv, hw.devRank_of_some hdw]
    exact orders_compare (fun hlt => WithTop.coe_lt_coe.mpr (Nat.lt_of_succ_lt_succ hlt))
      fun heq => congrArg _ (Nat.succ.inj heq)

/-- An earlier stage comes first, whatever the marks say. -/
theorem key_lt_of_stage_lt (h : v.stage < w.stage) :
    v.preKey < w.preKey ∨ v.preKey = w.preKey ∧ v.postKey < w.postKey := by
  have htop : ∀ x : ℕ ×ₗ ℕ, ((x : WithTop (ℕ ×ₗ ℕ)) : WithBot (WithTop (ℕ ×ₗ ℕ))) < ⊤ :=
    fun x => WithBot.coe_lt_coe.mpr (WithTop.coe_lt_top x)
  obtain ⟨major, tail, pre, post, dev, text⟩ := v
  obtain ⟨major', tail', pre', post', dev', text'⟩ := w
  cases pre <;> cases post <;> cases dev <;> cases pre' <;> cases post' <;> cases dev' <;>
    simp [stage, preKey, postKey, htop] at h ⊢

theorem orders_marks (hv : v.Kept) (hw : w.Kept) :
    Orders (compareMarks v w) v.marksKey w.marksKey := by
  rw [compareMarks]
  rcases lt_trichotomy v.stage w.stage with hlt | heq | hgt
  · rw [Nat.compare_eq_lt.mpr hlt]
    refine ⟨fun _ => Prod.Lex.toLex_lt_toLex.mpr ?_, nofun⟩
    exact (key_lt_of_stage_lt hlt).imp_right fun ⟨hpre, hpost⟩ =>
      ⟨hpre, Prod.Lex.toLex_lt_toLex.mpr (.inl hpost)⟩
  · rw [Nat.compare_eq_eq.mpr heq, Ordering.eq_then]
    exact (orders_pre hv hw heq).then fun _ => (orders_post hv hw heq).then fun _ =>
      orders_dev hv hw heq
  · rw [Nat.compare_eq_gt.mpr hgt]
    exact ⟨nofun, nofun⟩

/-! ### Versions -/

theorem orders_compare_sortKey (hv : v.Kept) (hw : w.Kept) :
    Orders (v.compare w) v.sortKey w.sortKey :=
  (orders_compareReleases (v.release.length + w.release.length) (by omega) (by omega)).then
    fun _ => orders_marks hv hw

/-- Versions whose packed marks keep their place are in the order of their keys. -/
theorem compare_eq_cmp_sortKey (hv : v.Kept) (hw : w.Kept) :
    v.compare w = cmp v.sortKey w.sortKey := by
  have h := orders_compare_sortKey hv hw
  have h' := orders_compare_sortKey hw hv
  cases hcompare : v.compare w with
  | lt => exact ((cmp_eq_lt_iff _ _).mpr (h.lt hcompare)).symm
  | eq => exact ((cmp_eq_eq_iff _ _).mpr (h.eq hcompare)).symm
  | gt => exact ((cmp_eq_gt_iff _ _).mpr (h'.lt (Std.OrientedCmp.lt_of_gt hcompare))).symm

/-! ### Texts -/

namespace VersionText

variable {T U : VersionText}

/-- The digits of the marks. -/
def markDigits (T : VersionText) : List (List Char) :=
  T.pre.toList.map (·.digits) ++ T.post.toList.map (·.digits) ++ T.dev.toList.map (·.digits)

theorem digits_mem (T : VersionText) : (∀ m ∈ T.pre, m.digits ∈ T.markDigits) ∧
    (∀ m ∈ T.post, m.digits ∈ T.markDigits) ∧ ∀ m ∈ T.dev, m.digits ∈ T.markDigits := by
  refine ⟨fun m hm => ?_, fun m hm => ?_, fun m hm => ?_⟩
  · exact List.mem_append_left _ (List.mem_append_left _
      (List.mem_map_of_mem (Option.mem_toList.mpr hm)))
  · exact List.mem_append_left _ (List.mem_append_right _
      (List.mem_map_of_mem (Option.mem_toList.mpr hm)))
  · exact List.mem_append_right _ (List.mem_map_of_mem (Option.mem_toList.mpr hm))

/-- The marks are read as they are written, and keep their place. -/
structure Kept (T : VersionText) : Prop where
  numbers : ∀ ds ∈ T.markDigits, Text.value ds = 0 ∨
    ds.all Char.isDigit = true ∧ Text.value ds < Text.wordLimit
  marks : T.written.Kept

/-- Segments are always read as they are written, and so is the version if its marks are. -/
theorem Kept.read_eq_written (h : T.Kept) : T.read = T.written := by
  have hsegments : ∀ ds ∈ T.major :: T.tail, markNumber ds = Text.value ds := by
    intro ds hds
    obtain ⟨n, hn⟩ := Option.isSome_iff_exists.mp (T.segments ds hds)
    rw [markNumber_of_word? hn, (Text.word?_eq_some_iff.mp hn).2.2.1]
  have hmarks : ∀ ds ∈ T.markDigits, markNumber ds = Text.value ds := fun ds hds =>
    markNumber_eq_value_iff.mpr ((h.numbers ds hds).imp_right (.imp_left List.all_eq_true.mp))
  obtain ⟨hmajor, htail⟩ := List.forall_mem_cons.mp hsegments
  have hpre : ∀ m ∈ T.pre, m.content markNumber = m.content Text.value := fun m hm =>
    congrArg (Prod.mk m.meant) (hmarks _ (T.digits_mem.1 m hm))
  have hpost : ∀ m ∈ T.post, markNumber m.digits = Text.value m.digits := fun m hm =>
    hmarks _ (T.digits_mem.2.1 m hm)
  have hdev : ∀ m ∈ T.dev, markNumber m.digits = Text.value m.digits := fun m hm =>
    hmarks _ (T.digits_mem.2.2 m hm)
  rw [read, written, version, version, hmajor, List.map_congr_left htail, Option.map_congr hpre,
    Option.map_congr hpost, Option.map_congr hdev]

end VersionText

/-- Versions compare as PEP 440 sorts what their texts write, whatever the texts: releases of any
    length with any marks, as long as the marks are read as they are written and keep their place
    when they are packed. -/
theorem compare_eq_cmp_written (s t : String) (v w : Version) (hs : parse? s = some v)
    (ht : parse? t = some w) :
    (∃ T U : VersionText, Text.trim s.toList = T.text ∧ Text.trim t.toList = U.text) ∧
      ∀ T U : VersionText, Text.trim s.toList = T.text → Text.trim t.toList = U.text →
        T.Kept → U.Kept → v.compare w = cmp T.written.sortKey U.written.sortKey := by
  obtain ⟨T, hT, -⟩ := parse?_eq_some_iff.mp hs
  obtain ⟨U, hU, -⟩ := parse?_eq_some_iff.mp ht
  refine ⟨⟨T, U, hT, hU⟩, fun T U hT hU hkept hkept' => ?_⟩
  have hv : v = T.written := Option.some.inj <| hs.symm.trans <|
    parse?_eq_some_iff.mpr ⟨T, hT, hkept.read_eq_written⟩
  have hw : w = U.written := Option.some.inj <| ht.symm.trans <|
    parse?_eq_some_iff.mpr ⟨U, hU, hkept'.read_eq_written⟩
  rw [hv, hw]
  exact compare_eq_cmp_sortKey hkept.marks hkept'.marks

theorem compare_eq_cmp_written_of_candidate :
    let T : VersionText :=
      { vee := ['v'], major := ['1'], tail := [['0']],
        pre := some { lead := ['-'], label := "RC".toList, meant := .candidate, gap := ['.'],
                      digits := "4294967296".toList },
        post := none, dev := none }
    let U : VersionText :=
      { vee := [], major := ['1'], tail := [], pre := none,
        post := some { lead := [], label := ['r'], meant := (), gap := [], digits := ['2'] },
        dev := some { lead := ['_'], label := "dev".toList, meant := (), gap := [], digits := [] } }
    Text.trim " v1.0-RC.4294967296".toList = T.text ∧ Text.trim "1r2_dev".toList = U.text ∧
      T.Kept ∧ U.Kept ∧ cmp T.written.sortKey U.written.sortKey = .lt ∧
      ∃ v w, parse? " v1.0-RC.4294967296" = some v ∧ parse? "1r2_dev" = some w ∧
        v.compare w = .lt := by
  intro T U
  have hT : Text.trim " v1.0-RC.4294967296".toList = T.text := by decide
  have hU : Text.trim "1r2_dev".toList = U.text := by decide
  have hkept : T.Kept := by
    refine ⟨?_, ?_, ?_, ?_⟩ <;> decide
  have hkept' : U.Kept := by
    refine ⟨?_, ?_, ?_, ?_⟩ <;> decide
  have hlt : cmp T.written.sortKey U.written.sortKey = .lt := by decide
  have hv := parse?_eq_some_iff.mpr ⟨T, hT, rfl⟩
  have hw := parse?_eq_some_iff.mpr ⟨U, hU, rfl⟩
  obtain ⟨-, hlaw⟩ := compare_eq_cmp_written _ _ _ _ hv hw
  exact ⟨hT, hU, hkept, hkept', hlt, _, _, hv, hw, (hlaw T U hT hU hkept hkept').trans hlt⟩

/-- The texts are read as versions that do not compare as what they write. -/
def Misplaced (s t : String) : Prop := ∃ (T U : VersionText) (v w : Version),
  Text.trim s.toList = T.text ∧ Text.trim t.toList = U.text ∧ parse? s = some v ∧
    parse? t = some w ∧ v.compare w ≠ cmp T.written.sortKey U.written.sortKey

theorem misplaced_of_read {s t : String} {T U : VersionText} (hT : Text.trim s.toList = T.text)
    (hU : Text.trim t.toList = U.text)
    (h : T.read.compare U.read ≠ cmp T.written.sortKey U.written.sortKey) : Misplaced s t :=
  ⟨T, U, T.read, U.read, hT, hU, parse?_eq_some_iff.mpr ⟨T, hT, rfl⟩,
    parse?_eq_some_iff.mpr ⟨U, hU, rfl⟩, h⟩

/-- The numbers of two pre-releases meet in one word, a post release of a pre-release is taken for
    none, the last development release but one of a pre-release is taken for none as well, and a
    number that does not fit is taken for zero. -/
theorem packing_misplaces :
    Misplaced "1.0a4294967296" "1.0b0" ∧ Misplaced "1.0a1" "1.0a1.post0" ∧
      Misplaced "1.0a1.dev18446744073709551614" "1.0a1" ∧
      Misplaced "1.0a18446744073709551616" "1.0a1" := by
  let alpha : MarkText preLabels :=
    { lead := [], label := ['a'], meant := .alpha, gap := [], digits := ['1'] }
  let wide : MarkText preLabels :=
    { lead := [], label := ['a'], meant := .alpha, gap := [], digits := "4294967296".toList }
  let beta : MarkText preLabels :=
    { lead := [], label := ['b'], meant := .beta, gap := [], digits := ['0'] }
  let huge : MarkText preLabels :=
    { lead := [], label := ['a'], meant := .alpha, gap := [],
      digits := "18446744073709551616".toList }
  let post : MarkText postLabels :=
    { lead := ['.'], label := "post".toList, meant := (), gap := [], digits := ['0'] }
  let dev : MarkText devLabels :=
    { lead := ['.'], label := "dev".toList, meant := (), gap := [],
      digits := "18446744073709551614".toList }
  let one : VersionText :=
    { vee := [], major := ['1'], tail := [['0']], pre := none, post := none, dev := none }
  let marked (pre : MarkText preLabels) : VersionText := { one with pre := some pre }
  refine ⟨misplaced_of_read (T := marked wide) (U := marked beta) ?_ ?_ ?_,
    misplaced_of_read (T := marked alpha) (U := { marked alpha with post := some post }) ?_ ?_ ?_,
    misplaced_of_read (T := { marked alpha with dev := some dev }) (U := marked alpha) ?_ ?_ ?_,
    misplaced_of_read (T := marked huge) (U := marked alpha) ?_ ?_ ?_⟩
  all_goals decide

end Version

end ManifestMigration
