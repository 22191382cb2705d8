import ManifestMigration.Manifest.Mention
import ManifestMigration.Proofs.Text.Search
import Mathlib.Data.List.DropRight
import Mathlib.Data.List.Nodup

/-! The mentions of a needle in a text are the lines around the places where it stands, each of them
    once and in their order.

    A line is numbered by the line feeds before it. Where the needle stands, it stands on one line,
    since it holds no line feed; and since it holds no carriage return either, it is still there when
    the end of the line has been taken off. -/

namespace ManifestMigration

namespace Text

variable {needle u v w s : List Char}

/-- A line without the carriage return at its end. -/
def dropReturn (line : List Char) : List Char :=
  if line.getLast? = some '\r' then line.dropLast else line

/-- The line on which a text stands between two others, from the line feed before it up to the next
    one, without its end. -/
def lineAround (u needle v : List Char) : List Char :=
  let line := u.rtakeWhile (· != '\n') ++ (needle ++ v.takeWhile (· != '\n'))
  if '\n' ∈ v then dropReturn line else line

/-! ### The lines of a text -/

theorem dropReturn_cons_cons (c d : Char) (s : List Char) :
    dropReturn (c :: d :: s) = c :: dropReturn (d :: s) := by
  rw [dropReturn, dropReturn, List.getLast?_cons_cons, List.dropLast_cons_cons]
  split <;> rfl

/-- What stands before a line feed is a line. -/
theorem lines_append_feed (s : List Char) : ∀ {w : List Char}, '\n' ∉ w →
    lines (w ++ '\n' :: s) = dropReturn w :: lines s
  | [], _ => by simp [lines, dropReturn]
  | [c], h => by
    have hc : c ≠ '\n' := fun heq => h (heq ▸ List.mem_singleton_self c)
    by_cases hreturn : c = '\r'
    · subst hreturn
      simp [lines, dropReturn]
    · simp [lines, dropReturn, hreturn]
  | c :: d :: w, h => by
    obtain ⟨hc, hw⟩ := not_or.mp (mt List.mem_cons.mpr h)
    have ih := lines_append_feed s hw
    have hd : d ≠ '\n' := fun heq => hw (heq ▸ List.mem_cons_self ..)
    rw [dropReturn_cons_cons, List.cons_append, lines, ih]
    · rintro t rfl ht
      exact hd (List.cons.inj ht).1
    · exact fun heq => hc heq.symm

/-- What no line feed follows is a line unless it is empty. -/
theorem lines_of_notMem : ∀ {w : List Char}, '\n' ∉ w → w ≠ [] → lines w = [w]
  | [c], h, _ => by
    have hc : c ≠ '\n' := fun heq => h (heq ▸ List.mem_singleton_self c)
    simp [lines]
  | c :: d :: w, h, _ => by
    obtain ⟨hc, hw⟩ := not_or.mp (mt List.mem_cons.mpr h)
    have ih := lines_of_notMem hw (List.cons_ne_nil d w)
    have hd : d ≠ '\n' := fun heq => hw (heq ▸ List.mem_cons_self ..)
    rw [lines, ih]
    · rintro t rfl ht
      exact hd (List.cons.inj ht).1
    · exact fun heq => hc heq.symm

/-- A text is taken line by line from its start. -/
theorem line_induction {motive : List Char → Prop} (last : ∀ w, '\n' ∉ w → motive w)
    (line : ∀ w s, '\n' ∉ w → motive s → motive (w ++ '\n' :: s)) (s : List Char) : motive s := by
  by_cases h : '\n' ∈ s
  · obtain ⟨w, rest, hs, hw⟩ := List.eq_append_cons_of_mem h
    rw [hs]
    exact line w rest hw (line_induction last line rest)
  · exact last s h
termination_by s.length
decreasing_by
  rw [hs, List.length_append, List.length_cons]
  omega

/-! ### The line around a place -/

theorem takeWhile_of_notMem (hu : '\n' ∉ u) : u.takeWhile (· != '\n') = u :=
  List.takeWhile_eq_self_iff.mpr fun c hc => bne_iff_ne.mpr fun heq : c = '\n' => hu (heq ▸ hc)

theorem rtakeWhile_of_notMem (hu : '\n' ∉ u) : u.rtakeWhile (· != '\n') = u :=
  List.rtakeWhile_eq_self_iff.mpr fun c hc => bne_iff_ne.mpr fun heq : c = '\n' => hu (heq ▸ hc)

theorem takeWhile_append_feed (u s : List Char) :
    (u ++ '\n' :: s).takeWhile (· != '\n') = u.takeWhile (· != '\n') := by
  rw [List.takeWhile_append]
  split
  case isTrue hlength =>
    rw [List.takeWhile_cons_of_neg (by decide), List.append_nil]
    exact ((List.takeWhile_prefix _).eq_of_length hlength).symm
  case isFalse => rfl

theorem rtakeWhile_append_feed (w u : List Char) :
    (w ++ '\n' :: u).rtakeWhile (· != '\n') = u.rtakeWhile (· != '\n') := by
  rw [List.rtakeWhile, List.reverse_append, List.reverse_cons, List.append_assoc,
    List.singleton_append, takeWhile_append_feed, List.rtakeWhile]

theorem lineAround_of_notMem (hu : '\n' ∉ u) (hv : '\n' ∉ v) :
    lineAround u needle v = u ++ (needle ++ v) := by
  simp only [lineAround, rtakeWhile_of_notMem hu, takeWhile_of_notMem hv, if_neg hv]

/-- The line around a place before the first line feed. -/
theorem lineAround_append_feed (hu : '\n' ∉ u) (hv : '\n' ∉ v) (s : List Char) :
    lineAround u needle (v ++ '\n' :: s) = dropReturn (u ++ (needle ++ v)) := by
  have hmem : '\n' ∈ v ++ '\n' :: s := List.mem_append_right _ (List.mem_cons_self ..)
  simp only [lineAround, rtakeWhile_of_notMem hu, takeWhile_append_feed, takeWhile_of_notMem hv,
    if_pos hmem]

/-- The lines before a place do not count. -/
theorem lineAround_of_append_feed (w u : List Char) :
    lineAround (w ++ '\n' :: u) needle v = lineAround u needle v := by
  rw [lineAround, lineAround, rtakeWhile_append_feed]

theorem infix_dropReturn_iff (h : '\r' ∉ needle) : needle <:+: dropReturn w ↔ needle <:+: w := by
  rw [dropReturn]
  split
  case isTrue hlast =>
    obtain ⟨line, rfl⟩ := List.getLast?_eq_some_iff.mp hlast
    rw [List.dropLast_concat, infix_append_cons_iff h]
    refine ⟨.inl, fun hinfix => hinfix.elim id fun hnil => ?_⟩
    rw [List.infix_nil.mp hnil]
    exact List.nil_infix ..
  case isFalse => rfl

/-- A needle without line feeds stands before or behind a line feed. -/
theorem append_feed_eq_append_iff (hne : needle ≠ []) (hneedle : '\n' ∉ needle) :
    w ++ '\n' :: s = u ++ (needle ++ v) ↔
      (∃ t, w = u ++ (needle ++ t) ∧ v = t ++ '\n' :: s) ∨
        ∃ t, u = w ++ '\n' :: t ∧ s = t ++ (needle ++ v) := by
  constructor
  · intro h
    rcases List.append_eq_append_iff.mp h with ⟨t, rfl, ht⟩ | ⟨t, rfl, ht⟩
    · cases t with
      | nil => exact absurd (eq_nil_of_prefix_cons ⟨v, ht.symm⟩ hneedle) hne
      | cons c t =>
        obtain ⟨rfl, rfl⟩ := List.cons.inj ht
        exact .inr ⟨t, rfl, rfl⟩
    · rcases List.append_eq_append_iff.mp ht with ⟨r, rfl, rfl⟩ | ⟨r, rfl, hr⟩
      · exact .inl ⟨r, rfl, rfl⟩
      · -- the line feed would stand in the needle
        obtain rfl := eq_nil_of_prefix_cons ⟨v, hr.symm⟩ fun hmem =>
          hneedle (List.mem_append_right _ hmem)
        exact .inl ⟨[], by simp, hr.symm⟩
  · rintro (⟨t, rfl, rfl⟩ | ⟨t, rfl, rfl⟩) <;> simp

theorem infix_iff : needle <:+: s ↔ ∃ u v, s = u ++ (needle ++ v) := by
  simp only [List.IsInfix, List.append_assoc, eq_comm]

end Text

namespace Mention

variable {needle s t u v w : List Char} {m : Mention} {n : Nat}

theorem mem_among_cons {line : List Char} {rest : List (List Char)} :
    m ∈ among needle n (line :: rest) ↔
      needle <:+: line ∧ m = ⟨n, String.ofList line⟩ ∨ m ∈ among needle (n + 1) rest := by
  rw [among, ← Text.occursIn_iff]
  split
  case isTrue h => rw [List.mem_cons, h, eq_self_iff_true, true_and]
  case isFalse h => simp [h]

/-- Lines are numbered in their order. -/
theorem pairwise_among (needle : List Char) : ∀ (n : Nat) (lines : List (List Char)),
    (∀ m ∈ among needle n lines, n ≤ m.line) ∧
      (among needle n lines).Pairwise fun a b => a.line < b.line
  | _, [] => ⟨List.forall_mem_nil _, .nil⟩
  | n, line :: rest => by
    obtain ⟨hle, hpairwise⟩ := pairwise_among needle (n + 1) rest
    have hlater : ∀ m ∈ among needle (n + 1) rest, n < m.line := hle
    refine ⟨fun m hm => ?_, ?_⟩
    · rcases mem_among_cons.mp hm with ⟨-, rfl⟩ | hm
      · exact Nat.le_refl n
      · exact Nat.le_of_lt (hlater m hm)
    · rw [among]
      split
      · exact List.pairwise_cons.mpr ⟨hlater, hpairwise⟩
      · exact hpairwise

/-- The needle is on every line that is reported. -/
theorem infix_of_mem_among : ∀ {n : Nat} {lines : List (List Char)},
    m ∈ among needle n lines → needle <:+: m.content.toList
  | _, [], h => by cases h
  | n, line :: rest, h => by
    rcases mem_among_cons.mp h with ⟨hline, rfl⟩ | h
    · rwa [String.toList_ofList]
    · exact infix_of_mem_among h

/-! ### The mention of a place -/

/-- The line around a place with its number, in a text whose first line has the number `n`. -/
def around (n : Nat) (u needle v : List Char) : Mention :=
  ⟨u.count '\n' + n, String.ofList (Text.lineAround u needle v)⟩

theorem around_of_notMem (h : '\n' ∉ u ++ (needle ++ v)) :
    around n u needle v = ⟨n, String.ofList (u ++ (needle ++ v))⟩ := by
  simp only [List.mem_append, not_or] at h
  rw [around, List.count_eq_zero.mpr h.1, Nat.zero_add, Text.lineAround_of_notMem h.1 h.2.2]

theorem around_append_feed (h : '\n' ∉ u ++ (needle ++ v)) (s : List Char) :
    around n u needle (v ++ '\n' :: s) =
      ⟨n, String.ofList (Text.dropReturn (u ++ (needle ++ v)))⟩ := by
  simp only [List.mem_append, not_or] at h
  rw [around, List.count_eq_zero.mpr h.1, Nat.zero_add, Text.lineAround_append_feed h.1 h.2.2]

/-- Behind the first line feed, the text goes on with the next number. -/
theorem around_of_append_feed (hw : '\n' ∉ w) (u : List Char) :
    around n (w ++ '\n' :: u) needle v = around (n + 1) u needle v := by
  rw [around, around, Text.lineAround_of_append_feed, List.count_append, List.count_eq_zero.mpr hw,
    List.count_cons_self, Nat.zero_add, Nat.add_right_comm, Nat.add_assoc]

/-- The lines that are reported are those around the places where the needle stands. -/
theorem mem_among_iff (hne : needle ≠ []) (hfeed : '\n' ∉ needle) (hreturn : '\r' ∉ needle)
    (s : List Char) : ∀ n, m ∈ among needle n (Text.lines s) ↔
      ∃ u v, s = u ++ (needle ++ v) ∧ m = around n u needle v := by
  induction s using Text.line_induction with
  | last w hw =>
    intro n
    have hlast : m ∈ among needle n (Text.lines w) ↔
        needle <:+: w ∧ m = ⟨n, String.ofList w⟩ := by
      by_cases hnil : w = []
      · subst hnil
        simp [Text.lines, among, hne]
      · rw [Text.lines_of_notMem hw hnil, mem_among_cons]
        simp [among]
    rw [hlast, Text.infix_iff]
    constructor
    · rintro ⟨⟨u, v, rfl⟩, rfl⟩
      exact ⟨u, v, rfl, (around_of_notMem hw).symm⟩
    · rintro ⟨u, v, rfl, rfl⟩
      exact ⟨⟨u, v, rfl⟩, around_of_notMem hw⟩
  | line w s hw ih =>
    intro n
    rw [Text.lines_append_feed s hw, mem_among_cons, ih, Text.infix_dropReturn_iff hreturn,
      Text.infix_iff]
    constructor
    · rintro (⟨⟨u, t, rfl⟩, rfl⟩ | ⟨t, v, rfl, rfl⟩)
      · exact ⟨u, t ++ '\n' :: s, by simp, (around_append_feed hw s).symm⟩
      · exact ⟨w ++ '\n' :: t, v, by simp, (around_of_append_feed hw t).symm⟩
    · rintro ⟨u, v, huv, rfl⟩
      rcases (Text.append_feed_eq_append_iff hne hfeed).mp huv with ⟨t, rfl, rfl⟩ | ⟨t, rfl, rfl⟩
      · exact .inl ⟨⟨u, t, rfl⟩, around_append_feed hw s⟩
      · exact .inr ⟨t, v, rfl, around_of_append_feed hw t⟩

/-- Lines are reported in their order, with one line for every place where the needle stands, and
    none besides. -/
theorem find_complete (content needle : String) (hne : needle ≠ "") (hfeed : '\n' ∉ needle.toList)
    (hreturn : '\r' ∉ needle.toList) :
    ((find needle content).map Mention.line).Pairwise (· < ·) ∧
      (∀ u v, content.toList = u ++ (needle.toList ++ v) →
        (∃! m, m ∈ find needle content ∧ m.line = u.count '\n' + 1) ∧
          ⟨u.count '\n' + 1, String.ofList (Text.lineAround u needle.toList v)⟩ ∈
            find needle content) ∧
      ∀ m ∈ find needle content, needle.toList <:+: m.content.toList ∧
        ∃ u v, content.toList = u ++ (needle.toList ++ v) ∧ m.line = u.count '\n' + 1 := by
  have hmem : ∀ m, m ∈ find needle content ↔
      ∃ u v, content.toList = u ++ (needle.toList ++ v) ∧ m = around 1 u needle.toList v :=
    fun m => mem_among_iff (mt String.toList_eq_nil_iff.mp hne) hfeed hreturn content.toList 1
  obtain ⟨-, hpairwise⟩ := pairwise_among needle.toList 1 (Text.lines content.toList)
  have hlines : ((find needle content).map Mention.line).Pairwise (· < ·) :=
    List.pairwise_map.mpr hpairwise
  have hnodup : ((find needle content).map Mention.line).Nodup := hlines.imp Nat.ne_of_lt
  refine ⟨hlines, fun u v huv => ?_, fun m hm => ?_⟩
  · have hfound : around 1 u needle.toList v ∈ find needle content := (hmem _).mpr ⟨u, v, huv, rfl⟩
    refine ⟨⟨_, ⟨hfound, rfl⟩, ?_⟩, hfound⟩
    rintro m ⟨hm, hline⟩
    exact List.inj_on_of_nodup_map hnodup hm hfound hline
  · obtain ⟨u, v, huv, rfl⟩ := (hmem m).mp hm
    exact ⟨infix_of_mem_among hm, u, v, huv, rfl⟩

theorem find_complete_of_terminators :
    let content := "a\r\npoetry = poetry\r\r\n\n# poetry\r"
    "poetry" ≠ "" ∧ '\n' ∉ "poetry".toList ∧ '\r' ∉ "poetry".toList ∧
      (find "poetry" content).map Mention.line = [2, 4] ∧
      (∃! m, m ∈ find "poetry" content ∧ m.line = 2) ∧
      ⟨2, "poetry = poetry\r"⟩ ∈ find "poetry" content ∧
      ⟨4, "# poetry\r"⟩ ∈ find "poetry" content := by
  intro content
  have hne : "poetry" ≠ "" := by decide
  have hfeed : '\n' ∉ "poetry".toList := by decide
  have hreturn : '\r' ∉ "poetry".toList := by decide
  obtain ⟨-, hplace, -⟩ := find_complete content "poetry" hne hfeed hreturn
  refine ⟨hne, hfeed, hreturn, by decide, ?_, ?_, ?_⟩
  · exact (hplace "a\r\npoetry = ".toList "\r\r\n\n# poetry\r".toList (by decide)).1
  · exact (hplace "a\r\n".toList " = poetry\r\r\n\n# poetry\r".toList (by decide)).2
  · exact (hplace "a\r\npoetry = poetry\r\r\n\n# ".toList "\r".toList (by decide)).2

end Mention

end ManifestMigration
