import ManifestMigration.Marker
import ManifestMigration.Proofs.Text.Pieces
import ManifestMigration.Proofs.Text.Search

/-! What is taken from a marker that joins comparisons with `and`, one of them of the interpreter's
    version.

    All that follows the first mention of the interpreter's version is taken, without quotes. This
    is the condition on the interpreter if its comparison is the last one, none before it mentions
    the interpreter's version, and its value has no quotes inside. Otherwise more letters are taken
    than the condition has, or fewer quotes. -/

namespace ManifestMigration.Marker

/-! ### Conjunctions -/

/-- No quote. -/
def isPlain (c : Char) : Bool := c != '\'' && c != '"'

/-- A character that names of variables are written with. -/
def isNameChar (c : Char) : Bool := c.isAlphanum || c == '_' || c == '.'

/-- The operators that are written with signs. -/
def signs : List (List Char) :=
  [['<'], ['<', '='], ['>'], ['>', '='], ['=', '='], ['!', '='], ['~', '='], ['=', '=', '=']]

/-- The operators of comparisons. -/
inductive IsOperator : List Char → Prop where
  | sign {op : List Char} (h : op ∈ signs) : IsOperator op
  | within : IsOperator ['i', 'n']
  | without {gap : List Char} (hne : gap ≠ []) (hgap : gap.all Text.isBlank = true) :
    IsOperator (['n', 'o', 't'] ++ (gap ++ ['i', 'n']))

/-- A comparison: a variable, an operator and a quoted value, with blanks between them. -/
structure Term where
  name : List Char
  before : List Char
  operator : List Char
  after : List Char
  quote : Char
  value : List Char
  hname : name ≠ [] ∧ name.all isNameChar = true := by decide
  hbefore : before.all Text.isBlank = true := by decide
  hoperator : IsOperator operator
  hafter : after.all Text.isBlank = true := by decide
  hquote : quote = '\'' ∨ quote = '"' := by decide
  hvalue : quote ∉ value := by decide

namespace Term

/-- What follows the variable. -/
def rest (t : Term) : List Char :=
  t.before ++ (t.operator ++ (t.after ++ t.quote :: (t.value ++ [t.quote])))

def text (t : Term) : List Char := t.name ++ t.rest

/-- The operator and the value without its quotes. -/
def condition (t : Term) : List Char := Text.trim (t.operator ++ (t.after ++ t.value))

end Term

/-- The word between two comparisons, with blanks around it. -/
structure Joint where
  gap : List Char
  space : List Char
  hgap : gap.all Text.isBlank = true := by decide
  hspace : space ≠ [] ∧ space.all Text.isBlank = true := by decide

def Joint.text (j : Joint) : List Char := j.gap ++ ('a' :: 'n' :: 'd' :: j.space)

/-- Comparisons joined with `and`, exactly one of them of the interpreter's version. -/
structure Conjunction where
  earlier : List (Term × Joint)
  interpreter : Term
  later : List (Joint × Term)
  hinterpreter : interpreter.name = interpreterVersion := by decide
  hearlier : ∀ e ∈ earlier, e.1.name ≠ interpreterVersion := by decide
  hlater : ∀ e ∈ later, e.2.name ≠ interpreterVersion := by decide

namespace Conjunction

def earlierText (K : Conjunction) : List Char := K.earlier.flatMap fun e => e.1.text ++ e.2.text

def laterText (K : Conjunction) : List Char := K.later.flatMap fun e => e.1.text ++ e.2.text

def text (K : Conjunction) : List Char := K.earlierText ++ (K.interpreter.text ++ K.laterText)

/-- The condition stands last, nothing before it mentions the interpreter's version, and its value
    has no quotes inside. -/
structure Alone (K : Conjunction) : Prop where
  first : ∀ e ∈ K.earlier, ¬ interpreterVersion <:+: e.1.text
  last : K.later = []
  plain : K.interpreter.value.all isPlain = true

end Conjunction

/-! ### The text of a conjunction -/

variable {s t u : List Char} {K : Conjunction}

theorem isBlank_eq_false_of_isNameChar {c : Char} (h : isNameChar c = true) :
    Text.isBlank c = false :=
  Text.isBlank_eq_false (by decide) h

namespace Term

variable (t : Term)

theorem isBlank_quote : Text.isBlank t.quote = false := by
  rcases t.hquote with h | h <;> rw [h] <;> decide

/-- A comparison starts with no blank. -/
theorem head_text (s : List Char) : ∀ c ∈ (t.text ++ s).head?, Text.isBlank c = false := by
  obtain ⟨hne, hname⟩ := t.hname
  obtain ⟨d, ds, hd⟩ := List.exists_cons_of_ne_nil hne
  intro c hc
  rw [text, hd, List.cons_append, List.cons_append, List.head?_cons, Option.mem_some_iff] at hc
  rw [← hc]
  exact isBlank_eq_false_of_isNameChar (List.all_eq_true.mp hname d (hd ▸ List.mem_cons_self ..))

/-- A comparison ends with a quote. -/
theorem exists_text : ∃ body, t.text = body ++ [t.quote] :=
  ⟨t.name ++ (t.before ++ (t.operator ++ (t.after ++ t.quote :: t.value))), by simp [text, rest]⟩

end Term

theorem Joint.exists_text (j : Joint) :
    ∃ body c, j.text = body ++ [c] ∧ Text.isBlank c = true := by
  obtain ⟨hne, hspace⟩ := j.hspace
  refine ⟨j.gap ++ ('a' :: 'n' :: 'd' :: j.space.dropLast), j.space.getLast hne, ?_,
    List.all_eq_true.mp hspace _ (List.getLast_mem hne)⟩
  rw [text, List.append_assoc, List.cons_append, List.cons_append, List.cons_append,
    List.dropLast_concat_getLast]

namespace Conjunction

theorem trim_text (K : Conjunction) : Text.trim K.text = K.text := by
  apply Text.trim_eq_self
  · cases hearlier : K.earlier with
    | nil =>
      rw [text, earlierText, hearlier]
      exact K.interpreter.head_text _
    | cons e es =>
      rw [text, earlierText, hearlier, List.flatMap_cons, List.append_assoc, List.append_assoc]
      exact e.1.head_text _
  · have hend : ∃ body t, K.text = body ++ [Term.quote t] := by
      rcases List.eq_nil_or_concat' K.later with hlater | ⟨es, e, hlater⟩
      · obtain ⟨body, hbody⟩ := K.interpreter.exists_text
        exact ⟨K.earlierText ++ body, K.interpreter, by simp [text, laterText, hlater, hbody]⟩
      · obtain ⟨body, hbody⟩ := e.2.exists_text
        exact ⟨K.earlierText ++ (K.interpreter.text ++
          ((es.flatMap fun e => e.1.text ++ e.2.text) ++ (e.1.text ++ body))), e.2,
          by simp [text, laterText, hlater, hbody]⟩
    obtain ⟨body, t, hbody⟩ := hend
    rw [hbody, List.getLast?_concat]
    rintro c hc
    obtain rfl := Option.some.inj hc
    exact t.isBlank_quote

end Conjunction

/-! ### Where the interpreter's version is mentioned -/

theorem not_infix_nil : ¬ interpreterVersion <:+: [] := by decide

/-- Characters that are not in the name do not hide it. -/
theorem infix_append_iff (hs : ∀ c ∈ s, c ∉ interpreterVersion) :
    interpreterVersion <:+: s ++ t ↔ interpreterVersion <:+: t := by
  induction s with
  | nil => rfl
  | cons c s ih =>
    obtain ⟨hc, hs⟩ := List.forall_mem_cons.mp hs
    have hcut := Text.infix_append_cons_iff (u := []) (v := s ++ t) hc
    rw [List.nil_append] at hcut
    rw [List.cons_append, hcut, ih hs, or_iff_right not_infix_nil]

theorem not_mem_of_isBlank {c : Char} (hc : Text.isBlank c = true) : c ∉ interpreterVersion := by
  have hnone : interpreterVersion.any Text.isBlank = false := by decide
  intro hmem
  exact List.any_eq_false.mp hnone c hmem hc

theorem Joint.infix_iff (j : Joint) (t : List Char) :
    interpreterVersion <:+: j.text ++ t ↔ interpreterVersion <:+: t := by
  have htext : j.text ++ t = j.gap ++ ([] ++ 'a' :: (['n'] ++ 'd' :: (j.space ++ t))) := by
    simp [text]
  have hshort : ¬ interpreterVersion <:+: ['n'] := by decide
  rw [htext, infix_append_iff fun c hc => not_mem_of_isBlank (List.all_eq_true.mp j.hgap c hc),
    Text.infix_append_cons_iff (by decide), Text.infix_append_cons_iff (by decide),
    infix_append_iff fun c hc => not_mem_of_isBlank (List.all_eq_true.mp j.hspace.2 c hc),
    or_iff_right not_infix_nil, or_iff_right hshort]

/-- Comparisons that are joined mention the interpreter's version only if one of them does. -/
theorem infix_terms_iff : ∀ {es : List (Term × Joint)},
    interpreterVersion <:+: es.flatMap (fun e => e.1.text ++ e.2.text) ↔
      ∃ e ∈ es, interpreterVersion <:+: e.1.text
  | [] => by
    rw [List.flatMap_nil]
    refine iff_of_false not_infix_nil ?_
    simp
  | e :: es => by
    obtain ⟨body, hbody⟩ := e.1.exists_text
    have hquote : e.1.quote ∉ interpreterVersion := by
      rcases e.1.hquote with h | h <;> rw [h] <;> decide
    have hterm : interpreterVersion <:+: e.1.text ↔ interpreterVersion <:+: body := by
      rw [hbody, Text.infix_append_cons_iff hquote, or_iff_left not_infix_nil]
    have htext : (e :: es).flatMap (fun e => e.1.text ++ e.2.text) =
        body ++ e.1.quote :: (e.2.text ++ es.flatMap fun e => e.1.text ++ e.2.text) := by
      simp [hbody]
    rw [htext, Text.infix_append_cons_iff hquote, e.2.infix_iff, infix_terms_iff, ← hterm]
    simp

/-! ### What is taken from a marker -/

/-- A character that stays when quotes and blanks are taken away. -/
def isSolid (c : Char) : Bool := isPlain c && !Text.isBlank c

/-- A text without quotes, trimmed. -/
def unquote (s : List Char) : List Char := Text.trim (s.filter isPlain)

theorem isPlain_of_isBlank {c : Char} (hc : Text.isBlank c = true) : isPlain c = true := by
  rw [isPlain, Bool.and_eq_true, bne_iff_ne, bne_iff_ne]
  constructor <;> rintro rfl <;> revert hc <;> decide

theorem filter_isPlain_of_isBlank (hs : s.all Text.isBlank = true) : s.filter isPlain = s :=
  List.filter_eq_self.mpr fun c hc => isPlain_of_isBlank (List.all_eq_true.mp hs c hc)

/-- Blanks around a text do not count, whether or not they are in quotes. -/
theorem unquote_append_append {p q : List Char} (hp : ∀ c ∈ p, Text.isBlank c = true)
    (hq : ∀ c ∈ q, Text.isBlank c = true) (s : List Char) :
    unquote (p ++ (s ++ q)) = unquote s := by
  rw [unquote, List.filter_append, List.filter_append,
    filter_isPlain_of_isBlank (List.all_eq_true.mpr hp),
    filter_isPlain_of_isBlank (List.all_eq_true.mpr hq), Text.trim_append_append hp hq, unquote]

theorem unquote_trimEnd (s : List Char) : unquote (Text.trimEnd s) = unquote s := by
  have hs : [] ++ (Text.trimEnd s ++ s.rtakeWhile Text.isBlank) = s :=
    List.rdropWhile_append_rtakeWhile
  conv_rhs => rw [← hs]
  rw [unquote_append_append (List.forall_mem_nil _) fun c hc => List.mem_rtakeWhile_imp hc]

/-- Nothing is put into a text but quotes. -/
theorem filter_quoteFrom (place : Place) (s : List Char) :
    (quoteFrom place s).filter isPlain = s.filter isPlain := by
  have hquote : isPlain '\'' = false := by decide
  induction s generalizing place with
  | nil => cases place <;> rfl
  | cons c s ih =>
    cases place with
    | outside =>
      rw [quoteFrom]
      split <;> simp only [List.filter_cons, hquote, ih, Bool.false_eq_true, if_false]
    | first =>
      rw [quoteFrom]
      split
      · simp only [List.filter_cons, ih]
      · split <;> simp only [List.filter_cons, hquote, ih, Bool.false_eq_true, if_false]
    | second =>
      rw [quoteFrom]
      split <;> simp only [List.filter_cons, hquote, ih, Bool.false_eq_true, if_false]

/-- The quotes that a marker gets are not part of what it says. -/
theorem unquote_quoteVersions (marker : String) :
    unquote (quoteVersions marker).toList = unquote marker.toList := by
  rw [unquote, quoteVersions, String.toList_ofList, filter_quoteFrom, unquote]

theorem countP_isSolid_of_isBlank (hs : s.all Text.isBlank = true) : s.countP isSolid = 0 := by
  rw [List.countP_eq_zero]
  intro c hc
  simp [isSolid, List.all_eq_true.mp hs c hc]

theorem countP_trim_isSolid (s : List Char) : (Text.trim s).countP isSolid = s.countP isSolid :=
  Text.countP_trim (fun c hc => by simp [isSolid, hc]) s

theorem countP_unquote (s : List Char) : (unquote s).countP isSolid = s.countP isSolid := by
  rw [unquote, countP_trim_isSolid, List.countP_filter]
  refine List.countP_congr fun c _ => ?_
  simp only [isSolid, Bool.and_eq_true]
  tauto

/-- All that follows the first mention is taken, unless only quotes and blanks do. -/
theorem interpreter?_of_splitOnce? {said : List Char}
    (h : Text.splitOnce? interpreterVersion s = some (u, said)) :
    interpreter? (String.ofList s) =
      if unquote said = [] then none else some (String.ofList (unquote said)) := by
  have hunquote : Text.trim (said.filter fun c => c != '\'' && c != '"') = unquote said := rfl
  rw [interpreter?, String.toList_ofList, h]
  simp only [hunquote]
  cases unquote said with
  | nil => rfl
  | cons c cs => rfl

theorem IsOperator.solid {op : List Char} (h : IsOperator op) :
    0 < op.countP isSolid ∧ op.all isPlain = true := by
  cases h with
  | sign h =>
    have hsigns : ∀ op ∈ signs, 0 < op.countP isSolid ∧ op.all isPlain = true := by decide
    exact hsigns op h
  | within => decide
  | @without gap hne hgap =>
    have hnot : 0 < ['n', 'o', 't'].countP isSolid ∧ ['n', 'o', 't'].all isPlain = true := by decide
    have hin : ['i', 'n'].all isPlain = true := by decide
    have hblank : gap.all isPlain = true :=
      List.all_eq_true.mpr fun c hc => isPlain_of_isBlank (List.all_eq_true.mp hgap c hc)
    constructor
    · rw [List.countP_append]
      omega
    · rw [List.all_append, List.all_append, hnot.2, hblank, hin]
      rfl

namespace Term

variable (t : Term)

theorem not_isPlain_quote : isPlain t.quote = false := by
  rcases t.hquote with h | h <;> rw [h] <;> decide

/-- Without quotes, what follows the variable is the condition with the quotes of its value away. -/
theorem unquote_rest :
    unquote t.rest = Text.trim (t.operator ++ (t.after ++ t.value.filter isPlain)) := by
  have hquote := t.not_isPlain_quote
  have hbefore := List.all_eq_true.mp t.hbefore
  have hoperator : t.operator.filter isPlain = t.operator :=
    List.filter_eq_self.mpr (List.all_eq_true.mp t.hoperator.solid.2)
  have hrest : t.rest.filter isPlain =
      t.before ++ (t.operator ++ (t.after ++ t.value.filter isPlain) ++ []) := by
    simp [rest, filter_isPlain_of_isBlank t.hbefore, filter_isPlain_of_isBlank t.hafter, hoperator,
      hquote]
  rw [unquote, hrest, Text.trim_append_append hbefore (List.forall_mem_nil _)]

/-- As much is written behind the variable as the condition has, but for quotes and blanks. -/
theorem countP_rest : t.rest.countP isSolid = t.condition.countP isSolid := by
  have hquote : isSolid t.quote = false := by rw [isSolid, t.not_isPlain_quote, Bool.false_and]
  rw [condition, countP_trim_isSolid, rest]
  simp [List.countP_append, countP_isSolid_of_isBlank t.hbefore, hquote]

theorem countP_condition : 0 < t.condition.countP isSolid := by
  have hoperator := t.hoperator.solid.1
  rw [condition, countP_trim_isSolid, List.countP_append]
  omega

/-- The quotes inside of a value are not kept. -/
theorem unquote_rest_eq_iff :
    unquote t.rest = t.condition ↔ t.value.all isPlain = true := by
  rw [t.unquote_rest, condition, List.all_eq_true]
  constructor
  · intro h
    have hblank : ∀ c, Text.isBlank c = true → (!isPlain c) = false := fun c hc => by
      rw [isPlain_of_isBlank hc]; rfl
    have hcount := congrArg (List.countP fun c => !isPlain c) h
    rw [Text.countP_trim hblank, Text.countP_trim hblank, List.countP_append, List.countP_append,
      List.countP_append, List.countP_append, List.countP_filter] at hcount
    have hnone : t.value.countP (fun c => !isPlain c && isPlain c) = 0 := by
      rw [List.countP_eq_zero]
      intro c _
      cases isPlain c <;> decide
    have hzero : t.value.countP (fun c => !isPlain c) = 0 := by omega
    intro c hc
    simpa using List.countP_eq_zero.mp hzero c hc
  · intro h
    rw [List.filter_eq_self.mpr h]

end Term

namespace Conjunction

/-- The name of the interpreter's version stands behind the comparisons before it. -/
theorem text_eq (K : Conjunction) : K.text =
    K.earlierText ++ (interpreterVersion ++ (K.interpreter.rest ++ K.laterText)) := by
  rw [text, Term.text, K.hinterpreter, List.append_assoc]

/-- What is taken starts behind the interpreter's variable, or it has a letter before that. -/
theorem exists_splitOnce? (K : Conjunction) : ∃ u x,
    Text.splitOnce? interpreterVersion K.text =
      some (u, x ++ (K.interpreter.rest ++ K.laterText)) ∧
    (x = [] ∧ u = K.earlierText ∨ 0 < x.countP isSolid) := by
  cases hfound : Text.splitOnce? interpreterVersion K.text with
  | none =>
    have hnone := Text.splitOnce?_eq_none_iff.mp hfound
    exact absurd ⟨K.earlierText, _, by rw [K.text_eq, List.append_assoc]⟩ hnone
  | some found =>
    obtain ⟨u, said⟩ := found
    obtain ⟨htext, hfirst⟩ := Text.of_splitOnce?_eq_some hfound
    have hle : u.length ≤ K.earlierText.length := hfirst _ _ K.text_eq
    have hsame : (u ++ interpreterVersion) ++ said =
        (K.earlierText ++ interpreterVersion) ++ (K.interpreter.rest ++ K.laterText) := by
      rw [List.append_assoc, List.append_assoc, ← htext, ← K.text_eq]
    rcases List.append_eq_append_iff.mp hsame with ⟨x, hx, rfl⟩ | ⟨x, hx, hsaid⟩
    · refine ⟨u, x, rfl, ?_⟩
      rcases List.eq_nil_or_concat' x with rfl | ⟨y, c, rfl⟩
      · rw [List.append_nil] at hx
        exact .inl ⟨rfl, (List.append_cancel_right hx).symm⟩
      · -- the last letter of the name is taken
        right
        have hlast := congrArg List.getLast? hx
        have hn : interpreterVersion.getLast? = some 'n' := by decide
        rw [← List.append_assoc, List.getLast?_concat, List.getLast?_append, hn,
          Option.some_or] at hlast
        obtain rfl := Option.some.inj hlast
        have hsolid : ['n'].countP isSolid = 1 := by decide
        rw [List.countP_append, hsolid]
        omega
    · have hnil : x = [] := by
        have hlength := congrArg List.length hx
        simp only [List.length_append] at hlength
        exact List.length_eq_zero_iff.mp (by omega)
      subst hnil
      rw [List.append_nil] at hx
      refine ⟨u, [], ?_, .inl ⟨rfl, List.append_cancel_right hx⟩⟩
      rw [hsaid]
      rfl

theorem countP_laterText (h : K.later ≠ []) : 0 < K.laterText.countP isSolid := by
  obtain ⟨e, es, hes⟩ := List.exists_cons_of_ne_nil h
  rw [laterText, hes, List.countP_pos_iff]
  exact ⟨'a', by simp [Joint.text], by decide⟩

/-- The first mention is that of the interpreter's comparison exactly if none before it has one. -/
theorem splitOnce?_text_iff (K : Conjunction) :
    Text.splitOnce? interpreterVersion K.text =
        some (K.earlierText, K.interpreter.rest ++ K.laterText) ↔
      ∀ e ∈ K.earlier, ¬ interpreterVersion <:+: e.1.text := by
  have hterms : interpreterVersion <:+: K.earlierText ↔
      ∃ e ∈ K.earlier, interpreterVersion <:+: e.1.text := infix_terms_iff
  constructor
  · intro h e he hmention
    obtain ⟨u, v, huv⟩ := hterms.mpr ⟨e, he, hmention⟩
    have hfirst := (Text.of_splitOnce?_eq_some h).2 u
      (v ++ (interpreterVersion ++ (K.interpreter.rest ++ K.laterText)))
      (by rw [K.text_eq, ← huv]; simp)
    have hlength := congrArg List.length huv
    have hname : interpreterVersion.length = 14 := by decide
    simp only [List.length_append] at hlength
    omega
  · intro hnone
    have hnone : ¬ interpreterVersion <:+: K.earlierText := by
      rw [hterms]
      rintro ⟨e, he, hmention⟩
      exact hnone e he hmention
    rw [K.text_eq]
    rcases List.eq_nil_or_concat' K.earlier with hearlier | ⟨es, e, hearlier⟩
    · rw [earlierText, hearlier]
      exact Text.splitOnce?_append _ _
    · obtain ⟨body, c, hbody, hc⟩ := e.2.exists_text
      have hend : K.earlierText =
          ((es.flatMap fun e => e.1.text ++ e.2.text) ++ (e.1.text ++ body)) ++ [c] := by
        simp [earlierText, hearlier, hbody]
      rw [hend] at hnone ⊢
      rw [List.append_assoc, List.singleton_append]
      refine Text.splitOnce?_append_cons (by decide) (not_mem_of_isBlank hc) fun hmention => ?_
      exact hnone (hmention.trans (List.prefix_append ..).isInfix)

/-- From each conjunction a condition is taken. It is the condition on the interpreter exactly if
    that stands alone. -/
theorem interpreter?_text (K : Conjunction) : ∃ said,
    interpreter? (String.ofList (Text.trim K.text)) = some said ∧
      (said = String.ofList K.interpreter.condition ↔ K.Alone) := by
  obtain ⟨u, x, hfound, hx⟩ := K.exists_splitOnce?
  have hcount : (unquote (x ++ (K.interpreter.rest ++ K.laterText))).countP isSolid =
      x.countP isSolid + (K.interpreter.condition.countP isSolid + K.laterText.countP isSolid) := by
    rw [countP_unquote, List.countP_append, List.countP_append, Term.countP_rest]
  have hcondition := K.interpreter.countP_condition
  have hne : unquote (x ++ (K.interpreter.rest ++ K.laterText)) ≠ [] := by
    intro hnil
    rw [hnil, List.countP_nil] at hcount
    omega
  rw [K.trim_text]
  refine ⟨_, by rw [interpreter?_of_splitOnce? hfound, if_neg hne], ?_⟩
  rw [String.ofList_inj]
  constructor
  · intro h
    rw [h] at hcount
    have hlast : K.later = [] := by
      by_contra hlater
      have := countP_laterText hlater
      omega
    obtain ⟨rfl, rfl⟩ : x = [] ∧ u = K.earlierText := hx.resolve_right (by omega)
    have hlater : K.laterText = [] := by rw [laterText, hlast, List.flatMap_nil]
    rw [hlater, List.nil_append, List.append_nil, Term.unquote_rest_eq_iff] at h
    exact ⟨K.splitOnce?_text_iff.mp hfound, hlast, h⟩
  · intro halone
    have hlater : K.laterText = [] := by rw [laterText, halone.last, List.flatMap_nil]
    rw [K.splitOnce?_text_iff.mpr halone.first, Option.some.injEq, Prod.mk.injEq] at hfound
    rw [← hfound.2, hlater, List.append_nil]
    exact K.interpreter.unquote_rest_eq_iff.mpr halone.plain

end Conjunction

end ManifestMigration.Marker
