import ManifestMigration.Constraint.Reader
import ManifestMigration.Proofs.Constraint.Operations
import ManifestMigration.Proofs.Sequence
import ManifestMigration.Proofs.Version.Successor

/-! Where the bounds of a constraint come from.

    The operations make no versions: every bound of a union, an intersection or a complement is a
    bound of an operand. So a property of the bounds that were read is one of all bounds, and the
    bounds that were read are legible, those that a clause names as well as the ends of series. -/

namespace ManifestMigration

variable {P : Version → Prop}

/-- Every bound of the range has the property. -/
structure VersionRange.Bounded (P : Version → Prop) (r : VersionRange) : Prop where
  lower : ∀ v ∈ r.lower, P v
  upper : ∀ v ∈ r.upper, P v

namespace Constraint

/-- Every bound of the constraint has the property. -/
def Bounded (P : Version → Prop) (c : Constraint) : Prop := ∀ r ∈ c.ranges, r.Bounded P

/-! ### Bounds under the operations -/

theorem bounded_stretch {r s : VersionRange} (hr : r.Bounded P) (hs : s.Bounded P) :
    (stretch r s).Bounded P := by
  rw [stretch]
  split
  · exact ⟨hr.lower, hs.upper⟩
  · exact hr

theorem bounded_ofRanges {rs : List VersionRange} (h : ∀ r ∈ rs, r.Bounded P) :
    (ofRanges rs).Bounded P :=
  fun _ ht => ofRanges_keeps (fun _ _ => bounded_stretch) h ht

theorem bounded_ofRange {r : VersionRange} (h : r.Bounded P) : (ofRange r).Bounded P :=
  bounded_ofRanges (List.forall_mem_singleton.mpr h)

variable {c d : Constraint}

theorem bounded_union (hc : c.Bounded P) (hd : d.Bounded P) : (c.union d).Bounded P :=
  bounded_ofRanges (List.forall_mem_append.mpr ⟨hc, hd⟩)

theorem mem_lower_of_mem_higherLower {r s : VersionRange} {v : Version}
    (h : v ∈ (r.higherLower s).1) : v ∈ r.lower ∨ v ∈ s.lower := by
  rw [VersionRange.higherLower] at h
  split at h
  · cases h
  · exact .inl (by simp_all)
  · exact .inr (by simp_all)
  · split at h <;> simp_all

theorem mem_upper_of_mem_lowerUpper {r s : VersionRange} {v : Version}
    (h : v ∈ (r.lowerUpper s).1) : v ∈ r.upper ∨ v ∈ s.upper := by
  rw [VersionRange.lowerUpper] at h
  split at h
  · cases h
  · exact .inl (by simp_all)
  · exact .inr (by simp_all)
  · split at h <;> simp_all

theorem bounded_inter? {r s t : VersionRange} (hr : r.Bounded P) (hs : s.Bounded P)
    (h : r.inter? s = some t) : t.Bounded P := by
  simp only [VersionRange.inter?] at h
  split at h
  · cases h
  · cases h
    exact ⟨fun v hv => (mem_lower_of_mem_higherLower hv).elim (hr.lower v) (hs.lower v),
      fun v hv => (mem_upper_of_mem_lowerUpper hv).elim (hr.upper v) (hs.upper v)⟩

theorem bounded_inter (hc : c.Bounded P) (hd : d.Bounded P) : (c.inter d).Bounded P := by
  refine bounded_ofRanges fun t ht => ?_
  obtain ⟨r, hr, ht⟩ := List.mem_flatMap.mp ht
  obtain ⟨s, hs, ht⟩ := List.mem_filterMap.mp ht
  exact bounded_inter? (hc r hr) (hd s hs) ht

theorem bounded_gapBefore {start : GapStart} {r t : VersionRange} (hstart : ∀ g ∈ start, P g.1)
    (hr : r.Bounded P) (ht : t ∈ gapBefore start r) : t.Bounded P := by
  rw [gapBefore] at ht
  split at ht
  case h_1 low hlow =>
    rw [List.mem_singleton.mp ht]
    refine ⟨fun v hv => ?_, fun v hv => hr.lower v (hlow ▸ hv)⟩
    obtain ⟨g, hg, rfl⟩ := Option.mem_map.mp hv
    exact hstart g hg
  case h_2 => cases ht

theorem bounded_gapsFrom {t : VersionRange} : ∀ {start : GapStart} {rs : List VersionRange},
    (∀ g ∈ start, P g.1) → (∀ r ∈ rs, r.Bounded P) → t ∈ gapsFrom start rs → t.Bounded P
  | start, [], hstart, _, ht => by
    rw [List.mem_singleton.mp ht]
    refine ⟨fun v hv => ?_, fun v hv => by cases hv⟩
    obtain ⟨g, hg, rfl⟩ := Option.mem_map.mp hv
    exact hstart g hg
  | start, r :: rest, hstart, h, ht => by
    obtain ⟨hr, hrest⟩ := List.forall_mem_cons.mp h
    rw [gapsFrom] at ht
    split at ht
    case h_1 high hhigh =>
      rcases List.mem_append.mp ht with ht | ht
      · exact bounded_gapBefore hstart hr ht
      · refine bounded_gapsFrom (fun g hg => ?_) hrest ht
        cases hg
        exact hr.upper high hhigh
    case h_2 => exact bounded_gapBefore hstart hr ht

theorem bounded_complement (hc : c.Bounded P) : c.complement.Bounded P :=
  bounded_ofRanges fun _ ht => bounded_gapsFrom (fun _ hg => by cases hg) hc ht

theorem Combination.bounded {base : Constraint → Prop} (hbase : ∀ c, base c → c.Bounded P) :
    ∀ {c : Constraint}, Combination base c → c.Bounded P
  | _, .base hc => hbase _ hc
  | _, .union hc hd => bounded_union (hc.bounded hbase) (hd.bounded hbase)
  | _, .inter hc hd => bounded_inter (hc.bounded hbase) (hd.bounded hbase)
  | _, .complement hc => bounded_complement (hc.bounded hbase)

end Constraint

/-! ### Bounds that were read -/

/-- The versions that the clause names are legible, the numbers of a series fit. -/
def Clause.Legible : Clause → Prop
  | .anything => True
  | .compatible v | .tilde v | .caret v | .compare _ v => v.Legible
  | .series major minor? _ => major < Text.wordLimit ∧ ∀ minor ∈ minor?, minor < Text.wordLimit

namespace Constraint

theorem legible_of_readVersion {text : List Char} {v : Version} (h : readVersion text = .ok v) :
    v.Legible := by
  rw [readVersion] at h
  split at h
  case h_1 w hw =>
    rw [← Except.ok.inj h]
    exact Version.legible_of_ofText? hw
  case h_2 => cases h

theorem legible_of_readSeries {segments : List (List Char)} {excluded : Bool} {clause : Clause}
    (h : readSeries segments excluded = .ok clause) : clause.Legible := by
  rw [readSeries] at h
  split at h
  case h_1 major hmajor =>
    obtain ⟨_, _, hmajor⟩ := Option.bind_eq_some_iff.mp hmajor
    cases h
    refine ⟨(Text.of_word?_eq_some hmajor).2.2, fun minor hminor => ?_⟩
    obtain ⟨_, _, hminor⟩ := Option.bind_eq_some_iff.mp hminor
    exact (Text.of_word?_eq_some hminor).2.2
  case h_2 => cases h

/-- A clause that names the version that was read is legible. -/
theorem legible_of_map_readVersion {text : List Char} {clause : Clause} (name : Version → Clause)
    (hname : ∀ v, v.Legible → (name v).Legible) (h : name <$> readVersion text = .ok clause) :
    clause.Legible := by
  obtain ⟨v, hv, rfl⟩ := map_eq_ok.mp h
  exact hname v (legible_of_readVersion hv)

theorem legible_of_readPlain {token : List Char} {clause : Clause}
    (h : readPlain token = .ok clause) : clause.Legible := by
  simp only [readPlain] at h
  split at h
  · cases h
  · cases h
  · split at h
    · exact legible_of_readSeries h
    · exact legible_of_readSeries h
    · exact legible_of_readSeries h
    · obtain ⟨v, hv, h⟩ := bind_eq_ok.mp h
      cases h
      exact legible_of_readVersion hv

theorem legible_of_readClause {token : List Char} {clause : Clause}
    (h : readClause token = .ok clause) : clause.Legible := by
  unfold readClause at h
  split at h
  · cases h
    trivial
  · split at h
    · exact legible_of_map_readVersion .compatible (fun _ hv => hv) h
    · exact legible_of_map_readVersion .tilde (fun _ hv => hv) h
    · exact legible_of_map_readVersion .caret (fun _ hv => hv) h
    · exact legible_of_readPlain h

theorem bounded_upTo {low : Version} {high? : Option Version} {c : Constraint} (hlow : low.Legible)
    (hhigh : ∀ high ∈ high?, high.Legible) (h : Clause.upTo low high? = .ok c) :
    c.Bounded Version.Legible := by
  cases high? with
  | none => cases h
  | some high =>
    cases h
    refine bounded_ofRange ⟨fun v hv => ?_, fun v hv => ?_⟩
    · cases hv
      exact hlow
    · cases hv
      exact hhigh high rfl

theorem bounded_seriesConstraint {major : Nat} {minor? : Option Nat} {c : Constraint}
    (hmajor : major < Text.wordLimit) (hminor : ∀ minor ∈ minor?, minor < Text.wordLimit)
    (h : Clause.seriesConstraint major minor? = .ok c) : c.Bounded Version.Legible := by
  have hzero : 0 < Text.wordLimit := by decide
  cases minor? with
  | some minor =>
    have hlow : (Version.final major [minor, 0]).Fits := by
      simp [Version.Fits, Version.release, Version.final, hmajor, hminor minor rfl, hzero]
    exact bounded_upTo (Version.legible_final hlow)
      (fun _ hhigh => (Version.isRelease_of_nextMinor? hlow hhigh).legible) h
  | none =>
    rw [Clause.seriesConstraint] at h
    split at h
    · cases h
      refine bounded_ofRange ⟨fun v hv => (by cases hv), fun v hv => ?_⟩
      cases hv
      exact Version.legible_final (show ∀ n ∈ [1, 0, 0], n < Text.wordLimit by decide)
    · have hlow : (Version.final major [0, 0]).Fits := by
        simp [Version.Fits, Version.release, Version.final, hmajor, hzero]
      exact bounded_upTo (Version.legible_final hlow)
        (fun _ hhigh => (Version.isRelease_of_nextMajor? hlow hhigh).legible) h

theorem bounded_compared {v : Version} (hv : v.Legible) (op : Comparison) :
    (Clause.compared v op).Bounded Version.Legible := by
  have hnone : ∀ w ∈ (none : Option Version), w.Legible := fun _ hw => by cases hw
  have hsome : ∀ w ∈ some v, w.Legible := fun _ hw => by cases hw; exact hv
  cases op with
  | less | atMost => exact bounded_ofRange ⟨hnone, hsome⟩
  | greater | atLeast => exact bounded_ofRange ⟨hsome, hnone⟩
  | equal => exact bounded_ofRange ⟨hsome, hsome⟩
  | different => exact bounded_complement (bounded_ofRange ⟨hsome, hsome⟩)

theorem bounded_any : any.Bounded P :=
  List.forall_mem_singleton.mpr ⟨fun _ hv => (by cases hv), fun _ hv => (by cases hv)⟩

theorem bounded_constraint {clause : Clause} {c : Constraint} (hclause : clause.Legible)
    (h : clause.constraint = .ok c) : c.Bounded Version.Legible := by
  cases clause with
  | anything =>
    cases h
    exact bounded_any
  | compatible v =>
    refine bounded_upTo hclause (fun high hhigh => ?_) h
    split at hhigh
    · exact (Version.isRelease_of_nextMajor? (Version.fits_stable hclause.fits) hhigh).legible
    · exact (Version.isRelease_of_nextMinor? (Version.fits_stable hclause.fits) hhigh).legible
  | tilde v =>
    refine bounded_upTo hclause (fun high hhigh => ?_) h
    split at hhigh
    · exact (Version.isRelease_of_nextMajor? (Version.fits_stable hclause.fits) hhigh).legible
    · exact (Version.isRelease_of_nextMinor? (Version.fits_stable hclause.fits) hhigh).legible
  | caret v =>
    refine bounded_upTo hclause (fun high hhigh => ?_) h
    exact (Version.isRelease_of_nextBreaking? hclause.fits hhigh).legible
  | series major minor? excluded =>
    obtain ⟨inside, hinside, h⟩ := bind_eq_ok.mp h
    have hbounded := bounded_seriesConstraint hclause.1 hclause.2 hinside
    cases h
    cases excluded with
    | true => exact bounded_complement hbounded
    | false => exact hbounded
  | compare op v =>
    cases h
    exact bounded_compared hclause op

theorem bounded_of_restrict {soFar c : Constraint} {token : List Char}
    (hsoFar : soFar.Bounded Version.Legible) (h : restrict soFar token = .ok c) :
    c.Bounded Version.Legible := by
  obtain ⟨clause, hclause, h⟩ := bind_eq_ok.mp h
  obtain ⟨d, hd, h⟩ := bind_eq_ok.mp h
  cases h
  exact bounded_inter hsoFar (bounded_constraint (legible_of_readClause hclause) hd)

theorem bounded_of_extend {soFar c : Constraint} {alternative : List Char}
    (hsoFar : soFar.Bounded Version.Legible) (h : extend soFar alternative = .ok c) :
    c.Bounded Version.Legible := by
  obtain ⟨d, hd, h⟩ := bind_eq_ok.mp h
  cases h
  exact bounded_union hsoFar (foldlM_keeps (fun _ _ _ => bounded_of_restrict) bounded_any hd)

/-- Is read from some text. -/
def Readable (c : Constraint) : Prop := ∃ s, parse s = .ok c

/-- What holds of no version at all and of every union holds of what is read. -/
theorem Readable.keeps (Keeps : Constraint → Prop) (hempty : Keeps empty)
    (hextend : ∀ soFar alternative c, Keeps soFar → extend soFar alternative = .ok c → Keeps c) :
    ∀ {c : Constraint}, Readable c → Keeps c := by
  rintro c ⟨s, h⟩
  simp only [parse] at h
  split at h
  · cases h
  · obtain ⟨d, hd, h⟩ := bind_eq_ok.mp h
    split at h
    · cases h
    · cases h
      exact foldlM_keeps hextend hempty hd

theorem Readable.normal {c : Constraint} (h : Readable c) : Normal c.ranges := by
  refine h.keeps (fun c => Normal c.ranges) normal_empty fun _ _ _ _ h => ?_
  obtain ⟨d, _, h⟩ := bind_eq_ok.mp h
  cases h
  exact normal_ofRanges _

/-- The bounds of what was read can be written down. -/
theorem Readable.bounded {c : Constraint} (h : Readable c) : c.Bounded Version.Legible :=
  h.keeps (Bounded Version.Legible) (fun _ hr => by cases hr) fun _ _ _ => bounded_of_extend

end Constraint

end ManifestMigration
