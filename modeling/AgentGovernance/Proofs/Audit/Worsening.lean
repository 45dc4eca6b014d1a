-- SUMMARY: A worse audit never gets a better verdict.
import AgentGovernance.Proofs.Audit.CompoundRule
import AgentGovernance.Proofs.Audit.Verdict
import Mathlib.Data.List.Forall2

/-!
# Worse audits

An audit gets worse when validators return more findings or more severe ones. A finding that was high
and is critical now is no longer counted as high, and neither is a rule that used to fire at high. But
then something is critical, and the audit fails anyway. Main statement: if the same validators answer
and what they return gets worse, the verdict does not get better, as long as no rule asks for one
resource.
-/

namespace AgentGovernance

/-! ## Worse findings -/

namespace Severity

/-- Nothing is worse than critical. -/
theorem eq_critical_of_le {s : Severity} (h : .critical ≤ s) : s = .critical := by
  cases s <;> first | rfl | cases (by decide : ¬ Severity.critical ≤ _) h

/-- What is at least high is high or critical. -/
theorem eq_or_of_high_le {s : Severity} (h : .high ≤ s) : s = .high ∨ s = .critical := by
  revert h
  cases s <;> decide

end Severity

namespace Finding

/-- The second finding is the first one with a severity that is the same or worse. -/
def RaisedTo (f g : Finding) : Prop :=
  f.severity ≤ g.severity ∧ { f with severity := g.severity } = g

/-- The first findings with some severities raised, and any further findings between them. -/
def Worsened (fs gs : List Finding) : Prop := List.SublistForall₂ RaisedTo fs gs

variable {f : Finding} {fs gs fs' gs' : List Finding}

theorem Worsened.exists_raised (h : Worsened fs gs) (hf : f ∈ fs) : ∃ g ∈ gs, f.RaisedTo g := by
  induction h with
  | nil => cases hf
  | cons hraised _ ih =>
    rcases List.mem_cons.1 hf with rfl | hlater
    · exact ⟨_, List.mem_cons_self, hraised⟩
    · obtain ⟨g, hg, hfg⟩ := ih hlater
      exact ⟨g, List.mem_cons_of_mem _ hg, hfg⟩
  | cons_right _ ih =>
    obtain ⟨g, hg, hfg⟩ := ih hf
    exact ⟨g, List.mem_cons_of_mem _ hg, hfg⟩

theorem Worsened.append (h : Worsened fs gs) (h' : Worsened fs' gs') :
    Worsened (fs ++ fs') (gs ++ gs') := by
  induction h with
  | @nil gs =>
    induction gs with
    | nil => exact h'
    | cons _ _ ih => exact .cons_right ih
  | cons hraised _ ih => exact .cons hraised ih
  | cons_right _ ih => exact .cons_right ih

/-- As long as nothing is critical, no high finding is lost. -/
theorem Worsened.countOf_high_le (h : Worsened fs gs) (hgs : ∀ g ∈ gs, g.severity ≠ .critical) :
    SeverityCounts.countOf .high fs ≤ SeverityCounts.countOf .high gs := by
  unfold SeverityCounts.countOf
  induction h with
  | nil => simp
  | @cons f g fs gs hraised _ ih =>
    obtain ⟨hg, hrest⟩ := List.forall_mem_cons.1 hgs
    have hhigh : f.severity = .high → g.severity = .high := fun hf =>
      (Severity.eq_or_of_high_le (hf ▸ hraised.1)).resolve_right hg
    have hle := ih hrest
    rw [List.countP_cons, List.countP_cons]
    split <;> split <;> simp_all
    omega
  | @cons_right g fs gs _ ih =>
    have hle := ih (List.forall_mem_cons.1 hgs).2
    rw [List.countP_cons]
    omega

end Finding

/-! ## Rules -/

namespace CompoundRule

variable {r : CompoundRule} {fs gs : List Finding}

/-- For every reported finding there is one of the same validator that is as severe. -/
def Covered (fs gs : List Finding) : Prop :=
  ∀ f ∈ fs, f.kind = .reported →
    ∃ g ∈ gs, g.kind = .reported ∧ g.validatorId = f.validatorId ∧ f.severity ≤ g.severity

/-- A finding that counts is covered by one that counts for the same validator. -/
theorem Covered.qualifies (h : Covered fs gs) {f : Finding} {v : String} (hf : f ∈ fs)
    (hq : r.qualifies f v = true) :
    ∃ g ∈ gs, r.qualifies g v = true ∧ f.severity ≤ g.severity := by
  obtain ⟨hkind, hid, hmin⟩ := qualifies_iff.1 hq
  obtain ⟨g, hg, hgkind, hgid, hle⟩ := h f hf hkind
  exact ⟨g, hg, qualifies_iff.2 ⟨hgkind, hgid.trans hid, Severity.le_trans hmin hle⟩, hle⟩

theorem Covered.everyValidatorHas (h : Covered fs gs) (hall : r.everyValidatorHas fs = true) :
    r.everyValidatorHas gs = true := by
  unfold CompoundRule.everyValidatorHas at hall ⊢
  simp only [List.all_eq_true, List.any_eq_true] at hall ⊢
  intro v hv
  obtain ⟨f, hf, hq⟩ := hall v hv
  obtain ⟨g, hg, hq', -⟩ := h.qualifies hf hq
  exact ⟨g, hg, hq'⟩

/-- A rule that does not ask for one resource still fires on findings that cover those it fired on,
and is as severe. -/
theorem Covered.evaluate (h : Covered fs gs) (hany : r.condition.sameLocation = false)
    {fired : FiredRule × Finding} (hfired : r.evaluate fs = some fired) :
    ∃ fired', r.evaluate gs = some fired' ∧ fired.1.severity ≤ fired'.1.severity := by
  obtain ⟨hfault, cs, worst, hcs, hworst, rfl⟩ := evaluate_eq_some_iff.1 hfired
  simp only [contributing?, hany, Bool.false_eq_true, if_false] at hcs
  split at hcs
  case isFalse => cases hcs
  case isTrue hall =>
    obtain rfl := Option.some.inj hcs
    obtain ⟨⟨f, hf, rfl⟩, -⟩ := worst?_eq_some_iff.1 hworst
    obtain ⟨hf, hcounts⟩ := List.mem_filter.1 hf
    obtain ⟨v, hv, hq⟩ := counts_iff.1 hcounts
    obtain ⟨g, hg, hq', hle⟩ := h.qualifies hf hq
    have hmem : g ∈ gs.filter r.counts := List.mem_filter.2 ⟨hg, counts_iff.2 ⟨v, hv, hq'⟩⟩
    obtain ⟨worst', hworst'⟩ : ∃ worst', worst? (gs.filter r.counts) = some worst' := by
      cases hlist : gs.filter r.counts with
      | nil => simp [hlist] at hmem
      | cons _ _ => exact ⟨_, rfl⟩
    refine ⟨_, evaluate_eq_some_iff.2 ⟨hfault, _, worst', ?_, hworst', rfl⟩, ?_⟩
    · simp [contributing?, hany, h.everyValidatorHas hall]
    · exact Severity.max_mono _ (Severity.le_trans hle ((worst?_eq_some_iff.1 hworst').2 g hmem))

theorem firesAt_iff {s : Severity} :
    r.firesAt fs s = true ↔ ∃ fired, r.evaluate fs = some fired ∧ fired.1.severity = s := by
  unfold firesAt
  cases r.evaluate fs <;> simp

theorem Covered.firesAt_critical (h : Covered fs gs) (hany : r.condition.sameLocation = false)
    (hfires : r.firesAt fs .critical = true) : r.firesAt gs .critical = true := by
  obtain ⟨fired, hfired, hs⟩ := firesAt_iff.1 hfires
  obtain ⟨fired', hfired', hle⟩ := h.evaluate hany hfired
  exact firesAt_iff.2 ⟨fired', hfired', Severity.eq_critical_of_le (hs ▸ hle)⟩

theorem Covered.firesAt_high (h : Covered fs gs) (hany : r.condition.sameLocation = false)
    (hfires : r.firesAt fs .high = true) :
    r.firesAt gs .high = true ∨ r.firesAt gs .critical = true := by
  obtain ⟨fired, hfired, hs⟩ := firesAt_iff.1 hfires
  obtain ⟨fired', hfired', hle⟩ := h.evaluate hany hfired
  exact (Severity.eq_or_of_high_le (hs ▸ hle)).imp
    (fun hhigh => firesAt_iff.2 ⟨fired', hfired', hhigh⟩)
    (fun hcritical => firesAt_iff.2 ⟨fired', hfired', hcritical⟩)

end CompoundRule

/-! ## Verdicts -/

namespace Verdict

/-- How bad a verdict is, if the audit was answered at all. -/
def grade : Verdict → Option Nat
  | .pass => some 0
  | .concerns => some 1
  | .fail => some 2
  | .blocked => none

/-- The second verdict is the same or worse. A blocked audit compares with blocked ones only. -/
def AtMost (v w : Verdict) : Prop := Option.Rel (· ≤ ·) v.grade w.grade

end Verdict

theorem Judged.atMost {answered answered' failing failing' : Prop} {high high' : Nat}
    {v w : Verdict} (hv : Judged answered failing high v) (hw : Judged answered' failing' high' w)
    (hanswered : answered ↔ answered') (hfailing : failing → failing')
    (hhigh : ¬ failing' → high ≤ high') : v.AtMost w := by
  cases hv with
  | blocked hnot =>
    cases hw with
    | blocked => exact .none
    | fail h | concerns h | pass h => exact absurd (hanswered.2 h) hnot
  | fail h hfail =>
    cases hw with
    | blocked hnot => exact absurd (hanswered.1 h) hnot
    | fail => exact .some (Nat.le_refl 2)
    | concerns _ hnot | pass _ hnot => exact absurd (hfailing hfail) hnot
  | concerns h _ hpos =>
    cases hw with
    | blocked hnot => exact absurd (hanswered.1 h) hnot
    | fail => exact .some (by decide)
    | concerns => exact .some (Nat.le_refl 1)
    | pass _ hnot hzero =>
      have hle := hhigh hnot
      omega
  | pass h =>
    cases hw with
    | blocked hnot => exact absurd (hanswered.1 h) hnot
    | fail | concerns | pass => exact .some (Nat.zero_le _)

/-! ## Runs -/

namespace Orchestrator

open SeverityCounts (countOf)

/-- Of two runs of a validator both failed, or both completed and the second returned something
worse. -/
def WorseRun (run run' : String × RunOutcome) : Prop :=
  run.1 = run'.1 ∧ Option.Rel Finding.Worsened (answer? run.2) (answer? run'.2)

variable {limit : Nat} {runs runs' : List (String × RunOutcome)}

theorem answered_iff_of_worse (h : List.Forall₂ WorseRun runs runs') :
    (∃ run ∈ runs, (answer? run.2).isSome = true) ↔
      ∃ run ∈ runs', (answer? run.2).isSome = true := by
  induction h with
  | nil => rfl
  | @cons run run' _ _ hrun _ ih =>
    have hsome : (answer? run.2).isSome = (answer? run'.2).isSome := by
      obtain ⟨-, hrel⟩ := hrun
      generalize answer? run.2 = answer at hrel
      generalize answer? run'.2 = answer' at hrel
      cases hrel <;> rfl
    simp only [List.exists_mem_cons_iff, hsome, ih]

theorem worsened_returned (h : List.Forall₂ WorseRun runs runs') :
    Finding.Worsened (returned runs) (returned runs') := by
  unfold returned
  induction h with
  | nil => exact .nil
  | @cons run run' _ _ hrun _ ih =>
    rw [List.flatMap_cons, List.flatMap_cons]
    refine Finding.Worsened.append ?_ ih
    obtain ⟨-, hrel⟩ := hrun
    generalize answer? run.2 = answer at hrel
    generalize answer? run'.2 = answer' at hrel
    cases hrel with
    | none => exact .nil
    | some hworse => exact hworse

/-- What is reported by one run of a validator is covered by a worse run. -/
theorem covered_findingsOf {id : String} {outcome outcome' : RunOutcome}
    (h : Option.Rel Finding.Worsened (answer? outcome) (answer? outcome')) :
    CompoundRule.Covered (findingsOf id (dispatchOf limit outcome))
      (findingsOf id (dispatchOf limit outcome')) := by
  intro f hf hkind
  match outcome with
  | .ok (.inTime fs) =>
    obtain ⟨f, hreturned, rfl⟩ := List.mem_map.1 hf
    match outcome' with
    | .ok (.inTime gs) =>
      cases h with
      | some hworse =>
        obtain ⟨g, hg, hraised⟩ := hworse.exists_raised hreturned
        exact ⟨relabel id g, List.mem_map_of_mem hg, rfl, rfl, hraised.1⟩
    | .ok .late | .ok (.aborted _) | .error _ => cases h
  -- A run that failed leaves a remark, and that is not reported by anyone.
  | .ok .late | .ok (.aborted _) | .error _ =>
    rw [List.mem_singleton.1 hf] at hkind
    cases hkind

theorem covered_collected (h : List.Forall₂ WorseRun runs runs') :
    CompoundRule.Covered (collected limit runs) (collected limit runs') := by
  induction h with
  | nil => exact nofun
  | @cons run run' runs runs' hrun _ ih =>
    have hcons (run : String × RunOutcome) (runs : List (String × RunOutcome)) :
        collected limit (run :: runs) =
          findingsOf run.1 (dispatchOf limit run.2) ++ collected limit runs := rfl
    intro f hf hkind
    simp only [hcons, List.mem_append] at hf ⊢
    rcases hf with hfirst | hlater
    · rw [← hrun.1]
      obtain ⟨g, hg, hcovers⟩ := covered_findingsOf hrun.2 f hfirst hkind
      exact ⟨g, .inl hg, hcovers⟩
    · obtain ⟨g, hg, hcovers⟩ := ih f hlater hkind
      exact ⟨g, .inr hg, hcovers⟩

variable {σ : Type} (o : Orchestrator σ)

/-- Unless the second audit fails, it has as many high findings and rules as the first. -/
theorem highCount_le_of_worse (hany : ∀ r ∈ o.rules, r.condition.sameLocation = false)
    (h : List.Forall₂ WorseRun runs runs') (hpasses : ¬ o.Failing runs') :
    o.highCount runs ≤ o.highCount runs' := by
  obtain ⟨hreturned, hrest⟩ := not_or.1 hpasses
  obtain ⟨hrules, -⟩ := not_or.1 hrest
  refine Nat.add_le_add ?_ ?_
  · refine (worsened_returned h).countOf_high_le ?_
    intro g hg hcritical
    exact hreturned ⟨g, hg, hcritical⟩
  · refine List.countP_mono_left ?_
    intro r hr hfires
    refine ((covered_collected h).firesAt_high (hany r hr) hfires).resolve_right ?_
    intro hcritical
    exact hrules ⟨r, hr, hcritical⟩

theorem failing_of_worse (hany : ∀ r ∈ o.rules, r.condition.sameLocation = false)
    (h : List.Forall₂ WorseRun runs runs') (hfailing : o.Failing runs) : o.Failing runs' := by
  rcases hfailing with ⟨f, hf, hcritical⟩ | ⟨r, hr, hfires⟩ | hmany
  · obtain ⟨g, hg, hraised⟩ := (worsened_returned h).exists_raised hf
    exact .inl ⟨g, hg, Severity.eq_critical_of_le (hcritical ▸ hraised.1)⟩
  · exact .inr (.inl ⟨r, hr, (covered_collected h).firesAt_critical (hany r hr) hfires⟩)
  · by_contra hpasses
    have hle := o.highCount_le_of_worse hany h hpasses
    exact hpasses (.inr (.inr (Nat.lt_of_lt_of_le hmany hle)))

/-- If no rule asks for one resource, and in two authorized runs the same validators complete and
return in the second what they returned in the first, with some severities raised and any further
findings between, then the second verdict is the same or worse. -/
theorem worse_audit_no_better_verdict (hany : ∀ r ∈ o.rules, r.condition.sameLocation = false)
    (vs : List (Validator σ)) (scope scope' : AuditScope) (stamp stamp' : RunStamp)
    (now now' : Instant) {j j' : Journal σ} {who who' : Option String} {w w' : σ}
    (hauth : Act.Ends o.authorize j (.ok (.ok who)) w)
    (hauth' : Act.Ends o.authorize j' (.ok (.ok who')) w') :
    ∃ runs runs' k k' l l' report report', k.world = w ∧ k'.world = w' ∧
      Ran scope o.validatorTimeout o.validators k runs l ∧
      Ran scope' o.validatorTimeout vs k' runs' l' ∧
      Act.Ends (o.run scope stamp now) j (.ok report) l.world ∧
      Act.Ends ({ o with validators := vs }.run scope' stamp' now') j' (.ok report') l'.world ∧
      (List.Forall₂ WorseRun runs runs' → report.verdict.AtMost report'.verdict) := by
  obtain ⟨runs, k, l, hk, hran, hrun⟩ := o.ends_run hauth scope stamp now
  obtain ⟨runs', k', l', hk', hran', hrun'⟩ :=
    { o with validators := vs }.ends_run hauth' scope' stamp' now'
  refine ⟨runs, runs', k, k', l, l', _, _, hk, hk', hran, hran', hrun, hrun', ?_⟩
  intro hworse
  have hjudged := o.judged_assemble hran.length scope who stamp now
  have hjudged' :=
    { o with validators := vs }.judged_assemble hran'.length scope' who' stamp' now'
  exact hjudged.atMost hjudged' (answered_iff_of_worse hworse) (o.failing_of_worse hany hworse)
    (o.highCount_le_of_worse hany hworse)

/-- Two findings at high raise concerns. With one of them raised to critical and a rule that fires
now, the audit fails, though fewer findings are high. -/
theorem worse_audit_no_better_verdict_raised :
    let returns (fs : List Finding) : AuditScope → Nat → Act Unit (Timed (List Finding)) :=
      fun _ _ => pure (.inTime fs)
    let f : Finding :=
      { validatorId := "", severity := .high, location := { resource := "main" }
        description := "key in the source" }
    let g : Finding := { f with location := { resource := "test" } }
    let o : Orchestrator Unit :=
      { validators := [⟨"lint", returns []⟩, ⟨"secrets", returns [f, g]⟩]
        rules := [.new "both" ["secrets", "lint"] .medium "seen twice"] }
    let vs : List (Validator Unit) :=
      [⟨"lint", returns [g]⟩, ⟨"secrets", returns [{ f with severity := .critical }, f, g]⟩]
    (∀ r ∈ o.rules, r.condition.sameLocation = false) ∧
    ∃ report report' w w',
      Act.Ends (o.run { root := ⟨"/"⟩ } ⟨1, 1⟩ ⟨0, 0⟩) { world := () } (.ok report) w ∧
      Act.Ends ({ o with validators := vs }.run { root := ⟨"/"⟩ } ⟨1, 2⟩ ⟨0, 0⟩) { world := () }
        (.ok report') w' ∧
      report.verdict.AtMost report'.verdict := by
  intro returns f g o vs
  have hany : ∀ r ∈ o.rules, r.condition.sameLocation = false := by decide
  obtain ⟨runs, runs', k, k', l, l', report, report', -, -, hran, hran', hrun, hrun', hworse⟩ :=
    o.worse_audit_no_better_verdict hany vs { root := ⟨"/"⟩ } { root := ⟨"/"⟩ } ⟨1, 1⟩ ⟨1, 2⟩
      ⟨0, 0⟩ ⟨0, 0⟩ (j := { world := () }) (Act.ends_pure _) (Act.ends_pure _ (j := { world := () }))
  refine ⟨hany, report, report', _, _, hrun, hrun', hworse ?_⟩
  change Ran _ _ [_, _] _ _ _ at hran'
  obtain _ | ⟨⟨⟩, _ | ⟨⟨⟩, ⟨⟩⟩⟩ := hran
  obtain _ | ⟨⟨⟩, _ | ⟨⟨⟩, ⟨⟩⟩⟩ := hran'
  have hself (f : Finding) : f.RaisedTo f := ⟨Nat.le_refl _, rfl⟩
  refine .cons ⟨rfl, .some .nil⟩ (.cons ⟨rfl, .some ?_⟩ .nil)
  exact .cons ⟨by decide, rfl⟩ (.cons_right (.cons (hself g) .nil))

end Orchestrator

end AgentGovernance
