-- SUMMARY: The verdict of a run by what its validators returned and which rules fire on it.
import AgentGovernance.Proofs.Audit.Run

/-!
# The verdict of a run

On its way into the report a finding is relabelled, a failure becomes a remark, the rules add
findings of their own, and all of it is sorted. None of this loses a finding or counts one twice.
Main statement: the verdict of an authorized run is what the findings that the validators returned
and the rules that fire on them say it is.
-/

namespace AgentGovernance

/-! ## The four verdicts -/

/-- The verdict on an audit that was answered or not, is failing or not, and has so many high
findings. -/
inductive Judged (answered failing : Prop) (high : Nat) : Verdict → Prop where
  | blocked : ¬answered → Judged answered failing high .blocked
  | fail : answered → failing → Judged answered failing high .fail
  | concerns : answered → ¬failing → 0 < high → Judged answered failing high .concerns
  | pass : answered → ¬failing → high = 0 → Judged answered failing high .pass

/-- Each verdict has a condition of its own. -/
theorem Judged.iff {answered failing : Prop} {high : Nat} {v : Verdict}
    (h : Judged answered failing high v) :
    (v = .blocked ↔ ¬answered) ∧ (v = .fail ↔ answered ∧ failing) ∧
    (v = .concerns ↔ answered ∧ ¬failing ∧ 0 < high) ∧
    (v = .pass ↔ answered ∧ ¬failing ∧ high = 0) := by
  cases h with
  | blocked hnot => simp [hnot]
  | fail hanswered hfailing => simp [hanswered, hfailing]
  | concerns hanswered hfailing hhigh => simp [hanswered, hfailing, hhigh, Nat.ne_of_gt hhigh]
  | pass hanswered hfailing hhigh => simp [hanswered, hfailing, hhigh]

theorem judged_derive (counts : SeverityCounts) {registered reachable : Nat} (threshold : Nat)
    (h : reachable ≤ registered) :
    Judged (0 < reachable) (0 < counts.critical ∨ threshold < counts.high) counts.high
      (Verdict.derive counts registered reachable threshold).1 := by
  unfold Verdict.derive
  by_cases hanswered : 0 < reachable
  · have hregistered : (registered == 0) = false := by simp; omega
    have hreachable : (reachable == 0) = false := by simp; omega
    simp only [hregistered, hreachable, Bool.false_eq_true, if_false]
    split
    · rename_i hcritical
      exact .fail hanswered (.inl hcritical)
    · rename_i hcritical
      split
      · rename_i hmany
        exact .fail hanswered (.inr hmany)
      · rename_i hfew
        split
        · rename_i hhigh
          exact .concerns hanswered (not_or.2 ⟨hcritical, hfew⟩) hhigh
        · rename_i hnone
          exact .pass hanswered (not_or.2 ⟨hcritical, hfew⟩) (by omega)
  · have hreachable : (reachable == 0) = true := by simp; omega
    simp only [hreachable, if_true]
    split <;> exact .blocked hanswered

/-! ## Counts -/

namespace SeverityCounts

variable {s : Severity}

theorem countOf_append (fs gs : List Finding) :
    countOf s (fs ++ gs) = countOf s fs + countOf s gs :=
  List.countP_append

theorem countOf_prioritize (fs : List Finding) : countOf s (Finding.prioritize fs) = countOf s fs :=
  (List.mergeSort_perm fs _).countP_eq _

theorem countOf_pos_iff {fs : List Finding} : 0 < countOf s fs ↔ ∃ f ∈ fs, f.severity = s := by
  simp [countOf, List.countP_pos_iff]

end SeverityCounts

open SeverityCounts (countOf)

namespace CompoundRule

/-- Whether the rule fires on the findings, and with this severity. -/
def firesAt (r : CompoundRule) (fs : List Finding) (s : Severity) : Bool :=
  (r.evaluate fs).any fun (record, _) => record.severity == s

/-- The finding of a rule is as severe as its record says. -/
theorem severity_of_evaluate {r : CompoundRule} {fs : List Finding} {fired : FiredRule × Finding}
    (h : r.evaluate fs = some fired) : fired.2.severity = fired.1.severity := by
  unfold evaluate at h
  split at h
  · cases h
  · simp only [Option.bind_eq_bind, Option.bind_eq_some_iff] at h
    obtain ⟨contributing, -, worst, -, hfire⟩ := h
    cases hfire
    rfl

end CompoundRule

namespace Orchestrator

theorem countOf_crossValidate (rules : List CompoundRule) (fs : List Finding) (s : Severity) :
    countOf s ((crossValidate rules fs).map (·.2)) = rules.countP (·.firesAt fs s) := by
  unfold countOf crossValidate
  rw [List.countP_map, List.countP_filterMap]
  refine List.countP_congr fun r _ => ?_
  unfold CompoundRule.firesAt
  cases h : r.evaluate fs with
  | none => simp
  | some fired => simp [CompoundRule.severity_of_evaluate h]

/-! ## What validators return -/

/-- The findings that a run of a validator returned, if it completed. -/
def answer? : RunOutcome → Option (List Finding)
  | .ok (.inTime fs) => some fs
  | _ => none

/-- How many runs completed. -/
def answers (runs : List (String × RunOutcome)) : Nat :=
  runs.countP fun run => (answer? run.2).isSome

/-- All findings that were returned, as they were returned. -/
def returned (runs : List (String × RunOutcome)) : List Finding :=
  runs.flatMap fun run => (answer? run.2).getD []

/-- The findings that the rules look at: what was returned, under the id of the validator, and a
remark for each run that failed. -/
def collected (limit : Nat) (runs : List (String × RunOutcome)) : List Finding :=
  (dispatches limit runs).flatMap fun (id, d) => findingsOf id d

variable {limit : Nat} {runs : List (String × RunOutcome)}

theorem answers_pos_iff : 0 < answers runs ↔ ∃ run ∈ runs, (answer? run.2).isSome = true :=
  List.countP_pos_iff

/-- What is collected from a validator that fails is a remark. -/
theorem countOf_findingsOf (id : String) (outcome : RunOutcome) {s : Severity} (hs : s ≠ .info) :
    countOf s (findingsOf id (dispatchOf limit outcome)) =
      countOf s ((answer? outcome).getD []) := by
  have hremark : ∀ reason, countOf s [.validatorFailed id reason] = 0 := by
    intro reason
    simp [countOf, Finding.validatorFailed, hs.symm]
  cases outcome with
  | error e => exact hremark _
  | ok timed =>
    cases timed with
    | inTime fs =>
      simp only [dispatchOf, findingsOf, answer?, Option.getD_some, countOf, List.countP_map]
      rfl
    | late => exact hremark _
    | aborted reason => exact hremark _

theorem countOf_collected (runs : List (String × RunOutcome)) {s : Severity} (hs : s ≠ .info) :
    countOf s (collected limit runs) = countOf s (returned runs) := by
  induction runs with
  | nil => rfl
  | cons run runs ih =>
    change countOf s (findingsOf run.1 (dispatchOf limit run.2) ++ collected limit runs) =
      countOf s ((answer? run.2).getD [] ++ returned runs)
    rw [SeverityCounts.countOf_append, SeverityCounts.countOf_append, ih, countOf_findingsOf _ _ hs]

theorem isSome_failureOf? (limit : Nat) (id : String) (outcome : RunOutcome) :
    (failureOf? id (dispatchOf limit outcome)).isSome = !(answer? outcome).isSome := by
  rcases outcome with e | fs | _ | reason <;> rfl

/-- Every validator either answers or is listed as failed. -/
theorem length_failures_add_answers (limit : Nat) (runs : List (String × RunOutcome)) :
    ((dispatches limit runs).filterMap fun (id, d) => failureOf? id d).length + answers runs =
      runs.length := by
  have hfailed : ((dispatches limit runs).filterMap fun (id, d) => failureOf? id d).length =
      runs.countP fun run => !(answer? run.2).isSome := by
    rw [List.length_filterMap_eq_countP, dispatches, List.countP_map]
    refine List.countP_congr fun run _ => ?_
    rw [Function.comp_apply, isSome_failureOf?]
  rw [hfailed, answers, Nat.add_comm,
    List.length_eq_countP_add_countP fun run => (answer? run.2).isSome]
  simp only [Bool.not_eq_true, Bool.decide_eq_false]

/-! ## The verdict of a run -/

variable {σ : Type} (o : Orchestrator σ)

/-- How many high findings were returned and how many rules fire at high. -/
def highCount (runs : List (String × RunOutcome)) : Nat :=
  countOf .high (returned runs) +
    o.rules.countP (·.firesAt (collected o.validatorTimeout runs) .high)

/-- A critical finding was returned, a rule fires at critical, or too much is high. -/
def Failing (runs : List (String × RunOutcome)) : Prop :=
  (∃ f ∈ returned runs, f.severity = .critical) ∨
  (∃ r ∈ o.rules, r.firesAt (collected o.validatorTimeout runs) .critical = true) ∨
  o.highThreshold < o.highCount runs

theorem countOf_assemble (scope : AuditScope) (who : Option String) (stamp : RunStamp)
    (now : Instant) (runs : List (String × RunOutcome)) {s : Severity} (hs : s ≠ .info) :
    countOf s (o.assemble scope who stamp now (dispatches o.validatorTimeout runs)).findings =
      countOf s (returned runs) +
        o.rules.countP (·.firesAt (collected o.validatorTimeout runs) s) := by
  have hlists : ((dispatches o.validatorTimeout runs).map fun (id, d) =>
      (id, findingsOf id d)).flatMap (·.2) = collected o.validatorTimeout runs := by
    rw [List.flatMap_map]
    rfl
  simp only [assemble, hlists]
  rw [SeverityCounts.countOf_prioritize, SeverityCounts.countOf_append, countOf_crossValidate,
    countOf_collected runs hs]

/-- The verdict of the report is derived from its own findings and the answers that there were. -/
theorem verdict_assemble (hruns : runs.length = o.validators.length) (scope : AuditScope)
    (who : Option String) (stamp : RunStamp) (now : Instant) :
    let report := o.assemble scope who stamp now (dispatches o.validatorTimeout runs)
    report.verdict = (Verdict.derive (.ofFindings report.findings) o.validators.length
      (answers runs) o.highThreshold).1 := by
  have hanswers := length_failures_add_answers o.validatorTimeout runs
  have hreachable : answers runs = o.validators.length -
      ((dispatches o.validatorTimeout runs).filterMap fun (id, d) => failureOf? id d).length := by
    omega
  rw [hreachable]
  rfl

theorem judged_assemble (hruns : runs.length = o.validators.length) (scope : AuditScope)
    (who : Option String) (stamp : RunStamp) (now : Instant) :
    Judged (∃ run ∈ runs, (answer? run.2).isSome = true) (o.Failing runs) (o.highCount runs)
      (o.assemble scope who stamp now (dispatches o.validatorTimeout runs)).verdict := by
  have hcritical := o.countOf_assemble scope who stamp now runs (s := .critical) (by decide)
  have hhigh := o.countOf_assemble scope who stamp now runs (s := .high) (by decide)
  rw [o.verdict_assemble hruns]
  generalize (o.assemble scope who stamp now _).findings = fs at hcritical hhigh ⊢
  have hfailing : o.Failing runs ↔
      0 < countOf .critical fs ∨ o.highThreshold < countOf .high fs := by
    rw [hcritical, hhigh, Nat.add_pos_iff_pos_or_pos, SeverityCounts.countOf_pos_iff,
      List.countP_pos_iff, or_assoc]
    rfl
  rw [← answers_pos_iff, hfailing, highCount, ← hhigh]
  exact judged_derive (.ofFindings fs) _ (hruns ▸ List.countP_le_length)

/-- The verdict of an authorized run is blocked if no validator completed; else a failure if a
critical finding was returned, a rule fires at critical, or there are more high findings and rules
that fire at high than the threshold allows; else concerns if there are any; else a pass. There are
never more failed validators than registered ones. -/
theorem verdict_of_authorized_run (scope : AuditScope) (stamp : RunStamp) (now : Instant)
    {j : Journal σ} {who : Option String} {w : σ}
    (hauth : Act.Ends o.authorize j (.ok (.ok who)) w) :
    ∃ runs k l report, k.world = w ∧ Ran scope o.validatorTimeout o.validators k runs l ∧
      Act.Ends (o.run scope stamp now) j (.ok report) l.world ∧
      report.failedValidators.length ≤ o.validators.length ∧
      let answered := ∃ run ∈ runs, (answer? run.2).isSome = true
      (report.verdict = .blocked ↔ ¬answered) ∧
      (report.verdict = .fail ↔ answered ∧ o.Failing runs) ∧
      (report.verdict = .concerns ↔ answered ∧ ¬o.Failing runs ∧ 0 < o.highCount runs) ∧
      (report.verdict = .pass ↔ answered ∧ ¬o.Failing runs ∧ o.highCount runs = 0) := by
  obtain ⟨runs, k, l, hk, hran, hrun⟩ := o.ends_run hauth scope stamp now
  refine ⟨runs, k, l, _, hk, hran, hrun, ?_, (o.judged_assemble hran.length _ _ _ _).iff⟩
  have hsum := length_failures_add_answers o.validatorTimeout runs
  rw [hran.length] at hsum
  exact Nat.le.intro hsum

/-- Two high findings are within the threshold, but the rule that they make fire is not. -/
theorem verdict_of_authorized_run_compound :
    let returns (fs : List Finding) : AuditScope → Nat → Act Unit (Timed (List Finding)) :=
      fun _ _ => pure (.inTime fs)
    let f : Finding :=
      { validatorId := "", severity := .high, location := { resource := "main" }
        description := "key in the source" }
    let o : Orchestrator Unit :=
      { validators :=
          [⟨"lint", returns [f]⟩, ⟨"secrets", returns [f]⟩, ⟨"slow", fun _ _ => pure .late⟩]
        rules := [.new "both" ["secrets", "lint"] .medium "seen twice"]
        highThreshold := 2 }
    ∃ report w, Act.Ends (o.run { root := ⟨"/"⟩ } ⟨1, 1⟩ ⟨0, 0⟩) { world := () } (.ok report) w ∧
      report.failedValidators.length ≤ 3 ∧ report.verdict = .fail := by
  intro returns f o
  obtain ⟨runs, k, l, report, -, hran, hrun, hle, -, hfail, -⟩ :=
    o.verdict_of_authorized_run { root := ⟨"/"⟩ } ⟨1, 1⟩ ⟨0, 0⟩ (j := { world := () })
      (Act.ends_pure _)
  have hruns : runs = [("lint", .ok (.inTime [f])), ("secrets", .ok (.inTime [f])),
      ("slow", .ok .late)] := by
    obtain _ | ⟨⟨⟩, _ | ⟨⟨⟩, _ | ⟨⟨⟩, ⟨⟩⟩⟩⟩ := hran
    rfl
  refine ⟨report, l.world, hrun, hle, hfail.2 ?_⟩
  subst hruns
  exact ⟨⟨("lint", _), List.mem_cons_self, rfl⟩, .inr (.inr (by decide +kernel))⟩

end Orchestrator

end AgentGovernance
