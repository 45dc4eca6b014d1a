-- SUMMARY: The report of a run keeps what its validators gave: nothing lost, doubled or mislabelled.
import AgentGovernance.Proofs.Audit.Priority
import AgentGovernance.Proofs.Audit.Verdict
import AgentGovernance.Proofs.Json.Fields

/-!
# What a report keeps

On its way into the report a finding is relabelled, collected by validator and in one list, joined by
the findings of the rules, sorted and counted. Main statement: the report of an authorized run holds,
for each validator, what it returned or one remark that it failed, and its findings are these and one
for each rule that fired, in order of priority.
-/

namespace AgentGovernance

/-! ## Counts -/

theorem SeverityCounts.total_ofFindings (fs : List Finding) : (ofFindings fs).total = fs.length := by
  induction fs with
  | nil => rfl
  | cons f fs ih =>
    rw [List.length_cons, ← ih]
    simp only [ofFindings, total, countOf, List.countP_cons]
    cases f.severity <;> simp <;> omega

/-! ## Rules that fired -/

/-- The finding stands for the rule that left the record: it carries its id and its severity. -/
def FiredRule.Yields (record : FiredRule) (f : Finding) : Prop :=
  f.kind = .compound ∧ f.validatorId = "compound:" ++ record.ruleId ∧ f.severity = record.severity

theorem CompoundRule.yields_of_evaluate {r : CompoundRule} {fs : List Finding}
    {fired : FiredRule × Finding} (h : r.evaluate fs = some fired) : fired.1.Yields fired.2 := by
  unfold evaluate at h
  split at h
  · cases h
  · simp only [Option.bind_eq_bind, Option.bind_eq_some_iff] at h
    obtain ⟨contributing, -, worst, -, hfire⟩ := h
    cases hfire
    exact ⟨rfl, rfl, rfl⟩

namespace Orchestrator

theorem yields_of_mem_crossValidate {rules : List CompoundRule} {fs : List Finding}
    {fired : FiredRule × Finding} (h : fired ∈ crossValidate rules fs) : fired.1.Yields fired.2 := by
  obtain ⟨r, -, hr⟩ := List.mem_filterMap.1 h
  exact CompoundRule.yields_of_evaluate hr

/-! ## What each validator gave -/

/-- What enters the report for each validator, in order of registration. -/
def gathered (limit : Nat) (runs : List (String × RunOutcome)) : List (String × List Finding) :=
  runs.map fun (id, outcome) => (id, findingsOf id (dispatchOf limit outcome))

variable {limit : Nat} {runs : List (String × RunOutcome)}

theorem gathered_ids (limit : Nat) (runs : List (String × RunOutcome)) :
    (gathered limit runs).map (·.1) = runs.map (·.1) := by
  simp [gathered, Function.comp_def]

theorem gathered_flatMap (limit : Nat) (runs : List (String × RunOutcome)) :
    (gathered limit runs).flatMap (·.2) = collected limit runs := by
  simp only [gathered, collected, dispatches, List.flatMap_map]

/-- What is collected and what the rules make of it, in order of priority. -/
def ranked (limit : Nat) (rules : List CompoundRule) (runs : List (String × RunOutcome)) :
    List Finding :=
  Finding.prioritize
    (collected limit runs ++ (crossValidate rules (collected limit runs)).map (·.2))

theorem validatorId_of_mem_findingsOf {id : String} {d : Dispatch} {f : Finding}
    (h : f ∈ findingsOf id d) : f.validatorId = id := by
  cases d with
  | completed fs =>
    obtain ⟨g, -, rfl⟩ := List.mem_map.1 h
    rfl
  | failed reason =>
    obtain rfl := List.mem_singleton.1 h
    rfl

/-- A validator that failed leaves one remark. -/
theorem findingsOf_of_failed (limit : Nat) (id : String) {outcome : RunOutcome}
    (h : answer? outcome = none) :
    ∃ reason, findingsOf id (dispatchOf limit outcome) = [.validatorFailed id reason] := by
  match outcome with
  | .error e => exact ⟨_, rfl⟩
  | .ok .late => exact ⟨_, rfl⟩
  | .ok (.aborted reason) => exact ⟨_, rfl⟩

/-- The failures that are listed are those of the validators that gave no answer. -/
theorem failures_ids (limit : Nat) (runs : List (String × RunOutcome)) :
    ((dispatches limit runs).filterMap fun (id, d) => failureOf? id d).map (·.validatorId) =
      (runs.filter fun run => (answer? run.2).isNone).map (·.1) := by
  induction runs with
  | nil => rfl
  | cons run runs ih =>
    obtain ⟨id, outcome⟩ := run
    match outcome with
    | .ok (.inTime fs) => exact ih
    | .error e => exact congrArg (id :: ·) ih
    | .ok .late => exact congrArg (id :: ·) ih
    | .ok (.aborted reason) => exact congrArg (id :: ·) ih

/-! ## What the report holds -/

variable {σ : Type} (o : Orchestrator σ)

/-- The findings under the validators, in order of registration. -/
def underValidators (report : AuditReport) : List Finding :=
  o.validatorIds.flatMap fun id => (report.raw.lookup id).getD []

/-- The report holds what the runs of the validators gave, and the findings of the rules. -/
structure Conserves (runs : List (String × RunOutcome)) (report : AuditReport) : Prop where
  keys : (report.raw.map (·.1)).Perm o.validatorIds
  /-- What a validator returned, in its order, is relabelled and otherwise unchanged. -/
  completed : ∀ id fs, (id, .ok (.inTime fs)) ∈ runs →
    report.raw.lookup id = some (fs.map fun f => { f with validatorId := id, kind := .reported })
  failed : ∀ id outcome, (id, outcome) ∈ runs → answer? outcome = none →
    ∃ f, report.raw.lookup id = some [f] ∧ f.validatorId = id ∧ f.severity = .info ∧
      f.kind = .validatorFailure
  /-- The failed validators are listed in order of registration, and none twice. -/
  failures : report.failedValidators.map (·.validatorId) =
    (runs.filter fun run => (answer? run.2).isNone).map (·.1)
  failures_nodup : (report.failedValidators.map (·.validatorId)).Nodup
  fired : report.firedRules =
    (crossValidate o.rules (o.underValidators report)).map (·.1)
  /-- Besides what the validators gave there is one finding for each rule that fired. Findings that
  tie are in the order in which they were collected. -/
  findings : ∃ compounds, List.Forall₂ FiredRule.Yields report.firedRules compounds ∧
    report.findings.Perm (report.raw.flatMap (·.2) ++ compounds) ∧
    Finding.SameTies report.findings (o.underValidators report ++ compounds)
  sorted : report.findings.Pairwise fun a b => ¬ b.Before a
  counted : report.counts.total = report.findings.length

section Assemble

variable (hids : runs.map (·.1) = o.validatorIds) (hnodup : o.validatorIds.Nodup)
  (scope : AuditScope) (who : Option String) (stamp : RunStamp) (now : Instant)

theorem raw_assemble :
    (o.assemble scope who stamp now (dispatches o.validatorTimeout runs)).raw =
      (gathered o.validatorTimeout runs).foldl
        (fun done (id, fs) => Json.insertField id fs done) [] := by
  simp only [assemble, gathered, dispatches, List.map_map]
  rfl

theorem firedRules_assemble :
    (o.assemble scope who stamp now (dispatches o.validatorTimeout runs)).firedRules =
      (crossValidate o.rules (collected o.validatorTimeout runs)).map (·.1) := by
  simp only [assemble, ← gathered_flatMap, gathered, dispatches, List.map_map]
  rfl

theorem findings_assemble :
    (o.assemble scope who stamp now (dispatches o.validatorTimeout runs)).findings =
      ranked o.validatorTimeout o.rules runs := by
  simp only [assemble, ranked, ← gathered_flatMap, gathered, dispatches, List.map_map]
  rfl

include hids hnodup

theorem gathered_nodup : ((gathered o.validatorTimeout runs).map (·.1)).Nodup := by
  rw [gathered_ids, hids]
  exact hnodup

theorem raw_perm :
    (o.assemble scope who stamp now (dispatches o.validatorTimeout runs)).raw.Perm
      (gathered o.validatorTimeout runs) := by
  rw [raw_assemble]
  have hnames := o.gathered_nodup hids hnodup
  simpa using Json.foldl_insertField_perm (gathered o.validatorTimeout runs) [] (by simpa using hnames)

theorem lookup_raw {id : String} {outcome : RunOutcome} (h : (id, outcome) ∈ runs) :
    (o.assemble scope who stamp now (dispatches o.validatorTimeout runs)).raw.lookup id =
      some (findingsOf id (dispatchOf o.validatorTimeout outcome)) := by
  have hgathered := o.gathered_nodup hids hnodup
  rw [raw_assemble, Json.lookup_foldl_insertField hgathered, List.lookup_nil, Option.or_none]
  exact Json.lookup_eq_some_of_mem hgathered (List.mem_map.2 ⟨_, h, rfl⟩)

theorem underValidators_assemble :
    o.underValidators (o.assemble scope who stamp now (dispatches o.validatorTimeout runs)) =
      collected o.validatorTimeout runs := by
  rw [underValidators, ← hids, List.flatMap_map, ← gathered_flatMap, gathered, List.flatMap_map]
  refine List.flatMap_congr ?_
  rintro ⟨id, outcome⟩ hrun
  rw [o.lookup_raw hids hnodup scope who stamp now hrun]
  rfl

theorem conserves_assemble :
    o.Conserves runs (o.assemble scope who stamp now (dispatches o.validatorTimeout runs)) where
  keys := by
    rw [← hids, ← gathered_ids o.validatorTimeout]
    exact (o.raw_perm hids hnodup scope who stamp now).map _
  completed := by
    intro id fs hrun
    exact o.lookup_raw hids hnodup scope who stamp now hrun
  failed := by
    intro id outcome hrun hanswer
    obtain ⟨reason, hremark⟩ := findingsOf_of_failed o.validatorTimeout id hanswer
    refine ⟨.validatorFailed id reason, ?_, rfl, rfl, rfl⟩
    rw [o.lookup_raw hids hnodup scope who stamp now hrun, hremark]
  failures := failures_ids o.validatorTimeout runs
  failures_nodup := by
    have hfailed := failures_ids o.validatorTimeout runs
    have hall : (runs.map (·.1)).Nodup := hids ▸ hnodup
    exact hfailed ▸ hall.sublist (List.filter_sublist.map _)
  fired := by
    rw [o.underValidators_assemble hids hnodup, firedRules_assemble]
  findings := by
    refine ⟨(crossValidate o.rules (collected o.validatorTimeout runs)).map (·.2), ?_, ?_, ?_⟩
    · rw [firedRules_assemble, List.forall₂_map_left_iff, List.forall₂_map_right_iff,
        List.forall₂_same]
      intro fired hfired
      exact yields_of_mem_crossValidate hfired
    · rw [findings_assemble]
      have hraw := (o.raw_perm hids hnodup scope who stamp now).flatMap_right (·.2)
      rw [gathered_flatMap] at hraw
      exact (Finding.prioritize_perm _).trans (hraw.symm.append_right _)
    · rw [o.underValidators_assemble hids hnodup, findings_assemble]
      intro a
      exact Finding.filter_prioritize _ a
  sorted := by
    rw [findings_assemble]
    exact Finding.prioritize_sorted _
  counted := SeverityCounts.total_ofFindings _

end Assemble

/-- The report of an authorized run of validators with different ids holds what they gave. -/
theorem report_conserves_findings (hnodup : o.validatorIds.Nodup) (scope : AuditScope)
    (stamp : RunStamp) (now : Instant) {j : Journal σ} {who : Option String} {w : σ}
    (hauth : Act.Ends o.authorize j (.ok (.ok who)) w) :
    ∃ runs k l report, k.world = w ∧ Ran scope o.validatorTimeout o.validators k runs l ∧
      Act.Ends (o.run scope stamp now) j (.ok report) l.world ∧ o.Conserves runs report := by
  obtain ⟨runs, k, l, hk, hran, hrun⟩ := o.ends_run hauth scope stamp now
  exact ⟨runs, k, l, _, hk, hran, hrun, o.conserves_assemble hran.ids hnodup scope who stamp now⟩

/-- Two findings that tie, a rule that they make fire, and a validator that is late. -/
theorem report_conserves_findings_tie :
    let returns (fs : List Finding) : AuditScope → Nat → Act Unit (Timed (List Finding)) :=
      fun _ _ => pure (.inTime fs)
    let f : Finding :=
      { validatorId := "", severity := .low, location := { resource := "main" }
        description := "long line" }
    let o : Orchestrator Unit :=
      { validators :=
          [⟨"style", returns [f, { f with description := "tab" }]⟩, ⟨"slow", fun _ _ => pure .late⟩,
            ⟨"lint", returns [f]⟩]
        rules := [.new "both" ["style", "lint"] .medium "seen twice"] }
    o.validatorIds.Nodup ∧
    ∃ report w, Act.Ends (o.run { root := ⟨"/"⟩ } ⟨1, 1⟩ ⟨0, 0⟩) { world := () } (.ok report) w ∧
      o.Conserves [("style", .ok (.inTime [f, { f with description := "tab" }])),
        ("slow", .ok .late), ("lint", .ok (.inTime [f]))] report := by
  intro returns f o
  have hnodup : o.validatorIds.Nodup := by decide
  obtain ⟨runs, k, l, report, -, hran, hrun, hconserves⟩ :=
    o.report_conserves_findings hnodup { root := ⟨"/"⟩ } ⟨1, 1⟩ ⟨0, 0⟩ (j := { world := () })
      (Act.ends_pure _)
  obtain _ | ⟨⟨⟩, _ | ⟨⟨⟩, _ | ⟨⟨⟩, ⟨⟩⟩⟩⟩ := hran
  exact ⟨hnodup, report, _, hrun, hconserves⟩

end Orchestrator

end AgentGovernance
