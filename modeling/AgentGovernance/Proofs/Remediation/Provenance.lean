-- SUMMARY: Neither an audit nor the remediation after it depends on the labels that validators write.
import AgentGovernance.Proofs.Audit.Authorization
import AgentGovernance.Proofs.Remediation.Alike
import AgentGovernance.Proofs.Remediation.Finality

/-!
# Provenance cannot be forged

Who reported a finding, and that it was reported at all, decides whether a rule counts it, where it
is sorted, what its fingerprint is and whether anyone tries to fix it. Main statement: two audits
whose validators return the same findings up to these labels have the same report, and a pass of
remediation with validators that return the same findings up to labels comes to the same results.
-/

namespace AgentGovernance

variable {σ τ : Type} {W : σ → τ → Prop} {clocks : Instant → Instant → Prop}

/-! ## The usual plug-ins -/

/-- The usual selector looks at the names of the attempts only. -/
theorem StrategySelector.alike_firstUntried :
    StrategySelector.Alike W clocks firstUntried firstUntried := by
  intro f ss ts prior prior' w w' hss hprior hw
  refine ⟨?_, hw⟩
  have happlicable := List.rel_filter (p := fun s : FixStrategy σ => s.appliesTo f)
    (q := fun s : FixStrategy τ => s.appliesTo f) (fun _ _ hs => by simp [hs.appliesTo]) hss
  simp only [firstUntried]
  generalize ss.filter (fun s => s.appliesTo f) = candidates at happlicable
  generalize ts.filter (fun s => s.appliesTo f) = candidates' at happlicable
  induction happlicable with
  | nil => exact .none
  | cons hs _ ih =>
    rw [List.find?_cons, List.find?_cons, hs.name, Engine.wasTried_eq hprior]
    split
    · exact .some hs
    · exact ih

theorem EscalationChannel.alike_log :
    EscalationChannel.Alike W clocks (log : EscalationChannel σ) (log : EscalationChannel τ) where
  escalate _ := Act.mirrors_log _ _
  find _ := Act.mirrors_pure .none

/-! ## Passes -/

namespace Engine

theorem ok_fixEach (e : Engine σ) (now : Instant) (fs : List Finding)
    (j : Journal (EngineWorld σ)) : ∃ results k, e.fixEach now fs j = .ok results k := by
  obtain ⟨answers, k, hrecorded, -⟩ := e.fixes_fixEach now fs (j.seen EngineWorld.recorded)
  obtain ⟨results, -, hplain⟩ := (e.looksLike_fixEach now fs).ok hrecorded
  exact ⟨results, _, hplain⟩

end Engine

/-- Passes of remediation over the reports, by engines that do alike, come to the same results but
for times. -/
def AuditReport.RemediatedAlike (a b : AuditReport) : Prop :=
  ∀ {σ τ : Type} {W : σ → τ → Prop} {clocks : Instant → Instant → Prop} {e : Engine σ}
    {d : Engine τ}, e.Alike W clocks d → ∀ {now now' : Instant}, clocks now now' →
    ∀ {j : Journal (EngineWorld σ)} {k : Journal (EngineWorld τ)},
    j.world.Alike W clocks k.world →
    ∃ results results' w w', Act.Ends (e.fixAll a now) j (.ok results) w ∧
      Act.Ends (d.fixAll b now') k (.ok results') w' ∧ w.Alike W clocks w' ∧
      List.Forall₂ (fun p q => p.1 = q.1 ∧ RemediationResult.Alike clocks p.2 q.2) results
        results'

/-- A pass looks at the findings of a report only. -/
theorem AuditReport.SameButStamp.remediatedAlike {a b : AuditReport} (h : a.SameButStamp b) :
    a.RemediatedAlike b := by
  intro σ τ W clocks e d halike now now' hnow j k hworlds
  have hfindings : a.findings = b.findings := by rw [← h]
  obtain ⟨results, j', heach⟩ := e.ok_fixEach now
    (a.findings.filter fun f => decide (Severity.info < f.severity)) j
  obtain ⟨results', w', hresults, hw, hends⟩ :=
    (halike.fixEach _ hnow).ends_ok hworlds (.of_ok heach)
  obtain ⟨k', heach', rfl⟩ := hends.ok
  rw [hfindings] at heach'
  obtain ⟨event, hall⟩ := Engine.fixAll_of_ok heach
  obtain ⟨event', hall'⟩ := Engine.fixAll_of_ok heach'
  exact ⟨results, results', _, _, .of_ok hall, .of_ok hall', hw, hresults⟩

namespace Orchestrator

/-- Let two runs of an audit be authorized alike, or refused alike. If the validators come out the
same in both, but for the validator and the kind that their findings name, then the reports are the
same but for the id and the times of the run; and passes of remediation over them, by engines whose
validators return the same findings up to these labels, come to the same results but for times. -/
theorem provenance_is_not_forgeable (o : Orchestrator σ) (vs : List (Validator σ))
    (scope : AuditScope) (stamp stamp' : RunStamp) (now now' : Instant) {j j' : Journal σ}
    {answer : Except Refusal (Option String)} {w w' : σ}
    (hauth : Act.Ends o.authorize j (.ok answer) w)
    (hauth' : Act.Ends o.authorize j' (.ok answer) w') :
    ∃ runs runs' report report' w₁ w₁',
      (∀ who, answer = .ok who → ∃ k k' l l', k.world = w ∧ k'.world = w' ∧
        Ran scope o.validatorTimeout o.validators k runs l ∧
        Ran scope o.validatorTimeout vs k' runs' l') ∧
      Act.Ends (o.run scope stamp now) j (.ok report) w₁ ∧
      Act.Ends ({ o with validators := vs }.run scope stamp' now') j' (.ok report') w₁' ∧
      (List.Forall₂ RelabelledRun runs runs' →
        report.SameButStamp report' ∧ report.RemediatedAlike report') := by
  cases answer with
  | error refusal =>
    obtain ⟨k, hrefused, -⟩ := hauth.ok
    obtain ⟨k', hrefused', -⟩ := hauth'.ok
    have hrun := o.run_of_refusal hrefused scope stamp now
    have hrun' := { o with validators := vs }.run_of_refusal hrefused' scope stamp' now'
    have hreports : (AuditReport.refused scope refusal.agent refusal.reason stamp now).SameButStamp
        (.refused scope refusal.agent refusal.reason stamp' now') := rfl
    exact ⟨[], [], _, _, _, _, nofun, .of_ok hrun, .of_ok hrun',
      fun _ => ⟨hreports, hreports.remediatedAlike⟩⟩
  | ok who =>
    obtain ⟨runs, k, l, hk, hran, hrun⟩ := o.ends_run hauth scope stamp now
    obtain ⟨runs', k', l', hk', hran', hrun'⟩ :=
      { o with validators := vs }.ends_run hauth' scope stamp' now'
    refine ⟨runs, runs', _, _, _, _, fun _ _ => ⟨k, k', l, l', hk, hk', hran, hran'⟩, hrun, hrun',
      fun hsame => ?_⟩
    have hids : vs.map (·.id) = o.validatorIds := by
      rw [validatorIds, ← hran.ids, ← hran'.ids, ids_eq_of_relabelled hsame]
    have hreports := o.assemble_of_relabelled hids hsame scope who stamp stamp' now now'
    exact ⟨hreports, hreports.remediatedAlike⟩

/-- A validator that claims to be another, and that its finding comes from a rule, fools neither the
audit nor the engine that asks it whether a fix worked. -/
theorem provenance_is_not_forgeable_claimed :
    let returns (fs : List Finding) : AuditScope → Nat → Act Unit (Timed (List Finding)) :=
      fun _ _ => pure (.inTime fs)
    let f : Finding :=
      { validatorId := "secrets", severity := .high, location := { resource := "main" }
        description := "key in the source" }
    let forged : Finding := { f with validatorId := "lint", kind := .compound }
    let scope : AuditScope := { root := ⟨"/"⟩ }
    let honest : Validator Unit := ⟨"secrets", returns [f]⟩
    let liar : Validator Unit := ⟨"secrets", returns [forged]⟩
    let o : Orchestrator Unit := { validators := [honest] }
    let edit : FixStrategy Unit := ⟨"edit", fun _ => true, fun _ _ _ => pure (.inTime ())⟩
    let e : Engine Unit := { scope, strategies := [edit] }
    ∃ report report' results results' w w' v v',
      Act.Ends (o.run scope ⟨1, 1⟩ ⟨0, 0⟩) { world := () } (.ok report) w ∧
      Act.Ends ({ o with validators := [liar] }.run scope ⟨1, 2⟩ ⟨5, 0⟩) { world := () }
        (.ok report') w' ∧
      report.SameButStamp report' ∧
      Act.Ends ({ e with validators := [honest] }.fixAll report ⟨1, 0⟩) { world := ⟨(), []⟩ }
        (.ok results) v ∧
      Act.Ends ({ e with validators := [liar] }.fixAll report' ⟨6, 0⟩) { world := ⟨(), []⟩ }
        (.ok results') v' ∧
      List.Forall₂ (fun p q => p.1 = q.1 ∧ RemediationResult.Alike (fun _ _ => True) p.2 q.2)
        results results' := by
  intro returns f forged scope honest liar o edit e
  obtain ⟨runs, runs', report, report', w, w', hran, hrun, hrun', hsame⟩ :=
    o.provenance_is_not_forgeable [liar] scope ⟨1, 1⟩ ⟨1, 2⟩ ⟨0, 0⟩ ⟨5, 0⟩
      (Act.ends_pure _ (j := { world := () })) (Act.ends_pure _ (j := { world := () }))
  obtain ⟨k, k', l, l', -, -, hran, hran'⟩ := hran none rfl
  change Ran _ _ [_] _ _ _ at hran
  obtain _ | ⟨⟨⟩, ⟨⟩⟩ := hran
  obtain _ | ⟨⟨⟩, ⟨⟩⟩ := hran'
  have hforged : List.Forall₂ Finding.SameButLabels [f] [forged] := .cons rfl .nil
  obtain ⟨hreports, hremediated⟩ := hsame (.cons ⟨rfl, .ok (.inTime hforged)⟩ .nil)
  have halike : Engine.Alike Eq (fun _ _ => True) { e with validators := [honest] }
      { e with validators := [liar] } :=
    { scope := rfl
      attemptTimeout := rfl
      strategies := .cons ⟨rfl, rfl, fun _ _ _ => Act.mirrors_pure rfl⟩ .nil
      validators := .cons ⟨rfl, fun _ _ => Act.mirrors_pure (.inTime hforged)⟩ .nil
      selector := StrategySelector.alike_firstUntried
      escalation := EscalationChannel.alike_log }
  have hclocks : (fun _ _ : Instant => True) ⟨1, 0⟩ ⟨6, 0⟩ := trivial
  obtain ⟨results, results', v, v', hfixed, hfixed', -, hresults⟩ :=
    hremediated halike hclocks (j := { world := ⟨(), []⟩ }) (k := { world := ⟨(), []⟩ })
      ⟨rfl, .nil⟩
  exact ⟨report, report', results, results', w, w', v, v', hrun, hrun', hreports, hfixed, hfixed',
    hresults⟩

end Orchestrator

end AgentGovernance
