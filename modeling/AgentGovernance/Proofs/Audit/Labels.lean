-- SUMMARY: Reports do not depend on the labels that validators put on their findings.
import AgentGovernance.Proofs.Audit.Run
import Mathlib.Data.List.Forall2

/-!
# Labels of findings

A finding names a validator and a kind. Whoever returns it may write there what it likes: both are
overwritten when the finding is collected, before anything reads them. Main statement: the report of
a run is the same, but for its stamp, if the labels of the returned findings are others.
-/

namespace AgentGovernance

/-- The findings are equal but for the validator and the kind that they name. -/
def Finding.SameButLabels (f g : Finding) : Prop :=
  { f with validatorId := g.validatorId, kind := g.kind } = g

/-- What came in time is related; what did not is the same. -/
inductive Timed.Rel {α β : Type} (R : α → β → Prop) : Timed α → Timed β → Prop
  | inTime {a : α} {b : β} (h : R a b) : Rel R (.inTime a) (.inTime b)
  | late : Rel R .late .late
  | aborted (reason : String) : Rel R (.aborted reason) (.aborted reason)

/-- The reports are equal but for the id and the times of the run. -/
def AuditReport.SameButStamp (a b : AuditReport) : Prop :=
  { a with runId := b.runId, startedAt := b.startedAt, finishedAt := b.finishedAt } = b

namespace Orchestrator

/-- The answers of validators are equal but for the labels of the findings. -/
abbrev RelabelledAnswer : Timed (List Finding) → Timed (List Finding) → Prop :=
  Timed.Rel (List.Forall₂ Finding.SameButLabels)

/-- The runs of a validator came out the same but for the labels of the findings. -/
def RelabelledRun (run run' : String × RunOutcome) : Prop :=
  run.1 = run'.1 ∧ Act.SameOutcome RelabelledAnswer run.2 run'.2

theorem relabel_eq {f g : Finding} (h : f.SameButLabels g) (id : String) :
    relabel id f = relabel id g := by
  rw [← h]
  rfl

theorem map_relabel_eq {fs gs : List Finding} (h : List.Forall₂ Finding.SameButLabels fs gs)
    (id : String) : fs.map (relabel id) = gs.map (relabel id) := by
  induction h with
  | nil => rfl
  | cons hfg _ ih => rw [List.map_cons, List.map_cons, relabel_eq hfg, ih]

/-- What enters the report of a validator does not depend on labels. -/
theorem gathered_eq_of_relabelled (limit : Nat) {run run' : String × RunOutcome}
    (h : RelabelledRun run run') :
    findingsOf run.1 (dispatchOf limit run.2) = findingsOf run'.1 (dispatchOf limit run'.2) ∧
    failureOf? run.1 (dispatchOf limit run.2) = failureOf? run'.1 (dispatchOf limit run'.2) := by
  obtain ⟨id, outcome⟩ := run
  obtain ⟨id', outcome'⟩ := run'
  obtain ⟨rfl, houtcome⟩ := h
  cases houtcome with
  | error => exact ⟨rfl, rfl⟩
  | ok hanswer =>
    cases hanswer with
    | inTime hfs => exact ⟨map_relabel_eq hfs id, rfl⟩
    | late => exact ⟨rfl, rfl⟩
    | aborted reason => exact ⟨rfl, rfl⟩

variable {σ : Type} (o : Orchestrator σ) {runs runs' : List (String × RunOutcome)}

theorem ids_eq_of_relabelled (h : List.Forall₂ RelabelledRun runs runs') :
    runs.map (·.1) = runs'.map (·.1) := by
  induction h with
  | nil => rfl
  | cons hrun _ ih => rw [List.map_cons, List.map_cons, hrun.1, ih]

/-- Other labels make no other report. -/
theorem assemble_of_relabelled {vs : List (Validator σ)} (hids : vs.map (·.id) = o.validatorIds)
    (h : List.Forall₂ RelabelledRun runs runs') (scope : AuditScope) (who : Option String)
    (stamp stamp' : RunStamp) (now now' : Instant) :
    (o.assemble scope who stamp now (dispatches o.validatorTimeout runs)).SameButStamp
      ({ o with validators := vs }.assemble scope who stamp' now'
        (dispatches o.validatorTimeout runs')) := by
  have hlists :
      (dispatches o.validatorTimeout runs).map (fun ran => (ran.1, findingsOf ran.1 ran.2)) =
        (dispatches o.validatorTimeout runs').map fun ran => (ran.1, findingsOf ran.1 ran.2) := by
    rw [dispatches, dispatches, List.map_map, List.map_map, ← List.forall₂_eq_eq_eq,
      List.forall₂_map_left_iff, List.forall₂_map_right_iff]
    exact h.imp fun _ _ hrun => Prod.ext hrun.1 (gathered_eq_of_relabelled _ hrun).1
  have hfailures : (dispatches o.validatorTimeout runs).map (fun ran => failureOf? ran.1 ran.2) =
      (dispatches o.validatorTimeout runs').map fun ran => failureOf? ran.1 ran.2 := by
    rw [dispatches, dispatches, List.map_map, List.map_map, ← List.forall₂_eq_eq_eq,
      List.forall₂_map_left_iff, List.forall₂_map_right_iff]
    exact h.imp fun _ _ hrun => (gathered_eq_of_relabelled _ hrun).2
  have hfailed : (dispatches o.validatorTimeout runs).filterMap (fun ran => failureOf? ran.1 ran.2) =
      (dispatches o.validatorTimeout runs').filterMap fun ran => failureOf? ran.1 ran.2 := by
    simpa only [List.filterMap_map, Function.id_comp] using congrArg (List.filterMap id) hfailures
  have hlength : vs.length = o.validators.length := by
    simpa [validatorIds] using congrArg List.length hids
  have hids' : ({ o with validators := vs } : Orchestrator σ).validatorIds = o.validatorIds := hids
  simp only [AuditReport.SameButStamp, assemble, hlists, hfailed, hlength, hids']

end Orchestrator

end AgentGovernance
