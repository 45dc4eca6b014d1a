-- SUMMARY: Audit runs: each validator runs once, and what these maintain the run maintains.
import AgentGovernance.Audit.Orchestrator
import AgentGovernance.Proofs.Act

/-!
# Audit runs

Whatever the validators do, a run that is authorized runs each of them once, in order of
registration, and ends with a report of how these runs came out. Apart from that it only asks for the
authorization, so it maintains every condition that this and the validators maintain.
-/

namespace AgentGovernance.Orchestrator

variable {σ : Type} {scope : AuditScope} {limit : Nat} {vs : List (Validator σ)}
  {j k : Journal σ} {runs : List (String × RunOutcome)}

open Act (Ends)

/-- The validators were run one after the other, each once, and each run came out as noted. -/
inductive Ran (scope : AuditScope) (limit : Nat) :
    List (Validator σ) → Journal σ → List (String × RunOutcome) → Journal σ → Prop where
  | nil {j : Journal σ} : Ran scope limit [] j [] j
  | cons {v : Validator σ} {vs : List (Validator σ)} {j k l : Journal σ} {outcome : RunOutcome}
      {runs : List (String × RunOutcome)} :
      (v.run scope limit).attempt j = .ok outcome k → Ran scope limit vs k runs l →
      Ran scope limit (v :: vs) j ((v.id, outcome) :: runs) l

theorem Ran.ids (h : Ran scope limit vs j runs k) : runs.map (·.1) = vs.map (·.id) := by
  induction h with
  | nil => rfl
  | cons _ _ ih => rw [List.map_cons, List.map_cons, ih]

theorem Ran.length (h : Ran scope limit vs j runs k) : runs.length = vs.length := by
  simpa using congrArg List.length h.ids

/-- What came of each validator by how its run came out. -/
def dispatches (limit : Nat) (runs : List (String × RunOutcome)) : List (String × Dispatch) :=
  runs.map fun (id, outcome) => (id, dispatchOf limit outcome)

variable (o : Orchestrator σ)

theorem ran_runAll (scope : AuditScope) (vs : List (Validator σ)) (j : Journal σ) :
    ∃ runs k, o.runAll scope vs j = .ok runs k ∧ Ran scope o.validatorTimeout vs j runs k := by
  induction vs generalizing j with
  | nil => exact ⟨[], j, rfl, .nil⟩
  | cons v vs ih =>
    -- Trying to run a validator never fails, so the others are run in any case.
    obtain ⟨outcome, w, hrun⟩ := Ends.exists (v.run scope o.validatorTimeout) j
    obtain ⟨k, hone, -⟩ := hrun.attempt.ok
    obtain ⟨runs, l, hall, hran⟩ := ih k
    refine ⟨(v.id, outcome) :: runs, l, ?_, .cons hone hran⟩
    rw [runAll, Act.bind_of_ok hone, Act.bind_of_ok hall]
    rfl

theorem ends_dispatch (scope : AuditScope) (j : Journal σ) :
    ∃ runs k, Ran scope o.validatorTimeout o.validators j runs k ∧
      Ends (o.dispatch scope) j (.ok (dispatches o.validatorTimeout runs)) k.world := by
  obtain ⟨runs, k, hall, hran⟩ := o.ran_runAll scope o.validators j
  refine ⟨runs, k, hran, Ends.of_eq ?_ (Act.bind_of_ok hall _)⟩
  refine Ends.bind (Act.ends_forM fun _ _ => Act.ends_log _) ?_
  intro l hl
  exact hl ▸ Act.ends_pure _

/-- A run that is authorized ends with the report of how the runs of its validators came out. -/
theorem ends_run {who : Option String} {w : σ} (hauth : Ends o.authorize j (.ok (.ok who)) w)
    (scope : AuditScope) (stamp : RunStamp) (now : Instant) :
    ∃ runs k l, k.world = w ∧ Ran scope o.validatorTimeout o.validators k runs l ∧
      Ends (o.run scope stamp now) j
        (.ok (o.assemble scope who stamp now (dispatches o.validatorTimeout runs))) l.world := by
  obtain ⟨j₁, hj₁, hgo⟩ := hauth.bind_eq
  obtain ⟨j₂, hj₂, hlogged⟩ := (Act.ends_log (j := j₁) (note .info "Dispatching audit"
    [LogEvent.count "validators" o.validators.length,
      LogEvent.shown "root" scope.root.text])).bind_eq
  obtain ⟨runs, l, hran, hdispatch⟩ := o.ends_dispatch scope j₂
  refine ⟨runs, j₂, l, hj₂.trans hj₁, hran, ?_⟩
  refine Ends.of_eq ?_ ((hgo _).trans (hlogged _))
  refine Ends.bind hdispatch fun j₃ hj₃ => ?_
  refine Ends.bind (Act.ends_forM fun _ _ => Act.ends_log _) fun j₄ hj₄ => ?_
  refine Ends.bind (Act.ends_log _) fun j₅ hj₅ => ?_
  rw [← hj₃, ← hj₄, ← hj₅]
  exact Act.ends_pure _

/-! ## What a run maintains -/

section Maintains

open Act (Maintains)

variable {P : σ → Prop} {o : Orchestrator σ}

theorem maintains_authorize (h : ∀ auth ∈ o.authorization, Maintains P auth.decide) :
    Maintains P o.authorize := by
  unfold authorize
  cases hauth : o.authorization with
  | none => exact Act.maintains_pure _
  | some auth =>
    refine (h auth hauth).attempt.bind fun decided => ?_
    cases decided with
    | error e => exact Act.maintains_pure _
    | ok d =>
      dsimp only
      split
      · exact Act.maintains_pure _
      · exact Act.maintains_pure _

theorem maintains_runAll (h : ∀ v ∈ vs, Maintains P (v.run scope o.validatorTimeout)) :
    Maintains P (o.runAll scope vs) := by
  induction vs with
  | nil => exact Act.maintains_pure _
  | cons v vs ih =>
    obtain ⟨hv, hvs⟩ := List.forall_mem_cons.1 h
    exact hv.attempt.bind fun _ => (ih hvs).bind fun _ => Act.maintains_pure _

/-- A run maintains what its authorization and its validators maintain. -/
theorem maintains_run (hauth : ∀ auth ∈ o.authorization, Maintains P auth.decide)
    (h : ∀ v ∈ o.validators, Maintains P (v.run scope o.validatorTimeout)) (stamp : RunStamp)
    (now : Instant) : Maintains P (o.run scope stamp now) := by
  have hdispatch : Maintains P (o.dispatch scope) :=
    (maintains_runAll h).bind fun _ =>
      (Act.maintains_forM (fun _ => Act.maintains_log _) _).bind fun _ => Act.maintains_pure _
  refine (maintains_authorize hauth).bind fun decided => ?_
  cases decided with
  | error refusal => exact (Act.maintains_log _).bind fun _ => Act.maintains_pure _
  | ok who =>
    refine (Act.maintains_log _).bind fun _ => hdispatch.bind fun _ => ?_
    refine (Act.maintains_forM (fun _ => Act.maintains_log _) _).bind fun _ => ?_
    exact (Act.maintains_log _).bind fun _ => Act.maintains_pure _

end Maintains

end AgentGovernance.Orchestrator
