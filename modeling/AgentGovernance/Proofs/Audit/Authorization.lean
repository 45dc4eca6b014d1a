-- SUMMARY: Audit runs for a requester: whom the decision is about, and what is run by it.
import AgentGovernance.Proofs.Audit.Run
import AgentGovernance.Proofs.Identity.Guard
import AgentGovernance.Proofs.Remediation.Calls

/-!
# Authorized runs

A run is for a given agent or for the active one. Whom the decision is about follows from the
persisted session and the descriptors: nobody if no one is active, if the active agent has no
descriptor any more, or if there is no guard to ask. Whether the guard can drop a stale agent does
not matter; the run is refused in any case.

A recorded run shows which validators were called: none if it is refused, and each once otherwise.
-/

namespace AgentGovernance

open Act (Ends LooksLike)

variable {σ : Type}

/-! ## Requesters -/

/-- Whom a run is for: a given agent, or the one that is active when the run starts. -/
inductive Requester (σ : Type) where
  | agent (id : String)
  | active {τ : Type} (get : σ → GuardWorld τ) (set : GuardWorld τ → σ → σ)
      (guard : Option (Guard τ))

/-- How a question for a decision comes out, by the agent that it is about. -/
inductive Answered (check : String → Decision) :
    Option String → Except GovernanceError Decision → Prop
  | decided {id : String} : Answered check (some id) (.ok (check id))
  | nobody {d : Decision} (h : d.isBlocked = true) : Answered check none (.ok d)
  | unchecked {err : GovernanceError} : Answered check none (.error err)

namespace Authorization

/-- The decision is to block the action, or there is none. -/
def Refuses (auth : Authorization σ) (j : Journal σ) : Prop :=
  ∀ d w, Ends auth.decide j (.ok d) w → d.isBlocked = true

/-- The decision is not to block the action. -/
def Grants (auth : Authorization σ) (j : Journal σ) (d : Decision) : Prop :=
  ∃ w, Ends auth.decide j (.ok d) w ∧ d.isBlocked = false

theorem Refuses.not_grants {auth : Authorization σ} {j : Journal σ} {d : Decision}
    (h : auth.Refuses j) : ¬ auth.Grants j d := by
  rintro ⟨w, hends, hallowed⟩
  have hblocked := h d w hends
  rw [hallowed] at hblocked
  cases hblocked

theorem refuses_or_grants (auth : Authorization σ) (j : Journal σ) :
    auth.Refuses j ∨ ∃ d, auth.Grants j d := by
  by_cases hgrants : ∃ d, auth.Grants j d
  · exact .inr hgrants
  · refine .inl ?_
    intro d w hends
    by_contra hallowed
    exact hgrants ⟨d, w, hends, by simpa using hallowed⟩

end Authorization

theorem Enforcer.ends_checkLogged {e : Enforcer} {index : DescriptorIndex} {id action : String}
    {j : Journal σ} :
    Ends (e.checkLogged index id action) j (.ok (e.check index id action)) j.world := by
  refine Ends.bind (Act.ends_log _) ?_
  intro k hk
  exact hk ▸ Act.ends_pure _

namespace Requester

def authorization (e : Enforcer) (index : DescriptorIndex) (action : String) :
    Requester σ → Authorization σ
  | .agent id => .forAgent e index id action
  | .active get set guard => .forActive get set e guard index action

/-- The agent that a decision can be about: the given one, or the one that is active by the persisted
session, if it has a descriptor. -/
def subject? (index : DescriptorIndex) (w : σ) : Requester σ → Option String
  | .agent id => some id
  | .active _ _ none => none
  | .active get _ (some g) =>
    ((g.persisted (get w)).activeAgent.bind fun id => index.find? id).map (·.id)

/-- The requester may perform the action by the decision. -/
def Granted (e : Enforcer) (index : DescriptorIndex) (action : String) (w : σ) (d : Decision)
    (r : Requester σ) : Prop :=
  ∃ id, r.subject? index w = some id ∧ e.check index id action = d ∧ d.isBlocked = false

/-- The active agent is asked about if it has a descriptor, and nobody otherwise. -/
theorem answered_checkActive {τ : Type} (e : Enforcer) (g : Guard τ) (index : DescriptorIndex)
    (action : String) (j : Journal (GuardWorld τ)) :
    ∃ outcome w, Ends (e.checkActive (some g) index action) j outcome w ∧
      Answered (fun id => e.check index id action)
        (((g.persisted j.world).activeAgent.bind fun id => index.find? id).map (·.id)) outcome := by
  have hact : g.Realizes (e.checkActive (some g) index action) j _ :=
    Guard.realizes_checkActive e action
  unfold SessionState.whoEffect at hact
  cases hactive : (g.persisted j.world).activeAgent with
  | none =>
    simp only [hactive, SessionEffect.map, Guard.Realizes] at hact
    obtain ⟨w, hends, -⟩ := hact
    exact ⟨_, w, hends, .nobody rfl⟩
  | some active =>
    cases hfind : index.find? active with
    | some d =>
      simp only [hactive, hfind, SessionEffect.map, Guard.Realizes] at hact
      obtain ⟨w, hends, -⟩ := hact
      simp only [Option.bind_some, hfind, Option.map_some]
      exact ⟨_, w, hends, .decided⟩
    | none =>
      -- The guard drops the stale agent. If that fails, so does the question.
      simp only [hactive, hfind, SessionEffect.map, Guard.Realizes] at hact
      obtain ⟨events, saved, w, hends, -⟩ := hact
      simp only [Option.bind_some, hfind, Option.map_none]
      cases saved with
      | ok _ => exact ⟨_, w, hends, .nobody rfl⟩
      | error err => exact ⟨_, w, hends, .unchecked⟩

/-- The authorization asks about the subject of the requester. -/
theorem answered_decide (r : Requester σ) (e : Enforcer) (index : DescriptorIndex) (action : String)
    (j : Journal σ) :
    ∃ outcome w, Ends (r.authorization e index action).decide j outcome w ∧
      Answered (fun id => e.check index id action) (r.subject? index j.world) outcome := by
  cases r with
  | agent id => exact ⟨_, _, Enforcer.ends_checkLogged, .decided⟩
  | active get set guard =>
    cases guard with
    | none => exact ⟨_, _, Ends.onPart Act.ends_fail, .unchecked⟩
    | some g =>
      obtain ⟨outcome, w, hends, hanswered⟩ :=
        answered_checkActive e g index action { world := get j.world, events := j.events }
      exact ⟨outcome, _, hends.onPart, hanswered⟩

/-- What is granted follows from the world alone. -/
theorem grants_iff (r : Requester σ) (e : Enforcer) (index : DescriptorIndex) (action : String)
    (j : Journal σ) (d : Decision) :
    (r.authorization e index action).Grants j d ↔ r.Granted e index action j.world d := by
  obtain ⟨outcome, w, hends, hanswered⟩ := r.answered_decide e index action j
  constructor
  · rintro ⟨w', hends', hallowed⟩
    obtain ⟨rfl, -⟩ := hends.unique hends'
    generalize hsubject : r.subject? index j.world = subject at hanswered
    cases hanswered with
    | @decided id => exact ⟨id, hsubject, rfl, hallowed⟩
    | nobody hblocked =>
      rw [hallowed] at hblocked
      cases hblocked
  · rintro ⟨id, hid, rfl, hallowed⟩
    rw [hid] at hanswered
    cases hanswered
    exact ⟨w, hends, hallowed⟩

theorem refuses_iff (r : Requester σ) (e : Enforcer) (index : DescriptorIndex) (action : String)
    (j : Journal σ) :
    (r.authorization e index action).Refuses j ↔ ∀ d, ¬ r.Granted e index action j.world d := by
  simp only [← grants_iff]
  constructor
  · intro hrefuses d
    exact hrefuses.not_grants
  · intro hnone
    rcases (r.authorization e index action).refuses_or_grants j with hrefuses | ⟨d, hgrants⟩
    · exact hrefuses
    · exact absurd hgrants (hnone d)

end Requester

/-! ## Refused and authorized runs -/

/-- The report says that there was no run. -/
structure AuditReport.IsRefusal (report : AuditReport) : Prop where
  verdict : report.verdict = .blocked
  validators : report.validators = []
  raw : report.raw = []
  failedValidators : report.failedValidators = []
  firedRules : report.firedRules = []
  findings : report.findings = []
  counts : report.counts = {}
  phases : report.phases = [.verdictIssued]

theorem AuditReport.isRefusal_refused (scope : AuditScope) (agent : Option String) (reason : String)
    (stamp : RunStamp) (now : Instant) : (refused scope agent reason stamp now).IsRefusal :=
  ⟨rfl, rfl, rfl, rfl, rfl, rfl, rfl, rfl⟩

namespace Orchestrator

variable {o : Orchestrator σ} {auth : Authorization σ} {j : Journal σ} {w : σ}

theorem ends_authorize_of_blocked (hauth : o.authorization = some auth)
    {outcome : Except GovernanceError Decision} (h : Ends auth.decide j outcome w)
    (hblocked : ∀ d, outcome = .ok d → d.isBlocked = true) :
    ∃ refusal, Ends o.authorize j (.ok (.error refusal)) w := by
  unfold authorize
  simp only [hauth]
  cases outcome with
  | error err =>
    refine ⟨⟨none, s!"authorization check failed: {err.message}"⟩, h.attempt.bind ?_⟩
    intro k hk
    exact hk ▸ Act.ends_pure _
  | ok d =>
    refine ⟨⟨decisionAgent d, s!"audit not authorized: {d.reason}"⟩, h.attempt.bind ?_⟩
    intro k hk
    simp only [hblocked d rfl, if_true]
    exact hk ▸ Act.ends_pure _

theorem authorize_of_refuses (hauth : o.authorization = some auth) (hrefuses : auth.Refuses j) :
    ∃ refusal k, o.authorize j = .ok (.error refusal) k := by
  obtain ⟨outcome, w, hends⟩ := Ends.exists auth.decide j
  obtain ⟨refusal, hrefusal⟩ := ends_authorize_of_blocked hauth hends
    fun d hd => hrefuses d w (hd ▸ hends)
  obtain ⟨k, hk, -⟩ := hrefusal.ok
  exact ⟨refusal, k, hk⟩

theorem ends_authorize_of_allowed (hauth : o.authorization = some auth) {d : Decision}
    (h : Ends auth.decide j (.ok d) w) (hallowed : d.isBlocked = false) :
    Ends o.authorize j (.ok (.ok (decisionAgent d))) w := by
  unfold authorize
  simp only [hauth]
  refine h.attempt.bind ?_
  intro k hk
  simp only [hallowed, Bool.false_eq_true, if_false]
  exact hk ▸ Act.ends_pure _

/-- After a refusal a run only logs it. -/
theorem run_of_refusal {refusal : Refusal} {k : Journal σ}
    (h : o.authorize j = .ok (.error refusal) k) (scope : AuditScope) (stamp : RunStamp)
    (now : Instant) :
    o.run scope stamp now j = .ok (.refused scope refusal.agent refusal.reason stamp now)
      { k with events :=
          k.events.push (note .warn "Audit refused" [LogEvent.shown "reason" refusal.reason]) } := by
  unfold run
  rw [Act.bind_of_ok h]
  rfl

/-! ## Recorded runs -/

/-- An act in a world with a record, where it writes nothing. -/
def besideRecord {α : Type} (act : Act σ α) : Act (Recorded σ) α :=
  Act.onPart Recorded.inner (fun s w => { w with inner := s }) act

/-- The orchestrator over validators that write down their calls. -/
def recorded (o : Orchestrator σ) : Orchestrator (Recorded σ) where
  validators := o.validators.map Validator.recorded
  rules := o.rules
  validatorTimeout := o.validatorTimeout
  highThreshold := o.highThreshold
  authorization := o.authorization.map fun auth => ⟨besideRecord auth.decide⟩

theorem looksLike_besideRecord {α : Type} (act : Act σ α) :
    LooksLike Recorded.inner Eq (besideRecord act) act := by
  intro j
  have hseen : j.seen Recorded.inner = { world := j.world.inner, events := j.events } := rfl
  simp only [besideRecord, Act.onPart, hseen]
  cases act { world := j.world.inner, events := j.events } with
  | ok a k => exact .ok rfl
  | error err k => exact .error

theorem ends_besideRecord {α : Type} {act : Act σ α} {outcome : Except GovernanceError α}
    (h : Ends act j outcome w) :
    Ends (besideRecord act) (j.seen fun s => { inner := s }) outcome { inner := w } := by
  unfold besideRecord
  refine Ends.onPart ?_
  exact h

theorem looksLike_authorize (o : Orchestrator σ) :
    LooksLike Recorded.inner Eq o.recorded.authorize o.authorize := by
  unfold authorize
  simp only [recorded]
  cases o.authorization with
  | none => exact Act.looksLike_pure rfl
  | some auth =>
    refine (looksLike_besideRecord auth.decide).attempt.bind ?_
    rintro outcome _ rfl
    cases outcome with
    | error err => exact Act.looksLike_pure rfl
    | ok d =>
      simp only
      split
      · exact Act.looksLike_pure rfl
      · exact Act.looksLike_pure rfl

theorem looksLike_runAll (o : Orchestrator σ) (scope : AuditScope) (vs : List (Validator σ)) :
    LooksLike Recorded.inner Eq (o.recorded.runAll scope (vs.map Validator.recorded))
      (o.runAll scope vs) := by
  induction vs with
  | nil => exact Act.looksLike_pure rfl
  | cons v vs ih =>
    refine (Act.looksLike_recorded _ _).attempt.bind ?_
    rintro outcome _ rfl
    refine ih.bind ?_
    rintro runs _ rfl
    exact Act.looksLike_pure rfl

theorem looksLike_dispatch (o : Orchestrator σ) (scope : AuditScope) :
    LooksLike Recorded.inner Eq (o.recorded.dispatch scope) (o.dispatch scope) := by
  refine (o.looksLike_runAll scope o.validators).bind ?_
  rintro runs _ rfl
  refine (Act.looksLike_forM (fun _ => Act.looksLike_log _) runs).bind ?_
  rintro _ _ rfl
  exact Act.looksLike_pure rfl

theorem validatorIds_recorded (o : Orchestrator σ) : o.recorded.validatorIds = o.validatorIds := by
  simp [recorded, validatorIds, Validator.recorded, Function.comp_def]

theorem assemble_recorded (o : Orchestrator σ) (scope : AuditScope) (who : Option String)
    (stamp : RunStamp) (now : Instant) (outcomes : List (String × Dispatch)) :
    o.recorded.assemble scope who stamp now outcomes = o.assemble scope who stamp now outcomes := by
  unfold assemble
  rw [validatorIds_recorded]
  simp only [recorded, List.length_map]

/-- Without the record, a recorded run is a run. -/
theorem looksLike_run (o : Orchestrator σ) (scope : AuditScope) (stamp : RunStamp) (now : Instant) :
    LooksLike Recorded.inner Eq (o.recorded.run scope stamp now) (o.run scope stamp now) := by
  refine o.looksLike_authorize.bind ?_
  rintro answer _ rfl
  have hcount : o.recorded.validators.length = o.validators.length := by simp [recorded]
  cases answer with
  | error refusal =>
    refine (Act.looksLike_log _).bind ?_
    rintro _ _ rfl
    exact Act.looksLike_pure rfl
  | ok who =>
    simp only [assemble_recorded, hcount]
    refine (Act.looksLike_log _).bind ?_
    rintro _ _ rfl
    refine (o.looksLike_dispatch scope).bind ?_
    rintro outcomes _ rfl
    refine (Act.looksLike_forM (fun _ => Act.looksLike_log _) _).bind ?_
    rintro _ _ rfl
    refine (Act.looksLike_log _).bind ?_
    rintro _ _ rfl
    exact Act.looksLike_pure rfl

/-- The calls are one run of each validator, in order. -/
def RunsEach (vs : List (Validator σ)) (calls : List PluginCall) : Prop :=
  List.Forall₂ (fun v call => ∃ outcome, call = PluginCall.validate v.id outcome) vs calls

theorem Ran.calls {scope : AuditScope} {limit : Nat} {vs : List (Validator σ)}
    {j k : Journal (Recorded σ)} {runs : List (String × RunOutcome)}
    (h : Ran scope limit (vs.map Validator.recorded) j runs k) :
    ∃ calls, k.world.calls = j.world.calls ++ calls ∧ RunsEach vs calls := by
  induction vs generalizing j runs with
  | nil =>
    cases h
    exact ⟨[], by simp, .nil⟩
  | cons v vs ih =>
    rw [List.map_cons] at h
    cases h with
    | @cons _ _ _ l _ outcome _ hrun hrest =>
      obtain ⟨o, s, hact⟩ := Ends.exists (v.run scope limit) (j.seen Recorded.inner)
      obtain ⟨l', hrun', hl'⟩ := (Act.ends_recorded (.validate v.id) hact).attempt.ok
      obtain rfl : l' = l := by
        have hsame := hrun'.symm.trans hrun
        simp only [EStateM.Result.ok.injEq] at hsame
        exact hsame.2
      obtain ⟨calls, hcalls, heach⟩ := ih hrest
      refine ⟨.validate v.id o :: calls, ?_, .cons ⟨o, rfl⟩ heach⟩
      rw [hcalls, hl', List.append_assoc]
      rfl

/-! ## Runs with authorization -/

theorem recorded_authorization (hauth : o.authorization = some auth) :
    o.recorded.authorization = some ⟨besideRecord auth.decide⟩ := by
  simp only [recorded, hauth, Option.map_some]

/-- What a run does and reports, by what its authorization says. -/
structure KeepsToAuthorization (o : Orchestrator σ) (auth : Authorization σ) (j : Journal σ)
    (report : AuditReport) (calls : List PluginCall) : Prop where
  refused : auth.Refuses j → calls = [] ∧ report.IsRefusal
  granted : ∀ d, auth.Grants j d → RunsEach o.validators calls ∧ report.phases = AuditPhase.all ∧
    report.requestedBy = if d.agentId.isEmpty then none else some d.agentId

/-- A run with authorization always ends, and keeps to it. -/
theorem ends_recorded_run (hauth : o.authorization = some auth) (scope : AuditScope)
    (stamp : RunStamp) (now : Instant) (j : Journal σ) :
    ∃ report w, Ends (o.recorded.run scope stamp now) (j.seen fun s => { inner := s }) (.ok report)
        w ∧
      o.KeepsToAuthorization auth j report w.calls := by
  have hrecorded := recorded_authorization hauth
  rcases auth.refuses_or_grants j with hrefuses | ⟨d, hgrants⟩
  · obtain ⟨outcome, w, hends⟩ := Ends.exists auth.decide j
    have hblocked (d : Decision) (hd : outcome = .ok d) : d.isBlocked = true :=
      hrefuses d w (hd ▸ hends)
    obtain ⟨refusal, hrefusal⟩ :=
      ends_authorize_of_blocked hrecorded (ends_besideRecord hends) hblocked
    obtain ⟨k, hk, hworld⟩ := hrefusal.ok
    refine ⟨_, _, Ends.of_ok (run_of_refusal hk scope stamp now), ?_⟩
    rw [hworld]
    exact ⟨fun _ => ⟨rfl, AuditReport.isRefusal_refused ..⟩,
      fun d hgrants => absurd hgrants hrefuses.not_grants⟩
  · obtain ⟨w, hends, hallowed⟩ := hgrants
    have hgranted := ends_authorize_of_allowed hrecorded (ends_besideRecord hends) hallowed
    obtain ⟨runs, k, l, hk, hran, hrun⟩ := o.recorded.ends_run hgranted scope stamp now
    obtain ⟨calls, hcalls, heach⟩ := Ran.calls hran
    rw [hk, List.nil_append] at hcalls
    refine ⟨_, _, hrun, ?_, ?_⟩
    · intro hrefuses
      exact absurd ⟨w, hends, hallowed⟩ hrefuses.not_grants
    · rintro d' ⟨w', hends', -⟩
      obtain ⟨hd, -⟩ := hends.unique hends'
      cases hd
      exact ⟨hcalls ▸ heach, rfl, rfl⟩

end Orchestrator

end AgentGovernance
