-- SUMMARY: Commands and the session: those that are not for the session at most end a stale one.
import AgentGovernance.Cli.Execute
import AgentGovernance.Proofs.Audit.Run
import AgentGovernance.Proofs.Descriptor.Store
import AgentGovernance.Proofs.Identity.Guard
import AgentGovernance.Proofs.Remediation.Course
import AgentGovernance.Proofs.Session.File

/-!
# Commands and the session

Most commands are not there to change the session. Some of them ask who is active, and that ends the
session of an agent without descriptor. Audits write reports and records beside the session file, and
run programs that may do anything else. Main statement: whatever its arguments, such a command leaves
the session as it was, or without its agent if that has no descriptor.
-/

namespace AgentGovernance

open Act (Ends Maintains Upholds)

/-- What asking who is active may leave of a session: the session, or the session without its agent if
the agent has no descriptor. -/
def SessionState.Asked (index : DescriptorIndex) (before after : SessionState) : Prop :=
  after = before ∨
    ∃ id, before.activeAgent = some id ∧ index.find? id = none ∧ after = before.deactivate

namespace SessionState.Asked

variable {index : DescriptorIndex} {before s : SessionState}

theorem history (h : Asked index before s) : s.history = before.history := by
  obtain rfl | ⟨id, -, -, rfl⟩ := h
  · rfl
  · rfl

/-- Asking again leaves no more than asking once. -/
theorem deactivate (h : Asked index before s) {id : String} (hactive : s.activeAgent = some id)
    (hstale : index.find? id = none) : Asked index before s.deactivate := by
  obtain rfl | ⟨-, -, -, rfl⟩ := h
  · exact .inr ⟨id, hactive, hstale, rfl⟩
  · cases hactive

end SessionState.Asked

/-! ## Disks with a session -/

/-- The disk is proper, and its session meets a condition. For someone who writes other files it is
known where the session file is. -/
structure StatePaths.Keeps (paths : StatePaths) (writes : Prop) (R : SessionState → Prop)
    (disk : Disk) : Prop where
  proper : disk.Proper
  reached : writes → paths.Reached disk
  session : R ((SessionStore.file paths.sessionFile).read disk).1

theorem StatePaths.Keeps.spared {paths : StatePaths} {writes : Prop} {R : SessionState → Prop}
    {before after : Disk} (h : paths.Keeps writes R before) (hhoused : paths.Housed)
    (hwrites : writes) (hspared : paths.Spared before after) : paths.Keeps writes R after where
  proper := hspared.proper h.proper
  reached _ := hspared.reached (h.reached hwrites)
  session := hspared.read_eq hhoused h.proper (h.reached hwrites) ▸ h.session

namespace Cli

/-! ## Commands -/

namespace Command

/-- Whether the command is there to change the session. -/
def changesSession : Command → Bool
  | .activate _ | .deactivate | .touch _ => true
  | _ => false

/-- Whether the command asks who is active. -/
def asksWho : Command → Bool
  | .agentList _ | .status _ | .reload | .bleedCheck .. => true
  | .check _ agent _ | .blocked agent _ | .audit _ agent _ _ => agent.isNone
  | _ => false

def isAudit : Command → Bool
  | .audit .. => true
  | _ => false

end Command

namespace Workspace

variable {w : Workspace} {host : Host} {writes : Prop} {R : SessionState → Prop}
  {index : DescriptorIndex} {agent : Option String}

/-- The session that is persisted for the workspace. -/
def session (w : Workspace) (disk : Disk) : SessionState :=
  ((SessionStore.file w.paths.sessionFile).read disk).1

/-- The descriptors that a command goes by. Reloading goes by those that it loads. -/
def indexFor (w : Workspace) (disk : Disk) : Command → DescriptorIndex
  | .reload => ((DescriptorStore.load disk w.paths.descriptors).run w.descriptors).world.index
  | _ => w.index

/-- The condition on the disk of a desk. -/
abbrev KeepsSession (w : Workspace) (writes : Prop) (R : SessionState → Prop) (desk : Desk) : Prop :=
  w.paths.Keeps writes R desk.session

/-! ## Asking who is active -/

/-- Whatever asks who is active and then answers maintains of the disk what saving the end of a stale
session maintains. -/
theorem maintains_asking {α : Type} {P : Disk → Prop} {act : Act Desk α}
    {answer : Option AgentDescriptor → α}
    (hact : ∀ j, w.guard.Realizes act j (((w.guard.persisted j.world).whoEffect index).map answer))
    (hsave : ∀ {j : Journal Disk} {active saved disk}, P j.world →
      (w.session j.world).activeAgent = some active → index.find? active = none →
      Ends ((SessionStore.file w.paths.sessionFile).save (w.session j.world).deactivate) j saved disk →
        P disk) :
    Maintains (fun desk => P desk.session) act := by
  intro j o desk hj hends
  have hreal := hact j
  unfold SessionState.whoEffect at hreal
  split at hreal
  · obtain ⟨after, hafter, hsame⟩ := hreal
    obtain ⟨-, rfl⟩ := hends.unique hafter
    exact hsame ▸ hj
  · rename_i active hactive
    split at hreal
    · obtain ⟨after, hafter, hsame⟩ := hreal
      obtain ⟨-, rfl⟩ := hends.unique hafter
      exact hsame ▸ hj
    · rename_i hstale
      obtain ⟨events, saved, after, hafter, hsaved⟩ := hreal
      obtain ⟨-, rfl⟩ := hends.unique hafter
      exact hsave (j := { world := j.world.session, events }) hj hactive hstale hsaved

theorem maintains_of_realizes {α : Type} {act : Act Desk α} {answer : Option AgentDescriptor → α}
    (hact : ∀ j, w.guard.Realizes act j (((w.guard.persisted j.world).whoEffect index).map answer))
    (hR : ∀ {s id}, R s → s.activeAgent = some id → index.find? id = none → R s.deactivate) :
    Maintains (w.KeepsSession writes R) act := by
  refine maintains_asking hact ?_
  intro j active saved disk hj hactive hstale hsaved
  have hvalid : (w.session j.world).Valid := SessionStore.valid_read_file _ _
  have hne : w.session j.world ≠ {} := by
    intro hempty
    rw [hempty] at hactive
    cases hactive
  obtain ⟨hgrown, hread⟩ := SessionStore.read_of_ends_save hj.proper hvalid.deactivate hne hsaved
  refine ⟨hgrown.proper, fun hwrites => (hj.reached hwrites).imp id hgrown.isDirectory, ?_⟩
  rcases hread with hnew | hold
  · exact hnew ▸ hR hj.session hactive hstale
  · exact hold ▸ hj.session

theorem maintains_current
    (hR : ∀ {s id}, R s → s.activeAgent = some id → index.find? id = none → R s.deactivate) :
    Maintains (w.KeepsSession writes R) (w.guard.current index) := by
  have hcurrent (j : Journal Desk) : w.guard.Realizes (w.guard.current index) j
      (((w.guard.persisted j.world).whoEffect index).map id) := by
    have hreal : w.guard.Realizes (w.guard.current index) j
        ((w.guard.persisted j.world).whoEffect index) := Guard.realizes_current
    cases heffect : (w.guard.persisted j.world).whoEffect index with
    | _ => rwa [heffect] at hreal
  exact maintains_of_realizes hcurrent hR

theorem maintains_session {P : Desk → Prop} : Maintains P w.guard.session :=
  Act.maintains_of_ends fun _ => ⟨_, Guard.ends_session⟩

theorem maintains_checkLogged {P : Desk → Prop} (e : Enforcer) (index : DescriptorIndex)
    (agent action : String) : Maintains P (e.checkLogged index agent action) :=
  (Act.maintains_log _).bind fun _ => Act.maintains_pure _

/-! ## Files and programs of an audit -/

/-- A report or a record is written without touching the session. -/
theorem maintains_write (hhoused : w.paths.Housed) (hwrites : writes) {dir : Path} {s : String}
    (hdir : dir = w.paths.audits ∨ dir = w.paths.escalations) (hs : Path.IsName s)
    (bytes : ByteArray) (replaces : Bool) :
    Maintains (w.paths.Keeps writes R) (Snapshot.writeBytes (dir.join s) bytes replaces) := by
  intro j o disk hj hends
  refine hj.spared hhoused hwrites ?_
  -- Given by name, the fact about the write would be unfolded all the way.
  refine StatePaths.spared_of_grown (Snapshot.grown_of_ends hj.proper ‹_›) ?_
  exact fun hplace => hhoused.ne_session hdir hs _ hplace.2

/-- The programs that the host runs leave the session file alone. -/
def Spares (w : Workspace) (host : Host) : Prop :=
  ∀ call limit (j : Journal Disk) o disk, Ends (host.runner call limit) j o disk →
    w.paths.Spared j.world disk

theorem maintains_onDisk {α : Type} {P : Disk → Prop} {act : Act Disk α} (h : Maintains P act) :
    Maintains (fun desk => P desk.session) (onDisk act) :=
  Maintains.onPart (fun h => h) (fun _ h => h) h

/-- A validator maintains what running its program maintains. -/
theorem maintains_validator_of_runner {P : Desk → Prop}
    (hrunner : ∀ call limit, Maintains P (runnerAtDesk host call limit)) (c : CommandValidator)
    (scope : AuditScope) (limit : Nat) :
    Maintains P ((c.validator (runnerAtDesk host)).run scope limit) := by
  refine (Act.maintains_log _).bind fun _ => (hrunner _ _).bind fun ended => ?_
  cases ended with
  | late => exact Act.maintains_pure _
  | aborted reason => exact Act.maintains_pure _
  | inTime ended =>
    dsimp only
    cases c.findings ended with
    | ok fs => exact Act.maintains_pure _
    | error f => exact Act.maintains_fail

section Audit

variable (hhoused : w.paths.Housed) (hwrites : writes) (hspares : w.Spares host)
include hhoused hwrites hspares

theorem maintains_runner (call : CommandCall) (limit : Nat) :
    Maintains (w.KeepsSession writes R) (runnerAtDesk host call limit) := by
  refine maintains_onDisk ?_
  intro j o disk hj hends
  exact hj.spared hhoused hwrites (hspares call limit j o disk hends)

theorem maintains_validator (c : CommandValidator) (scope : AuditScope) (limit : Nat) :
    Maintains (w.KeepsSession writes R) ((c.validator (runnerAtDesk host)).run scope limit) :=
  maintains_validator_of_runner (maintains_runner hhoused hwrites hspares) c scope limit

theorem maintains_strategy (c : CommandStrategy) (f : Finding) (scope : AuditScope) (limit : Nat) :
    Maintains (w.KeepsSession writes R) (c.apply (runnerAtDesk host) f scope limit) := by
  refine (Act.maintains_log _).bind fun _ => ?_
  refine (maintains_runner hhoused hwrites hspares _ _).bind fun ended => ?_
  cases ended with
  | late => exact Act.maintains_pure _
  | aborted reason => exact Act.maintains_pure _
  | inTime ended =>
    dsimp only
    cases c.fault? ended with
    | some fault => exact Act.maintains_fail
    | none => exact Act.maintains_pure _

end Audit

/-! ## Orchestrators and engines -/

/-- The orchestrator is one of the workspace: it has the authorization of the agent, and its validators
are programs. -/
structure Equips (w : Workspace) (host : Host) (agent : Option String) (o : Orchestrator Desk) :
    Prop where
  authorization : o.authorization = some (w.authorization agent)
  validators : ∀ v ∈ o.validators, ∃ c : CommandValidator, v = c.validator (runnerAtDesk host)

theorem Equips.register {o o' : Orchestrator Desk}
    (h : w.Equips host agent o) {c : CommandValidator}
    (hregister : o.register (c.validator (runnerAtDesk host)) = .ok o') :
    w.Equips host agent o' := by
  unfold Orchestrator.register at hregister
  split at hregister
  · cases hregister
  · cases hregister
    refine ⟨h.authorization, fun v hv => ?_⟩
    rcases List.mem_append.1 hv with hold | hnew
    · exact h.validators v hold
    · exact ⟨c, List.mem_singleton.1 hnew⟩

theorem Equips.addRule {o o' : Orchestrator Desk}
    (h : w.Equips host agent o) {r : CompoundRule} (hadd : o.addRule r = .ok o') :
    w.Equips host agent o' := by
  unfold Orchestrator.addRule at hadd
  split at hadd
  · cases hadd
  · cases hadd
    exact ⟨h.authorization, h.validators⟩

/-- Building the orchestrator changes nothing. -/
theorem upholds_orchestrator {P : Desk → Prop} (w : Workspace) (host : Host)
    (agent : Option String) : Upholds P (w.orchestrator host agent) (w.Equips host agent) := by
  have hstart (o : Orchestrator Desk) (ho : o.authorization = some (w.authorization agent))
      (hnone : o.validators = []) : w.Equips host agent o := ⟨ho, by simp [hnone]⟩
  unfold orchestrator
  refine (Act.upholds_foldlM ?_ _ (hstart _ rfl rfl)).bind ?_
  · intro o c ho
    refine (Act.upholds_ofExcept fun o' ho' => ho.register ho').bind fun o' ho' => ?_
    exact (Act.maintains_log _).upholds.bind fun _ _ => Act.upholds_pure ho'
  · intro o ho
    refine Act.upholds_foldlM ?_ _ ho
    intro o r ho
    refine (Act.upholds_ofExcept fun o' ho' => ho.addRule ho').bind fun o' ho' => ?_
    refine (Act.maintains_forM (fun _ => Act.maintains_log _) _).upholds.bind fun _ _ => ?_
    exact Act.upholds_pure ho'

/-- Storing a report maintains what writing a file to the directory of the reports maintains. -/
theorem maintains_save_of_write {P : Disk → Prop}
    (hwrite : ∀ {s}, Path.IsName s → ∀ bytes,
      Maintains P (Snapshot.writeBytes (w.paths.audits.join s) bytes false)) (report : AuditReport) :
    Maintains (fun desk => P desk.session)
      (onDisk (ReportStore.save ⟨w.paths.audits⟩ report)) := by
  have hpath (path : Path) (hok : ReportStore.reportPath ⟨w.paths.audits⟩ report.runId = .ok path) :
      ∃ s, Path.IsName s ∧ path = w.paths.audits.join s := by
    unfold ReportStore.reportPath at hok
    split at hok
    · cases hok
      exact ⟨_, isName_of_isValidRunId ‹_›, rfl⟩
    · cases hok
  refine maintains_onDisk ?_
  refine (Act.upholds_ofExcept hpath).maintains_bind ?_
  rintro path ⟨s, hs, rfl⟩
  exact Maintains.bind (hwrite hs _) fun _ => Act.maintains_pure _

/-- An audit maintains what its authorization, its validators, the fixing if there is any, and the
storing of its report maintain. -/
theorem maintains_audit_of_parts {P : Desk → Prop} {fix : Bool}
    (hauth : Maintains P (w.authorization agent).decide)
    (hvalidator : ∀ (c : CommandValidator) scope limit,
      Maintains P ((c.validator (runnerAtDesk host)).run scope limit))
    (hfix : fix = true → ∀ {o}, w.Equips host agent o → ∀ scope report,
      Maintains P (w.remediate host o scope report))
    (hsave : ∀ report, Maintains P (onDisk (ReportStore.save ⟨w.paths.audits⟩ report)))
    (path : Option Path) (format : OutputFormat) :
    Maintains P (w.audit host path agent fix format) := by
  have hstore (report : AuditReport) {f : Path → Act Desk CommandOutput}
      (hf : ∀ stored, Maintains P (f stored)) :=
    (hsave report).bind hf
  unfold audit
  refine Act.maintains_world.bind fun desk => ?_
  dsimp only
  cases desk.session.canonicalize _ with
  | error e => exact Act.maintains_fail
  | ok root =>
    simp only [pure_bind]
    refine (w.upholds_orchestrator host agent).maintains_bind fun o ho => ?_
    have hrun : Maintains P (o.run { root } host.stamp host.now) := by
      refine Orchestrator.maintains_run ?_ ?_ host.stamp host.now
      · rw [ho.authorization]
        rintro auth ⟨⟩
        exact hauth
      · intro v hv
        obtain ⟨c, rfl⟩ := ho.validators v hv
        exact hvalidator c _ _
    refine hrun.bind fun report => ?_
    split
    · refine (hfix ‹_› ho _ report).bind fun fixes => ?_
      exact hstore report fun _ => (Act.maintains_log _).bind fun _ => Act.maintains_pure _
    · exact hstore report fun _ => (Act.maintains_log _).bind fun _ => Act.maintains_pure _

/-- The engine of the workspace has the validators of the orchestrator and the configured strategies. -/
theorem engine_eq (w : Workspace) (host : Host) (o : Orchestrator Desk) (scope : AuditScope) :
    w.engine host o scope =
      { scope
        escalation := w.escalations
        attemptTimeout := w.settings.remediation.attemptTimeout
        validators := o.validators.reverse
        strategies := w.settings.remediation.strategies.map (·.strategy (runnerAtDesk host)) } := by
  have hvalidators (vs : List (Validator Desk)) (e : Engine Desk) :
      vs.foldl (fun e v => e.withValidator v) e =
        { e with validators := vs.reverse ++ e.validators } := by
    induction vs generalizing e with
    | nil => rfl
    | cons v vs ih =>
      rw [List.foldl_cons, ih]
      simp [Engine.withValidator]
  have hstrategies (cs : List CommandStrategy) (e : Engine Desk) :
      cs.foldl (fun e c => e.withStrategy (c.strategy (runnerAtDesk host))) e =
        { e with strategies := e.strategies ++ cs.map (·.strategy (runnerAtDesk host)) } := by
    induction cs generalizing e with
    | nil => simp
    | cons c cs ih =>
      rw [List.foldl_cons, ih]
      simp [Engine.withStrategy]
  simp [engine, Engine.withValidatorsFrom, hvalidators, hstrategies]

section Audit

variable (hhoused : w.paths.Housed) (hwrites : writes)
include hhoused hwrites

theorem maintains_escalate {record : EscalationRecord} (h : IsFingerprint record.fingerprint) :
    Maintains (w.KeepsSession writes R) (w.escalations.escalate record) := by
  unfold escalations EscalationChannel.onPart EscalationChannel.files EscalationChannel.recordPath
    Snapshot.write
  dsimp only
  exact maintains_onDisk (maintains_write hhoused hwrites (.inr rfl) h.isName _ true)

theorem maintains_saveReport (report : AuditReport) :
    Maintains (w.KeepsSession writes R) (onDisk (ReportStore.save ⟨w.paths.audits⟩ report)) :=
  maintains_save_of_write (fun hs _ => maintains_write hhoused hwrites (.inl rfl) hs _ false) report

variable (hspares : w.Spares host)
include hspares

theorem minds_engine {o : Orchestrator Desk} (ho : w.Equips host agent o)
    (scope : AuditScope) : (w.engine host o scope).Minds (w.KeepsSession writes R) := by
  rw [engine_eq]
  refine ⟨?_, fun _ _ _ h => h, ?_⟩
  · intro v hv
    obtain ⟨c, rfl⟩ := ho.validators v (List.mem_reverse.1 hv)
    exact maintains_validator hhoused hwrites hspares c _ _
  · intro f prior desk s hs
    have hmem := List.mem_of_mem_filter (List.mem_of_mem_filter (List.mem_of_find?_eq_some hs))
    obtain ⟨c, -, rfl⟩ := List.mem_map.1 hmem
    exact maintains_strategy hhoused hwrites hspares c f _ _

theorem maintains_remediate {o : Orchestrator Desk}
    (ho : w.Equips host agent o) (scope : AuditScope) (report : AuditReport) :
    Maintains (w.KeepsSession writes R) (w.remediate host o scope report) := by
  have hminds := minds_engine (R := R) hhoused hwrites hspares ho scope
  have hescalation : (w.engine host o scope).escalation = w.escalations := by rw [engine_eq]
  have hfix (f : Finding) : Maintains (fun e => w.KeepsSession writes R e.outer)
      ((w.engine host o scope).fix f host.now) := by
    refine Engine.maintains_fix hminds ?_ ?_ f host.now
    · intro fingerprint
      rw [hescalation]
      exact maintains_onDisk (Act.maintains_world.bind fun _ => Act.maintains_ofExcept _)
    · intro record f now hrecord
      rw [hescalation]
      exact maintains_escalate hhoused hwrites ⟨f, hrecord.fingerprint.symm⟩
  unfold remediate
  split
  · refine Maintains.bind ?_ fun _ => Act.maintains_pure _
    exact Maintains.onPart (fun h => h) (fun _ h => h) (Engine.maintains_fixAll hfix report)
  · exact Act.maintains_pure _

/-- An audit maintains what its authorization maintains. -/
theorem maintains_audit
    (hauth : Maintains (w.KeepsSession writes R) (w.authorization agent).decide)
    (path : Option Path) (fix : Bool) (format : OutputFormat) :
    Maintains (w.KeepsSession writes R) (w.audit host path agent fix format) :=
  maintains_audit_of_parts hauth (maintains_validator hhoused hwrites hspares)
    (fun _ _ ho => maintains_remediate hhoused hwrites hspares ho)
    (maintains_saveReport hhoused hwrites) path format

end Audit

/-! ## Commands that change nothing on their own -/

theorem maintains_authorization
    (hR : agent = none →
      ∀ {s id}, R s → s.activeAgent = some id → w.index.find? id = none → R s.deactivate) :
    Maintains (w.KeepsSession writes R) (w.authorization agent).decide := by
  cases agent with
  | some agent => exact maintains_checkLogged w.enforcer w.index agent _
  | none =>
    refine Maintains.onPart (fun h => h) (fun _ h => h) ?_
    exact maintains_of_realizes (fun _ => Guard.realizes_checkActive _ _) (hR rfl)

/-- What an act on a store yields and leaves, without touching the world around it. -/
theorem ends_onStore {σ α : Type} {store s : DescriptorStore} {act : Act DescriptorStore α}
    {o : Except GovernanceError α} {j : Journal σ}
    (h : Ends act { world := store, events := j.events } o s) :
    Ends (onStore store act) j (o.map fun a => (s, a)) j.world := by
  unfold Ends at h ⊢
  unfold onStore
  cases hact : act { world := store, events := j.events } with
  | ok a k =>
    rw [hact] at h
    obtain ⟨rfl, rfl⟩ := h
    exact ⟨rfl, rfl⟩
  | error e k =>
    rw [hact] at h
    obtain ⟨rfl, rfl⟩ := h
    exact ⟨rfl, rfl⟩

theorem upholds_load {P : Desk → Prop} (store : DescriptorStore) (disk : Disk) (directory : Path) :
    Upholds P (onStore store (DescriptorStore.load disk directory)) fun loaded =>
      loaded.1 = ((DescriptorStore.load disk directory).run store).world := by
  intro j o desk hj hends
  have hputs := DescriptorStore.puts_load disk directory
  cases hmakes : (StoreCall.load disk directory).makes store with
  | error e =>
    have herror := hputs.error (j := { world := store, events := j.events }) hmakes
    obtain ⟨rfl, rfl⟩ := hends.unique (ends_onStore herror)
    exact ⟨hj, nofun⟩
  | ok made =>
    obtain ⟨report, hload⟩ := hputs.ok (j := { world := store, events := j.events }) hmakes
    obtain ⟨rfl, rfl⟩ := hends.unique (ends_onStore hload)
    obtain ⟨_, hrun⟩ := hputs.ok (j := { world := store }) hmakes
    refine ⟨hj, ?_⟩
    rintro loaded ⟨⟩
    exact hrun.run.2.symm

/-- Reloading asks who is active by the descriptors that were loaded. -/
theorem keepsSession_of_reload {j : Journal Desk} {o : Except GovernanceError CommandOutput}
    {desk : Desk} (hj : w.KeepsSession writes R j.world)
    (hR : ∀ {s id}, R s → s.activeAgent = some id →
      (w.indexFor j.world.session .reload).find? id = none → R s.deactivate)
    (hends : Ends w.reload j o desk) : w.KeepsSession writes R desk := by
  unfold reload at hends
  refine (show Maintains (w.KeepsSession writes R) _ from ?_) j o desk hj hends.of_after_world
  refine (upholds_load _ _ _).maintains_bind fun loaded hloaded => ?_
  refine Maintains.bind (hloaded ▸ maintains_current hR) fun active => ?_
  cases active with
  | some d => exact Act.maintains_pure _
  | none => exact Act.maintains_pure _

/-- Showing an output in one format or the other changes nothing. -/
theorem maintains_shown {P : Desk → Prop} {json text : CommandOutput} (format : OutputFormat) :
    Maintains P (match format with | .json => pure json | .text => pure text) := by
  cases format with
  | json => exact Act.maintains_pure _
  | text => exact Act.maintains_pure _

section Asking

variable (hR : ∀ {s id}, R s → s.activeAgent = some id → w.index.find? id = none → R s.deactivate)
include hR

theorem maintains_agentList (format : OutputFormat) :
    Maintains (w.KeepsSession writes R) (w.agentList format) := by
  refine (maintains_current hR).bind fun active => ?_
  exact maintains_shown format

theorem maintains_status (format : OutputFormat) :
    Maintains (w.KeepsSession writes R) (w.status format) := by
  refine (maintains_current hR).bind fun active => maintains_session.bind fun state => ?_
  exact maintains_shown format

theorem maintains_bleedCheck (text : String) (format : OutputFormat) :
    Maintains (w.KeepsSession writes R) (w.bleedCheck text format) := by
  refine Maintains.bind (maintains_of_realizes (fun _ => Guard.realizes_checkBleed _) hR) fun _ => ?_
  exact maintains_shown format

end Asking

section AskingUnlessTold

variable (hR : agent = none →
  ∀ {s id}, R s → s.activeAgent = some id → w.index.find? id = none → R s.deactivate)
include hR

theorem maintains_check (action : String) (format : OutputFormat) :
    Maintains (w.KeepsSession writes R) (w.check action agent format) := by
  unfold check
  cases agent with
  | some agent =>
    exact Maintains.bind (maintains_checkLogged _ _ agent action) fun _ => Act.maintains_pure _
  | none =>
    refine Maintains.bind ?_ fun _ => Act.maintains_pure _
    exact maintains_of_realizes (fun _ => Guard.realizes_checkActive _ _) (hR rfl)

theorem maintains_blocked (format : OutputFormat) :
    Maintains (w.KeepsSession writes R) (w.blocked agent format) := by
  unfold blocked
  cases agent with
  | some agent =>
    refine (Act.maintains_pure agent).bind fun id => ?_
    exact maintains_shown format
  | none =>
    refine Maintains.bind (maintains_current (hR rfl)) fun active => ?_
    cases active with
    | none => exact Act.maintains_fail
    | some d =>
      refine (Act.maintains_pure d.id).bind fun id => ?_
      exact maintains_shown format

end AskingUnlessTold

section Looking

variable {P : Desk → Prop}

theorem maintains_agentShow (id : String) (format : OutputFormat) :
    Maintains P (w.agentShow id format) := by
  refine (Act.maintains_ofExcept _).bind fun d => ?_
  exact maintains_shown format

theorem maintains_agentValidate (id : Option String) (format : OutputFormat) :
    Maintains P (w.agentValidate id format) := by
  unfold agentValidate
  refine Act.maintains_world.bind fun desk => ?_
  cases id with
  | some id =>
    refine (Act.maintains_ofExcept _).bind fun v => (Act.maintains_pure _).bind fun results => ?_
    exact maintains_shown format
  | none =>
    refine (Act.maintains_pure _).bind fun results => ?_
    exact maintains_shown format

theorem maintains_report (run : Option String) (format : OutputFormat) :
    Maintains P (w.report run format) := by
  refine Act.maintains_world.bind fun desk => (Act.maintains_ofExcept _).bind fun found => ?_
  cases found with
  | none => exact Act.maintains_pure _
  | some report => exact Act.maintains_pure _

theorem maintains_listEscalations (format : OutputFormat) :
    Maintains P (w.listEscalations format) := by
  refine Act.maintains_world.bind fun desk => (Act.maintains_ofExcept _).bind fun records => ?_
  exact maintains_shown format

theorem maintains_showSettings (format : OutputFormat) : Maintains P (w.showSettings format) := by
  cases format with
  | json => exact Act.maintains_pure _
  | text => exact (Act.maintains_ofExcept _).bind fun _ => Act.maintains_pure _

end Looking

/-- A command that is not there to change the session maintains what ending a stale session maintains,
and any condition on the session if it does not ask who is active. -/
theorem keepsSession_of_dispatch {c : Command} (hhoused : w.paths.Housed) (hspares : w.Spares host)
    (hc : c.changesSession = false) (hwrites : c.isAudit = true → writes) {j : Journal Desk}
    {o : Except GovernanceError CommandOutput} {desk : Desk}
    (hj : w.KeepsSession writes R j.world)
    (hR : c.asksWho = true → ∀ {s id}, R s → s.activeAgent = some id →
      (w.indexFor j.world.session c).find? id = none → R s.deactivate)
    (hends : Ends (w.dispatch host c) j o desk) : w.KeepsSession writes R desk := by
  cases c with
  | activate => cases hc
  | deactivate => cases hc
  | touch => cases hc
  | reload => exact keepsSession_of_reload hj (hR rfl) hends
  | agentList format => exact maintains_agentList (hR rfl) format j o desk hj hends
  | status format => exact maintains_status (hR rfl) format j o desk hj hends
  | bleedCheck text format => exact maintains_bleedCheck (hR rfl) text format j o desk hj hends
  | check action agent format =>
    refine maintains_check (fun hnone => hR ?_) action format j o desk hj hends
    rw [hnone]
    rfl
  | blocked agent format =>
    refine maintains_blocked (fun hnone => hR ?_) format j o desk hj hends
    rw [hnone]
    rfl
  | audit path agent fix format =>
    have hauth : Maintains (w.KeepsSession writes R) (w.authorization agent).decide := by
      refine maintains_authorization fun hnone => hR ?_
      rw [hnone]
      rfl
    exact maintains_audit hhoused (hwrites rfl) hspares hauth path fix format j o desk hj hends
  | agentShow id format => exact maintains_agentShow id format j o desk hj hends
  | agentValidate id format => exact maintains_agentValidate id format j o desk hj hends
  | report run format => exact maintains_report run format j o desk hj hends
  | escalations format => exact maintains_listEscalations format j o desk hj hends
  | config format => exact maintains_showSettings format j o desk hj hends

/-! ## All commands -/

/-- Carrying out a command leaves the disk as its part at the desk does. -/
theorem ends_execute {c : Command} {disk : Disk} {o : Except GovernanceError CommandOutput}
    {desk : Desk} (h : Ends (w.dispatch host c) { world := { session := disk } } o desk) :
    ∃ o', Ends (w.execute host c) { world := disk } o' desk.session := by
  unfold execute
  generalize w.dispatch host c = act at h
  have hpart : Ends (Act.onPart (fun d => ({ session := d } : Desk)) (fun g _ => g.session) act)
      { world := disk } o desk.session := Ends.onPart h
  cases o with
  | error e => exact ⟨_, hpart.bind_error⟩
  | ok output => exact ⟨_, hpart.bind fun k hk => hk ▸ Act.ends_pure _⟩

theorem keeps_of_execute {c : Command} (hhoused : w.paths.Housed) (hspares : w.Spares host)
    (hc : c.changesSession = false) (hwrites : c.isAudit = true → writes) {disk : Disk}
    (hdisk : w.paths.Keeps writes R disk)
    (hR : c.asksWho = true → ∀ {s id}, R s → s.activeAgent = some id →
      (w.indexFor disk c).find? id = none → R s.deactivate) :
    w.paths.Keeps writes R ((w.execute host c).run disk).world := by
  obtain ⟨o, desk, hdispatch⟩ := Ends.exists (w.dispatch host c) { world := { session := disk } }
  have hkept : w.KeepsSession writes R desk :=
    keepsSession_of_dispatch (j := { world := { session := disk } }) hhoused hspares hc hwrites hdisk
      hR hdispatch
  obtain ⟨o', hexecute⟩ := ends_execute hdispatch
  rw [hexecute.run.2]
  exact hkept

/-- Whatever its arguments, a command that is not there to change the session leaves it as it was, or
without its agent if that has no descriptor among those in force. It leaves the history in any case,
and all of the session if it does not ask who is active. For an audit it has to be known where the
session file is. -/
theorem execute_keeps_session (w : Workspace) (host : Host) (c : Command) (disk loaded : Disk)
    (hpaths : StatePaths.resolve w.settings.descriptors w.settings.session host.environment w.root
      loaded = .ok w.paths)
    (hdisk : disk.Proper) (hspares : w.Spares host) (hc : c.changesSession = false)
    (hreached : c.isAudit = true → w.paths.Reached disk) :
    let before := w.session disk
    let after := w.session ((w.execute host c).run disk).world
    after.history = before.history ∧
    (after = before ∨ ∃ id, before.activeAgent = some id ∧ (w.indexFor disk c).find? id = none ∧
      after = before.deactivate) ∧
    (c.asksWho = false → after = before) := by
  intro before after
  have hhoused := StatePaths.housed_of_resolve hpaths
  have hasked : SessionState.Asked (w.indexFor disk c) before after :=
    (keeps_of_execute hhoused hspares hc id ⟨hdisk, hreached, .inl rfl⟩
      fun _ _ _ hs hactive hstale => hs.deactivate hactive hstale).session
  refine ⟨hasked.history, hasked, fun hasks => ?_⟩
  have hkept : w.paths.Keeps (c.isAudit = true) (fun s => s = before)
      ((w.execute host c).run disk).world := by
    refine keeps_of_execute hhoused hspares hc id ⟨hdisk, hreached, rfl⟩ fun hask => ?_
    rw [hasks] at hask
    cases hask
  exact hkept.session

/-- Programs that do nothing until their time is over spare the session. -/
theorem spares_late {w : Workspace} {host : Host} (h : host.runner = fun _ _ => return .late) :
    w.Spares host := by
  intro call limit j o disk hends
  rw [h] at hends
  obtain ⟨-, rfl⟩ := hends.unique (Act.ends_pure _)
  exact StatePaths.spared_refl _ _

/-- A tree with one directory and a file in it is proper. -/
theorem proper_nested (dir name : String) (bytes : ByteArray) :
    Disk.Proper { tree := (FileTree.empty.put [dir] .directory).put [dir, name] (.file bytes) } := by
  have hbare : (FileTree.empty.put [dir] .directory).Proper :=
    FileTree.proper_empty.put (p := []) rfl (.inl rfl)
  refine ⟨hbare.put (p := [dir]) ?_ (.inr ?_), rfl⟩
  · rw [FileTree.node?_put_self _ (by simp)]
  · rw [List.singleton_append, FileTree.node?_put_of_ne _ (by simp)]
    simp [FileTree.node?, FileTree.empty]

/-- The session is that of an agent without descriptor. An audit for another agent leaves it alone, and
one for the active agent keeps its history. -/
theorem execute_keeps_session_stale :
    let w : Workspace :=
      { root := ⟨"/"⟩, settings := { session := { stateDir := some ⟨"s"⟩ } }
        paths :=
          { descriptors := ⟨"/agents"⟩, stateDir := ⟨"/s"⟩, sessionFile := ⟨"/s/session-state.json"⟩
            audits := ⟨"/s/audits"⟩, escalations := ⟨"/s/escalations"⟩ } }
    let host : Host :=
      { environment := [], now := ⟨0, 0⟩, stamp := { process := 0, sequence := 0 }
        runner := fun _ _ => return .late }
    let text := "[\"ghost\",null,null,null,null,[[\"ghost\",\"1970-01-01T00:00:00Z\"]]]"
    let disk : Disk :=
      { tree := (FileTree.empty.put ["s"] .directory).put ["s", "session-state.json"]
          (.file text.toUTF8) }
    (w.session disk).activeAgent = some "ghost" ∧ w.index.find? "ghost" = none ∧
      w.session ((w.execute host (.audit none (some "ops") true .text)).run disk).world =
        w.session disk ∧
      (w.session ((w.execute host (.audit none none true .text)).run disk).world).history =
        [{ agent := "ghost", time := ⟨0, 0⟩ }] := by
  intro w host text disk
  have hpaths : StatePaths.resolve w.settings.descriptors w.settings.session host.environment w.root
      disk = .ok w.paths := by decide +kernel
  have hreached : w.paths.Reached disk := .inl (by decide +kernel)
  have hkeeps (agent : Option String) := execute_keeps_session w host (.audit none agent true .text)
    disk disk hpaths (proper_nested _ _ _) (spares_late rfl) rfl fun _ => hreached
  have hhistory : (w.session disk).history = [{ agent := "ghost", time := ⟨0, 0⟩ }] := by
    decide +kernel
  exact ⟨by decide +kernel, rfl, (hkeeps (some "ops")).2.2 rfl, (hkeeps none).1.trans hhistory⟩

/-- Where the path of the state directory leads upwards out of a directory that is missing, an audit
creates that directory, and with it a session comes to light that could not be read before. -/
theorem audit_uncovers_session :
    let w : Workspace :=
      { root := ⟨"/"⟩, settings := { session := { stateDir := some ⟨"a/../b"⟩ } }
        paths :=
          { descriptors := ⟨"/agents"⟩, stateDir := ⟨"/a/../b"⟩
            sessionFile := ⟨"/a/../b/session-state.json"⟩, audits := ⟨"/a/../b/audits"⟩
            escalations := ⟨"/a/../b/escalations"⟩ } }
    let host : Host :=
      { environment := [], now := ⟨0, 0⟩, stamp := { process := 0, sequence := 0 }
        runner := fun _ _ => return .late }
    let text := "[\"ops\",null,null,null,null,[[\"ops\",\"1970-01-01T00:00:00Z\"]]]"
    let disk : Disk :=
      { tree := (FileTree.empty.put ["b"] .directory).put ["b", "session-state.json"]
          (.file text.toUTF8) }
    StatePaths.resolve w.settings.descriptors w.settings.session host.environment w.root disk =
        .ok w.paths ∧ disk.Proper ∧ w.Spares host ∧ w.session disk = {} ∧
      w.session ((w.execute host (.audit none (some "ops") false .text)).run disk).world =
        { activeAgent := some "ops", history := [{ agent := "ops", time := ⟨0, 0⟩ }] } := by
  intro w host text disk
  exact ⟨by decide +kernel, proper_nested _ _ _, spares_late rfl, by decide +kernel,
    by decide +kernel⟩

end Workspace

end Cli

end AgentGovernance
