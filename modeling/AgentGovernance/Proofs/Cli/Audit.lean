-- SUMMARY: The audit command: without a permission it runs no program, fixes nothing and escalates nothing.
import AgentGovernance.Proofs.Audit.Authorization
import AgentGovernance.Proofs.Cli.Session

/-!
# The audit command

Validators and strategies of a workspace are external programs. If the authorization of an audit
refuses it, none of them is run, whatever the programs would do, and whether or not findings are to
be fixed: the command ends in the same way with any runner of programs, without fixing and with any
directory for escalations. What it still writes, its report and the end of a stale session, lies beside
the escalations.
-/

namespace AgentGovernance.Cli

open Act (Ends LogsLike Maintains)

/-! ## Orchestrators with other programs -/

/-- Two orchestrators with the same authorization that differ in what their validators do. -/
structure Twins (auth : Authorization Desk) (o o' : Orchestrator Desk) : Prop where
  ids : o.validatorIds = o'.validatorIds
  authorization : o.authorization = some auth
  authorization' : o'.authorization = some auth

namespace Twins

variable {auth : Authorization Desk} {o o' : Orchestrator Desk} {v v' : Validator Desk}

theorem any_id (h : Twins auth o o') (id : String) :
    (o.validators.any fun v => v.id == id) = o'.validators.any fun v => v.id == id := by
  have hany (p : Orchestrator Desk) :
      (p.validators.any fun v => v.id == id) = p.validatorIds.any fun i => i == id := by
    simp only [Orchestrator.validatorIds, List.any_map, Function.comp_def]
  rw [hany o, hany o', h.ids]

theorem logsLike_register (h : Twins auth o o') (hv : v.id = v'.id) :
    LogsLike (Twins auth) (Act.ofExcept (o.register v) : Act Desk _)
      (Act.ofExcept (o'.register v')) := by
  unfold Orchestrator.register
  rw [h.any_id, hv]
  split
  · exact Act.logsLike_fail _
  · refine Act.logsLike_pure ⟨?_, h.authorization, h.authorization'⟩
    have hids := h.ids
    simp only [Orchestrator.validatorIds, List.map_append, List.map_cons, List.map_nil] at hids ⊢
    rw [hids, hv]

theorem logsLike_addRule (h : Twins auth o o') (r : CompoundRule) :
    LogsLike (Twins auth) (Act.ofExcept (o.addRule r) : Act Desk _)
      (Act.ofExcept (o'.addRule r)) := by
  unfold Orchestrator.addRule
  cases r.fault? with
  | some f => exact Act.logsLike_fail _
  | none => exact Act.logsLike_pure ⟨h.ids, h.authorization, h.authorization'⟩

theorem strangerEvents (h : Twins auth o o') (r : CompoundRule) :
    o.strangerEvents r = o'.strangerEvents r := by
  unfold Orchestrator.strangerEvents
  simp only [h.any_id]

/-- What follows a run that is refused does not depend on the validators. -/
theorem run_bind_of_refuses {γ : Type} (h : Twins auth o o') {j : Journal Desk}
    (hrefuses : auth.Refuses j) {f f' : AuditReport → Act Desk γ}
    (hf : ∀ report, report.IsRefusal → f report = f' report) (scope : AuditScope)
    (stamp : RunStamp) (now : Instant) :
    (o.run scope stamp now >>= f) j = (o'.run scope stamp now >>= f') j := by
  have hsame : o'.authorize = o.authorize := by
    unfold Orchestrator.authorize
    rw [h.authorization, h.authorization']
  obtain ⟨refusal, k, hrefusal⟩ := Orchestrator.authorize_of_refuses h.authorization hrefuses
  have hrun := Orchestrator.run_of_refusal hrefusal scope stamp now
  have hrun' := Orchestrator.run_of_refusal (hsame ▸ hrefusal) scope stamp now
  rw [Act.bind_of_ok hrun, Act.bind_of_ok hrun', hf _ (AuditReport.isRefusal_refused ..)]

end Twins

namespace Workspace

/-- Whom an audit of the workspace is for. -/
def requester (w : Workspace) : Option String → Requester Desk
  | some agent => .agent agent
  | none => .active id (fun g _ => g) (some w.guard)

theorem authorization_eq (w : Workspace) (agent : Option String) :
    w.authorization agent =
      (w.requester agent).authorization w.enforcer w.index w.settings.audit.requiredAction := by
  cases agent <;> rfl

/-- What the programs do has no part in building the orchestrator. -/
theorem logsLike_orchestrator (w : Workspace) (host host' : Host) (agent : Option String) :
    LogsLike (Twins (w.authorization agent)) (w.orchestrator host agent)
      (w.orchestrator host' agent) := by
  unfold orchestrator
  have hstart (o : Orchestrator Desk) (ho : o.authorization = some (w.authorization agent)) :
      Twins (w.authorization agent) o o := ⟨rfl, ho, ho⟩
  refine (Act.logsLike_foldlM ?_ _ (hstart _ rfl)).bind ?_
  · intro o o' c h
    have hid : (c.validator (runnerAtDesk host)).id = (c.validator (runnerAtDesk host')).id := rfl
    refine (h.logsLike_register hid).bind ?_
    intro p p' h'
    refine (Act.logsLike_log _).bind ?_
    rintro _ _ rfl
    exact Act.logsLike_pure h'
  · intro o o' h
    refine Act.logsLike_foldlM ?_ _ h
    intro p p' r hp
    refine (hp.logsLike_addRule r).bind ?_
    intro q q' hq
    rw [hp.strangerEvents]
    refine (Act.logsLike_log_each _).bind ?_
    rintro _ _ rfl
    exact Act.logsLike_pure hq

/-! ## Refused audits -/

theorem remediate_of_isRefusal (w : Workspace) (host : Host) (o : Orchestrator Desk)
    (scope : AuditScope) {report : AuditReport} (h : report.IsRefusal) :
    w.remediate host o scope report = pure none := by
  unfold remediate
  rw [h.phases]
  rfl

/-- Whether an audit is refused depends on the world alone. -/
theorem refuses_of_world (w : Workspace) {agent : Option String} {j k : Journal Desk}
    (hrefuses : (w.authorization agent).Refuses j) (hworld : k.world = j.world) :
    (w.authorization agent).Refuses k := by
  rw [authorization_eq, Requester.refuses_iff] at hrefuses ⊢
  rwa [hworld]

/-- The workspace with another directory for escalations. -/
def escalatingTo (w : Workspace) (dir : Path) : Workspace :=
  { w with paths := { w.paths with escalations := dir } }

/-- Without fixing, nothing is escalated, wherever escalations would go. -/
theorem audit_escalatingTo (w : Workspace) (dir : Path) (host : Host) (path : Option Path)
    (agent : Option String) (format : OutputFormat) :
    (w.escalatingTo dir).audit host path agent false format =
      w.audit host path agent false format := by
  have horchestrator : (w.escalatingTo dir).orchestrator host agent = w.orchestrator host agent := rfl
  unfold audit
  simp only [horchestrator, Bool.false_eq_true, if_false]
  rfl

/-- An audit that is refused does not depend on the programs, nor on whether to fix. -/
theorem audit_of_refuses (w : Workspace) (host : Host) (runner : CommandRunner Disk)
    (path : Option Path) (agent : Option String) (format : OutputFormat) {j : Journal Desk}
    (hrefuses : (w.authorization agent).Refuses j) :
    w.audit host path agent true format j =
      w.audit { host with runner } path agent false format j := by
  have hworld : (Act.world : Act Desk Desk) j = .ok j.world j := rfl
  unfold audit
  rw [Act.bind_of_ok hworld, Act.bind_of_ok hworld]
  simp only
  cases j.world.session.canonicalize _ with
  | error e =>
    have hfail : (Act.fail (.io e) : Act Desk Path) j = .error (.io e) j := rfl
    exact (Act.bind_of_error hfail _).trans (Act.bind_of_error hfail _).symm
  | ok root =>
    simp only [pure_bind, if_true, Bool.false_eq_true, if_false]
    refine (w.logsLike_orchestrator host { host with runner } agent).bind_eq ?_
    intro o o' events htwins
    have hthere : (w.authorization agent).Refuses ⟨j.world, events⟩ :=
      w.refuses_of_world hrefuses rfl
    refine htwins.run_bind_of_refuses hthere ?_ _ _ _
    intro report hreport
    rw [w.remediate_of_isRefusal host o _ hreport, pure_bind]

/-! ## Escalations after a refusal -/

/-- The place lies in the directory of the escalations, or deeper. -/
def AmongEscalations (w : Workspace) (cwd q : Place) : Prop :=
  w.paths.escalations.placeFrom cwd <+: q

variable {w : Workspace} {before : Disk}

theorem not_amongEscalations_session (h : w.paths.Housed) (cwd : Place) :
    ¬ w.AmongEscalations cwd (w.paths.sessionFile.placeFrom cwd) := by
  unfold AmongEscalations
  rw [(h.below cwd).escalations, (h.below cwd).session, List.prefix_append_right_inj]
  decide

theorem not_amongEscalations_audits (h : w.paths.Housed) {s : String} (hs : Path.IsName s)
    (cwd : Place) : ¬ w.AmongEscalations cwd ((w.paths.audits.join s).placeFrom cwd) := by
  unfold AmongEscalations
  rw [(h.below cwd).escalations, Path.placeFrom_join _ hs, (h.below cwd).audits, List.append_assoc,
    List.prefix_append_right_inj]
  simp

/-- On the way from a disk, no file among the escalations was added, changed or removed. -/
abbrev SparesEscalations (w : Workspace) (before after : Disk) : Prop :=
  before.Grown (fun q => ¬ w.AmongEscalations before.cwd q) after

theorem maintains_writeAside {path : Path}
    (hpath : ¬ w.AmongEscalations before.cwd (path.placeFrom before.cwd)) (bytes : ByteArray)
    (replaces : Bool) :
    Maintains (w.SparesEscalations before) (Snapshot.writeBytes path bytes replaces) := by
  intro j o disk hj hends
  refine hj.trans ((Snapshot.grown_of_ends hj.proper hends).mono ?_)
  rintro q ⟨-, rfl⟩
  exact hj.cwd ▸ hpath

/-- Asking for the authorization at most ends a stale session. -/
theorem maintains_authorizationAside (h : w.paths.Housed) (agent : Option String) :
    Maintains (fun desk : Desk => w.SparesEscalations before desk.session)
      (w.authorization agent).decide := by
  cases agent with
  | some agent => exact maintains_checkLogged w.enforcer w.index agent _
  | none =>
    refine Maintains.onPart (fun h => h) (fun _ h => h) ?_
    refine maintains_asking (fun _ => Guard.realizes_checkActive _ _) ?_
    intro j active saved disk hj _ _ hsaved
    exact maintains_writeAside (not_amongEscalations_session h _) _ true j saved disk hj
      (SessionStore.ends_write_of_save hsaved)

/-- An audit that is refused leaves the escalations as they are. -/
theorem audit_spares_escalations (h : w.paths.Housed) (host : Host) (path : Option Path)
    {agent : Option String} (format : OutputFormat) {j : Journal Desk}
    (hdisk : j.world.session.Proper) (hrefuses : (w.authorization agent).Refuses j)
    {o : Except GovernanceError CommandOutput} {desk : Desk}
    (hends : Ends (w.audit host path agent true format) j o desk) :
    w.SparesEscalations j.world.session desk.session := by
  -- The audit ends as with programs that do nothing and without fixing.
  let idle : Host := { host with runner := fun _ _ => return .late }
  have hidle : Ends (w.audit idle path agent false format) j o desk :=
    hends.of_eq (w.audit_of_refuses host idle.runner path agent format hrefuses).symm
  have haudit : Maintains (fun desk : Desk => w.SparesEscalations j.world.session desk.session)
      (w.audit idle path agent false format) := by
    refine maintains_audit_of_parts (maintains_authorizationAside h agent) ?_ ?_ ?_ path format
    · exact maintains_validator_of_runner fun _ _ => maintains_onDisk (Act.maintains_pure _)
    · intro hfix
      cases hfix
    · refine maintains_save_of_write fun hs bytes => ?_
      exact maintains_writeAside (not_amongEscalations_audits h hs _) bytes false
  exact haudit j o desk ⟨rfl, hdisk, fun _ hq => hq, fun _ _ => Iff.rfl⟩ hidle

end Workspace

/-- There is no work without authorization. Whoever a run is for, it keeps to what the persisted
session and the descriptors say about that agent: refused, it calls no validator and its report says
so; granted, it runs every validator once. An audit command that is refused runs no program at all,
and with fixing it does what it does without, wherever escalations would go: no file among them is
added, changed or removed. -/
theorem audit_needs_authorization {σ : Type} (o : Orchestrator σ) (r : Requester σ) (e : Enforcer)
    (index : DescriptorIndex) (action : String) (scope : AuditScope) (stamp : RunStamp)
    (now : Instant) (j : Journal σ) (w : Workspace) (host : Host) (path : Option Path)
    (agent : Option String) (format : OutputFormat) (desk : Journal Desk) :
    let auth := r.authorization e index action
    let gated : Orchestrator σ := { o with authorization := some auth }
    (auth.Refuses j ↔ ∀ d, ¬ r.Granted e index action j.world d) ∧
    (∀ d, auth.Grants j d ↔ r.Granted e index action j.world d) ∧
    (∃ (report : AuditReport) (k : Journal (Recorded σ)),
      gated.run scope stamp now j = .ok report (k.seen Recorded.inner) ∧
      gated.recorded.run scope stamp now (j.seen fun s => { inner := s }) = .ok report k ∧
      gated.KeepsToAuthorization auth j report k.world.calls) ∧
    ((w.authorization agent).Refuses desk → ∀ runner dir,
      w.audit host path agent true format desk =
        (w.escalatingTo dir).audit { host with runner } path agent false format desk) ∧
    ((w.authorization agent).Refuses desk → w.paths.Housed → desk.world.session.Proper →
      ∃ outcome after, Ends (w.audit host path agent true format) desk outcome after ∧
        ∀ q, w.AmongEscalations desk.world.session.cwd q → ∀ bytes,
          after.session.tree.node? q = some (.file bytes) ↔
            desk.world.session.tree.node? q = some (.file bytes)) := by
  intro auth gated
  refine ⟨r.refuses_iff e index action j, r.grants_iff e index action j, ?_, ?_, ?_⟩
  · obtain ⟨report, final, hends, hkeeps⟩ :=
      Orchestrator.ends_recorded_run (o := gated) rfl scope stamp now j
    obtain ⟨k, hrecorded, rfl⟩ := hends.ok
    obtain ⟨_, rfl, hplain⟩ := (gated.looksLike_run scope stamp now).ok hrecorded
    exact ⟨report, k, hplain, hrecorded, hkeeps⟩
  · intro hrefuses runner dir
    rw [w.audit_escalatingTo]
    exact w.audit_of_refuses host runner path agent format hrefuses
  · intro hrefuses hhoused hdisk
    obtain ⟨outcome, after, hends⟩ := Ends.exists (w.audit host path agent true format) desk
    have hspares := Workspace.audit_spares_escalations hhoused host path format hdisk hrefuses hends
    exact ⟨outcome, after, hends, fun q hq => hspares.files (not_not_intro hq)⟩

/-- The session names an agent without descriptor: neither a run nor an audit command with fixing does
anything. The record of an earlier escalation stays, and no other one appears. -/
theorem audit_needs_authorization_stale :
    let ghost : Requester (GuardWorld (Option SessionState)) :=
      .active id (fun g _ => g) (some { store := SessionStore.memory })
    let auth := ghost.authorization .default {} defaultAuditAction
    let deps : Validator (GuardWorld (Option SessionState)) :=
      { id := "deps", run := fun _ _ => return .inTime [] }
    let o : Orchestrator (GuardWorld (Option SessionState)) :=
      { validators := [deps], authorization := some auth }
    let w : Workspace :=
      { root := ⟨"/"⟩, settings := {}
        paths :=
          { descriptors := ⟨"/agents"⟩, stateDir := ⟨"/s"⟩, sessionFile := ⟨"/s/session-state.json"⟩
            audits := ⟨"/s/audits"⟩, escalations := ⟨"/s/escalations"⟩ } }
    let host : Host :=
      { environment := default, now := default, stamp := default, runner := fun _ _ => return .late }
    let stale : Journal (GuardWorld (Option SessionState)) :=
      { world := { session := some { activeAgent := some "ghost" } } }
    let session := "[\"ghost\",null,null,null,null,[]]".toUTF8
    let record := "an earlier record".toUTF8
    let tree := (((FileTree.empty.put ["s"] .directory).put ["s", "session-state.json"]
      (.file session)).put ["s", "escalations"] .directory).put ["s", "escalations", "x.json"]
        (.file record)
    let desk : Journal Desk := { world := { session := { tree } } }
    auth.Refuses stale ∧
    (∃ report k, o.recorded.run default default default (stale.seen fun s => { inner := s }) =
        .ok report k ∧ k.world.calls = [] ∧ report.IsRefusal) ∧
    (w.session desk.world.session).activeAgent = some "ghost" ∧ (w.authorization none).Refuses desk ∧
    (∀ runner dir, w.audit host none none true .text desk =
      (w.escalatingTo dir).audit { host with runner } none none false .text desk) ∧
    ∃ outcome after, Ends (w.audit host none none true .text) desk outcome after ∧
      after.session.tree.node? ["s", "escalations", "x.json"] = some (.file record) ∧
      ∀ bytes, after.session.tree.node? ["s", "escalations", "y.json"] ≠ some (.file bytes) := by
  intro ghost auth deps o w host stale session record tree desk
  have hnobody : (w.authorization none).Refuses desk := by
    rw [Workspace.authorization_eq, Requester.refuses_iff]
    rintro d ⟨id, hid, -⟩
    obtain ⟨known, hbind, -⟩ := Option.map_eq_some_iff.1 hid
    obtain ⟨active, -, hfind⟩ := Option.bind_eq_some_iff.1 hbind
    cases hfind
  have hhoused : w.paths.Housed := ⟨by decide +kernel, by decide +kernel, by decide +kernel⟩
  have hproper : desk.world.session.Proper := by
    have hroot : (FileTree.empty.put ["s"] .directory).Proper :=
      FileTree.proper_empty.put (p := []) rfl (.inl rfl)
    have hsession := hroot.put (p := ["s"]) (s := "session-state.json") (n := .file session)
      (by decide +kernel) (.inr (by decide +kernel))
    have hdir := hsession.put (p := ["s"]) (s := "escalations") (n := .directory)
      (by decide +kernel) (.inl rfl)
    exact ⟨hdir.put (p := ["s", "escalations"]) (by decide +kernel) (.inr (by decide +kernel)), rfl⟩
  have hplace : w.paths.escalations.placeFrom [] = ["s", "escalations"] := by decide +kernel
  have hamong (s : String) : w.AmongEscalations [] ["s", "escalations", s] :=
    ⟨[s], by rw [hplace]; rfl⟩
  obtain ⟨hiff, -, ⟨report, k, -, hrun, hkeeps⟩, haudit, hspares⟩ :=
    audit_needs_authorization o ghost .default {} defaultAuditAction default default default stale w
      host none none .text desk
  have hstale : auth.Refuses stale := by
    refine hiff.2 ?_
    rintro d ⟨id, hid, -⟩
    cases hid
  obtain ⟨hcalls, hreport⟩ := hkeeps.refused hstale
  obtain ⟨outcome, after, hends, hfiles⟩ := hspares hnobody hhoused hproper
  refine ⟨hstale, ⟨report, k, hrun, hcalls, hreport⟩, by decide +kernel, hnobody, haudit hnobody,
    outcome, after, hends, ?_, ?_⟩
  · exact (hfiles _ (hamong "x.json") record).2 rfl
  · intro bytes hbytes
    cases (hfiles _ (hamong "y.json") bytes).1 hbytes

end AgentGovernance.Cli
