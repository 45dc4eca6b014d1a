-- SUMMARY: Settings that are accepted make an orchestrator with all their validators and rules.
import AgentGovernance.Cli.Workspace
import AgentGovernance.Proofs.Audit.Authorization
import AgentGovernance.Proofs.Audit.Conservation

/-!
# Building the orchestrator

The settings are checked when they are loaded, and the orchestrator checks the same things again when
an audit is asked for: that no two validators share an id, and that the rules have no faults. Main
statement: the second check finds nothing that the first one lets through, so settings that are
accepted make an orchestrator with all their validators and rules, and the report of an authorized
run has one entry for each validator.
-/

namespace AgentGovernance

open Act (Ends)

/-! ## Accepted settings -/

namespace Settings

variable {s : Settings}

theorem validate_eq_ok_iff : s.validate = .ok () ↔ s.faults = [] := by
  rw [validate, ← List.isEmpty_iff]
  split
  · simp [*]
  · simp [*]

/-- Named programs are in order exactly if they are complete and no name is used twice. -/
theorem programFaults_eq_nil_iff {incomplete : SettingsFault} {repeated : String → SettingsFault}
    {seen : List String} {programs : List (String × String)} :
    programFaults incomplete repeated seen programs = [] ↔
      (∀ p ∈ programs, isBlankText p.1 = false ∧ isBlankText p.2 = false) ∧
        (programs.map (·.1)).Nodup ∧ ∀ p ∈ programs, p.1 ∉ seen := by
  induction programs generalizing seen with
  | nil => simp [programFaults]
  | cons p rest ih =>
    obtain ⟨name, command⟩ := p
    rw [programFaults]
    split
    · rename_i hblank
      simp only [reduceCtorEq, false_iff]
      rintro ⟨hcomplete, -⟩
      simp [hcomplete _ List.mem_cons_self] at hblank
    · rename_i hcomplete
      simp only [Bool.or_eq_true, not_or, Bool.not_eq_true] at hcomplete
      split
      · rename_i hseen
        simp only [reduceCtorEq, false_iff]
        rintro ⟨-, -, hnew⟩
        exact hnew _ List.mem_cons_self (List.contains_iff_mem.1 hseen)
      · rename_i hnew
        rw [List.contains_iff_mem] at hnew
        rw [ih]
        simp only [List.map_cons, List.nodup_cons, List.mem_cons, not_or, List.mem_map]
        grind

/-- Accepted settings give each validator an id of its own. -/
theorem nodup_ids_of_validate (h : s.validate = .ok ()) :
    (s.audit.validators.map (·.id)).Nodup := by
  have hfaults := validate_eq_ok_iff.1 h
  simp only [faults, List.append_eq_nil_iff, programFaults_eq_nil_iff] at hfaults
  obtain ⟨⟨⟨-, -, hnodup, -⟩, -⟩, -⟩ := hfaults
  simpa only [List.map_map, Function.comp_def] using hnodup

/-- Accepted settings have rules without faults. -/
theorem fault?_of_validate (h : s.validate = .ok ()) :
    ∀ r ∈ s.audit.compoundRules, r.fault? = none := by
  have hfaults := validate_eq_ok_iff.1 h
  simp only [faults, List.append_eq_nil_iff, List.map_eq_nil_iff,
    List.filterMap_eq_nil_iff] at hfaults
  exact hfaults.1.2

end Settings

/-! ## Registration -/

-- Only whether there is a fault matters from here on, not how the id of a rule is trimmed.
attribute [local irreducible] CompoundRule.fault?

namespace Orchestrator

variable {σ : Type} {o : Orchestrator σ}

/-- A validator with a new id is registered behind the others. -/
theorem ends_register {v : Validator σ} (h : v.id ∉ o.validatorIds) (j : Journal σ) :
    Ends (do
        let o' ← Act.ofExcept (o.register v)
        Act.log (registeredEvent v)
        return o') j (.ok { o with validators := o.validators ++ [v] }) j.world := by
  have hregister : o.register v = .ok { o with validators := o.validators ++ [v] } := by
    refine if_neg ?_
    rw [List.any_eq_true]
    rintro ⟨w, hw, hid⟩
    exact h (List.mem_map.2 ⟨w, hw, beq_iff_eq.1 hid⟩)
  rw [hregister, Act.ofExcept_ok_bind]
  exact (Act.ends_log _).bind fun k hk => hk ▸ Act.ends_pure _

/-- A rule without faults is added behind the others, whatever validators it names. -/
theorem ends_addRule {r : CompoundRule} (h : r.fault? = none) (j : Journal σ) :
    Ends (do
        let o' ← Act.ofExcept (o.addRule r)
        (o.strangerEvents r).forM Act.log
        return o') j (.ok { o with rules := o.rules ++ [r] }) j.world := by
  have hadd : o.addRule r = .ok { o with rules := o.rules ++ [r] } := by rw [addRule, h]
  rw [hadd, Act.ofExcept_ok_bind]
  exact (Act.ends_log_each _).bind fun k hk => hk ▸ Act.ends_pure _

end Orchestrator

namespace Cli.Workspace

/-- The orchestrator that the settings describe. -/
def configured (w : Workspace) (host : Host) (agent : Option String) : Orchestrator Desk where
  validators := w.settings.audit.validators.map (·.validator (runnerAtDesk host))
  rules := w.settings.audit.compoundRules
  validatorTimeout := w.settings.audit.validatorTimeout
  highThreshold := w.settings.audit.highThreshold
  authorization := some (w.authorization agent)

variable {w : Workspace} {host : Host} {agent : Option String}

theorem validatorIds_configured :
    (w.configured host agent).validatorIds = w.settings.audit.validators.map (·.id) :=
  List.map_map

/-- Validators with new ids are registered one after the other. -/
theorem ends_registerAll {cs : List CommandValidator} {o : Orchestrator Desk}
    (hnodup : (o.validatorIds ++ cs.map (·.id)).Nodup) (j : Journal Desk) :
    Ends (cs.foldlM (fun o c => do
        let v := c.validator (runnerAtDesk host)
        let o' ← Act.ofExcept (o.register v)
        Act.log (Orchestrator.registeredEvent v)
        return o') o) j
      (.ok { o with validators := o.validators ++ cs.map (·.validator (runnerAtDesk host)) })
      j.world := by
  induction cs generalizing o j with
  | nil =>
    rw [List.map_nil, List.append_nil]
    exact Act.ends_pure o
  | cons c cs ih =>
    have hnew : (c.validator (runnerAtDesk host)).id ∉ o.validatorIds := by
      intro hmem
      exact (List.nodup_append.1 hnodup).2.2 _ hmem _ List.mem_cons_self rfl
    rw [List.foldlM_cons]
    refine (Orchestrator.ends_register hnew j).bind ?_
    intro k hk
    have hrest : (({ o with
        validators := o.validators ++ [c.validator (runnerAtDesk host)] } :
          Orchestrator Desk).validatorIds ++ cs.map (·.id)).Nodup := by
      simpa [Orchestrator.validatorIds, CommandValidator.validator] using hnodup
    have hall := ih hrest k
    simp only [List.append_assoc, List.singleton_append, hk] at hall
    exact hall

/-- Rules without faults are added one after the other. -/
theorem ends_addRules {rs : List CompoundRule} (h : ∀ r ∈ rs, r.fault? = none)
    (o : Orchestrator Desk) (j : Journal Desk) :
    Ends (rs.foldlM (fun o r => do
        let o' ← Act.ofExcept (o.addRule r)
        (o.strangerEvents r).forM Act.log
        return o') o) j (.ok { o with rules := o.rules ++ rs }) j.world := by
  induction rs generalizing o j with
  | nil =>
    rw [List.append_nil]
    exact Act.ends_pure o
  | cons r rs ih =>
    obtain ⟨hr, hrs⟩ := List.forall_mem_cons.1 h
    rw [List.foldlM_cons]
    refine (Orchestrator.ends_addRule hr j).bind ?_
    intro k hk
    have hall := ih hrs { o with rules := o.rules ++ [r] } k
    simp only [List.append_assoc, List.singleton_append, hk] at hall
    exact hall

/-- Distinct ids and rules without faults are all that it takes to build the orchestrator. -/
theorem ends_orchestrator (hids : (w.settings.audit.validators.map (·.id)).Nodup)
    (hrules : ∀ r ∈ w.settings.audit.compoundRules, r.fault? = none) (j : Journal Desk) :
    Ends (w.orchestrator host agent) j (.ok (w.configured host agent)) j.world := by
  unfold orchestrator
  refine Ends.bind (ends_registerAll ?_ j) ?_
  · exact hids
  · intro k hk
    exact hk ▸ ends_addRules hrules _ k

/-- Settings that are accepted make an orchestrator, for a given agent or for the active one: with
every validator, in order, and every rule. The report of an authorized run has one entry for each
validator, and no other. -/
theorem accepted_settings_build (w : Workspace) (h : w.settings.validate = .ok ()) (host : Host)
    (agent : Option String) :
    let audit := w.settings.audit
    ∃ o : Orchestrator Desk,
      (∀ j : Journal Desk, Ends (w.orchestrator host agent) j (.ok o) j.world) ∧
      o.validators = audit.validators.map (·.validator (runnerAtDesk host)) ∧
      o.rules = audit.compoundRules ∧ o.authorization = some (w.authorization agent) ∧
      ∀ (scope : AuditScope) (stamp : RunStamp) (now : Instant) (j : Journal Desk)
        (who : Option String) (desk : Desk), Ends o.authorize j (.ok (.ok who)) desk →
        ∃ report desk', Ends (o.run scope stamp now) j (.ok report) desk' ∧
          (report.raw.map (·.1)).Perm (audit.validators.map (·.id)) ∧
          report.raw.length = audit.validators.length := by
  intro audit
  have hids := Settings.nodup_ids_of_validate h
  refine ⟨w.configured host agent, ends_orchestrator hids (Settings.fault?_of_validate h), rfl, rfl,
    rfl, ?_⟩
  intro scope stamp now j who desk hauth
  have hnodup : (w.configured host agent).validatorIds.Nodup := validatorIds_configured ▸ hids
  obtain ⟨runs, k, l, -, hran, hrun⟩ := (w.configured host agent).ends_run hauth scope stamp now
  have hconserves :=
    (w.configured host agent).conserves_assemble hran.ids hnodup scope who stamp now
  have hkeys := hconserves.keys
  rw [validatorIds_configured] at hkeys
  exact ⟨_, _, hrun, hkeys, by simpa using hkeys.length_eq⟩

/-- Two validators, the second one with an id that only looks like that of the first, and a rule that
names someone who is not there. -/
theorem accepted_settings_build_lookalikes :
    let audit : AuditSettings :=
      { validators := [⟨"lint", "lint", []⟩, ⟨"lint ", "slow-lint", []⟩]
        compoundRules := [.new "both" ["lint", "secrets"] .high "seen twice"] }
    let ops : AgentDescriptor := .withCan (.new "ops") ["Run Audit"]
    let w : Workspace :=
      { root := ⟨"/ws"⟩, settings := { audit }, paths := default
        descriptors := { index := { descriptors := [ops] } } }
    let host : Host :=
      { environment := default, now := default, stamp := default, runner := fun _ _ => return .late }
    let desk : Desk := { session := default }
    w.settings.validate = .ok () ∧
      ∃ (o : Orchestrator Desk) (report : AuditReport) (desk' : Desk),
        Ends (w.orchestrator host (some "ops")) { world := desk } (.ok o) desk ∧
        Ends (o.run default default default) { world := desk } (.ok report) desk' ∧
        (report.raw.map (·.1)).Perm ["lint", "lint "] := by
  intro audit ops w host desk
  have hvalid : w.settings.validate = .ok () :=
    Settings.validate_eq_ok_iff.2 (by decide +kernel)
  obtain ⟨o, hbuild, -, -, hauth, hruns⟩ := accepted_settings_build w hvalid host (some "ops")
  have hallowed : (w.enforcer.check w.index "ops" audit.requiredAction).isBlocked = false := by
    decide +kernel
  have hauthorized := Orchestrator.ends_authorize_of_allowed (j := { world := desk }) hauth
    Enforcer.ends_checkLogged hallowed
  obtain ⟨report, desk', hrun, hkeys, -⟩ := hruns default default default _ _ _ hauthorized
  exact ⟨hvalid, o, report, desk', hbuild _, hrun, hkeys⟩

end Cli.Workspace

end AgentGovernance
