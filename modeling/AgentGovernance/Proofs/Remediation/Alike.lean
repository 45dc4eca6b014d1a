-- SUMMARY: Engines over plug-ins that do alike do alike themselves.
import AgentGovernance.Proofs.Audit.Labels
import AgentGovernance.Remediation.Engine

/-!
# Engines that do alike

Two engines may work in different worlds, by different clocks and with different plug-ins. If the
plug-ins do alike in worlds that are related, then so do the engines. Of a re-validation an engine
uses neither the validator nor the kind that a finding names, so validators do alike if they return
the same findings up to these labels.

Main statement: a fix by one of the engines is mirrored by a fix by the other.
-/

namespace AgentGovernance

variable {σ τ : Type}

/-! ## Equal but for times -/

/-- The attempts are equal but for their times, which go together by the clocks. -/
def FixAttempt.Alike (clocks : Instant → Instant → Prop) (a b : FixAttempt) : Prop :=
  clocks a.time b.time ∧ { a with time := b.time } = b

/-- The results are equal but for the times of their attempts. -/
structure RemediationResult.Alike (clocks : Instant → Instant → Prop) (r s : RemediationResult) :
    Prop where
  fingerprint : r.fingerprint = s.fingerprint
  state : r.state = s.state
  attempts : List.Forall₂ (FixAttempt.Alike clocks) r.attempts s.attempts
  reason : r.reason = s.reason

/-- The records are equal but for their times. -/
structure EscalationRecord.Alike (clocks : Instant → Instant → Prop) (r s : EscalationRecord) :
    Prop where
  fingerprint : r.fingerprint = s.fingerprint
  finding : r.finding = s.finding
  attempts : List.Forall₂ (FixAttempt.Alike clocks) r.attempts s.attempts
  reason : r.reason = s.reason
  escalatedAt : clocks r.escalatedAt s.escalatedAt

/-! ## Plug-ins that do alike -/

section Plugins

variable (W : σ → τ → Prop) (clocks : Instant → Instant → Prop)

structure FixStrategy.Alike (s : FixStrategy σ) (t : FixStrategy τ) : Prop where
  name : s.name = t.name
  appliesTo : s.appliesTo = t.appliesTo
  apply : ∀ f scope limit, Act.Mirrors W Eq (s.apply f scope limit) (t.apply f scope limit)

/-- The validators return the same findings up to labels. -/
structure Validator.Alike (v : Validator σ) (u : Validator τ) : Prop where
  id : v.id = u.id
  run : ∀ scope limit,
    Act.Mirrors W Orchestrator.RelabelledAnswer (v.run scope limit) (u.run scope limit)

/-- Among strategies that do alike, after attempts that are alike, the selectors choose strategies
that do alike. -/
def StrategySelector.Alike (c : StrategySelector σ) (d : StrategySelector τ) : Prop :=
  ∀ {f ss ts prior prior' w w'}, List.Forall₂ (FixStrategy.Alike W) ss ts →
    List.Forall₂ (FixAttempt.Alike clocks) prior prior' → W w w' →
    Option.Rel (FixStrategy.Alike W) (c.select f ss prior w).1 (d.select f ts prior' w').1 ∧
    W (c.select f ss prior w).2 (d.select f ts prior' w').2

structure EscalationChannel.Alike (c : EscalationChannel σ) (d : EscalationChannel τ) : Prop where
  escalate : ∀ {r s}, EscalationRecord.Alike clocks r s →
    Act.Mirrors W Eq (c.escalate r) (d.escalate s)
  find : ∀ fingerprint, Act.Mirrors W (Option.Rel (EscalationRecord.Alike clocks))
    (c.find fingerprint) (d.find fingerprint)

/-- The engines have the same settings and plug-ins that do alike. -/
structure Engine.Alike (e : Engine σ) (d : Engine τ) : Prop where
  scope : e.scope = d.scope
  attemptTimeout : e.attemptTimeout = d.attemptTimeout
  strategies : List.Forall₂ (FixStrategy.Alike W) e.strategies d.strategies
  validators : List.Forall₂ (Validator.Alike W) e.validators d.validators
  selector : StrategySelector.Alike W clocks e.selector d.selector
  escalation : EscalationChannel.Alike W clocks e.escalation d.escalation

/-- The plug-ins' worlds are related, and the ledgers are equal but for times. -/
structure EngineWorld.Alike (w : EngineWorld σ) (v : EngineWorld τ) : Prop where
  outer : W w.outer v.outer
  ledger : List.Forall₂ (fun l m => l.1 = m.1 ∧ RemediationResult.Alike clocks l.2 m.2)
    w.ledger v.ledger

end Plugins

variable {W : σ → τ → Prop} {clocks : Instant → Instant → Prop}

/-! ## Results and ledgers -/

namespace RemediationResult

variable {fingerprint reason : String} {attempts attempts' : List FixAttempt}

theorem alike_fixed (h : List.Forall₂ (FixAttempt.Alike clocks) attempts attempts') :
    (fixed fingerprint attempts).Alike clocks (fixed fingerprint attempts') :=
  ⟨rfl, rfl, h, rfl⟩

theorem alike_escalated (h : List.Forall₂ (FixAttempt.Alike clocks) attempts attempts') :
    (escalated fingerprint attempts reason).Alike clocks (escalated fingerprint attempts' reason) :=
  ⟨rfl, rfl, h, rfl⟩

theorem Alike.isEscalated {r s : RemediationResult} (h : r.Alike clocks s) :
    r.isEscalated = s.isEscalated := by
  unfold RemediationResult.isEscalated
  rw [h.state]

end RemediationResult

/-- What is escalated in one ledger is escalated in the other. -/
theorem EngineWorld.Alike.escalated {w : EngineWorld σ} {v : EngineWorld τ} (h : w.Alike W clocks v)
    (fingerprint : String) :
    Option.Rel (RemediationResult.Alike clocks)
      ((w.ledger.lookup fingerprint).filter fun r => r.isEscalated)
      ((v.ledger.lookup fingerprint).filter fun r => r.isEscalated) := by
  obtain ⟨-, hledger⟩ := h
  generalize w.ledger = ledger at hledger
  generalize v.ledger = ledger' at hledger
  induction hledger with
  | nil => exact .none
  | @cons l m _ _ hl _ ih =>
    obtain ⟨key, r⟩ := l
    obtain ⟨key', s⟩ := m
    obtain ⟨rfl, hr⟩ := hl
    rw [List.lookup_cons, List.lookup_cons]
    cases fingerprint == key with
    | true =>
      simp only [Option.filter_some, hr.isEscalated]
      split
      · exact .some hr
      · exact .none
    | false => exact ih

namespace Engine

open Act (Mirrors)

/-- An act on the plug-ins' worlds. -/
theorem mirrors_onOuter {α β : Type} {R : α → β → Prop} {x : Act σ α} {y : Act τ β}
    (h : Mirrors W R x y) : Mirrors (EngineWorld.Alike W clocks) R (onOuter x) (onOuter y) :=
  h.onPart (fun hw => hw.outer) fun hw hs => ⟨hs, hw.ledger⟩

theorem mirrors_settle (fingerprint : String) {r s : RemediationResult} (h : r.Alike clocks s) :
    Mirrors (EngineWorld.Alike W clocks) Eq (settle fingerprint r) (settle fingerprint s) := by
  refine Act.mirrors_world.bind ?_
  intro w v hw
  refine Act.mirrors_setWorld ⟨hw.outer, .cons ⟨rfl, h⟩ ?_⟩
  exact List.rel_filter (fun _ _ hl => by simp [hl.1]) hw.ledger

variable {e : Engine σ} {d : Engine τ}

theorem Alike.settledEscalation (h : e.Alike W clocks d) (fingerprint : String) :
    Mirrors (EngineWorld.Alike W clocks) (Option.Rel (RemediationResult.Alike clocks))
      (e.settledEscalation fingerprint) (d.settledEscalation fingerprint) := by
  refine Act.mirrors_world.bind ?_
  intro w v hw
  have hsettled := hw.escalated fingerprint
  revert hsettled
  generalize (w.ledger.lookup fingerprint).filter (fun r => r.isEscalated) = known
  generalize (v.ledger.lookup fingerprint).filter (fun r => r.isEscalated) = known'
  rintro (hr | _)
  · exact Act.mirrors_pure (.some hr)
  · refine (mirrors_onOuter (h.escalation.find fingerprint)).attempt.bind ?_
    rintro _ _ (hfound | _)
    · cases hfound with
      | none => exact Act.mirrors_pure .none
      | some hrecord =>
        have hr : (RemediationResult.escalated _ _ _).Alike clocks (.escalated _ _ _) :=
          ⟨hrecord.fingerprint, rfl, hrecord.attempts, congrArg some hrecord.reason⟩
        refine (mirrors_settle fingerprint hr).bind ?_
        rintro _ _ rfl
        exact Act.mirrors_pure (.some hr)
    · refine (Act.mirrors_log _ _).bind ?_
      rintro _ _ rfl
      exact Act.mirrors_pure .none

theorem Alike.escalate (h : e.Alike W clocks d) (f : Finding) (fingerprint : String)
    {attempts attempts' : List FixAttempt}
    (hattempts : List.Forall₂ (FixAttempt.Alike clocks) attempts attempts') (reason : String)
    {now now' : Instant} (hnow : clocks now now') :
    Mirrors (EngineWorld.Alike W clocks) (RemediationResult.Alike clocks)
      (e.escalate f fingerprint attempts reason now)
      (d.escalate f fingerprint attempts' reason now') := by
  have hr : (RemediationResult.escalated fingerprint attempts reason).Alike clocks
      (.escalated fingerprint attempts' reason) := RemediationResult.alike_escalated hattempts
  have hclose (event event' : LogEvent) :
      Mirrors (EngineWorld.Alike W clocks) (RemediationResult.Alike clocks)
        (do Act.log event; settle fingerprint (.escalated fingerprint attempts reason)
            return .escalated fingerprint attempts reason)
        (do Act.log event'; settle fingerprint (.escalated fingerprint attempts' reason)
            return .escalated fingerprint attempts' reason) := by
    refine (Act.mirrors_log event event').bind ?_
    rintro _ _ rfl
    refine (mirrors_settle fingerprint hr).bind ?_
    rintro _ _ rfl
    exact Act.mirrors_pure hr
  have hrecord : EscalationRecord.Alike clocks
      { fingerprint, finding := f, attempts, reason, escalatedAt := now }
      { fingerprint, finding := f, attempts := attempts', reason, escalatedAt := now' } :=
    ⟨rfl, rfl, hattempts, rfl, hnow⟩
  refine (mirrors_onOuter (h.escalation.escalate hrecord)).attempt.bind ?_
  rintro _ _ (_ | _)
  · exact hclose _ _
  · refine (Act.mirrors_log _ _).bind ?_
    rintro _ _ rfl
    exact hclose _ _

/-! ## Attempts -/

/-- Whether a finding is still reported does not depend on the labels of what is returned. -/
theorem stillReported_eq (f : Finding) (fingerprint : String) {fs gs : List Finding}
    (h : List.Forall₂ Finding.SameButLabels fs gs) :
    stillReported f fingerprint fs = stillReported f fingerprint gs := by
  unfold stillReported
  induction h with
  | nil => rfl
  | cons hfg _ ih =>
    rw [List.any_cons, List.any_cons, ih, ← hfg]
    rfl

theorem verdictOn_eq (f : Finding) (fingerprint : String) (limit : Nat)
    {answer answer' : Except GovernanceError (Timed (List Finding))}
    (h : Act.SameOutcome Orchestrator.RelabelledAnswer answer answer') :
    verdictOn f fingerprint limit answer = verdictOn f fingerprint limit answer' := by
  cases h with
  | error => rfl
  | ok hanswer =>
    cases hanswer with
    | inTime hfs => rw [verdictOn, verdictOn, stillReported_eq f fingerprint hfs]
    | late => rfl
    | aborted reason => rfl

theorem Alike.tryOnce (h : e.Alike W clocks d) {s : FixStrategy σ} {t : FixStrategy τ}
    (hs : s.Alike W t) {v : Validator σ} {u : Validator τ} (hv : v.Alike W u) (f : Finding)
    (fingerprint : String) :
    Mirrors W Eq (e.tryOnce s v f fingerprint) (d.tryOnce t u f fingerprint) := by
  unfold Engine.tryOnce
  rw [h.scope, h.attemptTimeout]
  refine (hs.apply f d.scope d.attemptTimeout).attempt.bind ?_
  rintro _ _ (@⟨applied, _, rfl⟩ | _)
  · match applied with
    | .late => exact Act.mirrors_pure rfl
    | .aborted reason => exact Act.mirrors_pure rfl
    | .inTime () =>
      refine (hv.run d.scope d.attemptTimeout).attempt.bind ?_
      intro answer answer' hanswer
      exact Act.mirrors_pure (verdictOn_eq f fingerprint d.attemptTimeout hanswer)
  · exact Act.mirrors_pure rfl

theorem Alike.attempt (h : e.Alike W clocks d) (iteration : Nat) {s : FixStrategy σ}
    {t : FixStrategy τ} (hs : s.Alike W t) {v : Validator σ} {u : Validator τ} (hv : v.Alike W u)
    (f : Finding) (fingerprint : String) {now now' : Instant} (hnow : clocks now now') :
    Mirrors (EngineWorld.Alike W clocks) (FixAttempt.Alike clocks)
      (e.attempt iteration s v f fingerprint now) (d.attempt iteration t u f fingerprint now') := by
  unfold Engine.attempt
  rw [hs.name]
  refine (mirrors_onOuter (h.tryOnce hs hv f fingerprint)).bind ?_
  rintro ⟨outcome, error⟩ _ rfl
  refine (Act.mirrors_log _ _).bind ?_
  rintro _ _ rfl
  exact Act.mirrors_pure ⟨hnow, rfl⟩

theorem Alike.choose (h : e.Alike W clocks d) (f : Finding) {ss : List (FixStrategy σ)}
    {ts : List (FixStrategy τ)} (hss : List.Forall₂ (FixStrategy.Alike W) ss ts)
    {prior prior' : List FixAttempt}
    (hprior : List.Forall₂ (FixAttempt.Alike clocks) prior prior') :
    Mirrors (EngineWorld.Alike W clocks) (Option.Rel (FixStrategy.Alike W))
      (e.choose f ss prior) (d.choose f ts prior') := by
  refine Act.mirrors_world.bind ?_
  intro w v hw
  obtain ⟨hchoice, houter⟩ := h.selector (f := f) hss hprior hw.outer
  refine (Act.mirrors_setWorld ⟨houter, hw.ledger⟩).bind ?_
  rintro _ _ rfl
  exact Act.mirrors_pure hchoice

theorem wasTried_eq {prior prior' : List FixAttempt}
    (h : List.Forall₂ (FixAttempt.Alike clocks) prior prior') (name : String) :
    StrategySelector.wasTried prior name = StrategySelector.wasTried prior' name := by
  unfold StrategySelector.wasTried
  induction h with
  | nil => rfl
  | cons ha _ ih =>
    rw [List.any_cons, List.any_cons, ih, ← ha.2]

theorem Alike.fixLoop (h : e.Alike W clocks d) {v : Validator σ} {u : Validator τ}
    (hv : v.Alike W u) (f : Finding) (fingerprint : String) {ss : List (FixStrategy σ)}
    {ts : List (FixStrategy τ)} (hss : List.Forall₂ (FixStrategy.Alike W) ss ts)
    {now now' : Instant} (hnow : clocks now now') (left : Nat) {prior prior' : List FixAttempt}
    (hprior : List.Forall₂ (FixAttempt.Alike clocks) prior prior') :
    Mirrors (EngineWorld.Alike W clocks)
      (fun p q => p.1 = q.1 ∧ List.Forall₂ (FixAttempt.Alike clocks) p.2 q.2)
      (e.fixLoop v f fingerprint ss now left prior)
      (d.fixLoop u f fingerprint ts now' left prior') := by
  induction left generalizing prior prior' with
  | zero => exact Act.mirrors_pure ⟨rfl, hprior⟩
  | succ left ih =>
    refine (h.choose f hss hprior).bind ?_
    rintro _ _ (hs | _)
    · simp only [hs.name, wasTried_eq hprior]
      split
      · refine (Act.mirrors_log _ _).bind ?_
        rintro _ _ rfl
        exact Act.mirrors_pure ⟨rfl, hprior⟩
      · rw [hprior.length_eq]
        refine (h.attempt _ hs hv f fingerprint hnow).bind ?_
        intro a b hab
        have hmore := List.rel_append hprior (.cons hab .nil)
        have houtcome : a.outcome = b.outcome := by rw [← hab.2]
        rw [houtcome]
        split
        · exact Act.mirrors_pure ⟨rfl, hmore⟩
        · exact ih hmore
    · exact Act.mirrors_pure ⟨rfl, hprior⟩

/-! ## Fixes -/

theorem exhaustion_eq {attempts attempts' : List FixAttempt}
    (h : attempts.length = attempts'.length) : exhaustion attempts = exhaustion attempts' := by
  have hempty : attempts.isEmpty = attempts'.isEmpty := by
    rw [Bool.eq_iff_iff, List.isEmpty_iff_length_eq_zero, List.isEmpty_iff_length_eq_zero, h]
  unfold exhaustion
  rw [h, hempty]

theorem Alike.fixWith (h : e.Alike W clocks d) {v : Validator σ} {u : Validator τ}
    (hv : v.Alike W u) (f : Finding) (fingerprint : String) {now now' : Instant}
    (hnow : clocks now now') :
    Mirrors (EngineWorld.Alike W clocks) (RemediationResult.Alike clocks)
      (e.fixWith v f fingerprint now) (d.fixWith u f fingerprint now') := by
  have happlicable := List.rel_filter (p := fun s : FixStrategy σ => s.appliesTo f)
    (q := fun s : FixStrategy τ => s.appliesTo f)
    (fun _ _ hs => by simp [hs.appliesTo]) h.strategies
  refine (h.fixLoop hv f fingerprint happlicable hnow maxAttempts .nil).bind ?_
  rintro ⟨isFixed, attempts⟩ ⟨_, attempts'⟩ ⟨rfl, hattempts⟩
  cases isFixed with
  | true =>
    refine (mirrors_settle fingerprint (RemediationResult.alike_fixed hattempts)).bind ?_
    rintro _ _ rfl
    exact Act.mirrors_pure (RemediationResult.alike_fixed hattempts)
  | false =>
    simp only [exhaustion_eq hattempts.length_eq]
    exact h.escalate f fingerprint hattempts _ hnow

theorem Alike.validator? (h : e.Alike W clocks d) (id : String) :
    Option.Rel (Validator.Alike W) (e.validator? id) (d.validator? id) := by
  unfold Engine.validator?
  have hvalidators := h.validators
  generalize e.validators = vs at hvalidators
  generalize d.validators = us at hvalidators
  induction hvalidators with
  | nil => exact .none
  | cons hv _ ih =>
    rw [List.find?_cons, List.find?_cons, hv.id]
    split
    · exact .some hv
    · exact ih

/-- A fix by one of the engines is mirrored by a fix by the other. -/
theorem Alike.fix (h : e.Alike W clocks d) (f : Finding) {now now' : Instant}
    (hnow : clocks now now') :
    Mirrors (EngineWorld.Alike W clocks) (RemediationResult.Alike clocks)
      (e.fix f now) (d.fix f now') := by
  refine (h.settledEscalation f.fingerprint).bind ?_
  rintro _ _ (hr | _)
  · refine (Act.mirrors_log _ _).bind ?_
    rintro _ _ rfl
    exact Act.mirrors_pure hr
  · simp only
    split
    · exact h.escalate f f.fingerprint .nil _ hnow
    · have hvalidator := h.validator? f.validatorId
      revert hvalidator
      generalize e.validator? f.validatorId = found
      generalize d.validator? f.validatorId = found'
      rintro (hv | _)
      · exact h.fixWith hv f f.fingerprint hnow
      · exact h.escalate f f.fingerprint .nil _ hnow

/-- So are the fixes of findings one after the other. -/
theorem Alike.fixEach (h : e.Alike W clocks d) (fs : List Finding) {now now' : Instant}
    (hnow : clocks now now') :
    Mirrors (EngineWorld.Alike W clocks)
      (List.Forall₂ fun p q => p.1 = q.1 ∧ RemediationResult.Alike clocks p.2 q.2)
      (e.fixEach now fs) (d.fixEach now' fs) := by
  induction fs with
  | nil => exact Act.mirrors_pure .nil
  | cons f fs ih =>
    refine (h.fix f hnow).bind ?_
    intro r s hr
    refine ih.bind ?_
    intro results results' hresults
    exact Act.mirrors_pure (.cons ⟨rfl, hr⟩ hresults)

end Engine

end AgentGovernance
