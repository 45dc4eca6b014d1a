-- SUMMARY: The course of a fix, by what its channel and its other plug-ins do to the world.
import AgentGovernance.Proofs.Remediation.Finality

/-!
# The course of a fix

A fix asks the channel once, unless the ledger answers, and sends it one record at most. What happens
to the world in between is up to the strategies, the validators and the selector. So a condition on
the world that these maintain holds when the record is sent if it held when the channel had answered.
-/

namespace AgentGovernance

open Act (Ends Maintains)

/-- The result that a record stands for. -/
def EscalationRecord.result (record : EscalationRecord) : RemediationResult :=
  .escalated record.fingerprint record.attempts record.reason

/-- The record is one of a fix of the finding at the time. -/
structure EscalationRecord.MadeFor (record : EscalationRecord) (f : Finding) (now : Instant) :
    Prop where
  fingerprint : record.fingerprint = f.fingerprint
  finding : record.finding = f
  escalatedAt : record.escalatedAt = now
  attempts : ∀ a ∈ record.attempts, a.iteration ≤ maxAttempts ∧ a.time = now

namespace Engine

variable {σ : Type} {e : Engine σ} {P : σ → Prop} {f : Finding} {now : Instant}

/-- The plug-ins of the engine maintain a condition, the channel apart: its validators, its selector
and the strategies that the selector chooses for a finding. -/
structure Minds (e : Engine σ) (P : σ → Prop) : Prop where
  validators : ∀ v ∈ e.validators, Maintains P (v.run e.scope e.attemptTimeout)
  selector : ∀ f prior w, P w →
    P (e.selector.select f (e.strategies.filter fun s => s.appliesTo f) prior w).2
  choices : ∀ f prior w s,
    (e.selector.select f (e.strategies.filter fun s => s.appliesTo f) prior w).1 = some s →
      Maintains P (s.apply f e.scope e.attemptTimeout)

/-- Whatever the plug-ins of the engine do, the channel apart, relates the worlds before and after. -/
structure Does (e : Engine σ) (R : σ → σ → Prop) : Prop where
  validators : ∀ v ∈ e.validators, ∀ (j : Journal σ) o w,
    Ends (v.run e.scope e.attemptTimeout) j o w → R j.world w
  selector : ∀ f prior w,
    R w (e.selector.select f (e.strategies.filter fun s => s.appliesTo f) prior w).2
  choices : ∀ f prior w s,
    (e.selector.select f (e.strategies.filter fun s => s.appliesTo f) prior w).1 = some s →
      ∀ (j : Journal σ) o w, Ends (s.apply f e.scope e.attemptTimeout) j o w → R j.world w

theorem Does.minds {R : σ → σ → Prop} (h : e.Does R) (hP : ∀ w w', R w w' → P w → P w') :
    e.Minds P where
  validators v hv j o w hj hends := hP _ _ (h.validators v hv j o w hends) hj
  selector f prior w hw := hP _ _ (h.selector f prior w) hw
  choices f prior w s hs j o w' hj hends := hP _ _ (h.choices f prior w s hs j o w' hends) hj

/-! ## Attempts -/

theorem maintains_tryOnce {s : FixStrategy σ} {v : Validator σ}
    (hs : Maintains P (s.apply f e.scope e.attemptTimeout))
    (hv : Maintains P (v.run e.scope e.attemptTimeout)) (fingerprint : String) :
    Maintains P (e.tryOnce s v f fingerprint) := by
  refine hs.attempt.bind fun applied => ?_
  match applied with
  | .ok .late => exact Act.maintains_pure _
  | .ok (.aborted reason) => exact Act.maintains_pure _
  | .error err => exact Act.maintains_pure _
  | .ok (.inTime ()) => exact hv.attempt.bind fun answer => Act.maintains_pure _

/-- Trying never fails: what goes wrong becomes the outcome. -/
theorem ends_tryOnce (e : Engine σ) (s : FixStrategy σ) (v : Validator σ) (f : Finding)
    (fingerprint : String) (j : Journal σ) :
    ∃ verdict t, Ends (e.tryOnce s v f fingerprint) j (.ok verdict) t := by
  obtain ⟨applied, t, happly⟩ := Ends.exists (s.apply f e.scope e.attemptTimeout) j
  obtain ⟨k, rfl, hgo⟩ := happly.attempt.bind_eq
  match applied with
  | .ok .late => exact ⟨_, _, (Act.ends_pure _).of_eq (hgo _)⟩
  | .ok (.aborted reason) => exact ⟨_, _, (Act.ends_pure _).of_eq (hgo _)⟩
  | .error err => exact ⟨_, _, (Act.ends_pure _).of_eq (hgo _)⟩
  | .ok (.inTime ()) =>
    obtain ⟨answer, u, hrun⟩ := Ends.exists (v.run e.scope e.attemptTimeout) k
    refine ⟨verdictOn f fingerprint e.attemptTimeout answer, u, Ends.of_eq ?_ (hgo _)⟩
    exact hrun.attempt.bind fun l hl => hl ▸ Act.ends_pure _

/-- The act succeeds with a value that the condition holds of, leaves the ledger, and maintains the
condition on the outer world. -/
def Passes {α : Type} (P : σ → Prop) (act : Act (EngineWorld σ) α) (Q : α → Prop) : Prop :=
  ∀ j, ∃ a s, Ends act j (.ok a) { j.world with outer := s } ∧ Q a ∧ (P j.world.outer → P s)

section Passes

variable {α β : Type} {Q : α → Prop} {R : β → Prop}

theorem passes_pure {a : α} (h : Q a) : Passes P (pure a) Q :=
  fun j => ⟨a, j.world.outer, Act.ends_pure a, h, id⟩

theorem passes_log (event : LogEvent) : Passes P (Act.log event) fun _ => True :=
  fun j => ⟨(), j.world.outer, Act.ends_log event, trivial, id⟩

theorem Passes.bind {x : Act (EngineWorld σ) α} {g : α → Act (EngineWorld σ) β}
    (hx : Passes P x Q) (hg : ∀ a, Q a → Passes P (g a) R) : Passes P (x >>= g) R := by
  intro j
  obtain ⟨a, s, hends, ha, hs⟩ := hx j
  obtain ⟨k, hk, hgo⟩ := hends.bind_eq
  obtain ⟨b, t, hends', hb, ht⟩ := hg a ha k
  rw [hk] at hends' ht
  exact ⟨b, t, hends'.of_eq (hgo g), hb, fun h => ht (hs h)⟩

end Passes

theorem passes_attempt {iteration : Nat} {s : FixStrategy σ} {v : Validator σ}
    (hs : Maintains P (s.apply f e.scope e.attemptTimeout))
    (hv : Maintains P (v.run e.scope e.attemptTimeout)) (fingerprint : String) (now : Instant) :
    Passes P (e.attempt iteration s v f fingerprint now)
      fun a => a.iteration = iteration ∧ a.time = now := by
  have htry : Passes P (onOuter (e.tryOnce s v f fingerprint)) fun _ => True := by
    intro j
    obtain ⟨verdict, t, hends⟩ := e.ends_tryOnce s v f fingerprint (j.seen fun w => w.outer)
    exact ⟨verdict, t, hends.onPart, trivial,
      fun h => maintains_tryOnce hs hv fingerprint _ _ t h hends⟩
  refine htry.bind fun verdict _ => ?_
  exact (passes_log _).bind fun _ _ => passes_pure ⟨rfl, rfl⟩

theorem passes_choose (h : e.Minds P) (f : Finding) (prior : List FixAttempt) :
    Passes P (e.choose f (e.strategies.filter fun s => s.appliesTo f) prior) fun choice =>
      ∀ s, choice = some s → Maintains P (s.apply f e.scope e.attemptTimeout) := by
  intro j
  have hselector := h.selector f prior j.world.outer
  have hchoice := h.choices f prior j.world.outer
  rcases hselect : e.selector.select f (e.strategies.filter fun s => s.appliesTo f) prior
    j.world.outer with ⟨choice, t⟩
  rw [hselect] at hselector hchoice
  refine ⟨choice, t, ?_, hchoice, hselector⟩
  refine Act.ends_world.bind fun k hk => ?_
  simp only [hselect]
  refine Act.ends_setWorld.bind fun l hl => ?_
  exact hl ▸ Act.ends_pure _

/-- The attempts are numbered within the bound and carry the time of the fix. -/
theorem passes_fixLoop (h : e.Minds P) {v : Validator σ} (hv : v ∈ e.validators)
    (fingerprint : String) (now : Instant) (left : Nat) {prior : List FixAttempt}
    (hprior : ∀ a ∈ prior, a.iteration ≤ prior.length + left ∧ a.time = now) :
    Passes P
      (e.fixLoop v f fingerprint (e.strategies.filter fun s => s.appliesTo f) now left prior)
      fun ended => ∀ a ∈ ended.2, a.iteration ≤ prior.length + left ∧ a.time = now := by
  induction left generalizing prior with
  | zero => exact passes_pure hprior
  | succ left ih =>
    refine (passes_choose h f prior).bind fun choice hchoice => ?_
    cases choice with
    | none => exact passes_pure hprior
    | some s =>
      simp only
      split
      · exact (passes_log _).bind fun _ _ => passes_pure hprior
      · refine (passes_attempt (hchoice s rfl) (h.validators v hv) fingerprint now).bind ?_
        rintro a ⟨hnumber, htime⟩
        have hmore : ∀ b ∈ prior ++ [a], b.iteration ≤ prior.length + (left + 1) ∧ b.time = now := by
          intro b hb
          rcases List.mem_append.1 hb with hb | hb
          · exact hprior b hb
          · rw [List.mem_singleton.1 hb]
            exact ⟨by omega, htime⟩
        split
        · exact passes_pure hmore
        · have hlength : (prior ++ [a]).length + left = prior.length + (left + 1) := by
            simp only [List.length_append, List.length_singleton]
            omega
          have hrest := ih (by rwa [hlength])
          rwa [hlength] at hrest

/-! ## Fixes -/

/-- How a fix ends and what it leaves, by what the channel did. -/
inductive Course (e : Engine σ) (P : σ → Prop) (f : Finding) (now : Instant) (w : EngineWorld σ) :
    RemediationResult → EngineWorld σ → Prop
  /-- The ledger holds an escalation already. -/
  | again {r : RemediationResult} (h : Escalated w.ledger f.fingerprint r) : Course e P f now w r w
  /-- The channel holds a record. -/
  | found {record : EscalationRecord} {s : σ} {j : Journal σ} (hj : j.world = w.outer)
    (hfind : Ends (e.escalation.find f.fingerprint) j (.ok (some record)) s) :
    Course e P f now w record.result
      { outer := s, ledger := settledLedger w.ledger f.fingerprint record.result }
  | fixed {found : Except GovernanceError (Option EscalationRecord)} {s t : σ} {j : Journal σ}
    {r : RemediationResult} (hj : j.world = w.outer)
    (hfind : Ends (e.escalation.find f.fingerprint) j found s)
    (hnone : ∀ record, found ≠ .ok (some record)) (hkept : P s → P t)
    (hr : r.isEscalated = false) :
    Course e P f now w r { outer := t, ledger := settledLedger w.ledger f.fingerprint r }
  | escalated {found : Except GovernanceError (Option EscalationRecord)} {s u : σ}
    {j k : Journal σ} {record : EscalationRecord} {sent : Except GovernanceError Unit}
    (hj : j.world = w.outer) (hfind : Ends (e.escalation.find f.fingerprint) j found s)
    (hnone : ∀ record, found ≠ .ok (some record)) (hkept : P s → P k.world)
    (hrecord : record.MadeFor f now) (hsend : Ends (e.escalation.escalate record) k sent u) :
    Course e P f now w record.result
      { outer := u, ledger := settledLedger w.ledger f.fingerprint record.result }

/-- An escalation sends one record, and is final in the ledger whatever comes of that. -/
theorem ends_escalate (e : Engine σ) (f : Finding) (attempts : List FixAttempt) (reason : String)
    (now : Instant) (j : Journal (EngineWorld σ)) :
    let record : EscalationRecord :=
      { fingerprint := f.fingerprint, finding := f, attempts, reason, escalatedAt := now }
    ∃ sent u, Ends (e.escalation.escalate record) (j.seen (·.outer)) sent u ∧
      Ends (e.escalate f f.fingerprint attempts reason now) j (.ok record.result)
        { outer := u, ledger := settledLedger j.world.ledger f.fingerprint record.result } := by
  intro record
  obtain ⟨sent, u, hsend⟩ := Ends.exists (e.escalation.escalate record) (j.seen (·.outer))
  exact ⟨sent, u, hsend, e.ends_escalate_of_sent f f.fingerprint attempts reason now hsend⟩

/-- Where the ledger holds no escalation, the channel is asked. -/
theorem ends_settledEscalation {j : Journal (EngineWorld σ)}
    (hopen : ∀ r, ¬ Escalated j.world.ledger f.fingerprint r) :
    ∃ found s, Ends (e.escalation.find f.fingerprint) (j.seen (·.outer)) found s ∧
      ((∃ record, found = .ok (some record) ∧
        Ends (e.settledEscalation f.fingerprint) j (.ok (some record.result))
          { outer := s, ledger := settledLedger j.world.ledger f.fingerprint record.result }) ∨
      (∀ record, found ≠ .ok (some record)) ∧
        Ends (e.settledEscalation f.fingerprint) j (.ok none) { j.world with outer := s }) := by
  have hledger (r : RemediationResult) (hr : j.world.ledger.lookup f.fingerprint = some r) :
      r.isEscalated = false := by
    simpa [Escalated, hr] using hopen r
  obtain ⟨found, s, hfind⟩ := Ends.exists (e.escalation.find f.fingerprint) (j.seen (·.outer))
  refine ⟨found, s, hfind, ?_⟩
  by_cases hfound : ∃ record, found = .ok (some record)
  · obtain ⟨record, rfl⟩ := hfound
    exact .inl ⟨record, rfl, e.ends_settledEscalation_of_found hledger hfind⟩
  · have hnone : ∀ record, found ≠ .ok (some record) := not_exists.1 hfound
    exact .inr ⟨hnone, e.ends_settledEscalation_of_not_found hledger hfind hnone⟩

theorem ends_fix_of_settled {j : Journal (EngineWorld σ)} {r : RemediationResult}
    {w : EngineWorld σ} (h : Ends (e.settledEscalation f.fingerprint) j (.ok (some r)) w)
    (now : Instant) : Ends (e.fix f now) j (.ok r) w := by
  refine h.bind fun k hk => ?_
  refine (Act.ends_log _).bind fun l hl => ?_
  rw [hk] at hl
  exact hl ▸ Act.ends_pure _

/-- With the channel's answer behind it, a fix ends with a fix or with one record. -/
theorem ends_fixWith (h : e.Minds P) {v : Validator σ} (hv : v ∈ e.validators) (now : Instant)
    (j : Journal (EngineWorld σ)) :
    (∃ r t, r.isEscalated = false ∧ (P j.world.outer → P t) ∧
      Ends (e.fixWith v f f.fingerprint now) j (.ok r)
        { outer := t, ledger := settledLedger j.world.ledger f.fingerprint r }) ∨
    ∃ (record : EscalationRecord) (k : Journal σ) (sent : Except GovernanceError Unit) (u : σ),
      record.MadeFor f now ∧ (P j.world.outer → P k.world) ∧
      Ends (e.escalation.escalate record) k sent u ∧
      Ends (e.fixWith v f f.fingerprint now) j (.ok record.result)
        { outer := u, ledger := settledLedger j.world.ledger f.fingerprint record.result } := by
  have hnone : ∀ a ∈ ([] : List FixAttempt), a.iteration ≤ 0 + maxAttempts ∧ a.time = now := nofun
  obtain ⟨⟨isFixed, attempts⟩, t, hloop, hattempts, hkept⟩ :=
    passes_fixLoop h hv f.fingerprint now maxAttempts hnone j
  obtain ⟨k, hk, hgo⟩ := hloop.bind_eq
  cases isFixed with
  | true =>
    refine .inl ⟨.fixed f.fingerprint attempts, t, rfl, hkept, Ends.of_eq ?_ (hgo _)⟩
    refine (ends_settle f.fingerprint (.fixed f.fingerprint attempts) k).bind fun l hl => ?_
    rw [hk] at hl
    exact hl ▸ Act.ends_pure _
  | false =>
    obtain ⟨sent, u, hsend, hescalate⟩ :=
      e.ends_escalate f attempts (exhaustion attempts) now k
    have hmade : EscalationRecord.MadeFor
        { fingerprint := f.fingerprint, finding := f, attempts, reason := exhaustion attempts
          escalatedAt := now } f now :=
      ⟨rfl, rfl, rfl, by simpa using hattempts⟩
    rw [hk] at hescalate
    refine .inr ⟨_, k.seen (·.outer), sent, u, hmade, ?_, hsend, hescalate.of_eq (hgo _)⟩
    rw [Journal.seen, hk]
    exact hkept

theorem course_fix (h : e.Minds P) (f : Finding) (now : Instant) (j : Journal (EngineWorld σ)) :
    ∃ r w, Ends (e.fix f now) j (.ok r) w ∧ Course e P f now j.world r w := by
  by_cases hsettled : ∃ r, Escalated j.world.ledger f.fingerprint r
  · obtain ⟨r, hr⟩ := hsettled
    exact ⟨r, _, ends_fix_of_settled (e.ends_settledEscalation_of_ledger hr.1 hr.2) now, .again hr⟩
  have hopen : ∀ r, ¬ Escalated j.world.ledger f.fingerprint r := fun r hr => hsettled ⟨r, hr⟩
  obtain ⟨found, s, hfind, ⟨record, rfl, hends⟩ | ⟨hnone, hends⟩⟩ := ends_settledEscalation hopen
  · exact ⟨_, _, ends_fix_of_settled hends now, .found rfl hfind⟩
  obtain ⟨k, hk, hgo⟩ := hends.bind_eq
  have hwithout (reason : String) :
      ∃ r w, Ends (e.escalate f f.fingerprint [] reason now) k (.ok r) w ∧
        Course e P f now j.world r w := by
    obtain ⟨sent, u, hsend, hescalate⟩ := e.ends_escalate f [] reason now k
    rw [hk] at hescalate
    refine ⟨_, _, hescalate, .escalated rfl hfind hnone ?_ ⟨rfl, rfl, rfl, nofun⟩ hsend⟩
    rw [Journal.seen, hk]
    exact id
  by_cases hsynthetic : f.isSynthetic = true
  · obtain ⟨r, w, hescalate, hcourse⟩ :=
      hwithout "synthetic finding has no validator to confirm a fix against"
    refine ⟨r, w, Ends.of_eq ?_ (hgo _), hcourse⟩
    simpa only [hsynthetic, if_true] using hescalate
  cases hvalidator : e.validator? f.validatorId with
  | none =>
    obtain ⟨r, w, hescalate, hcourse⟩ :=
      hwithout s!"no validator '{f.validatorId}' available to confirm a fix"
    refine ⟨r, w, Ends.of_eq ?_ (hgo _), hcourse⟩
    simpa only [hsynthetic, hvalidator, Bool.false_eq_true, if_false] using hescalate
  | some v =>
    have hv : v ∈ e.validators := List.mem_of_find?_eq_some hvalidator
    have hrest {r : RemediationResult} {w : EngineWorld σ}
        (hends : Ends (e.fixWith v f f.fingerprint now) k (.ok r) w) :
        Ends (e.fix f now) j (.ok r) w := by
      refine Ends.of_eq ?_ (hgo _)
      simpa only [hsynthetic, hvalidator, Bool.false_eq_true, if_false] using hends
    rcases ends_fixWith h hv now k with
      ⟨r, t, hr, hkept, hfix⟩ | ⟨record, l, sent, u, hrecord, hkept, hsend, hfix⟩
    · rw [hk] at hkept hfix
      exact ⟨r, _, hrest hfix, .fixed rfl hfind hnone hkept hr⟩
    · rw [hk] at hkept hfix
      exact ⟨_, _, hrest hfix, .escalated rfl hfind hnone hkept hrecord hsend⟩

/-! ## What a pass maintains -/

/-- A fix maintains what the plug-ins maintain, the channel included. -/
theorem maintains_fix (h : e.Minds P)
    (hfind : ∀ fingerprint, Maintains P (e.escalation.find fingerprint))
    (hsend : ∀ record f now, record.MadeFor f now → Maintains P (e.escalation.escalate record))
    (f : Finding) (now : Instant) : Maintains (fun w => P w.outer) (e.fix f now) := by
  intro j o w hj hends
  obtain ⟨r, w', hfix, hcourse⟩ := course_fix h f now j
  obtain ⟨-, rfl⟩ := hends.unique hfix
  cases hcourse with
  | again _ => exact hj
  | found hstart hfound => exact hfind _ _ _ _ (hstart ▸ hj) hfound
  | fixed hstart hfound _ hkept _ => exact hkept (hfind _ _ _ _ (hstart ▸ hj) hfound)
  | escalated hstart hfound _ hkept hrecord hsent =>
    exact hsend _ f now hrecord _ _ _ (hkept (hfind _ _ _ _ (hstart ▸ hj) hfound)) hsent

theorem maintains_fixEach {Q : EngineWorld σ → Prop} (h : ∀ f, Maintains Q (e.fix f now))
    (fs : List Finding) : Maintains Q (e.fixEach now fs) := by
  induction fs with
  | nil => exact Act.maintains_pure _
  | cons f fs ih => exact (h f).bind fun _ => ih.bind fun _ => Act.maintains_pure _

theorem maintains_fixAll {Q : EngineWorld σ → Prop} (h : ∀ f, Maintains Q (e.fix f now))
    (report : AuditReport) : Maintains Q (e.fixAll report now) :=
  (maintains_fixEach h _).bind fun _ => (Act.maintains_log _).bind fun _ => Act.maintains_pure _

end Engine

end AgentGovernance
