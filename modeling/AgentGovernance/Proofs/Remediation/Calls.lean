-- SUMMARY: Engines that write down their plug-in calls, and that they do what plain engines do.
import AgentGovernance.Proofs.Act
import AgentGovernance.Remediation.Engine

/-!
# The calls of an engine

What an engine calls, and in which order, is not part of its result. It becomes visible if each
plug-in writes its calls into the world: the recorded engine is the engine over plug-ins that do so.
Only calls by the engine are written down. A selector is handed the plug-ins that write nothing, so
that its choice cannot depend on the record.

Main statement: without the record, the recorded engine does what the engine does. The result, the
world of the plug-ins, the ledger and the log are the same.
-/

namespace AgentGovernance

variable {σ α : Type}

/-! ## Recorded plug-ins -/

/-- A call of a plug-in and how it ended. -/
inductive PluginCall where
  /-- The selector was asked for a strategy. -/
  | select (choice : Option String)
  | apply (strategy : String) (finding : Finding) (outcome : Except GovernanceError (Timed Unit))
  | validate (validator : String) (outcome : Except GovernanceError (Timed (List Finding)))
  /-- The channel was asked for the record of a fingerprint. -/
  | find (fingerprint : String) (outcome : Except GovernanceError (Option EscalationRecord))
  /-- The channel was given a record. -/
  | escalate (record : EscalationRecord) (outcome : Except GovernanceError Unit)

namespace PluginCall

/-- The strategy that was applied, and the finding. -/
def applied? : PluginCall → Option (String × Finding)
  | .apply strategy f _ => some (strategy, f)
  | _ => none

/-- The record that the channel was given. -/
def sent? : PluginCall → Option EscalationRecord
  | .escalate record _ => some record
  | _ => none

end PluginCall

/-- A world and the calls that were made in it, the oldest first. -/
structure Recorded (σ : Type) where
  inner : σ
  calls : List PluginCall := []

/-- The act, which also writes down the call that it stands for. -/
def Act.recorded (call : Except GovernanceError α → PluginCall) (act : Act σ α) :
    Act (Recorded σ) α := fun j =>
  match act (j.seen Recorded.inner) with
  | .ok a k =>
    .ok a (k.seen fun s => { inner := s, calls := j.world.calls ++ [call (.ok a)] })
  | .error e k =>
    .error e (k.seen fun s => { inner := s, calls := j.world.calls ++ [call (.error e)] })

/-- An act as it is with an empty record, which is then thrown away. -/
def Act.unrecorded (act : Act (Recorded σ) α) : Act σ α := fun j =>
  match act (j.seen fun s => { inner := s }) with
  | .ok a k => .ok a (k.seen Recorded.inner)
  | .error e k => .error e (k.seen Recorded.inner)

def FixStrategy.recorded (s : FixStrategy σ) : FixStrategy (Recorded σ) where
  name := s.name
  appliesTo := s.appliesTo
  apply f scope limit := (s.apply f scope limit).recorded (.apply s.name f)

def FixStrategy.unrecorded (s : FixStrategy (Recorded σ)) : FixStrategy σ where
  name := s.name
  appliesTo := s.appliesTo
  apply f scope limit := (s.apply f scope limit).unrecorded

def Validator.recorded (v : Validator σ) : Validator (Recorded σ) where
  id := v.id
  run scope limit := (v.run scope limit).recorded (.validate v.id)

/-- The choice among the strategies that write nothing. -/
def StrategySelector.recorded (c : StrategySelector σ) : StrategySelector (Recorded σ) where
  select f strategies prior w :=
    let (choice, inner) := c.select f (strategies.map FixStrategy.unrecorded) prior w.inner
    (choice.map FixStrategy.recorded,
      { inner, calls := w.calls ++ [.select (choice.map (·.name))] })

def EscalationChannel.recorded (c : EscalationChannel σ) : EscalationChannel (Recorded σ) where
  escalate r := (c.escalate r).recorded (.escalate r)
  find fingerprint := (c.find fingerprint).recorded (.find fingerprint)

/-- The engine over plug-ins that write down their calls. -/
def Engine.recorded (e : Engine σ) : Engine (Recorded σ) where
  scope := e.scope
  strategies := e.strategies.map FixStrategy.recorded
  selector := e.selector.recorded
  validators := e.validators.map Validator.recorded
  escalation := e.escalation.recorded
  attemptTimeout := e.attemptTimeout

namespace EngineWorld

/-- The world of a recorded engine, without the record. -/
def unrecorded (w : EngineWorld (Recorded σ)) : EngineWorld σ :=
  { outer := w.outer.inner, ledger := w.ledger }

/-- The world of an engine with an empty record. -/
def recorded (w : EngineWorld σ) : EngineWorld (Recorded σ) :=
  { outer := { inner := w.outer }, ledger := w.ledger }

end EngineWorld

/-! ## Without the record -/

open Act (LooksLike)

/-- A recorded act ends as the act does, with one more call on the record. -/
theorem Act.ends_recorded (call : Except GovernanceError α → PluginCall) {act : Act σ α}
    {j : Journal (Recorded σ)} {o : Except GovernanceError α} {s : σ}
    (h : Act.Ends act (j.seen Recorded.inner) o s) :
    Act.Ends (act.recorded call) j o { inner := s, calls := j.world.calls ++ [call o] } := by
  unfold Ends at h ⊢
  unfold Act.recorded
  cases hact : act (j.seen Recorded.inner) with
  | ok a k =>
    rw [hact] at h
    obtain ⟨rfl, rfl⟩ := h
    exact ⟨rfl, rfl⟩
  | error e k =>
    rw [hact] at h
    obtain ⟨rfl, rfl⟩ := h
    exact ⟨rfl, rfl⟩

theorem Act.looksLike_recorded (call : Except GovernanceError α → PluginCall) (act : Act σ α) :
    LooksLike Recorded.inner Eq (act.recorded call) act := by
  intro j
  unfold Act.recorded
  cases act (j.seen Recorded.inner) with
  | ok a k => exact .ok rfl
  | error e k => exact .error

@[simp] theorem Act.unrecorded_recorded (call : Except GovernanceError α → PluginCall)
    (act : Act σ α) : (act.recorded call).unrecorded = act := by
  funext j
  have hj : (j.seen fun s => ({ inner := s } : Recorded σ)).seen Recorded.inner = j := rfl
  unfold Act.unrecorded Act.recorded
  rw [hj]
  cases act j <;> rfl

@[simp] theorem FixStrategy.unrecorded_recorded (s : FixStrategy σ) :
    s.recorded.unrecorded = s := by
  simp [recorded, unrecorded]

namespace Engine

variable (e : Engine σ)

theorem looksLike_onOuter {β : Type} {R : α → β → Prop} {x : Act (Recorded σ) α} {y : Act σ β}
    (h : LooksLike Recorded.inner R x y) :
    LooksLike EngineWorld.unrecorded R (onOuter x) (onOuter y) :=
  h.onPart (fun _ => rfl) fun _ _ => rfl

theorem looksLike_settle (fingerprint : String) (r : RemediationResult) :
    LooksLike EngineWorld.unrecorded Eq (settle fingerprint r)
      (settle fingerprint r : Act (EngineWorld σ) Unit) := by
  refine Act.looksLike_world.bind ?_
  rintro w _ rfl
  exact Act.looksLike_setWorld _

theorem looksLike_settledEscalation (fingerprint : String) :
    LooksLike EngineWorld.unrecorded Eq (e.recorded.settledEscalation fingerprint)
      (e.settledEscalation fingerprint) := by
  refine Act.looksLike_world.bind ?_
  rintro w _ rfl
  simp only [EngineWorld.unrecorded]
  cases (w.ledger.lookup fingerprint).filter fun r => r.isEscalated with
  | some r => exact Act.looksLike_pure rfl
  | none =>
    refine (looksLike_onOuter (Act.looksLike_recorded _ _)).attempt.bind ?_
    rintro found _ rfl
    cases found with
    | ok record =>
      cases record with
      | some record =>
        refine (looksLike_settle fingerprint _).bind ?_
        rintro _ _ rfl
        exact Act.looksLike_pure rfl
      | none => exact Act.looksLike_pure rfl
    | error err =>
      refine (Act.looksLike_log _).bind ?_
      rintro _ _ rfl
      exact Act.looksLike_pure rfl

theorem looksLike_escalate (f : Finding) (fingerprint : String) (attempts : List FixAttempt)
    (reason : String) (now : Instant) :
    LooksLike EngineWorld.unrecorded Eq (e.recorded.escalate f fingerprint attempts reason now)
      (e.escalate f fingerprint attempts reason now) := by
  have hrecord (event : LogEvent) (r : RemediationResult) :
      LooksLike (EngineWorld.unrecorded (σ := σ)) Eq (do Act.log event; settle fingerprint r; return r)
        (do Act.log event; settle fingerprint r; return r) := by
    refine (Act.looksLike_log _).bind ?_
    rintro _ _ rfl
    refine (looksLike_settle fingerprint r).bind ?_
    rintro _ _ rfl
    exact Act.looksLike_pure rfl
  refine (looksLike_onOuter (Act.looksLike_recorded _ _)).attempt.bind ?_
  rintro sent _ rfl
  cases sent with
  | ok _ => exact hrecord _ _
  | error err =>
    refine (Act.looksLike_log _).bind ?_
    rintro _ _ rfl
    exact hrecord _ _

theorem looksLike_tryOnce (s : FixStrategy σ) (v : Validator σ) (f : Finding)
    (fingerprint : String) :
    LooksLike Recorded.inner Eq (e.recorded.tryOnce s.recorded v.recorded f fingerprint)
      (e.tryOnce s v f fingerprint) := by
  refine (Act.looksLike_recorded _ _).attempt.bind ?_
  rintro applied _ rfl
  match applied with
  | .ok .late => exact Act.looksLike_pure rfl
  | .ok (.aborted reason) => exact Act.looksLike_pure rfl
  | .error err => exact Act.looksLike_pure rfl
  | .ok (.inTime ()) =>
    refine (Act.looksLike_recorded _ _).attempt.bind ?_
    rintro _ _ rfl
    exact Act.looksLike_pure rfl

theorem looksLike_attempt (iteration : Nat) (s : FixStrategy σ) (v : Validator σ) (f : Finding)
    (fingerprint : String) (now : Instant) :
    LooksLike EngineWorld.unrecorded Eq
      (e.recorded.attempt iteration s.recorded v.recorded f fingerprint now)
      (e.attempt iteration s v f fingerprint now) := by
  refine (looksLike_onOuter (e.looksLike_tryOnce s v f fingerprint)).bind ?_
  rintro ⟨outcome, error⟩ _ rfl
  refine (Act.looksLike_log _).bind ?_
  rintro _ _ rfl
  exact Act.looksLike_pure rfl

/-- The recorded engine chooses the recorded form of what the engine chooses. -/
theorem looksLike_choose (f : Finding) (applicable : List (FixStrategy σ))
    (prior : List FixAttempt) :
    LooksLike EngineWorld.unrecorded (fun c c' => c = c'.map FixStrategy.recorded)
      (e.recorded.choose f (applicable.map FixStrategy.recorded) prior)
      (e.choose f applicable prior) := by
  refine Act.looksLike_world.bind ?_
  rintro w _ rfl
  -- The selector is shown the very strategies that it is shown without a record.
  have hplain : (applicable.map FixStrategy.recorded).map FixStrategy.unrecorded = applicable := by
    simp [Function.comp_def]
  simp only [recorded, StrategySelector.recorded, EngineWorld.unrecorded, hplain]
  refine (Act.looksLike_setWorld _).bind ?_
  rintro _ _ rfl
  exact Act.looksLike_pure rfl

theorem looksLike_fixLoop (v : Validator σ) (f : Finding) (fingerprint : String)
    (applicable : List (FixStrategy σ)) (now : Instant) (left : Nat) (prior : List FixAttempt) :
    LooksLike EngineWorld.unrecorded Eq
      (e.recorded.fixLoop v.recorded f fingerprint (applicable.map FixStrategy.recorded) now left
        prior)
      (e.fixLoop v f fingerprint applicable now left prior) := by
  induction left generalizing prior with
  | zero => exact Act.looksLike_pure rfl
  | succ left ih =>
    refine (e.looksLike_choose f applicable prior).bind ?_
    rintro _ choice rfl
    cases choice with
    | none => exact Act.looksLike_pure rfl
    | some s =>
      simp only [Option.map_some, FixStrategy.recorded]
      split
      · refine (Act.looksLike_log _).bind ?_
        rintro _ _ rfl
        exact Act.looksLike_pure rfl
      · refine (e.looksLike_attempt (prior.length + 1) s v f fingerprint now).bind ?_
        rintro a _ rfl
        split
        · exact Act.looksLike_pure rfl
        · exact ih (prior ++ [a])

theorem filter_recorded (f : Finding) :
    (e.recorded.strategies.filter fun s => s.appliesTo f) =
      (e.strategies.filter fun s => s.appliesTo f).map FixStrategy.recorded := by
  simp [recorded, FixStrategy.recorded, List.filter_map, Function.comp_def]

theorem validator?_recorded (id : String) :
    e.recorded.validator? id = (e.validator? id).map Validator.recorded := by
  simp [recorded, Validator.recorded, validator?, List.find?_map, Function.comp_def]

theorem id_of_validator? {e : Engine σ} {id : String} {v : Validator σ}
    (h : e.validator? id = some v) : v.id = id := by
  simpa using List.find?_some h

theorem looksLike_fixWith (v : Validator σ) (f : Finding) (fingerprint : String) (now : Instant) :
    LooksLike EngineWorld.unrecorded Eq (e.recorded.fixWith v.recorded f fingerprint now)
      (e.fixWith v f fingerprint now) := by
  simp only [fixWith, filter_recorded]
  refine (e.looksLike_fixLoop v f fingerprint _ now maxAttempts []).bind ?_
  rintro ⟨isFixed, attempts⟩ _ rfl
  cases isFixed with
  | true =>
    refine (looksLike_settle fingerprint _).bind ?_
    rintro _ _ rfl
    exact Act.looksLike_pure rfl
  | false => exact e.looksLike_escalate f fingerprint attempts _ now

/-- Without the record, a fix by the recorded engine is a fix by the engine. -/
theorem looksLike_fix (f : Finding) (now : Instant) :
    LooksLike EngineWorld.unrecorded Eq (e.recorded.fix f now) (e.fix f now) := by
  refine (e.looksLike_settledEscalation f.fingerprint).bind ?_
  rintro settled _ rfl
  cases settled with
  | some r =>
    refine (Act.looksLike_log _).bind ?_
    rintro _ _ rfl
    exact Act.looksLike_pure rfl
  | none =>
    simp only
    split
    · exact e.looksLike_escalate f f.fingerprint [] _ now
    · rw [validator?_recorded]
      cases e.validator? f.validatorId with
      | none => exact e.looksLike_escalate f f.fingerprint [] _ now
      | some v => exact e.looksLike_fixWith v f f.fingerprint now

/-! ## What an act of a recorded engine calls -/

/-- The act succeeds with a value. It makes the calls, in this order, and leaves the ledger. -/
def Makes (act : Act (EngineWorld (Recorded σ)) α) (j : Journal (EngineWorld (Recorded σ))) (a : α)
    (calls : List PluginCall) (ledger : List (String × RemediationResult)) : Prop :=
  ∃ inner, act.Ends j (.ok a)
    { outer := { inner, calls := j.world.outer.calls ++ calls }, ledger }

/-- A ledger in which a result took the place of an earlier one. -/
def settledLedger (ledger : List (String × RemediationResult)) (fingerprint : String)
    (r : RemediationResult) : List (String × RemediationResult) :=
  (fingerprint, r) :: ledger.filter fun l => l.1 != fingerprint

theorem ends_settle (fingerprint : String) (r : RemediationResult) (j : Journal (EngineWorld σ)) :
    (settle fingerprint r).Ends j (.ok ())
      { j.world with ledger := settledLedger j.world.ledger fingerprint r } := by
  refine Act.ends_world.bind fun k _ => ?_
  exact Act.ends_setWorld

section Makes

variable {β : Type} {j : Journal (EngineWorld (Recorded σ))} {a : α} {b : β}
  {calls calls' : List PluginCall} {ledger ledger' : List (String × RemediationResult)}

theorem makes_pure (a : α) : Makes (pure a) j a [] j.world.ledger := by
  refine ⟨j.world.outer.inner, ?_⟩
  rw [List.append_nil]
  exact Act.ends_pure a

theorem makes_log (event : LogEvent) : Makes (Act.log event) j () [] j.world.ledger := by
  refine ⟨j.world.outer.inner, ?_⟩
  rw [List.append_nil]
  exact Act.ends_log event

/-- Calls come one after the other, and what follows meets the ledger that was left. -/
theorem Makes.next {x : Act (EngineWorld (Recorded σ)) α} (hx : Makes x j a calls ledger) :
    ∃ k : Journal (EngineWorld (Recorded σ)), k.world.ledger = ledger ∧
      ∀ {γ : Type} {f : α → Act (EngineWorld (Recorded σ)) γ} {c : γ} {calls' ledger'},
        Makes (f a) k c calls' ledger' → Makes (x >>= f) j c (calls ++ calls') ledger' := by
  obtain ⟨inner, hx⟩ := hx
  obtain ⟨k, hk, hgo⟩ := hx.bind_eq
  refine ⟨k, by rw [hk], ?_⟩
  rintro γ f c calls' ledger' ⟨inner', hf⟩
  rw [hk, List.append_assoc] at hf
  exact ⟨inner', hf.of_eq (hgo f)⟩

/-- What follows makes no calls. -/
theorem Makes.bind_silent {x : Act (EngineWorld (Recorded σ)) α}
    {f : α → Act (EngineWorld (Recorded σ)) β} (hx : Makes x j a calls ledger)
    (hf : ∀ k : Journal (EngineWorld (Recorded σ)), k.world.ledger = ledger →
      Makes (f a) k b [] ledger') :
    Makes (x >>= f) j b calls ledger' := by
  obtain ⟨k, hk, hnext⟩ := hx.next
  simpa only [List.append_nil] using hnext (hf k hk)

/-- What comes first makes no calls. -/
theorem Makes.silent_bind {x : Act (EngineWorld (Recorded σ)) α}
    {f : α → Act (EngineWorld (Recorded σ)) β} (hx : Makes x j a [] ledger)
    (hf : ∀ k : Journal (EngineWorld (Recorded σ)), k.world.ledger = ledger →
      Makes (f a) k b calls ledger') :
    Makes (x >>= f) j b calls ledger' := by
  obtain ⟨k, hk, hnext⟩ := hx.next
  exact hnext (hf k hk)

theorem makes_settle (fingerprint : String) (r : RemediationResult) :
    Makes (settle fingerprint r) j () [] (settledLedger j.world.ledger fingerprint r) := by
  refine ⟨j.world.outer.inner, ?_⟩
  rw [List.append_nil]
  exact ends_settle fingerprint r j

end Makes

end Engine

end AgentGovernance
