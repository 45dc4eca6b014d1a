-- SUMMARY: Guard operations as data, their effect on a session, and that guards have that effect.
import AgentGovernance.Identity.Guard
import AgentGovernance.Proofs.Act
import AgentGovernance.Proofs.Descriptor.Index

/-!
# What guards do to sessions

An operation of a guard reads the persisted session once and then refuses, or answers and keeps the
session, or saves a session once and answers if that succeeds. Which of these it does follows from
the session, the descriptors, the history limit and the time alone: that is the effect of the
operation. Main statement: a guard has the effect of the operation, whatever its store.
-/

namespace AgentGovernance

/-! ## Operations and effects -/

/-- What a guard can be asked for. -/
inductive GuardOp where
  | activate (rawId : String)
  | deactivate
  | touch (task : Option String)
  /-- Who is active. Taking the identity from the session anew is the same operation. -/
  | current
  | checkBleed (text : String)
  | checkActive (enforcer : Enforcer) (action : String)

/-- What a guard answers. -/
inductive GuardAnswer where
  | session (state : SessionState)
  | identity (descriptor : Option AgentDescriptor)
  | bleed (check : BleedCheck)
  | decision (decision : Decision)

/-- What an operation that answers with an `α` does to the persisted session. -/
inductive SessionEffect (α : Type) where
  | refuse (error : GovernanceError)
  | keep (answer : α)
  | persist (state : SessionState) (answer : α)

def SessionEffect.map {α β : Type} (f : α → β) : SessionEffect α → SessionEffect β
  | .refuse e => .refuse e
  | .keep a => .keep (f a)
  | .persist s a => .persist s (f a)

@[simp] theorem SessionEffect.map_map {α β γ : Type} (f : α → β) (h : β → γ)
    (effect : SessionEffect α) : (effect.map f).map h = effect.map fun a => h (f a) := by
  cases effect <;> rfl

namespace SessionState

/-- The session of an activation. -/
def started (s : SessionState) (d : AgentDescriptor) (id : String) (now : Instant) (limit : Nat) :
    SessionState :=
  s.activate id (if d.source.isEmpty then none else some d.source) now limit

/-- The effect of asking for the identity: the session of an agent without descriptor is ended. -/
def whoEffect (index : DescriptorIndex) (s : SessionState) : SessionEffect (Option AgentDescriptor) :=
  match s.activeAgent with
  | none => .keep none
  | some active => match index.find? active with
    | some d => .keep (some d)
    | none => .persist s.deactivate none

/-- The effect of an activation. -/
def activateEffect (index : DescriptorIndex) (limit : Nat) (now : Instant) (rawId : String)
    (s : SessionState) : SessionEffect SessionState :=
  let id := Text.trim rawId
  match index.find? id with
  | none => .refuse (.descriptorNotFound id)
  | some d =>
    let next := s.started d id now limit
    match s.activeAgent with
    | none => .persist next next
    | some active =>
      if active == id then .persist (s.touch now) (s.touch now)
      else if index.contains active then .refuse (.identityConflict active id)
      else .persist next next

/-- The effect of a deactivation. -/
def deactivateEffect (s : SessionState) : SessionEffect SessionState :=
  match s.activeAgent with
  | none => .keep s
  | some _ => .persist s.deactivate s.deactivate

/-- The session of an activity. -/
def touched (s : SessionState) (task : Option String) (now : Instant) : SessionState :=
  match task with
  | some t => { s.touch now with currentTask := Text.trimmed? t }
  | none => s.touch now

/-- The effect of an activity. -/
def touchEffect (s : SessionState) (task : Option String) (now : Instant) :
    SessionEffect SessionState :=
  if s.isActive then .persist (s.touched task now) (s.touched task now) else .keep s

end SessionState

/-- The effect of an operation on a session. -/
def GuardOp.effect (index : DescriptorIndex) (limit : Nat) (now : Instant) (s : SessionState) :
    GuardOp → SessionEffect GuardAnswer
  | .activate rawId => (s.activateEffect index limit now rawId).map .session
  | .deactivate => s.deactivateEffect.map .session
  | .touch task => (s.touchEffect task now).map .session
  | .current => (s.whoEffect index).map .identity
  | .checkBleed text => (s.whoEffect index).map fun active =>
    .bleed (BleedCheck.ofText text (index.descriptors.map fun d => (d.id, d.name))
      (active.map (·.id)))
  | .checkActive e action => (s.whoEffect index).map fun active =>
    .decision (match active with
      | some d => e.check index d.id action
      | none => Enforcer.nobodyActive action)

/-- Asks a guard for an operation. -/
def Guard.perform {σ : Type} (g : Guard σ) (index : DescriptorIndex) (now : Instant) :
    GuardOp → Act (GuardWorld σ) GuardAnswer
  | .activate rawId => .session <$> g.activate index rawId now
  | .deactivate => .session <$> g.deactivate
  | .touch task => .session <$> g.touch task now
  | .current => .identity <$> g.current index
  | .checkBleed text => .bleed <$> g.checkBleed index text
  | .checkActive e action => .decision <$> e.checkActive (some g) index action

namespace Guard

open Act (Ends)

variable {σ α β : Type} {g : Guard σ} {j : Journal (GuardWorld σ)} {index : DescriptorIndex}

/-- The persisted session. -/
def persisted (g : Guard σ) (w : GuardWorld σ) : SessionState := (g.store.read w.session).1

/-- The act has the effect: where a session is to be persisted, the act saves it once, and it answers
if that succeeds and fails in the same way if it does not. -/
def Realizes (g : Guard σ) (act : Act (GuardWorld σ) α) (j : Journal (GuardWorld σ)) :
    SessionEffect α → Prop
  | .refuse e => ∃ w, Ends act j (.error e) w ∧ w.session = j.world.session
  | .keep a => ∃ w, Ends act j (.ok a) w ∧ w.session = j.world.session
  | .persist s a => ∃ events saved w, Ends act j (saved.map fun _ => a) w ∧
      Ends (g.store.save s) { world := j.world.session, events } saved w.session

/-! ## Parts of operations -/

theorem ends_session : Ends g.session j (.ok (g.persisted j.world)) j.world := by
  refine Ends.bind Act.ends_world ?_
  intro k hk
  refine Ends.bind (Act.ends_log_each _) ?_
  intro k' hk'
  rw [← hk, ← hk']
  exact Act.ends_pure _

/-- The act answers and leaves the session store alone. -/
def Answers (act : Act (GuardWorld σ) α) (a : α) : Prop :=
  ∀ j, ∃ w, Ends act j (.ok a) w ∧ w.session = j.world.session

theorem answers_pure (a : α) : Answers (pure a : Act (GuardWorld σ) α) a :=
  fun j => ⟨j.world, Act.ends_pure a, rfl⟩

theorem answers_log (event : LogEvent) : Answers (Act.log event : Act (GuardWorld σ) Unit) () :=
  fun j => ⟨j.world, Act.ends_log event, rfl⟩

theorem ends_remember (d : Option AgentDescriptor) (j : Journal (GuardWorld σ)) :
    Ends (remember d) j (.ok ()) { j.world with cached := d } := by
  refine Ends.bind Act.ends_world ?_
  intro k _
  exact Act.ends_setWorld

theorem answers_remember (d : Option AgentDescriptor) :
    Answers (remember d : Act (GuardWorld σ) Unit) () :=
  fun j => ⟨_, ends_remember d j, rfl⟩

theorem Answers.bind {x : Act (GuardWorld σ) α} {f : α → Act (GuardWorld σ) β} {a : α} {b : β}
    (hx : Answers x a) (hf : Answers (f a) b) : Answers (x >>= f) b := by
  intro j
  obtain ⟨w, hends, hsession⟩ := hx j
  obtain ⟨k, rfl, hgo⟩ := hends.bind_eq
  obtain ⟨w', hends', hsession'⟩ := hf k
  exact ⟨w', hends'.of_eq (hgo f), hsession'.trans hsession⟩

theorem Answers.realizes {act : Act (GuardWorld σ) α} {a : α} (h : Answers act a) :
    g.Realizes act j (.keep a) :=
  h j

theorem ends_save {s : SessionState} {saved : Except GovernanceError Unit} {t : σ}
    (h : Ends (g.store.save s) { world := j.world.session, events := j.events } saved t) :
    Ends (g.save s) j saved { j.world with session := t } := by
  unfold save onSession
  exact Ends.onPart h

/-- What leaves the session alone does not matter in front of an act. -/
theorem Realizes.after {x : Act (GuardWorld σ) β} {f : β → Act (GuardWorld σ) α} {b : β}
    {effect : SessionEffect α} (hx : ∃ w, Ends x j (.ok b) w ∧ w.session = j.world.session)
    (hf : ∀ k : Journal (GuardWorld σ), g.Realizes (f b) k effect) :
    g.Realizes (x >>= f) j effect := by
  obtain ⟨w, hends, hw⟩ := hx
  obtain ⟨k, hk, hgo⟩ := hends.bind_eq
  have hrest := hf k
  have hsame : k.world.session = j.world.session := by rw [hk, hw]
  cases effect with
  | refuse e =>
    obtain ⟨w', hends, hsession⟩ := hrest
    exact ⟨w', hends.of_eq (hgo f), hsession.trans hsame⟩
  | keep a =>
    obtain ⟨w', hends, hsession⟩ := hrest
    exact ⟨w', hends.of_eq (hgo f), hsession.trans hsame⟩
  | persist s a =>
    obtain ⟨events, saved, w', hends, hsaved⟩ := hrest
    exact ⟨events, saved, w', hends.of_eq (hgo f), hsame ▸ hsaved⟩

/-- What answers and leaves the session alone does not matter behind an act. -/
theorem Realizes.before {x : Act (GuardWorld σ) α} {f : α → Act (GuardWorld σ) β}
    {answer : α → β} {effect : SessionEffect α} (hx : g.Realizes x j effect)
    (hf : ∀ a, Answers (f a) (answer a)) : g.Realizes (x >>= f) j (effect.map answer) := by
  cases effect with
  | refuse e =>
    obtain ⟨w, hends, hsession⟩ := hx
    exact ⟨w, hends.bind_error, hsession⟩
  | keep a =>
    obtain ⟨w, hends, hsession⟩ := hx
    obtain ⟨k, rfl, hgo⟩ := hends.bind_eq
    obtain ⟨w', hends', hsession'⟩ := hf a k
    exact ⟨w', hends'.of_eq (hgo f), hsession'.trans hsession⟩
  | persist s a =>
    obtain ⟨events, saved, w, hends, hsaved⟩ := hx
    cases saved with
    | error e => exact ⟨events, .error e, w, hends.bind_error, hsaved⟩
    | ok u =>
      obtain ⟨k, rfl, hgo⟩ := hends.bind_eq
      obtain ⟨w', hends', hsession'⟩ := hf a k
      exact ⟨events, .ok u, w', hends'.of_eq (hgo f), hsession' ▸ hsaved⟩

theorem Realizes.map {x : Act (GuardWorld σ) α} {effect : SessionEffect α} (f : α → β)
    (hx : g.Realizes x j effect) : g.Realizes (f <$> x) j (effect.map f) := by
  cases effect with
  | refuse e =>
    obtain ⟨w, hends, hsession⟩ := hx
    exact ⟨w, hends.map f, hsession⟩
  | keep a =>
    obtain ⟨w, hends, hsession⟩ := hx
    exact ⟨w, hends.map f, hsession⟩
  | persist s a =>
    obtain ⟨events, saved, w, hends, hsaved⟩ := hx
    refine ⟨events, saved, w, ?_, hsaved⟩
    cases saved with
    | error e => exact hends.map f
    | ok u => exact hends.map f

/-- Saving a session and going on without touching it has the effect of persisting it. -/
theorem realizes_save {s : SessionState} {f : Unit → Act (GuardWorld σ) α} {a : α}
    (hf : Answers (f ()) a) : g.Realizes (g.save s >>= f) j (.persist s a) := by
  obtain ⟨saved, t, hsaved⟩ :=
    Ends.exists (g.store.save s) { world := j.world.session, events := j.events }
  have hsave := ends_save hsaved
  cases saved with
  | error e => exact ⟨j.events, .error e, _, hsave.bind_error, hsaved⟩
  | ok u =>
    obtain ⟨k, hk, hgo⟩ := hsave.bind_eq
    obtain ⟨w, hends, hsession⟩ := hf k
    refine ⟨j.events, .ok u, w, hends.of_eq (hgo f), ?_⟩
    rw [hsession, hk]
    exact hsaved

/-! ## Operations -/

theorem realizes_begin (d : AgentDescriptor) (id : String) (s : SessionState) (now : Instant) :
    g.Realizes (g.begin d id s now) j
      (.persist (s.started d id now g.historyLimit) (s.started d id now g.historyLimit)) :=
  realizes_save <| (answers_remember _).bind <| (answers_log _).bind <| answers_pure _

theorem realizes_refresh (d : AgentDescriptor) (id : String) (s : SessionState) (now : Instant) :
    g.Realizes (g.refresh d id s now) j (.persist (s.touch now) (s.touch now)) :=
  realizes_save <| (answers_remember _).bind <| (answers_log _).bind <| answers_pure _

theorem realizes_activate (rawId : String) (now : Instant) :
    g.Realizes (g.activate index rawId now) j
      ((g.persisted j.world).activateEffect index g.historyLimit now rawId) := by
  unfold Guard.activate SessionState.activateEffect
  simp only
  cases hfind : index.find? (Text.trim rawId) with
  | none => exact ⟨_, Act.ends_fail, rfl⟩
  | some d =>
    refine Realizes.after ⟨_, ends_session, rfl⟩ ?_
    intro k
    cases hactive : (g.persisted j.world).activeAgent with
    | none => exact realizes_begin d _ _ now
    | some active =>
      simp only
      split
      · exact realizes_refresh d _ _ now
      · split
        · exact Realizes.after (answers_log _ k) fun k' => ⟨_, Act.ends_fail, rfl⟩
        · exact Realizes.after (answers_log _ k) fun k' => realizes_begin d _ _ now

theorem realizes_deactivate : g.Realizes g.deactivate j (g.persisted j.world).deactivateEffect := by
  unfold Guard.deactivate SessionState.deactivateEffect
  refine Realizes.after ⟨_, ends_session, rfl⟩ ?_
  intro k
  refine Realizes.after (answers_remember none k) ?_
  intro k'
  cases (g.persisted j.world).activeAgent with
  | none => exact Answers.realizes <| (answers_log _).bind <| answers_pure _
  | some previous => exact realizes_save <| (answers_log _).bind <| answers_pure _

theorem realizes_touch (task : Option String) (now : Instant) :
    g.Realizes (g.touch task now) j ((g.persisted j.world).touchEffect task now) := by
  unfold Guard.touch SessionState.touchEffect SessionState.touched
  refine Realizes.after ⟨_, ends_session, rfl⟩ ?_
  intro k
  split
  · cases task with
    | none => exact realizes_save (answers_pure _)
    | some t => exact realizes_save (answers_pure _)
  · exact Answers.realizes <| answers_pure _

theorem realizes_current : g.Realizes (g.current index) j ((g.persisted j.world).whoEffect index) := by
  unfold Guard.current SessionState.whoEffect
  refine Realizes.after ⟨_, ends_session, rfl⟩ ?_
  intro k
  cases (g.persisted j.world).activeAgent with
  | none => exact Answers.realizes <| (answers_remember none).bind <| answers_pure _
  | some active =>
    cases hfind : index.find? active with
    | some d =>
      simp only [hfind]
      exact Answers.realizes <| (answers_remember _).bind <| answers_pure _
    | none =>
      simp only [hfind]
      refine Realizes.after (answers_log _ k) ?_
      intro k'
      exact realizes_save <| (answers_remember none).bind <| answers_pure _

theorem realizes_checkBleed (text : String) :
    g.Realizes (g.checkBleed index text) j
      (((g.persisted j.world).whoEffect index).map fun active =>
        BleedCheck.ofText text (index.descriptors.map fun d => (d.id, d.name))
          (active.map (·.id))) := by
  unfold Guard.checkBleed
  refine realizes_current.before ?_
  intro active
  simp only
  split
  · exact (answers_log _).bind (answers_pure _)
  · exact answers_pure _

theorem realizes_checkActive (e : Enforcer) (action : String) :
    g.Realizes (e.checkActive (some g) index action) j
      (((g.persisted j.world).whoEffect index).map fun active => match active with
        | some d => e.check index d.id action
        | none => Enforcer.nobodyActive action) := by
  unfold Enforcer.checkActive
  refine realizes_current.before ?_
  intro active
  cases active with
  | none => exact (answers_log _).bind (answers_pure _)
  | some d => exact (answers_log _).bind (answers_pure _)

/-- A guard has the effect of the operation on the persisted session. -/
theorem realizes_perform (op : GuardOp) (now : Instant) :
    g.Realizes (g.perform index now op) j
      (op.effect index g.historyLimit now (g.persisted j.world)) := by
  cases op with
  | activate rawId => exact (realizes_activate rawId now).map _
  | deactivate => exact realizes_deactivate.map _
  | touch task => exact (realizes_touch task now).map _
  | current => exact realizes_current.map _
  | checkBleed text => simpa [perform, GuardOp.effect] using (realizes_checkBleed text).map GuardAnswer.bleed
  | checkActive e action =>
    simpa [perform, GuardOp.effect] using (realizes_checkActive e action).map GuardAnswer.decision

end Guard

end AgentGovernance
