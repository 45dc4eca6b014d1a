-- SUMMARY: What is left of a guard's operation that fails: the session always, the cached identity mostly.
import AgentGovernance.Proofs.Identity.SingleActive

/-!
# Guard operations that fail

An operation of a guard fails because it is refused or because the session cannot be saved. If a
failing save leaves the session that is read as it was, so does a failing operation. The identity
that the guard remembers is set after the save, so a failure leaves that alone too; a deactivation
alone forgets it first. Main statement: a failing operation keeps the persisted session, and the
remembered identity unless it is a deactivation, which leaves none behind.
-/

namespace AgentGovernance

open Act (Ends Maintains)

/-- What a guard remembers after an operation that failed. -/
def GuardOp.rememberedOnFailure (cached : Option AgentDescriptor) : GuardOp → Option AgentDescriptor
  | .deactivate => none
  | _ => cached

/-! ## Refusals -/

section Refusals

variable {index : DescriptorIndex} {e : GovernanceError}

theorem SessionEffect.refuse_of_map {α β : Type} {f : α → β} {effect : SessionEffect α}
    (h : effect.map f = .refuse e) : effect = .refuse e := by
  cases effect with
  | refuse e' =>
    cases h
    rfl
  | keep a => cases h
  | persist s a => cases h

theorem SessionState.whoEffect_ne_refuse (s : SessionState) : s.whoEffect index ≠ .refuse e := by
  unfold SessionState.whoEffect
  split
  · nofun
  · split <;> nofun

/-- An operation is refused for want of a descriptor or for another agent that is active. -/
theorem GuardOp.error_of_refuse {limit : Nat} {now : Instant} {s : SessionState} {op : GuardOp}
    (h : op.effect index limit now s = .refuse e) :
    (∃ id, e = .descriptorNotFound id) ∨
      ∃ active requested, e = .identityConflict active requested := by
  cases op with
  | activate rawId =>
    have heffect := SessionEffect.refuse_of_map h
    obtain ⟨-, hunknown⟩ | ⟨a, -, -, -, -, hconflict⟩ | ⟨-, -, next, hnext, -⟩ :=
      s.activateEffect_cases index limit now rawId
    · rw [hunknown] at heffect
      cases heffect
      exact .inl ⟨_, rfl⟩
    · rw [hconflict] at heffect
      cases heffect
      exact .inr ⟨_, _, rfl⟩
    · rw [hnext] at heffect
      cases heffect
  | deactivate =>
    have heffect := SessionEffect.refuse_of_map h
    unfold SessionState.deactivateEffect at heffect
    split at heffect <;> cases heffect
  | touch task =>
    have heffect := SessionEffect.refuse_of_map h
    unfold SessionState.touchEffect at heffect
    split at heffect <;> cases heffect
  | current => exact absurd (SessionEffect.refuse_of_map h) s.whoEffect_ne_refuse
  | checkBleed text => exact absurd (SessionEffect.refuse_of_map h) s.whoEffect_ne_refuse
  | checkActive enforcer action =>
    exact absurd (SessionEffect.refuse_of_map h) s.whoEffect_ne_refuse

end Refusals

namespace Guard

variable {σ α β : Type} {g : Guard σ} {j : Journal (GuardWorld σ)} {w : GuardWorld σ}
  {index : DescriptorIndex} {e : GovernanceError}

/-! ## Acts and the remembered identity -/

/-- However the act ends, the guard remembers what it remembered before. -/
def KeepsCached (x : Act (GuardWorld σ) α) : Prop :=
  ∀ cached, Maintains (fun w => w.cached = cached) x

/-- If the act fails, the guard remembers what it remembered before. -/
def SparesCached (x : Act (GuardWorld σ) α) : Prop :=
  ∀ j e w, Ends x j (.error e) w → w.cached = j.world.cached

theorem KeepsCached.spares {x : Act (GuardWorld σ) α} (hx : KeepsCached x) : SparesCached x :=
  fun j _ w h => hx j.world.cached j _ w rfl h

theorem keepsCached_session : KeepsCached g.session := by
  intro cached
  exact Act.maintains_of_ends fun _ => ⟨_, ends_session⟩

theorem keepsCached_save (s : SessionState) : KeepsCached (g.save s) := by
  intro cached j o w hj h
  unfold Guard.save onSession at h
  obtain ⟨t, -, rfl⟩ := Act.ends_of_onPart h
  exact hj

theorem keepsCached_log (event : LogEvent) : KeepsCached (Act.log event : Act (GuardWorld σ) Unit) :=
  fun _ => Act.maintains_log event

theorem keepsCached_pure (a : α) : KeepsCached (pure a : Act (GuardWorld σ) α) :=
  fun _ => Act.maintains_pure a

theorem keepsCached_fail : KeepsCached (Act.fail e : Act (GuardWorld σ) α) :=
  fun _ => Act.maintains_fail

theorem KeepsCached.bind {x : Act (GuardWorld σ) α} {f : α → Act (GuardWorld σ) β}
    (hx : KeepsCached x) (hf : ∀ a, KeepsCached (f a)) : KeepsCached (x >>= f) :=
  fun cached => (hx cached).bind fun a => hf a cached

/-- An act that answers does not fail. -/
theorem Answers.spares {x : Act (GuardWorld σ) α} {a : α} (hx : Answers x a) : SparesCached x := by
  intro j e w h
  obtain ⟨_, hends, -⟩ := hx j
  cases (h.unique hends).1

/-- A failure behind an act that keeps the remembered identity is as if it stood alone. -/
theorem KeepsCached.then_spares {x : Act (GuardWorld σ) α} {f : α → Act (GuardWorld σ) β}
    (hx : KeepsCached x) (hf : ∀ a, SparesCached (f a)) : SparesCached (x >>= f) := by
  intro j e w h
  obtain ⟨o, w', hfirst⟩ := Ends.exists x j
  have hkept := hx j.world.cached j o w' rfl hfirst
  cases o with
  | error e' =>
    obtain ⟨-, rfl⟩ := h.unique hfirst.bind_error
    exact hkept
  | ok a =>
    obtain ⟨k, rfl, hgo⟩ := hfirst.bind_eq
    obtain ⟨o, w'', hrest⟩ := Ends.exists (f a) k
    obtain ⟨rfl, rfl⟩ := h.unique (hrest.of_eq (hgo f))
    exact (hf a k e _ hrest).trans hkept

/-- What answers may set the remembered identity behind an act, for it is not reached on failure. -/
theorem SparesCached.then_answers {x : Act (GuardWorld σ) α} {f : α → Act (GuardWorld σ) β}
    (hx : SparesCached x) (hf : ∀ a, ∃ b, Answers (f a) b) : SparesCached (x >>= f) := by
  intro j e w h
  obtain ⟨o, w', hfirst⟩ := Ends.exists x j
  cases o with
  | error e' =>
    obtain ⟨-, rfl⟩ := h.unique hfirst.bind_error
    exact hx j e' _ hfirst
  | ok a =>
    obtain ⟨k, rfl, hgo⟩ := hfirst.bind_eq
    obtain ⟨b, hanswers⟩ := hf a
    obtain ⟨_, hrest, -⟩ := hanswers k
    cases (h.unique (hrest.of_eq (hgo f))).1

theorem SparesCached.map {x : Act (GuardWorld σ) α} (hx : SparesCached x) (f : α → β) :
    SparesCached (f <$> x) := by
  intro j e w h
  obtain ⟨o, w', hends⟩ := Ends.exists x j
  obtain ⟨ho, rfl⟩ := h.unique (hends.map f)
  cases o with
  | error e' => exact hx j e' _ hends
  | ok a => cases ho

/-! ## Operations -/

theorem sparesCached_refresh (d : AgentDescriptor) (id : String) (s : SessionState) (now : Instant) :
    SparesCached (g.refresh d id s now) :=
  (keepsCached_save _).spares.then_answers fun _ =>
    ⟨_, (answers_remember _).bind <| (answers_log _).bind <| answers_pure _⟩

theorem sparesCached_begin (d : AgentDescriptor) (id : String) (s : SessionState) (now : Instant) :
    SparesCached (g.begin d id s now) :=
  (keepsCached_save _).spares.then_answers fun _ =>
    ⟨_, (answers_remember _).bind <| (answers_log _).bind <| answers_pure _⟩

theorem sparesCached_activate (rawId : String) (now : Instant) :
    SparesCached (g.activate index rawId now) := by
  unfold Guard.activate
  simp only
  split
  · exact keepsCached_fail.spares
  · refine keepsCached_session.then_spares fun s => ?_
    split
    · exact sparesCached_begin _ _ _ _
    · split
      · exact sparesCached_refresh _ _ _ _
      · split
        · exact (keepsCached_log _).then_spares fun _ => keepsCached_fail.spares
        · exact (keepsCached_log _).then_spares fun _ => sparesCached_begin _ _ _ _

theorem sparesCached_touch (task : Option String) (now : Instant) :
    SparesCached (g.touch task now) := by
  unfold Guard.touch
  refine keepsCached_session.then_spares fun s => ?_
  split
  · cases task with
    | none => exact (keepsCached_save _).spares.then_answers fun _ => ⟨_, answers_pure _⟩
    | some t => exact (keepsCached_save _).spares.then_answers fun _ => ⟨_, answers_pure _⟩
  · exact (answers_pure _).spares

theorem sparesCached_current : SparesCached (g.current index) := by
  unfold Guard.current
  refine keepsCached_session.then_spares fun s => ?_
  split
  · exact ((answers_remember none).bind (answers_pure none)).spares
  · split
    · rename_i d _
      exact ((answers_remember (some d)).bind (answers_pure (some d))).spares
    · exact (keepsCached_log _).then_spares fun _ =>
        (keepsCached_save _).spares.then_answers fun _ =>
          ⟨none, (answers_remember none).bind (answers_pure none)⟩

theorem sparesCached_checkBleed (text : String) : SparesCached (g.checkBleed index text) := by
  unfold Guard.checkBleed
  refine sparesCached_current.then_answers fun active => ?_
  simp only
  split
  · exact ⟨_, (answers_log _).bind (answers_pure _)⟩
  · exact ⟨_, answers_pure _⟩

theorem sparesCached_checkActive (enforcer : Enforcer) (action : String) :
    SparesCached (enforcer.checkActive (some g) index action) := by
  unfold Enforcer.checkActive
  refine sparesCached_current.then_answers fun active => ?_
  cases active with
  | none => exact ⟨_, (answers_log _).bind (answers_pure _)⟩
  | some d => exact ⟨_, (answers_log _).bind (answers_pure _)⟩

/-- A deactivation forgets, whether or not the session can be saved. -/
theorem cached_of_deactivate {o : Except GovernanceError SessionState}
    (h : Ends g.deactivate j o w) : w.cached = none := by
  obtain ⟨k, -, hsession⟩ := (ends_session (g := g) (j := j)).bind_eq
  obtain ⟨k', hk', hforget⟩ := (ends_remember none k).bind_eq
  have hnone : k'.world.cached = none := by rw [hk']
  have hrest := (h.of_eq (hsession _).symm).of_eq (hforget _).symm
  split at hrest
  · exact ((keepsCached_log _).bind fun _ => keepsCached_pure _) none k' o w hnone hrest
  · exact ((keepsCached_save _).bind fun _ => (keepsCached_log _).bind fun _ => keepsCached_pure _)
      none k' o w hnone hrest

/-! ## Failures -/

/-- A failing operation was refused, which leaves the session store alone, or one save failed. -/
theorem failure_cases {op : GuardOp} {now : Instant}
    (h : Ends (g.perform index now op) j (.error e) w) :
    (op.effect index g.historyLimit now (g.persisted j.world) = .refuse e ∧
      w.session = j.world.session) ∨
    ∃ s events, Ends (g.store.save s) { world := j.world.session, events } (.error e) w.session := by
  have hrealizes : g.Realizes (g.perform index now op) j
      (op.effect index g.historyLimit now (g.persisted j.world)) := realizes_perform op now
  cases heffect : op.effect index g.historyLimit now (g.persisted j.world) with
  | refuse e' =>
    rw [heffect] at hrealizes
    obtain ⟨w', hends, hsession⟩ := hrealizes
    obtain ⟨he, rfl⟩ := h.unique hends
    cases he
    exact .inl ⟨rfl, hsession⟩
  | keep a =>
    rw [heffect] at hrealizes
    obtain ⟨w', hends, -⟩ := hrealizes
    cases (h.unique hends).1
  | persist s a =>
    rw [heffect] at hrealizes
    obtain ⟨events, saved, w', hends, hsaved⟩ := hrealizes
    obtain ⟨he, rfl⟩ := h.unique hends
    cases saved with
    | ok u => cases he
    | error e' =>
      cases he
      exact .inr ⟨s, events, hsaved⟩

theorem cached_of_failure {op : GuardOp} {now : Instant}
    (h : Ends (g.perform index now op) j (.error e) w) :
    w.cached = op.rememberedOnFailure j.world.cached := by
  cases op with
  | activate rawId => exact (sparesCached_activate rawId now).map _ j e w h
  | deactivate =>
    obtain ⟨o, w', hends⟩ := Ends.exists g.deactivate j
    obtain ⟨-, rfl⟩ := h.unique (hends.map GuardAnswer.session)
    exact cached_of_deactivate hends
  | touch task => exact (sparesCached_touch task now).map _ j e w h
  | current => exact sparesCached_current.map _ j e w h
  | checkBleed text => exact (sparesCached_checkBleed text).map _ j e w h
  | checkActive enforcer action => exact (sparesCached_checkActive enforcer action).map _ j e w h

/-- Where a failing save leaves the session that is read as it was, so does a failing operation. It
leaves the remembered identity as it was, except that a deactivation leaves none. The operation was
refused, or a save failed in the same way. -/
theorem failed_operation_keeps_session (g : Guard σ)
    (hstore : ∀ {s j e w}, Ends (g.store.save s) j (.error e) w →
      (g.store.read w).1 = (g.store.read j.world).1)
    (index : DescriptorIndex) (op : GuardOp) (now : Instant)
    (h : Ends (g.perform index now op) j (.error e) w) :
    g.persisted w = g.persisted j.world ∧
    w.cached = op.rememberedOnFailure j.world.cached ∧
    ((∃ id, e = .descriptorNotFound id) ∨
      (∃ active requested, e = .identityConflict active requested) ∨
      ∃ s events,
        Ends (g.store.save s) { world := j.world.session, events } (.error e) w.session) := by
  have hcached := cached_of_failure h
  obtain ⟨hrefused, hsession⟩ | ⟨s, events, hsave⟩ := failure_cases h
  · refine ⟨by rw [persisted, hsession, persisted], hcached, ?_⟩
    exact (GuardOp.error_of_refuse hrefused).imp_right .inl
  · exact ⟨hstore hsave, hcached, .inr (.inr ⟨s, events, hsave⟩)⟩

end Guard

/-! ## A store that cannot be written -/

/-- A store whose session can be read but not replaced. -/
def SessionStore.readOnly : SessionStore SessionState where
  read s := (s, [])
  save _ := Act.fail (.sessionPersistence (.replace { text := fileName } .permissionDenied))
  clear := Act.fail (.sessionPersistence (.remove { text := fileName } .permissionDenied))

theorem SessionStore.readOnly_read {s : SessionState} {j : Journal SessionState}
    {e : GovernanceError} {w : SessionState} (h : Ends (readOnly.save s) j (.error e) w) :
    (readOnly.read w).1 = (readOnly.read j.world).1 := by
  obtain ⟨-, rfl⟩ := h.unique Act.ends_fail
  rfl

namespace Guard

/-- A guard over such a store, which saw the agent that is active. -/
def stuck : GuardWorld SessionState where
  session := { activeAgent := some "ops" }
  cached := some (.new "ops")

/-- An agent without descriptor stays active where the session cannot be saved, and is remembered. -/
theorem failed_look_keeps_session :
    let g : Guard SessionState := { store := .readOnly }
    ∃ e w, Ends (g.perform {} ⟨0, 0⟩ .current) { world := stuck } (.error e) w ∧
      (g.persisted w).activeAgent = some "ops" ∧ w.cached = some (.new "ops") := by
  intro g
  have hends : Ends (g.perform {} ⟨0, 0⟩ .current) { world := stuck }
      (.error (.sessionPersistence (.replace { text := "session-state.json" } .permissionDenied)))
      stuck := ⟨rfl, rfl⟩
  obtain ⟨hsession, hcached, -⟩ :=
    failed_operation_keeps_session g SessionStore.readOnly_read _ _ _ hends
  exact ⟨_, _, hends, by rw [hsession]; rfl, hcached⟩

/-- A deactivation that cannot be saved keeps the agent active, and yet the guard forgets it. -/
theorem failed_deactivation_forgets :
    let g : Guard SessionState := { store := .readOnly }
    (∀ {s j e w}, Ends (g.store.save s) j (.error e) w →
      (g.store.read w).1 = (g.store.read j.world).1) ∧
    ∃ e w, Ends (g.perform { descriptors := [.new "ops"] } ⟨0, 0⟩ .deactivate)
        { world := stuck } (.error e) w ∧
      (g.persisted w).activeAgent = some "ops" ∧ stuck.cached = some (.new "ops") ∧
      w.cached = none := by
  intro g
  refine ⟨SessionStore.readOnly_read, _, { stuck with cached := none }, ⟨rfl, rfl⟩, rfl, rfl, rfl⟩

end Guard

end AgentGovernance
