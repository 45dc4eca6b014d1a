-- SUMMARY: Guards over one session: who is active stays so until deactivated or no longer declared.
import AgentGovernance.Proofs.Identity.Guard
import AgentGovernance.Proofs.Session.Store

/-!
# One active identity

Any number of guards work on one session store and one descriptor store, step after step, while the
descriptors are replaced and loaded in between. The session may be in memory or in a file, and saves
may fail. Main statement: in every run from the empty session, an agent that is active and declared
loses its place through a deactivation only, and where the session can be saved, an activation is
refused exactly if its agent is not declared or another declared agent is active.
-/

namespace AgentGovernance

open Act (Ends)

/-! ## Crews -/

/-- Guards over one store, told apart by numbers. -/
structure Crew (σ : Type) where
  store : SessionStore σ
  historyLimit : Nat → Nat

/-- What the guards share, and the identity that each of them saw last. -/
structure CrewWorld (σ : Type) where
  session : σ
  descriptors : DescriptorStore := {}
  cached : Nat → Option AgentDescriptor := fun _ => none

/-- Something that happens to a crew. -/
inductive CrewStep where
  | ask (guard : Nat) (now : Instant) (op : GuardOp)
  | replace (descriptors : List AgentDescriptor)
  | load (disk : Disk) (directory : Path)
  | reload (disk : Disk)

/-- The clock of a step shows a time that it can show. -/
def CrewStep.Timely : CrewStep → Prop
  | .ask _ now _ => now.Valid
  | _ => True

namespace Crew

variable {σ : Type} (c : Crew σ)

def guard (i : Nat) : Guard σ := { store := c.store, historyLimit := c.historyLimit i }

/-- The persisted session. -/
def session (w : CrewWorld σ) : SessionState := (c.store.read w.session).1

/-- The agent that is active by the persisted session. -/
def active (w : CrewWorld σ) : Option String := (c.session w).activeAgent

/-- Asks one of the guards. -/
def ask (w : CrewWorld σ) (i : Nat) (now : Instant) (op : GuardOp) :
    Act.Run (GuardWorld σ) GuardAnswer :=
  ((c.guard i).perform w.descriptors.index now op).run
    { session := w.session, cached := w.cached i }

def step (w : CrewWorld σ) : CrewStep → CrewWorld σ
  | .ask i now op =>
    let after := (c.ask w i now op).world
    { w with
      session := after.session
      cached := fun k => if k = i then after.cached else w.cached k }
  | .replace ds => { w with descriptors := ((DescriptorStore.replace ds).run w.descriptors).world }
  | .load disk dir =>
    { w with descriptors := ((DescriptorStore.load disk dir).run w.descriptors).world }
  | .reload disk => { w with descriptors := ((DescriptorStore.reload disk).run w.descriptors).world }

def run (w : CrewWorld σ) (steps : List CrewStep) : CrewWorld σ := steps.foldl c.step w

end Crew

/-! ## Effects on the active agent -/

section Effects

variable {index : DescriptorIndex} {limit : Nat} {now : Instant} {s next : SessionState}

/-- The sessions that an operation can put in the place of a session: that of an activity, that of an
activation which nobody with a descriptor stands against, or that of nobody. -/
inductive GuardOp.Persists (index : DescriptorIndex) (limit : Nat) (now : Instant)
    (s : SessionState) : GuardOp → SessionState → Prop where
  | refresh {rawId : String} : s.activeAgent = some (Text.trim rawId) →
      Persists index limit now s (.activate rawId) (s.touched none now)
  | start {rawId : String} (d : AgentDescriptor) : s.activeAgent ≠ some (Text.trim rawId) →
      (∀ a, s.activeAgent = some a → index.find? a = none) →
      Persists index limit now s (.activate rawId) (s.started d (Text.trim rawId) now limit)
  | touch {task : Option String} : s.isActive = true →
      Persists index limit now s (.touch task) (s.touched task now)
  | stop : Persists index limit now s .deactivate s.deactivate
  /-- Any operation but an activation finds that the active agent has no descriptor. -/
  | drop {op : GuardOp} {a : String} : (∀ rawId, op ≠ .activate rawId) →
      s.activeAgent = some a → index.find? a = none →
      Persists index limit now s op s.deactivate

private theorem SessionEffect.persist_of_map {α β : Type} {f : α → β} {effect : SessionEffect α}
    {b : β} (h : effect.map f = .persist next b) : ∃ a, effect = .persist next a := by
  cases effect with
  | refuse e => cases h
  | keep a => cases h
  | persist s a =>
    cases h
    exact ⟨a, rfl⟩

private theorem SessionState.persist_of_whoEffect {answer : Option AgentDescriptor}
    (h : s.whoEffect index = .persist next answer) :
    next = s.deactivate ∧ ∃ a, s.activeAgent = some a ∧ index.find? a = none := by
  unfold SessionState.whoEffect at h
  split at h
  · cases h
  · rename_i a hactive
    split at h
    · cases h
    · rename_i hstale
      cases h
      exact ⟨rfl, a, hactive, hstale⟩

private theorem SessionState.persists_of_activateEffect {rawId : String} {answer : SessionState}
    (h : s.activateEffect index limit now rawId = .persist next answer) :
    GuardOp.Persists index limit now s (.activate rawId) next := by
  unfold SessionState.activateEffect at h
  simp only at h
  split at h
  · cases h
  · rename_i d hfind
    split at h
    · rename_i hnone
      cases h
      exact .start d (by simp [hnone]) (by simp [hnone])
    · rename_i active hactive
      split at h
      · rename_i hsame
        cases h
        exact .refresh (by rw [hactive, beq_iff_eq.1 hsame])
      · rename_i hother
        split at h
        · cases h
        · rename_i hstale
          cases h
          refine .start d (by simpa [hactive] using hother) ?_
          intro a ha
          obtain rfl : active = a := Option.some.inj (hactive.symm.trans ha)
          simpa [DescriptorIndex.contains] using hstale

theorem GuardOp.persists_of_effect {op : GuardOp} {answer : GuardAnswer}
    (h : op.effect index limit now s = .persist next answer) :
    op.Persists index limit now s next := by
  cases op with
  | activate rawId =>
    obtain ⟨_, heffect⟩ := SessionEffect.persist_of_map h
    exact SessionState.persists_of_activateEffect heffect
  | deactivate =>
    obtain ⟨_, heffect⟩ := SessionEffect.persist_of_map h
    unfold SessionState.deactivateEffect at heffect
    split at heffect
    · cases heffect
    · cases heffect
      exact .stop
  | touch task =>
    obtain ⟨_, heffect⟩ := SessionEffect.persist_of_map h
    unfold SessionState.touchEffect at heffect
    split at heffect
    · rename_i hactive
      cases heffect
      exact .touch hactive
    · cases heffect
  | current | checkBleed text | checkActive e action =>
    obtain ⟨_, heffect⟩ := SessionEffect.persist_of_map h
    obtain ⟨rfl, a, hactive, hstale⟩ := SessionState.persist_of_whoEffect heffect
    exact .drop nofun hactive hstale

theorem SessionState.Valid.touched (h : s.Valid) (hnow : now.Valid) (task : Option String) :
    (s.touched task now).Valid := by
  have hlast : ∀ t ∈ some now, t.Valid := by
    rintro t ⟨⟩
    exact hnow
  cases task with
  | none => exact ⟨h.activatedAt, hlast, h.history⟩
  | some task => exact ⟨h.activatedAt, hlast, h.history⟩

theorem SessionState.Valid.started (h : s.Valid) (hnow : now.Valid) (d : AgentDescriptor)
    (id : String) (limit : Nat) : (s.started d id now limit).Valid := by
  have hsince : ∀ t ∈ some now, t.Valid := by
    rintro t ⟨⟩
    exact hnow
  refine ⟨hsince, hsince, ?_⟩
  intro e he
  rcases List.mem_append.1 (List.mem_of_mem_drop he) with hold | hnew
  · exact h.history e hold
  · obtain rfl := List.mem_singleton.1 hnew
    exact hnow

/-- What an operation at a valid time puts in the place of a valid session is valid. -/
theorem GuardOp.Persists.valid {op : GuardOp} (hpersists : op.Persists index limit now s next)
    (h : s.Valid) (hnow : now.Valid) : next.Valid := by
  cases hpersists with
  | refresh _ => exact h.touched hnow none
  | start d _ _ => exact h.started hnow d _ limit
  | touch _ => exact h.touched hnow _
  | stop => exact h.deactivate
  | drop _ _ _ => exact h.deactivate

/-- An activation is refused for want of a descriptor or for another agent that has one, and else
makes the agent active. -/
theorem SessionState.activateEffect_cases (index : DescriptorIndex) (limit : Nat) (now : Instant)
    (rawId : String) (s : SessionState) :
    (Text.trim rawId ∉ index.ids ∧
      s.activateEffect index limit now rawId = .refuse (.descriptorNotFound (Text.trim rawId))) ∨
    (∃ a, Text.trim rawId ∈ index.ids ∧ s.activeAgent = some a ∧ a ≠ Text.trim rawId ∧
      Text.trim a ∈ index.ids ∧
      s.activateEffect index limit now rawId = .refuse (.identityConflict a (Text.trim rawId))) ∨
    (Text.trim rawId ∈ index.ids ∧
      (∀ a, s.activeAgent = some a → a = Text.trim rawId ∨ Text.trim a ∉ index.ids) ∧
      ∃ next, s.activateEffect index limit now rawId = .persist next next ∧
        next.activeAgent = some (Text.trim rawId)) := by
  unfold SessionState.activateEffect
  simp only [DescriptorIndex.find?_trim]
  cases hfind : index.find? rawId with
  | none => exact .inl ⟨(DescriptorIndex.find?_eq_none_iff rawId).1 hfind, rfl⟩
  | some d =>
    have hknown : Text.trim rawId ∈ index.ids :=
      (DescriptorIndex.find?_isSome_iff rawId).1 (by simp [hfind])
    right
    cases hactive : s.activeAgent with
    | none => exact .inr ⟨hknown, nofun, _, rfl, rfl⟩
    | some active =>
      simp only
      by_cases hsame : active = Text.trim rawId
      · refine .inr ⟨hknown, ?_, s.touch now, by simp [hsame], by simp [touch, hactive, hsame]⟩
        rintro a ⟨⟩
        exact .inl hsame
      · by_cases hother : index.contains active = true
        · exact .inl ⟨active, hknown, rfl, hsame, (DescriptorIndex.contains_iff active).1 hother,
            by simp [hsame, hother]⟩
        · refine .inr ⟨hknown, ?_, s.started d (Text.trim rawId) now limit,
            by simp [hsame, hother], rfl⟩
          rintro a ⟨⟩
          exact .inr (mt (DescriptorIndex.contains_iff active).2 hother)

@[simp] theorem SessionState.touched_activeAgent (s : SessionState) (task : Option String)
    (now : Instant) : (s.touched task now).activeAgent = s.activeAgent := by
  cases task <;> rfl

end Effects

/-! ## Steps -/

namespace Crew

variable {σ : Type} {c : Crew σ} {w : CrewWorld σ} {good : σ → Prop}

/-- The world is good for the store, and the persisted session is valid. -/
structure Sound (c : Crew σ) (good : σ → Prop) (w : CrewWorld σ) : Prop where
  good : good w.session
  valid : (c.session w).Valid

theorem realizes_ask (w : CrewWorld σ) (i : Nat) (now : Instant) (op : GuardOp) :
    (c.guard i).Realizes ((c.guard i).perform w.descriptors.index now op)
      { world := { session := w.session, cached := w.cached i } }
      (op.effect w.descriptors.index (c.historyLimit i) now (c.session w)) :=
  Guard.realizes_perform op now

/-- How an operation ends and what it leaves follows from its effect. Where a session is to be
persisted, that may fail, and then nothing changes. -/
theorem ask_spec (hstore : c.store.Lawful good) (hw : c.Sound good w) (i : Nat) {now : Instant}
    (hnow : now.Valid) (op : GuardOp) :
    c.Sound good (c.step w (.ask i now op)) ∧
    match op.effect w.descriptors.index (c.historyLimit i) now (c.session w) with
    | .refuse e => (c.ask w i now op).outcome = .error e ∧
        c.session (c.step w (.ask i now op)) = c.session w
    | .keep a => (c.ask w i now op).outcome = .ok a ∧
        c.session (c.step w (.ask i now op)) = c.session w
    | .persist s a => (∃ e, (c.ask w i now op).outcome = .error e) ∧
        c.session (c.step w (.ask i now op)) = c.session w ∨
        (c.ask w i now op).outcome = .ok a ∧ c.session (c.step w (.ask i now op)) = s := by
  have hreal := realizes_ask (c := c) w i now op
  have hworld {o : Except GovernanceError GuardAnswer} {after : GuardWorld σ}
      (hends : Ends ((c.guard i).perform w.descriptors.index now op)
        { world := { session := w.session, cached := w.cached i } } o after) :
      (c.step w (.ask i now op)).session = after.session := by
    simp only [Crew.step, ask, hends.run.2]
  -- Without a save, the world of the store is the very one that it was.
  have hkept {o : Except GovernanceError GuardAnswer} {after : GuardWorld σ}
      (hends : Ends ((c.guard i).perform w.descriptors.index now op)
        { world := { session := w.session, cached := w.cached i } } o after)
      (hsession : after.session = w.session) :
      c.Sound good (c.step w (.ask i now op)) ∧ (c.ask w i now op).outcome = o ∧
        c.session (c.step w (.ask i now op)) = c.session w := by
    have hsame := (hworld hends).trans hsession
    have hread : c.session (c.step w (.ask i now op)) = c.session w := by
      rw [session, hsame, session]
    exact ⟨⟨hsame ▸ hw.good, hread ▸ hw.valid⟩, hends.run.1, hread⟩
  cases heffect : op.effect w.descriptors.index (c.historyLimit i) now (c.session w) with
  | refuse e =>
    rw [heffect] at hreal
    obtain ⟨after, hends, hsession⟩ := hreal
    exact hkept hends hsession
  | keep a =>
    rw [heffect] at hreal
    obtain ⟨after, hends, hsession⟩ := hreal
    exact hkept hends hsession
  | persist s a =>
    rw [heffect] at hreal
    obtain ⟨events, saved, after, hends, hsaved⟩ := hreal
    have hvalid : s.Valid := (GuardOp.persists_of_effect heffect).valid hw.valid hnow
    have hread : c.session (c.step w (.ask i now op)) = (c.store.read after.session).1 := by
      rw [session, hworld hends]
    cases saved with
    | error e =>
      obtain ⟨hsame, hgood⟩ := hstore.failed hvalid hw.good hsaved
      have hsession : c.session (c.step w (.ask i now op)) = c.session w := hread.trans hsame
      exact ⟨⟨(hworld hends).symm ▸ hgood, hsession ▸ hw.valid⟩, .inl ⟨⟨e, hends.run.1⟩, hsession⟩⟩
    | ok u =>
      obtain ⟨hnew, hgood⟩ := hstore.saved hvalid hw.good hsaved
      have hsession : c.session (c.step w (.ask i now op)) = s := hread.trans hnew
      exact ⟨⟨(hworld hends).symm ▸ hgood, hsession ▸ hvalid⟩, .inr ⟨hends.run.1, hsession⟩⟩

theorem sound_step (hstore : c.store.Lawful good) (hw : c.Sound good w) {step : CrewStep}
    (hstep : step.Timely) : c.Sound good (c.step w step) := by
  cases step with
  | ask i now op => exact (ask_spec hstore hw i hstep op).1
  | replace | load | reload => exact ⟨hw.good, hw.valid⟩

/-- Nothing but an operation that persists a session changes the session. -/
theorem session_step (hstore : c.store.Lawful good) (hw : c.Sound good w) {step : CrewStep}
    (hstep : step.Timely) :
    c.session (c.step w step) = c.session w ∨
    ∃ i now op, step = .ask i now op ∧
      op.Persists w.descriptors.index (c.historyLimit i) now (c.session w)
        (c.session (c.step w step)) := by
  cases step with
  | replace ds => exact .inl rfl
  | load disk dir => exact .inl rfl
  | reload disk => exact .inl rfl
  | ask i now op =>
    have hspec := (ask_spec hstore hw i hstep op).2
    cases heffect : op.effect w.descriptors.index (c.historyLimit i) now (c.session w) with
    | refuse e =>
      rw [heffect] at hspec
      exact .inl hspec.2
    | keep a =>
      rw [heffect] at hspec
      exact .inl hspec.2
    | persist s a =>
      rw [heffect] at hspec
      rcases hspec with ⟨-, hsame⟩ | ⟨-, hsaved⟩
      · exact .inl hsame
      · exact .inr ⟨i, now, op, rfl, hsaved ▸ GuardOp.persists_of_effect heffect⟩

theorem outcome_of_refuse {i : Nat} {now : Instant} {op : GuardOp} {e : GovernanceError}
    (h : op.effect w.descriptors.index (c.historyLimit i) now (c.session w) = .refuse e) :
    (c.ask w i now op).outcome = .error e := by
  have hreal := realizes_ask (c := c) w i now op
  rw [h] at hreal
  obtain ⟨after, hends, -⟩ := hreal
  exact hends.run.1

theorem outcome_of_persist (hstore : c.store.Lawful good) (hw : c.Sound good w)
    (hsaves : c.store.SavesAt w.session) {i : Nat} {now : Instant} (hnow : now.Valid) {op : GuardOp}
    {s : SessionState} {answer : GuardAnswer}
    (h : op.effect w.descriptors.index (c.historyLimit i) now (c.session w) = .persist s answer) :
    (c.ask w i now op).outcome = .ok answer ∧ c.session (c.step w (.ask i now op)) = s := by
  have hvalid : s.Valid := (GuardOp.persists_of_effect h).valid hw.valid hnow
  have hreal := realizes_ask (c := c) w i now op
  rw [h] at hreal
  obtain ⟨events, saved, w', hends, hsaved⟩ := hreal
  obtain ⟨t, hok⟩ := hsaves (j := { world := w.session, events }) hvalid rfl
  obtain ⟨rfl, -⟩ := hsaved.unique hok
  refine ⟨hends.run.1, ?_⟩
  simp only [session, Crew.step, ask, hends.run.2]
  exact (hstore.saved hvalid hw.good hsaved).1

/-- An active agent with a descriptor stays active, unless the step is a deactivation. -/
theorem active_step (hstore : c.store.Lawful good) (hw : c.Sound good w) {step : CrewStep}
    (hstep : step.Timely) {a : String} (ha : c.active w = some a)
    (hchanged : c.active (c.step w step) ≠ some a) :
    (∃ i now, step = .ask i now .deactivate) ∨ w.descriptors.index.find? a = none := by
  rcases session_step hstore hw hstep with hsame | ⟨i, now, op, rfl, hpersists⟩
  · exact absurd ((congrArg SessionState.activeAgent hsame).trans ha) hchanged
  · rw [active] at hchanged
    generalize c.session (c.step w (.ask i now op)) = next at hpersists hchanged
    cases hpersists with
    | refresh _ => exact absurd ((SessionState.touched_activeAgent _ _ _).trans ha) hchanged
    | start d _ hstale => exact .inr (hstale a ha)
    | touch _ => exact absurd ((SessionState.touched_activeAgent _ _ _).trans ha) hchanged
    | stop => exact .inl ⟨i, now, rfl⟩
    | drop _ hb hstale =>
      obtain rfl := Option.some.inj (hb.symm.trans ha)
      exact .inr hstale

/-! ## Runs -/

/-- The active agent is written without blanks at its ends. -/
def Trimmed (c : Crew σ) (w : CrewWorld σ) : Prop := ∀ a, c.active w = some a → Text.trim a = a

theorem trimmed_step (hstore : c.store.Lawful good) (hw : c.Sound good w) (htrimmed : c.Trimmed w)
    {step : CrewStep} (hstep : step.Timely) : c.Trimmed (c.step w step) := by
  intro a ha
  rcases session_step hstore hw hstep with hsame | ⟨i, now, op, rfl, hpersists⟩
  · exact htrimmed a ((congrArg SessionState.activeAgent hsame).symm.trans ha)
  · rw [active] at ha
    generalize c.session (c.step w (.ask i now op)) = next at hpersists ha
    cases hpersists with
    | refresh _ => exact htrimmed a ((SessionState.touched_activeAgent _ _ _).symm.trans ha)
    | start d _ _ =>
      cases ha
      exact Text.trim_trim _
    | touch _ => exact htrimmed a ((SessionState.touched_activeAgent _ _ _).symm.trans ha)
    | stop => cases ha
    | drop _ _ _ => cases ha

/-- What every step preserves while the world is sound holds after a run. -/
theorem run_induction {P : CrewWorld σ → Prop} (hstore : c.store.Lawful good) (hw : c.Sound good w)
    (hP : P w) (hstep : ∀ {w step}, c.Sound good w → P w → step.Timely → P (c.step w step))
    {steps : List CrewStep} (hclock : ∀ step ∈ steps, step.Timely) :
    c.Sound good (c.run w steps) ∧ P (c.run w steps) := by
  induction steps generalizing w with
  | nil => exact ⟨hw, hP⟩
  | cons step steps ih =>
    obtain ⟨hfirst, hrest⟩ := List.forall_mem_cons.1 hclock
    exact ih (sound_step hstore hw hfirst) (hstep hw hP hfirst) hrest

theorem sound_run (hstore : c.store.Lawful good) (hw : c.Sound good w) {steps : List CrewStep}
    (hclock : ∀ step ∈ steps, step.Timely) : c.Sound good (c.run w steps) :=
  (run_induction (P := fun _ => True) hstore hw trivial (fun _ _ _ => trivial) hclock).1

theorem run_concat (c : Crew σ) (w : CrewWorld σ) (steps : List CrewStep) (step : CrewStep) :
    c.run w (steps ++ [step]) = c.step (c.run w steps) step :=
  List.foldl_concat ..

/-- The three ways an activation ends. -/
theorem activate_outcome (hstore : c.store.Lawful good) (hw : c.Sound good w)
    (hsaves : c.store.SavesAt w.session) (htrimmed : c.Trimmed w) (i : Nat) {now : Instant}
    (hnow : now.Valid) (rawId : String) :
    let requested := Text.trim rawId
    let declared := w.descriptors.index.ids
    let outcome := (c.ask w i now (.activate rawId)).outcome
    (requested ∉ declared ∧ outcome = .error (.descriptorNotFound requested)) ∨
    (∃ a, requested ∈ declared ∧ c.active w = some a ∧ a ≠ requested ∧ a ∈ declared ∧
      outcome = .error (.identityConflict a requested)) ∨
    (requested ∈ declared ∧ (∀ a, c.active w = some a → a = requested ∨ a ∉ declared) ∧
      ∃ s, outcome = .ok (.session s) ∧ s.activeAgent = some requested ∧
        c.session (c.step w (.ask i now (.activate rawId))) = s) := by
  intro requested declared outcome
  rcases SessionState.activateEffect_cases w.descriptors.index (c.historyLimit i) now rawId
    (c.session w) with ⟨hunknown, heffect⟩ | ⟨a, hknown, hactive, hne, hother, heffect⟩ |
      ⟨hknown, hfree, next, heffect, hnext⟩
  · exact .inl ⟨hunknown, outcome_of_refuse (by rw [GuardOp.effect, heffect]; rfl)⟩
  · rw [htrimmed a hactive] at hother
    exact .inr (.inl ⟨a, hknown, hactive, hne, hother,
      outcome_of_refuse (by rw [GuardOp.effect, heffect]; rfl)⟩)
  · have hpersist : (GuardOp.activate rawId).effect w.descriptors.index (c.historyLimit i) now
        (c.session w) = .persist next (.session next) := by
      rw [GuardOp.effect, heffect]
      rfl
    obtain ⟨hout, hsession⟩ := outcome_of_persist hstore hw hsaves hnow hpersist
    refine .inr (.inr ⟨hknown, ?_, next, hout, hnext, hsession⟩)
    intro a ha
    have hsame := hfree a ha
    rwa [htrimmed a ha] at hsame

/-- In every run from the empty session over a store that keeps to its part, an active agent gives way
to a deactivation only, or when it has no descriptor. Where the session can be saved, an activation
fails exactly if its agent has no descriptor, or another agent that has one is active; else it leaves
its agent active. -/
theorem single_active_identity (c : Crew σ) (hstore : c.store.Lawful good) (start : CrewWorld σ)
    (hgood : good start.session) (hempty : c.session start = {}) (steps : List CrewStep)
    (hclock : ∀ step ∈ steps, step.Timely) :
    let w := c.run start steps
    let declared := w.descriptors.index.ids
    (∀ step a, step.Timely → c.active w = some a → c.active (c.step w step) ≠ some a →
      (∃ i now, step = .ask i now .deactivate) ∨ a ∉ declared) ∧
    (c.store.SavesAt w.session → ∀ i now rawId, now.Valid →
      let requested := Text.trim rawId
      let outcome := (c.ask w i now (.activate rawId)).outcome
      (∀ a b, outcome = .error (.identityConflict a b) ↔
        b = requested ∧ b ∈ declared ∧ c.active w = some a ∧ a ≠ b ∧ a ∈ declared) ∧
      (∀ b, outcome = .error (.descriptorNotFound b) ↔ b = requested ∧ b ∉ declared) ∧
      (requested ∈ declared → (∀ a, c.active w = some a → a = requested ∨ a ∉ declared) →
        ∃ s, outcome = .ok (.session s) ∧ s.activeAgent = some requested ∧
          c.session (c.step w (.ask i now (.activate rawId))) = s)) := by
  intro w declared
  have hstart : c.Sound good start := ⟨hgood, hempty ▸ SessionState.valid_empty⟩
  have hbare : c.Trimmed start := by
    intro a ha
    rw [active, hempty] at ha
    cases ha
  obtain ⟨hw, htrimmed⟩ : c.Sound good w ∧ c.Trimmed w :=
    run_induction hstore hstart hbare (fun hw htrimmed => trimmed_step hstore hw htrimmed) hclock
  refine ⟨?_, ?_⟩
  · intro step a hstep ha hchanged
    refine (active_step hstore hw hstep ha hchanged).imp_right fun hstale => ?_
    have hgone := (DescriptorIndex.find?_eq_none_iff a).1 hstale
    rwa [htrimmed a ha] at hgone
  · intro hsaves i now rawId hnow requested outcome
    -- The conditions of the three outcomes exclude each other, so each outcome has its condition.
    rcases activate_outcome hstore hw hsaves htrimmed i hnow rawId with
      ⟨hunknown, hout⟩ | ⟨a, hknown, hactive, hne, hother, hout⟩ | ⟨hknown, hfree, s, hout, hs⟩
    · change outcome = _ at hout
      refine ⟨?_, ?_, ?_⟩ <;> grind
    · change outcome = _ at hout
      refine ⟨?_, ?_, ?_⟩ <;> grind
    · change outcome = _ at hout
      refine ⟨?_, ?_, ?_⟩ <;> grind

/-- After one guard activated an agent over a session file, a second guard over the file is refused
another one. -/
theorem single_active_identity_conflict :
    let c : Crew Disk := { store := .file ⟨"session.json"⟩, historyLimit := fun _ => 5 }
    let start : CrewWorld Disk := { session := { tree := .empty } }
    let w := c.run start [.replace [.new "ops", .new "dev"], .ask 0 ⟨0, 0⟩ (.activate "ops")]
    c.active w = some "ops" ∧
      (c.ask w 1 ⟨1, 0⟩ (.activate " dev ")).outcome = .error (.identityConflict "ops" "dev") := by
  intro c start w
  let loaded := c.run start [.replace [.new "ops", .new "dev"]]
  have hworks : c.store.Works (SessionStore.Writable ⟨"session.json"⟩) := SessionStore.file_works _
  have hgood : SessionStore.Writable ⟨"session.json"⟩ start.session := SessionStore.writable_empty
  have hempty : c.session start = {} := SessionStore.read_absent (by decide +kernel)
  have hstart : c.Sound (SessionStore.Writable ⟨"session.json"⟩) start :=
    ⟨hgood, hempty ▸ SessionState.valid_empty⟩
  have hearly : Instant.Valid ⟨0, 0⟩ := ⟨by decide, by decide⟩
  have hreplaced : ∀ step ∈ [.replace [.new "ops", .new "dev"]], CrewStep.Timely step :=
    List.forall_mem_singleton.2 trivial
  have hclock : ∀ step ∈ [.replace [.new "ops", .new "dev"], .ask 0 ⟨0, 0⟩ (.activate "ops")],
      CrewStep.Timely step :=
    List.forall_mem_cons.2 ⟨trivial, List.forall_mem_singleton.2 hearly⟩
  have hloaded : loaded.descriptors.index.ids = ["dev", "ops"] := by decide +kernel
  have hdeclared : w.descriptors.index.ids = ["dev", "ops"] := by decide +kernel
  have hnobody : c.active loaded = none := congrArg SessionState.activeAgent hempty
  have hsaves : c.store.SavesAt loaded.session :=
    hworks.savesAt (sound_run hworks.lawful hstart hreplaced).good
  have hsaves' : c.store.SavesAt w.session :=
    hworks.savesAt (sound_run hworks.lawful hstart hclock).good
  have hw : w = c.step loaded (.ask 0 ⟨0, 0⟩ (.activate "ops")) := run_concat c start [_] _
  -- The first guard finds nobody active, so its activation succeeds.
  have hactive : c.active w = some "ops" := by
    obtain ⟨s, -, hs, hsession⟩ := ((single_active_identity c hworks.lawful start hgood hempty _
      hreplaced).2 hsaves 0 ⟨0, 0⟩ "ops" hearly).2.2 (hloaded ▸ by decide) fun a ha =>
        absurd (hnobody.symm.trans ha) nofun
    rw [active, hw, hsession, hs]
    rfl
  have hdev : "dev" ∈ w.descriptors.index.ids := hdeclared ▸ by decide
  have hops : "ops" ∈ w.descriptors.index.ids := hdeclared ▸ by decide
  refine ⟨hactive, ?_⟩
  exact (((single_active_identity c hworks.lawful start hgood hempty _ hclock).2 hsaves' 1 ⟨1, 0⟩
    " dev " ⟨by decide, by decide⟩).1 "ops" "dev").2 ⟨by decide, hdev, hactive, by decide, hops⟩

end Crew

end AgentGovernance
