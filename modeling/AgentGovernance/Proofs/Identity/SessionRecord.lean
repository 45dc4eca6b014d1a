-- SUMMARY: The session record over whole runs: its fields agree, and its history is the end of the log.
import AgentGovernance.Proofs.Identity.Restart
import AgentGovernance.Proofs.Session.File

/-!
# The session record

A step of a crew leaves the session as it is, records an activity, ends the session or starts one.
Each of these keeps the fields of the record in agreement, and only a start is remembered. Main
statement: in every run from the empty session, the record agrees with itself, and its history is
the end of the log of all activations that started a session, as long as the limit allows; with a
clock that never goes back, its times are in order.
-/

namespace AgentGovernance

/-! ## Instants -/

theorem Instant.le_self (t : Instant) : t.le t = true := by
  simp [Instant.le]

namespace SessionState

variable {s next : SessionState} {d : AgentDescriptor} {id : String} {task : Option String}
  {now : Instant} {limit : Nat}

/-! ## Agreement of the fields -/

/-- The fields of the record agree. -/
structure Coherent (s : SessionState) : Prop where
  idle : s.activeAgent = none →
    s.agentFile = none ∧ s.activatedAt = none ∧ s.lastActivity = none ∧ s.currentTask = none
  active : ∀ a, s.activeAgent = some a → ∃ since last, s.activatedAt = some since ∧
    s.lastActivity = some last ∧ s.history.getLast? = some { agent := a, time := since }
  task : ∀ task, s.currentTask = some task → task ≠ "" ∧ Text.trim task = task

theorem coherent_empty : Coherent {} where
  idle _ := ⟨rfl, rfl, rfl, rfl⟩
  active := nofun
  task := nofun

theorem coherent_deactivate (s : SessionState) : s.deactivate.Coherent where
  idle _ := ⟨rfl, rfl, rfl, rfl⟩
  active := nofun
  task := nofun

theorem Coherent.touched (h : s.Coherent) (hactive : s.isActive = true) :
    (s.touched task now).Coherent where
  idle hnone := by
    rw [touched_activeAgent] at hnone
    simp [isActive, hnone] at hactive
  active a ha := by
    rw [touched_activeAgent] at ha
    obtain ⟨since, last, hsince, -, hlast⟩ := h.active a ha
    cases task with
    | none => exact ⟨since, now, hsince, rfl, hlast⟩
    | some t => exact ⟨since, now, hsince, rfl, hlast⟩
  task t ht := by
    cases task with
    | none => exact h.task t ht
    | some raw =>
      have htrimmed : Text.trimmed? raw = some t := by
        simpa only [SessionState.touched] using ht
      exact ⟨(Text.trimmed?_eq_some_iff.1 htrimmed).2, Text.trim_of_trimmed? htrimmed⟩

theorem started_history (s : SessionState) (d : AgentDescriptor) (id : String) (now : Instant)
    (limit : Nat) : (s.started d id now limit).history =
      (s.history ++ [HistoryEntry.mk id now]).drop (s.history.length + 1 - limit) := by
  simp [started, activate, trimHistory]

theorem coherent_started (hlimit : 1 ≤ limit) : (s.started d id now limit).Coherent where
  idle := nofun
  active a ha := by
    cases ha
    refine ⟨now, now, rfl, rfl, ?_⟩
    have hkept : ¬s.history.length + 1 ≤ s.history.length + 1 - limit := by omega
    rw [started_history, List.getLast?_drop]
    simp [hkept]
  task := nofun

/-! ## Moves -/

/-- A change of the session by a step that started a session or not, and read the clock or not. -/
inductive Moves (limits : Nat → Nat) (s : SessionState) :
    (entry : Option HistoryEntry) → (reading : Option Instant) → SessionState → Prop where
  | stay {reading : Option Instant} : Moves limits s none reading s
  | touch {task : Option String} {now : Instant} :
      s.isActive = true → Moves limits s none (some now) (s.touched task now)
  | stop {reading : Option Instant} : Moves limits s none reading s.deactivate
  | start {i : Nat} {d : AgentDescriptor} {id : String} {now : Instant} :
      Moves limits s (some { agent := id, time := now }) (some now)
        (s.started d id now (limits i))

section Moves

variable {limits : Nat → Nat} {entry : Option HistoryEntry} {reading : Option Instant}
  {past : List HistoryEntry}

theorem Moves.coherent (hmove : Moves limits s entry reading next) (hlimits : ∀ i, 1 ≤ limits i)
    (h : s.Coherent) : next.Coherent := by
  cases hmove with
  | stay => exact h
  | touch hactive => exact h.touched hactive
  | stop => exact coherent_deactivate s
  | start => exact coherent_started (hlimits _)

@[simp] theorem touched_history (s : SessionState) (task : Option String) (now : Instant) :
    (s.touched task now).history = s.history := by
  cases task <;> rfl

/-- The history stays the end of what was recorded. -/
theorem Moves.suffix (hmove : Moves limits s entry reading next) (h : s.history <:+ past) :
    next.history <:+ past ++ entry.toList := by
  cases hmove with
  | stay => simpa using h
  | touch _ => simpa using h
  | stop => simpa [deactivate] using h
  | start =>
    rw [started_history]
    obtain ⟨forgotten, rfl⟩ := h
    refine (List.drop_suffix _ _).trans ⟨forgotten, ?_⟩
    simp

/-- Under one limit, the history is as long as the limit and the record allow. -/
theorem Moves.length (hmove : Moves limits s entry reading next) (hlimits : ∀ i, limits i = limit)
    (h : s.history.length = min past.length limit) :
    next.history.length = min (past ++ entry.toList).length limit := by
  cases hmove with
  | stay => simpa using h
  | touch _ => simpa using h
  | stop => simpa [deactivate] using h
  | start =>
    rw [started_history, hlimits]
    simp only [List.length_drop, List.length_append, List.length_singleton, Option.toList_some]
    omega

/-! ## Times -/

/-- The times of the record are in order, and none is later than a reading of the clock to come. -/
structure Timely (s : SessionState) (future : List Instant) : Prop where
  ordered : s.history.Pairwise fun e f => e.time.le f.time = true
  past : ∀ e ∈ s.history, ∀ t ∈ future, e.time.le t = true
  since_le_last : ∀ since last, s.activatedAt = some since → s.lastActivity = some last →
    since.le last = true

theorem Timely.later {t : Instant} {future : List Instant} (h : s.Timely (t :: future)) :
    s.Timely future :=
  { h with past := fun e he t ht => h.past e he t (List.mem_cons_of_mem _ ht) }

theorem Timely.touched {future : List Instant} (h : s.Timely (now :: future)) (hs : s.Coherent)
    (hactive : s.isActive = true) : (s.touched task now).Timely future where
  ordered := by simpa using h.ordered
  past := by simpa using h.later.past
  since_le_last since last hsince hlast := by
    obtain ⟨a, ha⟩ := Option.isSome_iff_exists.1 hactive
    obtain ⟨since', -, hsince', -, hentry⟩ := hs.active a ha
    -- The agent was activated at the time of the last entry, which lies before this activity.
    have hbefore : since'.le now = true :=
      h.past _ (List.mem_of_getLast? hentry) now List.mem_cons_self
    have hsame : since' = since := by
      cases task <;> exact Option.some.inj (hsince'.symm.trans hsince)
    have hnow : now = last := by
      cases task <;> exact Option.some.inj hlast
    exact hsame ▸ hnow ▸ hbefore

theorem Timely.started {future : List Instant} (h : s.Timely (now :: future))
    (hfuture : ∀ t ∈ future, now.le t = true) : (s.started d id now limit).Timely future where
  ordered := by
    rw [started_history]
    refine List.Pairwise.sublist (List.drop_sublist _ _) ?_
    refine List.pairwise_append.2 ⟨h.ordered, List.pairwise_singleton _ _, ?_⟩
    intro e he f hf
    obtain rfl := List.mem_singleton.1 hf
    exact h.past e he now List.mem_cons_self
  past e he t ht := by
    rw [started_history] at he
    rcases List.mem_append.1 (List.mem_of_mem_drop he) with he | he
    · exact h.later.past e he t ht
    · obtain rfl := List.mem_singleton.1 he
      exact hfuture t ht
  since_le_last since last hsince hlast := by
    cases hsince
    cases hlast
    exact Instant.le_self now

theorem Moves.timely (hmove : Moves limits s entry reading next) (hs : s.Coherent)
    {future : List Instant} (hclock : (reading.toList ++ future).Pairwise fun t u => t.le u = true)
    (h : s.Timely (reading.toList ++ future)) : next.Timely future := by
  cases hmove with
  | stay =>
    cases reading with
    | none => exact h
    | some t => exact h.later
  | touch hactive => exact h.touched hs hactive
  | stop =>
    have hlater : s.Timely future := by
      cases reading with
      | none => exact h
      | some t => exact h.later
    exact { ordered := hlater.ordered, past := hlater.past, since_le_last := nofun }
  | start => exact h.started (List.pairwise_cons.1 hclock).1

end Moves

end SessionState

/-! ## Steps -/

/-- The reading of the clock that a step makes, if it makes one. -/
def CrewStep.reading? : CrewStep → Option Instant
  | .ask _ now (.activate _) => some now
  | .ask _ now (.touch _) => some now
  | _ => none

namespace Crew

variable {σ : Type} {c : Crew σ} {w : CrewWorld σ} {good : σ → Prop}

/-- The activation that a step amounts to: one that succeeds, and not of the agent that is active
already. -/
def activation? (c : Crew σ) (w : CrewWorld σ) : CrewStep → Option HistoryEntry
  | .ask i now (.activate rawId) =>
    if c.active w = some (Text.trim rawId) then none
    else match (c.ask w i now (.activate rawId)).outcome with
      | .ok _ => some { agent := Text.trim rawId, time := now }
      | .error _ => none
  | _ => none

/-- The activations of a run, the oldest first. -/
def activations (c : Crew σ) (w : CrewWorld σ) : List CrewStep → List HistoryEntry
  | [] => []
  | step :: steps => (c.activation? w step).toList ++ c.activations (c.step w step) steps

open SessionState (Moves Coherent Timely)

theorem activation?_of_error {i : Nat} {now : Instant} {rawId : String} {e : GovernanceError}
    (h : (c.ask w i now (.activate rawId)).outcome = .error e) :
    c.activation? w (.ask i now (.activate rawId)) = none := by
  simp only [activation?, h, ite_self]

/-- An activation that fails leaves the session as it is, and one that succeeds refreshes the session
or starts one. -/
theorem moves_activate (hstore : c.store.Lawful good) (hw : c.Sound good w) (i : Nat) {now : Instant}
    (hnow : now.Valid) (rawId : String) :
    Moves c.historyLimit (c.session w) (c.activation? w (.ask i now (.activate rawId))) (some now)
      (c.session (c.step w (.ask i now (.activate rawId)))) := by
  have hspec := (ask_spec hstore hw i hnow (.activate rawId)).2
  rcases SessionState.activateEffect_cases w.descriptors.index (c.historyLimit i) now rawId
    (c.session w) with ⟨-, heffect⟩ | ⟨a, -, -, -, -, heffect⟩ | ⟨-, -, next, heffect, -⟩
  · simp only [GuardOp.effect, heffect, SessionEffect.map] at hspec
    rw [activation?_of_error hspec.1, hspec.2]
    exact .stay
  · simp only [GuardOp.effect, heffect, SessionEffect.map] at hspec
    rw [activation?_of_error hspec.1, hspec.2]
    exact .stay
  · have hpersist : (GuardOp.activate rawId).effect w.descriptors.index (c.historyLimit i) now
        (c.session w) = .persist next (.session next) := by
      rw [GuardOp.effect, heffect]
      rfl
    rw [hpersist] at hspec
    rcases hspec with ⟨⟨e, hfailed⟩, hsame⟩ | ⟨hout, hsaved⟩
    · rw [activation?_of_error hfailed, hsame]
      exact .stay
    · rw [hsaved]
      cases GuardOp.persists_of_effect hpersist with
      | refresh hactive =>
        simp only [activation?, active, hactive, if_true]
        exact .touch (by simp [SessionState.isActive, hactive])
      | start d hother _ =>
        simp only [activation?, active, hother, if_false, hout]
        exact .start
      | drop hno _ _ => exact absurd rfl (hno rawId)

/-- Every step is a move of the session. -/
theorem moves_step (hstore : c.store.Lawful good) (hw : c.Sound good w) {step : CrewStep}
    (hstep : step.Timely) :
    Moves c.historyLimit (c.session w) (c.activation? w step) step.reading?
      (c.session (c.step w step)) := by
  cases step with
  | replace ds => exact .stay
  | load disk dir => exact .stay
  | reload disk => exact .stay
  | ask i now op =>
    by_cases hactivate : ∃ rawId, op = .activate rawId
    · obtain ⟨rawId, rfl⟩ := hactivate
      exact moves_activate hstore hw i hstep rawId
    · have hnone : c.activation? w (.ask i now op) = none := by
        cases op <;> first | rfl | exact absurd ⟨_, rfl⟩ hactivate
      rw [hnone]
      rcases session_step hstore hw hstep with hsame | ⟨i', now', op', heq, hpersists⟩
      · rw [hsame]
        exact .stay
      · cases heq
        generalize c.session (c.step w (.ask i now op)) = next at hpersists
        cases hpersists with
        | refresh _ => exact absurd ⟨_, rfl⟩ hactivate
        | start d _ _ => exact absurd ⟨_, rfl⟩ hactivate
        | touch hactive => exact .touch hactive
        | stop => exact .stop
        | drop _ _ _ => exact .stop

/-! ## Runs -/

/-- What holds of the session after the given activations. -/
structure RecordAfter (c : Crew σ) (log : List HistoryEntry) (s : SessionState) : Prop where
  coherent : s.Coherent
  suffix : s.history <:+ log
  length : ∀ limit, (∀ i, c.historyLimit i = limit) → s.history.length = min log.length limit

theorem record_step (hstore : c.store.Lawful good) (hlimits : ∀ i, 1 ≤ c.historyLimit i)
    (hw : c.Sound good w) {log : List HistoryEntry} (h : c.RecordAfter log (c.session w))
    {step : CrewStep} (hstep : step.Timely) :
    c.RecordAfter (log ++ (c.activation? w step).toList) (c.session (c.step w step)) :=
  have hmove := moves_step hstore hw hstep
  { coherent := hmove.coherent hlimits h.coherent
    suffix := hmove.suffix h.suffix
    length := fun limit hlimit => hmove.length hlimit (h.length limit hlimit) }

theorem record_run (hstore : c.store.Lawful good) (hlimits : ∀ i, 1 ≤ c.historyLimit i)
    (hw : c.Sound good w) {log : List HistoryEntry} (h : c.RecordAfter log (c.session w))
    {steps : List CrewStep} (htimely : ∀ step ∈ steps, step.Timely) :
    c.RecordAfter (log ++ c.activations w steps) (c.session (c.run w steps)) := by
  induction steps generalizing w log with
  | nil => simpa [activations, run] using h
  | cons step steps ih =>
    obtain ⟨hstep, hsteps⟩ := List.forall_mem_cons.1 htimely
    rw [activations, ← List.append_assoc]
    exact ih (sound_step hstore hw hstep) (record_step hstore hlimits hw h hstep) hsteps

/-- The readings of the clock never go back. -/
def ClockAdvances (steps : List CrewStep) : Prop :=
  (steps.filterMap CrewStep.reading?).Pairwise fun t u => t.le u = true

theorem timely_run (hstore : c.store.Lawful good) (hlimits : ∀ i, 1 ≤ c.historyLimit i)
    (hw : c.Sound good w) (hcoherent : (c.session w).Coherent) {steps : List CrewStep}
    (htimely : ∀ step ∈ steps, step.Timely) (hclock : ClockAdvances steps)
    (h : (c.session w).Timely (steps.filterMap CrewStep.reading?)) :
    (c.session (c.run w steps)).Timely [] := by
  induction steps generalizing w with
  | nil => exact h
  | cons step steps ih =>
    obtain ⟨hstep, hsteps⟩ := List.forall_mem_cons.1 htimely
    have hmove := moves_step hstore hw hstep
    have hsplit : (step :: steps).filterMap CrewStep.reading? =
        step.reading?.toList ++ steps.filterMap CrewStep.reading? := by
      cases hreading : step.reading? <;> simp [hreading]
    rw [ClockAdvances, hsplit] at hclock
    rw [hsplit] at h
    exact ih (sound_step hstore hw hstep) (hmove.coherent hlimits hcoherent) hsteps
      (List.pairwise_append.1 hclock).2.1 (hmove.timely hcoherent hclock h)

/-! ## Records over different stores -/

section Alike

variable {τ : Type} {c' : Crew τ} {w' : CrewWorld τ} {good' : τ → Prop} {p : Persisted}

theorem alike_step (hworks : c.store.Works good) (hworks' : c'.store.Works good')
    (hlimits : c.historyLimit = c'.historyLimit) (hw : c.Holds good w p) (hw' : c'.Holds good' w' p)
    (hp : p.session.Valid) {step : CrewStep} (hstep : step.Timely) :
    c.activation? w step = c'.activation? w' step ∧
      ∃ p' : Persisted, c.Holds good (c.step w step) p' ∧ c'.Holds good' (c'.step w' step) p' ∧
        p'.session.Valid := by
  cases step with
  | ask i now op =>
    obtain ⟨hout, hafter⟩ := ask_of_works hworks hw hp i hstep op
    obtain ⟨hout', hafter'⟩ := ask_of_works hworks' hw' hp i hstep op
    rw [← hlimits] at hout' hafter'
    refine ⟨?_, _, hafter, hafter', hp.after hstep _ _ op⟩
    cases op with
    | activate rawId => simp only [activation?, active, hw.session, hw'.session, hout, hout']
    | _ => rfl
  | replace ds =>
    exact ⟨rfl, _, (errand_of_works hworks hw hp 0 (e := .replace ds) trivial).2,
      (errand_of_works hworks' hw' hp 0 (e := .replace ds) trivial).2, hp⟩
  | load disk dir =>
    exact ⟨rfl, _, (errand_of_works hworks hw hp 0 (e := .load disk dir) trivial).2,
      (errand_of_works hworks' hw' hp 0 (e := .load disk dir) trivial).2, hp⟩
  | reload disk =>
    exact ⟨rfl, _, (errand_of_works hworks hw hp 0 (e := .reload disk) trivial).2,
      (errand_of_works hworks' hw' hp 0 (e := .reload disk) trivial).2, hp⟩

/-- Over stores that work, neither the log of activations nor the session depends on the store. -/
theorem record_alike (hworks : c.store.Works good) (hworks' : c'.store.Works good')
    (hlimits : c.historyLimit = c'.historyLimit) (hw : c.Holds good w p) (hw' : c'.Holds good' w' p)
    (hp : p.session.Valid) {steps : List CrewStep} (htimely : ∀ step ∈ steps, step.Timely) :
    c.activations w steps = c'.activations w' steps ∧
      c.session (c.run w steps) = c'.session (c'.run w' steps) := by
  induction steps generalizing w w' p with
  | nil => exact ⟨rfl, hw.session.trans hw'.session.symm⟩
  | cons step steps ih =>
    obtain ⟨hstep, hsteps⟩ := List.forall_mem_cons.1 htimely
    obtain ⟨hactivation, p', hafter, hafter', hp'⟩ :=
      alike_step hworks hworks' hlimits hw hw' hp hstep
    obtain ⟨hlog, hsession⟩ := ih hafter hafter' hp' hsteps
    exact ⟨by rw [activations, activations, hactivation, hlog], hsession⟩

end Alike

/-! ## The record of a run -/

/-- In every run from the empty session, without an active agent the record is empty but for its
history; with one it has times of activation and activity, and the last entry of the history is this
activation; a task is never blank. The history is the end of the log of activations, cut at the limit
if all guards have the same. If the clock never goes back, neither do the times of the history, and
the activity is not before the activation. -/
theorem session_record_coherent (c : Crew σ) (hstore : c.store.Lawful good)
    (hlimits : ∀ i, 1 ≤ c.historyLimit i) (start : CrewWorld σ) (hgood : good start.session)
    (hempty : c.session start = {}) (steps : List CrewStep)
    (htimely : ∀ step ∈ steps, step.Timely) :
    let s := c.session (c.run start steps)
    let log := c.activations start steps
    (s.activeAgent = none →
      s.agentFile = none ∧ s.activatedAt = none ∧ s.lastActivity = none ∧ s.currentTask = none) ∧
    (∀ a, s.activeAgent = some a → ∃ since last, s.activatedAt = some since ∧
      s.lastActivity = some last ∧ s.history.getLast? = some { agent := a, time := since }) ∧
    (∀ task, s.currentTask = some task → task ≠ "" ∧ Text.trim task = task) ∧
    s.history <:+ log ∧
    (∀ limit, (∀ i, c.historyLimit i = limit) → s.history.length = min log.length limit) ∧
    (ClockAdvances steps →
      s.history.Pairwise (fun e f => e.time.le f.time = true) ∧
      ∀ since last, s.activatedAt = some since → s.lastActivity = some last →
        since.le last = true) := by
  intro s log
  have hstart : c.RecordAfter [] (c.session start) := by
    rw [hempty]
    exact ⟨SessionState.coherent_empty, List.suffix_rfl, fun limit _ => by simp⟩
  have hsound : c.Sound good start := ⟨hgood, hempty ▸ SessionState.valid_empty⟩
  have hrecord : c.RecordAfter log s := record_run hstore hlimits hsound hstart htimely
  refine ⟨hrecord.coherent.idle, hrecord.coherent.active, hrecord.coherent.task, hrecord.suffix,
    hrecord.length, ?_⟩
  intro hclock
  have htimes : s.Timely [] := by
    refine timely_run hstore hlimits hsound hstart.coherent htimely hclock ?_
    rw [hempty]
    exact ⟨List.Pairwise.nil, nofun, nofun⟩
  exact ⟨htimes.ordered, htimes.since_le_last⟩

/-- Guards over a session file hand over to each other, and what is recorded is what guards in memory
record. Over the session file of a workspace whose state directory is a file, so that nothing can be
saved, the history is the end of the log as well. -/
theorem session_record_coherent_handover :
    let c : Crew Disk := { store := .file ⟨"session.json"⟩, historyLimit := fun _ => 2 }
    let start : CrewWorld Disk := { session := { tree := .empty } }
    let steps : List CrewStep :=
      [.replace [.new "ops", .new "dev"],
        .ask 0 ⟨1, 0⟩ (.activate "dev"), .ask 0 ⟨2, 0⟩ .deactivate,
        .ask 1 ⟨3, 0⟩ (.activate "ops"), .ask 0 ⟨4, 0⟩ (.activate "ops"), .replace [.new "dev"],
        .ask 1 ⟨5, 0⟩ (.activate " dev "), .ask 0 ⟨6, 0⟩ (.touch (some " release "))]
    let paths : StatePaths :=
      { descriptors := ⟨"/agents"⟩, stateDir := ⟨"/s"⟩, sessionFile := ⟨"/s/session-state.json"⟩
        audits := ⟨"/s/audits"⟩, escalations := ⟨"/s/escalations"⟩ }
    let blocked : Crew Disk := { store := .file paths.sessionFile, historyLimit := fun _ => 2 }
    let occupied : CrewWorld Disk :=
      { session := { tree := FileTree.empty.put ["s"] (.file "".toUTF8) } }
    let s := c.session (c.run start steps)
    c.activations start steps = [⟨"dev", ⟨1, 0⟩⟩, ⟨"ops", ⟨3, 0⟩⟩, ⟨"dev", ⟨5, 0⟩⟩] ∧
      s.history.length = 2 ∧
      (∃ since last, s.activatedAt = some since ∧ s.lastActivity = some last ∧
        s.history.getLast? = some { agent := "dev", time := since } ∧ since.le last = true) ∧
      (blocked.session (blocked.run occupied steps)).history <:+ blocked.activations occupied steps := by
  intro c start steps paths blocked occupied
  let memory : Crew (Option SessionState) := { store := .memory, historyLimit := fun _ => 2 }
  have hworks : c.store.Works (SessionStore.Writable ⟨"session.json"⟩) := SessionStore.file_works _
  have hgood : SessionStore.Writable ⟨"session.json"⟩ start.session := SessionStore.writable_empty
  have hempty : c.session start = {} := SessionStore.read_absent (by decide +kernel)
  have htimely : ∀ step ∈ steps, step.Timely := by
    simp only [steps, List.forall_mem_cons]
    exact ⟨trivial, ⟨by decide, by decide⟩, ⟨by decide, by decide⟩, ⟨by decide, by decide⟩,
      ⟨by decide, by decide⟩, trivial, ⟨by decide, by decide⟩, ⟨by decide, by decide⟩, nofun⟩
  -- Saves to the file are left unevaluated: the log and the session are those of guards in memory.
  have hfile : c.Holds (SessionStore.Writable ⟨"session.json"⟩) start ⟨{}, {}⟩ := ⟨hgood, hempty, rfl⟩
  have hnone : memory.Holds (fun _ => True) { session := none } ⟨{}, {}⟩ := ⟨trivial, rfl, rfl⟩
  have hlimits : c.historyLimit = memory.historyLimit := rfl
  obtain ⟨hlog, hsession⟩ := record_alike hworks SessionStore.memory_works hlimits hfile hnone
    SessionState.valid_empty htimely
  have hmemory : memory.activations { session := none } steps =
      [⟨"dev", ⟨1, 0⟩⟩, ⟨"ops", ⟨3, 0⟩⟩, ⟨"dev", ⟨5, 0⟩⟩] := by decide +kernel
  have hdev : (memory.session (memory.run { session := none } steps)).activeAgent = some "dev" := by
    decide +kernel
  have hclock : ClockAdvances steps := by
    unfold ClockAdvances
    decide +kernel
  obtain ⟨-, hactive, -, -, hlength, htimes⟩ := session_record_coherent c hworks.lawful
    (fun _ => Nat.le_succ 1) start hgood hempty steps htimely
  rw [← hsession] at hdev
  obtain ⟨since, last, hsince, hlast, hentry⟩ := hactive "dev" hdev
  have hhoused : paths.Housed := ⟨by decide +kernel, by decide +kernel, by decide +kernel⟩
  have hproper : occupied.session.Proper :=
    ⟨FileTree.proper_empty.put (p := []) rfl (.inr nofun), rfl⟩
  obtain ⟨-, -, -, hsuffix, -⟩ := session_record_coherent blocked hhoused.lawful
    (fun _ => Nat.le_succ 1) occupied ⟨hproper, .inl (by decide +kernel)⟩
    (SessionStore.read_absent (by decide +kernel)) steps htimely
  refine ⟨hlog.trans hmemory, ?_,
    ⟨since, last, hsince, hlast, hentry, (htimes hclock).2 since last hsince hlast⟩, hsuffix⟩
  rw [hlength 2 fun _ => rfl, hlog, hmemory]
  rfl

end Crew

end AgentGovernance
