-- SUMMARY: Guards over a session in memory and fresh guards over a session file answer alike.
import AgentGovernance.Proofs.Identity.SingleActive

/-!
# Restarts

A guard that lives on and a guard that is built anew for every operation differ in what they
remember, and a session in memory and one in a file differ in what saving them takes. Neither can be
told from the answers. Main statement: whichever guards do the steps of a run, over a session in
memory or over a session file, the results and the persisted session are the same after every step.
-/

namespace AgentGovernance

open Act (Ends)

/-! ## Errands -/

/-- Something that a run of guards is asked to do, whichever guard does it. -/
inductive Errand where
  | ask (now : Instant) (op : GuardOp)
  /-- The persisted session as it is. -/
  | session
  | replace (descriptors : List AgentDescriptor)
  | load (disk : Disk) (directory : Path)
  | reload (disk : Disk)

/-- What comes of an errand. -/
inductive ErrandResult where
  | answer (outcome : Except GovernanceError GuardAnswer)
  | report (outcome : Except GovernanceError LoadReport)

/-- The clock of an errand shows a time that it can show. -/
def Errand.Timely : Errand → Prop
  | .ask now _ => now.Valid
  | _ => True

namespace Crew

variable {σ : Type} (c : Crew σ)

/-- Has one of the guards do an errand. -/
def errand (w : CrewWorld σ) (i : Nat) : Errand → ErrandResult × CrewWorld σ
  | .ask now op => (.answer (c.ask w i now op).outcome, c.step w (.ask i now op))
  | .session =>
    let run := (c.guard i).session.run { session := w.session, cached := w.cached i }
    (.answer (run.outcome.map .session),
     { w with
       session := run.world.session
       cached := fun k => if k = i then run.world.cached else w.cached k })
  | .replace ds =>
    (.report ((DescriptorStore.replace ds).run w.descriptors).outcome, c.step w (.replace ds))
  | .load disk dir =>
    (.report ((DescriptorStore.load disk dir).run w.descriptors).outcome, c.step w (.load disk dir))
  | .reload disk =>
    (.report ((DescriptorStore.reload disk).run w.descriptors).outcome, c.step w (.reload disk))

/-- The results of errands that are done one after another, each by the guard of the number next to
it, and the session that is persisted after each of them. -/
def diary (w : CrewWorld σ) : List (Nat × Errand) → List (ErrandResult × SessionState)
  | [] => []
  | (i, e) :: rest =>
    let (result, w') := c.errand w i e
    (result, c.session w') :: diary w' rest

end Crew

/-! ## What the results depend on -/

namespace SessionEffect

variable {α : Type}

/-- How an operation with the effect ends if no save fails. -/
def outcome : SessionEffect α → Except GovernanceError α
  | .refuse e => .error e
  | .keep a => .ok a
  | .persist _ a => .ok a

/-- The session that an operation with the effect leaves if no save fails. -/
def after (s : SessionState) : SessionEffect α → SessionState
  | .persist next _ => next
  | _ => s

end SessionEffect

/-- Everything that lasts: the session and the descriptors. -/
structure Persisted where
  session : SessionState
  descriptors : DescriptorStore

namespace Persisted

/-- Changes the descriptors. -/
def change (p : Persisted) (act : Act DescriptorStore LoadReport) : ErrandResult × Persisted :=
  let run := act.run p.descriptors
  (.report run.outcome, { p with descriptors := run.world })

/-- The result of an errand and what it leaves, if no save fails. There are no guards in this. -/
def errand (limit : Nat) (p : Persisted) : Errand → ErrandResult × Persisted
  | .ask now op =>
    let effect := op.effect p.descriptors.index limit now p.session
    (.answer effect.outcome, { p with session := effect.after p.session })
  | .session => (.answer (.ok (.session p.session)), p)
  | .replace ds => p.change (DescriptorStore.replace ds)
  | .load disk dir => p.change (DescriptorStore.load disk dir)
  | .reload disk => p.change (DescriptorStore.reload disk)

/-- The results of errands and the sessions after them. -/
def diary (limit : Nat) (p : Persisted) : List Errand → List (ErrandResult × SessionState)
  | [] => []
  | e :: rest =>
    let (result, p') := p.errand limit e
    (result, p'.session) :: diary limit p' rest

end Persisted

/-! ## Valid sessions -/

/-- What an operation at a valid time leaves of a valid session is valid. -/
theorem SessionState.Valid.after {s : SessionState} {now : Instant} (h : s.Valid) (hnow : now.Valid)
    (index : DescriptorIndex) (limit : Nat) (op : GuardOp) :
    ((op.effect index limit now s).after s).Valid := by
  cases heffect : op.effect index limit now s with
  | refuse e => exact h
  | keep a => exact h
  | persist next a => exact (GuardOp.persists_of_effect heffect).valid h hnow

theorem Persisted.valid_errand {p : Persisted} {e : Errand} (hp : p.session.Valid)
    (he : e.Timely) (limit : Nat) : (p.errand limit e).2.session.Valid := by
  cases e with
  | ask now op => exact hp.after he _ limit op
  | session | replace | load | reload => exact hp

/-! ## Guards over stores that work -/

namespace Crew

variable {σ : Type} {c : Crew σ} {w : CrewWorld σ} {good : σ → Prop} {p : Persisted}

/-- The world is good and what lasts in it is the given data, whatever the guards remember. -/
structure Holds (c : Crew σ) (good : σ → Prop) (w : CrewWorld σ) (p : Persisted) : Prop where
  good : good w.session
  session : c.session w = p.session
  descriptors : w.descriptors = p.descriptors

/-- A guard over a store that works has the effect of the operation and nothing else. -/
theorem ask_of_works (hworks : c.store.Works good) (hw : c.Holds good w p) (hp : p.session.Valid)
    (i : Nat) {now : Instant} (hnow : now.Valid) (op : GuardOp) :
    let effect := op.effect p.descriptors.index (c.historyLimit i) now p.session
    (c.ask w i now op).outcome = effect.outcome ∧
      c.Holds good (c.step w (.ask i now op)) { p with session := effect.after p.session } := by
  intro effect
  have hsound : c.Sound good w := ⟨hw.good, hw.session ▸ hp⟩
  have heffect : op.effect w.descriptors.index (c.historyLimit i) now (c.session w) = effect := by
    rw [hw.session, hw.descriptors]
  obtain ⟨hafter, hspec⟩ := ask_spec hworks.lawful hsound i hnow op
  rw [heffect] at hspec
  have hholds {next : SessionState} (hnext : c.session (c.step w (.ask i now op)) = next) :
      c.Holds good (c.step w (.ask i now op)) { p with session := next } :=
    ⟨hafter.good, hnext, hw.descriptors⟩
  cases hcase : effect with
  | refuse e =>
    rw [hcase] at hspec
    exact ⟨hspec.1, hholds (hspec.2.trans hw.session)⟩
  | keep a =>
    rw [hcase] at hspec
    exact ⟨hspec.1, hholds (hspec.2.trans hw.session)⟩
  | persist s a =>
    obtain ⟨hout, hnext⟩ := outcome_of_persist hworks.lawful hsound (hworks.savesAt hw.good) hnow
      (heffect.trans hcase)
    exact ⟨hout, hholds hnext⟩

/-- Whichever guard does an errand, its result and what it leaves follow from what lasts. -/
theorem errand_of_works (hworks : c.store.Works good) (hw : c.Holds good w p)
    (hp : p.session.Valid) (i : Nat) {e : Errand} (he : e.Timely) :
    (c.errand w i e).1 = (p.errand (c.historyLimit i) e).1 ∧
      c.Holds good (c.errand w i e).2 (p.errand (c.historyLimit i) e).2 := by
  cases e with
  | ask now op =>
    obtain ⟨houtcome, hafter⟩ := ask_of_works hworks hw hp i he op
    exact ⟨congrArg ErrandResult.answer houtcome, hafter⟩
  | session =>
    obtain ⟨houtcome, hworld⟩ := (Guard.ends_session (g := c.guard i)
      (j := { world := { session := w.session, cached := w.cached i } })).run
    refine ⟨?_, ?_, ?_, hw.descriptors⟩
    · simp only [errand, houtcome, Except.map]
      exact congrArg (fun s => ErrandResult.answer (.ok (.session s))) hw.session
    · simpa only [errand, hworld] using hw.good
    · simpa only [errand, Persisted.errand, Crew.session, hworld] using hw.session
  | replace | load | reload =>
    simp only [errand, Persisted.errand, Persisted.change, Crew.step, hw.descriptors]
    exact ⟨trivial, hw.good, hw.session, rfl⟩

/-- The diary of guards with one history limit over a store that works is the diary of what lasts. -/
theorem diary_of_works (hworks : c.store.Works good) {limit : Nat}
    (hlimit : ∀ i, c.historyLimit i = limit) (hw : c.Holds good w p) (hp : p.session.Valid)
    {errands : List (Nat × Errand)} (herrands : ∀ e ∈ errands, e.2.Timely) :
    c.diary w errands = p.diary limit (errands.map (·.2)) := by
  induction errands generalizing w p with
  | nil => rfl
  | cons first rest ih =>
    obtain ⟨i, e⟩ := first
    have he : e.Timely := herrands _ List.mem_cons_self
    obtain ⟨hresult, hafter⟩ := errand_of_works hworks hw hp i he
    rw [hlimit i] at hresult hafter
    simp only [diary, Persisted.diary, List.map_cons]
    rw [hresult, hafter.session, ih hafter (Persisted.valid_errand hp he limit)
      fun e he => herrands e (List.mem_cons_of_mem _ he)]

/-! ## Restarts -/

/-- Guards over a session in memory and guards over a session file that was missing at first answer
alike and persist the same sessions, whichever guard does which errand and whatever the guards
remember. One guard may do all errands, and every errand may have a guard of its own. -/
theorem restarts_are_invisible {path : Path} {disk : Disk}
    (hdisk : SessionStore.Writable path disk) (habsent : disk.has path = false) (limit : Nat)
    (descriptors : DescriptorStore) (errands : List Errand) (hclock : ∀ e ∈ errands, e.Timely)
    (who who' : Nat → Nat) (cached cached' : Nat → Option AgentDescriptor) :
    let memory : Crew (Option SessionState) := { store := .memory, historyLimit := fun _ => limit }
    let file : Crew Disk := { store := .file path, historyLimit := fun _ => limit }
    memory.diary { session := none, descriptors, cached }
        (errands.mapIdx fun n e => (who n, e)) =
      file.diary { session := disk, descriptors, cached := cached' }
        (errands.mapIdx fun n e => (who' n, e)) := by
  intro memory file
  have herrands (who : Nat → Nat) : (errands.mapIdx fun n e => (who n, e)).map (·.2) = errands := by
    simp [List.mapIdx_eq_zipIdx_map, List.map_map, Function.comp_def]
  have htimely (who : Nat → Nat) : ∀ e ∈ errands.mapIdx fun n e => (who n, e), e.2.Timely := by
    intro e he
    exact hclock _ (herrands who ▸ List.mem_map_of_mem he)
  have hmemory : memory.Holds (fun _ => True) { session := none, descriptors, cached }
      ⟨{}, descriptors⟩ :=
    ⟨trivial, rfl, rfl⟩
  have hfile : file.Holds (SessionStore.Writable path)
      { session := disk, descriptors, cached := cached' } ⟨{}, descriptors⟩ :=
    ⟨hdisk, SessionStore.read_absent habsent, rfl⟩
  rw [diary_of_works SessionStore.memory_works (fun _ => rfl) hmemory SessionState.valid_empty
      (htimely who),
    diary_of_works (SessionStore.file_works path) (fun _ => rfl) hfile SessionState.valid_empty
      (htimely who'),
    herrands, herrands]

/-- One guard does all errands in memory, and a new guard does each of them over the file. -/
theorem restarts_are_invisible_handover :
    let errands : List Errand :=
      [.replace [.new "ops", .new "dev"], .ask ⟨0, 0⟩ (.activate "ops"), .session,
       .ask ⟨1, 250000000⟩ (.touch (some "deploy")), .ask ⟨2, 0⟩ (.activate "dev"),
       .ask ⟨3, 0⟩ .deactivate, .ask ⟨4, 0⟩ .current]
    let memory : Crew (Option SessionState) := { store := .memory, historyLimit := fun _ => 5 }
    let file : Crew Disk := { store := .file ⟨"session.json"⟩, historyLimit := fun _ => 5 }
    memory.diary { session := none } (errands.mapIdx fun _ e => (0, e)) =
      file.diary { session := { tree := .empty } } (errands.mapIdx fun n e => (n, e)) := by
  intro errands
  have hclock : ∀ e ∈ errands, e.Timely := by
    simp only [errands, List.forall_mem_cons]
    exact ⟨trivial, ⟨by decide, by decide⟩, trivial, ⟨by decide, by decide⟩,
      ⟨by decide, by decide⟩, ⟨by decide, by decide⟩, ⟨by decide, by decide⟩, nofun⟩
  exact restarts_are_invisible SessionStore.writable_empty (by decide +kernel) 5 {} errands hclock
    (fun _ => 0) id (fun _ => none) (fun _ => none)

end Crew

end AgentGovernance
