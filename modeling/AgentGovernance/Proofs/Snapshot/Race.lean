-- SUMMARY: Writers that race for one path: it holds its first content or one writer's bytes, whole.
import AgentGovernance.Proofs.Snapshot.Frame
import Mathlib.Logic.Function.Basic

/-!
# Racing writers

Any number of writers set out to write snapshots to one path. They take their steps in any order,
each may stop for good after any step, fail at any step, and write its temporary file piece by piece.
Every writer has a temporary file of its own, and the path is changed by the last step of a writer
only, which puts there what the temporary file holds. Main statement: at every moment the path holds
what it held at the start or the bytes of one writer that succeeded, a writer that does not replace
found nothing there at its last step, and a writer that did not succeed has not changed the path.
-/

namespace AgentGovernance

/-! ## Scenes -/

/-- The temporary file that a draft has in use. -/
def Stage.temp? : Stage → Option Place
  | .staged temp | .filled temp | .synced temp => some temp
  | .planned | .housed | .settled _ => none

/-- Drafts at work on one disk. -/
structure Scene (ι : Type) where
  stages : ι → Stage
  disk : Disk

namespace Scene

variable {ι : Type} [DecidableEq ι] {drafts : ι → Draft}

/-- The scene after a draft went on to a stage and left a disk. -/
def moved (s : Scene ι) (i : ι) (after : Stage × Disk) : Scene ι :=
  { stages := Function.update s.stages i after.1, disk := after.2 }

/-- A draft does something. To stop for good is to do nothing any more. -/
inductive Step (drafts : ι → Draft) (i : ι) (s : Scene ι) : Scene ι → Prop where
  | advance : Step drafts i s (s.moved i ((drafts i).advance (s.stages i) s.disk))
  /-- Some of the bytes, or others, are in the temporary file while it is being filled. -/
  | fill (temp : Place) (bytes : ByteArray) : s.stages i = .staged temp →
      Step drafts i s
        (s.moved i (.staged temp, { s.disk with tree := s.disk.tree.put temp (.file bytes) }))
  /-- The draft fails. What it left in the directory stays. -/
  | abandon (e : GovernanceError) : (∀ outcome, s.stages i ≠ .settled outcome) →
      Step drafts i s (s.moved i (.settled (.error e), s.disk))
  /-- The draft fails, and its temporary file is removed. -/
  | withdraw (e : GovernanceError) (temp : Place) : (s.stages i).temp? = some temp →
      Step drafts i s
        (s.moved i (.settled (.error e), { s.disk with tree := s.disk.tree.prune temp }))

/-- One step of a run. -/
structure Turn (ι : Type) where
  writer : ι
  before : Scene ι
  after : Scene ι

/-- The turn leaves what stands at the place. -/
def Turn.Spares (turn : Turn ι) (goal : Place) : Prop :=
  turn.after.disk.tree.node? goal = turn.before.disk.tree.node? goal

/-- What can happen to drafts that start on a disk, with the last turn first. -/
inductive Run (drafts : ι → Draft) (start : Disk) : List (Turn ι) → Scene ι → Prop where
  | start : Run drafts start [] { stages := fun _ => .planned, disk := start }
  | step {turns : List (Turn ι)} {s s' : Scene ι} {i : ι} : Run drafts start turns s →
      Step drafts i s s' → Run drafts start ({ writer := i, before := s, after := s' } :: turns) s'

end Scene

/-! ## One draft -/

namespace Draft

variable {d : Draft} {goal temp q : Place} {stage : Stage} {disk : Disk} {t u : FileTree}

/-- The temporary file in use is one by its name, and it is there. Once it was filled it holds the
bytes of the draft. -/
def Backed (d : Draft) (t : FileTree) : Stage → Prop
  | .staged temp => (∃ r n, temp = r ++ [tempName n]) ∧ ∃ bytes, t.node? temp = some (.file bytes)
  | .filled temp | .synced temp =>
    (∃ r n, temp = r ++ [tempName n]) ∧ t.node? temp = some (.file d.bytes)
  | .planned | .housed | .settled _ => True

theorem Backed.of_temp (h : d.Backed t stage) (htemp : stage.temp? = some temp) :
    (∃ r n, temp = r ++ [tempName n]) ∧ ∃ bytes, t.node? temp = some (.file bytes) := by
  cases stage with
  | staged temp' =>
    cases htemp
    exact h
  | filled temp' =>
    cases htemp
    exact ⟨h.1, _, h.2⟩
  | synced temp' =>
    cases htemp
    exact ⟨h.1, _, h.2⟩
  | planned => cases htemp
  | housed => cases htemp
  | settled outcome => cases htemp

/-- A draft is backed as long as its temporary file stays as it is. -/
theorem Backed.congr (h : d.Backed t stage)
    (hsame : ∀ {temp}, stage.temp? = some temp → u.node? temp = t.node? temp) :
    d.Backed u stage := by
  cases stage with
  | staged temp =>
    obtain ⟨hname, bytes, hnode⟩ := h
    exact ⟨hname, bytes, (hsame rfl).trans hnode⟩
  | filled temp => exact ⟨h.1, (hsame rfl).trans h.2⟩
  | synced temp => exact ⟨h.1, (hsame rfl).trans h.2⟩
  | planned => trivial
  | housed => trivial
  | settled outcome => trivial

/-- The last step of a draft: what its temporary file holds, which is all of its bytes, goes to the
place, at which nothing stands if the draft does not replace. -/
structure Places (d : Draft) (goal : Place) (before after : Stage × Disk) : Prop where
  synced : ∃ temp, before.1 = .synced temp ∧ before.2.tree.node? temp = some (.file d.bytes)
  absent : d.replaces = false → before.2.tree.node? goal = none
  settled : after.1 = .settled (.ok ())
  whole : after.2.tree.node? goal = some (.file d.bytes)

/-- What a step of a draft does to the disk, seen from a place and from the other drafts. -/
structure Orderly (d : Draft) (goal : Place) (before after : Stage × Disk) : Prop where
  cwd : after.2.cwd = before.2.cwd
  proper : after.2.Proper
  keeps : before.2.tree.Keeps after.2.tree
  backed : d.Backed after.2.tree after.1
  /-- A new temporary file is made where nothing stood. -/
  fresh : ∀ {temp}, after.1.temp? = some temp →
    before.1.temp? = some temp ∨ before.2.tree.node? temp = none
  /-- The files of others stay. -/
  files : ∀ {q bytes}, q ≠ goal → before.1.temp? ≠ some q →
    before.2.tree.node? q = some (.file bytes) → after.2.tree.node? q = some (.file bytes)
  /-- The place stays, except in the last step. -/
  places : (after.2.tree.node? goal = before.2.tree.node? goal ∧
      (after.1 = .settled (.ok ()) → before.1 = .settled (.ok ()))) ∨ d.Places goal before after

/-- A step that leaves the disk alone. -/
theorem orderly_of_same {stage' : Stage} (hdisk : disk.Proper) (hbacked : d.Backed disk.tree stage')
    (htemp : ∀ {temp}, stage'.temp? = some temp → stage.temp? = some temp)
    (hok : stage' = .settled (.ok ()) → stage = .settled (.ok ())) :
    d.Orderly goal (stage, disk) (stage', disk) where
  cwd := rfl
  proper := hdisk
  keeps _ h := h
  backed := hbacked
  fresh h := .inl (htemp h)
  files _ _ h := h
  places := .inl ⟨rfl, hok⟩

/-- The way to the directory of a draft is none, or it is the beginning of that to its path. -/
theorem prefix_of_directory {cs : List Component} (h : cs <+: d.directory.components) :
    cs = [] ∨ cs = [.here] ∨ cs <+: d.path.components.dropLast := by
  have hhere (h : cs <+: (Path.mk ".").components) :
      cs = [] ∨ cs = [.here] ∨ cs <+: d.path.components.dropLast := by
    rw [show (Path.mk ".").components = [.here] by decide +kernel] at h
    obtain rfl | ⟨rest, rfl, hrest⟩ := List.prefix_cons_iff.1 h
    · exact .inl rfl
    · exact .inr (.inl (by rw [List.prefix_nil.1 hrest]))
  unfold directory at h
  split at h
  · rename_i parent hparent
    split at h
    · exact hhere h
    · rw [Path.components_of_parent? hparent] at h
      exact .inr (.inr h)
  · exact hhere h

theorem orderly_house (hdisk : disk.Proper)
    (hway : disk.tree.node? goal = none →
      ∀ cs, cs <+: d.directory.components → FileTree.follow disk.cwd cs ≠ goal) :
    d.Orderly goal (.planned, disk) (d.house disk) := by
  have hgrown := grown_createDirectories hdisk d
  have halong := grownAlong_createDirectories d disk
  obtain ⟨stage', hhouse, hstage'⟩ : ∃ stage', d.house disk =
      (stage', { disk with tree := (disk.tree.createDirectories disk.cwd d.directory).1 }) ∧
      stage'.temp? = none ∧ stage' ≠ .settled (.ok ()) ∧ ∀ t, d.Backed t stage' := by
    unfold house Disk.createDirectories
    rcases disk.tree.createDirectories disk.cwd d.directory with ⟨housed, _ | _⟩
    · exact ⟨_, rfl, rfl, nofun, fun _ => trivial⟩
    · exact ⟨_, rfl, rfl, nofun, fun _ => trivial⟩
  obtain ⟨hnone, hnotOk, hbacked⟩ := hstage'
  rw [hhouse]
  refine ⟨rfl, hgrown.proper, hgrown.keeps, hbacked _, ?_, ?_, .inl ⟨?_, fun h => absurd h hnotOk⟩⟩
  · intro temp h
    rw [hnone] at h
    cases h
  · intro q bytes _ _ h
    exact (hgrown.files id bytes).2 h
  · rcases halong goal with hsame | ⟨habsent, -, cs, hcs, hgoal⟩
    · exact hsame
    · exact absurd hgoal.symm (hway habsent cs hcs)

/-- A temporary file that is put or replaced disturbs nothing else. -/
theorem orderly_of_put {stage' : Stage} {r : Place} {n : Nat} {bytes : ByteArray}
    (hdisk : disk.Proper) (hgoal : r ++ [tempName n] ≠ goal)
    (hr : disk.tree.node? r = some .directory)
    (hfile : disk.tree.node? (r ++ [tempName n]) ≠ some .directory)
    (hown : stage.temp? = some (r ++ [tempName n]) ∨ disk.tree.node? (r ++ [tempName n]) = none)
    (hstage' : stage' = .staged (r ++ [tempName n]) ∨
      stage' = .filled (r ++ [tempName n]) ∧ bytes = d.bytes) :
    d.Orderly goal (stage, disk)
      (stage', { disk with tree := disk.tree.put (r ++ [tempName n]) (.file bytes) }) := by
  have hnode := FileTree.node?_put disk.tree (p := r ++ [tempName n]) (by simp) (.file bytes)
  have hself : (disk.tree.put (r ++ [tempName n]) (.file bytes)).node? (r ++ [tempName n]) =
      some (.file bytes) := FileTree.node?_put_self _ (by simp) _
  have htemp : stage'.temp? = some (r ++ [tempName n]) := by
    rcases hstage' with rfl | ⟨rfl, -⟩ <;> rfl
  have hkeeps : disk.tree.Keeps (disk.tree.put (r ++ [tempName n]) (.file bytes)) := by
    intro q hq
    rw [hnode, if_neg, hq]
    rintro rfl
    exact hfile hq
  refine ⟨rfl, ⟨hdisk.tree.put hr (.inr hfile), hkeeps _ hdisk.cwd⟩, hkeeps, ?_, ?_, ?_,
    .inl ⟨?_, ?_⟩⟩
  · rcases hstage' with rfl | ⟨rfl, rfl⟩
    · exact ⟨⟨r, n, rfl⟩, bytes, hself⟩
    · exact ⟨⟨r, n, rfl⟩, hself⟩
  · intro temp h
    rw [htemp] at h
    cases h
    exact hown
  · intro q content _ hother hq
    refine (hnode q).trans ?_
    rw [if_neg, hq]
    rintro rfl
    rcases hown with hown | hnone
    · exact hother hown
    · rw [hnone] at hq
      cases hq
  · exact (hnode goal).trans (if_neg (Ne.symm hgoal))
  · rintro rfl
    cases htemp

theorem orderly_stage (hdisk : disk.Proper)
    (hname : ∀ r n, r ++ [tempName n] ≠ goal) :
    d.Orderly goal (.housed, disk) (d.stage disk) := by
  have hrefuse (e : FileError) : d.Orderly goal (.housed, disk) (stage.refuse d disk e) :=
    orderly_of_same hdisk trivial nofun nofun
  unfold Draft.stage
  split
  · rename_i dir hfind
    obtain ⟨n, htemp, hfree⟩ := freshTemp_spec disk.tree dir
    simp only [htemp]
    exact orderly_of_put hdisk (hname dir n) (FileTree.find_eq_ok.1 hfind).2 (by simp [hfree])
      (.inr hfree) (.inl rfl)
  · exact hrefuse _
  · exact hrefuse _

/-- Something goes into the temporary file that a draft has in use. -/
theorem orderly_fill {stage' : Stage} {bytes : ByteArray} (hdisk : disk.Proper)
    (hname : ∀ r n, r ++ [tempName n] ≠ goal) (hbacked : d.Backed disk.tree (.staged temp))
    (hstage' : stage' = .staged temp ∨ stage' = .filled temp ∧ bytes = d.bytes) :
    d.Orderly goal (.staged temp, disk)
      (stage', { disk with tree := disk.tree.put temp (.file bytes) }) := by
  obtain ⟨⟨r, n, rfl⟩, content, hnode⟩ := hbacked
  exact orderly_of_put hdisk (hname r n) (hdisk.tree.housed hnode) (by simp [hnode]) (.inl rfl)
    hstage'

/-- With a file removed, everything else stays. -/
theorem node?_prune_file {content : ByteArray} (ht : t.Proper)
    (htemp : t.node? temp = some (.file content)) (hq : q ≠ temp) :
    (t.prune temp).node? q = t.node? q := by
  have hne : temp ≠ [] := by
    rintro rfl
    cases htemp
  rw [FileTree.node?_prune t hne]
  split
  · rename_i hbelow
    obtain ⟨below, rfl⟩ := hbelow
    rw [ht.node?_below (by simp [htemp])]
    rintro rfl
    simp at hq
  · rfl

theorem keeps_prune_file {content : ByteArray} (ht : t.Proper)
    (htemp : t.node? temp = some (.file content)) : t.Keeps (t.prune temp) := by
  intro q hq
  rw [node?_prune_file ht htemp, hq]
  rintro rfl
  rw [htemp] at hq
  cases hq

/-- A draft that fails removes its temporary file, and nothing else changes. -/
theorem orderly_withdraw (hdisk : disk.Proper) (hname : ∀ r n, r ++ [tempName n] ≠ goal)
    (hbacked : d.Backed disk.tree stage) (htemp : stage.temp? = some temp) (e : GovernanceError) :
    d.Orderly goal (stage, disk)
      (.settled (.error e), { disk with tree := disk.tree.prune temp }) := by
  obtain ⟨⟨r, n, rfl⟩, content, hnode⟩ := hbacked.of_temp htemp
  have hsame {q : Place} (hq : q ≠ r ++ [tempName n]) :=
    node?_prune_file hdisk.tree hnode hq
  have hkeeps := keeps_prune_file hdisk.tree hnode
  refine ⟨rfl, ⟨hdisk.tree.prune (by simp), hkeeps _ hdisk.cwd⟩, hkeeps, trivial, nofun, ?_,
    .inl ⟨?_, nofun⟩⟩
  · intro q bytes _ hother hq
    refine (hsame ?_).trans hq
    rintro rfl
    exact hother htemp
  · exact hsame (Ne.symm (hname r n))

theorem orderly_place (hdisk : disk.Proper) (hname : ∀ r n, r ++ [tempName n] ≠ goal)
    (hbacked : d.Backed disk.tree (.synced temp))
    (hgoal : FileTree.follow disk.cwd d.path.components = goal) :
    d.Orderly goal (.synced temp, disk) (d.place temp disk) := by
  unfold place
  split
  · rename_i target htarget
    obtain ⟨hlocate, habsent⟩ := target_eq_ok.1 htarget
    obtain ⟨-, hwalk, -, hfile⟩ := FileTree.locateFile_eq_ok.1 hlocate
    obtain rfl : target = goal := (FileTree.follow_of_walk hwalk).symm.trans hgoal
    obtain hdir | ⟨r, s, rfl, hr⟩ := hdisk.tree.walk hdisk.cwd hwalk
    · exact absurd hdir hfile
    obtain ⟨⟨r', n, rfl⟩, hnode⟩ := hbacked
    have hsame {q : Place} (hq : q ≠ r' ++ [tempName n]) := node?_prune_file hdisk.tree hnode hq
    have hplaced := FileTree.node?_put (disk.tree.prune (r' ++ [tempName n])) (p := r ++ [s])
      (by simp) (.file d.bytes)
    have hkeeps : disk.tree.Keeps
        ((disk.tree.prune (r' ++ [tempName n])).put (r ++ [s]) (.file d.bytes)) := by
      intro q hq
      rw [hplaced, if_neg, keeps_prune_file hdisk.tree hnode q hq]
      rintro rfl
      exact hfile hq
    refine ⟨rfl, ⟨?_, hkeeps _ hdisk.cwd⟩, hkeeps, trivial, nofun, ?_,
      .inr ⟨⟨_, rfl, hnode⟩, habsent, rfl, ?_⟩⟩
    · refine (hdisk.tree.prune (by simp)).put (keeps_prune_file hdisk.tree hnode r hr) (.inr ?_)
      rwa [hsame (Ne.symm (hname r' n))]
    · intro q bytes hq hother hfile'
      refine (hplaced q).trans ?_
      rw [if_neg hq, hsame, hfile']
      rintro rfl
      exact hother rfl
    · exact (hplaced _).trans (if_pos rfl)
  · exact orderly_withdraw hdisk hname hbacked rfl _

/-- Every step of a draft is orderly, as long as the way to its directory does not make the place a
directory. -/
theorem orderly_advance (hdisk : disk.Proper) (hname : ∀ r n, r ++ [tempName n] ≠ goal)
    (hbacked : d.Backed disk.tree stage)
    (hgoal : FileTree.follow disk.cwd d.path.components = goal)
    (hway : disk.tree.node? goal = none →
      ∀ cs, cs <+: d.directory.components → FileTree.follow disk.cwd cs ≠ goal) :
    d.Orderly goal (stage, disk) (d.advance stage disk) := by
  cases stage with
  | planned => exact orderly_house hdisk hway
  | housed => exact orderly_stage hdisk hname
  | staged temp => exact orderly_fill hdisk hname hbacked (.inr ⟨rfl, rfl⟩)
  | filled temp => exact orderly_of_same hdisk hbacked id nofun
  | synced temp => exact orderly_place hdisk hname hbacked hgoal
  | settled outcome => exact orderly_of_same hdisk trivial id id

end Draft

/-! ## All drafts -/

namespace Scene

variable {ι : Type} [DecidableEq ι] {drafts : ι → Draft} {start : Disk} {s s' : Scene ι} {i : ι}

open Draft (tempName)

@[simp] theorem moved_stages_self (s : Scene ι) (i : ι) (after : Stage × Disk) :
    (s.moved i after).stages i = after.1 := Function.update_self ..

@[simp] theorem moved_stages_of_ne (s : Scene ι) {i j : ι} (h : j ≠ i) (after : Stage × Disk) :
    (s.moved i after).stages j = s.stages j := Function.update_of_ne h ..

@[simp] theorem moved_disk (s : Scene ι) (i : ι) (after : Stage × Disk) :
    (s.moved i after).disk = after.2 := rfl

/-- Drafts of one path, which is not that of a temporary file. If nothing stands at its end, the way
to its directory does not lead there either. -/
structure Fair (drafts : ι → Draft) (path : Path) (start : Disk) : Prop where
  proper : start.Proper
  shared : ∀ i, (drafts i).path = path
  named : ∀ r n, r ++ [tempName n] ≠ FileTree.follow start.cwd path.components
  apart : start.tree.node? (FileTree.follow start.cwd path.components) = none →
    ∀ i cs, cs <+: (drafts i).directory.components →
      FileTree.follow start.cwd cs ≠ FileTree.follow start.cwd path.components

/-- What holds at every moment: each draft has its temporary file for itself, and a place holds what
it held or the bytes of a draft that succeeded. -/
structure Sound (drafts : ι → Draft) (goal : Place) (start : Disk) (s : Scene ι) : Prop where
  cwd : s.disk.cwd = start.cwd
  proper : s.disk.Proper
  keeps : start.tree.Keeps s.disk.tree
  backed : ∀ i, (drafts i).Backed s.disk.tree (s.stages i)
  unshared : ∀ {i j temp}, (s.stages i).temp? = some temp → (s.stages j).temp? = some temp → i = j
  content : s.disk.tree.node? goal = start.tree.node? goal ∨
    ∃ i, s.stages i = .settled (.ok ()) ∧ s.disk.tree.node? goal = some (.file (drafts i).bytes)

theorem Step.stages_of_ne (h : Step drafts i s s') {j : ι} (hj : j ≠ i) :
    s'.stages j = s.stages j := by
  cases h <;> exact moved_stages_of_ne s hj _

/-- A draft that is settled stays so and does nothing any more. -/
theorem Step.settled (h : Step drafts i s s') {outcome : Except GovernanceError Unit}
    (hs : s.stages i = .settled outcome) : s'.stages i = .settled outcome := by
  cases h with
  | advance => rw [moved_stages_self, hs, Draft.advance]
  | fill temp bytes hstage =>
    rw [hs] at hstage
    cases hstage
  | abandon e hopen => exact absurd hs (hopen outcome)
  | withdraw e temp htemp =>
    rw [hs] at htemp
    cases htemp

variable {path : Path}

omit [DecidableEq ι] in
/-- Drafts of a path that never leads upwards do not stand in each other's way. -/
theorem fair_of_upless (hdisk : start.Proper) (hshared : ∀ i, (drafts i).path = path)
    (hpath : path.Upless)
    (hnamed : ∀ r n, r ++ [tempName n] ≠ FileTree.follow start.cwd path.components) :
    Fair drafts path start := by
  refine ⟨hdisk, hshared, hnamed, ?_⟩
  intro habsent i cs hcs
  have hcwd : FileTree.follow start.cwd path.components ≠ start.cwd := by
    intro hsame
    rw [hsame, hdisk.cwd] at habsent
    cases habsent
  obtain rfl | rfl | hcs := Draft.prefix_of_directory hcs
  · exact hcwd.symm
  · exact hcwd.symm
  · rw [hshared] at hcs
    exact FileTree.follow_ne_of_upless hpath hcwd hcs

omit [DecidableEq ι] in
/-- Where drafts start, everything is in order. -/
theorem Fair.sound (hfair : Fair drafts path start) :
    Sound drafts (FileTree.follow start.cwd path.components) start
      { stages := fun _ => .planned, disk := start } where
  cwd := rfl
  proper := hfair.proper
  keeps _ h := h
  backed _ := trivial
  unshared := nofun
  content := .inl rfl

theorem Sound.orderly (hfair : Fair drafts path start)
    (h : Sound drafts (FileTree.follow start.cwd path.components) start s)
    (hstep : Step drafts i s s') :
    (drafts i).Orderly (FileTree.follow start.cwd path.components)
      (s.stages i, s.disk) (s'.stages i, s'.disk) := by
  have hbacked := h.backed i
  cases hstep with
  | advance =>
    rw [moved_stages_self, moved_disk]
    refine Draft.orderly_advance h.proper hfair.named hbacked (by rw [h.cwd, hfair.shared]) ?_
    intro habsent cs hcs
    rw [h.cwd]
    refine hfair.apart ?_ i cs hcs
    rcases h.content with hsame | ⟨j, -, hfile⟩
    · exact hsame.symm.trans habsent
    · rw [hfile] at habsent
      cases habsent
  | fill temp bytes hstage =>
    rw [hstage] at hbacked
    rw [moved_stages_self, moved_disk, hstage]
    exact Draft.orderly_fill h.proper hfair.named hbacked (.inl rfl)
  | abandon e hopen =>
    rw [moved_stages_self, moved_disk]
    exact Draft.orderly_of_same h.proper trivial nofun nofun
  | withdraw e temp htemp =>
    rw [moved_stages_self, moved_disk]
    exact Draft.orderly_withdraw h.proper hfair.named hbacked htemp e

theorem Sound.step (hfair : Fair drafts path start)
    (h : Sound drafts (FileTree.follow start.cwd path.components) start s)
    (hstep : Step drafts i s s') :
    Sound drafts (FileTree.follow start.cwd path.components) start s' := by
  have horderly := h.orderly hfair hstep
  have hother {j : ι} (hj : j ≠ i) : s'.stages j = s.stages j := hstep.stages_of_ne hj
  -- A new temporary file of the draft is none that another draft has in use.
  have hfresh {j : ι} {temp : Place} (hi : (s'.stages i).temp? = some temp)
      (hj : (s'.stages j).temp? = some temp) : j = i := by
    by_contra hne
    rw [hother hne] at hj
    rcases horderly.fresh hi with hold | hnone
    · exact hne (h.unshared hj hold)
    · obtain ⟨-, bytes, hfile⟩ := (h.backed j).of_temp hj
      rw [hnone] at hfile
      cases hfile
  refine ⟨horderly.cwd.trans h.cwd, horderly.proper, fun q hq => horderly.keeps q (h.keeps q hq),
    ?_, ?_, ?_⟩
  · intro j
    by_cases hj : j = i
    · exact hj ▸ horderly.backed
    · rw [hother hj]
      refine (h.backed j).congr fun {temp} htemp => ?_
      obtain ⟨⟨r, n, rfl⟩, bytes, hfile⟩ := (h.backed j).of_temp htemp
      refine (horderly.files (hfair.named r n) ?_ hfile).trans hfile.symm
      intro hi
      exact hj (h.unshared htemp hi)
  · intro j k temp hj hk
    by_cases hji : j = i
    · subst hji
      exact (hfresh hj hk).symm
    by_cases hki : k = i
    · subst hki
      exact hfresh hk hj
    rw [hother hji] at hj
    rw [hother hki] at hk
    exact h.unshared hj hk
  · rcases horderly.places with ⟨hsame, -⟩ | hplaces
    · refine h.content.imp hsame.trans ?_
      rintro ⟨j, hsettled, hfile⟩
      refine ⟨j, ?_, hsame.trans hfile⟩
      by_cases hj : j = i
      · subst hj
        exact hstep.settled hsettled
      · rw [hother hj, hsettled]
    · exact .inr ⟨i, hplaces.settled, hplaces.whole⟩

theorem Run.sound (hfair : Fair drafts path start) {turns : List (Turn ι)}
    (h : Run drafts start turns s) :
    Sound drafts (FileTree.follow start.cwd path.components) start s := by
  induction h with
  | start => exact hfair.sound
  | step _ hstep ih => exact ih.step hfair hstep

/-- The turn is the last step of its writer, which brings all of its bytes to the place. -/
def Turn.Places (turn : Turn ι) (drafts : ι → Draft) (goal : Place) : Prop :=
  (drafts turn.writer).Places goal (turn.before.stages turn.writer, turn.before.disk)
    (turn.after.stages turn.writer, turn.after.disk)

/-- Every turn leaves the place alone or is the last step of a draft, and the drafts that succeeded
are those that took theirs. -/
theorem Run.turns (hfair : Fair drafts path start) {turns : List (Turn ι)}
    (h : Run drafts start turns s) :
    (∀ turn ∈ turns, turn.Spares (FileTree.follow start.cwd path.components) ∨
      turn.Places drafts (FileTree.follow start.cwd path.components)) ∧
    ∀ i, s.stages i = .settled (.ok ()) ↔
      ∃ turn ∈ turns, turn.writer = i ∧
        turn.Places drafts (FileTree.follow start.cwd path.components) := by
  induction h with
  | start => exact ⟨nofun, fun i => ⟨nofun, nofun⟩⟩
  | @step turns s s' i hrun hstep ih =>
    obtain ⟨hturns, hsettled⟩ := ih
    have horderly := (hrun.sound hfair).orderly hfair hstep
    refine ⟨List.forall_mem_cons.2 ⟨?_, hturns⟩, ?_⟩
    · exact horderly.places.imp And.left id
    · intro j
      rw [List.exists_mem_cons_iff]
      by_cases hj : j = i
      · subst hj
        constructor
        · intro hok
          rcases horderly.places with ⟨-, hbefore⟩ | hplaces
          · exact .inr ((hsettled j).1 (hbefore hok))
          · exact .inl ⟨rfl, hplaces⟩
        · rintro (⟨-, hplaces⟩ | hearlier)
          · exact hplaces.settled
          · exact hstep.settled ((hsettled j).2 hearlier)
      · rw [hstep.stages_of_ne hj, hsettled j]
        constructor
        · exact .inr
        · rintro (⟨hwriter, -⟩ | hearlier)
          · exact absurd hwriter.symm hj
          · exact hearlier

/-- However drafts of one path get on, the path holds what it held at the start or the bytes of one
draft that succeeded, and a reader who could read it can do so throughout. A draft that succeeded
brought its bytes there in its last step, onto nothing if it does not replace, and a draft that did
not succeed has left the path alone. -/
theorem snapshots_stay_whole (hfair : Fair drafts path start) {turns : List (Turn ι)}
    (hrun : Run drafts start turns s) :
    let goal := FileTree.follow start.cwd path.components
    (s.disk.tree.node? goal = start.tree.node? goal ∨
      ∃ i, s.stages i = .settled (.ok ()) ∧
        s.disk.tree.node? goal = some (.file (drafts i).bytes)) ∧
    (∀ bytes, start.tree.readBytes start.cwd path = .ok bytes →
      ∃ content, s.disk.tree.readBytes s.disk.cwd path = .ok content ∧
        (content = bytes ∨ ∃ i, s.stages i = .settled (.ok ()) ∧ content = (drafts i).bytes)) ∧
    (∀ turn ∈ turns, turn.Spares goal ∨ turn.Places drafts goal) ∧
    (∀ i, s.stages i = .settled (.ok ()) →
      ∃ turn ∈ turns, turn.writer = i ∧ turn.Places drafts goal ∧
        ((drafts i).replaces = false → turn.before.disk.tree.node? goal = none)) ∧
    (∀ i, s.stages i ≠ .settled (.ok ()) → ∀ turn ∈ turns, turn.writer = i → turn.Spares goal) := by
  intro goal
  have hsound := hrun.sound hfair
  obtain ⟨hturns, hsettled⟩ := hrun.turns hfair
  refine ⟨hsound.content, ?_, hturns, ?_, ?_⟩
  · intro bytes hread
    obtain ⟨husable, hwalk, hwants, hnode⟩ := FileTree.readBytes_eq_ok.1 hread
    rw [hsound.cwd]
    have hread' {content : ByteArray} (hfile : s.disk.tree.node? goal = some (.file content)) :
        s.disk.tree.readBytes start.cwd path = .ok content :=
      FileTree.readBytes_of_file husable (FileTree.walk_of_keeps hsound.keeps hwalk) hwants hfile
    rcases hsound.content with hsame | ⟨i, hok, hfile⟩
    · exact ⟨bytes, hread' (hsame.trans hnode), .inl rfl⟩
    · exact ⟨_, hread' hfile, .inr ⟨i, hok, rfl⟩⟩
  · intro i hok
    obtain ⟨turn, hmem, rfl, hplaces⟩ := (hsettled i).1 hok
    exact ⟨turn, hmem, rfl, hplaces, hplaces.absent⟩
  · intro i hnotOk turn hmem hwriter
    rcases hturns turn hmem with hspares | hplaces
    · exact hspares
    · exact absurd ((hsettled i).2 ⟨turn, hmem, hwriter, hplaces⟩) hnotOk

/-! ## Orders of steps -/

/-- The scene after drafts took steps in the given order, and those that are not in it stopped. -/
def after (drafts : ι → Draft) (start : Disk) (order : List ι) : Scene ι :=
  order.foldl (fun s i => s.moved i ((drafts i).advance (s.stages i) s.disk))
    { stages := fun _ => .planned, disk := start }

theorem run_after (drafts : ι → Draft) (start : Disk) (order : List ι) :
    ∃ turns, Run drafts start turns (after drafts start order) := by
  induction order using List.reverseRecOn with
  | nil => exact ⟨[], .start⟩
  | append_singleton order i ih =>
    obtain ⟨turns, hrun⟩ := ih
    unfold after at hrun ⊢
    rw [List.foldl_concat]
    exact ⟨_, hrun.step .advance⟩

/-- Two drafts, of which the first does not replace. -/
def rivals : Bool → Draft
  | true => { path := ⟨"ws/session.json"⟩, bytes := "a".toUTF8, replaces := false }
  | false => { path := ⟨"ws/session.json"⟩, bytes := "b".toUTF8, replaces := true }

/-- One draft succeeds while another one stopped with its temporary file in the directory. -/
theorem rival_stops_and_leaves_path :
    let s := after rivals { tree := .empty } [true, true, false, false, true, true, true]
    s.disk.tree.node? ["ws", ".tmp000001"] = some (.file .empty) ∧
    s.disk.tree.node? ["ws", "session.json"] = some (.file "a".toUTF8) ∧
    ∃ i, s.stages i = .settled (.ok ()) ∧
      s.disk.tree.node? ["ws", "session.json"] = some (.file (rivals i).bytes) := by
  intro s
  have hplace : FileTree.follow [] (Path.mk "ws/session.json").components =
      ["ws", "session.json"] := by decide +kernel
  have hfair : Fair rivals ⟨"ws/session.json"⟩ { tree := .empty } := by
    refine fair_of_upless ⟨FileTree.proper_empty, rfl⟩ (by decide) (by decide +kernel) ?_
    intro r n h
    rw [hplace] at h
    have hlast : tempName n = "session.json" := by
      simpa using congrArg List.getLast? h
    have hhead := Draft.head?_tempName n
    rw [hlast] at hhead
    exact absurd hhead (by decide +kernel)
  obtain ⟨turns, hrun⟩ := run_after rivals { tree := .empty }
    [true, true, false, false, true, true, true]
  have hcontent := (snapshots_stay_whole hfair hrun).1
  rw [hplace] at hcontent
  have hnode : s.disk.tree.node? ["ws", "session.json"] = some (.file "a".toUTF8) := by
    decide +kernel
  refine ⟨by decide +kernel, hnode, hcontent.resolve_left ?_⟩
  rw [hnode]
  nofun

/-- Where the parent of a path leads through the path itself, creating it makes the path a
directory. -/
theorem absent_path_becomes_directory :
    let draft : Draft := { path := ⟨"x/y/../y"⟩, bytes := "a".toUTF8, replaces := true }
    let start : Disk := { tree := .empty }
    ∃ turns s, Run (fun _ : Unit => draft) start turns s ∧
      FileTree.follow start.cwd draft.path.components = ["x", "y"] ∧
      start.tree.node? ["x", "y"] = none ∧ s.disk.tree.node? ["x", "y"] = some .directory := by
  intro draft start
  obtain ⟨turns, hrun⟩ := run_after (fun _ : Unit => draft) start [()]
  exact ⟨turns, _, hrun, by decide +kernel, rfl, by decide +kernel⟩

end Scene

end AgentGovernance
