-- SUMMARY: Snapshots: what a write leaves alone, whether it succeeds or fails.
import AgentGovernance.Proofs.Snapshot

/-!
# What a write leaves alone

A write creates directories on its way, whether or not it gets to its end, and puts one file at its
place if it does. Directories last, so whatever could be read is read as before. Main statement: no
file changes but the one that is written, and that one only if the write succeeds.
-/

namespace AgentGovernance

/-! ## Disks that grow -/

/-- What comes of a disk on which files may be written at some places: its directories last, and all
other files are what they were. -/
structure Disk.Grown (written : Place → Prop) (before after : Disk) : Prop where
  cwd : after.cwd = before.cwd
  proper : after.Proper
  keeps : before.tree.Keeps after.tree
  files : ∀ {q}, ¬ written q → ∀ bytes,
    after.tree.node? q = some (.file bytes) ↔ before.tree.node? q = some (.file bytes)

namespace Disk.Grown

variable {written : Place → Prop} {before after : Disk} {path : Path} {bytes : ByteArray}

theorem mono {written' : Place → Prop} (h : before.Grown written after)
    (hsub : ∀ q, written q → written' q) : before.Grown written' after :=
  ⟨h.cwd, h.proper, h.keeps, fun hq => h.files fun hw => hq (hsub _ hw)⟩

theorem trans {between : Disk} (h : before.Grown written between)
    (h' : between.Grown written after) : before.Grown written after where
  cwd := h'.cwd.trans h.cwd
  proper := h'.proper
  keeps q hq := h'.keeps q (h.keeps q hq)
  files hq bytes := (h'.files hq bytes).trans (h.files hq bytes)

/-- If only what was not there is written, what is not there was not there. -/
theorem absent (h : before.Grown (fun q => before.tree.node? q = none) after) {q : Place}
    (hq : after.tree.node? q = none) : before.tree.node? q = none := by
  cases hn : before.tree.node? q with
  | none => rfl
  | some n =>
    cases n with
    | directory =>
      rw [h.keeps q hn] at hq
      cases hq
    | file bytes =>
      rw [(h.files (by simp [hn]) bytes).2 hn] at hq
      cases hq

theorem isDirectory (h : before.Grown written after) (hdir : before.isDirectory path = true) :
    after.isDirectory path = true := by
  unfold Disk.isDirectory FileTree.isDirectory at hdir ⊢
  split at hdir
  · rename_i hfind
    rw [h.cwd, FileTree.find_directory_of_keeps h.keeps hfind]
  · cases hdir

/-- A file that is read is read again, unless it was written. -/
theorem readBytes (h : before.Grown written after)
    (hpath : ¬ written (FileTree.follow before.cwd path.components))
    (hread : before.tree.readBytes before.cwd path = .ok bytes) :
    after.tree.readBytes after.cwd path = .ok bytes := by
  obtain ⟨husable, hwalk, hwants, hnode⟩ := FileTree.readBytes_eq_ok.1 hread
  rw [h.cwd]
  exact FileTree.readBytes_eq_ok.2
    ⟨husable, FileTree.walk_of_keeps h.keeps hwalk, hwants, (h.files hpath bytes).2 hnode⟩

end Disk.Grown

/-! ## Drafts -/

namespace Draft

variable {d : Draft} {disk : Disk}

theorem grown_of_grownAlong {housed : FileTree} {cs : List Component} (hdisk : disk.Proper)
    (hproper : housed.Proper) (h : FileTree.GrownAlong disk.cwd cs disk.tree housed) :
    disk.Grown (fun _ => False) { disk with tree := housed } where
  cwd := rfl
  proper := ⟨hproper, h.keeps _ hdisk.cwd⟩
  keeps := h.keeps
  files := by
    intro q _ bytes
    rcases h q with hsame | ⟨hnone, hdir, -⟩
    · rw [hsame]
    · rw [hnone, hdir]
      simp

theorem grownAlong_createDirectories (d : Draft) (disk : Disk) :
    FileTree.GrownAlong disk.cwd d.directory.components disk.tree
      (disk.tree.createDirectories disk.cwd d.directory).1 := by
  unfold FileTree.createDirectories
  rw [directory_ne_empty, if_neg Bool.false_ne_true]
  split
  · exact FileTree.grownAlong_refl _ _ _
  · exact FileTree.grownAlong_createAlong _ _ _

/-- The directories that a draft creates are all that it adds on the way to its last step. -/
theorem grown_createDirectories (hdisk : disk.Proper) (d : Draft) :
    disk.Grown (fun _ => False)
      { disk with tree := (disk.tree.createDirectories disk.cwd d.directory).1 } := by
  refine grown_of_grownAlong hdisk ?_ (grownAlong_createDirectories d disk)
  unfold FileTree.createDirectories
  rw [directory_ne_empty, if_neg Bool.false_ne_true]
  split
  · exact hdisk.tree
  · exact hdisk.tree.createAlong hdisk.cwd _

/-- With the temporary file gone, nothing is left of a draft that found no place. -/
theorem grown_prune_filledTree {dir : Place} (hdisk : disk.Proper)
    (hdir : disk.tree.node? dir = some .directory) (d : Draft) :
    disk.Grown (fun _ => False)
      { disk with tree := (d.filledTree disk.tree dir).prune (freshTemp disk.tree dir) } := by
  obtain ⟨n, htemp, -⟩ := freshTemp_spec disk.tree dir
  have hnode (q : Place) :
      ((d.filledTree disk.tree dir).prune (freshTemp disk.tree dir)).node? q = disk.tree.node? q :=
    node?_prune_filledTree hdisk.tree q
  refine ⟨rfl, ⟨(proper_filledTree hdisk.tree hdir).prune (by simp [htemp]), ?_⟩, ?_, ?_⟩
  · exact (hnode _).trans hdisk.cwd
  · exact fun q hq => (hnode q).trans hq
  · intro q _ bytes
    rw [hnode]

theorem grown_of_ok {disk' : Disk} (hdisk : disk.Proper)
    (h : d.finish disk = (.settled (.ok ()), disk')) :
    disk.Grown (fun q => q = FileTree.follow disk.cwd d.path.components) disk' := by
  obtain ⟨housed, dir, target, hfinished, rfl⟩ := finished_of_ok hdisk h
  obtain rfl := FileTree.follow_of_walk hfinished.walk_placed
  have hhoused := grown_createDirectories hdisk d
  rw [hfinished.created] at hhoused
  refine (hhoused.mono fun _ => False.elim).trans
    ⟨rfl, ⟨hfinished.proper_placed, ?_⟩, hfinished.keeps, ?_⟩
  · exact hfinished.keeps _ hhoused.proper.cwd
  · intro q hq bytes
    rw [node?_placedTree hfinished.proper hfinished.target_ne, if_neg hq]

theorem grown_of_not_ok {stage : Stage} {disk' : Disk} (hdisk : disk.Proper)
    (h : d.finish disk = (stage, disk')) (hstage : stage ≠ .settled (.ok ())) :
    disk.Grown (fun _ => False) disk' := by
  have hhoused := grown_createDirectories hdisk d
  rw [finish_eq] at h
  split at h
  · rename_i housed e hcreate
    rw [hcreate] at hhoused
    cases h
    exact hhoused
  · rename_i housed hcreate
    rw [hcreate] at hhoused
    split at h
    · rename_i dir hfind
      unfold place at h
      split at h
      · cases h
        exact absurd rfl hstage
      · cases h
        exact hhoused.trans (grown_prune_filledTree hhoused.proper (FileTree.find_eq_ok.1 hfind).2 d)
    · cases h
      exact hhoused
    · cases h
      exact hhoused

/-- However a draft ends, it changes no file but its own, and that one only if it succeeds. -/
theorem grown_of_finish {stage : Stage} {disk' : Disk} (hdisk : disk.Proper)
    (h : d.finish disk = (stage, disk')) :
    disk.Grown (fun q => stage = .settled (.ok ()) ∧ q = FileTree.follow disk.cwd d.path.components)
      disk' := by
  by_cases hstage : stage = .settled (.ok ())
  · subst hstage
    exact (grown_of_ok hdisk h).mono fun q hq => ⟨rfl, hq⟩
  · exact (grown_of_not_ok hdisk h hstage).mono fun q => False.elim

/-- Away from its place a draft leaves nothing behind but directories on the way to it. -/
theorem node?_of_finish {stage : Stage} {disk' : Disk} (hdisk : disk.Proper)
    (h : d.finish disk = (stage, disk')) {q : Place}
    (hq : stage = .settled (.ok ()) → q ≠ FileTree.follow disk.cwd d.path.components) :
    disk'.tree.node? q = disk.tree.node? q ∨
      disk.tree.node? q = none ∧ disk'.tree.node? q = some .directory ∧
        ∃ cs, cs <+: d.directory.components ∧ q = FileTree.follow disk.cwd cs := by
  have hhoused := grown_createDirectories hdisk d
  have halong := grownAlong_createDirectories d disk q
  suffices hsame : disk'.tree.node? q =
      (disk.tree.createDirectories disk.cwd d.directory).1.node? q by
    rwa [hsame]
  by_cases hstage : stage = .settled (.ok ())
  · subst hstage
    obtain ⟨housed, dir, target, hfinished, rfl⟩ := finished_of_ok hdisk h
    obtain rfl := FileTree.follow_of_walk hfinished.walk_placed
    rw [hfinished.created]
    exact (node?_placedTree hfinished.proper hfinished.target_ne q).trans (if_neg (hq rfl))
  · rw [finish_eq] at h
    split at h
    · rename_i housed e hcreate
      cases h
      rw [hcreate]
    · rename_i housed hcreate
      rw [hcreate] at hhoused ⊢
      split at h
      · rename_i dir hfind
        unfold place at h
        split at h
        · cases h
          exact absurd rfl hstage
        · cases h
          exact node?_prune_filledTree hhoused.proper.tree q
      · cases h
        rfl
      · cases h
        rfl

/-- A draft that does not replace and finds its place found nothing there at the start. -/
theorem absent_of_finish {disk' : Disk} (hreplaces : d.replaces = false)
    (h : d.finish disk = (.settled (.ok ()), disk')) :
    disk.tree.node? (FileTree.follow disk.cwd d.path.components) = none := by
  obtain ⟨housed, dir, target, hcreate, hfind, htarget, -⟩ := finish_ok_iff.1 h
  obtain ⟨hlocate, hfree⟩ := target_eq_ok.1 htarget
  obtain ⟨-, hwalk, -, -⟩ := FileTree.locateFile_eq_ok.1 hlocate
  obtain rfl := FileTree.follow_of_walk hwalk
  have habsent := hfree hreplaces
  rw [node?_filledTree] at habsent
  have halong := grownAlong_createDirectories d disk (FileTree.follow disk.cwd d.path.components)
  rw [hcreate] at halong
  split at habsent
  · cases habsent
  · rcases halong with hsame | ⟨hnone, -⟩
    · exact hsame.symm.trans habsent
    · exact hnone

end Draft

/-! ## Writes -/

namespace Snapshot

open Act (Ends)

variable {path : Path} {bytes : ByteArray} {replaces : Bool} {j : Journal Disk}
  {o : Except GovernanceError Unit} {disk : Disk}

theorem finish_of_ends (h : Ends (writeBytes path bytes replaces) j o disk) :
    ∃ stage, (Draft.mk path bytes replaces).finish j.world = (stage, disk) ∧
      (stage = .settled (.ok ()) ↔ o = .ok ()) := by
  unfold Ends writeBytes at h
  -- With the draft in sight, evaluating it would be tried at every step.
  generalize Draft.mk path bytes replaces = draft at h ⊢
  dsimp only at h
  rcases hfinish : draft.finish j.world with ⟨stage, result⟩
  rw [hfinish] at h
  have hend : (stage = .settled (.ok ()) ↔ o = .ok ()) ∧ result = disk := by
    cases stage with
    | settled outcome => cases outcome <;> simp_all
    | _ => simp_all
  exact ⟨stage, by rw [hend.2], hend.1⟩

/-- However a write ends, it changes no file but its own, and that one only if it succeeds. -/
theorem grown_of_ends (hdisk : j.world.Proper)
    (h : Ends (writeBytes path bytes replaces) j o disk) :
    j.world.Grown (fun q => o = .ok () ∧ q = FileTree.follow j.world.cwd path.components) disk := by
  obtain ⟨stage, hfinish, hok⟩ := finish_of_ends h
  exact (Draft.grown_of_finish hdisk hfinish).mono fun q hq => ⟨hok.1 hq.1, hq.2⟩

/-- A write performed on a disk takes the steps of its draft. -/
theorem finish_of_run (d : Draft) (disk : Disk) :
    ∃ stage, d.finish disk =
        (stage, ((writeBytes d.path d.bytes d.replaces).run disk).world) ∧
      (stage = .settled (.ok ()) ↔
        ((writeBytes d.path d.bytes d.replaces).run disk).outcome = .ok ()) := by
  obtain ⟨path, bytes, replaces⟩ := d
  unfold Act.run writeBytes
  generalize Draft.mk path bytes replaces = draft
  dsimp only
  rcases draft.finish disk with ⟨stage, result⟩
  refine ⟨stage, ?_⟩
  cases stage with
  | settled outcome => cases outcome <;> simp
  | _ => simp

end Snapshot

end AgentGovernance
