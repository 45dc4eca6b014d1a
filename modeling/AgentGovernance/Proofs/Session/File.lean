-- SUMMARY: The session file of a workspace: who can change what is read from it by writing files.
import AgentGovernance.Proofs.Session.Store
import AgentGovernance.Proofs.Settings.Separation

/-!
# The session file

Writing other files leaves the session as it is if it is known where the session file is: the path of
the state directory never leads upwards, or the directory exists. A save that fails is such a write,
so over this file guards have a store that keeps to its part. Otherwise a directory that is created on
the way can make a session file readable.
-/

namespace AgentGovernance

/-! ## The files of a workspace -/

namespace StatePaths

variable {paths : StatePaths} {before after disk : Disk}

/-- The files of a workspace lie where they always lie in its state directory. -/
structure Housed (paths : StatePaths) : Prop where
  session : paths.sessionFile = paths.stateDir.join SessionStore.fileName
  audits : paths.audits = paths.stateDir.join "audits"
  escalations : paths.escalations = paths.stateDir.join "escalations"

theorem housed_of_resolve {descriptors : DescriptorSettings} {session : SessionSettings}
    {env : Environment} {workspace : Path}
    (h : resolve descriptors session env workspace disk = .ok paths) : paths.Housed := by
  unfold resolve at h
  cases hdir : session.resolveStateDir env workspace disk with
  | error e =>
    rw [hdir] at h
    cases h
  | ok dir =>
    rw [hdir] at h
    cases h
    exact ⟨rfl, rfl, rfl⟩

/-- It is known where the session file is: the path of the state directory never leads upwards, or the
directory exists. -/
def Reached (paths : StatePaths) (disk : Disk) : Prop :=
  paths.stateDir.Upless ∨ disk.isDirectory paths.stateDir = true

/-- Where it is known where the session file is, the file is read if it is there. -/
theorem Housed.readBytes_iff (h : paths.Housed) (hdisk : disk.Proper) (hreached : paths.Reached disk)
    {bytes : ByteArray} :
    disk.tree.readBytes disk.cwd paths.sessionFile = .ok bytes ↔
      (FileTree.Usable paths.sessionFile ∧ FileTree.wantsDirectory paths.sessionFile = false ∧
        ∀ s, .name s ∈ paths.stateDir.components → s.utf8ByteSize ≤ FileTree.nameLimit) ∧
      disk.tree.node? (paths.sessionFile.placeFrom disk.cwd) = some (.file bytes) := by
  have hcomponents : paths.sessionFile.components =
      paths.stateDir.components ++ [.name SessionStore.fileName] := by
    rw [h.session, Path.components_join _ isName_fileName]
  rw [FileTree.readBytes_eq_ok]
  constructor
  · rintro ⟨husable, hwalk, hwants, hnode⟩
    refine ⟨⟨husable, hwants, fun s hs => FileTree.short_of_walk hwalk ?_⟩, hnode⟩
    rw [hcomponents]
    exact List.mem_append_left _ hs
  · rintro ⟨⟨husable, hwants, hshort⟩, hnode⟩
    refine ⟨husable, ?_, hwants, hnode⟩
    rcases hreached with hupless | hdir
    · refine hdisk.tree.walk_upless ?_ hnode ?_
      · unfold Path.Upless
        rw [hcomponents, List.mem_append, not_or]
        exact ⟨hupless, by simp⟩
      · intro s hs
        rw [hcomponents, List.mem_append] at hs
        rcases hs with hs | hs
        · exact hshort s hs
        · obtain rfl : s = SessionStore.fileName := by simpa using hs
          decide
    · unfold Disk.isDirectory FileTree.isDirectory at hdir
      split at hdir
      · rename_i place hfind
        obtain ⟨hlocate, hdirectory⟩ := FileTree.find_eq_ok.1 hfind
        obtain ⟨-, hwalk, -⟩ := FileTree.locate_eq_ok.1 hlocate
        rw [hcomponents, FileTree.follow_append, FileTree.follow_of_walk hwalk]
        exact FileTree.walk_concat hwalk hdirectory (by decide)
      · cases hdir

/-- What others do to the disk spares the session file: it is neither written nor removed, and a state
directory whose path leads upwards stays in place. -/
structure Spared (paths : StatePaths) (before after : Disk) : Prop where
  cwd : after.cwd = before.cwd
  proper : before.Proper → after.Proper
  session : ∀ bytes,
    after.tree.node? (paths.sessionFile.placeFrom before.cwd) = some (.file bytes) ↔
      before.tree.node? (paths.sessionFile.placeFrom before.cwd) = some (.file bytes)
  directory : ¬ paths.stateDir.Upless → before.isDirectory paths.stateDir = true →
    after.isDirectory paths.stateDir = true

theorem spared_refl (paths : StatePaths) (disk : Disk) : paths.Spared disk disk where
  cwd := rfl
  proper := id
  session _ := Iff.rfl
  directory _ := id

theorem spared_of_grown {written : Place → Prop} (h : before.Grown written after)
    (hsession : ¬ written (paths.sessionFile.placeFrom before.cwd)) : paths.Spared before after where
  cwd := h.cwd
  proper _ := h.proper
  session := h.files hsession
  directory _ := h.isDirectory

theorem Spared.reached (h : paths.Spared before after) (hreached : paths.Reached before) :
    paths.Reached after := by
  by_cases hupless : paths.stateDir.Upless
  · exact .inl hupless
  · exact .inr (h.directory hupless (hreached.resolve_left hupless))

/-- A session file that is spared holds the same session. -/
theorem Spared.read_eq (h : paths.Spared before after) (hhoused : paths.Housed)
    (hdisk : before.Proper) (hreached : paths.Reached before) :
    ((SessionStore.file paths.sessionFile).read after).1 =
      ((SessionStore.file paths.sessionFile).read before).1 := by
  refine SessionStore.read_file_congr fun bytes => ?_
  rw [hhoused.readBytes_iff (h.proper hdisk) (h.reached hreached),
    hhoused.readBytes_iff hdisk hreached, h.cwd, h.session bytes]

/-- On every proper disk the session file of a workspace keeps to its part, whether or not it can be
written. So what holds of guards over lawful stores holds of guards over it. -/
theorem Housed.lawful (h : paths.Housed) :
    (SessionStore.file paths.sessionFile).Lawful fun disk => disk.Proper ∧ paths.Reached disk where
  saved := by
    rintro s j disk hs ⟨hproper, hreached⟩ hends
    have hgrown := Snapshot.grown_of_ends hproper (SessionStore.ends_write_of_save hends)
    exact ⟨SessionStore.read_of_saved hproper hs hends, hgrown.proper,
      hreached.imp id hgrown.isDirectory⟩
  failed := by
    rintro s j e disk hs ⟨hproper, hreached⟩ hends
    have hgrown := Snapshot.grown_of_ends hproper (SessionStore.ends_write_of_save hends)
    have hspared : paths.Spared j.world disk := spared_of_grown hgrown fun hq => by cases hq.1
    exact ⟨hspared.read_eq h hproper hreached, hgrown.proper, hspared.reached hreached⟩

/-- The files of a workspace lie below its state directory. -/
theorem Housed.below (h : paths.Housed) (cwd : Place) :
    paths.Below cwd (paths.stateDir.placeFrom cwd) where
  session := by rw [h.session, Path.placeFrom_join _ isName_fileName]
  audits := by rw [h.audits, Path.placeFrom_join _ isName_audits]
  escalations := by rw [h.escalations, Path.placeFrom_join _ isName_escalations]

/-- Reports and records are not written onto the session file. -/
theorem Housed.ne_session (h : paths.Housed) {dir : Path} {s : String}
    (hdir : dir = paths.audits ∨ dir = paths.escalations) (hs : Path.IsName s) (cwd : Place) :
    paths.sessionFile.placeFrom cwd ≠ (dir.join s).placeFrom cwd := by
  have hbelow := h.below cwd
  have hdeeper : ∃ name, dir.placeFrom cwd = paths.stateDir.placeFrom cwd ++ [name] := by
    rcases hdir with rfl | rfl
    · exact ⟨_, hbelow.audits⟩
    · exact ⟨_, hbelow.escalations⟩
  obtain ⟨name, hname⟩ := hdeeper
  rw [hbelow.session, Path.placeFrom_join _ hs, hname]
  intro heq
  simpa using congrArg List.length heq

end StatePaths

end AgentGovernance
