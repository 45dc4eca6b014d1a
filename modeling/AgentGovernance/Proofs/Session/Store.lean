-- SUMMARY: What a session store owes its guards, and that memory and session files give it.
import AgentGovernance.Proofs.Session.Document
import AgentGovernance.Proofs.Snapshot.Frame
import AgentGovernance.Session.Store

/-!
# Session stores

A store is asked to save a session and may fail to. It keeps to its part if a session that was saved
is the one that is read, and if a save that failed changes nothing of what is read. A session whose
times no clock can show is not read back from a file as it was, and in a file tree that is not proper
nothing is certain, so this is asked for valid sessions in the worlds that are good for the store.
-/

namespace AgentGovernance

open Act (Ends)

namespace SessionStore

/-! ## Laws -/

section Laws

variable {σ : Type} {store : SessionStore σ} {good : σ → Prop}

/-- In a good world, a valid session that was saved is the one that is read, a save that fails changes
nothing of what is read, and the world stays good. -/
structure Lawful (store : SessionStore σ) (good : σ → Prop) : Prop where
  saved : ∀ {s : SessionState} {j : Journal σ} {w}, s.Valid → good j.world →
    Ends (store.save s) j (.ok ()) w → (store.read w).1 = s ∧ good w
  failed : ∀ {s : SessionState} {j : Journal σ} {e w}, s.Valid → good j.world →
    Ends (store.save s) j (.error e) w → (store.read w).1 = (store.read j.world).1 ∧ good w

/-- No save of a valid session fails in this world. -/
def SavesAt (store : SessionStore σ) (w : σ) : Prop :=
  ∀ {s : SessionState} {j : Journal σ}, s.Valid → j.world = w → ∃ w', Ends (store.save s) j (.ok ()) w'

/-- In a good world every valid session can be saved, is then the one that is read, and leaves a good
world. -/
def Works (store : SessionStore σ) (good : σ → Prop) : Prop :=
  ∀ {s : SessionState} {j : Journal σ}, s.Valid → good j.world →
    ∃ w, Ends (store.save s) j (.ok ()) w ∧ (store.read w).1 = s ∧ good w

theorem Works.savesAt (h : store.Works good) {w : σ} (hw : good w) : store.SavesAt w := by
  rintro s j hs rfl
  obtain ⟨w', hsave, -⟩ := h hs hw
  exact ⟨w', hsave⟩

theorem Works.lawful (h : store.Works good) : store.Lawful good where
  saved hs hj hends := by
    obtain ⟨w, hsave, hkept⟩ := h hs hj
    obtain ⟨-, rfl⟩ := hends.unique hsave
    exact hkept
  failed hs hj hends := by
    obtain ⟨w, hsave, -⟩ := h hs hj
    cases (hends.unique hsave).1

end Laws

theorem memory_works : memory.Works fun _ => True :=
  fun _ _ => ⟨_, Act.ends_setWorld, rfl, trivial⟩

/-! ## Reading a session file -/

variable {path : Path} {disk disk' : Disk} {bytes : ByteArray}

/-- The session that the bytes of a file stand for. -/
def sessionOf (bytes : ByteArray) : SessionState :=
  (((String.fromUTF8? bytes).bind Json.parse?).bind SessionState.ofJson?).getD {}

theorem read_file_of_ok (h : disk.tree.readBytes disk.cwd path = .ok bytes) :
    ((file path).read disk).1 = sessionOf bytes := by
  change (readFile path disk).1 = _
  unfold readFile Snapshot.read Disk.readText FileTree.readText sessionOf
  rw [h]
  simp only [bind, Except.bind]
  cases String.fromUTF8? bytes with
  | none => rfl
  | some text =>
    simp only [Option.bind_some]
    cases (Json.parse? text).bind SessionState.ofJson? with
    | none => rfl
    | some s => rfl

theorem read_file_of_error {e : FileError} (h : disk.tree.readBytes disk.cwd path = .error e) :
    ((file path).read disk).1 = {} := by
  change (readFile path disk).1 = {}
  unfold readFile Snapshot.read Disk.readText FileTree.readText
  rw [h]
  cases e <;> rfl

/-- The session that is read depends on the bytes of the file alone. -/
theorem read_file_congr (h : ∀ bytes, disk.tree.readBytes disk.cwd path = .ok bytes ↔
    disk'.tree.readBytes disk'.cwd path = .ok bytes) :
    ((file path).read disk).1 = ((file path).read disk').1 := by
  cases hbytes : disk.tree.readBytes disk.cwd path with
  | ok bytes => rw [read_file_of_ok hbytes, read_file_of_ok ((h bytes).1 hbytes)]
  | error e =>
    cases hbytes' : disk'.tree.readBytes disk'.cwd path with
    | ok bytes =>
      rw [(h bytes).2 hbytes'] at hbytes
      cases hbytes
    | error e' => rw [read_file_of_error hbytes, read_file_of_error hbytes']

theorem exists_readBytes (h : ((file path).read disk).1 ≠ {}) :
    ∃ bytes, disk.tree.readBytes disk.cwd path = .ok bytes := by
  cases hbytes : disk.tree.readBytes disk.cwd path with
  | ok bytes => exact ⟨bytes, rfl⟩
  | error e => exact absurd (read_file_of_error hbytes) h

theorem valid_sessionOf (bytes : ByteArray) : (sessionOf bytes).Valid := by
  unfold sessionOf
  cases hdecode : ((String.fromUTF8? bytes).bind Json.parse?).bind SessionState.ofJson? with
  | none => exact SessionState.valid_empty
  | some s =>
    obtain ⟨j, -, hj⟩ := Option.bind_eq_some_iff.1 hdecode
    exact SessionState.valid_of_ofJson? hj

/-- A session that is read can be written. -/
theorem valid_read_file (path : Path) (disk : Disk) : ((file path).read disk).1.Valid := by
  cases hbytes : disk.tree.readBytes disk.cwd path with
  | ok bytes => exact read_file_of_ok hbytes ▸ valid_sessionOf bytes
  | error e => exact read_file_of_error hbytes ▸ SessionState.valid_empty

/-- There is no session in a file that is missing. -/
theorem read_absent (h : disk.has path = false) : ((file path).read disk).1 = {} := by
  obtain ⟨e, hfind⟩ : ∃ e, disk.tree.find disk.cwd path = .error e := by
    unfold Disk.has FileTree.has at h
    cases hfind : disk.tree.find disk.cwd path with
    | error e => exact ⟨e, rfl⟩
    | ok found => simp [hfind, Except.isOk, Except.toBool] at h
  refine read_file_of_error (e := e) ?_
  unfold FileTree.readBytes
  rw [hfind]
  rfl

/-! ## Saving to a session file -/

variable {s : SessionState} {j : Journal Disk}

theorem ends_saveFile (h : Ends (Snapshot.write path s.toJson) j (.ok ()) disk) :
    Ends (saveFile path s) j (.ok ()) disk := by
  refine h.bind fun k hk => ?_
  rw [← hk]
  exact Act.ends_log _

/-- A save ends as the write does that it consists of. -/
theorem ends_write_of_save {o : Except GovernanceError Unit}
    (h : Ends ((file path).save s) j o disk) : Ends (Snapshot.write path s.toJson) j o disk := by
  obtain ⟨written, after, hwrite⟩ := Ends.exists (Snapshot.write path s.toJson) j
  cases written with
  | ok =>
    obtain ⟨rfl, rfl⟩ := h.unique (ends_saveFile hwrite)
    exact hwrite
  | error e =>
    obtain ⟨rfl, rfl⟩ := h.unique hwrite.bind_error
    exact hwrite

theorem read_of_saved (hdisk : j.world.Proper) (hs : s.Valid)
    (h : Ends ((file path).save s) j (.ok ()) disk) : ((file path).read disk).1 = s := by
  have hsession := Snapshot.read_of_readBytes (s.plain_toJson 124) (SessionState.ofJson?_toJson hs)
    (Snapshot.written_spec hdisk (ends_write_of_save h)).2.1
  change (readFile path disk).1 = s
  simp only [readFile, hsession]

/-- However a save ends, it changes no other file. Over a session that is not empty it leaves the new
session if it succeeds, and the old one if it fails. -/
theorem read_of_ends_save {o : Except GovernanceError Unit} (hdisk : j.world.Proper) (hs : s.Valid)
    (hread : ((file path).read j.world).1 ≠ {}) (h : Ends ((file path).save s) j o disk) :
    j.world.Grown (fun q => q = FileTree.follow j.world.cwd path.components) disk ∧
      (((file path).read disk).1 = s ∨
        ((file path).read disk).1 = ((file path).read j.world).1) := by
  have hgrown := Snapshot.grown_of_ends hdisk (ends_write_of_save h)
  refine ⟨hgrown.mono fun q hq => hq.2, ?_⟩
  cases o with
  | ok => exact .inl (read_of_saved hdisk hs h)
  | error e =>
    obtain ⟨bytes, hbytes⟩ := exists_readBytes hread
    refine .inr ?_
    rw [read_file_of_ok hbytes, read_file_of_ok (hgrown.readBytes (fun hq => by cases hq.1) hbytes)]

/-- A disk on which the session file can be written. -/
structure Writable (path : Path) (disk : Disk) : Prop where
  proper : disk.Proper
  writes : ∀ value (j : Journal Disk), j.world = disk →
    ∃ disk', Ends (Snapshot.write path value) j (.ok ()) disk'

theorem file_works (path : Path) : (file path).Works (Writable path) := by
  intro s j hs hdisk
  obtain ⟨disk, hwrite⟩ := hdisk.writes s.toJson j rfl
  obtain ⟨hproper, -, hagain⟩ := Snapshot.written_spec hdisk.proper hwrite
  have hsave : Ends ((file path).save s) j (.ok ()) disk := ends_saveFile hwrite
  exact ⟨disk, hsave, read_of_saved hdisk.proper hs hsave, hproper, hagain⟩

/-- In an empty directory the file can be written. -/
theorem writable_empty : Writable ⟨"session.json"⟩ { tree := .empty } where
  proper := ⟨FileTree.proper_empty, rfl⟩
  writes _ _ hj := Snapshot.ends_in_empty hj _ true

end SessionStore

end AgentGovernance
