-- SUMMARY: Snapshots: what a successful write changes, that it can be repeated, and reading it back.
import AgentGovernance.Proofs.Act
import AgentGovernance.Proofs.FileTree
import AgentGovernance.Proofs.Json.Decode
import AgentGovernance.Proofs.Number.Digits
import AgentGovernance.Snapshot
import Mathlib.Data.List.Nodup
import Mathlib.Data.List.Perm.Subperm

/-!
# Snapshots that are written and read

A write that succeeds creates the directories on the way and puts the file at its place. Nothing else
changes: the temporary file is gone. A document that was written is read as itself, and what could be
written once can be written again.
-/

namespace AgentGovernance

/-- The tree is proper, and the working directory is one of its directories. -/
structure Disk.Proper (d : Disk) : Prop where
  tree : d.tree.Proper
  cwd : d.tree.node? d.cwd = some .directory

namespace Draft

/-! ## Temporary files -/

theorem tempName_injective : Function.Injective tempName := by
  intro a b h
  have hname (n : Nat) : tempName n = ".tmp" ++ padded 6 n := String.append_assoc
  rw [hname, hname, String.append_right_inj] at h
  rw [← digitsValue_padded 6 a, h, digitsValue_padded]

theorem head?_tempName (n : Nat) : (tempName n).toList.head? = some '.' := by
  simp [tempName, String.toList_append]

/-- There is a name for a temporary file that is not taken. -/
theorem freshTemp_spec (t : FileTree) (dir : Place) :
    ∃ n, freshTemp t dir = dir ++ [tempName n] ∧ t.node? (dir ++ [tempName n]) = none := by
  unfold freshTemp
  simp only
  cases hfind : (List.range (t.entries.length + 1)).find? fun n =>
      !(t.node? (dir ++ [tempName n])).isSome with
  | some n =>
    have hfree := List.find?_some hfind
    exact ⟨n, rfl, by simpa using hfree⟩
  | none =>
    -- More names than entries cannot all be taken.
    exfalso
    let names := (List.range (t.entries.length + 1)).map fun n => dir ++ [tempName n]
    have hnodup : names.Nodup := by
      refine List.Nodup.map ?_ List.nodup_range
      intro a b hab
      exact tempName_injective (by simpa using hab)
    have hsubset : names ⊆ t.entries.map (·.1) := by
      intro q hq
      obtain ⟨n, hn, rfl⟩ := List.mem_map.1 hq
      have htaken := List.find?_eq_none.1 hfind n hn
      obtain ⟨node, hnode⟩ := Option.ne_none_iff_exists'.1 (by simpa using htaken)
      exact List.mem_map.2 ⟨_, FileTree.mem_entries_of_node? hnode (by simp), rfl⟩
    have hle := (hnodup.subperm hsubset).length_le
    simp only [names, List.length_map, List.length_range] at hle
    omega

/-! ## Steps -/

variable {d : Draft} {disk disk' : Disk}

/-- The tree with the filled temporary file. -/
def filledTree (d : Draft) (t : FileTree) (dir : Place) : FileTree :=
  (t.put (freshTemp t dir) (.file .empty)).put (freshTemp t dir) (.file d.bytes)

/-- The tree with the file at its place. -/
def placedTree (d : Draft) (t : FileTree) (dir target : Place) : FileTree :=
  ((d.filledTree t dir).prune (freshTemp t dir)).put target (.file d.bytes)

theorem target_of_replaces (h : d.replaces = true) :
    d.target disk = disk.tree.locateFile disk.cwd d.path := by
  unfold target FileTree.locateFile
  cases disk.tree.locate disk.cwd d.path with
  | error e => rfl
  | ok q => simp [h, bind, Except.bind]

/-- A draft goes where a file may go, and only onto nothing if it does not replace. -/
theorem target_eq_ok {q : Place} :
    d.target disk = .ok q ↔ disk.tree.locateFile disk.cwd d.path = .ok q ∧
      (d.replaces = false → disk.tree.node? q = none) := by
  cases hreplaces : d.replaces with
  | true => simp [target_of_replaces hreplaces]
  | false =>
    unfold target FileTree.locateFile
    cases hlocate : disk.tree.locate disk.cwd d.path with
    | error e => simp [bind, Except.bind]
    | ok r =>
      simp only [hreplaces, bind, Except.bind, Bool.false_eq_true, if_false]
      cases hnode : disk.tree.node? r with
      | some n =>
        have htaken : ¬(r = q ∧ disk.tree.node? q = none) := by
          rintro ⟨rfl, hnone⟩
          rw [hnode] at hnone
          cases hnone
        cases n with
        | file bytes => simpa using htaken
        | directory => simp
      | none =>
        cases hwants : FileTree.wantsDirectory d.path with
        | true => simp
        | false =>
          simp only [Option.isSome_none, Bool.false_eq_true, if_false, Except.ok.injEq]
          exact ⟨fun h => ⟨h, fun _ => h ▸ hnode⟩, fun h => h.1⟩

/-- The steps of a draft up to the last one, which is only taken if those before went well. -/
theorem finish_eq (d : Draft) (disk : Disk) :
    d.finish disk = match disk.tree.createDirectories disk.cwd d.directory with
      | (housed, .error e) =>
        (.settled (.error (.sessionPersistence (.directory d.directory e))),
          { disk with tree := housed })
      | (housed, .ok ()) => match housed.find disk.cwd d.directory with
        | .ok (dir, .directory) =>
          d.place (freshTemp housed dir) { disk with tree := d.filledTree housed dir }
        | .ok (_, .file _) => stage.refuse d { disk with tree := housed } .notADirectory
        | .error e => stage.refuse d { disk with tree := housed } e := by
  delta finish advance house Disk.createDirectories
  dsimp only
  rcases disk.tree.createDirectories disk.cwd d.directory with ⟨housed, _ | _⟩
  · rfl
  · delta stage
    dsimp only
    rcases housed.find disk.cwd d.directory with e | ⟨dir, _ | _⟩ <;> rfl

/-- What a draft has to get done, and what comes of it. -/
theorem finish_ok_iff :
    d.finish disk = (.settled (.ok ()), disk') ↔ ∃ housed dir target,
      disk.tree.createDirectories disk.cwd d.directory = (housed, .ok ()) ∧
      housed.find disk.cwd d.directory = .ok (dir, .directory) ∧
      d.target { disk with tree := d.filledTree housed dir } = .ok target ∧
      { disk with tree := d.placedTree housed dir target } = disk' := by
  constructor
  · intro h
    rw [finish_eq] at h
    split at h
    · cases h
    · rename_i housed hcreate
      split at h
      · rename_i dir hfind
        unfold place at h
        split at h
        · rename_i target htarget
          obtain ⟨-, rfl⟩ := Prod.mk.inj h
          exact ⟨housed, dir, target, hcreate, hfind, htarget, rfl⟩
        · cases h
      · cases h
      · cases h
  · rintro ⟨housed, dir, target, hcreate, hfind, htarget, rfl⟩
    simp only [finish_eq, hcreate, hfind, place, htarget]
    rfl

theorem finish_eq_ok (hreplaces : d.replaces = true) :
    d.finish disk = (.settled (.ok ()), disk') ↔ ∃ housed dir target,
      disk.tree.createDirectories disk.cwd d.directory = (housed, .ok ()) ∧
      housed.find disk.cwd d.directory = .ok (dir, .directory) ∧
      (d.filledTree housed dir).locateFile disk.cwd d.path = .ok target ∧
      { disk with tree := d.placedTree housed dir target } = disk' := by
  simp only [finish_ok_iff, target_of_replaces hreplaces]

/-! ## The tree of a finished draft -/

variable {t : FileTree} {dir target : Place}

theorem node?_filledTree (d : Draft) (t : FileTree) (dir q : Place) :
    (d.filledTree t dir).node? q =
      if q = freshTemp t dir then some (.file d.bytes) else t.node? q := by
  obtain ⟨n, htemp, -⟩ := freshTemp_spec t dir
  have hne : freshTemp t dir ≠ [] := by simp [htemp]
  unfold filledTree
  rw [FileTree.node?_put _ hne, FileTree.node?_put _ hne]
  split <;> rfl

theorem proper_filledTree (ht : t.Proper) (hdir : t.node? dir = some .directory) :
    (d.filledTree t dir).Proper := by
  obtain ⟨n, htemp, hfree⟩ := freshTemp_spec t dir
  unfold filledTree
  rw [htemp]
  refine (ht.put hdir (.inr (by simp [hfree]))).put ?_ (.inr ?_)
  · rw [FileTree.node?_put_of_ne _ (by simp), hdir]
  · rw [FileTree.node?_put_self _ (by simp)]
    nofun

theorem keeps_filledTree (d : Draft) (t : FileTree) (dir : Place) :
    t.Keeps (d.filledTree t dir) := by
  intro q hq
  obtain ⟨n, htemp, hfree⟩ := freshTemp_spec t dir
  rw [node?_filledTree, if_neg, hq]
  rintro rfl
  rw [htemp, hfree] at hq
  cases hq

/-- With the temporary file gone, everything stands where it stood. -/
theorem node?_prune_filledTree (ht : t.Proper) (q : Place) :
    ((d.filledTree t dir).prune (freshTemp t dir)).node? q = t.node? q := by
  obtain ⟨n, htemp, hfree⟩ := freshTemp_spec t dir
  have hnone : t.node? (freshTemp t dir) = none := by rw [htemp, hfree]
  rw [FileTree.node?_prune _ (by simp [htemp]), node?_filledTree]
  split
  · rename_i hbelow
    obtain ⟨below, rfl⟩ := hbelow
    by_cases hempty : below = []
    · rw [hempty, List.append_nil, hnone]
    · rw [ht.node?_below (by simp [hnone]) hempty]
  · rename_i hbelow
    rw [if_neg]
    rintro rfl
    exact hbelow (List.prefix_refl _)

theorem node?_placedTree (ht : t.Proper) (htarget : target ≠ []) (q : Place) :
    (d.placedTree t dir target).node? q =
      if q = target then some (.file d.bytes) else t.node? q := by
  unfold placedTree
  rw [FileTree.node?_put _ htarget, node?_prune_filledTree ht]

theorem proper_placedTree (ht : t.Proper) (hdir : t.node? dir = some .directory) {r : Place}
    {s : String} (hr : t.node? r = some .directory) (hs : t.node? (r ++ [s]) ≠ some .directory) :
    (d.placedTree t dir (r ++ [s])).Proper := by
  obtain ⟨n, htemp, -⟩ := freshTemp_spec t dir
  refine ((proper_filledTree ht hdir).prune (by simp [htemp])).put ?_ (.inr ?_)
  · rw [node?_prune_filledTree ht, hr]
  · rwa [node?_prune_filledTree ht]

theorem keeps_placedTree (ht : t.Proper) (htarget : target ≠ [])
    (hfile : t.node? target ≠ some .directory) : t.Keeps (d.placedTree t dir target) := by
  intro q hq
  rw [node?_placedTree ht htarget, if_neg, hq]
  rintro rfl
  exact hfile hq

theorem directory_ne_empty (d : Draft) : d.directory.isEmpty = false := by
  unfold directory
  split
  · split
    · rfl
    · exact Bool.eq_false_iff.2 ‹_›
  · rfl

theorem createDirectories_eq_ok {housed : FileTree} {cwd : Place} :
    t.createDirectories cwd d.directory = (housed, .ok ()) ↔
      d.directory.text.toList.contains (Char.ofNat 0) = false ∧
      t.createAlong cwd d.directory.components = (housed, .ok ()) := by
  unfold FileTree.createDirectories
  rw [directory_ne_empty, if_neg Bool.false_ne_true]
  split <;> simp_all

/-- What a draft did on the way to its place: the directories are there, and the place lies in one of
them. -/
structure Finished (d : Draft) (disk : Disk) (housed : FileTree) (dir target : Place) : Prop where
  created : disk.tree.createDirectories disk.cwd d.directory = (housed, .ok ())
  proper : housed.Proper
  found : housed.find disk.cwd d.directory = .ok (dir, .directory)
  located : (d.filledTree housed dir).locateFile disk.cwd d.path = .ok target
  nested : ∃ r s, target = r ++ [s] ∧ housed.node? r = some .directory
  file : housed.node? target ≠ some .directory

theorem finished_of_ok (hdisk : disk.Proper)
    (h : d.finish disk = (.settled (.ok ()), disk')) : ∃ housed dir target,
      d.Finished disk housed dir target ∧
      { disk with tree := d.placedTree housed dir target } = disk' := by
  obtain ⟨housed, dir, target, hcreate, hfind, htarget, hdisk'⟩ := finish_ok_iff.1 h
  have hlocate := (target_eq_ok.1 htarget).1
  obtain ⟨-, hcreated⟩ := createDirectories_eq_ok.1 hcreate
  have hgrown := FileTree.grownAlong_createAlong disk.tree disk.cwd d.directory.components
  have hproper := hdisk.tree.createAlong hdisk.cwd d.directory.components
  rw [hcreated] at hgrown hproper
  obtain ⟨-, hdir⟩ := FileTree.find_eq_ok.1 hfind
  obtain ⟨-, hwalk, -, hnode⟩ := FileTree.locateFile_eq_ok.1 hlocate
  have hkeeps := keeps_filledTree d housed dir
  have hcwd := hkeeps _ (hgrown.keeps _ hdisk.cwd)
  refine ⟨housed, dir, target, ⟨hcreate, hproper, hfind, hlocate, ?_, ?_⟩, hdisk'⟩
  · obtain hdirectory | ⟨r, s, rfl, hr⟩ := (proper_filledTree hproper hdir).walk hcwd hwalk
    · exact absurd hdirectory hnode
    · refine ⟨r, s, rfl, ?_⟩
      rw [node?_filledTree] at hr
      split at hr
      · cases hr
      · exact hr
  · intro hdirectory
    exact hnode (hkeeps _ hdirectory)

variable {housed : FileTree}

namespace Finished

variable (h : d.Finished disk housed dir target)
include h

theorem target_ne : target ≠ [] := by
  obtain ⟨r, s, rfl, -⟩ := h.nested
  simp

theorem grown : FileTree.GrownAlong disk.cwd d.directory.components disk.tree housed := by
  obtain ⟨-, hcreated⟩ := createDirectories_eq_ok.1 h.created
  have hgrown := FileTree.grownAlong_createAlong disk.tree disk.cwd d.directory.components
  rwa [hcreated] at hgrown

theorem proper_placed : (d.placedTree housed dir target).Proper := by
  obtain ⟨-, hdir⟩ := FileTree.find_eq_ok.1 h.found
  obtain ⟨r, s, rfl, hr⟩ := h.nested
  exact proper_placedTree h.proper hdir hr h.file

theorem keeps : housed.Keeps (d.placedTree housed dir target) :=
  keeps_placedTree h.proper h.target_ne h.file

/-- The path leads to the file that was written. -/
theorem walk_placed :
    (d.placedTree housed dir target).walk disk.cwd d.path.components = .ok target := by
  obtain ⟨-, hwalk, -, -⟩ := FileTree.locateFile_eq_ok.1 h.located
  refine FileTree.walk_of_keeps ?_ hwalk
  intro q hq
  refine h.keeps q ?_
  rw [node?_filledTree] at hq
  split at hq
  · cases hq
  · exact hq

theorem readBytes :
    (d.placedTree housed dir target).readBytes disk.cwd d.path = .ok d.bytes := by
  obtain ⟨husable, -, hplain, -⟩ := FileTree.locateFile_eq_ok.1 h.located
  refine FileTree.readBytes_of_file husable h.walk_placed hplain ?_
  rw [node?_placedTree h.proper h.target_ne, if_pos rfl]

/-- A draft for the same path can be finished where one was finished. -/
theorem again {e : Draft} (hpath : e.path = d.path) (hreplaces : e.replaces = true) :
    ∃ disk'', e.finish { disk with tree := d.placedTree housed dir target } =
      (.settled (.ok ()), disk'') := by
  have hdirectory : e.directory = d.directory := by
    unfold directory
    rw [hpath]
  obtain ⟨hnul, hcreated⟩ := createDirectories_eq_ok.1 h.created
  obtain ⟨husable, -, hplain, -⟩ := FileTree.locateFile_eq_ok.1 h.located
  have hagain : (d.placedTree housed dir target).createDirectories disk.cwd d.directory =
      (d.placedTree housed dir target, .ok ()) :=
    createDirectories_eq_ok.2 ⟨hnul, FileTree.createAlong_again hcreated h.keeps⟩
  have hfound := FileTree.find_directory_of_keeps h.keeps h.found
  refine ⟨_, (finish_eq_ok hreplaces).2 ⟨_, dir, target, hdirectory ▸ hagain,
    hdirectory ▸ hfound, ?_, rfl⟩⟩
  refine FileTree.locateFile_eq_ok.2 ⟨hpath ▸ husable, ?_, hpath ▸ hplain, ?_⟩
  · rw [hpath]
    exact FileTree.walk_of_keeps (keeps_filledTree e _ dir) h.walk_placed
  · rw [node?_filledTree, node?_placedTree h.proper h.target_ne, if_pos rfl]
    split <;> nofun

end Finished

/-- A draft that is finished is read back. -/
theorem readBytes_of_finish (hdisk : disk.Proper)
    (h : d.finish disk = (.settled (.ok ()), disk')) :
    disk'.tree.readBytes disk'.cwd d.path = .ok d.bytes := by
  obtain ⟨housed, dir, target, hfinished, rfl⟩ := finished_of_ok hdisk h
  exact hfinished.readBytes

end Draft

/-! ## Writing and reading -/

namespace Snapshot

open Act (Ends)

variable {path : Path} {value : Json} {j : Journal Disk} {disk : Disk}

theorem ends_writeBytes_ok {bytes : ByteArray} {replaces : Bool} :
    Ends (writeBytes path bytes replaces) j (.ok ()) disk ↔
      (Draft.mk path bytes replaces).finish j.world = (.settled (.ok ()), disk) := by
  unfold Ends writeBytes
  -- With the draft in sight, evaluating it would be tried at every step.
  generalize Draft.mk path bytes replaces = draft
  dsimp only
  cases draft.finish j.world with
  | mk stage result =>
    cases stage with
    | settled outcome => cases outcome <;> simp
    | _ => simp

theorem ends_write_ok :
    Ends (write path value) j (.ok ()) disk ↔
      (Draft.mk path value.pretty.toUTF8 true).finish j.world = (.settled (.ok ()), disk) :=
  ends_writeBytes_ok

theorem readText_of_readBytes {text : String}
    (h : disk.tree.readBytes disk.cwd path = .ok text.toUTF8) : disk.readText path = .ok text := by
  have htext : String.fromUTF8? text.toUTF8 = some text := by
    unfold String.fromUTF8?
    rw [dif_pos (by exact text.isValidUTF8)]
    rfl
  unfold Disk.readText FileTree.readText
  rw [h]
  simp only [bind, Except.bind, htext]

/-- A file that holds the text of a plain value is read as what the value stands for. -/
theorem read_of_readBytes {α : Type} {decode : Json → Option α} {a : α} (hplain : value.Plain 127)
    (hdecode : decode value = some a)
    (h : disk.tree.readBytes disk.cwd path = .ok value.pretty.toUTF8) :
    read decode path disk = .ok (some a) := by
  unfold read
  rw [readText_of_readBytes h]
  simp only [Json.parse?_pretty hplain, Option.bind_some, hdecode]

/-- A value that was read is that of a file. -/
theorem readBytes_of_read {α : Type} {decode : Json → Option α} {a : α}
    (h : read decode path disk = .ok (some a)) :
    ∃ bytes, disk.tree.readBytes disk.cwd path = .ok bytes := by
  obtain ⟨text, htext⟩ : ∃ text, disk.readText path = .ok text := by
    unfold read at h
    split at h
    · cases h
    · cases h
    · exact ⟨_, ‹_›⟩
  unfold Disk.readText FileTree.readText at htext
  cases hbytes : disk.tree.readBytes disk.cwd path with
  | ok bytes => exact ⟨bytes, rfl⟩
  | error e => simp [hbytes, bind, Except.bind] at htext

theorem node?_of_read {α : Type} {decode : Json → Option α} {a : α}
    (h : read decode path disk = .ok (some a)) :
    ∃ bytes, disk.tree.node? (FileTree.follow disk.cwd path.components) = some (.file bytes) := by
  obtain ⟨bytes, hbytes⟩ := readBytes_of_read h
  exact ⟨bytes, FileTree.node?_of_readBytes hbytes⟩

/-- What is read depends on the bytes of the file only. -/
theorem read_congr {α : Type} (decode : Json → Option α) {disk' : Disk}
    (h : disk'.tree.readBytes disk'.cwd path = disk.tree.readBytes disk.cwd path) :
    read decode path disk' = read decode path disk := by
  unfold read Disk.readText FileTree.readText
  rw [h]

/-- A write that succeeds is read back, whether it may replace a file or not. -/
theorem readBytes_of_ends {bytes : ByteArray} {replaces : Bool} (hdisk : j.world.Proper)
    (h : Ends (writeBytes path bytes replaces) j (.ok ()) disk) :
    disk.tree.readBytes disk.cwd path = .ok bytes :=
  Draft.readBytes_of_finish hdisk (ends_writeBytes_ok.1 h)

/-- A write that succeeds leaves a proper disk, on which the file is read as it was written, and on
which other values can be written in its place. -/
theorem written_spec (hdisk : j.world.Proper) (h : Ends (write path value) j (.ok ()) disk) :
    disk.Proper ∧ disk.tree.readBytes disk.cwd path = .ok value.pretty.toUTF8 ∧
      ∀ value' (k : Journal Disk), k.world = disk →
        ∃ disk', Ends (write path value') k (.ok ()) disk' := by
  obtain ⟨housed, dir, target, hfinished, rfl⟩ :=
    Draft.finished_of_ok hdisk (ends_write_ok.1 h)
  refine ⟨⟨hfinished.proper_placed, ?_⟩, readBytes_of_ends hdisk h, ?_⟩
  · exact hfinished.keeps _ (hfinished.grown.keeps _ hdisk.cwd)
  · intro value' k hk
    obtain ⟨disk', hagain⟩ := hfinished.again (e := ⟨path, value'.pretty.toUTF8, true⟩) rfl rfl
    exact ⟨disk', ends_write_ok.2 (hk ▸ hagain)⟩

/-- In an empty directory a file can be written. -/
theorem ends_in_empty (hj : j.world = { tree := .empty }) (bytes : ByteArray) (replaces : Bool) :
    ∃ disk, Ends (writeBytes ⟨"session.json"⟩ bytes replaces) j (.ok ()) disk := by
  have hparent : (Path.mk "session.json").parent? = some ⟨""⟩ := by decide +kernel
  have hdirectory : (Draft.mk ⟨"session.json"⟩ bytes replaces).directory = ⟨"."⟩ := by
    simp only [Draft.directory, hparent]
    rfl
  have husable : FileTree.Usable ⟨"session.json"⟩ := ⟨by decide +kernel, by decide +kernel⟩
  have hplain : FileTree.wantsDirectory ⟨"session.json"⟩ = false := by decide +kernel
  have hhere : (Path.mk ".").components = [.here] := by decide +kernel
  have hfile : (Path.mk "session.json").components = [.name "session.json"] := by decide +kernel
  have hfree : ((Draft.mk ⟨"session.json"⟩ bytes replaces).filledTree .empty []).node?
      ["session.json"] = none := by
    rw [Draft.node?_filledTree, if_neg (by decide +kernel)]
    rfl
  refine ⟨_, ends_writeBytes_ok.2 <| Draft.finish_ok_iff.2
    ⟨.empty, [], ["session.json"], ?_, ?_, ?_, rfl⟩⟩
  · rw [Draft.createDirectories_eq_ok, hj, hdirectory, hhere]
    exact ⟨by decide +kernel, rfl⟩
  · rw [FileTree.find_eq_ok, FileTree.locate_eq_ok, hj, hdirectory, hhere]
    exact ⟨⟨⟨by decide +kernel, by decide +kernel⟩, rfl, nofun⟩, rfl⟩
  · refine Draft.target_eq_ok.2 ⟨?_, fun _ => ?_⟩
    · rw [FileTree.locateFile_eq_ok, hj, hfile]
      refine ⟨husable, ?_, hplain, by simp [hfree]⟩
      rw [FileTree.walk, if_neg (by decide +kernel)]
      rfl
    · rw [hj]
      exact hfree

/-- What a write that succeeds did to the disk: the file stands in a directory at the end of its path,
and otherwise there are new directories at most, on the way to it. -/
structure Written (path : Path) (value : Json) (before after : Disk) : Prop where
  cwd : after.cwd = before.cwd
  proper : after.Proper
  usable : FileTree.Usable path
  walk : after.tree.walk before.cwd path.components =
    .ok (FileTree.follow before.cwd path.components)
  nested : ∃ r s, FileTree.follow before.cwd path.components = r ++ [s] ∧
    after.tree.node? r = some .directory
  file : after.tree.node? (FileTree.follow before.cwd path.components) =
    some (.file value.pretty.toUTF8)
  others : ∀ q, q ≠ FileTree.follow before.cwd path.components →
    after.tree.node? q = before.tree.node? q ∨
    ∃ cs, cs <+: (Draft.mk path value.pretty.toUTF8 true).directory.components ∧
      q = FileTree.follow before.cwd cs

theorem written_of_finish {replaces : Bool} {before after : Disk} (hdisk : before.Proper)
    (h : (Draft.mk path value.pretty.toUTF8 replaces).finish before = (.settled (.ok ()), after)) :
    Written path value before after := by
  obtain ⟨housed, dir, target, hfinished, rfl⟩ := Draft.finished_of_ok hdisk h
  obtain ⟨husable, -⟩ := FileTree.locateFile_eq_ok.1 hfinished.located
  have hwalk := hfinished.walk_placed
  obtain rfl := FileTree.follow_of_walk hwalk
  have hcwd := hfinished.keeps _ (hfinished.grown.keeps _ hdisk.cwd)
  refine ⟨rfl, ⟨hfinished.proper_placed, hcwd⟩, husable, hwalk, ?_, ?_, ?_⟩
  · obtain ⟨r, s, htarget, hr⟩ := hfinished.nested
    exact ⟨r, s, htarget, hfinished.keeps r hr⟩
  · exact (Draft.node?_placedTree hfinished.proper hfinished.target_ne _).trans (if_pos rfl)
  · intro q hq
    have hnode : (Draft.placedTree ⟨path, value.pretty.toUTF8, replaces⟩ housed dir _).node? q =
        housed.node? q :=
      (Draft.node?_placedTree hfinished.proper hfinished.target_ne q).trans (if_neg hq)
    rcases hfinished.grown q with hsame | ⟨-, -, hway⟩
    · exact .inl (hnode.trans hsame)
    · exact .inr hway

theorem written_of_ends {replaces : Bool} (hdisk : j.world.Proper)
    (h : Ends (writeBytes path value.pretty.toUTF8 replaces) j (.ok ()) disk) :
    Written path value j.world disk :=
  written_of_finish hdisk (ends_writeBytes_ok.1 h)

end Snapshot

end AgentGovernance
