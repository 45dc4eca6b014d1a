-- SUMMARY: A directory of documents, each under a name of its own: reading, adding and listing them.
import AgentGovernance.Proofs.Audit.Fingerprint
import AgentGovernance.Proofs.Snapshot.Frame

/-!
# Shelves of documents

A shelf is a directory whose documents are known: one for each stem, and no others. They are read as
they are, a document that is written joins them, directories that are made on the way to the shelf do
not disturb it, and the sorted stems of its files are those of the documents.
-/

namespace AgentGovernance

open Act (Ends)

/-! ## Directories -/

/-- The place that a path leads to from a working directory. -/
def Path.placeFrom (cwd : Place) (p : Path) : Place := FileTree.follow cwd p.components

/-- The path spells a directory, and the way there leads through none in it that is called like a
document. -/
structure Path.Direct (cwd : Place) (dir : Path) : Prop where
  ne_empty : dir.text ≠ ""
  passes : ∀ cs s, cs <+: dir.components → FileTree.follow cwd cs = dir.placeFrom cwd ++ [s] →
    (Path.mk s).extension? ≠ some "json"

/-- A way to a directory that does not lead upwards is direct, unless it starts inside. -/
theorem Path.Upless.direct {dir : Path} {cwd : Place} (h : dir.Upless) (hne : dir.text ≠ "")
    (hcwd : ¬ dir.placeFrom cwd <+: cwd) : dir.Direct cwd := by
  obtain ⟨start, names, hstart, hcomponents⟩ := h.components
  have hshort (p : Place) (cs : List Component) (s : String) (hcs : cs <+: names.map .name) :
      FileTree.follow p cs ≠ FileTree.follow p (names.map .name) ++ [s] := by
    obtain ⟨way, hway, rfl⟩ := List.prefix_map_iff.1 hcs
    rw [FileTree.follow_names, FileTree.follow_names]
    intro heq
    have hlength := congrArg List.length heq
    have hle := hway.length_le
    simp only [List.length_append, List.length_singleton] at hlength
    omega
  refine ⟨hne, fun cs s hcs hfollow => ?_⟩
  have hhere : cs ≠ [] := by
    rintro rfl
    exact hcwd ⟨[s], hfollow.symm⟩
  unfold Path.placeFrom at hfollow
  rw [hcomponents] at hcs hfollow
  rcases hstart with rfl | rfl | rfl
  · exact absurd hfollow (hshort cwd cs s hcs)
  all_goals
    obtain rfl | ⟨rest, rfl, hrest⟩ := List.prefix_cons_iff.1 hcs
    · exact absurd rfl hhere
    · exact absurd hfollow (hshort _ rest s hrest)

/-- The names of the documents in a directory. -/
def FileTree.documentsAt (t : FileTree) (p : Place) : List String :=
  (t.namesAt p).filter fun n => (Path.mk n).extension? == some "json"

/-! ## Files in a directory -/

theorem Path.placeFrom_join (p : Path) {s : String} (hs : IsName s) (cwd : Place) :
    (p.join s).placeFrom cwd = p.placeFrom cwd ++ [s] := by
  unfold placeFrom
  rw [components_join p hs, FileTree.follow_append]
  rfl

theorem Path.components_eq_nil_iff {p : Path} : p.components = [] ↔ p.text = "" := by
  constructor
  · intro hnil
    by_contra hne
    exact components_ne_nil hne hnil
  · intro hempty
    obtain rfl : p = ⟨""⟩ := congrArg Path.mk hempty
    rfl

section Paths

variable {dir : Path} {s : String} (hs : Path.IsName s)
include hs

variable (dir) in
theorem Path.text_join :
    (dir.join s).text = dir.text ++ s ∨ (dir.join s).text = dir.text ++ "/" ++ s := by
  unfold Path.join
  rw [hs.not_isAbsolute, if_neg Bool.false_ne_true]
  split
  · exact .inl rfl
  · exact .inr rfl

theorem FileTree.wantsDirectory_join : FileTree.wantsDirectory (dir.join s) = false := by
  have hlast : (dir.join s).segments.getLast? = some s := by
    by_cases hdir : dir.text = ""
    · have hjoin : dir.join s = ⟨s⟩ := by simp [Path.join, hs.not_isAbsolute, hdir]
      rw [hjoin, Path.segments_of_not_mem hs.noSlash]
      rfl
    · exact Path.getLast?_segments_join hdir hs
  unfold FileTree.wantsDirectory
  rw [hlast]
  simp [hs.ne_empty, hs.ne_dot]

/-- A path to a file in a directory can be used unless there is a zero character on the way. -/
theorem FileTree.usable_join_iff (hnul : Char.ofNat 0 ∉ s.toList) :
    FileTree.Usable (dir.join s) ↔ Char.ofNat 0 ∉ dir.text.toList := by
  have hne := hs.ne_empty
  unfold FileTree.Usable Path.isEmpty
  rcases Path.text_join dir hs with htext | htext <;> simp [htext, hne, hnul]

/-- The directory of a file in a directory is the directory, and the working directory if that has an
empty path. -/
theorem Draft.components_directory_join (bytes : ByteArray) (replaces : Bool) :
    (Draft.mk (dir.join s) bytes replaces).directory.components = dir.components ∨
      dir.components = [] ∧
        (Draft.mk (dir.join s) bytes replaces).directory.components = [.here] := by
  have hcomponents := Path.components_join dir hs
  obtain ⟨parent, hparent⟩ : ∃ parent, (dir.join s).parent? = some parent :=
    Path.exists_parent? (by rw [hcomponents, List.getLast?_concat])
  have hsame : parent.components = dir.components := by
    rw [Path.components_of_parent? hparent, hcomponents, List.dropLast_concat]
  unfold Draft.directory
  simp only [hparent]
  split
  · rename_i hempty
    have hnil : parent.components = [] :=
      Path.components_eq_nil_iff.2 (by simpa [Path.isEmpty] using hempty)
    exact .inr ⟨hsame ▸ hnil, by decide +kernel⟩
  · exact .inl hsame

/-- To create the directory of a file in a directory is to create the directory. -/
theorem Draft.createAlong_directory_join (bytes : ByteArray) (replaces : Bool) (t : FileTree)
    (cwd : Place) :
    t.createAlong cwd (Draft.mk (dir.join s) bytes replaces).directory.components =
      t.createAlong cwd dir.components := by
  rcases components_directory_join hs bytes replaces with hsame | ⟨hnil, hhere⟩
  · rw [hsame]
  · rw [hnil, hhere]
    rfl

theorem Draft.walk_directory_join (bytes : ByteArray) (replaces : Bool) (t : FileTree)
    (cwd : Place) :
    t.walk cwd (Draft.mk (dir.join s) bytes replaces).directory.components =
      t.walk cwd dir.components := by
  rcases components_directory_join hs bytes replaces with hsame | ⟨hnil, hhere⟩
  · rw [hsame]
  · rw [hnil, hhere]
    rfl

/-- The way to the directory of a file in a directory is the way to the directory. -/
theorem Draft.follow_directory_join {bytes : ByteArray} {replaces : Bool} {cs : List Component}
    (hcs : cs <+: (Draft.mk (dir.join s) bytes replaces).directory.components) (cwd : Place) :
    ∃ ds, ds <+: dir.components ∧ FileTree.follow cwd cs = FileTree.follow cwd ds := by
  rcases components_directory_join hs bytes replaces with hsame | ⟨-, hhere⟩
  · exact ⟨cs, hsame ▸ hcs, rfl⟩
  · refine ⟨[], List.nil_prefix, ?_⟩
    rw [hhere] at hcs
    obtain rfl | ⟨rest, rfl, hrest⟩ := List.prefix_cons_iff.1 hcs
    · rfl
    · rw [List.prefix_nil.1 hrest]
      rfl

theorem Draft.nul_not_mem_directory_join (hnul : Char.ofNat 0 ∉ s.toList)
    (hdir : Char.ofNat 0 ∉ dir.text.toList) (bytes : ByteArray) (replaces : Bool) :
    Char.ofNat 0 ∉ (Draft.mk (dir.join s) bytes replaces).directory.text.toList := by
  have hpath : Char.ofNat 0 ∉ (dir.join s).text.toList := by
    rcases Path.text_join dir hs with htext | htext <;> simp [htext, hnul, hdir]
  unfold Draft.directory
  split
  · rename_i parent hparent
    split
    · decide
    · intro hmem
      exact hpath (Path.mem_text_of_parent? hparent (by decide) hmem)
  · decide

end Paths

/-! ## Adding a document -/

theorem Disk.createAlong_of_createDirectories {dir : Path} {disk : Disk}
    (h : (disk.createDirectories dir).2 = .ok ()) :
    Char.ofNat 0 ∉ dir.text.toList ∧
      ∃ housed, disk.tree.createAlong disk.cwd dir.components = (housed, .ok ()) := by
  change (disk.tree.createDirectories disk.cwd dir).2 = .ok () at h
  unfold FileTree.createDirectories at h
  split at h
  · rename_i hempty
    have htext : dir.text = "" := by simpa [Path.isEmpty] using hempty
    rw [Path.components_eq_nil_iff.2 htext, htext]
    exact ⟨by simp, disk.tree, rfl⟩
  · split at h
    · cases h
    · rename_i hnul
      exact ⟨by simpa using hnul, _, Prod.ext rfl h⟩

/-- The name of a document that does not start with a dot is no name of a temporary file. -/
theorem Draft.tempName_ne_document {stem : String} (hne : stem ≠ "")
    (hvisible : stem.toList.head? ≠ some '.') (n : Nat) : tempName n ≠ stem ++ ".json" := by
  intro heq
  have hhead := head?_tempName n
  rw [heq, String.toList_append] at hhead
  cases hchars : stem.toList with
  | nil => exact hne (String.toList_eq_nil_iff.1 hchars)
  | cons c cs =>
    rw [hchars] at hhead hvisible
    exact hvisible hhead

section Adding

variable {dir : Path} {stem : String} {disk : Disk}

/-- Neither a temporary file nor a directory that is made on the way takes the place of a document. -/
theorem Draft.node?_filledTree_document {housed : FileTree} (hstem : IsStem stem)
    (hvisible : stem.toList.head? ≠ some '.')
    (habsent : disk.tree.node? (dir.placeFrom disk.cwd ++ [stem ++ ".json"]) = none)
    (hway : ∀ cs, cs <+: dir.components →
      FileTree.follow disk.cwd cs ≠ dir.placeFrom disk.cwd ++ [stem ++ ".json"])
    (hgrown : FileTree.GrownAlong disk.cwd dir.components disk.tree housed) (d : Draft) :
    (d.filledTree housed (dir.placeFrom disk.cwd)).node?
      (dir.placeFrom disk.cwd ++ [stem ++ ".json"]) = none := by
  obtain ⟨n, htemp, -⟩ := freshTemp_spec housed (dir.placeFrom disk.cwd)
  rw [node?_filledTree, htemp, if_neg]
  · rcases hgrown (dir.placeFrom disk.cwd ++ [stem ++ ".json"]) with hsame | ⟨-, -, cs, hcs, hq⟩
    · exact hsame.trans habsent
    · exact absurd hq.symm (hway cs hcs)
  · intro heq
    exact tempName_ne_document hstem.ne_empty hvisible n (by simpa using heq.symm)

/-- A document can be added to a directory that can be created, under a name that the directory takes
and that is neither that of a temporary file nor taken, now or by a directory on the way. -/
theorem Draft.exists_finish_document (hdisk : disk.Proper) (hstem : IsStem stem)
    (hvisible : stem.toList.head? ≠ some '.')
    (hcreate : (disk.createDirectories dir).2 = .ok ())
    (habsent : disk.tree.node? (dir.placeFrom disk.cwd ++ [stem ++ ".json"]) = none)
    (hway : ∀ cs, cs <+: dir.components →
      FileTree.follow disk.cwd cs ≠ dir.placeFrom disk.cwd ++ [stem ++ ".json"])
    (bytes : ByteArray) :
    ∃ disk', (Draft.mk (dir.join (stem ++ ".json")) bytes false).finish disk =
      (.settled (.ok ()), disk') := by
  obtain ⟨hdirNul, housed, hcreated⟩ := Disk.createAlong_of_createDirectories hcreate
  have hnul : Char.ofNat 0 ∉ (stem ++ ".json").toList := by simp [hstem.noNul]
  have hdraftNul := nul_not_mem_directory_join hstem.isName hnul hdirNul bytes false
  obtain ⟨hwalk, hdir⟩ := FileTree.walk_of_createAlong hdisk.tree hdisk.cwd hcreated
  have hgrown := FileTree.grownAlong_createAlong disk.tree disk.cwd dir.components
  rw [hcreated] at hgrown
  have hfree := node?_filledTree_document hstem hvisible habsent hway hgrown
    ⟨dir.join (stem ++ ".json"), bytes, false⟩
  refine ⟨_, finish_ok_iff.2 ⟨housed, dir.placeFrom disk.cwd,
    dir.placeFrom disk.cwd ++ [stem ++ ".json"], ?_, ?_, target_eq_ok.2 ⟨?_, fun _ => hfree⟩, rfl⟩⟩
  · refine createDirectories_eq_ok.2 ⟨by simpa using hdraftNul, ?_⟩
    rw [createAlong_directory_join hstem.isName, hcreated]
  · refine FileTree.find_eq_ok.2 ⟨FileTree.locate_eq_ok.2
      ⟨⟨directory_ne_empty _, by simpa using hdraftNul⟩, ?_, ?_⟩, hdir⟩
    · rw [walk_directory_join hstem.isName]
      exact hwalk
    · intro _ content hfile
      rw [Path.placeFrom, hdir] at hfile
      cases hfile
  · have hkeeps := keeps_filledTree ⟨dir.join (stem ++ ".json"), bytes, false⟩ housed
      (dir.placeFrom disk.cwd)
    refine FileTree.locateFile_eq_ok.2 ⟨(FileTree.usable_join_iff hstem.isName hnul).2 hdirNul, ?_,
      FileTree.wantsDirectory_join hstem.isName, by rw [hfree]; nofun⟩
    rw [Path.components_join dir hstem.isName]
    exact FileTree.walk_concat (FileTree.walk_of_keeps hkeeps hwalk) (hkeeps _ hdir) hstem.short

end Adding

/-- A way to a directory that is missing is direct if it does not lead upwards. -/
theorem Path.Upless.direct_of_absent {dir : Path} {disk : Disk} (h : dir.Upless)
    (hdisk : disk.Proper) (habsent : disk.tree.node? (dir.placeFrom disk.cwd) = none) :
    dir.Direct disk.cwd := by
  refine h.direct ?_ ?_
  · intro hempty
    have hhere : dir.placeFrom disk.cwd = disk.cwd := by
      unfold placeFrom
      rw [components_eq_nil_iff.2 hempty]
      rfl
    rw [hhere, hdisk.cwd] at habsent
    cases habsent
  · rintro ⟨rest, hrest⟩
    have hcwd := hdisk.cwd
    rw [← hrest] at hcwd
    cases rest with
    | nil => simp [habsent] at hcwd
    | cons s rest =>
      rw [hdisk.tree.node?_below (by simp [habsent]) (by simp)] at hcwd
      cases hcwd

/-- A directory that a document was written to can be entered. -/
theorem Snapshot.Written.find_directory {dir : Path} {stem : String} {disk disk' : Disk}
    {value : Json} (h : Written (dir.join (stem ++ ".json")) value disk disk')
    (hstem : IsStem stem) (hne : dir.text ≠ "") :
    disk'.tree.find disk.cwd dir = .ok (dir.placeFrom disk.cwd, .directory) := by
  have hwalk := h.walk
  rw [Path.components_join dir hstem.isName] at hwalk
  obtain ⟨hwalk, -⟩ := FileTree.walk_of_concat hwalk
  have hdirectory : disk'.tree.node? (dir.placeFrom disk.cwd) = some .directory := by
    obtain ⟨p, s, hp, hnode⟩ := h.nested
    rw [show FileTree.follow disk.cwd _ = dir.placeFrom disk.cwd ++ [stem ++ ".json"] from
      Path.placeFrom_join dir hstem.isName disk.cwd] at hp
    obtain ⟨rfl, -⟩ := List.append_inj' hp rfl
    exact hnode
  have husable := (FileTree.usable_join_iff hstem.isName (by simp [hstem.noNul])).1 h.usable
  exact FileTree.find_eq_ok.2 ⟨FileTree.locate_eq_ok.2
    ⟨⟨by simpa [Path.isEmpty] using hne, by simpa using husable⟩, hwalk, by simp [hdirectory]⟩,
    hdirectory⟩

/-- A directory that can be entered need not be created. -/
theorem Disk.createDirectories_of_find {dir : Path} {disk : Disk} {p : Place}
    (h : disk.tree.find disk.cwd dir = .ok (p, .directory)) :
    (disk.createDirectories dir).2 = .ok () := by
  obtain ⟨hlocate, hnode⟩ := FileTree.find_eq_ok.1 h
  obtain ⟨⟨hne, hnul⟩, hwalk, -⟩ := FileTree.locate_eq_ok.1 hlocate
  have hagain := FileTree.createAlong_of_walk hwalk hnode
  change (disk.tree.createDirectories disk.cwd dir).2 = .ok ()
  unfold FileTree.createDirectories
  rw [hne, hnul, hagain]
  rfl

/-! ## Shelves -/

/-- The directory holds the documents, each under its stem, and no others. Without documents it may be
missing. -/
structure Shelf (dir : Path) (docs : List (String × ByteArray)) (disk : Disk) : Prop where
  direct : dir.Direct disk.cwd
  proper : disk.Proper
  stems : ∀ {stem bytes}, (stem, bytes) ∈ docs → IsStem stem
  nodup : (docs.map (·.1)).Nodup
  notFile : ∀ bytes, disk.tree.node? (dir.placeFrom disk.cwd) ≠ some (.file bytes)
  reached : docs ≠ [] →
    disk.tree.find disk.cwd dir = .ok (dir.placeFrom disk.cwd, .directory)
  files : ∀ {stem bytes}, (stem, bytes) ∈ docs →
    disk.tree.node? (dir.placeFrom disk.cwd ++ [stem ++ ".json"]) = some (.file bytes)
  only : ∀ {s n}, (Path.mk s).extension? = some "json" →
    disk.tree.node? (dir.placeFrom disk.cwd ++ [s]) = some n →
    ∃ stem bytes, (stem, bytes) ∈ docs ∧ s = stem ++ ".json"

namespace Shelf

variable {dir : Path} {docs : List (String × ByteArray)} {disk disk' : Disk} {stem : String}
  {bytes : ByteArray}

/-- An absent directory is a shelf without documents. -/
theorem of_absent (hdirect : dir.Direct disk.cwd) (hdisk : disk.Proper)
    (habsent : disk.tree.node? (dir.placeFrom disk.cwd) = none) : Shelf dir [] disk where
  direct := hdirect
  proper := hdisk
  stems := nofun
  nodup := List.nodup_nil
  notFile := by simp [habsent]
  reached h := absurd rfl h
  files := nofun
  only _ hn := by
    rw [hdisk.tree.node?_below (by simp [habsent]) (by simp)] at hn
    cases hn

/-! ### Reading -/

theorem readBytes_kept (h : Shelf dir docs disk) (hdoc : (stem, bytes) ∈ docs) :
    disk.tree.readBytes disk.cwd (dir.join (stem ++ ".json")) = .ok bytes := by
  have hstem := h.stems hdoc
  obtain ⟨hlocate, hdirectory⟩ := FileTree.find_eq_ok.1 (h.reached (List.ne_nil_of_mem hdoc))
  obtain ⟨husable, hwalk, -⟩ := FileTree.locate_eq_ok.1 hlocate
  refine FileTree.readBytes_of_file ?_ ?_ (FileTree.wantsDirectory_join hstem.isName)
    (h.files hdoc)
  · exact (FileTree.usable_join_iff hstem.isName (by simp [hstem.noNul])).2 (by simpa using husable.2)
  · rw [Path.components_join dir hstem.isName]
    exact FileTree.walk_concat hwalk hdirectory hstem.short

/-- A file that can be read is one of the documents. -/
theorem readBytes_eq_ok_iff (h : Shelf dir docs disk) (hstem : IsStem stem) :
    disk.tree.readBytes disk.cwd (dir.join (stem ++ ".json")) = .ok bytes ↔
      (stem, bytes) ∈ docs := by
  constructor
  · intro hread
    have hnode := FileTree.node?_of_readBytes hread
    rw [Path.components_join dir hstem.isName, FileTree.follow_append] at hnode
    obtain ⟨stem', bytes', hdoc, hname⟩ := h.only hstem.extension? hnode
    obtain rfl : stem = stem' := by simpa using hname
    rw [h.readBytes_kept hdoc] at hread
    cases hread
    exact hdoc
  · exact h.readBytes_kept

/-! ### Writing -/

/-- A document that is written joins those that are there. -/
theorem written (h : Shelf dir docs disk) {value : Json} (hstem : IsStem stem)
    (hfresh : stem ∉ docs.map (·.1))
    (hwritten : Snapshot.Written (dir.join (stem ++ ".json")) value disk disk') :
    Shelf dir (docs ++ [(stem, value.pretty.toUTF8)]) disk' := by
  obtain ⟨tree, cwd⟩ := disk'
  obtain rfl : cwd = disk.cwd := hwritten.cwd
  have hplace : FileTree.follow disk.cwd (dir.join (stem ++ ".json")).components =
      dir.placeFrom disk.cwd ++ [stem ++ ".json"] := Path.placeFrom_join dir hstem.isName disk.cwd
  have hfind := hwritten.find_directory hstem h.direct.ne_empty
  have hdirectory := (FileTree.find_eq_ok.1 hfind).2
  have hfile := hwritten.file
  rw [hplace] at hfile
  -- No directory is created under the name of a document, so the others stay what they are.
  have hother (s : String) (hjson : (Path.mk s).extension? = some "json")
      (hs : s ≠ stem ++ ".json") :
      tree.node? (dir.placeFrom disk.cwd ++ [s]) =
        disk.tree.node? (dir.placeFrom disk.cwd ++ [s]) := by
    rcases hwritten.others (dir.placeFrom disk.cwd ++ [s]) (by simp [hplace, hs]) with
      hsame | ⟨cs, hcs, hq⟩
    · exact hsame
    · obtain ⟨ds, hds, hfollow⟩ := Draft.follow_directory_join hstem.isName hcs disk.cwd
      exact absurd hjson (h.direct.passes ds s hds (hq.trans hfollow).symm)
  refine ⟨h.direct, hwritten.proper, ?_, ?_, by simp [hdirectory], fun _ => hfind, ?_, ?_⟩
  · intro stem' bytes' hdoc
    rcases List.mem_append.1 hdoc with hold | hnew
    · exact h.stems hold
    · cases List.mem_singleton.1 hnew
      exact hstem
  · rw [List.map_append, List.map_singleton, ← List.concat_eq_append]
    exact h.nodup.concat hfresh
  · intro stem' bytes' hdoc
    rcases List.mem_append.1 hdoc with hold | hnew
    · have hne : stem' ≠ stem := by
        rintro rfl
        exact hfresh (List.mem_map_of_mem hold)
      exact (hother _ (h.stems hold).extension? (by simpa using hne)).trans (h.files hold)
    · cases List.mem_singleton.1 hnew
      exact hfile
  · intro s n hjson hn
    by_cases hs : s = stem ++ ".json"
    · exact ⟨_, _, List.mem_append_right _ (List.mem_singleton.2 rfl), hs⟩
    · obtain ⟨stem', bytes', hdoc, hname⟩ := h.only hjson ((hother s hjson hs).symm.trans hn)
      exact ⟨stem', bytes', List.mem_append_left _ hdoc, hname⟩

/-- Directories that are made on the way leave a shelf as it is. -/
theorem grownAlong (h : Shelf dir docs disk) (hcwd : disk'.cwd = disk.cwd) (hdisk' : disk'.Proper)
    (hgrown : FileTree.GrownAlong disk.cwd dir.components disk.tree disk'.tree) :
    Shelf dir docs disk' := by
  obtain ⟨tree, cwd⟩ := disk'
  obtain rfl : cwd = disk.cwd := hcwd
  have hdocument (s : String) (hjson : (Path.mk s).extension? = some "json") :
      tree.node? (dir.placeFrom disk.cwd ++ [s]) =
        disk.tree.node? (dir.placeFrom disk.cwd ++ [s]) := by
    rcases hgrown (dir.placeFrom disk.cwd ++ [s]) with hsame | ⟨-, -, cs, hcs, hq⟩
    · exact hsame
    · exact absurd hjson (h.direct.passes cs s hcs hq.symm)
  refine ⟨h.direct, hdisk', h.stems, h.nodup, ?_, ?_, ?_, ?_⟩
  · intro bytes hfile
    rcases hgrown (dir.placeFrom disk.cwd) with hsame | ⟨-, hdirectory, -⟩
    · exact h.notFile bytes (hsame.symm.trans hfile)
    · rw [hdirectory] at hfile
      cases hfile
  · intro hne
    exact FileTree.find_directory_of_keeps hgrown.keeps (h.reached hne)
  · intro stem bytes hdoc
    exact (hdocument _ (h.stems hdoc).extension?).trans (h.files hdoc)
  · intro s n hjson hn
    exact h.only hjson ((hdocument s hjson).symm.trans hn)

/-! ### Listing -/

theorem documentsAt_perm (h : Shelf dir docs disk) :
    (disk.tree.documentsAt (dir.placeFrom disk.cwd)).Perm
      (docs.map fun doc => doc.1 ++ ".json") := by
  have hnodup : (docs.map fun doc => doc.1 ++ ".json").Nodup := by
    have hnames := h.nodup.map (f := fun s : String => s ++ ".json") fun a b hab => by simpa using hab
    simpa [Function.comp_def] using hnames
  refine (List.perm_ext_iff_of_nodup ((h.proper.tree.nodup_namesAt _).filter _) hnodup).2
    fun s => ?_
  rw [List.mem_filter, FileTree.mem_namesAt_iff, List.mem_map, beq_iff_eq]
  constructor
  · rintro ⟨⟨n, hn⟩, hjson⟩
    obtain ⟨stem, bytes, hdoc, hs⟩ := h.only hjson hn
    exact ⟨_, hdoc, hs.symm⟩
  · rintro ⟨⟨stem, bytes⟩, hdoc, rfl⟩
    exact ⟨⟨_, h.files hdoc⟩, (h.stems hdoc).extension?⟩

/-- The stems of the files are those of the documents. -/
theorem jsonStems_perm (h : Shelf dir docs disk) :
    ∃ stems, jsonStems dir disk = .ok stems ∧ stems.Perm (docs.map (·.1)) := by
  unfold jsonStems Disk.has FileTree.has Disk.list FileTree.list
  cases hfind : disk.tree.find disk.cwd dir with
  | error e =>
    have hnil : docs = [] := by
      by_contra hne
      rw [h.reached hne] at hfind
      cases hfind
    exact ⟨[], rfl, by simp [hnil]⟩
  | ok found =>
    obtain ⟨place, n⟩ := found
    obtain ⟨hlocate, hnode⟩ := FileTree.find_eq_ok.1 hfind
    obtain ⟨-, hwalk, -⟩ := FileTree.locate_eq_ok.1 hlocate
    obtain rfl := FileTree.follow_of_walk hwalk
    cases n with
    | file bytes => exact absurd hnode (h.notFile bytes)
    | directory =>
      refine ⟨_, rfl, (List.mergeSort_perm _ _).trans ?_⟩
      refine (h.documentsAt_perm.filterMap fun n => (Path.mk n).stem?).trans (.of_eq ?_)
      calc (docs.map fun doc => doc.1 ++ ".json").filterMap (fun n => (Path.mk n).stem?)
          = docs.filterMap fun doc => (Path.mk (doc.1 ++ ".json")).stem? := List.filterMap_map
        _ = docs.filterMap fun doc => some doc.1 :=
            List.filterMap_congr fun doc hdoc => (h.stems hdoc).stem?
        _ = docs.map (·.1) := by simp

end Shelf

/-- The stem of an entry that is called like a document is listed, whatever the entry is. -/
theorem mem_jsonStems {dir : Path} {disk : Disk} {p : Place}
    (hfind : disk.tree.find disk.cwd dir = .ok (p, .directory)) {s stem : String} {n : Node}
    (hn : disk.tree.node? (p ++ [s]) = some n) (hjson : (Path.mk s).extension? = some "json")
    (hstem : (Path.mk s).stem? = some stem) :
    ∃ stems, jsonStems dir disk = .ok stems ∧ stem ∈ stems := by
  unfold jsonStems Disk.has FileTree.has Disk.list FileTree.list
  rw [hfind]
  refine ⟨_, rfl, ?_⟩
  rw [List.mem_mergeSort, List.mem_filterMap]
  exact ⟨s, List.mem_filter.2 ⟨FileTree.mem_namesAt_iff.2 ⟨n, hn⟩, beq_iff_eq.2 hjson⟩, hstem⟩

/-- The stems of a directory come in order. -/
theorem jsonStems_sorted {dir : Path} {disk : Disk} {stems : List String}
    (h : jsonStems dir disk = .ok stems) : stems.Pairwise (· ≤ ·) := by
  unfold jsonStems at h
  split at h
  · cases h
    exact List.Pairwise.nil
  · split at h
    · cases h
    · cases h
      have hsorted (names : List String) : names.mergeSort.Pairwise fun a b => decide (a ≤ b) :=
        List.pairwise_mergeSort (fun a b c => by simpa using String.le_trans)
          (fun a b => by simpa using String.le_total a b) names
      simpa using hsorted _

end AgentGovernance
