-- SUMMARY: A directory of escalation records: what is read from it, written to it and listed.
import AgentGovernance.Proofs.Remediation.Document
import AgentGovernance.Proofs.Snapshot.Shelf
import AgentGovernance.Remediation.Escalation

/-!
# Archives of escalations

The documents of a channel are one for each record and no others. Such an archive answers for every
fingerprint with its record or with none, a record that is written joins those that are there, and
the list of the records has each of them once. That outlasts whatever does not touch the directory
nor the way to it.
-/

namespace AgentGovernance

open Act (Ends)
open EscalationChannel (recordPath)

/-! ## Directories -/

/-- Nothing happened to the directory or on the way to it. -/
structure Disk.Undisturbed (dir : Path) (disk disk' : Disk) : Prop where
  cwd : disk'.cwd = disk.cwd
  proper : disk.Proper → disk'.Proper
  reached : ∀ q, disk.tree.find disk.cwd dir = .ok (q, .directory) →
    disk'.tree.find disk'.cwd dir = .ok (q, .directory)
  same : ∀ q, dir.placeFrom disk.cwd <+: q → disk'.tree.node? q = disk.tree.node? q

theorem Disk.undisturbed_refl (dir : Path) (disk : Disk) : disk.Undisturbed dir disk where
  cwd := rfl
  proper := id
  reached _ := id
  same _ _ := rfl

/-! ## Archives -/

/-- Records that can be kept together: each in range and under the fingerprint of its finding, and no
two under one. -/
structure Register (records : List EscalationRecord) : Prop where
  valid : ∀ r ∈ records, r.Valid
  own : ∀ r ∈ records, r.fingerprint = r.finding.fingerprint
  nodup : (records.map (·.fingerprint)).Nodup

theorem Register.isStem {records : List EscalationRecord} (h : Register records)
    {r : EscalationRecord} (hr : r ∈ records) : IsStem r.fingerprint :=
  h.own r hr ▸ r.finding.isStem_fingerprint

/-- The directory holds a document for each of the records and no other. It is missing as long as there
are none. -/
structure Archive (dir : Path) (records : List EscalationRecord) (disk : Disk) : Prop where
  direct : dir.Direct disk.cwd
  register : Register records
  proper : disk.Proper
  absent : records = [] → disk.tree.node? (dir.placeFrom disk.cwd) = none
  reached : records ≠ [] →
    disk.tree.find disk.cwd dir = .ok (dir.placeFrom disk.cwd, .directory)
  files : ∀ r ∈ records, disk.tree.node? (dir.placeFrom disk.cwd ++ [r.fingerprint ++ ".json"]) =
    some (.file r.toJson.pretty.toUTF8)
  only : ∀ s n, (Path.mk s).extension? = some "json" →
    disk.tree.node? (dir.placeFrom disk.cwd ++ [s]) = some n →
    ∃ r ∈ records, s = r.fingerprint ++ ".json"

namespace Archive

variable {dir : Path} {records : List EscalationRecord} {disk disk' : Disk}

/-- The documents of records. -/
def docs (records : List EscalationRecord) : List (String × ByteArray) :=
  records.map fun r => (r.fingerprint, r.toJson.pretty.toUTF8)

@[simp] theorem mem_docs_iff {stem : String} {bytes : ByteArray} :
    (stem, bytes) ∈ docs records ↔
      ∃ r ∈ records, r.fingerprint = stem ∧ r.toJson.pretty.toUTF8 = bytes := by
  simp [docs]

@[simp] theorem map_docs (records : List EscalationRecord) :
    (docs records).map (·.1) = records.map (·.fingerprint) := by
  simp [docs]

/-- An archive is a shelf of the documents of its records. -/
theorem shelf (h : Archive dir records disk) : Shelf dir (docs records) disk where
  direct := h.direct
  proper := h.proper
  stems hdoc := by
    obtain ⟨r, hr, rfl, -⟩ := mem_docs_iff.1 hdoc
    exact h.register.isStem hr
  nodup := map_docs records ▸ h.register.nodup
  notFile := by
    intro bytes hfile
    by_cases hnil : records = []
    · rw [h.absent hnil] at hfile
      cases hfile
    · rw [(FileTree.find_eq_ok.1 (h.reached hnil)).2] at hfile
      cases hfile
  reached hne := h.reached (by simpa [docs] using hne)
  files hdoc := by
    obtain ⟨r, hr, rfl, rfl⟩ := mem_docs_iff.1 hdoc
    exact h.files r hr
  only hjson hn := by
    obtain ⟨r, hr, hs⟩ := h.only _ _ hjson hn
    exact ⟨_, _, mem_docs_iff.2 ⟨r, hr, rfl, rfl⟩, hs⟩

theorem undisturbed (h : Archive dir records disk) (hsame : disk.Undisturbed dir disk') :
    Archive dir records disk' := by
  obtain ⟨tree, cwd⟩ := disk
  obtain ⟨tree', cwd'⟩ := disk'
  obtain rfl : cwd' = cwd := hsame.cwd
  refine ⟨h.direct, h.register, hsame.proper h.proper, ?_, ?_, ?_, ?_⟩
  · intro hnil
    exact (hsame.same _ (List.prefix_refl _)).trans (h.absent hnil)
  · intro hne
    exact hsame.reached _ (h.reached hne)
  · intro r hr
    exact (hsame.same _ (List.prefix_append ..)).trans (h.files r hr)
  · intro s n hs hn
    exact h.only s n hs ((hsame.same _ (List.prefix_append ..)).symm.trans hn)

/-! ## Reading -/

theorem readBytes_kept (h : Archive dir records disk) {r : EscalationRecord} (hr : r ∈ records) :
    disk.tree.readBytes disk.cwd (recordPath dir r.fingerprint) =
      .ok r.toJson.pretty.toUTF8 :=
  h.shelf.readBytes_kept (mem_docs_iff.2 ⟨r, hr, rfl, rfl⟩)

/-- A record that is kept is read as it is. -/
theorem read_kept (h : Archive dir records disk) {r : EscalationRecord} (hr : r ∈ records) :
    Snapshot.read EscalationRecord.ofJson? (recordPath dir r.fingerprint) disk = .ok (some r) := by
  have hvalid := h.register.valid r hr
  exact Snapshot.read_of_readBytes (EscalationRecord.plain_toJson hvalid 124)
    (EscalationRecord.ofJson?_toJson hvalid) (h.readBytes_kept hr)

/-- No record is read for another fingerprint. -/
theorem read_missing (h : Archive dir records disk) {fingerprint : String}
    (hstem : IsStem fingerprint) (hmissing : ∀ r ∈ records, r.fingerprint ≠ fingerprint)
    (r : EscalationRecord) :
    Snapshot.read EscalationRecord.ofJson? (recordPath dir fingerprint) disk ≠ .ok (some r) := by
  intro hread
  obtain ⟨bytes, hbytes⟩ := Snapshot.node?_of_read hread
  rw [recordPath, Path.components_join dir hstem.isName, FileTree.follow_append] at hbytes
  obtain ⟨r', hr', hname⟩ := h.only _ _ hstem.extension? hbytes
  exact hmissing r' hr' (by simpa using hname.symm)

/-- What is read for a finding is the record under its fingerprint. -/
theorem read_eq_ok_some_iff (h : Archive dir records disk) (f : Finding) (record : EscalationRecord) :
    Snapshot.read EscalationRecord.ofJson? (recordPath dir f.fingerprint) disk =
      .ok (some record) ↔ record ∈ records ∧ record.fingerprint = f.fingerprint := by
  constructor
  · intro hread
    by_cases hknown : ∃ r ∈ records, r.fingerprint = f.fingerprint
    · obtain ⟨r, hr, hsame⟩ := hknown
      rw [← hsame, h.read_kept hr] at hread
      cases hread
      exact ⟨hr, hsame⟩
    · exact absurd hread
        (h.read_missing f.isStem_fingerprint (fun r hr hsame => hknown ⟨r, hr, hsame⟩) record)
  · rintro ⟨hrecord, hsame⟩
    rw [← hsame, h.read_kept hrecord]

/-- A file that can be read is that of a record. -/
theorem readBytes_eq_ok_iff (h : Archive dir records disk) {fingerprint : String}
    (hstem : IsStem fingerprint) {bytes : ByteArray} :
    disk.tree.readBytes disk.cwd (recordPath dir fingerprint) = .ok bytes ↔
      ∃ r ∈ records, r.fingerprint = fingerprint ∧ r.toJson.pretty.toUTF8 = bytes := by
  exact (h.shelf.readBytes_eq_ok_iff hstem).trans mem_docs_iff

/-! ## Writing -/

/-- A record that is written joins those that are there. -/
theorem written (h : Archive dir records disk) {r : EscalationRecord} (hvalid : r.Valid)
    (hown : r.fingerprint = r.finding.fingerprint)
    (hfresh : ∀ r' ∈ records, r'.fingerprint ≠ r.fingerprint)
    (hwritten : Snapshot.Written (recordPath dir r.fingerprint) r.toJson disk disk') :
    Archive dir (records ++ [r]) disk' := by
  have hstem : IsStem r.fingerprint := hown ▸ r.finding.isStem_fingerprint
  have hshelf := h.shelf.written hstem (by simpa using hfresh) hwritten
  have hdocs : docs records ++ [(r.fingerprint, r.toJson.pretty.toUTF8)] = docs (records ++ [r]) := by
    simp [docs]
  rw [hdocs] at hshelf
  refine ⟨hshelf.direct, ⟨?_, ?_, map_docs _ ▸ hshelf.nodup⟩, hshelf.proper, by simp,
    fun _ => hshelf.reached (by simp [docs]), fun r' hr' => ?_, fun s n hjson hn => ?_⟩
  · simpa [or_imp, forall_and] using ⟨h.register.valid, hvalid⟩
  · simpa [or_imp, forall_and] using ⟨h.register.own, hown⟩
  · exact hshelf.files (mem_docs_iff.2 ⟨r', hr', rfl, rfl⟩)
  · obtain ⟨stem, bytes, hdoc, hs⟩ := hshelf.only hjson hn
    obtain ⟨r', hr', rfl, -⟩ := mem_docs_iff.1 hdoc
    exact ⟨r', hr', hs⟩

/-! ## Listing -/

theorem documentsAt_perm (h : Archive dir records disk) :
    (disk.tree.documentsAt (dir.placeFrom disk.cwd)).Perm
      (records.map fun r => r.fingerprint ++ ".json") := by
  refine h.shelf.documentsAt_perm.trans (.of_eq ?_)
  rw [docs, List.map_map]
  rfl

theorem jsonStems_perm (h : Archive dir records disk) :
    ∃ stems, jsonStems dir disk = .ok stems ∧ stems.Perm (records.map (·.fingerprint)) :=
  map_docs records ▸ h.shelf.jsonStems_perm

private theorem mapM_eq_ok {α β ε : Type} {f : α → Except ε β} {g : α → β} {xs : List α}
    (h : ∀ x ∈ xs, f x = .ok (g x)) : xs.mapM f = .ok (xs.map g) := by
  induction xs with
  | nil => rfl
  | cons x xs ih =>
    obtain ⟨hx, hxs⟩ := List.forall_mem_cons.1 h
    rw [List.mapM_cons, hx, ih hxs]
    rfl

/-- The record of a fingerprint. -/
def recordOf (records : List EscalationRecord) (fingerprint : String) : Option EscalationRecord :=
  records.find? fun r => r.fingerprint == fingerprint

theorem recordOf_self (h : Register records) {r : EscalationRecord} (hr : r ∈ records) :
    recordOf records r.fingerprint = some r := by
  cases hfind : recordOf records r.fingerprint with
  | none => simpa using List.find?_eq_none.1 hfind r hr
  | some r' =>
    have hsame : r'.fingerprint = r.fingerprint := by simpa using List.find?_some hfind
    rw [List.inj_on_of_nodup_map h.nodup (List.mem_of_find?_eq_some hfind) hr hsame]

/-- The list of an archive has each of its records once. -/
theorem stored_perm (h : Archive dir records disk) :
    ∃ stored, EscalationChannel.stored dir disk = .ok stored ∧ stored.Perm records := by
  obtain ⟨stems, hstems, hperm⟩ := h.jsonStems_perm
  have hread : ∀ stem ∈ stems, Snapshot.read EscalationRecord.ofJson? (recordPath dir stem) disk =
      .ok (recordOf records stem) := by
    intro stem hstem
    obtain ⟨r, hr, rfl⟩ := List.mem_map.1 (hperm.subset hstem)
    rw [h.read_kept hr, recordOf_self h.register hr]
  have hstored : EscalationChannel.stored dir disk =
      .ok ((stems.filterMap (recordOf records)).mergeSort fun a b =>
        a.escalatedAt.le b.escalatedAt) := by
    rw [EscalationChannel.stored, hstems]
    simp only [bind, Except.bind, mapM_eq_ok hread, List.filterMap_map]
    rfl
  refine ⟨_, hstored, (List.mergeSort_perm _ _).trans ((hperm.filterMap _).trans (.of_eq ?_))⟩
  calc (records.map (·.fingerprint)).filterMap (recordOf records)
      = records.filterMap fun r => recordOf records r.fingerprint := List.filterMap_map
    _ = records.filterMap some :=
        List.filterMap_congr fun r hr => recordOf_self h.register hr
    _ = records := List.filterMap_some

end Archive

private theorem exists_of_mapM_eq_ok {α β ε : Type} {f : α → Except ε β} {xs : List α} {ys : List β}
    (h : xs.mapM f = .ok ys) : ∀ x ∈ xs, ∃ y, f x = .ok y := by
  induction xs generalizing ys with
  | nil => nofun
  | cons x xs ih =>
    rw [List.mapM_cons] at h
    cases hx : f x with
    | error e =>
      rw [hx] at h
      cases h
    | ok y =>
      rw [hx] at h
      cases hxs : xs.mapM f with
      | error e =>
        rw [hxs] at h
        cases h
      | ok rest => exact List.forall_mem_cons.2 ⟨⟨y, hx⟩, ih hxs⟩

/-- A list that can be made has read all documents of the directory. -/
theorem EscalationChannel.exists_read_of_stored {dir : Path} {disk : Disk}
    {stored : List EscalationRecord} (hstored : EscalationChannel.stored dir disk = .ok stored)
    {p : Place} (hfind : disk.tree.find disk.cwd dir = .ok (p, .directory)) {s stem : String}
    {n : Node} (hn : disk.tree.node? (p ++ [s]) = some n)
    (hjson : (Path.mk s).extension? = some "json") (hstem : (Path.mk s).stem? = some stem) :
    ∃ r, Snapshot.read EscalationRecord.ofJson? (recordPath dir stem) disk = .ok r := by
  obtain ⟨stems, hstems, hmem⟩ := mem_jsonStems hfind hn hjson hstem
  rw [EscalationChannel.stored, hstems] at hstored
  cases hreads : stems.mapM fun stem =>
      Snapshot.read EscalationRecord.ofJson? (recordPath dir stem) disk with
  | error e =>
    simp only [bind, Except.bind, hreads] at hstored
    cases hstored
  | ok records => exact exists_of_mapM_eq_ok hreads stem hmem

end AgentGovernance
