-- SUMMARY: Audit reports are stored once: what a save adds, what it spares, and what is loaded and listed.
import AgentGovernance.Proofs.Audit.Document
import AgentGovernance.Proofs.Snapshot.Shelf

/-!
# Reports that are stored once

A save stores a report in a file of its own, directly in the directory of the store, or it fails and
leaves all files as they are. Main statement: whatever was saved before, a save succeeds only for a
proper run id that has no file yet, and then adds that file and nothing but missing directories; what
could be loaded stays so, and in a directory that was missing at the start the reports are exactly
those whose save succeeded.
-/

namespace AgentGovernance

open Act (Ends)

/-! ## Run ids -/

section RunIds

variable {id : String}

theorem head?_of_isValidRunId (h : isValidRunId id = true) : id.toList.head? ≠ some '.' := by
  simp only [isValidRunId, Bool.and_eq_true, bne_iff_ne] at h
  exact h.1.2

theorem isPlain_of_isValidRunId (h : isValidRunId id = true) :
    ∀ c ∈ id.toList, (c.isAlphanum || c == '.' || c == '-') = true := by
  simp only [isValidRunId, Bool.and_eq_true, List.all_eq_true] at h
  exact h.2

theorem isName_of_isValidRunId (h : isValidRunId id = true) : Path.IsName (id ++ ".json") :=
  Path.isName_document fun hslash => absurd (isPlain_of_isValidRunId h _ hslash) (by decide)

/-- A run id that is short enough names a file. -/
theorem isStem_of_isValidRunId (h : isValidRunId id = true)
    (hshort : (id ++ ".json").utf8ByteSize ≤ FileTree.nameLimit) : IsStem id where
  noSlash hslash := absurd (isPlain_of_isValidRunId h _ hslash) (by decide)
  noNul hnul := absurd (isPlain_of_isValidRunId h _ hnul) (by decide)
  ne_empty := by
    rintro rfl
    exact absurd h (by decide)
  short := hshort

end RunIds

namespace ReportStore

variable {store : ReportStore} {report : AuditReport} {disk : Disk}

/-! ## One save -/

/-- The place of the file of a run. -/
def placeOf (store : ReportStore) (cwd : Place) (id : String) : Place :=
  store.dir.placeFrom cwd ++ [id ++ ".json"]

/-- The disk after a save, whether or not it succeeds. -/
def afterSave (store : ReportStore) (report : AuditReport) (disk : Disk) : Disk :=
  ((store.save report).run disk).world

/-- The save succeeds. -/
def accepts (store : ReportStore) (report : AuditReport) (disk : Disk) : Bool :=
  ((store.save report).run disk).outcome.isOk

/-- The snapshot of a report. -/
def draft (store : ReportStore) (report : AuditReport) : Draft where
  path := store.dir.join (report.runId ++ ".json")
  bytes := report.toJson.pretty.toUTF8
  replaces := false

theorem save_of_valid (hvalid : isValidRunId report.runId = true) :
    store.save report = (do
      Snapshot.writeBytes (store.draft report).path (store.draft report).bytes
        (store.draft report).replaces
      return (store.draft report).path) := by
  unfold save
  simp only [reportPath, hvalid, if_true, Act.ofExcept_ok_bind, Snapshot.writeNew, draft]

theorem run_save_of_invalid (store : ReportStore) (hvalid : isValidRunId report.runId = false)
    (disk : Disk) :
    ((store.save report).run disk).outcome = .error (.configuration (.runId report.runId)) ∧
      ((store.save report).run disk).world = disk := by
  have hends : Ends (store.save report) { world := disk }
      (.error (.configuration (.runId report.runId))) disk := by
    unfold save
    rw [reportPath, hvalid]
    exact Ends.bind_error (Act.ends_ofExcept (.error _))
  exact hends.run

theorem isOk_map_iff {α : Type} {o : Except GovernanceError Unit} (f : Unit → α) :
    (o.map f).isOk = true ↔ o = .ok () := by
  cases o <;> simp [Except.map, Except.isOk, Except.toBool]

/-- A save refuses the run id, or it takes the steps of a snapshot and succeeds as that does. -/
theorem save_cases (store : ReportStore) (report : AuditReport) (disk : Disk) :
    (isValidRunId report.runId = false ∧ store.accepts report disk = false ∧
      store.afterSave report disk = disk) ∨
    (isValidRunId report.runId = true ∧ ∃ stage,
      (store.draft report).finish disk = (stage, store.afterSave report disk) ∧
      (stage = .settled (.ok ()) ↔ store.accepts report disk = true)) := by
  cases hvalid : isValidRunId report.runId with
  | false =>
    obtain ⟨hout, hworld⟩ := run_save_of_invalid store hvalid disk
    exact .inl ⟨rfl, by rw [accepts, hout]; rfl, hworld⟩
  | true =>
    obtain ⟨stage, hfinish, hstage⟩ := Snapshot.finish_of_run (store.draft report) disk
    obtain ⟨hout, hworld⟩ := Act.run_then_pure
      (Snapshot.writeBytes (store.draft report).path (store.draft report).bytes
        (store.draft report).replaces) (store.draft report).path disk
    rw [← save_of_valid hvalid] at hout hworld
    have haccepts : store.accepts report disk = _ := congrArg Except.isOk hout
    exact .inr ⟨rfl, stage, hfinish.trans (congrArg (Prod.mk stage) hworld.symm),
      hstage.trans (by rw [haccepts, isOk_map_iff])⟩

theorem finish_of_accepts (h : store.accepts report disk = true) :
    isValidRunId report.runId = true ∧
      (store.draft report).finish disk = (.settled (.ok ()), store.afterSave report disk) := by
  rcases store.save_cases report disk with ⟨-, hrefused, -⟩ | ⟨hvalid, stage, hfinish, hstage⟩
  · rw [h] at hrefused
    cases hrefused
  · obtain rfl := hstage.2 h
    exact ⟨hvalid, hfinish⟩

theorem follow_draft (hvalid : isValidRunId report.runId = true) (cwd : Place) :
    FileTree.follow cwd (store.draft report).path.components = store.placeOf cwd report.runId :=
  Path.placeFrom_join store.dir (isName_of_isValidRunId hvalid) cwd

theorem absent_of_accepts (h : store.accepts report disk = true) :
    disk.tree.node? (store.placeOf disk.cwd report.runId) = none := by
  obtain ⟨hvalid, hfinish⟩ := finish_of_accepts h
  exact follow_draft hvalid disk.cwd ▸ Draft.absent_of_finish rfl hfinish

theorem written_of_accepts (hdisk : disk.Proper) (h : store.accepts report disk = true) :
    Snapshot.Written (store.dir.join (report.runId ++ ".json")) report.toJson disk
      (store.afterSave report disk) :=
  Snapshot.written_of_finish hdisk (finish_of_accepts h).2

theorem isStem_of_accepts (hdisk : disk.Proper) (h : store.accepts report disk = true) :
    IsStem report.runId := by
  have hvalid := (finish_of_accepts h).1
  refine isStem_of_isValidRunId hvalid (FileTree.short_of_walk (written_of_accepts hdisk h).walk ?_)
  rw [Path.components_join store.dir (isName_of_isValidRunId hvalid)]
  simp

theorem file_of_accepts (hdisk : disk.Proper) (h : store.accepts report disk = true) :
    (store.afterSave report disk).tree.node? (store.placeOf disk.cwd report.runId) =
      some (.file report.toJson.pretty.toUTF8) :=
  follow_draft (finish_of_accepts h).1 disk.cwd ▸ (written_of_accepts hdisk h).file

/-- A save writes nothing but what was not there. -/
theorem grown_afterSave (hdisk : disk.Proper) (store : ReportStore) (report : AuditReport) :
    disk.Grown (fun q => disk.tree.node? q = none) (store.afterSave report disk) := by
  rcases store.save_cases report disk with ⟨-, -, hsame⟩ | ⟨-, stage, hfinish, -⟩
  · rw [hsame]
    exact ⟨rfl, hdisk, fun _ hq => hq, fun _ _ => Iff.rfl⟩
  · refine (Draft.grown_of_finish hdisk hfinish).mono ?_
    rintro q ⟨rfl, rfl⟩
    exact Draft.absent_of_finish rfl hfinish

/-- Apart from the file of the report, nothing is left of a save but directories on the way to the
directory of the store. -/
theorem node?_afterSave (hdisk : disk.Proper) {q : Place}
    (hq : store.accepts report disk = true → q ≠ store.placeOf disk.cwd report.runId) :
    (store.afterSave report disk).tree.node? q = disk.tree.node? q ∨
      disk.tree.node? q = none ∧ (store.afterSave report disk).tree.node? q = some .directory ∧
        ∃ cs, cs <+: store.dir.components ∧ q = FileTree.follow disk.cwd cs := by
  rcases store.save_cases report disk with ⟨-, -, hsame⟩ | ⟨hvalid, stage, hfinish, hstage⟩
  · exact .inl (by rw [hsame])
  · rcases Draft.node?_of_finish hdisk hfinish (q := q) (fun hok =>
      follow_draft hvalid disk.cwd ▸ hq (hstage.1 hok)) with hsame | ⟨hnone, hdir, cs, hcs, rfl⟩
    · exact .inl hsame
    · obtain ⟨ds, hds, hfollow⟩ :=
        Draft.follow_directory_join (isName_of_isValidRunId hvalid) hcs disk.cwd
      exact .inr ⟨hnone, hdir, ds, hds, hfollow⟩

/-- What the save of a report does to a disk. It succeeds for a run id that is proper and has no file
yet, and only then, provided that the file system takes the name, the directory can be created and the
way there does not take the place of the file. All that is new afterwards is the file of the report,
if the save succeeded, and directories on the way to the directory of the store. -/
structure SavesOnce (store : ReportStore) (report : AuditReport) (disk : Disk) : Prop where
  only : store.accepts report disk = true → isValidRunId report.runId = true ∧
    disk.tree.node? (store.placeOf disk.cwd report.runId) = none
  always : isValidRunId report.runId = true →
    disk.tree.node? (store.placeOf disk.cwd report.runId) = none →
    (report.runId ++ ".json").utf8ByteSize ≤ FileTree.nameLimit →
    (disk.createDirectories store.dir).2 = .ok () →
    (∀ cs, cs <+: store.dir.components →
      FileTree.follow disk.cwd cs ≠ store.placeOf disk.cwd report.runId) →
    store.accepts report disk = true
  file : store.accepts report disk = true →
    (store.afterSave report disk).tree.node? (store.placeOf disk.cwd report.runId) =
      some (.file report.toJson.pretty.toUTF8)
  kept : ∀ {q n}, disk.tree.node? q = some n →
    (store.afterSave report disk).tree.node? q = some n
  fresh : ∀ {q}, disk.tree.node? q = none →
    (store.accepts report disk = true → q ≠ store.placeOf disk.cwd report.runId) →
    (store.afterSave report disk).tree.node? q = none ∨
      (store.afterSave report disk).tree.node? q = some .directory ∧
        ∃ cs, cs <+: store.dir.components ∧ q = FileTree.follow disk.cwd cs

theorem savesOnce (hdisk : disk.Proper) (store : ReportStore) (report : AuditReport) :
    store.SavesOnce report disk where
  only h := ⟨(finish_of_accepts h).1, absent_of_accepts h⟩
  always := by
    intro hvalid habsent hshort hcreate hway
    obtain ⟨disk', hfinish⟩ := Draft.exists_finish_document hdisk
      (isStem_of_isValidRunId hvalid hshort) (head?_of_isValidRunId hvalid) hcreate habsent hway
      report.toJson.pretty.toUTF8
    rcases store.save_cases report disk with ⟨hinvalid, -⟩ | ⟨-, stage, hfinish', hstage⟩
    · rw [hvalid] at hinvalid
      cases hinvalid
    · exact hstage.1 (congrArg Prod.fst (hfinish'.symm.trans hfinish))
  file h := file_of_accepts hdisk h
  kept := by
    intro q n hn
    by_cases hq : store.accepts report disk = true → q ≠ store.placeOf disk.cwd report.runId
    · rcases node?_afterSave hdisk hq with hsame | ⟨hnone, -⟩
      · exact hsame.trans hn
      · rw [hn] at hnone
        cases hnone
    · obtain ⟨h, rfl⟩ : store.accepts report disk = true ∧
          q = store.placeOf disk.cwd report.runId := by simpa using hq
      rw [absent_of_accepts h] at hn
      cases hn
  fresh hnone hq := by
    rcases node?_afterSave hdisk hq with hsame | ⟨-, hdir⟩
    · exact .inl (hsame.trans hnone)
    · exact .inr hdir

/-! ## Loading -/

theorem load_of_isValidRunId {id : String} (h : isValidRunId id = true) (disk : Disk) :
    store.load id disk =
      Snapshot.read AuditReport.ofJson? (store.dir.join (id ++ ".json")) disk := by
  unfold load
  rw [reportPath, if_pos h]
  rfl

theorem load_of_invalid {id : String} (h : isValidRunId id = false) (disk : Disk) :
    store.load id disk = .error (.configuration (.runId id)) := by
  unfold load
  rw [reportPath, h]
  rfl

theorem load_of_accepts (hdisk : disk.Proper) (hreport : report.Valid)
    (h : store.accepts report disk = true) :
    store.load report.runId (store.afterSave report disk) = .ok (some report) := by
  obtain ⟨hvalid, hfinish⟩ := finish_of_accepts h
  have hread := Draft.readBytes_of_finish hdisk hfinish
  simp only [draft] at hread
  rw [load_of_isValidRunId hvalid]
  exact Snapshot.read_of_readBytes (AuditReport.plain_toJson hreport 122)
    (AuditReport.ofJson?_toJson hreport) hread

/-- A report that can be loaded stays as it is when nothing is written but what was not there. -/
theorem load_kept {disk' : Disk} (hgrown : disk.Grown (fun q => disk.tree.node? q = none) disk')
    {id : String} (h : store.load id disk = .ok (some report)) :
    store.load id disk' = .ok (some report) := by
  cases hvalid : isValidRunId id with
  | false =>
    rw [load_of_invalid hvalid] at h
    cases h
  | true =>
    rw [load_of_isValidRunId hvalid] at h ⊢
    obtain ⟨bytes, hbytes⟩ := Snapshot.readBytes_of_read h
    have hnode := FileTree.node?_of_readBytes hbytes
    have hkept := hgrown.readBytes (by simp [hnode]) hbytes
    exact (Snapshot.read_congr _ (hkept.trans hbytes.symm)).trans h

/-! ## Many saves -/

/-- The disk after saves, one after another. -/
def afterSaves (store : ReportStore) : List AuditReport → Disk → Disk
  | [], disk => disk
  | report :: reports, disk => store.afterSaves reports (store.afterSave report disk)

/-- The reports whose save succeeds when they are saved one after another. -/
def accepted (store : ReportStore) : List AuditReport → Disk → List AuditReport
  | [], _ => []
  | report :: reports, disk =>
    (if store.accepts report disk then [report] else []) ++
      store.accepted reports (store.afterSave report disk)

/-- A report is accepted at the first save or at a later one. -/
theorem mem_accepted_cons {first : AuditReport} {reports : List AuditReport} :
    report ∈ store.accepted (first :: reports) disk ↔
      store.accepts first disk = true ∧ report = first ∨
        report ∈ store.accepted reports (store.afterSave first disk) := by
  rw [accepted, List.mem_append]
  split <;> simp_all

theorem accepted_sublist (store : ReportStore) (reports : List AuditReport) (disk : Disk) :
    (store.accepted reports disk).Sublist reports := by
  induction reports generalizing disk with
  | nil => exact List.Sublist.refl _
  | cons report reports ih =>
    unfold accepted
    split
    · exact (ih _).cons_cons report
    · exact (ih _).cons report

theorem grown_afterSaves (hdisk : disk.Proper) (store : ReportStore) (reports : List AuditReport) :
    disk.Grown (fun q => disk.tree.node? q = none) (store.afterSaves reports disk) := by
  induction reports generalizing disk with
  | nil => exact ⟨rfl, hdisk, fun _ hq => hq, fun _ _ => Iff.rfl⟩
  | cons report reports ih =>
    have hfirst := grown_afterSave hdisk store report
    exact hfirst.trans ((ih hfirst.proper).mono fun q => hfirst.absent)

/-- Every report that is accepted is loaded from then on. -/
theorem load_of_mem_accepted {reports : List AuditReport} (hdisk : disk.Proper)
    (hvalid : report.Valid) (h : report ∈ store.accepted reports disk) :
    store.load report.runId (store.afterSaves reports disk) = .ok (some report) := by
  induction reports generalizing disk with
  | nil => cases h
  | cons first reports ih =>
    have hgrown := grown_afterSave hdisk store first
    rcases mem_accepted_cons.1 h with ⟨haccepts, rfl⟩ | hrest
    · exact load_kept (grown_afterSaves hgrown.proper store reports)
        (load_of_accepts hdisk hvalid haccepts)
    · exact ih hgrown.proper hrest

/-! ## The directory of the store -/

/-- The document of a report, under its stem. -/
def document (report : AuditReport) : String × ByteArray :=
  (report.runId, report.toJson.pretty.toUTF8)

theorem shelf_afterSave {docs : List (String × ByteArray)} (h : Shelf store.dir docs disk)
    (report : AuditReport) :
    Shelf store.dir (docs ++ (if store.accepts report disk then [report] else []).map document)
      (store.afterSave report disk) := by
  split
  · rename_i haccepts
    refine h.written (isStem_of_accepts h.proper haccepts) ?_ (written_of_accepts h.proper haccepts)
    intro htaken
    obtain ⟨⟨stem, bytes⟩, hdoc, rfl⟩ := List.mem_map.1 htaken
    have hfree := absent_of_accepts haccepts
    rw [placeOf, h.files hdoc] at hfree
    cases hfree
  · rename_i hrefused
    have hgrown := grown_afterSave h.proper store report
    rw [List.map_nil, List.append_nil]
    exact h.grownAlong hgrown.cwd hgrown.proper fun q =>
      node?_afterSave h.proper fun haccepts => absurd haccepts hrefused

/-- A shelf gains the documents of the reports that are accepted. -/
theorem shelf_afterSaves {docs : List (String × ByteArray)} (h : Shelf store.dir docs disk)
    (reports : List AuditReport) :
    Shelf store.dir (docs ++ (store.accepted reports disk).map document)
      (store.afterSaves reports disk) := by
  induction reports generalizing disk docs with
  | nil => simpa [accepted, afterSaves] using h
  | cons report reports ih =>
    rw [accepted, List.map_append, ← List.append_assoc]
    exact ih (shelf_afterSave h report)

theorem latest_of_list {ids : List String} (h : store.list disk = .ok ids) :
    store.latest disk = match ids.getLast? with
      | some id => store.load id disk
      | none => .ok none := by
  unfold latest
  rw [h]
  rfl

end ReportStore

end AgentGovernance
