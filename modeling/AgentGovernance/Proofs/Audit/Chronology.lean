-- SUMMARY: Run ids sort by the start of their runs, and so do the lists of a store of reports.
import AgentGovernance.Audit.Orchestrator
import AgentGovernance.Proofs.Audit.Authorization
import AgentGovernance.Proofs.Audit.Reports
import AgentGovernance.Proofs.Audit.Run
import AgentGovernance.Proofs.Time.Chronology

/-!
# Runs in the order of their starts

A run id begins with the sortable text of the start of its run, so it sorts by that, whatever stamp
keeps it apart from others. Main statement: in years of four digits, run ids are proper and in the
order of the milliseconds in which the runs started; a store lists the runs that it was given oldest
first, and its latest report is that of the run that started last.
-/

namespace AgentGovernance

open Act (Ends)

/-! ## Run ids -/

section RunIds

variable {s t : Instant}

theorem toList_runId (stamp : RunStamp) (t : Instant) :
    ∃ bytes : List UInt8, bytes.length = 3 ∧
      (runId stamp t).toList = t.sortable.toList ++ '-' :: (Blake3.hexDigits bytes).toList := by
  refine ⟨(Blake3.hash (Blake3.bytes32 stamp.process ++ Blake3.bytes64 stamp.sequence ++
    Blake3.bytes32 t.nanos)).take 3, ?_, ?_⟩
  · rw [List.length_take, Blake3.length_hash]
    rfl
  · simp [runId]

/-- Runs are in the order of their run ids if they started in different milliseconds. -/
theorem runId_lt (hs : s.Valid) (ht : t.Valid) (hsyear : s.PlainYear) (htyear : t.PlainYear)
    (h : s.truncated.Before t.truncated) (a b : RunStamp) : runId a s < runId b t := by
  obtain ⟨_, -, hleft⟩ := toList_runId a s
  obtain ⟨_, -, hright⟩ := toList_runId b t
  rw [String.lt_iff_toList_lt, hleft, hright]
  exact Instant.sortable_append_lt hs ht hsyear htyear h _ _

theorem isAlphanum_digitChar : ∀ n < 16, (Nat.digitChar n).isAlphanum = true := by
  decide

theorem utf8Size_of_isDigit {c : Char} (h : c.isDigit = true) : c.utf8Size = 1 := by
  have hrange := Char.isDigit_iff_toNat.1 h
  have hsmall : c.val ≤ 127 := by
    rw [UInt32.le_iff_toNat_le]
    exact Nat.le_trans hrange.2 (by decide)
  simp [Char.utf8Size, hsmall]

theorem mem_runId {stamp : RunStamp} (htyear : t.PlainYear) {c : Char}
    (hc : c ∈ (runId stamp t).toList) :
    (c.isAlphanum = true ∨ c = '.' ∨ c = '-') ∧ c.utf8Size = 1 := by
  obtain ⟨bytes, -, hlist⟩ := toList_runId stamp t
  rw [hlist, List.mem_append, List.mem_cons] at hc
  rcases hc with hc | rfl | hc
  · rcases Instant.mem_sortable htyear hc with hdigit | rfl | rfl | rfl
    · exact ⟨.inl (by simp [Char.isAlphanum, hdigit]), utf8Size_of_isDigit hdigit⟩
    all_goals decide
  · decide
  · obtain ⟨n, hn, rfl⟩ := Blake3.mem_hexDigits hc
    exact ⟨.inl (isAlphanum_digitChar n hn), (Blake3.hexDigit_spec n hn).2.2⟩

theorem isValidRunId_runId (htyear : t.PlainYear) (stamp : RunStamp) :
    isValidRunId (runId stamp t) = true := by
  obtain ⟨bytes, -, hlist⟩ := toList_runId stamp t
  obtain ⟨c, cs, hyear, hdigit⟩ := Rfc3339.padded_eq_cons 4 t.date.year.toNat
  have hhead : (runId stamp t).toList.head? = some c := by
    rw [hlist, Instant.toList_sortable htyear, hyear]
    rfl
  have hne : (runId stamp t).isEmpty = false := by
    rw [Bool.eq_false_iff]
    intro hempty
    simp [String.isEmpty_iff.1 hempty] at hhead
  have hdot : c ≠ '.' := by
    rintro rfl
    cases hdigit
  simp only [isValidRunId, hne, hhead, Bool.not_false, Bool.true_and, Bool.and_eq_true,
    List.all_eq_true, Bool.or_eq_true, beq_iff_eq, bne_iff_ne, or_assoc]
  exact ⟨by simpa using hdot, fun c hc => (mem_runId htyear hc).1⟩

/-- The file of a run has a name that every directory takes. -/
theorem utf8ByteSize_runId (ht : t.Valid) (htyear : t.PlainYear) (stamp : RunStamp) :
    (runId stamp t ++ ".json").utf8ByteSize ≤ FileTree.nameLimit := by
  obtain ⟨bytes, hbytes, hlist⟩ := toList_runId stamp t
  have hlength : (runId stamp t).toList.length = 27 := by
    rw [hlist, List.length_append, List.length_cons, Blake3.length_hexDigits, hbytes,
      Instant.length_sortable ht htyear]
  have hsize : (runId stamp t).utf8ByteSize = 27 := by
    rw [← hlength, ← utf8ByteSize_ofList_of_short fun c hc => (mem_runId htyear hc).2,
      String.ofList_toList]
  rw [String.utf8ByteSize_append, hsize]
  decide

end RunIds

/-! ## Reports -/

namespace AuditReport

/-- The report has a run id that was made for the start of its run. -/
def Stamped (r : AuditReport) : Prop := ∃ stamp, r.runId = AgentGovernance.runId stamp r.startedAt

/-- One run started in an earlier millisecond than another. -/
def StartedBefore (r r' : AuditReport) : Prop :=
  r.startedAt.truncated.Before r'.startedAt.truncated

/-- The report of a run that started in a year of four digits. -/
structure Dated (r : AuditReport) : Prop where
  valid : r.Valid
  stamped : r.Stamped
  year : r.startedAt.PlainYear

end AuditReport

/-- Whatever comes of a run, its report is stamped for its start. -/
theorem Orchestrator.stamped_of_run {σ : Type} {o : Orchestrator σ} {scope : AuditScope}
    {stamp : RunStamp} {now : Instant} {j : Journal σ} {r : AuditReport} {w : σ}
    (h : Ends (o.run scope stamp now) j (.ok r) w) : r.Stamped ∧ r.startedAt = now := by
  obtain ⟨decided, w', hauth⟩ := Ends.exists o.authorize j
  cases decided with
  | error e =>
    have hfails : Ends (o.run scope stamp now) j (.error e) w' := hauth.bind_error
    cases (h.unique hfails).1
  | ok decided =>
    cases decided with
    | error refusal =>
      obtain ⟨k, hk, -⟩ := hauth.ok
      have hrun := run_of_refusal hk scope stamp now
      obtain ⟨hsame, -⟩ := h.unique (Ends.of_ok hrun)
      rw [Except.ok.inj hsame]
      exact ⟨⟨stamp, rfl⟩, rfl⟩
    | ok who =>
      obtain ⟨runs, k, l, -, -, hends⟩ := o.ends_run hauth scope stamp now
      obtain ⟨hsame, -⟩ := h.unique hends
      rw [Except.ok.inj hsame]
      exact ⟨⟨stamp, rfl⟩, rfl⟩

/-! ## Stores -/

namespace AuditReport

variable {r r' : AuditReport}

theorem Dated.runId_lt (h : r.Dated) (h' : r'.Dated) (hbefore : r.StartedBefore r') :
    r.runId < r'.runId := by
  obtain ⟨stamp, hid⟩ := h.stamped
  obtain ⟨stamp', hid'⟩ := h'.stamped
  rw [hid, hid']
  exact AgentGovernance.runId_lt h.valid.startedAt h'.valid.startedAt h.year h'.year hbefore _ _

theorem Dated.isValidRunId (h : r.Dated) : AgentGovernance.isValidRunId r.runId = true := by
  obtain ⟨stamp, hid⟩ := h.stamped
  exact hid ▸ isValidRunId_runId h.year stamp

theorem Dated.short (h : r.Dated) :
    (r.runId ++ ".json").utf8ByteSize ≤ FileTree.nameLimit := by
  obtain ⟨stamp, hid⟩ := h.stamped
  exact hid ▸ utf8ByteSize_runId h.valid.startedAt h.year stamp

/-- Of two runs that did not start in the same millisecond, the one with the smaller run id started
before the other. -/
theorem Dated.startedBefore (h : r.Dated) (h' : r'.Dated)
    (hne : r.startedAt.truncated ≠ r'.startedAt.truncated) (hle : r.runId ≤ r'.runId) :
    r.StartedBefore r' := by
  rcases Instant.before_or_before hne with hbefore | hafter
  · exact hbefore
  · exact absurd hle (not_le.2 (h'.runId_lt h hafter))

end AuditReport

namespace ReportStore

variable {store : ReportStore} {r r' : AuditReport} {reports : List AuditReport}
  {start disk : Disk}

/-! ### What is accepted -/

/-- A store that can make its directory accepts every report with a run id of its own. -/
theorem accepted_eq_self {docs : List (String × ByteArray)} (h : Shelf store.dir docs disk)
    (hcreate : (disk.createDirectories store.dir).2 = .ok ()) (hdated : ∀ r ∈ reports, r.Dated)
    (hfresh : ∀ r ∈ reports, r.runId ∉ docs.map (·.1))
    (hnodup : (reports.map (·.runId)).Nodup) : store.accepted reports disk = reports := by
  induction reports generalizing disk docs with
  | nil => rfl
  | cons report reports ih =>
    obtain ⟨hreport, hrest⟩ := List.forall_mem_cons.1 hdated
    obtain ⟨hnew, hothers⟩ := List.forall_mem_cons.1 hfresh
    obtain ⟨hid, hids⟩ := List.nodup_cons.1 hnodup
    have hstem := isStem_of_isValidRunId hreport.isValidRunId hreport.short
    have haccepts : store.accepts report disk = true := by
      refine (savesOnce h.proper store report).always hreport.isValidRunId ?_ hreport.short
        hcreate fun cs hcs hfollow => ?_
      · rw [Option.eq_none_iff_forall_ne_some]
        intro n hn
        obtain ⟨stem, bytes, hdoc, hname⟩ := h.only hstem.extension? hn
        obtain rfl : report.runId = stem := by simpa using hname
        exact hnew (List.mem_map_of_mem hdoc)
      · exact h.direct.passes cs _ hcs hfollow hstem.extension?
    have hshelf := shelf_afterSave h report
    rw [if_pos haccepts] at hshelf
    have hentered := hshelf.reached (by simp)
    rw [accepted, if_pos haccepts, ih hshelf (Disk.createDirectories_of_find hentered) hrest ?_ hids]
    · rfl
    · intro r hr
      rw [List.map_append, List.mem_append, not_or]
      refine ⟨hothers r hr, ?_⟩
      simp only [document, List.map_cons, List.map_nil, List.mem_singleton]
      exact fun heq => hid (List.mem_map.2 ⟨r, hr, heq⟩)

/-! ### What is listed -/

/-- A run that was accepted is listed. -/
theorem runId_mem_list (hstart : start.Proper) (hne : store.dir.text ≠ "")
    (h : r ∈ store.accepted reports start) :
    ∃ ids, store.list (store.afterSaves reports start) = .ok ids ∧ r.runId ∈ ids := by
  induction reports generalizing start with
  | nil => cases h
  | cons first reports ih =>
    have hgrown := grown_afterSave hstart store first
    rcases mem_accepted_cons.1 h with ⟨haccepts, rfl⟩ | hrest
    · have hlater := grown_afterSaves hgrown.proper store reports
      have hstem := isStem_of_accepts hstart haccepts
      have hfind := (written_of_accepts hstart haccepts).find_directory hstem hne
      have hfile := file_of_accepts hstart haccepts
      have hkept := (hlater.files (by simp [hfile]) _).2 hfile
      have hcwd : (store.afterSaves (r :: reports) start).cwd = start.cwd :=
        hlater.cwd.trans hgrown.cwd
      refine mem_jsonStems ?_ hkept hstem.extension? hstem.stem?
      rw [hcwd]
      exact FileTree.find_directory_of_keeps hlater.keeps hfind
    · exact ih hgrown.proper hrest

/-- In a list in order, of two members the smaller one stands before the greater one. -/
theorem sublist_of_lt {ids : List String} (hsorted : ids.Pairwise (· ≤ ·)) {id id' : String}
    (hid : id ∈ ids) (hid' : id' ∈ ids) (hlt : id < id') : [id, id'].Sublist ids := by
  obtain ⟨before, after, rfl⟩ := List.append_of_mem hid
  obtain ⟨-, -, hbehind⟩ := List.pairwise_append.1 hsorted
  have hafter : id' ∈ after := by
    rcases List.mem_append.1 hid' with hfront | hback
    · exact absurd hlt (not_lt.2 (hbehind id' hfront id List.mem_cons_self))
    · exact (List.mem_cons.1 hback).resolve_left (ne_of_gt hlt)
  exact ((List.singleton_sublist.2 hafter).cons_cons id).trans (List.sublist_append_right _ _)

/-- Whatever else a store lists, the runs that it accepted stand in the order of their starts. -/
theorem sublist_list (hstart : start.Proper) (hne : store.dir.text ≠ "")
    (hr : r ∈ store.accepted reports start) (hr' : r' ∈ store.accepted reports start)
    (hdated : r.Dated) (hdated' : r'.Dated) (hbefore : r.StartedBefore r') :
    ∃ ids, store.list (store.afterSaves reports start) = .ok ids ∧
      [r.runId, r'.runId].Sublist ids := by
  obtain ⟨ids, hids, hmem⟩ := runId_mem_list hstart hne hr
  obtain ⟨ids', hids', hmem'⟩ := runId_mem_list hstart hne hr'
  obtain rfl : ids = ids' := Except.ok.inj (hids.symm.trans hids')
  exact ⟨ids, hids,
    sublist_of_lt (jsonStems_sorted hids) hmem hmem' (hdated.runId_lt hdated' hbefore)⟩

/-- The runs of a store whose directory held none, in the order of their starts. -/
theorem exists_order (hshelf : Shelf store.dir [] start) (hdated : ∀ r ∈ reports, r.Dated)
    (hdistinct : reports.Pairwise fun r r' => r.startedAt.truncated ≠ r'.startedAt.truncated) :
    ∃ order : List AuditReport, order.Perm (store.accepted reports start) ∧
      order.Pairwise AuditReport.StartedBefore ∧
      store.list (store.afterSaves reports start) = .ok (order.map (·.runId)) ∧
      store.latest (store.afterSaves reports start) = .ok order.getLast? := by
  have hsub := store.accepted_sublist reports start
  let order := (store.accepted reports start).mergeSort fun r r' => decide (r.runId ≤ r'.runId)
  have hperm : order.Perm (store.accepted reports start) := List.mergeSort_perm _ _
  have hmem : ∀ r ∈ order, r ∈ reports := fun r hr => hsub.subset (hperm.mem_iff.1 hr)
  have hsorted : order.Pairwise fun r r' => r.runId ≤ r'.runId := by
    have hmerged : order.Pairwise fun r r' => decide (r.runId ≤ r'.runId) :=
      List.pairwise_mergeSort (fun a b c => by simpa using String.le_trans)
        (fun a b => by simpa using String.le_total a.runId b.runId) _
    simpa using hmerged
  have hapart : order.Pairwise fun r r' => r.startedAt.truncated ≠ r'.startedAt.truncated :=
    (hdistinct.sublist hsub).perm hperm.symm fun h => h.symm
  have hstarted : order.Pairwise AuditReport.StartedBefore :=
    (hsorted.and hapart).imp_of_mem fun hr hr' ⟨hle, hne⟩ =>
      (hdated _ (hmem _ hr)).startedBefore (hdated _ (hmem _ hr')) hne hle
  have hlist : store.list (store.afterSaves reports start) = .ok (order.map (·.runId)) := by
    obtain ⟨ids, hids, hstems⟩ := (shelf_afterSaves hshelf reports).jsonStems_perm
    rw [List.nil_append, List.map_map] at hstems
    have hsame : ids.Perm (order.map (·.runId)) := hstems.trans (hperm.map _).symm
    have heq : ids = order.map (·.runId) :=
      hsame.eq_of_pairwise (fun a b _ _ => String.le_antisymm) (jsonStems_sorted hids)
        (List.pairwise_map.2 hsorted)
    exact hids.trans (congrArg Except.ok heq)
  refine ⟨order, hperm, hstarted, hlist, ?_⟩
  rw [latest_of_list hlist, List.getLast?_map]
  cases hlast : order.getLast? with
  | none => rfl
  | some r =>
    have hr := List.mem_of_getLast? hlast
    exact load_of_mem_accepted hshelf.proper (hdated r (hmem r hr)).valid (hperm.mem_iff.1 hr)

/-- Run ids are proper, and a run that started in an earlier millisecond than another has the smaller
run id, whatever the stamps. So of the reports that a store accepted, whatever else is in its
directory, its list has the runs that started earlier before those that started later; and if the
directory held no document at the start, the list has these runs and no others, oldest first, and the
latest report is that of the run that started last. A store that can make its directory accepts all
of the reports. -/
theorem runs_sort_by_start (store : ReportStore) (start : Disk) (hstart : start.Proper)
    (hne : store.dir.text ≠ "") (reports : List AuditReport) (hdated : ∀ r ∈ reports, r.Dated)
    (hdistinct : reports.Pairwise fun r r' => r.startedAt.truncated ≠ r'.startedAt.truncated) :
    (∀ s t : Instant, s.Valid → t.Valid → s.PlainYear → t.PlainYear →
      s.truncated.Before t.truncated → ∀ a b : RunStamp, runId a s < runId b t ∧
        isValidRunId (runId a s) = true ∧ isValidRunId (runId b t) = true) ∧
    let disk := store.afterSaves reports start
    let accepted := store.accepted reports start
    (∀ r ∈ accepted, ∀ r' ∈ accepted, r.StartedBefore r' →
      ∃ ids, store.list disk = .ok ids ∧ [r.runId, r'.runId].Sublist ids) ∧
    (Shelf store.dir [] start →
      (∃ order : List AuditReport, order.Perm accepted ∧ order.Pairwise AuditReport.StartedBefore ∧
        store.list disk = .ok (order.map (·.runId)) ∧ store.latest disk = .ok order.getLast?) ∧
      ((start.createDirectories store.dir).2 = .ok () → accepted = reports)) := by
  have hsub := store.accepted_sublist reports start
  refine ⟨fun s t hs ht hsyear htyear h a b => ⟨runId_lt hs ht hsyear htyear h a b,
    isValidRunId_runId hsyear a, isValidRunId_runId htyear b⟩, ?_, fun hshelf =>
    ⟨exists_order hshelf hdated hdistinct, fun hcreate => ?_⟩⟩
  · intro r hr r' hr' hbefore
    exact sublist_list hstart hne hr hr' (hdated r (hsub.subset hr)) (hdated r' (hsub.subset hr'))
      hbefore
  · refine accepted_eq_self hshelf hcreate hdated (fun _ _ => List.not_mem_nil) ?_
    refine List.pairwise_map.2 (hdistinct.imp_of_mem fun {r r'} hr hr' hapart heq => ?_)
    rcases Instant.before_or_before hapart with hbefore | hafter
    · exact absurd heq (ne_of_lt ((hdated r hr).runId_lt (hdated r' hr') hbefore))
    · exact absurd heq (ne_of_gt ((hdated r' hr').runId_lt (hdated r hr) hafter))

/-- A run that started in a leap second is saved after one that started in the second behind it. -/
theorem runs_sort_by_start_leap_second :
    let store : ReportStore := ⟨⟨"audits"⟩⟩
    let leap : Instant := ⟨1483228799, 1500000000⟩
    let next : Instant := ⟨1483228800, 0⟩
    let report (sequence : Nat) (time : Instant) : AuditReport :=
      { runId := runId ⟨7, sequence⟩ time, startedAt := time, finishedAt := next
        scope := { root := ⟨"."⟩ }, verdict := .pass, verdictReason := "clean" }
    let start : Disk := { tree := .empty }
    let disk := store.afterSaves [report 0 next, report 1 leap] start
    runId ⟨7, 1⟩ leap < runId ⟨7, 0⟩ next ∧
      store.list disk = .ok [runId ⟨7, 1⟩ leap, runId ⟨7, 0⟩ next] ∧
      store.latest disk = .ok (some (report 0 next)) := by
  intro store leap next report start disk
  have hleap : leap.Valid := ⟨.inr (by decide), by decide +kernel⟩
  have hnext : next.Valid := ⟨.inl (by decide), by decide +kernel⟩
  have hbefore : leap.truncated.Before next.truncated := by decide
  have hcounts : SeverityCounts.Valid {} :=
    ⟨by decide, by decide, by decide, by decide, by decide⟩
  have hdated (sequence : Nat) {time : Instant} (htime : time.Valid) (hyear : time.PlainYear) :
      (report sequence time).Dated :=
    ⟨⟨htime, hnext, List.Pairwise.nil, nofun, nofun, nofun, hcounts⟩, ⟨_, rfl⟩, hyear⟩
  have hleapYear : leap.PlainYear := by decide +kernel
  have hnextYear : next.PlainYear := by decide +kernel
  have hproper : start.Proper := ⟨FileTree.proper_empty, rfl⟩
  have habsent : start.tree.node? (store.dir.placeFrom start.cwd) = none := by decide +kernel
  have hdirect : store.dir.Direct start.cwd :=
    Path.Upless.direct_of_absent (by decide +kernel) hproper habsent
  obtain ⟨hids, -, hlisted⟩ := runs_sort_by_start store start hproper hdirect.ne_empty
    [report 0 next, report 1 leap]
    (List.forall_mem_cons.2 ⟨hdated 0 hnext hnextYear,
      List.forall_mem_singleton.2 (hdated 1 hleap hleapYear)⟩)
    (List.pairwise_pair.2 (by decide))
  obtain ⟨⟨order, hperm, hstarted, hlist, hlatest⟩, hall⟩ :=
    hlisted (Shelf.of_absent hdirect hproper habsent)
  have horder : order = [report 1 leap, report 0 next] := by
    rw [hall (by decide +kernel)] at hperm
    refine (hperm.trans (List.Perm.swap _ _ [])).eq_of_pairwise ?_ hstarted
      (List.pairwise_pair.2 hbefore)
    exact fun r r' _ _ h h' => absurd h' h.asymm
  rw [horder] at hlist hlatest
  exact ⟨(hids leap next hleap hnext hleapYear hnextYear hbefore _ _).1, hlist, hlatest⟩

/-- What is loaded after a save is the report, or it was a file before. -/
theorem of_load_afterSave {report : AuditReport} {id : String} (hdisk : disk.Proper)
    (h : store.load id (store.afterSave report disk) = .ok (some r)) :
    id = report.runId ∨ ∃ bytes, disk.tree.node? (store.placeOf disk.cwd id) = some (.file bytes) := by
  cases hvalid : isValidRunId id with
  | false =>
    rw [load_of_invalid hvalid] at h
    cases h
  | true =>
    rw [load_of_isValidRunId hvalid] at h
    obtain ⟨bytes, hbytes⟩ := Snapshot.node?_of_read h
    rw [(grown_afterSave hdisk store report).cwd] at hbytes
    rw [show FileTree.follow disk.cwd _ = store.placeOf disk.cwd id from
      Path.placeFrom_join store.dir (isName_of_isValidRunId hvalid) disk.cwd] at hbytes
    by_cases hid : id = report.runId
    · exact .inl hid
    · have hplace : store.placeOf disk.cwd id ≠ store.placeOf disk.cwd report.runId := by
        simpa [placeOf] using hid
      rcases node?_afterSave hdisk fun _ => hplace with hsame | ⟨-, hdir, -⟩
      · exact .inr ⟨bytes, hsame.symm.trans hbytes⟩
      · rw [hdir] at hbytes
        cases hbytes

/-- After the only save there was, nothing that is listed stands behind the run if the latest report
can be loaded. -/
theorem le_runId_of_latest {report : AuditReport} {ids : List String} {id : String}
    (hlist : store.list (store.afterSave report { tree := .empty }) = .ok ids) (hid : id ∈ ids)
    (h : store.latest (store.afterSave report { tree := .empty }) = .ok (some r)) :
    id ≤ report.runId := by
  rw [latest_of_list hlist] at h
  cases hlast : ids.getLast? with
  | none =>
    rw [hlast] at h
    cases h
  | some last =>
    rw [hlast] at h
    obtain ⟨front, hids⟩ := List.getLast?_eq_some_iff.1 hlast
    have hle : id ≤ last := by
      have hsorted := jsonStems_sorted hlist
      rw [hids] at hsorted hid
      rcases List.mem_append.1 hid with hfront | hself
      · exact (List.pairwise_append.1 hsorted).2.2 id hfront last (List.mem_singleton_self last)
      · exact (List.mem_singleton.1 hself).le
    rcases of_load_afterSave ⟨FileTree.proper_empty, rfl⟩ h with hself | ⟨bytes, hbytes⟩
    · exact hself ▸ hle
    · cases hplace : store.placeOf [] last <;>
        simp_all [FileTree.node?, FileTree.empty]

/-- Where the way to the directory leads through an entry of the directory itself that is called like
a document, that entry is taken for the latest run, and no report is found there. -/
theorem own_entry_hides_latest_run :
    let store : ReportStore := ⟨⟨"audits/x.json/.."⟩⟩
    let time : Instant := ⟨1483228800, 0⟩
    let report : AuditReport :=
      { runId := runId ⟨7, 0⟩ time, startedAt := time, finishedAt := time
        scope := { root := ⟨"."⟩ }, verdict := .pass, verdictReason := "clean" }
    let start : Disk := { tree := .empty }
    let disk := store.afterSaves [report] start
    start.Proper ∧ start.tree.node? (store.dir.placeFrom start.cwd) = none ∧ report.Dated ∧
      store.accepted [report] start = [report] ∧ ∀ r, store.latest disk ≠ .ok (some r) := by
  intro store time report start disk
  have htime : time.Valid := ⟨.inl (by decide), by decide +kernel⟩
  have hcounts : report.counts.Valid := ⟨by decide, by decide, by decide, by decide, by decide⟩
  have hdated : report.Dated :=
    ⟨⟨htime, htime, List.Pairwise.nil, nofun, nofun, nofun, hcounts⟩, ⟨_, rfl⟩, by decide +kernel⟩
  obtain ⟨haccepted, hfind, hentry, hsmall⟩ : store.accepted [report] start = [report] ∧
      disk.tree.find disk.cwd store.dir = .ok (["audits"], .directory) ∧
      disk.tree.node? (["audits"] ++ ["x.json"]) = some .directory ∧ report.runId < "x" := by
    decide +kernel
  have hjson : (Path.mk "x.json").extension? = some "json" ∧
      (Path.mk "x.json").stem? = some "x" := by
    decide +kernel
  obtain ⟨ids, hids, hx⟩ := mem_jsonStems hfind hentry hjson.1 hjson.2
  refine ⟨⟨FileTree.proper_empty, rfl⟩, by decide +kernel, hdated, haccepted, ?_⟩
  intro r hlatest
  exact not_le.2 hsmall (le_runId_of_latest hids hx hlatest)

end ReportStore

end AgentGovernance
