-- SUMMARY: Sessions, escalation records and audit reports come back from their files as they went in.
import AgentGovernance.Proofs.Audit.Document
import AgentGovernance.Proofs.Snapshot

/-!
# Documents that come back whole

A document type is faithful to a value if the text that is written for the value is read as the
value, from the text itself and from every file that a write left. Main statement: the documents of
sessions, escalation records and audit reports are faithful to every value whose numbers and times
are in range and whose sets and maps are in order. An instant with the nanoseconds of a leap second in
the middle of a minute is not in range: its text is that of the next second.
-/

namespace AgentGovernance.Snapshot

open Act (Ends)

variable {α : Type} {encode : α → Json} {decode : Json → Option α} {a : α}

/-- What was written for a value is read as the value: the text, and the file at the path, whether the
write was to replace a file or to add a new one. -/
structure Restores (encode : α → Json) (decode : Json → Option α) (a : α) : Prop where
  text : (Json.parse? (encode a).pretty).bind decode = some a
  replaced : ∀ {path : Path} {j : Journal Disk} {disk : Disk}, j.world.Proper →
    Ends (write path (encode a)) j (.ok ()) disk → read decode path disk = .ok (some a)
  added : ∀ {path : Path} {j : Journal Disk} {disk : Disk}, j.world.Proper →
    Ends (writeNew path (encode a)) j (.ok ()) disk → read decode path disk = .ok (some a)

/-- A value whose document is plain and is decoded as the value comes back whole. -/
theorem restores_of_plain (hplain : (encode a).Plain 127) (hdecode : decode (encode a) = some a) :
    Restores encode decode a where
  text := by rw [Json.parse?_pretty hplain, Option.bind_some, hdecode]
  replaced hdisk h := read_of_readBytes hplain hdecode (readBytes_of_ends hdisk h)
  added hdisk h := read_of_readBytes hplain hdecode (readBytes_of_ends hdisk h)

/-- Every session, every escalation record and every audit report comes back from its snapshot as it
went in, if its times are ones that a clock can show, its lines have 32 bits, its counters 64, and its
sets and maps are in order. A session with other times does not come back. -/
theorem snapshots_round_trip :
    (∀ s : SessionState, Restores SessionState.toJson SessionState.ofJson? s ↔ s.Valid) ∧
    (∀ r : EscalationRecord, r.Valid → Restores EscalationRecord.toJson EscalationRecord.ofJson? r) ∧
    (∀ r : AuditReport, r.Valid → Restores AuditReport.toJson AuditReport.ofJson? r) := by
  refine ⟨?_, ?_, ?_⟩
  · intro s
    refine ⟨fun hs => ?_, fun hs => ?_⟩
    · obtain ⟨j, -, hj⟩ := Option.bind_eq_some_iff.1 hs.text
      exact SessionState.valid_of_ofJson? hj
    · exact restores_of_plain (s.plain_toJson 124) (SessionState.ofJson?_toJson hs)
  · intro r hr
    exact restores_of_plain (EscalationRecord.plain_toJson hr 124)
      (EscalationRecord.ofJson?_toJson hr)
  · intro r hr
    exact restores_of_plain (AuditReport.plain_toJson hr 122) (AuditReport.ofJson?_toJson hr)

/-- An activity in the middle of a minute with the nanoseconds of a leap second is written as one in the
next second, and read as that. -/
theorem session_changes_off_leap_second :
    let s : SessionState := { lastActivity := some { seconds := 30, nanos := 1500000000 } }
    (Json.parse? s.toJson.pretty).bind SessionState.ofJson? =
        some { lastActivity := some { seconds := 31, nanos := 500000000 } } ∧
      ¬ Restores SessionState.toJson SessionState.ofJson? s := by
  intro s
  have hread : (Json.parse? s.toJson.pretty).bind SessionState.ofJson? =
      some { lastActivity := some { seconds := 31, nanos := 500000000 } } := by
    rw [Json.parse?_pretty (s.plain_toJson 124), Option.bind_some]
    decide +kernel
  refine ⟨hread, fun hs => ?_⟩
  have hsame := hread.symm.trans hs.text
  simp [s] at hsame

/-- A leap second, a quoted name and a finding without a line come back from a file in an empty
directory. -/
theorem snapshots_round_trip_leap_second :
    let time : Instant := { seconds := 59, nanos := 1500000000 }
    let session : SessionState :=
      { activeAgent := some "\"ops\"\n", activatedAt := some time, history := [{ agent := "ops", time }] }
    let finding : Finding :=
      { validatorId := "lint", severity := .high, location := { resource := "a.txt" }
        description := "café" }
    let record : EscalationRecord :=
      { fingerprint := "0", finding, reason := "", escalatedAt := time
        attempts := [{ iteration := 1, strategy := "bump", outcome := .failed, time }] }
    let report : AuditReport :=
      { runId := "1", startedAt := time, finishedAt := time, scope := { root := ⟨"."⟩ }
        raw := [("lint", [finding]), ("style", [])], findings := [finding], counts := { high := 1 }
        verdict := .concerns, verdictReason := "" }
    let start : Journal Disk := { world := { tree := .empty } }
    ∃ disk disk' disk'',
      Ends (write ⟨"session.json"⟩ session.toJson) start (.ok ()) disk ∧
      read SessionState.ofJson? ⟨"session.json"⟩ disk = .ok (some session) ∧
      Ends (write ⟨"session.json"⟩ record.toJson) start (.ok ()) disk' ∧
      read EscalationRecord.ofJson? ⟨"session.json"⟩ disk' = .ok (some record) ∧
      Ends (writeNew ⟨"session.json"⟩ report.toJson) start (.ok ()) disk'' ∧
      read AuditReport.ofJson? ⟨"session.json"⟩ disk'' = .ok (some report) := by
  intro time session finding record report start
  have htime : time.Valid := ⟨.inr ⟨by decide, by decide⟩, by decide +kernel⟩
  have hfinding : finding.location.Valid := nofun
  have hsession : session.Valid := by
    refine ⟨?_, nofun, ?_⟩
    · rintro _ ⟨⟩
      exact htime
    · exact List.forall_mem_singleton.2 htime
  have hrecord : record.Valid := by
    refine ⟨hfinding, ?_, htime⟩
    exact List.forall_mem_singleton.2 ⟨by decide, htime⟩
  have hreport : report.Valid := by
    refine ⟨htime, htime, ?_, ?_, nofun, List.forall_mem_singleton.2 hfinding, ?_⟩
    · exact List.pairwise_pair.2 (by decide)
    · exact List.forall_mem_cons.2
        ⟨List.forall_mem_singleton.2 hfinding, List.forall_mem_singleton.2 nofun⟩
    · exact ⟨by decide, by decide, by decide, by decide, by decide⟩
  have hproper : start.world.Proper := ⟨FileTree.proper_empty, rfl⟩
  obtain ⟨disk, hwrite⟩ := ends_in_empty (j := start) rfl session.toJson.pretty.toUTF8 true
  obtain ⟨disk', hwrite'⟩ := ends_in_empty (j := start) rfl record.toJson.pretty.toUTF8 true
  obtain ⟨disk'', hwrite''⟩ := ends_in_empty (j := start) rfl report.toJson.pretty.toUTF8 false
  exact ⟨disk, disk', disk'',
    hwrite, ((snapshots_round_trip.1 session).2 hsession).replaced hproper hwrite,
    hwrite', (snapshots_round_trip.2.1 record hrecord).replaced hproper hwrite',
    hwrite'', (snapshots_round_trip.2.2 report hreport).added hproper hwrite''⟩

end AgentGovernance.Snapshot
