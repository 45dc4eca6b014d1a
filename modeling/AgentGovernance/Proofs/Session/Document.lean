-- SUMMARY: A session that is written as a document is read as itself, and what is read can be written.
import AgentGovernance.Proofs.Json.Decode
import AgentGovernance.Proofs.Time.Rfc3339
import AgentGovernance.Session.State

/-!
# Sessions as documents

Main statements: a session whose times a clock can show is read as itself from the document that is
written for it, and every session that is read is one.
-/

namespace AgentGovernance

open Json (Plain)

/-! ## Parts -/

theorem Instant.ofJson?_toJson {t : Instant} (h : t.Valid) : Instant.ofJson? t.toJson = some t := by
  rw [ofJson?, toJson, Json.asString?, Option.bind_some, Rfc3339.parse?_rfc3339 h]

theorem Path.ofJson?_toJson (p : Path) : Path.ofJson? p.toJson = some p := rfl

theorem HistoryEntry.ofJson?_toJson {e : HistoryEntry} (h : e.time.Valid) :
    HistoryEntry.ofJson? e.toJson = some e := by
  obtain ⟨r, hr, -, hvalue⟩ := Json.asRecord?_object ["agent", "at"]
    [("agent", .string e.agent), ("at", e.time.toJson)] (by simp)
  simp [ofJson?, toJson, hr, Json.Record.required, hvalue, List.lookup_cons, Json.asString?,
    Instant.ofJson?_toJson h]

theorem HistoryEntry.plain_toJson (e : HistoryEntry) (d : Nat) : Plain (d + 1) e.toJson := by
  refine .object ?_
  simp only [List.forall_mem_cons]
  exact ⟨.string _, .string _, nofun⟩

theorem Instant.valid_of_ofJson? {j : Json} {t : Instant} (h : Instant.ofJson? j = some t) :
    t.Valid := by
  obtain ⟨text, -, hparse⟩ := Option.bind_eq_some_iff.1 h
  exact Rfc3339.valid_of_parse? hparse

theorem HistoryEntry.valid_of_ofJson? {j : Json} {e : HistoryEntry}
    (h : HistoryEntry.ofJson? j = some e) : e.time.Valid := by
  unfold HistoryEntry.ofJson? at h
  obtain ⟨r, -, h⟩ := Option.bind_eq_some_iff.1 h
  obtain ⟨agent, -, h⟩ := Option.bind_eq_some_iff.1 h
  obtain ⟨time, htime, h⟩ := Option.bind_eq_some_iff.1 h
  cases h
  obtain ⟨i, -, htime⟩ := Option.bind_eq_some_iff.1 htime
  exact Instant.valid_of_ofJson? htime

/-! ## Sessions -/

namespace SessionState

/-- The times of a session are ones that a clock can show. -/
structure Valid (s : SessionState) : Prop where
  activatedAt : ∀ t ∈ s.activatedAt, t.Valid
  lastActivity : ∀ t ∈ s.lastActivity, t.Valid
  history : ∀ e ∈ s.history, e.time.Valid

theorem valid_empty : SessionState.Valid {} := ⟨nofun, nofun, nofun⟩

theorem Valid.deactivate {s : SessionState} (h : s.Valid) : s.deactivate.Valid :=
  ⟨nofun, nofun, h.history⟩

theorem ofJson?_toJson {s : SessionState} (h : s.Valid) : ofJson? s.toJson = some s := by
  obtain ⟨r, hr, -, hvalue⟩ := Json.asRecord?_object
    ["activeAgent", "agentFile", "activatedAt", "lastActivity", "currentTask", "agentHistory"]
    [("activeAgent", .optional .string s.activeAgent),
     ("agentFile", .optional Path.toJson s.agentFile),
     ("activatedAt", .optional Instant.toJson s.activatedAt),
     ("lastActivity", .optional Instant.toJson s.lastActivity),
     ("currentTask", .optional .string s.currentTask),
     ("agentHistory", .list HistoryEntry.toJson s.history)] (by simp)
  have hagent : Json.asOption? Json.asString? (.optional .string s.activeAgent) = some s.activeAgent :=
    Json.asOption?_optional (fun _ _ => rfl) nofun
  have hfile : Json.asOption? Path.ofJson? (.optional Path.toJson s.agentFile) = some s.agentFile :=
    Json.asOption?_optional (fun p _ => Path.ofJson?_toJson p) nofun
  have hsince : Json.asOption? Instant.ofJson? (.optional Instant.toJson s.activatedAt) =
      some s.activatedAt :=
    Json.asOption?_optional (fun t ht => Instant.ofJson?_toJson (h.activatedAt t ht)) nofun
  have hlast : Json.asOption? Instant.ofJson? (.optional Instant.toJson s.lastActivity) =
      some s.lastActivity :=
    Json.asOption?_optional (fun t ht => Instant.ofJson?_toJson (h.lastActivity t ht)) nofun
  have htask : Json.asOption? Json.asString? (.optional .string s.currentTask) = some s.currentTask :=
    Json.asOption?_optional (fun _ _ => rfl) nofun
  have hhistory : Json.asList? HistoryEntry.ofJson? (.list HistoryEntry.toJson s.history) =
      some s.history :=
    Json.asList?_list fun e he => HistoryEntry.ofJson?_toJson (h.history e he)
  simp [ofJson?, toJson, hr, Json.Record.optional, Json.Record.withDefault, hvalue,
    List.lookup_cons, hagent, hfile, hsince, hlast, htask, hhistory]

theorem plain_toJson (s : SessionState) (d : Nat) : Plain (d + 3) s.toJson := by
  refine .object ?_
  simp only [List.forall_mem_cons]
  exact ⟨Json.plain_optional fun _ _ => .string _, Json.plain_optional fun _ _ => .string _,
    Json.plain_optional fun _ _ => .string _, Json.plain_optional fun _ _ => .string _,
    Json.plain_optional fun _ _ => .string _,
    Json.plain_list fun e _ => HistoryEntry.plain_toJson e d, nofun⟩

/-- A session that is read has times that a clock can show. -/
theorem valid_of_ofJson? {j : Json} {s : SessionState} (h : ofJson? j = some s) : s.Valid := by
  unfold ofJson? at h
  obtain ⟨r, -, h⟩ := Option.bind_eq_some_iff.1 h
  obtain ⟨activeAgent, -, h⟩ := Option.bind_eq_some_iff.1 h
  obtain ⟨agentFile, -, h⟩ := Option.bind_eq_some_iff.1 h
  obtain ⟨activatedAt, hactivated, h⟩ := Option.bind_eq_some_iff.1 h
  obtain ⟨lastActivity, hlast, h⟩ := Option.bind_eq_some_iff.1 h
  obtain ⟨currentTask, -, h⟩ := Option.bind_eq_some_iff.1 h
  obtain ⟨history, hhistory, h⟩ := Option.bind_eq_some_iff.1 h
  cases h
  refine ⟨?_, ?_, ?_⟩
  · rintro t ⟨⟩
    obtain ⟨i, hi⟩ := Json.Record.exists_of_optional hactivated
    exact Instant.valid_of_ofJson? hi
  · rintro t ⟨⟩
    obtain ⟨i, hi⟩ := Json.Record.exists_of_optional hlast
    exact Instant.valid_of_ofJson? hi
  · intro e he
    unfold Json.Record.withDefault at hhistory
    split at hhistory
    · obtain ⟨i, hi⟩ := Json.exists_of_mem_asList? hhistory he
      exact HistoryEntry.valid_of_ofJson? hi
    · cases hhistory
      cases he

end SessionState

end AgentGovernance
