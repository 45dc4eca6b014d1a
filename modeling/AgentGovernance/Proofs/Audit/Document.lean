-- SUMMARY: An audit report that is written as a document is read as itself.
import AgentGovernance.Audit.Report
import AgentGovernance.Proofs.Remediation.Document
import AgentGovernance.Proofs.Scope.SortedSet

/-!
# Audit reports as documents

Main statement: a report whose numbers and times are in range, and whose sets and maps are in order,
is read as itself from the document that is written for it.
-/

namespace AgentGovernance

open Json (Plain)

/-! ## Words -/

theorem Verdict.asWord?_text (v : Verdict) : Json.asWord? Verdict.words (.string v.text) = some v := by
  cases v <;> decide

theorem AuditPhase.asWord?_text (p : AuditPhase) :
    Json.asWord? AuditPhase.words (.string p.text) = some p := by
  cases p <;> decide

/-! ## Parts -/

/-- No targets are left out, and read as none. -/
theorem AuditScope.ofJson?_toJson (s : AuditScope) : AuditScope.ofJson? s.toJson = some s := by
  let fields : List (String × Json) := ("root", s.root.toJson) ::
    if s.targets.isEmpty then [] else [("targets", .list Path.toJson s.targets)]
  obtain ⟨r, hr, -, hvalue⟩ := Json.asRecord?_object ["root", "targets"] fields (by
    dsimp only [fields]
    split <;> simp)
  have htargets : r.withDefault "targets" [] (Json.asList? Path.ofJson?) = some s.targets := by
    unfold Json.Record.withDefault
    rw [hvalue _ (by simp)]
    cases htargets : s.targets with
    | nil => simp [fields, htargets, List.lookup_cons]
    | cons p ps =>
      simpa [fields, htargets, List.lookup_cons] using
        (Json.asList?_list fun p _ => Path.ofJson?_toJson p :
          Json.asList? Path.ofJson? (.list Path.toJson (p :: ps)) = _)
  have hroot : r.value? "root" = some s.root.toJson := by
    rw [hvalue _ (by simp), List.lookup_cons_self]
  have hread : AuditScope.ofJson? (.object fields) = some s := by
    rw [ofJson?, hr]
    simp [Json.Record.required, hroot, htargets, Path.ofJson?_toJson]
  exact hread

theorem AuditScope.plain_toJson (s : AuditScope) (d : Nat) : Plain (d + 2) s.toJson := by
  refine .object ?_
  simp only [List.forall_mem_cons]
  refine ⟨.string _, ?_⟩
  split
  · exact nofun
  · simpa using Json.plain_list fun p _ => (.string p.text : Plain d p.toJson)

theorem ValidatorFailure.ofJson?_toJson (f : ValidatorFailure) :
    ValidatorFailure.ofJson? f.toJson = some f := by
  obtain ⟨r, hr, -, hvalue⟩ := Json.asRecord?_object ["validator_id", "reason"]
    [("validator_id", .string f.validatorId), ("reason", .string f.reason)] (by simp)
  simp [ofJson?, toJson, hr, Json.Record.required, hvalue, List.lookup_cons, Json.asString?]

theorem ValidatorFailure.plain_toJson (f : ValidatorFailure) (d : Nat) : Plain (d + 1) f.toJson := by
  refine .object ?_
  simp only [List.forall_mem_cons]
  exact ⟨.string _, .string _, nofun⟩

theorem Json.asList?_strings (xs : List String) : asList? asString? (strings xs) = some xs :=
  asList?_list fun _ _ => rfl

theorem Json.plain_strings (xs : List String) (d : Nat) : Plain (d + 1) (strings xs) :=
  plain_list fun s _ => .string s

/-- The validators of a rule are a set: in order, and none of them twice. -/
theorem FiredRule.ofJson?_toJson {r : FiredRule} (h : r.validators.Pairwise (· < ·)) :
    FiredRule.ofJson? r.toJson = some r := by
  obtain ⟨s, hs, -, hvalue⟩ := Json.asRecord?_object
    ["rule_id", "validators", "severity", "rationale", "contributing"]
    [("rule_id", .string r.ruleId), ("validators", .strings r.validators),
     ("severity", r.severity.toJson), ("rationale", .string r.rationale),
     ("contributing", .strings r.contributing)] (by simp)
  have hvalidators : Json.asTextSet? (.strings r.validators) = some r.validators := by
    rw [Json.asTextSet?, Json.asList?_strings, Option.map_some, sortedSet_of_sorted h]
  rw [ofJson?, toJson, hs]
  simp [Json.Record.required, hvalue, List.lookup_cons, Json.asString?, hvalidators,
    Severity.ofJson?_toJson, Json.asList?_strings]

theorem FiredRule.plain_toJson (r : FiredRule) (d : Nat) : Plain (d + 2) r.toJson := by
  refine .object ?_
  simp only [List.forall_mem_cons]
  exact ⟨.string _, Json.plain_strings _ d, .string _, .string _, Json.plain_strings _ d, nofun⟩

/-- The counts have 64 bits. -/
structure SeverityCounts.Valid (c : SeverityCounts) : Prop where
  critical : c.critical < 2 ^ 64
  high : c.high < 2 ^ 64
  medium : c.medium < 2 ^ 64
  low : c.low < 2 ^ 64
  info : c.info < 2 ^ 64

theorem SeverityCounts.ofJson?_toJson {c : SeverityCounts} (h : c.Valid) :
    SeverityCounts.ofJson? c.toJson = some c := by
  obtain ⟨r, hr, -, hvalue⟩ := Json.asRecord?_object ["critical", "high", "medium", "low", "info"]
    [("critical", .nat c.critical), ("high", .nat c.high), ("medium", .nat c.medium),
     ("low", .nat c.low), ("info", .nat c.info)] (by simp)
  have hnat {n : Nat} (hn : n < 2 ^ 64) : Json.asNat? (.nat n) = some n := Json.asNatBelow?_nat hn
  rw [ofJson?, toJson, hr]
  simp [Json.Record.required, hvalue, List.lookup_cons, hnat h.critical, hnat h.high,
    hnat h.medium, hnat h.low, hnat h.info]

theorem SeverityCounts.plain_toJson {c : SeverityCounts} (h : c.Valid) (d : Nat) :
    Plain (d + 1) c.toJson := by
  refine .object ?_
  simp only [List.forall_mem_cons]
  exact ⟨Json.plain_nat h.critical, Json.plain_nat h.high, Json.plain_nat h.medium,
    Json.plain_nat h.low, Json.plain_nat h.info, nofun⟩

/-! ## Reports -/

namespace AuditReport

/-- The numbers and times of a report are in range, what each validator gave stands under its id in
order, and so do the validators of each rule. -/
structure Valid (r : AuditReport) : Prop where
  startedAt : r.startedAt.Valid
  finishedAt : r.finishedAt.Valid
  raw : Json.SortedByName r.raw
  rawFindings : ∀ field ∈ r.raw, ∀ f ∈ field.2, f.location.Valid
  firedRules : ∀ rule ∈ r.firedRules, rule.validators.Pairwise (· < ·)
  findings : ∀ f ∈ r.findings, f.location.Valid
  counts : r.counts.Valid

theorem ofJson?_toJson {r : AuditReport} (h : r.Valid) : ofJson? r.toJson = some r := by
  let before : List (String × Json) :=
    [("run_id", .string r.runId), ("started_at", r.startedAt.toJson),
     ("finished_at", r.finishedAt.toJson), ("scope", r.scope.toJson)]
  let after : List (String × Json) :=
    [("validators", .strings r.validators),
     ("raw", .object (r.raw.map fun field => (field.1, .list Finding.toJson field.2))),
     ("failed_validators", .list ValidatorFailure.toJson r.failedValidators),
     ("fired_rules", .list FiredRule.toJson r.firedRules),
     ("findings", .list Finding.toJson r.findings), ("counts", r.counts.toJson),
     ("verdict", .string r.verdict.text), ("verdict_reason", .string r.verdictReason),
     ("phases", .list (fun p => .string p.text) r.phases)]
  let fields := before ++ Json.fieldIfSome "requested_by" .string r.requestedBy ++ after
  have hnames : (fields.map (·.1)).Nodup := by
    cases hby : r.requestedBy <;> simp [fields, before, after, hby, Json.fieldIfSome]
  obtain ⟨s, hs, -, hvalue⟩ := Json.asRecord?_object fieldNames fields hnames
  -- All fields but one are always there: each of them is read at its place in the document.
  have hget {n : String} {j : Json} {α : Type} {decode : Json → Option α} {a : α} (i : Nat)
      (hi : (before ++ after)[i]? = some (n, j)) (hn : n ∈ fieldNames)
      (hdecode : decode j = some a) : s.required n decode = some a := by
    refine Json.Record.required_of_mem hnames (hvalue n hn) ?_ hdecode
    rcases List.mem_append.1 (List.mem_of_getElem? hi) with hmem | hmem
    · exact List.mem_append_left _ (List.mem_append_left _ hmem)
    · exact List.mem_append_right _ hmem
  have hid : s.required "run_id" Json.asString? = some r.runId :=
    hget 0 rfl (by decide) rfl
  have hstarted : s.required "started_at" Instant.ofJson? = some r.startedAt :=
    hget 1 rfl (by decide) (Instant.ofJson?_toJson h.startedAt)
  have hfinished : s.required "finished_at" Instant.ofJson? = some r.finishedAt :=
    hget 2 rfl (by decide) (Instant.ofJson?_toJson h.finishedAt)
  have hscope : s.required "scope" AuditScope.ofJson? = some r.scope :=
    hget 3 rfl (by decide) r.scope.ofJson?_toJson
  have hrequestedBy : s.optional "requested_by" Json.asString? = some r.requestedBy := by
    refine Json.Record.optional_of_value? .string ?_ (fun _ _ => rfl) fun _ hnull => by cases hnull
    rw [hvalue _ (by decide)]
    simp [fields, before, after, List.lookup_append, Json.lookup_fieldIfSome, List.lookup_cons]
  have hvalidators : s.required "validators" (Json.asList? Json.asString?) = some r.validators :=
    hget 4 rfl (by decide) (Json.asList?_strings _)
  have hraw : s.required "raw" (Json.asSortedFields? (Json.asList? Finding.ofJson?)) =
      some r.raw := by
    refine hget 5 rfl (by decide) (Json.asSortedFields?_object h.raw fun field hfield => ?_)
    exact Json.asList?_list fun f hf => Finding.ofJson?_toJson (h.rawFindings field hfield f hf)
  have hfailed : s.required "failed_validators" (Json.asList? ValidatorFailure.ofJson?) =
      some r.failedValidators :=
    hget 6 rfl (by decide) (Json.asList?_list fun f _ => f.ofJson?_toJson)
  have hfired : s.required "fired_rules" (Json.asList? FiredRule.ofJson?) = some r.firedRules :=
    hget 7 rfl (by decide)
      (Json.asList?_list fun rule hrule => FiredRule.ofJson?_toJson (h.firedRules rule hrule))
  have hfindings : s.required "findings" (Json.asList? Finding.ofJson?) = some r.findings :=
    hget 8 rfl (by decide)
      (Json.asList?_list fun f hf => Finding.ofJson?_toJson (h.findings f hf))
  have hcounts : s.required "counts" SeverityCounts.ofJson? = some r.counts :=
    hget 9 rfl (by decide) (SeverityCounts.ofJson?_toJson h.counts)
  have hverdict : s.required "verdict" (Json.asWord? Verdict.words) = some r.verdict :=
    hget 10 rfl (by decide) r.verdict.asWord?_text
  have hreason : s.required "verdict_reason" Json.asString? = some r.verdictReason :=
    hget 11 rfl (by decide) rfl
  have hphases : s.required "phases" (Json.asList? (Json.asWord? AuditPhase.words)) =
      some r.phases :=
    hget 12 rfl (by decide) (Json.asList?_list fun p _ => p.asWord?_text)
  have hread : ofJson? (.object fields) = some r := by
    refine Option.bind_eq_some_iff.2 ⟨s, hs, ?_⟩
    rw [hid, hstarted, hfinished, hscope, hrequestedBy, hvalidators, hraw, hfailed, hfired,
      hfindings, hcounts, hverdict, hreason, hphases]
    rfl
  exact hread

theorem plain_toJson {r : AuditReport} (h : r.Valid) (d : Nat) : Plain (d + 5) r.toJson := by
  have hraw : ∀ field ∈ r.raw.map fun field => (field.1, Json.list Finding.toJson field.2),
      Plain (d + 3) field.2 := by
    intro field hfield
    obtain ⟨found, hmem, rfl⟩ := List.mem_map.1 hfield
    exact Json.plain_list fun f hf => Finding.plain_toJson (h.rawFindings _ hmem f hf) d
  refine .object ?_
  simp only [List.forall_mem_append, List.forall_mem_cons]
  exact ⟨⟨⟨.string _, .string _, .string _, AuditScope.plain_toJson _ _, List.forall_mem_nil _⟩,
    Json.plain_fieldIfSome fun _ _ => .string _⟩,
    Json.plain_strings _ _, .object hraw,
    Json.plain_list fun f _ => f.plain_toJson _, Json.plain_list fun rule _ => rule.plain_toJson _,
    Json.plain_list fun f hf => Finding.plain_toJson (h.findings f hf) _,
    SeverityCounts.plain_toJson h.counts _, .string _, .string _,
    Json.plain_list fun _ _ => .string _, List.forall_mem_nil _⟩

end AuditReport

end AgentGovernance
