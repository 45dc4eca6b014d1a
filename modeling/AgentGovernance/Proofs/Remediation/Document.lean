-- SUMMARY: An escalation record that is written as a document is read as itself.
import AgentGovernance.Proofs.Session.Document
import AgentGovernance.Remediation.Escalation

/-!
# Escalation records as documents

Main statement: a record whose numbers and times are in range is read as itself from the document
that is written for it.
-/

namespace AgentGovernance

open Json (Plain)

/-! ## Words -/

theorem Severity.ofJson?_toJson (s : Severity) : Severity.ofJson? s.toJson = some s := by
  cases s <;> decide

theorem FindingKind.asWord?_text (k : FindingKind) :
    Json.asWord? FindingKind.words (.string k.text) = some k := by
  cases k <;> decide

theorem FixOutcome.asWord?_text (o : FixOutcome) :
    Json.asWord? FixAttempt.outcomeWords (.string o.text) = some o := by
  cases o <;> decide

/-! ## Findings -/

/-- The line, if there is one, has 32 bits. -/
def Location.Valid (l : Location) : Prop := ∀ n ∈ l.line, n < 2 ^ 32

theorem Location.ofJson?_toJson {l : Location} (h : l.Valid) : Location.ofJson? l.toJson = some l := by
  obtain ⟨r, hr, -, hvalue⟩ := Json.asRecord?_object ["resource", "line"]
    (("resource", .string l.resource) :: Json.fieldIfSome "line" .nat l.line)
    (by cases l.line <;> simp [Json.fieldIfSome])
  have hline : r.optional "line" (Json.asNatBelow? (Nat.pow 2 32)) = some l.line := by
    refine Json.Record.optional_of_value? .nat ?_
      (fun n hn => Json.asNatBelow?_nat (h n hn)) fun _ hnull => by cases hnull
    rw [hvalue _ (by simp), List.lookup_cons, Json.lookup_fieldIfSome]
    simp
  have hresource : r.value? "resource" = some (.string l.resource) := by
    rw [hvalue _ (by simp), List.lookup_cons_self]
  rw [ofJson?, toJson, hr]
  simp [Json.Record.required, hresource, hline, Json.asString?]

theorem Location.plain_toJson {l : Location} (h : l.Valid) (d : Nat) : Plain (d + 1) l.toJson := by
  refine .object ?_
  simp only [List.forall_mem_cons]
  refine ⟨.string _, Json.plain_fieldIfSome fun n hn => Json.plain_nat ?_⟩
  exact Nat.lt_trans (h n hn) (by decide)

theorem Finding.ofJson?_toJson {f : Finding} (h : f.location.Valid) :
    Finding.ofJson? f.toJson = some f := by
  let fields : List (String × Json) :=
    [("validator_id", .string f.validatorId), ("severity", f.severity.toJson),
     ("location", f.location.toJson), ("description", .string f.description)] ++
    Json.fieldIfSome "evidence" .string f.evidence ++ [("kind", .string f.kind.text)]
  obtain ⟨r, hr, -, hvalue⟩ := Json.asRecord?_object
    ["validator_id", "severity", "location", "description", "evidence", "kind"] fields
    (by cases h : f.evidence <;> simp [fields, h, Json.fieldIfSome])
  have hlookup (n : String) : fields.lookup n =
      ([("validator_id", .string f.validatorId), ("severity", f.severity.toJson),
        ("location", f.location.toJson), ("description", .string f.description)].lookup n).or
      ((if n = "evidence" then f.evidence.map .string else none).or
        ([("kind", .string f.kind.text)].lookup n)) := by
    simp only [fields, List.lookup_append, Json.lookup_fieldIfSome, Option.or_assoc]
  simp only [hlookup] at hvalue
  have hevidence : r.optional "evidence" Json.asString? = some f.evidence := by
    refine Json.Record.optional_of_value? .string ?_ (fun _ _ => rfl) fun _ hnull => by cases hnull
    rw [hvalue _ (by simp)]
    simp [List.lookup_cons]
  have hread : Finding.ofJson? (.object fields) = some f := by
    rw [ofJson?, hr]
    simp [Json.Record.required, Json.Record.withDefault, hvalue, hevidence, List.lookup_cons,
      Json.asString?, Severity.ofJson?_toJson, Location.ofJson?_toJson h, FindingKind.asWord?_text]
  exact hread

theorem Finding.plain_toJson {f : Finding} (h : f.location.Valid) (d : Nat) :
    Plain (d + 2) f.toJson := by
  refine .object ?_
  simp only [List.forall_mem_append, List.forall_mem_cons]
  exact ⟨⟨⟨.string _, .string _, Location.plain_toJson h d, .string _, nofun⟩,
    Json.plain_fieldIfSome fun _ _ => .string _⟩, .string _, nofun⟩

/-! ## Attempts -/

/-- The number of the attempt has 64 bits, and a clock can show its time. -/
structure FixAttempt.Valid (a : FixAttempt) : Prop where
  iteration : a.iteration < 2 ^ 64
  time : a.time.Valid

theorem FixAttempt.ofJson?_toJson {a : FixAttempt} (h : a.Valid) :
    FixAttempt.ofJson? a.toJson = some a := by
  let fields : List (String × Json) :=
    [("iteration", .nat a.iteration), ("strategy", .string a.strategy),
     ("outcome", .string a.outcome.text)] ++ Json.fieldIfSome "error" .string a.error ++
    [("at", a.time.toJson)]
  obtain ⟨r, hr, -, hvalue⟩ := Json.asRecord?_object
    ["iteration", "strategy", "outcome", "error", "at"] fields
    (by cases h : a.error <;> simp [fields, h, Json.fieldIfSome])
  have hlookup (n : String) : fields.lookup n =
      ([("iteration", .nat a.iteration), ("strategy", .string a.strategy),
        ("outcome", .string a.outcome.text)].lookup n).or
      ((if n = "error" then a.error.map .string else none).or
        ([("at", a.time.toJson)].lookup n)) := by
    simp only [fields, List.lookup_append, Json.lookup_fieldIfSome, Option.or_assoc]
  simp only [hlookup] at hvalue
  have herror : r.optional "error" Json.asString? = some a.error := by
    refine Json.Record.optional_of_value? .string ?_ (fun _ _ => rfl) fun _ hnull => by cases hnull
    rw [hvalue _ (by simp)]
    simp [List.lookup_cons]
  have hiteration : Json.asNat? (.nat a.iteration) = some a.iteration :=
    Json.asNatBelow?_nat h.iteration
  have hread : FixAttempt.ofJson? (.object fields) = some a := by
    rw [ofJson?, hr]
    simp [Json.Record.required, hvalue, herror, List.lookup_cons, Json.asString?, hiteration,
      Instant.ofJson?_toJson h.time, FixOutcome.asWord?_text]
  exact hread

theorem FixAttempt.plain_toJson {a : FixAttempt} (h : a.Valid) (d : Nat) :
    Plain (d + 1) a.toJson := by
  refine .object ?_
  simp only [List.forall_mem_append, List.forall_mem_cons]
  exact ⟨⟨⟨Json.plain_nat h.iteration, .string _, .string _, nofun⟩,
    Json.plain_fieldIfSome fun _ _ => .string _⟩, .string _, nofun⟩

/-! ## Records -/

namespace EscalationRecord

/-- The numbers and times of a record are in range. -/
structure Valid (r : EscalationRecord) : Prop where
  finding : r.finding.location.Valid
  attempts : ∀ a ∈ r.attempts, a.Valid
  escalatedAt : r.escalatedAt.Valid

theorem ofJson?_toJson {r : EscalationRecord} (h : r.Valid) : ofJson? r.toJson = some r := by
  obtain ⟨s, hs, -, hvalue⟩ := Json.asRecord?_object
    ["fingerprint", "finding", "attempts", "reason", "escalated_at"]
    [("fingerprint", .string r.fingerprint), ("finding", r.finding.toJson),
     ("attempts", .list FixAttempt.toJson r.attempts), ("reason", .string r.reason),
     ("escalated_at", r.escalatedAt.toJson)] (by simp)
  have hattempts : Json.asList? FixAttempt.ofJson? (.list FixAttempt.toJson r.attempts) =
      some r.attempts :=
    Json.asList?_list fun a ha => FixAttempt.ofJson?_toJson (h.attempts a ha)
  rw [ofJson?, toJson, hs]
  simp [Json.Record.required, hvalue, List.lookup_cons, Json.asString?, hattempts,
    Finding.ofJson?_toJson h.finding, Instant.ofJson?_toJson h.escalatedAt]

theorem plain_toJson {r : EscalationRecord} (h : r.Valid) (d : Nat) : Plain (d + 3) r.toJson := by
  refine .object ?_
  simp only [List.forall_mem_cons]
  exact ⟨.string _, Finding.plain_toJson h.finding d,
    Json.plain_list fun a ha => FixAttempt.plain_toJson (h.attempts a ha) d, .string _, .string _,
    nofun⟩

end EscalationRecord

end AgentGovernance
