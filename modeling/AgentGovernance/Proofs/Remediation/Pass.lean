-- SUMMARY: How often strategies are applied to a finding in a whole pass over a report.
import AgentGovernance.Proofs.Remediation.Finality

/-!
# Attempts of a pass

One fix applies at most `maxAttempts` strategies, but a report may list a finding more than once: the
severity is not part of its identity. An escalation stops all later attempts on the fingerprint. A
fix does not: the next finding with the fingerprint is given attempts of its own.

So a pass keeps to the bound for each fingerprint that is not listed again after it was fixed, and
every fix that is followed by another listing of its fingerprint may cost `maxAttempts` more.
-/

namespace AgentGovernance

namespace Engine

variable {σ : Type} {e : Engine σ} {f : Finding} {j k : Journal (EngineWorld (Recorded σ))}

/-- How many of the calls applied a strategy to a finding with the fingerprint. -/
def appliedFor (fingerprint : String) (calls : List PluginCall) : Nat :=
  (calls.filterMap PluginCall.applied?).countP fun applied => applied.2.fingerprint == fingerprint

@[simp] theorem appliedFor_nil (fingerprint : String) : appliedFor fingerprint [] = 0 := rfl

@[simp] theorem appliedFor_append (fingerprint : String) (calls calls' : List PluginCall) :
    appliedFor fingerprint (calls ++ calls') =
      appliedFor fingerprint calls + appliedFor fingerprint calls' := by
  simp [appliedFor]

/-! ## One fix -/

section Handles

variable {ledger ledger' : List (String × RemediationResult)} {r : RemediationResult}
  {calls : List PluginCall}

/-- A fix applies strategies to its own finding, and not too many. -/
theorem Handles.applied (h : Handles f ledger r calls ledger') :
    ∃ names : List String, names.length ≤ maxAttempts ∧
      calls.filterMap PluginCall.applied? = names.map fun name => (name, f) := by
  cases h with
  | again hknown => exact ⟨[], Nat.zero_le _, rfl⟩
  | found hopen hr => exact ⟨[], Nat.zero_le _, rfl⟩
  | handedOn hopen hr hrecord => exact ⟨[], Nat.zero_le _, rfl⟩
  | tried hopen htried hbound hclosing =>
    refine ⟨r.attempts.map (·.strategy), by simpa using hbound, ?_⟩
    rw [List.filterMap_cons_none rfl, List.filterMap_append, htried.applied, hclosing.applied,
      List.append_nil, List.map_map]
    rfl

theorem Handles.appliedFor_le (h : Handles f ledger r calls ledger') (fingerprint : String) :
    appliedFor fingerprint calls ≤ maxAttempts := by
  obtain ⟨names, hbound, happlied⟩ := h.applied
  unfold appliedFor
  rw [happlied]
  refine Nat.le_trans List.countP_le_length ?_
  simpa using hbound

theorem Handles.appliedFor_of_ne (h : Handles f ledger r calls ledger') {fingerprint : String}
    (hne : f.fingerprint ≠ fingerprint) : appliedFor fingerprint calls = 0 := by
  obtain ⟨names, -, happlied⟩ := h.applied
  unfold appliedFor
  rw [happlied]
  simp [List.countP_map, Function.comp_def, hne]

/-- A fix ends with a fix or with an escalation. -/
theorem Handles.ended (h : Handles f ledger r calls ledger') :
    r.isFixed = true ∨ r.isEscalated = true := by
  cases h with
  | again hknown => exact .inr hknown.2
  | found hopen hr => exact .inr hr
  | handedOn hopen hr hrecord => exact .inr hr
  | tried hopen htried hbound hclosing =>
    simpa [RemediationResult.isFixed, RemediationResult.isEscalated] using hclosing.state.2.2

end Handles

/-! ## Fixes one after the other -/

/-- How many answers for the fingerprint say fixed and are followed by one more for it. -/
def refixed (fingerprint : String) (answers : List FixAnswer) : Nat :=
  (answers.filter fun a => a.finding.fingerprint == fingerprint).dropLast.countP
    fun a => a.result.isFixed

theorem refixed_cons_of_ne {fingerprint : String} {a : FixAnswer}
    (hne : a.finding.fingerprint ≠ fingerprint) (answers : List FixAnswer) :
    refixed fingerprint (a :: answers) = refixed fingerprint answers := by
  simp [refixed, hne]

/-- A fix counts if its fingerprint is listed again. -/
theorem refixed_cons_of_fixed {a b : FixAnswer} {answers : List FixAnswer} (hb : b ∈ answers)
    (hsame : b.finding.fingerprint = a.finding.fingerprint) (hfixed : a.result.isFixed = true) :
    refixed a.finding.fingerprint (a :: answers) =
      refixed a.finding.fingerprint answers + 1 := by
  have hne : (answers.filter fun c => c.finding.fingerprint == a.finding.fingerprint) ≠ [] :=
    List.ne_nil_of_mem (List.mem_filter.2 ⟨hb, by simp [hsame]⟩)
  simp [refixed, List.dropLast_cons_of_ne_nil hne, hfixed]

/-- Nothing is applied for a fingerprint if all answers for it came without a call. -/
theorem Fixes.appliedFor_eq_zero {answers : List FixAnswer} (h : Fixes e j answers k)
    {fingerprint : String}
    (hsilent : ∀ a ∈ answers, a.finding.fingerprint = fingerprint → a.calls = []) :
    appliedFor fingerprint (answers.flatMap (·.calls)) = 0 := by
  induction h with
  | none => rfl
  | @fix f _ _ calls _ _ _ _ hfix hcalls _ ih =>
    obtain ⟨hfirst, hlater⟩ := List.forall_mem_cons.1 hsilent
    have happlied : appliedFor fingerprint calls = 0 := by
      by_cases hf : f.fingerprint = fingerprint
      · obtain rfl : calls = [] := hfirst hf
        exact appliedFor_nil fingerprint
      · exact (handles_of_fix hfix hcalls).appliedFor_of_ne hf
    rw [List.flatMap_cons, appliedFor_append, happlied, ih hlater]
  | event event _ ih => exact ih hsilent

/-- Every fix that is followed by another answer for its fingerprint may cost the bound once more. -/
theorem Fixes.appliedFor_le {answers : List FixAnswer} (h : Fixes e j answers k)
    (fingerprint : String) :
    appliedFor fingerprint (answers.flatMap (·.calls)) ≤
      maxAttempts * (refixed fingerprint answers + 1) := by
  induction h with
  | none => exact Nat.zero_le _
  | @fix f _ r calls answers _ _ _ hfix hcalls hrest ih =>
    have hhandles := handles_of_fix hfix hcalls
    have hbound := hhandles.appliedFor_le fingerprint
    rw [List.flatMap_cons, appliedFor_append]
    by_cases hf : f.fingerprint = fingerprint
    · subst hf
      -- Only a fix with an answer to come leaves the fingerprint open for more.
      by_cases hlast : (∀ a ∈ answers, a.finding.fingerprint = f.fingerprint → a.calls = [])
      · rw [hrest.appliedFor_eq_zero hlast, Nat.add_zero]
        exact Nat.le_trans hbound (Nat.le_mul_of_pos_right _ (Nat.succ_pos _))
      · obtain ⟨a, ha, hsame, hcalled⟩ : ∃ a ∈ answers, a.finding.fingerprint = f.fingerprint ∧
            a.calls ≠ [] := by simpa using hlast
        have hfixed : r.isFixed = true := by
          rcases hhandles.ended with hfixed | hescalated
          · exact hfixed
          · have hkeeps := hrest.keeps (hhandles.settles.escalated hescalated)
            exact absurd (hkeeps.2 a ha hsame).2 hcalled
        have hone := refixed_cons_of_fixed (a := ⟨f, r, calls⟩) ha hsame hfixed
        rw [hone, Nat.mul_add, Nat.mul_one, Nat.add_comm]
        exact Nat.add_le_add ih hbound
    · rw [hhandles.appliedFor_of_ne hf, Nat.zero_add,
        refixed_cons_of_ne (a := ⟨f, r, calls⟩) hf]
      exact ih
  | event event _ ih => exact ih

/-! ## A pass -/

/-- A pass handles every finding of the report but the remarks, in order. For no fingerprint it
applies more than `maxAttempts` strategies, unless the fingerprint is listed again after a fix. -/
theorem pass_attempts_bounded (e : Engine σ) (report : AuditReport) (now : Instant)
    (j : Journal (EngineWorld σ)) :
    ∃ (answers : List FixAnswer) (k : Journal (EngineWorld (Recorded σ))),
      e.fixAll report now j = .ok (answers.map FixAnswer.pair) (k.seen EngineWorld.unrecorded) ∧
      e.recorded.fixAll report now (j.seen EngineWorld.recorded) =
        .ok (answers.map FixAnswer.pair) k ∧
      answers.map (·.finding) =
        report.findings.filter (fun f => decide (Severity.info < f.severity)) ∧
      ∀ fingerprint, appliedFor fingerprint k.world.outer.calls ≤
        maxAttempts * (refixed fingerprint answers + 1) := by
  obtain ⟨answers, k, hrecorded, hfixes, hfindings⟩ :=
    e.fixes_fixAll report now (j.seen EngineWorld.recorded)
  obtain ⟨_, rfl, hplain⟩ := (e.looksLike_fixAll report now).ok hrecorded
  have hcalls : k.world.outer.calls = answers.flatMap (·.calls) := hfixes.calls
  refine ⟨answers, k, hplain, hrecorded, hfindings, ?_⟩
  intro fingerprint
  rw [hcalls]
  exact hfixes.appliedFor_le fingerprint

/-- Two of three strategies fail, the third one fixes the finding, and the report lists it with two
severities. All three are applied twice. -/
theorem pass_retries_fixed_finding :
    let f : Finding :=
      { validatorId := "deps", severity := .high, location := { resource := "Cargo.lock" }
        description := "outdated crate" }
    let deps : Validator Unit := { id := "deps", run := fun _ _ => return .inTime [] }
    let locked : GovernanceError := .remediation (.stated "locked")
    let strategy (name : String) (act : Act Unit (Timed Unit)) : FixStrategy Unit :=
      { name, appliesTo := fun _ => true, apply := fun _ _ _ => act }
    let e : Engine Unit :=
      { scope := default, validators := [deps]
        strategies := [strategy "bump" (Act.fail locked), strategy "pin" (Act.fail locked),
          strategy "drop" (return .inTime ())] }
    let report : AuditReport :=
      { (default : AuditReport) with findings := [f, { f with severity := .medium }] }
    ∃ results k, e.recorded.fixAll report ⟨0, 0⟩ { world := { outer := { inner := () } } } =
        .ok results k ∧
      maxAttempts < appliedFor f.fingerprint k.world.outer.calls := by
  intro f deps locked strategy e report
  have hsame (severity : Severity) : { f with severity }.fingerprint = f.fingerprint := rfl
  -- Whatever was done before, all that matters is that the fingerprint is not escalated.
  have hfix (severity : Severity) (j : Journal (EngineWorld (Recorded Unit)))
      (hopen : ∀ r, j.world.ledger.lookup f.fingerprint = some r → r.isEscalated = false) :
      ∃ r k calls, e.recorded.fix { f with severity } ⟨0, 0⟩ j = .ok r k ∧
        r.isEscalated = false ∧
        k.world.ledger = settledLedger j.world.ledger f.fingerprint r ∧
        k.world.outer.calls = j.world.outer.calls ++ calls ∧
        appliedFor f.fingerprint calls = maxAttempts := by
    obtain ⟨found, s, hfind, ⟨record, -, rfl, -⟩ | ⟨-, inner, hends⟩⟩ :=
      e.makes_settledEscalation hopen
    · cases hfind.1
    obtain ⟨k, hnone, hk⟩ := hends.ok
    have hledger : k.world.ledger = j.world.ledger := by rw [hk]
    have hcalls : k.world.outer.calls = j.world.outer.calls ++ [.find f.fingerprint found] := by
      rw [hk]
    rw [fix, hsame, Act.bind_of_ok hnone, ← hledger]
    refine ⟨_, _, [.find f.fingerprint found,
      .select (some "bump"), .apply "bump" { f with severity } (.error locked),
      .select (some "pin"), .apply "pin" { f with severity } (.error locked),
      .select (some "drop"), .apply "drop" { f with severity } (.ok (.inTime ())),
      .validate "deps" (.ok (.inTime []))], rfl, rfl, rfl, ?_, ?_⟩
    · change ((((((k.world.outer.calls ++ _) ++ _) ++ _) ++ _) ++ _) ++ _) ++ _ = _
      rw [hcalls]
      simp only [List.append_assoc]
      rfl
    · change [("bump", _), ("pin", _), ("drop", _)].countP _ = 3
      simp [hsame]
  obtain ⟨r, k, calls, hfirst, hr, hledger, hcalls, happlied⟩ :=
    hfix .high { world := { outer := { inner := () } } } nofun
  have hfixed (r' : RemediationResult) (hr' : k.world.ledger.lookup f.fingerprint = some r') :
      r'.isEscalated = false := by
    rw [hledger, lookup_settledLedger_self] at hr'
    cases hr'
    exact hr
  obtain ⟨r', l, calls', hsecond, -, -, hcalls', happlied'⟩ := hfix .medium k hfixed
  have heach : e.recorded.fixEach ⟨0, 0⟩
      (report.findings.filter fun f => decide (Severity.info < f.severity)) _ = .ok _ l :=
    fixEach_cons_of_ok hfirst (fixEach_cons_of_ok hsecond rfl)
  obtain ⟨event, hall⟩ := fixAll_of_ok heach
  refine ⟨_, _, hall, ?_⟩
  change maxAttempts < appliedFor f.fingerprint l.world.outer.calls
  rw [hcalls', hcalls, appliedFor_append, appliedFor_append, happlied, happlied']
  decide

end Engine

end AgentGovernance
