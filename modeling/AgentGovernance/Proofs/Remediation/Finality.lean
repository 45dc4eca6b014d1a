-- SUMMARY: Escalations are final: an escalated finding is never worked on again, in any run.
import AgentGovernance.Proofs.Remediation.FixLoop

/-!
# Escalations are final

Every fix of a run either finds an escalation of its fingerprint in the ledger, and then repeats the
result without calling a plug-in, or puts its own result there. So a result that says escalated stays
in the ledger, and the channel is given at most one record for a fingerprint, whatever it answers.
-/

namespace AgentGovernance

/-- What an engine is asked for. -/
inductive FixRequest where
  | fix (f : Finding) (now : Instant)
  | fixAll (report : AuditReport) (now : Instant)

/-- The result of one fix and the calls that were made for it. -/
structure FixAnswer where
  finding : Finding
  result : RemediationResult
  calls : List PluginCall

/-- The answer without its calls. -/
def FixAnswer.pair (a : FixAnswer) : Finding × RemediationResult := (a.finding, a.result)

namespace Engine

variable {σ : Type} (e : Engine σ) {f : Finding} {j k l : Journal (EngineWorld (Recorded σ))}

/-! ## The ledger -/

theorem isEscalated_iff {r : RemediationResult} : r.isEscalated = true ↔ r.state = .escalated := by
  simp [RemediationResult.isEscalated]

/-- The ledger holds an escalation of the fingerprint. -/
def Escalated (ledger : List (String × RemediationResult)) (fingerprint : String)
    (r : RemediationResult) : Prop :=
  ledger.lookup fingerprint = some r ∧ r.isEscalated = true

theorem lookup_settledLedger_self (ledger : List (String × RemediationResult)) (fingerprint : String)
    (r : RemediationResult) :
    (settledLedger ledger fingerprint r).lookup fingerprint = some r :=
  List.lookup_cons_self

theorem lookup_settledLedger_of_ne (ledger : List (String × RemediationResult))
    {fingerprint other : String} (h : other ≠ fingerprint) (r : RemediationResult) :
    (settledLedger ledger fingerprint r).lookup other = ledger.lookup other := by
  unfold settledLedger
  rw [List.lookup_cons, beq_eq_false_iff_ne.2 h]
  exact lookup_filter_ne ledger h

/-! ## One fix -/

/-- What a fix does to the ledger and sends to the channel. -/
inductive Settles (fingerprint : String) (ledger : List (String × RemediationResult)) :
    RemediationResult → List PluginCall → List (String × RemediationResult) → Prop
  | again {r : RemediationResult} (h : Escalated ledger fingerprint r) :
    Settles fingerprint ledger r [] ledger
  | anew {r : RemediationResult} {calls : List PluginCall}
    (hopen : ∀ r', ¬ Escalated ledger fingerprint r')
    (hsent : calls.filterMap PluginCall.sent? = [] ∨ r.isEscalated = true ∧
      ∃ record, calls.filterMap PluginCall.sent? = [record] ∧ record.fingerprint = fingerprint) :
    Settles fingerprint ledger r calls (settledLedger ledger fingerprint r)

theorem Tried.sent {attempts : List FixAttempt} {rounds : List (List PluginCall)}
    (h : Tried f attempts rounds) : rounds.flatten.filterMap PluginCall.sent? = [] := by
  rw [h.filterMap fun _ _ hround => hround.sent]
  simp

theorem Closing.sent {fingerprint : String} {r : RemediationResult} {closing : List PluginCall}
    (h : Closing fingerprint r closing) :
    closing.filterMap PluginCall.sent? = [] ∨ r.isEscalated = true ∧
      ∃ record, closing.filterMap PluginCall.sent? = [record] ∧
        record.fingerprint = fingerprint := by
  cases h with
  | fixed hend => exact .inl rfl
  | escalated hend hrecord =>
    refine .inr ⟨rfl, _, ?_, hrecord⟩
    rw [List.filterMap_append]
    cases hend <;> rfl

/-- All that a fix can come to: the result, the calls that are made for it and the ledger after it. -/
inductive Handles (f : Finding) (ledger : List (String × RemediationResult)) :
    RemediationResult → List PluginCall → List (String × RemediationResult) → Prop
  /-- The ledger holds an escalation already. -/
  | again {r : RemediationResult} (h : Escalated ledger f.fingerprint r) : Handles f ledger r [] ledger
  /-- The channel holds one. -/
  | found {r : RemediationResult} {found : Except GovernanceError (Option EscalationRecord)}
    (hopen : ∀ r', ¬ Escalated ledger f.fingerprint r') (hr : r.isEscalated = true) :
    Handles f ledger r [.find f.fingerprint found] (settledLedger ledger f.fingerprint r)
  /-- No validator could confirm a fix. -/
  | handedOn {r : RemediationResult} {found : Except GovernanceError (Option EscalationRecord)}
    {record : EscalationRecord} {sent : Except GovernanceError Unit}
    (hopen : ∀ r', ¬ Escalated ledger f.fingerprint r') (hr : r.isEscalated = true)
    (hrecord : record.fingerprint = f.fingerprint) :
    Handles f ledger r [.find f.fingerprint found, .escalate record sent]
      (settledLedger ledger f.fingerprint r)
  | tried {r : RemediationResult} {found : Except GovernanceError (Option EscalationRecord)}
    {rounds : List (List PluginCall)} {closing : List PluginCall}
    (hopen : ∀ r', ¬ Escalated ledger f.fingerprint r') (htried : Tried f r.attempts rounds)
    (hbound : r.attempts.length ≤ maxAttempts) (hclosing : Closing f.fingerprint r closing) :
    Handles f ledger r (.find f.fingerprint found :: (rounds.flatten ++ closing))
      (settledLedger ledger f.fingerprint r)

/-- A fix always ends. -/
theorem makes_fix (f : Finding) (now : Instant) (j : Journal (EngineWorld (Recorded σ))) :
    ∃ r calls ledger, Makes (e.recorded.fix f now) j r calls ledger ∧
      Handles f j.world.ledger r calls ledger := by
  by_cases hsettled : ∃ r, Escalated j.world.ledger f.fingerprint r
  · obtain ⟨r, hr⟩ := hsettled
    have hknown := e.makes_settledEscalation_of_ledger hr.1 hr.2
    exact ⟨r, [], _, e.makes_fix_of_settled hknown now, .again hr⟩
  have hopen : ∀ r, ¬ Escalated j.world.ledger f.fingerprint r := fun r hr => hsettled ⟨r, hr⟩
  have hledger (r : RemediationResult) (hr : j.world.ledger.lookup f.fingerprint = some r) :
      r.isEscalated = false := by
    simpa [Escalated, hr] using hopen r
  obtain ⟨found, s, -, ⟨record, r, -, hr, hfound⟩ | ⟨-, hnone⟩⟩ := e.makes_settledEscalation hledger
  · exact ⟨r, [.find f.fingerprint found], _, e.makes_fix_of_settled hfound now, .found hopen hr⟩
  by_cases hwithout : f.isSynthetic = true ∨ e.validator? f.validatorId = none
  · obtain ⟨r, record, sent, hr, hrecord, hmakes⟩ :=
      e.makes_fix_without_validator hnone hwithout now
    exact ⟨r, _, _, hmakes, .handedOn hopen hr hrecord⟩
  · obtain ⟨hreported, hvalidator⟩ := not_or.1 hwithout
    obtain ⟨v, hv⟩ := Option.ne_none_iff_exists'.1 hvalidator
    obtain ⟨r, rounds, closing, hmakes, htried, hbound, hclosing⟩ :=
      e.makes_fix_with_validator hnone (by simpa using hreported) hv now
    exact ⟨r, _, _, hmakes, .tried hopen htried hbound hclosing⟩

/-- A fix settles its finding. -/
theorem Handles.settles {ledger ledger' : List (String × RemediationResult)} {r : RemediationResult}
    {calls : List PluginCall} (h : Handles f ledger r calls ledger') :
    Settles f.fingerprint ledger r calls ledger' := by
  cases h with
  | again hknown => exact .again hknown
  | found hopen hr => exact .anew hopen (.inl rfl)
  | handedOn hopen hr hrecord => exact .anew hopen (.inr ⟨hr, _, rfl, hrecord⟩)
  | tried hopen htried hbound hclosing =>
    refine .anew hopen ?_
    rw [List.filterMap_cons_none rfl, List.filterMap_append, htried.sent]
    exact hclosing.sent

/-- How many records for a fingerprint are among the calls. -/
def sentFor (fingerprint : String) (calls : List PluginCall) : Nat :=
  (calls.filterMap PluginCall.sent?).countP fun record => record.fingerprint == fingerprint

@[simp] theorem sentFor_append (fingerprint : String) (calls calls' : List PluginCall) :
    sentFor fingerprint (calls ++ calls') = sentFor fingerprint calls + sentFor fingerprint calls' := by
  simp [sentFor]

section Settles

variable {fingerprint other : String} {ledger ledger' : List (String × RemediationResult)}
  {r r' : RemediationResult} {calls : List PluginCall}

theorem Settles.escalated (h : Settles fingerprint ledger r calls ledger')
    (hr : r.isEscalated = true) : Escalated ledger' fingerprint r := by
  cases h with
  | again hknown => exact hknown
  | anew => exact ⟨lookup_settledLedger_self ledger fingerprint r, hr⟩

/-- An escalation stays in the ledger, and fixes of its fingerprint repeat it without any call. -/
theorem Settles.keeps (h : Settles fingerprint ledger r calls ledger')
    (hr' : Escalated ledger other r') :
    Escalated ledger' other r' ∧ (fingerprint = other → r = r' ∧ calls = []) := by
  cases h with
  | again hknown =>
    refine ⟨hr', ?_⟩
    rintro rfl
    exact ⟨Option.some.inj (hknown.1.symm.trans hr'.1), rfl⟩
  | anew hopen hsent =>
    have hne : other ≠ fingerprint := by
      rintro rfl
      exact hopen r' hr'
    exact ⟨⟨(lookup_settledLedger_of_ne ledger hne r).trans hr'.1, hr'.2⟩, fun h => absurd h.symm hne⟩

/-- A record is sent for the fingerprint of the fix only, and then the fingerprint is escalated. -/
theorem Settles.sentFor (h : Settles fingerprint ledger r calls ledger') (other : String) :
    sentFor other calls = 0 ∨
    sentFor other calls = 1 ∧ (∀ r', ¬ Escalated ledger other r') ∧ Escalated ledger' other r := by
  have hescalated := h.escalated
  cases h with
  | again hknown => exact .inl rfl
  | anew hopen hsent =>
    unfold Engine.sentFor
    rcases hsent with hnone | ⟨hr, record, hone, hrecord⟩
    · rw [hnone]
      exact .inl rfl
    · rw [hone, List.countP_singleton, hrecord]
      by_cases hother : fingerprint = other
      · subst hother
        exact .inr ⟨by simp, hopen, hescalated hr⟩
      · exact .inl (by simp [hother])

end Settles

/-! ## Fixes one after the other -/

/-- The results of a request, each with its finding. -/
def serve : FixRequest → Act (EngineWorld σ) (List (Finding × RemediationResult))
  | .fix f now => do
    let r ← e.fix f now
    return [(f, r)]
  | .fixAll report now => e.fixAll report now

/-- The results of requests that are made one after the other. -/
def serveAll : List FixRequest → Act (EngineWorld σ) (List (Finding × RemediationResult))
  | [] => return []
  | request :: requests => do
    let results ← e.serve request
    return results ++ (← serveAll requests)

/-- Single fixes by the recorded engine lead from one journal to another. Between them nothing
happens but that events are logged. -/
inductive Fixes (e : Engine σ) : Journal (EngineWorld (Recorded σ)) → List FixAnswer →
    Journal (EngineWorld (Recorded σ)) → Prop
  | none (j : Journal (EngineWorld (Recorded σ))) : Fixes e j [] j
  | fix {f : Finding} {now : Instant} {r : RemediationResult} {calls : List PluginCall}
    {answers : List FixAnswer} {j k l : Journal (EngineWorld (Recorded σ))}
    (hfix : e.recorded.fix f now j = .ok r k)
    (hcalls : k.world.outer.calls = j.world.outer.calls ++ calls) (hrest : Fixes e k answers l) :
    Fixes e j (⟨f, r, calls⟩ :: answers) l
  | event (event : LogEvent) {answers : List FixAnswer} {j k : Journal (EngineWorld (Recorded σ))}
    (hrest : Fixes e { j with events := j.events.push event } answers k) : Fixes e j answers k

variable {e}

theorem Fixes.append {answers answers' : List FixAnswer} (h : Fixes e j answers k)
    (h' : Fixes e k answers' l) : Fixes e j (answers ++ answers') l := by
  induction h with
  | none => exact h'
  | fix hfix hcalls _ ih => exact .fix hfix hcalls (ih h')
  | event event _ ih => exact .event event (ih h')

theorem Fixes.calls {answers : List FixAnswer} (h : Fixes e j answers k) :
    k.world.outer.calls = j.world.outer.calls ++ answers.flatMap (·.calls) := by
  induction h with
  | none => simp
  | fix hfix hcalls _ ih => rw [ih, hcalls, List.flatMap_cons, List.append_assoc]
  | event event _ ih => exact ih

theorem handles_of_fix {now : Instant} {r : RemediationResult} {calls : List PluginCall}
    (hfix : e.recorded.fix f now j = .ok r k)
    (hcalls : k.world.outer.calls = j.world.outer.calls ++ calls) :
    Handles f j.world.ledger r calls k.world.ledger := by
  -- A fix ends in one way only, so it ended as `makes_fix` says.
  obtain ⟨r', calls', ledger, ⟨inner, hends⟩, hhandles⟩ := e.makes_fix f now j
  obtain ⟨k', hfix', hk'⟩ := hends.ok
  obtain ⟨rfl, rfl⟩ : r' = r ∧ k' = k := by simpa [hfix] using hfix'.symm
  rw [hk'] at hcalls ⊢
  obtain rfl : calls' = calls := List.append_cancel_left hcalls
  exact hhandles

theorem settles_of_fix {now : Instant} {r : RemediationResult} {calls : List PluginCall}
    (hfix : e.recorded.fix f now j = .ok r k)
    (hcalls : k.world.outer.calls = j.world.outer.calls ++ calls) :
    Settles f.fingerprint j.world.ledger r calls k.world.ledger :=
  (handles_of_fix hfix hcalls).settles

/-! ## Runs -/

variable (e)

theorem fixes_fix (f : Finding) (now : Instant) (j : Journal (EngineWorld (Recorded σ))) :
    ∃ r calls k, e.recorded.fix f now j = .ok r k ∧ Fixes e j [⟨f, r, calls⟩] k := by
  obtain ⟨r, calls, ledger, ⟨inner, hends⟩, -⟩ := e.makes_fix f now j
  obtain ⟨k, hfix, hk⟩ := hends.ok
  exact ⟨r, calls, k, hfix, .fix hfix (by rw [hk]) (.none k)⟩

theorem fixEach_cons_of_ok {τ : Type} {e : Engine τ} {now : Instant} {fs : List Finding}
    {r : RemediationResult} {results : List (Finding × RemediationResult)}
    {j k l : Journal (EngineWorld τ)} (hfix : e.fix f now j = .ok r k)
    (heach : e.fixEach now fs k = .ok results l) :
    e.fixEach now (f :: fs) j = .ok ((f, r) :: results) l := by
  rw [fixEach, Act.bind_of_ok hfix, Act.bind_of_ok heach]
  rfl

/-- After the findings of the report a pass only logs what came of them. -/
theorem fixAll_of_ok {τ : Type} {e : Engine τ} {report : AuditReport} {now : Instant}
    {results : List (Finding × RemediationResult)} {j k : Journal (EngineWorld τ)}
    (heach : e.fixEach now (report.findings.filter fun f => decide (Severity.info < f.severity)) j =
      .ok results k) :
    ∃ event, e.fixAll report now j = .ok results { k with events := k.events.push event } := by
  unfold fixAll
  rw [Act.bind_of_ok heach]
  exact ⟨_, rfl⟩

theorem fixes_fixEach (now : Instant) (fs : List Finding)
    (j : Journal (EngineWorld (Recorded σ))) :
    ∃ answers k, e.recorded.fixEach now fs j = .ok (answers.map FixAnswer.pair) k ∧
      Fixes e j answers k ∧ answers.map (·.finding) = fs := by
  induction fs generalizing j with
  | nil => exact ⟨[], j, rfl, .none j, rfl⟩
  | cons f fs ih =>
    obtain ⟨r, calls, k, hfix, hone⟩ := e.fixes_fix f now j
    obtain ⟨answers, l, heach, hrest, hfindings⟩ := ih k
    exact ⟨⟨f, r, calls⟩ :: answers, l, fixEach_cons_of_ok hfix heach, hone.append hrest,
      congrArg (f :: ·) hfindings⟩

theorem fixes_fixAll (report : AuditReport) (now : Instant)
    (j : Journal (EngineWorld (Recorded σ))) :
    ∃ answers k, e.recorded.fixAll report now j = .ok (answers.map FixAnswer.pair) k ∧
      Fixes e j answers k ∧ answers.map (·.finding) =
        report.findings.filter fun f => decide (Severity.info < f.severity) := by
  obtain ⟨answers, k, heach, hfixes, hfindings⟩ := e.fixes_fixEach now
    (report.findings.filter fun f => decide (Severity.info < f.severity)) j
  obtain ⟨event, hall⟩ := fixAll_of_ok heach
  refine ⟨answers, _, hall, ?_, hfindings⟩
  rw [← List.append_nil answers]
  exact hfixes.append (.event event (.none _))

theorem fixes_serve (request : FixRequest) (j : Journal (EngineWorld (Recorded σ))) :
    ∃ answers k, e.recorded.serve request j = .ok (answers.map FixAnswer.pair) k ∧
      Fixes e j answers k := by
  cases request with
  | fix f now =>
    obtain ⟨r, calls, k, hfix, hone⟩ := e.fixes_fix f now j
    refine ⟨_, k, ?_, hone⟩
    rw [serve, Act.bind_of_ok hfix]
    rfl
  | fixAll report now =>
    obtain ⟨answers, k, hall, hfixes, -⟩ := e.fixes_fixAll report now j
    exact ⟨answers, k, hall, hfixes⟩

theorem fixes_serveAll (requests : List FixRequest) (j : Journal (EngineWorld (Recorded σ))) :
    ∃ answers k, e.recorded.serveAll requests j = .ok (answers.map FixAnswer.pair) k ∧
      Fixes e j answers k := by
  induction requests generalizing j with
  | nil => exact ⟨[], j, rfl, .none j⟩
  | cons request requests ih =>
    obtain ⟨answers, k, hserve, hfirst⟩ := e.fixes_serve request j
    obtain ⟨answers', l, hall, hrest⟩ := ih k
    refine ⟨answers ++ answers', l, ?_, hfirst.append hrest⟩
    rw [serveAll, Act.bind_of_ok hserve, Act.bind_of_ok hall, List.map_append]
    rfl

open Act (LooksLike)

theorem looksLike_fixEach (now : Instant) (fs : List Finding) :
    LooksLike EngineWorld.unrecorded Eq (e.recorded.fixEach now fs) (e.fixEach now fs) := by
  induction fs with
  | nil => exact Act.looksLike_pure rfl
  | cons f fs ih =>
    refine (e.looksLike_fix f now).bind ?_
    rintro r _ rfl
    refine ih.bind ?_
    rintro results _ rfl
    exact Act.looksLike_pure rfl

theorem looksLike_fixAll (report : AuditReport) (now : Instant) :
    LooksLike EngineWorld.unrecorded Eq (e.recorded.fixAll report now) (e.fixAll report now) := by
  refine (e.looksLike_fixEach now _).bind ?_
  rintro results _ rfl
  refine (Act.looksLike_log _).bind ?_
  rintro _ _ rfl
  exact Act.looksLike_pure rfl

theorem looksLike_serve (request : FixRequest) :
    LooksLike EngineWorld.unrecorded Eq (e.recorded.serve request) (e.serve request) := by
  cases request with
  | fix f now =>
    refine (e.looksLike_fix f now).bind ?_
    rintro r _ rfl
    exact Act.looksLike_pure rfl
  | fixAll report now => exact e.looksLike_fixAll report now

theorem looksLike_serveAll (requests : List FixRequest) :
    LooksLike EngineWorld.unrecorded Eq (e.recorded.serveAll requests) (e.serveAll requests) := by
  induction requests with
  | nil => exact Act.looksLike_pure rfl
  | cons request requests ih =>
    refine (e.looksLike_serve request).bind ?_
    rintro results _ rfl
    refine ih.bind ?_
    rintro more _ rfl
    exact Act.looksLike_pure rfl

/-! ## Finality -/

variable {e}

/-- An escalation in the ledger outlives every run, and every answer for its fingerprint repeats it
without any call. -/
theorem Fixes.keeps {answers : List FixAnswer} (h : Fixes e j answers k) {fingerprint : String}
    {r : RemediationResult} (hr : Escalated j.world.ledger fingerprint r) :
    Escalated k.world.ledger fingerprint r ∧
    ∀ a ∈ answers, a.finding.fingerprint = fingerprint → a.result = r ∧ a.calls = [] := by
  induction h with
  | none => exact ⟨hr, fun a ha => absurd ha List.not_mem_nil⟩
  | fix hfix hcalls _ ih =>
    obtain ⟨hkept, hfirst⟩ := (settles_of_fix hfix hcalls).keeps hr
    obtain ⟨hlast, hlater⟩ := ih hkept
    exact ⟨hlast, List.forall_mem_cons.2 ⟨hfirst, hlater⟩⟩
  | event event _ ih => exact ih hr

theorem Fixes.escalated {answers : List FixAnswer} (h : Fixes e j answers k) :
    ∀ a ∈ answers, a.result.isEscalated = true →
      Escalated k.world.ledger a.finding.fingerprint a.result := by
  induction h with
  | none => exact fun a ha => absurd ha List.not_mem_nil
  | fix hfix hcalls hrest ih =>
    refine List.forall_mem_cons.2 ⟨fun hr => ?_, ih⟩
    exact (hrest.keeps ((settles_of_fix hfix hcalls).escalated hr)).1
  | event event _ ih => exact ih

/-- After an answer that says escalated, all answers for the fingerprint repeat it. -/
theorem Fixes.repeats {answers : List FixAnswer} (h : Fixes e j answers k) :
    answers.Pairwise fun earlier later => earlier.result.isEscalated = true →
      later.finding.fingerprint = earlier.finding.fingerprint →
      later.result = earlier.result ∧ later.calls = [] := by
  induction h with
  | none => exact .nil
  | fix hfix hcalls hrest ih =>
    refine .cons (fun later hlater hr => ?_) ih
    exact (hrest.keeps ((settles_of_fix hfix hcalls).escalated hr)).2 later hlater
  | event event _ ih => exact ih

/-- At most one record is sent for a fingerprint, and none if it is escalated already. -/
theorem Fixes.sentFor_le {answers : List FixAnswer} (h : Fixes e j answers k)
    (fingerprint : String) :
    sentFor fingerprint (answers.flatMap (·.calls)) ≤ 1 ∧
    ∀ r, Escalated j.world.ledger fingerprint r →
      sentFor fingerprint (answers.flatMap (·.calls)) = 0 := by
  induction h with
  | none => exact ⟨Nat.zero_le 1, fun _ _ => rfl⟩
  | fix hfix hcalls hrest ih =>
    have hsettles := settles_of_fix hfix hcalls
    rw [List.flatMap_cons, sentFor_append]
    rcases hsettles.sentFor fingerprint with hnone | ⟨hone, hopen, hescalated⟩
    · rw [hnone, Nat.zero_add]
      exact ⟨ih.1, fun r hr => ih.2 r (hsettles.keeps hr).1⟩
    -- With the record the fingerprint is escalated, so nothing is sent for it later.
    · rw [hone, ih.2 _ hescalated]
      exact ⟨Nat.le_refl 1, fun r hr => absurd hr (hopen r)⟩
  | event event _ ih => exact ih

/-- In every run of a new engine an escalation is final. Whoever asks again for the fingerprint is
given the same result and no plug-in is called, the channel is given at most one record for a
fingerprint, and the finding stays escalated. -/
theorem escalation_is_final (e : Engine σ) (s : σ) (events : Array LogEvent)
    (requests : List FixRequest) :
    let start : Journal (EngineWorld σ) := { world := { outer := s }, events }
    ∃ (answers : List FixAnswer) (k : Journal (EngineWorld (Recorded σ))),
      e.serveAll requests start = .ok (answers.map FixAnswer.pair) (k.seen EngineWorld.unrecorded) ∧
      e.recorded.serveAll requests (start.seen EngineWorld.recorded) =
        .ok (answers.map FixAnswer.pair) k ∧
      Fixes e (start.seen EngineWorld.recorded) answers k ∧
      (answers.Pairwise fun earlier later => earlier.result.state = .escalated →
        later.finding.fingerprint = earlier.finding.fingerprint →
        later.result = earlier.result ∧ later.calls = []) ∧
      (∀ fingerprint, (k.world.outer.calls.filterMap PluginCall.sent?).countP
        (fun record => record.fingerprint == fingerprint) ≤ 1) ∧
      ∀ a ∈ answers, a.result.state = .escalated → ∀ g, g.fingerprint = a.finding.fingerprint →
        stateOf (k.seen EngineWorld.unrecorded).world g = .escalated := by
  intro start
  obtain ⟨answers, k, hrecorded, hfixes⟩ :=
    e.fixes_serveAll requests (start.seen EngineWorld.recorded)
  obtain ⟨_, rfl, hplain⟩ := (e.looksLike_serveAll requests).ok hrecorded
  have hcalls : k.world.outer.calls = answers.flatMap (·.calls) := hfixes.calls
  have hrepeats := hfixes.repeats
  simp only [isEscalated_iff] at hrepeats
  refine ⟨answers, k, hplain, hrecorded, hfixes, hrepeats, ?_, ?_⟩
  · intro fingerprint
    rw [hcalls]
    exact (hfixes.sentFor_le fingerprint).1
  · intro a ha hstate g hg
    have hr := hfixes.escalated a ha (isEscalated_iff.2 hstate)
    have hlookup : (k.seen EngineWorld.unrecorded).world.ledger.lookup g.fingerprint =
        some a.result := by
      rw [hg]
      exact hr.1
    rw [stateOf, hlookup]
    exact hstate

end Engine

end AgentGovernance
