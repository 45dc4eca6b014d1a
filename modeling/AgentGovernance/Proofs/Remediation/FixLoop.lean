-- SUMMARY: The fix loop is bounded: what the attempts of a fix are, and which calls they make.
import AgentGovernance.Proofs.Remediation.Calls
import Mathlib.Data.List.Forall2
import Mathlib.Data.List.Nodup

/-!
# The fix loop

An attempt applies its strategy once and, if that succeeds in time, runs the validator of the finding
once. The attempts of a fix are at most `maxAttempts`, each with a strategy of another name, and only
the last can fix the finding. This holds for all plug-ins: for selectors that repeat themselves or
keep a state, and for strategies and validators that do anything at all.
-/

namespace AgentGovernance

/-- One of the findings, relabelled as a finding of the validator of `f`, is `f` again. -/
def Finding.ReportedIn (f : Finding) (fs : List Finding) : Prop :=
  ∃ g ∈ fs, { g with validatorId := f.validatorId }.fingerprint = f.fingerprint

/-- What an attempt with a strategy comes to by the calls that it makes. -/
inductive Round (f : Finding) (strategy : String) : FixOutcome → List PluginCall → Prop
  /-- The strategy failed or was late. -/
  | unapplied {applied : Except GovernanceError (Timed Unit)} (h : applied ≠ .ok (.inTime ())) :
    Round f strategy .failed [.select (some strategy), .apply strategy f applied]
  /-- The validator failed or was late. -/
  | unconfirmed {answer : Except GovernanceError (Timed (List Finding))}
    (h : ∀ fs, answer ≠ .ok (.inTime fs)) :
    Round f strategy .failed
      [.select (some strategy), .apply strategy f (.ok (.inTime ())), .validate f.validatorId answer]
  | reported {fs : List Finding} (h : f.ReportedIn fs) :
    Round f strategy .partially
      [.select (some strategy), .apply strategy f (.ok (.inTime ())),
        .validate f.validatorId (.ok (.inTime fs))]
  | gone {fs : List Finding} (h : ¬ f.ReportedIn fs) :
    Round f strategy .fixed
      [.select (some strategy), .apply strategy f (.ok (.inTime ())),
        .validate f.validatorId (.ok (.inTime fs))]

namespace Round

variable {f : Finding} {strategy : String} {outcome : FixOutcome} {calls : List PluginCall}

theorem applied (h : Round f strategy outcome calls) :
    calls.filterMap PluginCall.applied? = [(strategy, f)] := by
  cases h <;> rfl

theorem sent (h : Round f strategy outcome calls) : calls.filterMap PluginCall.sent? = [] := by
  cases h <;> rfl

/-- An attempt fixed the finding if both calls were in time and the validator no longer reports it. -/
theorem fixed_iff (h : Round f strategy outcome calls) :
    outcome = .fixed ↔ ∃ fs, ¬ f.ReportedIn fs ∧ calls =
      [.select (some strategy), .apply strategy f (.ok (.inTime ())),
        .validate f.validatorId (.ok (.inTime fs))] := by
  cases h with
  | unapplied happlied => simp
  | unconfirmed hanswer =>
    refine iff_of_false nofun ?_
    rintro ⟨fs, -, hcalls⟩
    exact hanswer fs (by simpa using hcalls)
  | reported hagain =>
    refine iff_of_false nofun ?_
    rintro ⟨fs, hgone, hcalls⟩
    obtain rfl : _ = fs := by simpa using hcalls
    exact hgone hagain
  | gone hgone => exact iff_of_true rfl ⟨_, hgone, rfl⟩

end Round

namespace Engine

variable {σ : Type} (e : Engine σ) {f : Finding} {j : Journal (EngineWorld (Recorded σ))}

/-! ## One attempt -/

theorem stillReported_iff (f : Finding) (fs : List Finding) :
    stillReported f f.fingerprint fs = true ↔ f.ReportedIn fs := by
  simp [stillReported, Finding.ReportedIn]

theorem round_of_verdictOn (f : Finding) (strategy : String) (limit : Nat)
    (answer : Except GovernanceError (Timed (List Finding))) :
    Round f strategy (verdictOn f f.fingerprint limit answer).1
      [.select (some strategy), .apply strategy f (.ok (.inTime ())),
        .validate f.validatorId answer] := by
  match answer with
  | .ok (.inTime fs) =>
    by_cases h : f.ReportedIn fs
    · simpa [verdictOn, (stillReported_iff f fs).2 h] using Round.reported h
    · simpa [verdictOn, mt (stillReported_iff f fs).1 h] using Round.gone h
  | .ok .late => exact .unconfirmed nofun
  | .ok (.aborted reason) => exact .unconfirmed nofun
  | .error err => exact .unconfirmed nofun

theorem tryOnce_spec (s : FixStrategy σ) {v : Validator σ} (hv : v.id = f.validatorId)
    (j : Journal (Recorded σ)) :
    ∃ verdict inner calls, Round f s.name verdict.1 (.select (some s.name) :: calls) ∧
      (e.recorded.tryOnce s.recorded v.recorded f f.fingerprint).Ends j (.ok verdict)
        { inner, calls := j.world.calls ++ calls } := by
  obtain ⟨applied, inner, happly⟩ :=
    Act.Ends.exists (s.apply f e.scope e.attemptTimeout) (j.seen Recorded.inner)
  have happlied := (Act.ends_recorded (.apply s.name f) happly).attempt
  have hstop (verdict : FixOutcome × Option String) (k : Journal (Recorded σ))
      (hk : k.world = { inner, calls := j.world.calls ++ [.apply s.name f applied] }) :
      (pure verdict : Act (Recorded σ) _).Ends k (.ok verdict)
        { inner, calls := j.world.calls ++ [.apply s.name f applied] } :=
    hk ▸ Act.ends_pure verdict
  match applied with
  | .ok .late =>
    exact ⟨_, inner, [.apply s.name f (.ok .late)], .unapplied (by nofun),
      happlied.bind (hstop (.failed, _))⟩
  | .ok (.aborted reason) =>
    exact ⟨_, inner, [.apply s.name f (.ok (.aborted reason))], .unapplied (by nofun),
      happlied.bind (hstop (.failed, _))⟩
  | .error err =>
    exact ⟨_, inner, [.apply s.name f (.error err)], .unapplied (by nofun),
      happlied.bind (hstop (.failed, _))⟩
  | .ok (.inTime ()) =>
    -- The answer of the validator may depend on all that the strategy did, so it is run after it.
    obtain ⟨k, hk, hgo⟩ := happlied.bind_eq
    obtain ⟨answer, inner', hrun⟩ :=
      Act.Ends.exists (v.run e.scope e.attemptTimeout) (k.seen Recorded.inner)
    have hanswer := (Act.ends_recorded (.validate v.id) hrun).attempt
    have hround := round_of_verdictOn f s.name e.attemptTimeout answer
    rw [← hv] at hround
    refine ⟨_, inner', _, hround, Act.Ends.of_eq ?_ (hgo _)⟩
    rw [hk, List.append_assoc] at hanswer
    refine hanswer.bind fun l hl => ?_
    exact hl ▸ Act.ends_pure _

theorem makes_attempt (iteration : Nat) (s : FixStrategy σ) {v : Validator σ}
    (hv : v.id = f.validatorId) (now : Instant) (j : Journal (EngineWorld (Recorded σ))) :
    ∃ a calls, Makes (e.recorded.attempt iteration s.recorded v.recorded f f.fingerprint now) j a
        calls j.world.ledger ∧
      a.iteration = iteration ∧ a.strategy = s.name ∧
      Round f s.name a.outcome (.select (some s.name) :: calls) := by
  obtain ⟨⟨outcome, error⟩, inner, calls, hround, hends⟩ :=
    e.tryOnce_spec s hv (j.seen fun w => w.outer)
  have htry : Makes (onOuter (e.recorded.tryOnce s.recorded v.recorded f f.fingerprint)) j
      (outcome, error) calls j.world.ledger := ⟨inner, hends.onPart⟩
  refine ⟨{ iteration, strategy := s.name, outcome, error, time := now }, calls, ?_, rfl, rfl,
    hround⟩
  refine htry.bind_silent fun k hk => ?_
  refine (makes_log _).silent_bind fun l hl => ?_
  rw [← hk, ← hl]
  exact makes_pure _

/-- The recorded engine chooses recorded strategies only. -/
theorem makes_choose (f : Finding) (applicable : List (FixStrategy (Recorded σ)))
    (prior : List FixAttempt) (j : Journal (EngineWorld (Recorded σ))) :
    ∃ choice : Option (FixStrategy σ),
      Makes (e.recorded.choose f applicable prior) j (choice.map FixStrategy.recorded)
        [.select (choice.map (·.name))] j.world.ledger := by
  rcases hselect : e.selector.select f (applicable.map FixStrategy.unrecorded) prior
    j.world.outer.inner with ⟨choice, inner⟩
  refine ⟨choice, inner, ?_⟩
  refine Act.ends_world.bind fun k hk => ?_
  simp only [recorded, StrategySelector.recorded, hselect]
  refine Act.ends_setWorld.bind fun l hl => ?_
  exact hl ▸ Act.ends_pure _

/-! ## The loop -/

/-- Attempts on a finding and the calls of each: the attempts are counted from one and use strategies
of different names, and what came of each follows from its calls. -/
structure Tried (f : Finding) (attempts : List FixAttempt) (rounds : List (List PluginCall)) :
    Prop where
  numbered : attempts.map (·.iteration) = List.range' 1 attempts.length
  distinct : (attempts.map (·.strategy)).Nodup
  rounds : List.Forall₂ (fun a calls => Round f a.strategy a.outcome calls) attempts rounds

theorem tried_nil (f : Finding) : Tried f [] [] := ⟨rfl, .nil, .nil⟩

theorem Tried.snoc {attempts : List FixAttempt} {rounds : List (List PluginCall)}
    (h : Tried f attempts rounds) {a : FixAttempt} {calls : List PluginCall}
    (hnumber : a.iteration = attempts.length + 1)
    (huntried : a.strategy ∉ attempts.map (·.strategy))
    (hround : Round f a.strategy a.outcome calls) :
    Tried f (attempts ++ [a]) (rounds ++ [calls]) where
  numbered := by
    rw [List.map_append, h.numbered, List.length_append]
    simp [List.range'_concat, hnumber, Nat.add_comm]
  distinct := by
    rw [List.map_append, List.map_singleton, ← List.concat_eq_append]
    exact h.distinct.concat huntried
  rounds := List.rel_append h.rounds (.cons hround .nil)

/-- What is picked from the calls of the rounds is picked attempt by attempt. -/
theorem Tried.filterMap {β : Type} {p : PluginCall → Option β} {picked : FixAttempt → List β}
    {attempts : List FixAttempt} {rounds : List (List PluginCall)} (h : Tried f attempts rounds)
    (hp : ∀ a calls, Round f a.strategy a.outcome calls → calls.filterMap p = picked a) :
    rounds.flatten.filterMap p = attempts.flatMap picked := by
  obtain ⟨-, -, hrounds⟩ := h
  induction hrounds with
  | nil => rfl
  | cons hround _ ih =>
    rw [List.flatten_cons, List.filterMap_append, hp _ _ hround, ih, List.flatMap_cons]

theorem Tried.applied {attempts : List FixAttempt} {rounds : List (List PluginCall)}
    (h : Tried f attempts rounds) :
    rounds.flatten.filterMap PluginCall.applied? = attempts.map fun a => (a.strategy, f) := by
  rw [h.filterMap fun _ _ hround => hround.applied, List.map_eq_flatMap]

/-- Why the loop ends with the attempts: the last one fixed the finding, the bound is reached, or the
selector, which is asked once more, gives up or repeats itself. -/
inductive LoopEnd (bound : Nat) : Bool → List FixAttempt → List PluginCall → Prop
  | fixed {before : List FixAttempt} {a : FixAttempt} (hbefore : ∀ b ∈ before, b.outcome ≠ .fixed)
    (ha : a.outcome = .fixed) : LoopEnd bound true (before ++ [a]) []
  | exhausted {attempts : List FixAttempt} (h : ∀ a ∈ attempts, a.outcome ≠ .fixed)
    (hbound : bound ≤ attempts.length) : LoopEnd bound false attempts []
  | gaveUp {attempts : List FixAttempt} (h : ∀ a ∈ attempts, a.outcome ≠ .fixed) :
    LoopEnd bound false attempts [.select none]
  | repeated {attempts : List FixAttempt} (h : ∀ a ∈ attempts, a.outcome ≠ .fixed) {name : String}
    (hname : name ∈ attempts.map (·.strategy)) : LoopEnd bound false attempts [.select (some name)]

theorem LoopEnd.fixed_iff {bound : Nat} {isFixed : Bool} {attempts : List FixAttempt}
    {ask : List PluginCall} (h : LoopEnd bound isFixed attempts ask) :
    (∀ a ∈ attempts.dropLast, a.outcome ≠ .fixed) ∧
    (isFixed = true ↔ ∃ a, attempts.getLast? = some a ∧ a.outcome = .fixed) := by
  have hnone (hunfixed : ∀ a ∈ attempts, a.outcome ≠ .fixed) :
      (∀ a ∈ attempts.dropLast, a.outcome ≠ .fixed) ∧
      ¬ ∃ a, attempts.getLast? = some a ∧ a.outcome = .fixed := by
    refine ⟨fun a ha => hunfixed a (List.dropLast_subset _ ha), ?_⟩
    rintro ⟨a, hlast, ha⟩
    exact hunfixed a (List.mem_of_getLast? hlast) ha
  cases h with
  | fixed hbefore ha =>
    rw [List.dropLast_concat, List.getLast?_concat]
    exact ⟨hbefore, by simp [ha]⟩
  | exhausted hunfixed | gaveUp hunfixed | repeated hunfixed =>
    exact ⟨(hnone hunfixed).1, by simpa using (hnone hunfixed).2⟩

theorem LoopEnd.applied {bound : Nat} {isFixed : Bool} {attempts : List FixAttempt}
    {ask : List PluginCall} (h : LoopEnd bound isFixed attempts ask) :
    ask.filterMap PluginCall.applied? = [] := by
  cases h <;> rfl

/-- After the rounds that are done and the calls of one that is open, the act goes on with this round
and more of them, and ends with the attempts of them all. The ledger stays as it is. -/
def Tries (f : Finding) (act : Act (EngineWorld (Recorded σ)) (Bool × List FixAttempt))
    (j : Journal (EngineWorld (Recorded σ))) (done : List (List PluginCall))
    (opened : List PluginCall) (bound : Nat) : Prop :=
  ∃ isFixed attempts calls rounds ask, Makes act j (isFixed, attempts) calls j.world.ledger ∧
    opened ++ calls = rounds.flatten ++ ask ∧ Tried f attempts (done ++ rounds) ∧
    attempts.length ≤ bound ∧ LoopEnd bound isFixed attempts ask

section Tries

variable {α : Type} {a : α} {done : List (List PluginCall)} {opened : List PluginCall} {bound : Nat}
  {x : Act (EngineWorld (Recorded σ)) α}
  {g : α → Act (EngineWorld (Recorded σ)) (Bool × List FixAttempt)}

theorem tries_pure {isFixed : Bool} {attempts : List FixAttempt} (htried : Tried f attempts done)
    (hbound : attempts.length ≤ bound) (hend : LoopEnd bound isFixed attempts opened) :
    Tries f (pure (isFixed, attempts)) j done opened bound :=
  ⟨isFixed, attempts, [], [], opened, makes_pure _, by simp, by simpa using htried, hbound, hend⟩

theorem Tries.after {calls : List PluginCall} (hx : Makes x j a calls j.world.ledger)
    (hg : ∀ k, Tries f (g a) k done (opened ++ calls) bound) :
    Tries f (x >>= g) j done opened bound := by
  obtain ⟨k, hk, hnext⟩ := hx.next
  obtain ⟨isFixed, attempts, more, rounds, ask, hmakes, hcalls, hrest⟩ := hg k
  rw [hk] at hmakes
  rw [List.append_assoc] at hcalls
  exact ⟨isFixed, attempts, calls ++ more, rounds, ask, hnext hmakes, hcalls, hrest⟩

/-- What is open may be taken for a round. -/
theorem Tries.close {act : Act (EngineWorld (Recorded σ)) (Bool × List FixAttempt)}
    (h : Tries f act j (done ++ [opened]) [] bound) : Tries f act j done opened bound := by
  obtain ⟨isFixed, attempts, calls, rounds, ask, hmakes, hcalls, htried, hrest⟩ := h
  rw [List.nil_append] at hcalls
  exact ⟨isFixed, attempts, calls, opened :: rounds, ask, hmakes, by simp [hcalls],
    by simpa using htried, hrest⟩

end Tries

theorem wasTried_iff (prior : List FixAttempt) (name : String) :
    StrategySelector.wasTried prior name = true ↔ name ∈ prior.map (·.strategy) := by
  simp [StrategySelector.wasTried]

/-- The loop adds attempts, no more than it has left, until one of them fixes the finding. -/
theorem tries_fixLoop {v : Validator σ} (hv : v.id = f.validatorId)
    (applicable : List (FixStrategy (Recorded σ))) (now : Instant) (left : Nat)
    {prior : List FixAttempt} {done : List (List PluginCall)} (htried : Tried f prior done)
    (hunfixed : ∀ a ∈ prior, a.outcome ≠ .fixed) (j : Journal (EngineWorld (Recorded σ))) :
    Tries f (e.recorded.fixLoop v.recorded f f.fingerprint applicable now left prior) j done []
      (prior.length + left) := by
  induction left generalizing prior done j with
  | zero => exact tries_pure htried (Nat.le_refl _) (.exhausted hunfixed (Nat.le_refl _))
  | succ left ih =>
    have hbound : prior.length ≤ prior.length + (left + 1) := Nat.le_add_right ..
    obtain ⟨choice, hchoose⟩ := e.makes_choose f applicable prior j
    refine Tries.after hchoose fun k => ?_
    cases choice with
    | none => exact tries_pure htried hbound (.gaveUp hunfixed)
    | some s =>
      simp only [Option.map_some]
      split
      · rename_i hagain
        refine Tries.after (makes_log _) fun k => ?_
        exact tries_pure htried hbound (.repeated hunfixed ((wasTried_iff prior s.name).1 hagain))
      · rename_i huntried
        have hnew : s.name ∉ prior.map (·.strategy) := mt (wasTried_iff prior s.name).2 huntried
        obtain ⟨a, calls, hattempt, hnumber, hname, hround⟩ :=
          e.makes_attempt (prior.length + 1) s hv now k
        rw [← hname] at hnew hround
        have hmore := htried.snoc hnumber hnew hround
        rw [hname] at hmore
        -- The question to the selector and the calls of the attempt are the round of the attempt.
        refine Tries.after hattempt fun k => Tries.close ?_
        split
        · rename_i hfixed
          exact tries_pure hmore (by simp) (.fixed hunfixed (by simpa using hfixed))
        · rename_i hfailed
          have hstill : ∀ b ∈ prior ++ [a], b.outcome ≠ .fixed := by
            intro b hb
            rcases List.mem_append.1 hb with hb | hb
            · exact hunfixed b hb
            · rw [List.mem_singleton.1 hb]
              simpa using hfailed
          have hrest := ih hmore hstill k
          rwa [List.length_append, List.length_singleton, Nat.add_assoc, Nat.add_comm 1] at hrest

/-! ## Before and after the loop -/

theorem ends_settledEscalation_of_ledger {k : Journal (EngineWorld σ)} {fingerprint : String}
    {r : RemediationResult} (hledger : k.world.ledger.lookup fingerprint = some r)
    (hr : r.isEscalated = true) :
    (e.settledEscalation fingerprint).Ends k (.ok (some r)) k.world := by
  refine Act.Ends.after_world ?_
  simp only [hledger, Option.filter_some, hr, if_true]
  exact Act.ends_pure _

/-- Where the ledger knows of no escalation, the channel is asked. -/
theorem ends_settledEscalation_of_found {k : Journal (EngineWorld σ)} {fingerprint : String}
    {record : EscalationRecord} {s : σ}
    (hledger : ∀ r, k.world.ledger.lookup fingerprint = some r → r.isEscalated = false)
    (hfind : (e.escalation.find fingerprint).Ends (k.seen (·.outer)) (.ok (some record)) s) :
    let r := RemediationResult.escalated record.fingerprint record.attempts record.reason
    (e.settledEscalation fingerprint).Ends k (.ok (some r))
      { outer := s, ledger := settledLedger k.world.ledger fingerprint r } := by
  intro r
  have hopen : (k.world.ledger.lookup fingerprint).filter (·.isEscalated) = none := by
    simpa [Option.filter_eq_none_iff] using hledger
  have hcall : (Act.attempt (onOuter (e.escalation.find fingerprint))).Ends k
      (.ok (.ok (some record))) { k.world with outer := s } := (Act.Ends.onPart hfind).attempt
  refine Act.Ends.after_world ?_
  simp only [hopen]
  refine hcall.bind fun l hl => ?_
  refine (ends_settle fingerprint r l).bind fun m hm => ?_
  rw [hl] at hm
  exact hm ▸ Act.ends_pure _

theorem ends_settledEscalation_of_not_found {k : Journal (EngineWorld σ)} {fingerprint : String}
    {found : Except GovernanceError (Option EscalationRecord)} {s : σ}
    (hledger : ∀ r, k.world.ledger.lookup fingerprint = some r → r.isEscalated = false)
    (hfind : (e.escalation.find fingerprint).Ends (k.seen (·.outer)) found s)
    (hnone : ∀ record, found ≠ .ok (some record)) :
    (e.settledEscalation fingerprint).Ends k (.ok none) { k.world with outer := s } := by
  have hopen : (k.world.ledger.lookup fingerprint).filter (·.isEscalated) = none := by
    simpa [Option.filter_eq_none_iff] using hledger
  have hcall : (Act.attempt (onOuter (e.escalation.find fingerprint))).Ends k (.ok found)
      { k.world with outer := s } := (Act.Ends.onPart hfind).attempt
  refine Act.Ends.after_world ?_
  simp only [hopen]
  refine hcall.bind fun l hl => ?_
  match found with
  | .ok (some record) => exact absurd rfl (hnone record)
  | .ok none => exact hl ▸ Act.ends_pure _
  | .error err =>
    refine (Act.ends_log _).bind fun m hm => ?_
    rw [hl] at hm
    exact hm ▸ Act.ends_pure _

/-- An escalation is final in the ledger whether or not the channel takes it. -/
theorem ends_escalate_of_sent (f : Finding) (fingerprint : String) (attempts : List FixAttempt)
    (reason : String) (now : Instant) {k : Journal (EngineWorld σ)}
    {sent : Except GovernanceError Unit} {u : σ}
    (hsend : (e.escalation.escalate
      { fingerprint, finding := f, attempts, reason, escalatedAt := now }).Ends (k.seen (·.outer))
      sent u) :
    let r := RemediationResult.escalated fingerprint attempts reason
    (e.escalate f fingerprint attempts reason now).Ends k (.ok r)
      { outer := u, ledger := settledLedger k.world.ledger fingerprint r } := by
  intro r
  have hclose (event : LogEvent) (l : Journal (EngineWorld σ))
      (hl : l.world = { k.world with outer := u }) :
      (do Act.log event; settle fingerprint r; return r : Act (EngineWorld σ) _).Ends l (.ok r)
        { outer := u, ledger := settledLedger k.world.ledger fingerprint r } := by
    refine (Act.ends_log event).bind fun m hm => ?_
    refine (ends_settle fingerprint r m).bind fun n hn => ?_
    rw [hm, hl] at hn
    exact hn ▸ Act.ends_pure _
  have hcall : (Act.attempt (onOuter (e.escalation.escalate
      { fingerprint, finding := f, attempts, reason, escalatedAt := now }))).Ends k (.ok sent)
      { k.world with outer := u } := (Act.Ends.onPart hsend).attempt
  refine hcall.bind fun l hl => ?_
  cases sent with
  | ok _ => exact hclose _ l hl
  | error err =>
    refine (Act.ends_log _).bind fun m hm => ?_
    exact hclose _ m (hm.trans hl)

theorem makes_settledEscalation_of_ledger {fingerprint : String} {r : RemediationResult}
    (hledger : j.world.ledger.lookup fingerprint = some r) (hr : r.isEscalated = true) :
    Makes (e.recorded.settledEscalation fingerprint) j (some r) [] j.world.ledger := by
  refine ⟨j.world.outer.inner, ?_⟩
  rw [List.append_nil]
  exact e.recorded.ends_settledEscalation_of_ledger hledger hr

/-- The question to the channel is the only call. -/
theorem makes_settledEscalation {fingerprint : String}
    (hledger : ∀ r, j.world.ledger.lookup fingerprint = some r → r.isEscalated = false) :
    ∃ found s, (e.escalation.find fingerprint).Ends (j.seen fun w => w.outer.inner) found s ∧
      ((∃ record r, found = .ok (some record) ∧ r.isEscalated = true ∧
        Makes (e.recorded.settledEscalation fingerprint) j (some r) [.find fingerprint found]
          (settledLedger j.world.ledger fingerprint r)) ∨
      (∀ record, found ≠ .ok (some record)) ∧
        Makes (e.recorded.settledEscalation fingerprint) j none [.find fingerprint found]
          j.world.ledger) := by
  obtain ⟨found, s, hfind⟩ :=
    Act.Ends.exists (e.escalation.find fingerprint) (j.seen fun w => w.outer.inner)
  have hcall := Act.ends_recorded (j := j.seen (·.outer)) (.find fingerprint) hfind
  refine ⟨found, s, hfind, ?_⟩
  by_cases hfound : ∃ record, found = .ok (some record)
  · obtain ⟨record, rfl⟩ := hfound
    exact .inl ⟨record, _, rfl, rfl, s, e.recorded.ends_settledEscalation_of_found hledger hcall⟩
  · have hnone : ∀ record, found ≠ .ok (some record) := not_exists.1 hfound
    exact .inr ⟨hnone, s, e.recorded.ends_settledEscalation_of_not_found hledger hcall hnone⟩

/-- An escalation is one record for the channel. -/
theorem makes_escalate (f : Finding) (fingerprint : String) (attempts : List FixAttempt)
    (reason : String) (now : Instant) (j : Journal (EngineWorld (Recorded σ))) :
    ∃ record sent, record.fingerprint = fingerprint ∧
      Makes (e.recorded.escalate f fingerprint attempts reason now) j
        (.escalated fingerprint attempts reason) [.escalate record sent]
        (settledLedger j.world.ledger fingerprint (.escalated fingerprint attempts reason)) := by
  let record : EscalationRecord :=
    { fingerprint, finding := f, attempts, reason, escalatedAt := now }
  obtain ⟨sent, s, hsend⟩ :=
    Act.Ends.exists (e.escalation.escalate record) (j.seen fun w => w.outer.inner)
  have hcall := Act.ends_recorded (j := j.seen (·.outer)) (.escalate record) hsend
  exact ⟨record, sent, rfl, s,
    e.recorded.ends_escalate_of_sent f fingerprint attempts reason now hcall⟩

/-- How a fix ends after its attempts: with a fix, or with one record for the channel. -/
inductive Closing (fingerprint : String) : RemediationResult → List PluginCall → Prop
  | fixed {attempts : List FixAttempt} (h : LoopEnd maxAttempts true attempts []) :
    Closing fingerprint (.fixed fingerprint attempts) []
  | escalated {attempts : List FixAttempt} {ask : List PluginCall} {reason : String}
    {record : EscalationRecord} {sent : Except GovernanceError Unit}
    (h : LoopEnd maxAttempts false attempts ask) (hrecord : record.fingerprint = fingerprint) :
    Closing fingerprint (.escalated fingerprint attempts reason) (ask ++ [.escalate record sent])

theorem Closing.state {fingerprint : String} {r : RemediationResult} {closing : List PluginCall}
    (h : Closing fingerprint r closing) :
    (∀ a ∈ r.attempts.dropLast, a.outcome ≠ .fixed) ∧
    (r.state = .fixed ↔ ∃ a, r.attempts.getLast? = some a ∧ a.outcome = .fixed) ∧
    (r.state = .fixed ∨ r.state = .escalated) := by
  cases h with
  | fixed hend =>
    obtain ⟨hbefore, hlast⟩ := hend.fixed_iff
    exact ⟨hbefore, iff_of_true rfl (hlast.1 rfl), .inl rfl⟩
  | escalated hend hrecord =>
    obtain ⟨hbefore, hlast⟩ := hend.fixed_iff
    exact ⟨hbefore, iff_of_false nofun fun hfixed => Bool.noConfusion (hlast.2 hfixed), .inr rfl⟩

theorem Closing.applied {fingerprint : String} {r : RemediationResult} {closing : List PluginCall}
    (h : Closing fingerprint r closing) : closing.filterMap PluginCall.applied? = [] := by
  cases h with
  | fixed hend => rfl
  | escalated hend hrecord => rw [List.filterMap_append, hend.applied]; rfl

theorem makes_fixWith {v : Validator σ} (hv : v.id = f.validatorId) (now : Instant)
    (j : Journal (EngineWorld (Recorded σ))) :
    ∃ r rounds closing,
      Makes (e.recorded.fixWith v.recorded f f.fingerprint now) j r (rounds.flatten ++ closing)
        (settledLedger j.world.ledger f.fingerprint r) ∧
      Tried f r.attempts rounds ∧ r.attempts.length ≤ maxAttempts ∧
      Closing f.fingerprint r closing := by
  obtain ⟨isFixed, attempts, calls, rounds, ask, hloop, hcalls, htried, hbound, hend⟩ :=
    e.tries_fixLoop hv (e.recorded.strategies.filter fun s => s.appliesTo f) now maxAttempts
      (tried_nil f) nofun j
  rw [List.nil_append] at hcalls htried
  rw [List.length_nil, Nat.zero_add] at hbound hend
  subst hcalls
  obtain ⟨k, hk, hnext⟩ := hloop.next
  rw [← hk]
  cases isFixed with
  | true =>
    obtain rfl : ask = [] := by cases hend; rfl
    have hsettle := makes_settle (j := k) f.fingerprint (.fixed f.fingerprint attempts)
    refine ⟨.fixed f.fingerprint attempts, rounds, [], ?_, htried, hbound, .fixed hend⟩
    rw [← List.append_nil (rounds.flatten ++ [])]
    refine hnext (hsettle.silent_bind fun l hl => ?_)
    exact hl ▸ makes_pure _
  | false =>
    obtain ⟨record, sent, hrecord, hescalate⟩ :=
      e.makes_escalate f f.fingerprint attempts (exhaustion attempts) now k
    refine ⟨.escalated f.fingerprint attempts (exhaustion attempts), rounds,
      ask ++ [.escalate record sent], ?_, htried, hbound, .escalated hend hrecord⟩
    rw [← List.append_assoc]
    exact hnext hescalate

/-! ## A whole fix -/

theorem makes_fix_of_settled {r : RemediationResult} {calls : List PluginCall}
    {ledger : List (String × RemediationResult)}
    (h : Makes (e.recorded.settledEscalation f.fingerprint) j (some r) calls ledger)
    (now : Instant) : Makes (e.recorded.fix f now) j r calls ledger := by
  refine h.bind_silent fun k hk => ?_
  refine (makes_log _).silent_bind fun l hl => ?_
  rw [← hk, ← hl]
  exact makes_pure r

theorem makes_fix_with_validator {calls : List PluginCall}
    {ledger : List (String × RemediationResult)}
    (h : Makes (e.recorded.settledEscalation f.fingerprint) j none calls ledger)
    (hreported : f.isSynthetic = false) {v : Validator σ}
    (hvalidator : e.validator? f.validatorId = some v) (now : Instant) :
    ∃ r rounds closing,
      Makes (e.recorded.fix f now) j r (calls ++ (rounds.flatten ++ closing))
        (settledLedger ledger f.fingerprint r) ∧
      Tried f r.attempts rounds ∧ r.attempts.length ≤ maxAttempts ∧
      Closing f.fingerprint r closing := by
  obtain ⟨k, rfl, hnext⟩ := h.next
  obtain ⟨r, rounds, closing, hmakes, hrest⟩ := e.makes_fixWith (id_of_validator? hvalidator) now k
  refine ⟨r, rounds, closing, hnext ?_, hrest⟩
  simp only [hreported, validator?_recorded, hvalidator, Option.map_some, Bool.false_eq_true,
    if_false]
  exact hmakes

/-- Without a validator to confirm a fix, the finding goes to people at once. -/
theorem makes_fix_without_validator {calls : List PluginCall}
    {ledger : List (String × RemediationResult)}
    (h : Makes (e.recorded.settledEscalation f.fingerprint) j none calls ledger)
    (hnone : f.isSynthetic = true ∨ e.validator? f.validatorId = none) (now : Instant) :
    ∃ r record sent, r.isEscalated = true ∧ record.fingerprint = f.fingerprint ∧
      Makes (e.recorded.fix f now) j r (calls ++ [.escalate record sent])
        (settledLedger ledger f.fingerprint r) := by
  obtain ⟨k, rfl, hnext⟩ := h.next
  have hescalate (reason : String) :
      ∃ r record sent, r.isEscalated = true ∧ record.fingerprint = f.fingerprint ∧
        Makes (e.recorded.escalate f f.fingerprint [] reason now) k r [.escalate record sent]
          (settledLedger k.world.ledger f.fingerprint r) := by
    obtain ⟨record, sent, hrecord, hmakes⟩ := e.makes_escalate f f.fingerprint [] reason now k
    exact ⟨_, record, sent, rfl, hrecord, hmakes⟩
  by_cases hsynthetic : f.isSynthetic = true
  · obtain ⟨r, record, sent, hr, hrecord, hmakes⟩ := hescalate _
    refine ⟨r, record, sent, hr, hrecord, hnext ?_⟩
    simp only [hsynthetic, if_true]
    exact hmakes
  · have hvalidator := hnone.resolve_left hsynthetic
    obtain ⟨r, record, sent, hr, hrecord, hmakes⟩ := hescalate _
    refine ⟨r, record, sent, hr, hrecord, hnext ?_⟩
    simp only [hsynthetic, validator?_recorded, hvalidator, Option.map_none]
    exact hmakes

/-- A result, and the calls that were made for it, of a fix that keeps to its bound. -/
structure BoundedFix (f : Finding) (r : RemediationResult) (calls : List PluginCall) : Prop where
  bounded : r.attempts.length ≤ maxAttempts
  numbered : r.attempts.map (·.iteration) = List.range' 1 r.attempts.length
  distinct : (r.attempts.map (·.strategy)).Nodup
  /-- For each attempt its strategy was applied once, and in this order. -/
  applied : calls.filterMap PluginCall.applied? = r.attempts.map fun a => (a.strategy, f)
  unfixed : ∀ a ∈ r.attempts.dropLast, a.outcome ≠ .fixed
  fixed_iff : r.state = .fixed ↔ ∃ a, r.attempts.getLast? = some a ∧ a.outcome = .fixed
  ended : r.state = .fixed ∨ r.state = .escalated
  /-- The calls are a question to the channel, the rounds of the attempts and what closes the fix. An
  attempt fixed the finding exactly if its strategy and the validator of the finding succeeded in
  time and the finding is not among those that the validator returned. -/
  rounds : ∃ found rounds closing,
    calls = .find f.fingerprint found :: (rounds.flatten ++ closing) ∧
    List.Forall₂ (fun a round => Round f a.strategy a.outcome round ∧
      (a.outcome = .fixed ↔ ∃ fs, ¬ f.ReportedIn fs ∧ round =
        [.select (some a.strategy), .apply a.strategy f (.ok (.inTime ())),
          .validate f.validatorId (.ok (.inTime fs))])) r.attempts rounds ∧
    Closing f.fingerprint r closing

/-- Whatever the plug-ins do, a finding that a validator reported and that is not escalated yet is
fixed or escalated within the bound. -/
theorem fix_keeps_bound (e : Engine σ) (f : Finding) (now : Instant) (j : Journal (EngineWorld σ))
    (hreported : f.kind = .reported) (hvalidator : (e.validator? f.validatorId).isSome = true)
    (hledger : stateOf j.world f ≠ .escalated)
    (hchannel : ∀ record s, ¬ (e.escalation.find f.fingerprint).Ends (j.seen fun w => w.outer)
      (.ok (some record)) s) :
    ∃ (r : RemediationResult) (k : Journal (EngineWorld (Recorded σ))),
      e.fix f now j = .ok r (k.seen EngineWorld.unrecorded) ∧
      e.recorded.fix f now (j.seen EngineWorld.recorded) = .ok r k ∧
      BoundedFix f r k.world.outer.calls := by
  obtain ⟨v, hv⟩ := Option.isSome_iff_exists.1 hvalidator
  have hkind : f.isSynthetic = false := by simp [Finding.isSynthetic, hreported]
  have hopen (r : RemediationResult) (hr : j.world.ledger.lookup f.fingerprint = some r) :
      r.isEscalated = false := by
    simpa [stateOf, hr, RemediationResult.isEscalated] using hledger
  obtain ⟨found, s, hfind, ⟨record, -, rfl, -⟩ | ⟨-, hnone⟩⟩ :=
    e.makes_settledEscalation (j := j.seen EngineWorld.recorded) hopen
  · exact absurd hfind (hchannel record s)
  obtain ⟨r, rounds, closing, ⟨inner, hends⟩, htried, hbound, hclosing⟩ :=
    e.makes_fix_with_validator hnone hkind hv now
  obtain ⟨k, hrecorded, hk⟩ := hends.ok
  obtain ⟨_, rfl, hplain⟩ := (e.looksLike_fix f now).ok hrecorded
  have hcalls : k.world.outer.calls = .find f.fingerprint found :: (rounds.flatten ++ closing) := by
    rw [hk]
    rfl
  obtain ⟨hunfixed, hfixed, hended⟩ := hclosing.state
  refine ⟨r, k, hplain, hrecorded, hbound, htried.numbered, htried.distinct, ?_, hunfixed, hfixed,
    hended, found, rounds, closing, hcalls, ?_, hclosing⟩
  · rw [hcalls, List.filterMap_cons_none rfl, List.filterMap_append, htried.applied,
      hclosing.applied, List.append_nil]
  · exact htried.rounds.imp fun _ _ hround => ⟨hround, hround.fixed_iff⟩

/-- Two strategies of one name, and a selector that counts its calls and always takes the first. -/
theorem fix_keeps_bound_repeating :
    let bump : FixStrategy Nat :=
      { name := "bump", appliesTo := fun _ => true, apply := fun _ _ _ => return .inTime () }
    let f : Finding :=
      { validatorId := "deps", severity := .high, location := { resource := "Cargo.lock" }
        description := "outdated" }
    let deps : Validator Nat := { id := "deps", run := fun _ _ => return .inTime [f] }
    let e : Engine Nat :=
      { scope := default, strategies := [bump, bump], validators := [deps]
        selector := { select := fun _ strategies _ n => (strategies.head?, n + 1) } }
    ∃ (r : RemediationResult) (k : Journal (EngineWorld (Recorded Nat))),
      e.fix f ⟨0, 0⟩ { world := { outer := 0 } } = .ok r (k.seen EngineWorld.unrecorded) ∧
      BoundedFix f r k.world.outer.calls := by
  intro bump f deps e
  obtain ⟨r, k, hfix, -, hbounded⟩ := fix_keeps_bound e f ⟨0, 0⟩ { world := { outer := 0 } } rfl
    (by decide) nofun fun record s hends => by cases hends.1
  exact ⟨r, k, hfix, hbounded⟩

end Engine

end AgentGovernance
