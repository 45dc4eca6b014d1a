-- SUMMARY: With the usual selector a fix goes down the line-up of strategies to the first that works.
import AgentGovernance.Proofs.Remediation.Course

/-!
# The line-up of a finding

The usual selector takes the first strategy for a finding of a name that was not tried. So a fix goes
down a line-up: the strategies for the finding as they were added, the first of each name. To say where
it stops, the whole line-up is tried in turn, in the worlds that come of it, with no bound and whatever
comes of each attempt. Main statement: a fix makes the attempts of that run up to the first that removes
the finding, and says fixed, if that is within the bound; else it makes as many of them as the bound
allows, and escalates.
-/

namespace AgentGovernance

open Act (Ends)

/-- The place of the first attempt that fixed the finding. -/
def firstFixed? (attempts : List FixAttempt) : Option Nat :=
  attempts.findIdx? fun a => a.outcome == .fixed

/-- The first strategy of each name. -/
def FixStrategy.firstOfEach {σ : Type} (strategies : List (FixStrategy σ)) : List (FixStrategy σ) :=
  strategies.eraseDupsBy fun s t => s.name == t.name

namespace Engine

variable {σ : Type}

/-- The strategies for a finding in the order in which they were added, the first of each name. -/
def lineUp (e : Engine σ) (f : Finding) : List (FixStrategy σ) :=
  FixStrategy.firstOfEach (e.strategies.filter fun s => s.appliesTo f)

/-- The strategy succeeds in time, and after it so does the validator, which no longer reports the
finding. -/
def Removes (e : Engine σ) (v : Validator σ) (f : Finding) (s : FixStrategy σ) (j : Journal σ) : Prop :=
  ∃ k l fs, s.apply f e.scope e.attemptTimeout j = .ok (.inTime ()) k ∧
    v.run e.scope e.attemptTimeout k = .ok (.inTime fs) l ∧ ¬f.ReportedIn fs

/-- What an attempt with the strategy comes to: its record, and the journal after it. -/
structure Attempted (e : Engine σ) (v : Validator σ) (f : Finding) (now : Instant) (number : Nat)
    (s : FixStrategy σ) (j : Journal (EngineWorld σ)) (a : FixAttempt)
    (k : Journal (EngineWorld σ)) : Prop where
  act : e.attempt number s v f f.fingerprint now j = .ok a k
  iteration : a.iteration = number
  strategy : a.strategy = s.name
  fixed_iff : a.outcome = .fixed ↔ e.Removes v f s (j.seen (·.outer))

/-- The attempts with all the strategies in turn, each in the world that the one before it left. -/
inductive InTurn (e : Engine σ) (v : Validator σ) (f : Finding) (now : Instant) :
    (number : Nat) → List (FixStrategy σ) → Journal (EngineWorld σ) → List FixAttempt → Prop
  | done {number : Nat} {j : Journal (EngineWorld σ)} : InTurn e v f now number [] j []
  | next {number : Nat} {s : FixStrategy σ} {rest : List (FixStrategy σ)}
    {j k : Journal (EngineWorld σ)} {a : FixAttempt} {attempts : List FixAttempt}
    (h : e.Attempted v f now number s j a k) (hrest : InTurn e v f now (number + 1) rest k attempts) :
    InTurn e v f now number (s :: rest) j (a :: attempts)

variable {e : Engine σ} {v : Validator σ} {f : Finding} {now : Instant} {number : Nat}
  {s : FixStrategy σ} {strategies applicable : List (FixStrategy σ)} {a : FixAttempt}
  {prior attempts : List FixAttempt}

/-! ## Attempts -/

theorem verdictOn_fixed_iff (f : Finding) (limit : Nat)
    (answer : Except GovernanceError (Timed (List Finding))) :
    (verdictOn f f.fingerprint limit answer).1 = .fixed ↔
      ∃ fs, answer = .ok (.inTime fs) ∧ ¬f.ReportedIn fs := by
  rw [(round_of_verdictOn f "" limit answer).fixed_iff]
  simp [and_comm]

/-- A trial never fails, and says fixed exactly if the strategy removes the finding. -/
theorem exists_tryOnce (e : Engine σ) (v : Validator σ) (f : Finding) (s : FixStrategy σ)
    (j : Journal σ) :
    ∃ verdict k, e.tryOnce s v f f.fingerprint j = .ok verdict k ∧
      (verdict.1 = .fixed ↔ e.Removes v f s j) := by
  have hunapplied (h : ∀ k, s.apply f e.scope e.attemptTimeout j ≠ .ok (.inTime ()) k) :
      FixOutcome.failed = .fixed ↔ e.Removes v f s j := by
    refine iff_of_false nofun ?_
    rintro ⟨k, _, _, happly, -⟩
    exact h k happly
  unfold tryOnce
  cases happly : s.apply f e.scope e.attemptTimeout j with
  | error err k =>
    exact ⟨_, k, Act.bind_of_ok (Act.attempt_of_error happly) _, hunapplied (by simp [happly])⟩
  | ok applied k =>
    have hattempt := Act.attempt_of_ok happly
    match applied with
    | .late => exact ⟨_, k, Act.bind_of_ok hattempt _, hunapplied (by simp [happly])⟩
    | .aborted reason => exact ⟨_, k, Act.bind_of_ok hattempt _, hunapplied (by simp [happly])⟩
    | .inTime () =>
      rw [Act.bind_of_ok hattempt]
      cases hrun : v.run e.scope e.attemptTimeout k with
      | error err l =>
        refine ⟨_, l, Act.bind_of_ok (Act.attempt_of_error hrun) _, ?_⟩
        rw [verdictOn_fixed_iff]
        simp [Removes, happly, hrun]
      | ok answer l =>
        refine ⟨_, l, Act.bind_of_ok (Act.attempt_of_ok hrun) _, ?_⟩
        rw [verdictOn_fixed_iff]
        simp [Removes, happly, hrun]

theorem exists_attempted (e : Engine σ) (v : Validator σ) (f : Finding) (now : Instant)
    (number : Nat) (s : FixStrategy σ) (j : Journal (EngineWorld σ)) :
    ∃ a k, e.Attempted v f now number s j a k := by
  obtain ⟨verdict, k, htry, hfixed⟩ := e.exists_tryOnce v f s (j.seen (·.outer))
  have houter : onOuter (e.tryOnce s v f f.fingerprint) j =
      .ok verdict { world := { j.world with outer := k.world }, events := k.events } := by
    unfold Journal.seen at htry
    simp only [onOuter, Act.onPart, htry]
  exact ⟨_, _, Act.bind_of_ok houter _, rfl, rfl, hfixed⟩

theorem exists_inTurn (e : Engine σ) (v : Validator σ) (f : Finding) (now : Instant) (number : Nat)
    (strategies : List (FixStrategy σ)) (j : Journal (EngineWorld σ)) :
    ∃ attempts, e.InTurn v f now number strategies j attempts := by
  induction strategies generalizing number j with
  | nil => exact ⟨[], .done⟩
  | cons s rest ih =>
    obtain ⟨a, k, h⟩ := e.exists_attempted v f now number s j
    obtain ⟨attempts, hrest⟩ := ih (number + 1) k
    exact ⟨a :: attempts, .next h hrest⟩

theorem InTurn.names {j : Journal (EngineWorld σ)}
    (h : e.InTurn v f now number strategies j attempts) :
    attempts.map (·.strategy) = strategies.map (·.name) := by
  induction h with
  | done => rfl
  | next h _ ih => rw [List.map_cons, List.map_cons, h.strategy, ih]

/-! ## What is left of the line-up -/

/-- The strategies that the usual selector has still to offer. -/
def untried (applicable : List (FixStrategy σ)) (prior : List FixAttempt) : List (FixStrategy σ) :=
  FixStrategy.firstOfEach (applicable.filter fun s => !StrategySelector.wasTried prior s.name)

theorem firstOfEach_cons (s : FixStrategy σ) (rest : List (FixStrategy σ)) :
    FixStrategy.firstOfEach (s :: rest) =
      s :: FixStrategy.firstOfEach (rest.filter fun t => t.name != s.name) := by
  rw [FixStrategy.firstOfEach, List.eraseDupsBy_cons]
  refine congrArg (fun others => s :: FixStrategy.firstOfEach others) ?_
  exact List.filter_congr fun t _ => by simp [bne, beq_eq_decide]

theorem untried_nil (applicable : List (FixStrategy σ)) :
    untried applicable [] = FixStrategy.firstOfEach applicable := by
  simp [untried, StrategySelector.wasTried]

/-- The first that is left is the first that was not tried. -/
theorem head?_untried (applicable : List (FixStrategy σ)) (prior : List FixAttempt) :
    (untried applicable prior).head? =
      applicable.find? fun s => !StrategySelector.wasTried prior s.name := by
  rw [untried, ← List.head?_filter]
  cases applicable.filter fun s => !StrategySelector.wasTried prior s.name with
  | nil => rfl
  | cons s rest => rw [firstOfEach_cons]; rfl

/-- After an attempt with the first, the others are left. -/
theorem untried_snoc {rest : List (FixStrategy σ)} (h : untried applicable prior = s :: rest)
    (hname : a.strategy = s.name) : untried applicable (prior ++ [a]) = rest := by
  -- What was not tried now is what was not tried before and is not called like the new attempt's.
  have hfilter : (applicable.filter fun t => !StrategySelector.wasTried (prior ++ [a]) t.name) =
      (applicable.filter fun t => !StrategySelector.wasTried prior t.name).filter
        fun t => t.name != s.name := by
    rw [List.filter_filter]
    refine List.filter_congr fun t _ => ?_
    simp only [StrategySelector.wasTried, List.any_append, List.any_cons, List.any_nil,
      Bool.or_false, Bool.not_or, hname]
    rw [Bool.and_comm, bne, Bool.beq_comm]
  rw [untried] at h ⊢
  rw [hfilter]
  cases hleft : applicable.filter fun t => !StrategySelector.wasTried prior t.name with
  | nil =>
    rw [hleft] at h
    cases h
  | cons t others =>
    rw [hleft, firstOfEach_cons] at h
    obtain ⟨rfl, rfl⟩ := List.cons.inj h
    simp

/-! ## The loop -/

/-- Of the attempts in turn the first ones, up to one that fixed the finding or to the bound. -/
inductive CutAt (bound : Nat) (attempts : List FixAttempt) : Bool → List FixAttempt → Prop
  | fixed {i : Nat} (hi : i < bound) (h : firstFixed? attempts = some i) :
    CutAt bound attempts true (attempts.take (i + 1))
  | unfixed (h : ∀ i < bound, firstFixed? attempts ≠ some i) :
    CutAt bound attempts false (attempts.take bound)

theorem firstFixed?_cons_of_fixed (h : a.outcome = .fixed) (attempts : List FixAttempt) :
    firstFixed? (a :: attempts) = some 0 := by
  simp [firstFixed?, List.findIdx?_cons, h]

theorem firstFixed?_cons_of_unfixed (h : a.outcome ≠ .fixed) (attempts : List FixAttempt) :
    firstFixed? (a :: attempts) = (firstFixed? attempts).map (· + 1) := by
  simp [firstFixed?, List.findIdx?_cons, h]

theorem CutAt.cons {bound : Nat} {isFixed : Bool} {made : List FixAttempt}
    (h : CutAt bound attempts isFixed made) (ha : a.outcome ≠ .fixed) :
    CutAt (bound + 1) (a :: attempts) isFixed (a :: made) := by
  have hcons := firstFixed?_cons_of_unfixed ha attempts
  cases h with
  | fixed hi hfirst =>
    refine .fixed (Nat.succ_lt_succ hi) ?_
    rw [hcons, hfirst]
    rfl
  | unfixed hnone =>
    refine .unfixed fun i hi hfirst => ?_
    rw [hcons, Option.map_eq_some_iff] at hfirst
    obtain ⟨k, hk, rfl⟩ := hfirst
    exact hnone k (Nat.lt_of_succ_lt_succ hi) hk

/-- The usual selector offers the first strategy that was not tried, and changes nothing. -/
theorem choose_usual (husual : e.selector = .firstUntried)
    (happlicable : ∀ s ∈ applicable, s.appliesTo f = true) (prior : List FixAttempt)
    (j : Journal (EngineWorld σ)) :
    e.choose f applicable prior j = .ok (untried applicable prior).head? j := by
  rw [head?_untried, choose, husual]
  simp only [StrategySelector.firstUntried, List.filter_eq_self.2 happlicable]
  rfl

/-- The loop makes the attempts with the strategies that are left, up to one that fixes the finding or
to its bound. -/
theorem fixLoop_of_inTurn (husual : e.selector = .firstUntried)
    (happlicable : ∀ s ∈ applicable, s.appliesTo f = true) (left : Nat)
    {j : Journal (EngineWorld σ)}
    (h : e.InTurn v f now (prior.length + 1) (untried applicable prior) j attempts) :
    ∃ isFixed made k, e.fixLoop v f f.fingerprint applicable now left prior j =
      .ok (isFixed, prior ++ made) k ∧ CutAt left attempts isFixed made := by
  -- The attempts made so far say which strategies are left, so the run goes on where the loop does.
  induction left generalizing prior j attempts with
  | zero => exact ⟨false, [], j, by rw [List.append_nil]; rfl, .unfixed nofun⟩
  | succ left ih =>
    have hchoose := choose_usual husual happlicable prior j
    rw [fixLoop]
    cases hleft : untried applicable prior with
    | nil =>
      rw [hleft] at h hchoose
      cases h
      exact ⟨false, [], j, by rw [Act.bind_of_ok hchoose, List.append_nil]; rfl, .unfixed nofun⟩
    | cons s rest =>
      have hnew : StrategySelector.wasTried prior s.name = false := by
        have hfound := head?_untried applicable prior
        rw [hleft] at hfound
        simpa using List.find?_some hfound.symm
      rw [hleft] at h hchoose
      cases h with
      | next hattempt hrest =>
        rename_i k a attempts
        rw [Act.bind_of_ok hchoose]
        simp only [List.head?_cons, hnew, Bool.false_eq_true, if_false]
        rw [Act.bind_of_ok hattempt.act]
        by_cases hfixed : a.outcome = .fixed
        · refine ⟨true, [a], k, by simp [hfixed]; rfl, ?_⟩
          exact .fixed (Nat.succ_pos left) (firstFixed?_cons_of_fixed hfixed attempts)
        · have hlength : prior.length + 1 + 1 = (prior ++ [a]).length + 1 := by simp
          rw [hlength, ← untried_snoc hleft hattempt.strategy] at hrest
          obtain ⟨isFixed, made, l, hloop, hcut⟩ := ih hrest
          refine ⟨isFixed, a :: made, l, ?_, hcut.cons hfixed⟩
          simpa [hfixed] using hloop

/-! ## The fix -/

theorem ends_fixWith_of_inTurn (husual : e.selector = .firstUntried) {j : Journal (EngineWorld σ)}
    (h : e.InTurn v f now 1 (e.lineUp f) j attempts) :
    ∃ r w isFixed, Ends (e.fixWith v f f.fingerprint now) j (.ok r) w ∧
      r.state = (if isFixed then .fixed else .escalated) ∧
      CutAt maxAttempts attempts isFixed r.attempts := by
  have happlicable : ∀ s ∈ e.strategies.filter (fun s => s.appliesTo f), s.appliesTo f = true :=
    fun s hs => (List.mem_filter.1 hs).2
  have hturn : e.InTurn v f now (([] : List FixAttempt).length + 1)
      (untried (e.strategies.filter fun s => s.appliesTo f) []) j attempts := by
    rwa [untried_nil]
  obtain ⟨isFixed, made, k, hloop, hcut⟩ := fixLoop_of_inTurn husual happlicable maxAttempts hturn
  rw [List.nil_append] at hloop
  cases isFixed with
  | true =>
    have hsettle := (ends_settle f.fingerprint (.fixed f.fingerprint made) k).bind
      (f := fun _ => pure (RemediationResult.fixed f.fingerprint made)) fun l hl =>
        hl ▸ Act.ends_pure _
    exact ⟨_, _, true, hsettle.of_eq (Act.bind_of_ok hloop _), rfl, hcut⟩
  | false =>
    obtain ⟨_, _, -, hescalate⟩ := e.ends_escalate f made (exhaustion made) now k
    exact ⟨_, _, false, hescalate.of_eq (Act.bind_of_ok hloop _), rfl, hcut⟩

/-- With the usual selector, a finding that a validator reported and that is not escalated yet is taken
down its line-up. Of the attempts that come of trying all of it in turn, a fix makes those up to the
first that removes the finding and says fixed, if that one is within the bound; otherwise it makes as
many as there are within the bound and escalates. -/
theorem fix_goes_down_line_up (husual : e.selector = .firstUntried) (f : Finding) (now : Instant)
    (j : Journal (EngineWorld σ)) (hreported : f.kind = .reported)
    (hvalidator : e.validator? f.validatorId = some v) (hledger : stateOf j.world f ≠ .escalated)
    (hchannel : ∀ record s, ¬Ends (e.escalation.find f.fingerprint) (j.seen (·.outer))
      (.ok (some record)) s) :
    ∃ k, e.settledEscalation f.fingerprint j = .ok none k ∧
      (∃ attempts, e.InTurn v f now 1 (e.lineUp f) k attempts) ∧
      ∀ attempts, e.InTurn v f now 1 (e.lineUp f) k attempts →
        attempts.map (·.strategy) = (e.lineUp f).map (·.name) ∧
        ∃ r l, e.fix f now j = .ok r l ∧
          (∀ i < maxAttempts, firstFixed? attempts = some i →
            r.state = .fixed ∧ r.attempts = attempts.take (i + 1)) ∧
          ((∀ i < maxAttempts, firstFixed? attempts ≠ some i) →
            r.state = .escalated ∧ r.attempts = attempts.take maxAttempts) := by
  have hopen : ∀ r, ¬Escalated j.world.ledger f.fingerprint r := by
    rintro r ⟨hlookup, hr⟩
    rw [stateOf, hlookup] at hledger
    exact hledger (isEscalated_iff.1 hr)
  obtain ⟨found, s, hfind, ⟨record, rfl, -⟩ | ⟨-, hends⟩⟩ := ends_settledEscalation (e := e) hopen
  · exact absurd hfind (hchannel record s)
  obtain ⟨k, hsettled, -⟩ := hends.ok
  refine ⟨k, hsettled, e.exists_inTurn v f now 1 (e.lineUp f) k, ?_⟩
  intro attempts hturn
  obtain ⟨r, w, isFixed, hfix, hstate, hcut⟩ := ends_fixWith_of_inTurn husual hturn
  have hkind : f.isSynthetic = false := by simp [Finding.isSynthetic, hreported]
  have hwhole : Ends (e.fix f now) j (.ok r) w := by
    refine Ends.of_eq ?_ (Act.bind_of_ok hsettled _)
    simpa only [hkind, hvalidator, Bool.false_eq_true, if_false] using hfix
  obtain ⟨l, hl, -⟩ := hwhole.ok
  refine ⟨hturn.names, r, l, hl, ?_⟩
  generalize hmade : r.attempts = made at hcut
  cases hcut with
  | fixed hi hfirst =>
    refine ⟨fun i _ hsome => ?_, fun hnone => absurd hfirst (hnone _ hi)⟩
    obtain rfl := Option.some.inj (hfirst.symm.trans hsome)
    exact ⟨hstate, rfl⟩
  | unfixed hnone => exact ⟨fun i hi hsome => absurd hsome (hnone i hi), fun _ => ⟨hstate, rfl⟩⟩

/-- A strategy that fails, another one of its name that is never asked, and one that works. -/
theorem fix_goes_down_line_up_namesakes :
    let f : Finding :=
      { validatorId := "deps", severity := .high, location := { resource := "Cargo.lock" }
        description := "outdated" }
    let bump : FixStrategy Bool :=
      { name := "bump", appliesTo := fun _ => true, apply := fun _ _ _ => Act.fail .serialization }
    let pin : FixStrategy Bool :=
      { name := "pin", appliesTo := fun _ => true
        apply := fun _ _ _ => do Act.setWorld true; return .inTime () }
    let deps : Validator Bool :=
      { id := "deps", run := fun _ _ => return .inTime (if ← Act.world then [] else [f]) }
    let e : Engine Bool :=
      { scope := default, validators := [deps]
        strategies := [bump, { pin with name := "bump" }, pin, { pin with name := "drop" }] }
    ∃ r l, e.fix f ⟨0, 0⟩ { world := { outer := false } } = .ok r l ∧ r.state = .fixed ∧
      r.attempts.map (·.strategy) = ["bump", "pin"] := by
  intro f bump pin deps e
  obtain ⟨k, -, ⟨attempts, hturn⟩, houtcome⟩ :=
    fix_goes_down_line_up (e := e) (v := deps) rfl f ⟨0, 0⟩ { world := { outer := false } } rfl
      rfl nofun fun record s hends => by cases hends.1
  obtain ⟨-, r, l, hfix, hfixed, -⟩ := houtcome attempts hturn
  have hlineUp : e.lineUp f = [bump, pin, { pin with name := "drop" }] := rfl
  rw [hlineUp] at hturn
  cases hturn with
  | next hbump hrest =>
  cases hrest with
  | next hpin hdrop =>
  rename_i a _ b others
  have ha : a.outcome ≠ .fixed := by
    rw [ne_eq, hbump.fixed_iff]
    rintro ⟨_, _, _, happly, -⟩
    cases happly
  have hb : b.outcome = .fixed := by
    rw [hpin.fixed_iff]
    exact ⟨_, _, [], rfl, rfl, by simp [Finding.ReportedIn]⟩
  have hfirst : firstFixed? (a :: b :: others) = some 1 := by
    rw [firstFixed?_cons_of_unfixed ha, firstFixed?_cons_of_fixed hb]
    rfl
  obtain ⟨hstate, hattempts⟩ := hfixed 1 (by decide) hfirst
  refine ⟨r, l, hfix, hstate, ?_⟩
  rw [hattempts]
  exact congrArg₂ (fun first second => [first, second]) hbump.strategy hpin.strategy

end Engine

end AgentGovernance
