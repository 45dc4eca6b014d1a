-- SUMMARY: Engines that share a channel which keeps its records: an escalation counts for them all.
import AgentGovernance.Proofs.Remediation.Archive
import AgentGovernance.Proofs.Remediation.Course

/-!
# Engines that share a channel

Engines with ledgers of their own work in one world, fix after fix, and share a channel that keeps
its records. Main statement: a fix of a finding whose fingerprint has a record repeats that record
without applying a strategy, and any other fix adds a record exactly if it escalates its finding. So
there is never a second record under a fingerprint, whichever engines do the fixes.
-/

namespace AgentGovernance

open Act (Ends Maintains)

variable {σ : Type}

/-! ## Channels that keep records -/

/-- The channel finds the records that it keeps and no others, and a record that it takes joins
them. -/
structure EscalationChannel.Keeps (c : EscalationChannel σ)
    (kept : List EscalationRecord → σ → Prop) : Prop where
  register : ∀ {records w}, kept records w → Register records
  find : ∀ {records} {j : Journal σ} (f : Finding), kept records j.world →
    ∃ found w, Ends (c.find f.fingerprint) j found w ∧ kept records w ∧
      ∀ record, found = .ok (some record) ↔
        record ∈ records ∧ record.fingerprint = f.fingerprint
  escalate : ∀ {records record} {j : Journal σ} {w}, kept records j.world → record.Valid →
    record.fingerprint = record.finding.fingerprint →
    (∀ r ∈ records, r.fingerprint ≠ record.fingerprint) →
    Ends (c.escalate record) j (.ok ()) w → kept (records ++ [record]) w

/-- A record of a fix is in range if the finding and the time are. -/
theorem EscalationRecord.MadeFor.valid {record : EscalationRecord} {f : Finding} {now : Instant}
    (h : record.MadeFor f now) (hf : f.location.Valid) (hnow : now.Valid) : record.Valid where
  finding := h.finding ▸ hf
  attempts a ha := by
    obtain ⟨hnumber, htime⟩ := h.attempts a ha
    exact ⟨Nat.lt_of_le_of_lt hnumber (by decide), htime ▸ hnow⟩
  escalatedAt := h.escalatedAt ▸ hnow

theorem EscalationRecord.MadeFor.own {record : EscalationRecord} {f : Finding} {now : Instant}
    (h : record.MadeFor f now) : record.fingerprint = record.finding.fingerprint := by
  rw [h.fingerprint, h.finding]

/-! ## Recorded engines -/

/-- The record that the channel was given, and whether it took it. -/
def PluginCall.delivery? : PluginCall → Option (EscalationRecord × Except GovernanceError Unit)
  | .escalate record outcome => some (record, outcome)
  | _ => none

/-- The channel did not take a record. -/
def PluginCall.refused : PluginCall → Bool
  | .escalate _ (.error _) => true
  | _ => false

theorem PluginCall.sent_of_delivery (calls : List PluginCall) :
    calls.filterMap PluginCall.sent? = (calls.filterMap PluginCall.delivery?).map (·.1) := by
  rw [List.map_filterMap]
  refine List.filterMap_congr fun call _ => ?_
  cases call <;> rfl

/-- A recorded act does what the act does and adds its call to the record. -/
theorem Act.ends_of_recorded {α : Type} {call : Except GovernanceError α → PluginCall}
    {act : Act σ α} {j : Journal (Recorded σ)} {o : Except GovernanceError α} {w : Recorded σ}
    (h : Ends (act.recorded call) j o w) :
    Ends act (j.seen Recorded.inner) o w.inner ∧ w.calls = j.world.calls ++ [call o] := by
  obtain ⟨o', s, hact⟩ := Ends.exists act (j.seen Recorded.inner)
  obtain ⟨rfl, rfl⟩ := h.unique (Act.ends_recorded call hact)
  exact ⟨hact, rfl⟩

/-- The condition on the inner world, as long as no record was sent. -/
def Unsent (P : σ → Prop) (w : Recorded σ) : Prop :=
  P w.inner ∧ w.calls.filterMap PluginCall.delivery? = []

theorem Act.Maintains.recorded {α : Type} {P : σ → Prop} {act : Act σ α}
    {call : Except GovernanceError α → PluginCall} (h : Maintains P act)
    (hcall : ∀ o, (call o).delivery? = none) : Maintains (Unsent P) (act.recorded call) := by
  rintro j o w ⟨hinner, hcalls⟩ hends
  obtain ⟨hact, hmore⟩ := Act.ends_of_recorded hends
  refine ⟨h _ _ _ hinner hact, ?_⟩
  rw [hmore, List.filterMap_append, hcalls]
  simp [hcall]

namespace Engine

theorem Minds.recorded {e : Engine σ} {P : σ → Prop} (h : e.Minds P) :
    e.recorded.Minds (Unsent P) := by
  have hplain (f : Finding) :
      (e.recorded.strategies.filter fun s => s.appliesTo f).map FixStrategy.unrecorded =
        e.strategies.filter fun s => s.appliesTo f := by
    rw [filter_recorded]
    simp [Function.comp_def]
  refine ⟨?_, ?_, ?_⟩
  · intro v hv
    obtain ⟨inner, hinner, rfl⟩ := List.mem_map.1 hv
    exact (h.validators inner hinner).recorded fun _ => rfl
  · rintro f prior w ⟨hinner, hcalls⟩
    have hselector := h.selector f prior w.inner hinner
    simp only [Engine.recorded, StrategySelector.recorded] at hplain ⊢
    rw [hplain]
    exact ⟨hselector, by simp [hcalls, PluginCall.delivery?]⟩
  · intro f prior w s hs
    simp only [Engine.recorded, StrategySelector.recorded] at hplain hs
    rw [hplain] at hs
    obtain ⟨inner, hchoice, rfl⟩ := Option.map_eq_some_iff.1 hs
    exact (h.choices f prior w.inner inner hchoice).recorded fun _ => rfl

/-! ## One fix over kept records -/

/-- Every escalation of the ledger is that of a record. -/
def Agrees (ledger : List (String × RemediationResult)) (records : List EscalationRecord) : Prop :=
  ∀ fingerprint r, Escalated ledger fingerprint r →
    ∃ record ∈ records, record.fingerprint = fingerprint ∧ r = record.result

/-- What a fix over kept records comes to, and the records after it. -/
inductive Turns (records : List EscalationRecord) (f : Finding) (now : Instant) :
    RemediationResult → List PluginCall → List EscalationRecord → Prop
  | known {record : EscalationRecord} {calls : List PluginCall} (hrecord : record ∈ records)
    (hsame : record.fingerprint = f.fingerprint)
    (hcalls : calls = [] ∨ ∃ found, calls = [.find f.fingerprint found]) :
    Turns records f now record.result calls records
  | fixed {r : RemediationResult} {calls : List PluginCall}
    (hnew : ∀ record ∈ records, record.fingerprint ≠ f.fingerprint) (hr : r.isEscalated = false)
    (hsent : calls.filterMap PluginCall.sent? = []) : Turns records f now r calls records
  | escalated {record : EscalationRecord} {calls : List PluginCall}
    (hnew : ∀ record ∈ records, record.fingerprint ≠ f.fingerprint)
    (hrecord : record.MadeFor f now) (hsent : calls.filterMap PluginCall.sent? = [record]) :
    Turns records f now record.result calls (records ++ [record])

namespace Turns

variable {records records' : List EscalationRecord} {f : Finding} {now : Instant}
  {r : RemediationResult} {calls : List PluginCall}

theorem subset (h : Turns records f now r calls records') : records ⊆ records' := by
  cases h with
  | known | fixed => exact List.Subset.refl _
  | escalated => exact List.subset_append_left ..

/-- The records that were sent are those that are new. -/
theorem sent (h : Turns records f now r calls records') :
    records' = records ++ calls.filterMap PluginCall.sent? := by
  cases h with
  | known _ _ hcalls =>
    rcases hcalls with rfl | ⟨found, rfl⟩
    · exact (List.append_nil _).symm
    · exact (List.append_nil _).symm
  | fixed _ _ hsent | escalated _ _ hsent => simp [hsent]

/-- A fix that escalates its finding leaves a record of that. -/
theorem record (h : Turns records f now r calls records') (hr : r.state = .escalated) :
    ∃ record ∈ records', record.fingerprint = f.fingerprint ∧ r = record.result := by
  cases h with
  | @known record _ hrecord hsame _ => exact ⟨record, hrecord, hsame, rfl⟩
  | fixed _ hopen _ =>
    rw [isEscalated_iff.2 hr] at hopen
    cases hopen
  | @escalated record _ _ hmade _ => exact ⟨record, by simp, hmade.fingerprint, rfl⟩

/-- Where there is a record, it is the result, and no strategy is applied. -/
theorem repeats (h : Turns records f now r calls records') (hrecords : Register records)
    {record : EscalationRecord} (hrecord : record ∈ records)
    (hsame : record.fingerprint = f.fingerprint) :
    r = record.result ∧ calls.filterMap PluginCall.applied? = [] := by
  cases h with
  | @known other _ hother hsame' hcalls =>
    obtain rfl : other = record :=
      List.inj_on_of_nodup_map hrecords.nodup hother hrecord (hsame'.trans hsame.symm)
    refine ⟨rfl, ?_⟩
    rcases hcalls with rfl | ⟨found, rfl⟩
    · rfl
    · rfl
  | fixed hnew | escalated hnew => exact absurd hsame (hnew record hrecord)

/-- The records are those from before and one for the finding if it was escalated. -/
theorem mem_iff (h : Turns records f now r calls records') (fingerprint : String) :
    (∃ record ∈ records', record.fingerprint = fingerprint) ↔
      (∃ record ∈ records, record.fingerprint = fingerprint) ∨
      f.fingerprint = fingerprint ∧ r.state = .escalated := by
  cases h with
  | @known record _ hrecord hsame _ =>
    refine ⟨.inl, ?_⟩
    rintro (hold | ⟨rfl, -⟩)
    · exact hold
    · exact ⟨record, hrecord, hsame⟩
  | fixed _ hopen _ =>
    refine ⟨.inl, ?_⟩
    rintro (hold | ⟨-, hstate⟩)
    · exact hold
    · rw [isEscalated_iff.2 hstate] at hopen
      cases hopen
  | @escalated record _ _ hmade _ =>
    simp [or_and_right, exists_or, hmade.fingerprint, EscalationRecord.result,
      RemediationResult.escalated]

end Turns

theorem agrees_nil (records : List EscalationRecord) : Agrees [] records := by
  rintro fingerprint r ⟨hlookup, -⟩
  cases hlookup

theorem Agrees.mono {ledger : List (String × RemediationResult)}
    {records records' : List EscalationRecord} (h : Agrees ledger records)
    (hmore : records ⊆ records') : Agrees ledger records' := by
  intro fingerprint r hr
  obtain ⟨record, hrecord, hsame⟩ := h fingerprint r hr
  exact ⟨record, hmore hrecord, hsame⟩

theorem Agrees.settled {ledger : List (String × RemediationResult)}
    {records records' : List EscalationRecord} (h : Agrees ledger records)
    (hmore : records ⊆ records') {fingerprint : String} {r : RemediationResult}
    (hr : r.isEscalated = true →
      ∃ record ∈ records', record.fingerprint = fingerprint ∧ r = record.result) :
    Agrees (settledLedger ledger fingerprint r) records' := by
  rintro other r' ⟨hlookup, hescalated⟩
  by_cases hother : other = fingerprint
  · subst hother
    rw [lookup_settledLedger_self] at hlookup
    cases hlookup
    exact hr hescalated
  · rw [lookup_settledLedger_of_ne ledger hother] at hlookup
    obtain ⟨record, hrecord, hsame⟩ := h other r' ⟨hlookup, hescalated⟩
    exact ⟨record, hmore hrecord, hsame⟩

/-- What the recorded channel answers before anything else was called. -/
theorem found_of_recorded {e : Engine σ} {kept : List EscalationRecord → σ → Prop}
    (hchannel : e.escalation.Keeps kept) {records : List EscalationRecord} {f : Finding}
    {j : Journal (Recorded σ)} {s : σ} (hj : j.world = { inner := s }) (hs : kept records s)
    {found : Except GovernanceError (Option EscalationRecord)} {w : Recorded σ}
    (h : Ends (e.recorded.escalation.find f.fingerprint) j found w) :
    kept records w.inner ∧ w.calls = [.find f.fingerprint found] ∧
      ∀ record, found = .ok (some record) ↔
        record ∈ records ∧ record.fingerprint = f.fingerprint := by
  obtain ⟨hfind, hcalls⟩ := Act.ends_of_recorded h
  obtain ⟨found', w', hfind', hkept, hfound⟩ := hchannel.find (j := j.seen Recorded.inner) f
    (by rwa [Journal.seen, hj])
  obtain ⟨rfl, rfl⟩ := hfind'.unique hfind
  exact ⟨hkept, by rw [hcalls, hj]; rfl, hfound⟩

/-- A fix by an engine whose channel keeps its records, provided that the channel refuses none. -/
theorem turns_of_course {e : Engine σ} {kept : List EscalationRecord → σ → Prop}
    (hchannel : e.escalation.Keeps kept) {records : List EscalationRecord} {f : Finding}
    {now : Instant} (hf : f.location.Valid) (hnow : now.Valid) {s : σ}
    {ledger : List (String × RemediationResult)} (hs : kept records s)
    (hledger : Agrees ledger records) {r : RemediationResult} {w : EngineWorld (Recorded σ)}
    (h : Course e.recorded (Unsent (kept records)) f now { outer := { inner := s }, ledger } r w)
    (htaken : ∀ call ∈ w.outer.calls, call.refused = false) :
    ∃ records', Turns records f now r w.outer.calls records' ∧ kept records' w.outer.inner ∧
      Agrees w.ledger records' := by
  cases h with
  | again hr =>
    obtain ⟨record, hrecord, hsame, rfl⟩ := hledger _ _ hr
    exact ⟨records, .known hrecord hsame (.inl rfl), hs, hledger⟩
  | @found record s' j hj hfind =>
    obtain ⟨hkept, hcalls, hfound⟩ := found_of_recorded hchannel hj hs hfind
    obtain ⟨hrecord, hsame⟩ := (hfound record).1 rfl
    refine ⟨records, .known hrecord hsame (.inr ⟨_, hcalls⟩), hkept, ?_⟩
    exact hledger.settled (List.Subset.refl _) fun _ => ⟨record, hrecord, hsame, rfl⟩
  | @fixed found s' t j _ hj hfind hnone hunsent hr =>
    obtain ⟨hkept, hcalls, hfound⟩ := found_of_recorded hchannel hj hs hfind
    have hnew : ∀ record ∈ records, record.fingerprint ≠ f.fingerprint :=
      fun record hrecord hsame => hnone record ((hfound record).2 ⟨hrecord, hsame⟩)
    obtain ⟨hkept, hsent⟩ := hunsent ⟨hkept, by rw [hcalls]; rfl⟩
    refine ⟨records, .fixed hnew hr ?_, hkept, ?_⟩
    · rw [PluginCall.sent_of_delivery, hsent]
      rfl
    · refine hledger.settled (List.Subset.refl _) fun hescalated => ?_
      rw [hr] at hescalated
      cases hescalated
  | @escalated found s' u j k record sent hj hfind hnone hunsent hrecord hsend =>
    obtain ⟨hkept, hcalls, hfound⟩ := found_of_recorded hchannel hj hs hfind
    have hnew : ∀ record ∈ records, record.fingerprint ≠ f.fingerprint :=
      fun record hrecord hsame => hnone record ((hfound record).2 ⟨hrecord, hsame⟩)
    obtain ⟨hkept, hsent⟩ := hunsent ⟨hkept, by rw [hcalls]; rfl⟩
    obtain ⟨hsend, hmore⟩ := Act.ends_of_recorded hsend
    have hlast := htaken (.escalate record sent) (by simp [hmore])
    obtain rfl : sent = .ok () := by
      cases sent with
      | ok _ => rfl
      | error err => cases hlast
    refine ⟨records ++ [record], .escalated hnew hrecord ?_, ?_, ?_⟩
    · rw [hmore, List.filterMap_append, PluginCall.sent_of_delivery, hsent]
      rfl
    · refine hchannel.escalate hkept (hrecord.valid hf hnow) hrecord.own ?_ hsend
      rwa [hrecord.fingerprint]
    · exact hledger.settled (List.subset_append_left ..) fun _ =>
        ⟨record, by simp, hrecord.fingerprint, rfl⟩

end Engine

/-! ## Fleets -/

/-- Engines, told apart by numbers. -/
abbrev Fleet (σ : Type) := Nat → Engine σ

/-- The world that the engines share, and the ledgers that they do not share. -/
structure FleetWorld (σ : Type) where
  outer : σ
  ledgers : Nat → List (String × RemediationResult) := fun _ => []

/-- A finding that one of the engines is to fix. -/
structure FixOrder where
  engine : Nat
  finding : Finding
  now : Instant

/-- The finding and the time of the order are in range. -/
structure FixOrder.Valid (o : FixOrder) : Prop where
  finding : o.finding.location.Valid
  now : o.now.Valid

/-- What came of an order, the calls that were made for it, and the world after it. -/
structure Episode (σ : Type) where
  finding : Finding
  outcome : Except GovernanceError RemediationResult
  calls : List PluginCall
  world : FleetWorld σ

namespace Fleet

variable (fleet : Fleet σ)

/-- Has the engine of the order fix its finding. The calls are those of the recorded engine, which
does the same. -/
def episode (w : FleetWorld σ) (o : FixOrder) : Episode σ :=
  let e := fleet o.engine
  let start : EngineWorld σ := { outer := w.outer, ledger := w.ledgers o.engine }
  let after := (e.fix o.finding o.now).run start
  { finding := o.finding
    outcome := after.outcome
    calls := ((e.recorded.fix o.finding o.now).run start.recorded).world.outer.calls
    world :=
      { outer := after.world.outer
        ledgers := fun k => if k = o.engine then after.world.ledger else w.ledgers k } }

/-- Orders one after another. -/
def story (w : FleetWorld σ) : List FixOrder → List (Episode σ)
  | [] => []
  | o :: rest => fleet.episode w o :: story (fleet.episode w o).world rest

/-- The world after all orders. -/
def after (w : FleetWorld σ) (orders : List FixOrder) : FleetWorld σ :=
  orders.foldl (fun w o => (fleet.episode w o).world) w

/-! ## What a story tells -/

/-- The world keeps the records, and no ledger knows of other escalations. -/
structure Holds (kept : List EscalationRecord → σ → Prop) (w : FleetWorld σ)
    (records : List EscalationRecord) : Prop where
  kept : kept records w.outer
  ledgers : ∀ i, Engine.Agrees (w.ledgers i) records

/-- Episode by episode the records that are kept turn into others. -/
inductive Told (kept : List EscalationRecord → σ → Prop) :
    List EscalationRecord → List (Episode σ) → List EscalationRecord → Prop
  | done (records : List EscalationRecord) : Told kept records [] records
  | next {records records' records'' : List EscalationRecord} {ep : Episode σ}
    {rest : List (Episode σ)} {now : Instant} {r : RemediationResult}
    (houtcome : ep.outcome = .ok r) (hturns : Engine.Turns records ep.finding now r ep.calls records')
    (hkept : kept records' ep.world.outer) (hrest : Told kept records' rest records'') :
    Told kept records (ep :: rest) records''

section Runs

variable {fleet : Fleet σ} {kept : List EscalationRecord → σ → Prop}
  (hchannel : ∀ i, (fleet i).escalation.Keeps kept)
  (hminds : ∀ i records, (fleet i).Minds (kept records))
include hchannel hminds

theorem turns_episode {w : FleetWorld σ} {records : List EscalationRecord}
    (hw : Holds kept w records) {o : FixOrder} (ho : o.Valid)
    (htaken : ∀ call ∈ (fleet.episode w o).calls, call.refused = false) :
    ∃ r records', (fleet.episode w o).outcome = .ok r ∧
      Engine.Turns records o.finding o.now r (fleet.episode w o).calls records' ∧
      Holds kept (fleet.episode w o).world records' := by
  let e := fleet o.engine
  let start : EngineWorld σ := { outer := w.outer, ledger := w.ledgers o.engine }
  obtain ⟨r, v, hends, hcourse⟩ :=
    Engine.course_fix (hminds o.engine records).recorded o.finding o.now { world := start.recorded }
  -- The plain engine does the same, so the episode is told by the recorded one.
  obtain ⟨k, hrecorded, rfl⟩ := hends.ok
  obtain ⟨_, rfl, hplain⟩ := (e.looksLike_fix o.finding o.now).ok hrecorded
  obtain ⟨houtcome, hworld⟩ := (Ends.of_ok hplain).run
  change (((fleet o.engine).fix o.finding o.now).run start).world = k.world.unrecorded at hworld
  have houter : (fleet.episode w o).world.outer = k.world.outer.inner :=
    congrArg EngineWorld.outer hworld
  have hledgers (i : Nat) : (fleet.episode w o).world.ledgers i =
      if i = o.engine then k.world.ledger else w.ledgers i := by
    rw [Fleet.episode, hworld]
    rfl
  have hcalls : (fleet.episode w o).calls = k.world.outer.calls :=
    congrArg (fun v => v.outer.calls) hends.run.2
  rw [hcalls] at htaken ⊢
  obtain ⟨records', hturns, hkept, hledger⟩ := Engine.turns_of_course (hchannel o.engine)
    ho.finding ho.now hw.kept (hw.ledgers o.engine) hcourse htaken
  refine ⟨r, records', houtcome, hturns, houter ▸ hkept, fun i => ?_⟩
  rw [hledgers]
  split
  · exact hledger
  · exact (hw.ledgers i).mono hturns.subset

/-- As long as no record is refused, a story keeps its records. -/
theorem told_story {w : FleetWorld σ} {records : List EscalationRecord}
    (hw : Holds kept w records) {orders : List FixOrder} (horders : ∀ o ∈ orders, o.Valid)
    (htaken : ∀ ep ∈ fleet.story w orders, ∀ call ∈ ep.calls, call.refused = false) :
    ∃ records', Told kept records (fleet.story w orders) records' ∧
      Holds kept (fleet.after w orders) records' := by
  induction orders generalizing w records with
  | nil => exact ⟨records, .done records, hw⟩
  | cons o orders ih =>
    obtain ⟨ho, horders⟩ := List.forall_mem_cons.1 horders
    obtain ⟨hfirst, hrest⟩ := List.forall_mem_cons.1 htaken
    obtain ⟨r, records', houtcome, hturns, hw'⟩ := turns_episode hchannel hminds hw ho hfirst
    obtain ⟨records'', htold, hlast⟩ := ih hw' horders hrest
    exact ⟨records'', .next houtcome hturns hw'.kept htold, hlast⟩

end Runs

namespace Told

variable {kept : List EscalationRecord → σ → Prop} {records records' : List EscalationRecord}
  {story : List (Episode σ)}

theorem outcome (h : Told kept records story records') : ∀ ep ∈ story, ∃ r, ep.outcome = .ok r := by
  induction h with
  | done => exact fun ep hep => absurd hep List.not_mem_nil
  | next houtcome _ _ _ ih => exact List.forall_mem_cons.2 ⟨⟨_, houtcome⟩, ih⟩

theorem sent (h : Told kept records story records') :
    records' = records ++ (story.flatMap (·.calls)).filterMap PluginCall.sent? := by
  induction h with
  | done => simp
  | next _ hturns _ _ ih =>
    rw [ih, hturns.sent, List.flatMap_cons, List.filterMap_append, List.append_assoc]

/-- After every episode the records are kept that were kept before. -/
theorem keeps (h : Told kept records story records') :
    ∀ ep ∈ story, ∃ more, records ⊆ more ∧ kept more ep.world.outer := by
  induction h with
  | done => exact fun ep hep => absurd hep List.not_mem_nil
  | next _ hturns hkept _ ih =>
    refine List.forall_mem_cons.2 ⟨⟨_, hturns.subset, hkept⟩, fun ep hep => ?_⟩
    obtain ⟨more, hmore, hlater⟩ := ih ep hep
    exact ⟨more, List.Subset.trans hturns.subset hmore, hlater⟩

theorem pairwise_keeps (h : Told kept records story records') :
    story.Pairwise fun earlier later => ∃ before more, before ⊆ more ∧
      kept before earlier.world.outer ∧ kept more later.world.outer := by
  induction h with
  | done => exact .nil
  | next _ _ hkept hrest ih =>
    refine .cons (fun later hlater => ?_) ih
    obtain ⟨more, hmore, hlater⟩ := hrest.keeps later hlater
    exact ⟨_, more, hmore, hkept, hlater⟩

/-- Where there is a record, every fix of its fingerprint repeats it. -/
theorem repeats (h : Told kept records story records') (hrecords : Register records)
    (hregister : ∀ {records w}, kept records w → Register records) {record : EscalationRecord}
    (hrecord : record ∈ records) :
    ∀ ep ∈ story, record.fingerprint = ep.finding.fingerprint →
      ep.outcome = .ok record.result ∧ ep.calls.filterMap PluginCall.applied? = [] := by
  induction h with
  | done => exact fun ep hep => absurd hep List.not_mem_nil
  | next houtcome hturns hkept _ ih =>
    refine List.forall_mem_cons.2 ⟨fun hsame => ?_, ih (hregister hkept) (hturns.subset hrecord)⟩
    obtain ⟨rfl, happlied⟩ := hturns.repeats hrecords hrecord hsame
    exact ⟨houtcome, happlied⟩

/-- After an escalation all fixes of its fingerprint repeat it. -/
theorem pairwise_repeats (h : Told kept records story records')
    (hregister : ∀ {records w}, kept records w → Register records) :
    story.Pairwise fun earlier later => ∀ r, earlier.outcome = .ok r → r.state = .escalated →
      later.finding.fingerprint = earlier.finding.fingerprint →
      later.outcome = .ok r ∧ later.calls.filterMap PluginCall.applied? = [] := by
  induction h with
  | done => exact .nil
  | next houtcome hturns hkept hrest ih =>
    refine .cons (fun later hlater r hr hstate hsame => ?_) ih
    obtain rfl := Except.ok.inj (houtcome.symm.trans hr)
    obtain ⟨record, hrecord, hfirst, rfl⟩ := hturns.record hstate
    exact hrest.repeats (hregister hkept) hregister hrecord later hlater (hfirst.trans hsame.symm)

/-- There is a record for every fingerprint that was escalated, and for no other. -/
theorem mem_iff (h : Told kept records story records') (fingerprint : String) :
    (∃ record ∈ records', record.fingerprint = fingerprint) ↔
      (∃ record ∈ records, record.fingerprint = fingerprint) ∨
      ∃ ep ∈ story, ep.finding.fingerprint = fingerprint ∧
        ∃ r, ep.outcome = .ok r ∧ r.state = .escalated := by
  induction h with
  | done => simp
  | next houtcome hturns _ _ ih =>
    rw [ih, hturns.mem_iff fingerprint]
    simp [houtcome, or_assoc]

end Told

end Fleet

end AgentGovernance
