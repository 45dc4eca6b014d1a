-- SUMMARY: The report of a run does not depend on the order in which validators were registered.
import AgentGovernance.Proofs.Audit.CompoundRule
import AgentGovernance.Proofs.Audit.Conservation

/-!
# The order of registration

Findings of different validators never tie, so sorting puts them in the same place in whatever order
they were collected. A validator that is called like a rule's finding ties with it, but what
validators report is always collected before what rules add. Main statement: if each validator comes
out the same, runs with the validators registered in two orders have the same report, but for the
order in which failures and contributing findings are listed and for the evidence of the rules.
-/

namespace AgentGovernance

/-- The reports are equal in what does not depend on the order of registration. -/
structure AuditReport.SameButOrder (a b : AuditReport) : Prop where
  raw : a.raw = b.raw
  failedValidators : a.failedValidators.Perm b.failedValidators
  counts : a.counts = b.counts
  verdict : a.verdict = b.verdict
  verdictReason : a.verdictReason = b.verdictReason
  firedRules : List.Forall₂ FiredRule.SameButOrder a.firedRules b.firedRules
  findings : List.Forall₂ Finding.SameButEvidence a.findings b.findings

/-! ## Findings without the evidence of rules -/

namespace Finding

variable {fs gs fs' gs' : List Finding}

theorem ties_withoutCompoundEvidence {a b : Finding} :
    a.Ties b.withoutCompoundEvidence ↔ a.Ties b := by
  unfold withoutCompoundEvidence
  split <;> rfl

theorem sortKey_withoutCompoundEvidence (a : Finding) :
    a.withoutCompoundEvidence.sortKey = a.sortKey := by
  unfold withoutCompoundEvidence
  split <;> rfl

theorem severity_withoutCompoundEvidence (a : Finding) :
    a.withoutCompoundEvidence.severity = a.severity := by
  unfold withoutCompoundEvidence
  split <;> rfl

/-- Sorting does not look at evidence. -/
theorem map_prioritize (fs : List Finding) :
    (prioritize fs).map withoutCompoundEvidence = prioritize (fs.map withoutCompoundEvidence) := by
  refine List.map_mergeSort ?_
  intro a _ b _
  rw [Bool.eq_iff_iff, priority_ne_gt_iff, priority_ne_gt_iff, sortKey_withoutCompoundEvidence,
    sortKey_withoutCompoundEvidence]

theorem SameTies.append (h : SameTies fs gs) (h' : SameTies fs' gs') :
    SameTies (fs ++ fs') (gs ++ gs') := by
  intro a
  rw [List.filter_append, List.filter_append, h a, h' a]

theorem SameTies.map (h : SameTies fs gs) :
    SameTies (fs.map withoutCompoundEvidence) (gs.map withoutCompoundEvidence) := by
  intro a
  have hcomm (l : List Finding) : (l.map withoutCompoundEvidence).filter (fun b => a.Ties b) =
      (l.filter fun b => a.Ties b).map withoutCompoundEvidence := by
    rw [List.filter_map]
    simp only [Function.comp_def, ties_withoutCompoundEvidence]
  rw [hcomm, hcomm, h a]

theorem ofFindings_map (fs : List Finding) :
    SeverityCounts.ofFindings (fs.map withoutCompoundEvidence) = .ofFindings fs := by
  simp only [SeverityCounts.ofFindings, SeverityCounts.countOf, List.countP_map, Function.comp_def,
    severity_withoutCompoundEvidence]

end Finding

namespace Orchestrator

variable {limit : Nat} {runs runs' : List (String × RunOutcome)}

/-! ## Collection in another order -/

theorem collected_perm (limit : Nat) (h : runs.Perm runs') :
    (collected limit runs).Perm (collected limit runs') :=
  (h.map _).flatMap_right _

/-- What ties with a finding is collected from the one validator that the finding names. -/
theorem filter_collected (limit : Nat) (runs : List (String × RunOutcome)) (a : Finding) :
    ((collected limit runs).filter fun b => a.Ties b) =
      ((collected limit (runs.filter fun run => run.1 == a.validatorId)).filter fun b => a.Ties b) := by
  induction runs with
  | nil => rfl
  | cons run runs ih =>
    obtain ⟨id, outcome⟩ := run
    have hcons (runs : List (String × RunOutcome)) : collected limit ((id, outcome) :: runs) =
        findingsOf id (dispatchOf limit outcome) ++ collected limit runs := rfl
    rw [hcons, List.filter_append, ih, List.filter_cons]
    split
    · rw [hcons, List.filter_append]
    · rename_i hother
      have hnone : ((findingsOf id (dispatchOf limit outcome)).filter fun b => a.Ties b) = [] := by
        rw [List.filter_eq_nil_iff]
        intro b hb
        have hid := validatorId_of_mem_findingsOf hb
        simp only [decide_eq_true_eq]
        rintro ⟨-, hties, -⟩
        exact hother (beq_iff_eq.2 (hid.symm.trans hties.symm))
      rw [hnone, List.nil_append]

/-- Of runs with different ids at most one has a given id, whatever their order. -/
theorem filter_id_eq_of_perm (hnodup : (runs.map (·.1)).Nodup) (h : runs.Perm runs') (id : String) :
    (runs.filter fun run => run.1 == id) = runs'.filter fun run => run.1 == id := by
  have hperm := h.filter fun run => run.1 == id
  have hfew : (runs.filter fun run => run.1 == id).Pairwise fun _ _ => False := by
    have hids : (runs.filter fun run => run.1 == id).Pairwise fun a b => a.1 ≠ b.1 :=
      (List.pairwise_map.1 hnodup).sublist List.filter_sublist
    refine hids.imp_of_mem ?_
    intro a b ha hb hne
    have ha' : a.1 = id := by simpa using (List.mem_filter.1 ha).2
    have hb' : b.1 = id := by simpa using (List.mem_filter.1 hb).2
    exact hne (ha'.trans hb'.symm)
  exact List.Perm.eq_of_pairwise (fun _ _ _ _ hab _ => hab.elim) hfew
    (hperm.pairwise hfew fun hab => hab.elim) hperm

theorem sameTies_collected (limit : Nat) (hnodup : (runs.map (·.1)).Nodup) (h : runs.Perm runs') :
    Finding.SameTies (collected limit runs) (collected limit runs') := by
  intro a
  rw [filter_collected, filter_collected limit runs', filter_id_eq_of_perm hnodup h]

theorem crossValidate_perm (rules : List CompoundRule) {fs gs : List Finding} (h : fs.Perm gs) :
    List.Forall₂ (fun fired fired' => fired.1.SameButOrder fired'.1 ∧
      fired.2.withoutCompoundEvidence = fired'.2.withoutCompoundEvidence)
      (crossValidate rules fs) (crossValidate rules gs) := by
  induction rules with
  | nil => exact .nil
  | cons r rules ih =>
    have hr := CompoundRule.evaluate_perm (r := r) h
    unfold crossValidate at ih ⊢
    rw [List.filterMap_cons, List.filterMap_cons]
    generalize r.evaluate fs = fired at hr
    generalize r.evaluate gs = fired' at hr
    cases hr with
    | none => exact ih
    | some hfired => exact .cons hfired ih

/-! ## Reports -/

/-- Without the evidence of rules, the findings are the same. -/
theorem map_ranked_perm (limit : Nat) (rules : List CompoundRule) (hnodup : (runs.map (·.1)).Nodup)
    (h : runs.Perm runs') :
    (ranked limit rules runs).map Finding.withoutCompoundEvidence =
      (ranked limit rules runs').map Finding.withoutCompoundEvidence := by
  have hcollected := (sameTies_collected limit hnodup h).map
  have hadded : ((crossValidate rules (collected limit runs)).map (·.2)).map
        Finding.withoutCompoundEvidence =
      ((crossValidate rules (collected limit runs')).map (·.2)).map
        Finding.withoutCompoundEvidence := by
    rw [← List.forall₂_eq_eq_eq, List.forall₂_map_left_iff, List.forall₂_map_right_iff,
      List.forall₂_map_left_iff, List.forall₂_map_right_iff]
    exact (crossValidate_perm rules (collected_perm limit h)).imp fun _ _ hfired => hfired.2
  unfold ranked
  rw [Finding.map_prioritize, Finding.map_prioritize, List.map_append, List.map_append, hadded]
  exact Finding.prioritize_eq_of_sameTies (hcollected.append fun _ => rfl)

theorem ofFindings_ranked_perm (limit : Nat) (rules : List CompoundRule)
    (hnodup : (runs.map (·.1)).Nodup) (h : runs.Perm runs') :
    SeverityCounts.ofFindings (ranked limit rules runs) = .ofFindings (ranked limit rules runs') := by
  rw [← Finding.ofFindings_map, map_ranked_perm limit rules hnodup h, Finding.ofFindings_map]

variable {σ : Type} (o : Orchestrator σ)

theorem counts_assemble (scope : AuditScope) (who : Option String) (stamp : RunStamp)
    (now : Instant) (runs : List (String × RunOutcome)) :
    (o.assemble scope who stamp now (dispatches o.validatorTimeout runs)).counts =
      .ofFindings (ranked o.validatorTimeout o.rules runs) := by
  rw [← o.findings_assemble scope who stamp now]
  rfl

/-- The verdict and its reason follow from the findings and from how many validators failed. -/
theorem derive_assemble (scope : AuditScope) (who : Option String) (stamp : RunStamp)
    (now : Instant) (runs : List (String × RunOutcome)) :
    let report := o.assemble scope who stamp now (dispatches o.validatorTimeout runs)
    (report.verdict, report.verdictReason) =
      Verdict.derive (.ofFindings (ranked o.validatorTimeout o.rules runs)) o.validators.length
        (o.validators.length - report.failedValidators.length) o.highThreshold := by
  rw [← o.findings_assemble scope who stamp now]
  rfl

theorem assemble_perm {vs : List (Validator σ)} (hvs : vs.Perm o.validators)
    (hnodup : (runs.map (·.1)).Nodup) (h : runs.Perm runs') (scope : AuditScope)
    (who who' : Option String) (stamp stamp' : RunStamp) (now now' : Instant) :
    (o.assemble scope who stamp now (dispatches o.validatorTimeout runs)).SameButOrder
      ({ o with validators := vs }.assemble scope who' stamp' now'
        (dispatches o.validatorTimeout runs')) := by
  have hcounts := ofFindings_ranked_perm o.validatorTimeout o.rules hnodup h
  have hfailed : (o.assemble scope who stamp now
        (dispatches o.validatorTimeout runs)).failedValidators.Perm
      ({ o with validators := vs }.assemble scope who' stamp' now'
        (dispatches o.validatorTimeout runs')).failedValidators :=
    (h.map _).filterMap _
  have hderive := o.derive_assemble scope who stamp now runs
  have hderive' := { o with validators := vs }.derive_assemble scope who' stamp' now' runs'
  simp only [hcounts, ← hvs.length_eq, hfailed.length_eq] at hderive
  have hverdicts := Prod.mk.inj (hderive.trans hderive'.symm)
  refine ⟨?_, hfailed, ?_, hverdicts.1, hverdicts.2, ?_, ?_⟩
  · rw [raw_assemble, raw_assemble]
    refine Json.foldl_insertField_eq_of_perm ?_ (h.map _)
    rw [gathered_ids]
    exact hnodup
  · rw [counts_assemble, counts_assemble]
    exact hcounts
  · rw [firedRules_assemble, firedRules_assemble, List.forall₂_map_left_iff,
      List.forall₂_map_right_iff]
    exact (crossValidate_perm o.rules (collected_perm _ h)).imp fun _ _ hfired => hfired.1
  · rw [findings_assemble, findings_assemble]
    have hmap := map_ranked_perm o.validatorTimeout o.rules hnodup h
    rw [← List.forall₂_eq_eq_eq, List.forall₂_map_left_iff, List.forall₂_map_right_iff] at hmap
    exact hmap.imp fun _ _ heq => Finding.sameButEvidence_of_eq heq

/-- If each validator comes out the same, authorized runs with the validators registered in two
orders have the same report, but for the order of failures and contributing findings and for the
evidence of the rules. -/
theorem report_ignores_registration_order (hnodup : o.validatorIds.Nodup) {vs : List (Validator σ)}
    (hvs : vs.Perm o.validators) (scope : AuditScope) (stamp stamp' : RunStamp) (now now' : Instant)
    {j j' : Journal σ} {who who' : Option String} {w w' : σ}
    (hauth : Act.Ends o.authorize j (.ok (.ok who)) w)
    (hauth' : Act.Ends o.authorize j' (.ok (.ok who')) w') :
    ∃ runs runs' k k' l l' report report', k.world = w ∧ k'.world = w' ∧
      Ran scope o.validatorTimeout o.validators k runs l ∧
      Ran scope o.validatorTimeout vs k' runs' l' ∧
      Act.Ends (o.run scope stamp now) j (.ok report) l.world ∧
      Act.Ends ({ o with validators := vs }.run scope stamp' now') j' (.ok report') l'.world ∧
      ((∀ run ∈ runs, run ∈ runs') → report.SameButOrder report') := by
  obtain ⟨runs, k, l, hk, hran, hrun⟩ := o.ends_run hauth scope stamp now
  obtain ⟨runs', k', l', hk', hran', hrun'⟩ :=
    { o with validators := vs }.ends_run hauth' scope stamp' now'
  refine ⟨runs, runs', k, k', l, l', _, _, hk, hk', hran, hran', hrun, hrun', ?_⟩
  intro hsame
  have hids : (runs.map (·.1)).Nodup := hran.ids ▸ hnodup
  have hlength : runs'.length = runs.length := by
    rw [hran.length, hran'.length]
    exact hvs.length_eq
  have hperm : runs.Perm runs' :=
    (List.subperm_of_subset hids.of_map hsame).perm_of_length_le (Nat.le_of_eq hlength)
  exact o.assemble_perm hvs hids hperm scope who who' stamp stamp' now now'

/-- One of the validators is called like the finding of the rule, and its finding ties with it. -/
theorem report_ignores_registration_order_namesake :
    let returns (fs : List Finding) : AuditScope → Nat → Act Unit (Timed (List Finding)) :=
      fun _ _ => pure (.inTime fs)
    let f : Finding :=
      { validatorId := "", severity := .high, location := { resource := "main" }
        description := "key in the source" }
    let lint : Validator Unit := ⟨"lint", returns [f]⟩
    let secrets : Validator Unit := ⟨"secrets", returns [f]⟩
    let namesake : Validator Unit := ⟨"compound:both", returns [f]⟩
    let o : Orchestrator Unit :=
      { validators := [lint, secrets, namesake]
        rules := [.new "both" ["secrets", "lint"] .medium "seen twice"] }
    let reordered : Orchestrator Unit := { o with validators := [namesake, secrets, lint] }
    o.validatorIds.Nodup ∧
    ∃ report report' w w',
      Act.Ends (o.run { root := ⟨"/"⟩ } ⟨1, 1⟩ ⟨0, 0⟩) { world := () } (.ok report) w ∧
      Act.Ends (reordered.run { root := ⟨"/"⟩ } ⟨1, 2⟩ ⟨0, 0⟩) { world := () } (.ok report') w' ∧
      report.SameButOrder report' := by
  intro returns f lint secrets namesake o reordered
  have hnodup : o.validatorIds.Nodup := by decide
  have hvs : [namesake, secrets, lint].Perm o.validators := List.reverse_perm o.validators
  obtain ⟨runs, runs', k, k', l, l', report, report', -, -, hran, hran', hrun, hrun', hsame⟩ :=
    o.report_ignores_registration_order hnodup hvs { root := ⟨"/"⟩ } ⟨1, 1⟩ ⟨1, 2⟩ ⟨0, 0⟩ ⟨0, 0⟩
      (j := { world := () }) (Act.ends_pure _) (Act.ends_pure _ (j := { world := () }))
  refine ⟨hnodup, report, report', _, _, hrun, hrun', hsame ?_⟩
  obtain _ | ⟨⟨⟩, _ | ⟨⟨⟩, _ | ⟨⟨⟩, ⟨⟩⟩⟩⟩ := hran
  obtain _ | ⟨⟨⟩, _ | ⟨⟨⟩, _ | ⟨⟨⟩, ⟨⟩⟩⟩⟩ := hran'
  simp [lint, secrets, namesake]

end Orchestrator

end AgentGovernance
