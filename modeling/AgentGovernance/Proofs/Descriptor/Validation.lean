-- SUMMARY: Which descriptors are found valid, rule by rule, and that no failed check lacks an error.
import AgentGovernance.Descriptor.Validation
import Mathlib.Data.List.Basic

/-!
# Valid descriptors

A descriptor is valid if every remark about it speaks for it. So each rule can be read on its own:
what its remarks require holds of every valid descriptor. The two rules on lists require that nothing
is granted and denied at once. Main statement: the errors alone decide, and there are none exactly
for the descriptors that are in order.
-/

namespace AgentGovernance.Validation

variable {fileExists : Path → Bool} {known : List String} {d : AgentDescriptor}

/-- The remark is a check that passed. -/
def Remark.passes : Remark → Bool
  | .check _ ok => ok
  | .error _ => false

/-- Valid is a descriptor about which every remark passes. -/
theorem isValid_ofDescriptor_iff :
    (ofDescriptor fileExists known d).isValid = true ↔
      ∀ r ∈ remarks fileExists known d, r.passes = true := by
  simp only [isValid, ofDescriptor, Bool.and_eq_true, List.isEmpty_iff, List.filterMap_eq_nil_iff,
    List.all_eq_true, List.mem_filterMap]
  constructor
  · rintro ⟨herrors, hchecks⟩ r hr
    cases r with
    | check text ok => exact hchecks (text, ok) ⟨_, hr, rfl⟩
    | error text => cases herrors _ hr
  · intro h
    refine ⟨fun r hr => ?_, fun c ⟨r, hr, hc⟩ => ?_⟩
    · have hpasses := h r hr
      cases r with
      | check text ok => rfl
      | error text => cases hpasses
    · have hpasses := h r hr
      cases r with
      | check text ok =>
        cases hc
        exact hpasses
      | error text => cases hc

/-! ## Rules -/

theorem deniedAmong_eq_nil_iff {tags : List Tag} :
    deniedAmong d tags = [] ↔ ∀ t ∈ tags, t ∉ d.cannot := by
  simp [deniedAmong]

theorem passes_allowRemark_iff :
    (allowRemark d).passes = true ↔ ∀ t ∈ d.can, t ∉ d.cannot := by
  rw [← deniedAmong_eq_nil_iff, ← List.isEmpty_iff, allowRemark]
  split
  · simp [Remark.passes, *]
  · simp [Remark.passes, *]

theorem passes_exclusiveRemark_iff :
    (exclusiveRemark d).passes = true ↔ ∀ t ∈ d.exclusive, t ∉ d.cannot := by
  rw [← deniedAmong_eq_nil_iff, ← List.isEmpty_iff, exclusiveRemark]
  split
  · simp [Remark.passes, *]
  · simp [Remark.passes, *]

theorem matchesSource_iff : matchesSource d = true ↔
    d.source.stem? = some d.id ∨ d.source.parent?.bind Path.fileName? = some d.id := by
  simp [matchesSource]

theorem pass_sourceRemarks_iff :
    (∀ r ∈ sourceRemarks fileExists d, r.passes = true) ↔
      d.source = .empty ∨ fileExists d.source = true ∧ matchesSource d = true := by
  have hempty : d.source.isEmpty = true ↔ d.source = .empty := by
    rw [Path.isEmpty, String.isEmpty_iff]
    exact ⟨fun h => congrArg Path.mk h, fun h => congrArg Path.text h⟩
  rw [← hempty]
  unfold sourceRemarks
  split
  · simp [Remark.passes, *]
  · split
    · split
      · simp [Remark.passes, *]
      · simp [Remark.passes, *]
    · simp [Remark.passes, *]

theorem pass_superiorRemarks_iff :
    (∀ r ∈ superiorRemarks known d, r.passes = true) ↔
      ∀ boss ∈ d.reportsTo, boss ∈ known ∧ boss ≠ d.id := by
  unfold superiorRemarks
  cases d.reportsTo with
  | none => simp
  | some boss =>
    by_cases hself : boss = d.id
    · simp [Remark.passes, hself]
    · by_cases hknown : boss ∈ known
      · simp [Remark.passes, hself, hknown]
      · simp [Remark.passes, hself, hknown]

/-- A peer that nobody knows leaves an error. -/
theorem error_mem_peerRemarks {p : String} (hp : p ∈ d.collaborators) (hunknown : p ∉ known) :
    .error s!"collaborates_with references unknown agent '{p}'" ∈ peerRemarks known d := by
  refine List.mem_append_left _ (List.mem_map_of_mem ?_)
  exact List.mem_filter.2 ⟨hp, by simpa using hunknown⟩

theorem pass_peerRemarks_iff :
    (∀ r ∈ peerRemarks known d, r.passes = true) ↔ ∀ p ∈ d.collaborators, p ∈ known := by
  constructor
  · intro h p hp
    by_contra hunknown
    have herror := h _ (error_mem_peerRemarks hp hunknown)
    cases herror
  · intro h r hr
    have hall : (d.collaborators.all fun p => known.contains p) = true := by simpa using h
    rcases List.mem_append.1 hr with herror | hcheck
    · obtain ⟨p, hp, -⟩ := List.mem_map.1 herror
      obtain ⟨hp, hunknown⟩ := List.mem_filter.1 hp
      exact absurd (h p hp) (by simpa using hunknown)
    · split at hcheck
      · cases hcheck
      · rw [List.mem_singleton.1 hcheck]
        exact hall

/-- A valid descriptor denies nothing that it grants. -/
theorem not_denied_of_isValid (h : (ofDescriptor fileExists known d).isValid = true) {t : Tag}
    (ht : t ∈ d.can ∨ t ∈ d.exclusive) : t ∉ d.cannot := by
  have hremarks := isValid_ofDescriptor_iff.1 h
  rcases ht with hcan | hexclusive
  · exact passes_allowRemark_iff.1 (hremarks _ (by simp [remarks])) t hcan
  · exact passes_exclusiveRemark_iff.1 (hremarks _ (by simp [remarks])) t hexclusive

/-! ## Failed checks -/

/-- The only check that is ever recorded as failed is that of the peers. -/
theorem exists_unknown_of_failed_check {text : String}
    (h : .check text false ∈ remarks fileExists known d) : ∃ p ∈ d.collaborators, p ∉ known := by
  simp only [remarks, List.mem_append, List.mem_cons, List.not_mem_nil, or_false] at h
  rcases h with ((hsource | hallow | hexclusive) | hsuperior) | hpeers
  · grind [sourceRemarks]
  · grind [allowRemark]
  · grind [exclusiveRemark]
  · grind [superiorRemarks]
  · rcases List.mem_append.1 hpeers with herror | hcheck
    · simp at herror
    · split at hcheck
      · cases hcheck
      · have hfailed : d.collaborators.all (fun p => known.contains p) = false :=
          (Remark.check.inj (List.mem_singleton.1 hcheck)).2.symm
        simpa using hfailed

/-- The errors alone decide whether every remark passes. -/
theorem errors_ofDescriptor_eq_nil_iff :
    (ofDescriptor fileExists known d).errors = [] ↔
      ∀ r ∈ remarks fileExists known d, r.passes = true := by
  simp only [ofDescriptor, List.filterMap_eq_nil_iff]
  constructor
  · intro hnone r hr
    match r, hr with
    | .error text, hr => cases hnone _ hr
    | .check text true, _ => rfl
    | .check text false, hr =>
      obtain ⟨p, hp, hunknown⟩ := exists_unknown_of_failed_check hr
      cases hnone _ (List.mem_append_right _ (error_mem_peerRemarks hp hunknown))
  · intro hpass r hr
    have hr := hpass r hr
    cases r with
    | check text ok => rfl
    | error text => cases hr

/-! ## Descriptors in order -/

/-- What the rules require of a descriptor among agents with the given ids. -/
structure InOrder (fileExists : Path → Bool) (known : List String) (d : AgentDescriptor) :
    Prop where
  /-- It came from no file, or from one that exists and that is named for the agent, or whose
  directory is. -/
  source : d.source = .empty ∨ fileExists d.source = true ∧
    (d.source.stem? = some d.id ∨ d.source.parent?.bind Path.fileName? = some d.id)
  granted : d.can.Disjoint d.cannot
  owned : d.exclusive.Disjoint d.cannot
  superior : ∀ boss ∈ d.reportsTo, boss ∈ known ∧ boss ≠ d.id
  peers : ∀ p ∈ d.collaborators, p ∈ known

theorem pass_remarks_iff_inOrder :
    (∀ r ∈ remarks fileExists known d, r.passes = true) ↔ InOrder fileExists known d := by
  simp only [remarks, List.forall_mem_append, List.forall_mem_cons, pass_sourceRemarks_iff,
    passes_allowRemark_iff, passes_exclusiveRemark_iff, pass_superiorRemarks_iff,
    pass_peerRemarks_iff, matchesSource_iff]
  constructor
  · rintro ⟨⟨⟨hsource, hcan, hexclusive, -⟩, hsuperior⟩, hpeers⟩
    exact ⟨hsource, hcan, hexclusive, hsuperior, hpeers⟩
  · rintro ⟨hsource, hcan, hexclusive, hsuperior, hpeers⟩
    exact ⟨⟨⟨hsource, hcan, hexclusive, nofun⟩, hsuperior⟩, hpeers⟩

/-- A descriptor is valid exactly if there are no errors, and there are none exactly if it is in
order. Wherever a check is recorded as failed there is an error. -/
theorem valid_iff_in_order (fileExists : Path → Bool) (known : List String) (d : AgentDescriptor) :
    let v := ofDescriptor fileExists known d
    (v.isValid = true ↔ v.errors = []) ∧ (v.errors = [] ↔ InOrder fileExists known d) ∧
      ∀ check ∈ v.checks, check.2 = false → v.errors ≠ [] := by
  intro v
  have hvalid : v.isValid = true ↔ v.errors = [] :=
    isValid_ofDescriptor_iff.trans errors_ofDescriptor_eq_nil_iff.symm
  refine ⟨hvalid, errors_ofDescriptor_eq_nil_iff.trans pass_remarks_iff_inOrder, ?_⟩
  intro check hcheck hfailed hnone
  have hchecks := (Bool.and_eq_true_iff.1 (hvalid.2 hnone)).2
  have hpassed := List.all_eq_true.1 hchecks check hcheck
  rw [hfailed] at hpassed
  cases hpassed

/-- An agent works with someone nobody knows: the check of its peers fails, and there is an error.
That its file is named for another agent does not matter as long as the directory is named for it. -/
theorem valid_iff_in_order_stranger :
    let d : AgentDescriptor :=
      { id := "dev", name := "James", can := ["write_code"], cannot := ["deploy"]
        reportsTo := some "lead", collaborators := ["lead", "ghost"]
        source := ⟨"agents/dev/main.yaml"⟩ }
    let v := ofDescriptor (fun _ => true) ["dev", "lead"] d
    ("Collaborators resolved", false) ∈ v.checks ∧ v.errors ≠ [] ∧
      ¬ InOrder (fun _ => true) ["dev", "lead"] d ∧ InOrder (fun _ => true) ["ghost", "lead"] d := by
  intro d v
  have hcheck : ("Collaborators resolved", false) ∈ v.checks := by decide +kernel
  obtain ⟨-, horder, hbacked⟩ := valid_iff_in_order (fun _ => true) ["dev", "lead"] d
  have herrors : v.errors ≠ [] := hbacked _ hcheck rfl
  obtain ⟨-, horder', -⟩ := valid_iff_in_order (fun _ => true) ["ghost", "lead"] d
  exact ⟨hcheck, herrors, fun h => herrors (horder.2 h), horder'.1 (by decide +kernel)⟩

end AgentGovernance.Validation
