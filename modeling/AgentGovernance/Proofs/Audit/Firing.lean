-- SUMMARY: When a compound rule fires, on which findings, and what it yields then.
import AgentGovernance.Proofs.Audit.CompoundRule
import AgentGovernance.Proofs.Tag

/-!
# When rules fire

A rule counts what its validators have reported and what is severe enough. It fires if each of them
has a finding that counts, on one resource if the rule asks for that; of several such resources the
first in the order of texts is taken. Main statement: this is exactly when a rule with an id and two
validators fires, it yields what the findings that count there ask for, and findings that nobody
reported make no difference.
-/

namespace AgentGovernance

namespace CompoundRule

/-! ## Agreement -/

/-- A finding counts for a rule as one of a validator. -/
def Reports (r : CompoundRule) (v : String) (f : Finding) : Prop :=
  f.kind = .reported ∧ f.validatorId = v ∧ r.condition.minSeverity ≤ f.severity

instance (r : CompoundRule) (v : String) (f : Finding) : Decidable (r.Reports v f) :=
  inferInstanceAs (Decidable (_ ∧ _ ∧ _))

/-- Every validator that the rule names has a finding that counts. -/
def Agreed (r : CompoundRule) (fs : List Finding) : Prop :=
  ∀ v ∈ r.validators, ∃ f ∈ fs, r.Reports v f

/-- Every validator that the rule names has a finding that counts on the resource. -/
def AgreedOn (r : CompoundRule) (fs : List Finding) (resource : String) : Prop :=
  ∀ v ∈ r.validators, ∃ f ∈ fs, f.location.resource = resource ∧ r.Reports v f

/-- The findings that make a rule fire, in the order in which it met them. -/
inductive FiresOn (r : CompoundRule) (fs : List Finding) : List Finding → Prop where
  | anywhere (h : r.condition.sameLocation = false) (agreed : r.Agreed fs) :
      FiresOn r fs (fs.filter fun f => ∃ v ∈ r.validators, r.Reports v f)
  | together (h : r.condition.sameLocation = true) {resource : String}
      (least : IsLeast {resource | r.AgreedOn fs resource} resource) :
      FiresOn r fs (fs.filter fun f =>
        f.location.resource = resource ∧ ∃ v ∈ r.validators, r.Reports v f)

/-- What a rule yields that fires on the given findings: their fingerprints, the worst severity of
the rule and all of them, and the resource that they have in common or else the rule itself. -/
structure Yields (r : CompoundRule) (cs : List Finding) (fired : FiredRule × Finding) : Prop where
  contributing : fired.1.contributing = cs.map Finding.fingerprint
  recorded : fired.1.severity = fired.2.severity
  attained : fired.2.severity = r.severity ∨ ∃ f ∈ cs, fired.2.severity = f.severity
  atLeastRule : r.severity ≤ fired.2.severity
  atLeast : ∀ f ∈ cs, f.severity ≤ fired.2.severity
  common : ∀ resource, (∀ f ∈ cs, f.location.resource = resource) →
    fired.2.location = { resource }
  several : (¬ ∃ resource, ∀ f ∈ cs, f.location.resource = resource) →
    fired.2.location = { resource := "compound:" ++ r.id }

variable {r : CompoundRule} {fs gs cs : List Finding} {resource : String}

/-! ## Faults -/

/-- A rule is in order if its id is not blank and it names two validators. -/
theorem fault?_eq_none_iff :
    r.fault? = none ↔ (∃ c ∈ r.id.toList, Text.isBlank c = false) ∧ 2 ≤ r.validators.length := by
  have hblank : (Text.trim r.id).isEmpty = true ↔ ∀ c ∈ r.id.toList, Text.isBlank c = true := by
    rw [String.isEmpty_iff, Text.trim_eq_empty_iff]
  unfold fault?
  split
  case isTrue hempty => simpa using fun c hc hnot => absurd (hblank.1 hempty c hc) (by simp [hnot])
  case isFalse hfull =>
    rw [hblank] at hfull
    simp only [not_forall, Bool.not_eq_true, exists_prop] at hfull
    split
    case isTrue hfew => simp [hfew]
    case isFalse henough => simp [hfull, Nat.le_of_not_lt henough]

theorem validators_ne_nil_of_fault? (h : r.fault? = none) : r.validators ≠ [] := by
  have htwo := (fault?_eq_none_iff.1 h).2
  exact List.length_pos_iff.1 (by omega)

/-! ## Findings that count -/

theorem counts_eq (f : Finding) :
    r.counts f = decide (∃ v ∈ r.validators, r.Reports v f) := by
  rw [Bool.eq_iff_iff, counts_iff, decide_eq_true_iff]
  simp only [qualifies_iff, Reports]

theorem everyValidatorHas_iff : r.everyValidatorHas fs = true ↔ r.Agreed fs := by
  simp only [everyValidatorHas, List.all_eq_true, List.any_eq_true, qualifies_iff, Agreed, Reports]

theorem mem_on {f : Finding} : f ∈ on resource fs ↔ f ∈ fs ∧ f.location.resource = resource := by
  simp [on]

/-- To agree on a resource is to agree on what is found there. -/
theorem agreed_on_iff : r.Agreed (on resource fs) ↔ r.AgreedOn fs resource := by
  simp only [Agreed, AgreedOn, mem_on, and_assoc]

theorem everyValidatorHas_on_iff :
    r.everyValidatorHas (on resource fs) = true ↔ r.AgreedOn fs resource :=
  everyValidatorHas_iff.trans agreed_on_iff

/-! ## The shared resource -/

theorem contains_resourcesOf {v : String} :
    (r.resourcesOf fs v).contains resource = (on resource fs).any fun f => r.qualifies f v := by
  rw [Bool.eq_iff_iff, List.contains_iff_mem, resourcesOf, mem_sortedSet, List.any_eq_true]
  simp only [List.mem_map, List.mem_filter, mem_on]
  exact exists_congr fun f => and_right_comm

theorem foldl_shareWith (acc vs : List String) :
    vs.foldl (r.shareWith fs) (some acc) =
      some (acc.filter fun res => vs.all fun v => (r.resourcesOf fs v).contains res) := by
  induction vs generalizing acc with
  | nil => simp
  | cons v vs ih =>
    simp only [List.foldl_cons, shareWith, ih, List.filter_filter, List.all_cons, Bool.and_comm]

/-- The intersections leave the resources on which every validator has a finding that counts. -/
theorem sharedResources?_eq (hv : r.validators ≠ []) :
    r.sharedResources? fs = some ((sortedSet (fs.map (·.location.resource))).filter fun res =>
      r.everyValidatorHas (on res fs)) := by
  cases hvs : r.validators with
  | nil => exact absurd hvs hv
  | cons v vs =>
    rw [sharedResources?, hvs, List.foldl_cons, shareWith, foldl_shareWith]
    refine congrArg some ?_
    refine eq_of_sorted_of_mem_iff ((sortedSet_sorted _).filter _) ((sortedSet_sorted _).filter _) ?_
    intro res
    have hfound (h : res ∈ r.resourcesOf fs v) : res ∈ fs.map (·.location.resource) :=
      (List.filter_sublist.map _).subset (mem_sortedSet.1 h)
    simp only [List.mem_filter, mem_sortedSet, everyValidatorHas, ← contains_resourcesOf, hvs,
      List.all_cons, Bool.and_eq_true, List.contains_iff_mem]
    exact ⟨fun h => ⟨hfound h.1, h⟩, fun h => h.2⟩

/-- The first shared resource can be searched for directly. -/
theorem sharedResource?_eq_find? (hv : r.validators ≠ []) :
    r.sharedResource? fs = (sortedSet (fs.map (·.location.resource))).find? fun res =>
      r.everyValidatorHas (on res fs) := by
  rw [sharedResource?, sharedResources?_eq hv, Option.bind_some, List.head?_filter]

/-- Validators agree on resources that have findings. -/
theorem AgreedOn.exists_mem (h : r.AgreedOn fs resource) (hv : r.validators ≠ []) :
    ∃ f ∈ fs, f.location.resource = resource := by
  obtain ⟨v, hmem⟩ := List.exists_mem_of_ne_nil _ hv
  obtain ⟨f, hf, hresource, -⟩ := h v hmem
  exact ⟨f, hf, hresource⟩

theorem sharedResource?_eq_some_iff (hv : r.validators ≠ []) :
    r.sharedResource? fs = some resource ↔ IsLeast {resource | r.AgreedOn fs resource} resource := by
  have hset : {res | res ∈ sortedSet (fs.map (·.location.resource)) ∧
      r.everyValidatorHas (on res fs) = true} = {resource | r.AgreedOn fs resource} := by
    ext res
    simp only [Set.mem_ofPred_eq, mem_sortedSet, List.mem_map, everyValidatorHas_on_iff,
      and_iff_right_iff_imp]
    exact fun h => h.exists_mem hv
  rw [sharedResource?_eq_find? hv, find?_eq_some_iff_isLeast (sortedSet_sorted _), hset]

/-- If the validators agree on some resource, there is a first one. -/
theorem AgreedOn.exists_isLeast (h : r.AgreedOn fs resource) (hv : r.validators ≠ []) :
    ∃ least, IsLeast {resource | r.AgreedOn fs resource} least := by
  have hfound : (r.sharedResource? fs).isSome = true := by
    rw [sharedResource?_eq_find? hv]
    refine List.find?_isSome.2 ⟨resource, ?_, everyValidatorHas_on_iff.2 h⟩
    obtain ⟨f, hf, rfl⟩ := h.exists_mem hv
    exact mem_sortedSet.2 (List.mem_map_of_mem hf)
  obtain ⟨least, hleast⟩ := Option.isSome_iff_exists.1 hfound
  exact ⟨least, (sharedResource?_eq_some_iff hv).1 hleast⟩

/-! ## Contributing findings -/

theorem contributing?_eq_some_iff (hv : r.validators ≠ []) :
    r.contributing? fs = some cs ↔ r.FiresOn fs cs := by
  have hcounts : r.counts = fun f => decide (∃ v ∈ r.validators, r.Reports v f) :=
    funext counts_eq
  unfold contributing?
  split
  case isTrue hsame =>
    have hon (resource : String) : (on resource fs).filter r.counts = fs.filter fun f =>
        f.location.resource = resource ∧ ∃ v ∈ r.validators, r.Reports v f := by
      rw [on, List.filter_filter, hcounts]
      congr 1
      funext f
      rw [Bool.decide_and, Bool.and_comm]
      rfl
    simp only [Option.map_eq_some_iff, sharedResource?_eq_some_iff hv, hon]
    constructor
    · rintro ⟨resource, hleast, rfl⟩
      exact .together hsame hleast
    · rintro (⟨hany, -⟩ | ⟨-, hleast⟩)
      · cases hsame.symm.trans hany
      · exact ⟨_, hleast, rfl⟩
  case isFalse hany =>
    rw [Bool.not_eq_true] at hany
    split
    case isTrue hall =>
      rw [hcounts, Option.some.injEq]
      constructor
      · rintro rfl
        exact .anywhere hany (everyValidatorHas_iff.1 hall)
      · rintro (_ | ⟨hsame, -⟩)
        · rfl
        · cases hany.symm.trans hsame
    case isFalse hnot =>
      simp only [reduceCtorEq, false_iff]
      rintro (⟨-, hagreed⟩ | ⟨hsame, -⟩)
      · exact hnot (everyValidatorHas_iff.2 hagreed)
      · cases hany.symm.trans hsame

/-- Some finding makes the rule fire. -/
theorem FiresOn.ne_nil (h : r.FiresOn fs cs) (hv : r.validators ≠ []) : cs ≠ [] := by
  obtain ⟨v, hmem⟩ := List.exists_mem_of_ne_nil _ hv
  cases h with
  | anywhere _ hagreed =>
    obtain ⟨f, hf, hreports⟩ := hagreed v hmem
    exact List.ne_nil_of_mem (List.mem_filter.2 ⟨hf, decide_eq_true ⟨v, hmem, hreports⟩⟩)
  | together _ hleast =>
    obtain ⟨f, hf, hresource, hreports⟩ := hleast.1 v hmem
    exact List.ne_nil_of_mem
      (List.mem_filter.2 ⟨hf, decide_eq_true ⟨hresource, v, hmem, hreports⟩⟩)

/-- Whether the validators agree, on one resource if the rule asks for that. -/
theorem exists_firesOn_iff (hv : r.validators ≠ []) :
    (∃ cs, r.FiresOn fs cs) ↔ r.condition.sameLocation = false ∧ r.Agreed fs ∨
      r.condition.sameLocation = true ∧ ∃ resource, r.AgreedOn fs resource := by
  constructor
  · rintro ⟨cs, ⟨hany, hagreed⟩ | ⟨hsame, hleast⟩⟩
    · exact .inl ⟨hany, hagreed⟩
    · exact .inr ⟨hsame, _, hleast.1⟩
  · rintro (⟨hany, hagreed⟩ | ⟨hsame, resource, hagreed⟩)
    · exact ⟨_, .anywhere hany hagreed⟩
    · obtain ⟨least, hleast⟩ := hagreed.exists_isLeast hv
      exact ⟨_, .together hsame hleast⟩

/-! ## What is yielded -/

theorem commonLocation_of_common (hne : cs ≠ [])
    (h : ∀ f ∈ cs, f.location.resource = resource) : r.commonLocation cs = { resource } := by
  have hsingle : sortedSet (cs.map (·.location.resource)) = [resource] := by
    refine eq_of_sorted_of_mem_iff (sortedSet_sorted _) (List.pairwise_singleton _ _) fun s => ?_
    rw [mem_sortedSet, List.mem_map, List.mem_singleton]
    constructor
    · rintro ⟨f, hf, rfl⟩
      exact h f hf
    · rintro rfl
      obtain ⟨f, hf⟩ := List.exists_mem_of_ne_nil _ hne
      exact ⟨f, hf, h f hf⟩
  rw [commonLocation, hsingle]

theorem commonLocation_of_several
    (h : ¬ ∃ resource, ∀ f ∈ cs, f.location.resource = resource) :
    r.commonLocation cs = { resource := "compound:" ++ r.id } := by
  unfold commonLocation
  split
  · rename_i resource hsingle
    refine absurd ⟨resource, fun f hf => ?_⟩ h
    have hmem := mem_sortedSet.2 (List.mem_map_of_mem (f := (·.location.resource)) hf)
    rwa [hsingle, List.mem_singleton] at hmem
  · rfl

theorem yields_fire {worst : Severity} (hworst : worst? cs = some worst) :
    r.Yields cs (r.fire (r.severity.max worst) cs) := by
  obtain ⟨⟨f, hf, hattained⟩, hle⟩ := worst?_eq_some_iff.1 hworst
  exact {
    contributing := rfl
    recorded := rfl
    attained := (Severity.max_eq_or r.severity worst).imp_right fun hmax =>
      ⟨f, hf, hmax.trans hattained.symm⟩
    atLeastRule := Severity.le_max_left r.severity worst
    atLeast := fun g hg => Severity.le_trans (hle g hg) (Severity.le_max_right r.severity worst)
    common := fun resource h => commonLocation_of_common (List.ne_nil_of_mem hf) h
    several := commonLocation_of_several }

theorem exists_worst? (hne : cs ≠ []) : ∃ worst, worst? cs = some worst := by
  cases cs with
  | nil => exact absurd rfl hne
  | cons f cs => exact ⟨_, rfl⟩

/-- A rule in order fires if there are findings that make it. -/
theorem FiresOn.evaluate_isSome (h : r.FiresOn fs cs) (hfault : r.fault? = none) :
    (r.evaluate fs).isSome = true := by
  have hv := validators_ne_nil_of_fault? hfault
  obtain ⟨worst, hworst⟩ := exists_worst? (h.ne_nil hv)
  refine Option.isSome_iff_exists.2 ⟨_, evaluate_eq_some_iff.2 ⟨hfault, cs, worst, ?_, hworst, rfl⟩⟩
  exact (contributing?_eq_some_iff hv).2 h

/-- What an evaluation yields comes from the findings that make the rule fire. -/
theorem exists_firesOn_of_evaluate {fired : FiredRule × Finding} (h : r.evaluate fs = some fired) :
    r.fault? = none ∧ ∃ cs, r.FiresOn fs cs ∧ r.Yields cs fired := by
  obtain ⟨hfault, cs, worst, hcs, hworst, rfl⟩ := evaluate_eq_some_iff.1 h
  have hv := validators_ne_nil_of_fault? hfault
  exact ⟨hfault, cs, (contributing?_eq_some_iff hv).1 hcs, yields_fire hworst⟩

/-! ## Findings that nobody reported -/

/-- The findings that were reported. -/
def reported (fs : List Finding) : List Finding := fs.filter fun f => f.kind = .reported

theorem mem_reported {f : Finding} : f ∈ reported fs ↔ f ∈ fs ∧ f.kind = .reported := by
  simp [reported]

theorem agreed_reported : r.Agreed (reported fs) ↔ r.Agreed fs := by
  refine forall₂_congr fun v _ => exists_congr fun f => ?_
  rw [mem_reported, and_assoc]
  exact and_congr_right fun _ => and_iff_right_of_imp fun h => h.1

theorem agreedOn_reported : r.AgreedOn (reported fs) resource ↔ r.AgreedOn fs resource := by
  have hcomm : on resource (reported fs) = reported (on resource fs) := List.filter_comm _ _ fs
  rw [← agreed_on_iff, hcomm, agreed_reported, agreed_on_iff]

theorem filter_reported (fs : List Finding) {p : Finding → Bool}
    (h : ∀ f, p f = true → f.kind = .reported) : (reported fs).filter p = fs.filter p := by
  rw [reported, List.filter_filter]
  refine List.filter_congr fun f _ => ?_
  cases hp : p f with
  | false => rfl
  | true => simp [h f hp]

theorem firesOn_reported : r.FiresOn (reported fs) cs ↔ r.FiresOn fs cs := by
  have hanywhere : (reported fs).filter (fun f => ∃ v ∈ r.validators, r.Reports v f) =
      fs.filter fun f => ∃ v ∈ r.validators, r.Reports v f :=
    filter_reported fs fun f hf => by
      obtain ⟨v, -, hreports⟩ := of_decide_eq_true hf
      exact hreports.1
  have htogether (resource : String) :
      (reported fs).filter (fun f =>
        f.location.resource = resource ∧ ∃ v ∈ r.validators, r.Reports v f) =
      fs.filter fun f => f.location.resource = resource ∧ ∃ v ∈ r.validators, r.Reports v f :=
    filter_reported fs fun f hf => by
      obtain ⟨-, v, -, hreports⟩ := of_decide_eq_true hf
      exact hreports.1
  have hset : {resource | r.AgreedOn (reported fs) resource} =
      {resource | r.AgreedOn fs resource} := Set.ext fun _ => agreedOn_reported
  constructor
  · rintro (⟨hany, hagreed⟩ | ⟨hsame, hleast⟩)
    · rw [hanywhere]
      exact .anywhere hany (agreed_reported.1 hagreed)
    · rw [htogether]
      exact .together hsame (hset ▸ hleast)
  · rintro (⟨hany, hagreed⟩ | ⟨hsame, hleast⟩)
    · rw [← hanywhere]
      exact .anywhere hany (agreed_reported.2 hagreed)
    · rw [← htogether]
      exact .together hsame (hset ▸ hleast)

theorem evaluate_reported : r.evaluate (reported fs) = r.evaluate fs := by
  ext fired
  rw [evaluate_eq_some_iff, evaluate_eq_some_iff]
  refine and_congr_right fun hfault => exists_congr fun cs => exists_congr fun worst => ?_
  have hv := validators_ne_nil_of_fault? hfault
  rw [contributing?_eq_some_iff hv, contributing?_eq_some_iff hv, firesOn_reported]

/-! ## The rule as a whole -/

/-- A rule fires exactly if its id is not blank, it names two validators, and each of them has a
finding that counts, on one resource if the rule asks for that. What it yields then comes from all
the findings that count there, and only reported findings matter. -/
theorem fires_exactly_on_agreement (r : CompoundRule) (fs : List Finding) :
    ((r.evaluate fs).isSome = true ↔
      (∃ c ∈ r.id.toList, Text.isBlank c = false) ∧ 2 ≤ r.validators.length ∧
      (r.condition.sameLocation = false ∧ r.Agreed fs ∨
        r.condition.sameLocation = true ∧ ∃ resource, r.AgreedOn fs resource)) ∧
    (∀ fired, r.evaluate fs = some fired → ∃ cs, r.FiresOn fs cs ∧ r.Yields cs fired) ∧
    ∀ gs, reported gs = reported fs → r.evaluate gs = r.evaluate fs := by
  refine ⟨?_, fun fired h => (exists_firesOn_of_evaluate h).2, fun gs h => ?_⟩
  · rw [← and_assoc, ← fault?_eq_none_iff]
    constructor
    · intro hsome
      obtain ⟨fired, hfired⟩ := Option.isSome_iff_exists.1 hsome
      obtain ⟨hfault, cs, hfires, -⟩ := exists_firesOn_of_evaluate hfired
      exact ⟨hfault, (exists_firesOn_iff (validators_ne_nil_of_fault? hfault)).1 ⟨cs, hfires⟩⟩
    · rintro ⟨hfault, hagreed⟩
      obtain ⟨cs, hfires⟩ := (exists_firesOn_iff (validators_ne_nil_of_fault? hfault)).2 hagreed
      exact hfires.evaluate_isSome hfault
  · rw [← evaluate_reported, h, evaluate_reported]

end CompoundRule

end AgentGovernance
