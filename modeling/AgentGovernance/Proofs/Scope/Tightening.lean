-- SUMMARY: Two sets of descriptors: what is blocked depends on restrictions alone, and grows with them.
import AgentGovernance.Proofs.Scope.Restriction

/-!
# Grants and restrictions

Two sets of descriptors for the same agents may differ in what they grant and in what they restrict.
Grants have no say in what is blocked: where the restrictions are the same, the same checks are
blocked, for the same reason. Further restrictions block what was blocked before and perhaps more,
although another rule may be the one that says so.
-/

namespace AgentGovernance

namespace DescriptorIndex

/-- The same agents, each with the same deny list and the same exclusive list. Allow lists, names,
superiors, collaborators and sources may differ. -/
structure SameRestrictions (index index' : DescriptorIndex) : Prop where
  ids : index'.ids = index.ids
  cannot : ∀ d ∈ index.descriptors, ∀ d' ∈ index'.descriptors, d'.id = d.id → d'.cannot = d.cannot
  exclusive : ∀ d ∈ index.descriptors, ∀ d' ∈ index'.descriptors, d'.id = d.id →
    d'.exclusive = d.exclusive

/-- The same agents, each with a deny list that holds as much or more, and so for the exclusive lists
of all agents but one. -/
structure Tightens (agent : String) (index index' : DescriptorIndex) : Prop where
  ids : index'.ids = index.ids
  cannot : ∀ d ∈ index.descriptors, ∀ d' ∈ index'.descriptors, d'.id = d.id → d.cannot ⊆ d'.cannot
  exclusive : ∀ d ∈ index.descriptors, ∀ d' ∈ index'.descriptors, d'.id = d.id → d.id ≠ agent →
    d.exclusive ⊆ d'.exclusive

variable {index index' : DescriptorIndex} {agent : String} {tag : Tag}

theorem exists_namesake (hids : index'.ids = index.ids) {d : AgentDescriptor}
    (hd : d ∈ index.descriptors) : ∃ d' ∈ index'.descriptors, d'.id = d.id := by
  have hmem : d.id ∈ index'.ids := hids ▸ List.mem_map_of_mem hd
  obtain ⟨d', hd', hid⟩ := List.mem_map.1 hmem
  exact ⟨d', hd', hid⟩

/-! ## The same restrictions -/

namespace SameRestrictions

variable (h : SameRestrictions index index')
include h

theorem symm : SameRestrictions index' index where
  ids := h.ids.symm
  cannot d' hd' d hd hid := (h.cannot d hd d' hd' hid.symm).symm
  exclusive d' hd' d hd hid := (h.exclusive d hd d' hd' hid.symm).symm

theorem exclusiveOwner?_of_eq_some (hw : index.WellFormed) (hw' : index'.WellFormed) {action : String}
    {owner : String} (howner : index.exclusiveOwner? action = some owner) :
    index'.exclusiveOwner? action = some owner := by
  unfold exclusiveOwner? at howner ⊢
  rw [hw.owner_iff] at howner
  obtain ⟨d, hd, rfl, htag⟩ := howner
  obtain ⟨d', hd', hid⟩ := exists_namesake h.ids hd
  rw [hw'.owner_iff]
  exact ⟨d', hd', hid, h.exclusive d hd d' hd' hid ▸ htag⟩

theorem exclusiveOwner?_eq (hw : index.WellFormed) (hw' : index'.WellFormed) (action : String) :
    index'.exclusiveOwner? action = index.exclusiveOwner? action := by
  refine Option.ext fun owner => ⟨?_, ?_⟩
  · exact h.symm.exclusiveOwner?_of_eq_some hw' hw
  · exact h.exclusiveOwner?_of_eq_some hw hw'

/-- An agent is known to both sets or to neither, and denied the same. -/
theorem find?_cases (id : String) :
    index.find? id = none ∧ index'.find? id = none ∨
    ∃ d d', index.find? id = some d ∧ index'.find? id = some d' ∧ d'.cannot = d.cannot := by
  cases hfind : index.find? id with
  | none =>
    have hunknown := (find?_eq_none_iff id).1 hfind
    rw [← h.ids] at hunknown
    exact .inl ⟨rfl, (find?_eq_none_iff id).2 hunknown⟩
  | some d =>
    obtain ⟨hd, hid⟩ := mem_of_find? hfind
    have hknown : (index'.find? id).isSome := by
      rw [find?_isSome_iff, h.ids, ← hid]
      exact List.mem_map_of_mem hd
    obtain ⟨d', hfind'⟩ := Option.isSome_iff_exists.1 hknown
    obtain ⟨hd', hid'⟩ := mem_of_find? hfind'
    exact .inr ⟨d, d', rfl, hfind', h.cannot d hd d' hd' (hid'.trans hid.symm)⟩

end SameRestrictions

/-! ## More restrictions -/

namespace Tightens

variable (h : Tightens agent index index')
include h

theorem ownedByOther (howned : index.OwnedByOther agent tag) : index'.OwnedByOther agent tag := by
  obtain ⟨d, hd, hne, htag⟩ := howned
  obtain ⟨d', hd', hid⟩ := exists_namesake h.ids hd
  exact ⟨d', hd', hid ▸ hne, h.exclusive d hd d' hd' hid hne htag⟩

theorem deniedTo (hdenied : index.DeniedTo agent tag) : index'.DeniedTo agent tag := by
  obtain ⟨d, hd, rfl, htag⟩ := hdenied
  obtain ⟨d', hd', hid⟩ := exists_namesake h.ids hd
  exact ⟨d', hd', hid, h.cannot d hd d' hd' hid htag⟩

end Tightens

end DescriptorIndex

namespace Enforcer

variable {index index' : DescriptorIndex}

/-- A descriptor blocks by its deny list alone. -/
theorem decideByDescriptor_of_cannot {d d' : AgentDescriptor} (h : d'.cannot = d.cannot)
    (agentId : String) (tag : Tag)
    (hblocked : (decideByDescriptor d agentId tag).isBlocked = true) :
    decideByDescriptor d' agentId tag = decideByDescriptor d agentId tag := by
  have hdenied : d.denies tag = true := by
    rw [decideByDescriptor_isBlocked_iff] at hblocked
    simpa [AgentDescriptor.denies] using hblocked
  have hdenied' : d'.denies tag = true := by
    unfold AgentDescriptor.denies at hdenied ⊢
    rwa [h]
  unfold decideByDescriptor
  rw [if_pos hdenied, if_pos hdenied']

/-- Where the restrictions are the same, what is blocked is blocked in the same words. -/
theorem check_of_sameRestrictions (hw : index.WellFormed) (hw' : index'.WellFormed)
    (h : index.SameRestrictions index') (e : Enforcer) {agentId action : String}
    (hblocked : (e.check index agentId action).isBlocked = true) :
    e.check index' agentId action = e.check index agentId action := by
  unfold check decide at hblocked ⊢
  split
  · rfl
  · rename_i hopen
    rw [if_neg hopen] at hblocked
    unfold decideByIndex at hblocked ⊢
    rw [h.exclusiveOwner?_eq hw hw']
    split
    · rfl
    · rename_i hfree
      rw [hfree] at hblocked
      rcases h.find?_cases (Text.trim agentId) with ⟨hnone, hnone'⟩ | ⟨d, d', hd, hd', hcannot⟩
      · rw [hnone, hnone']
      · rw [hd] at hblocked ⊢
        rw [hd']
        exact decideByDescriptor_of_cannot hcannot _ _ hblocked

/-- Grants lift no block, and further restrictions lose none. Between two accepted sets of descriptors
with the same restrictions the same checks are blocked, and what is blocked is decided in the same
way, rule and reason included. A set that tightens another one, with global blocks that hold those of
the other, blocks what the other blocks. -/
theorem blocks_outlast_changes {ds ds' : List AgentDescriptor}
    (hbuild : DescriptorIndex.build ds = .ok index)
    (hbuild' : DescriptorIndex.build ds' = .ok index') (blocked blocked' : List String) :
    (index.SameRestrictions index' → ∀ agentId action,
      let decision := (ofBlocks blocked).check index agentId action
      let decision' := (ofBlocks blocked).check index' agentId action
      decision'.isBlocked = decision.isBlocked ∧
        (decision.isBlocked = true → decision' = decision)) ∧
    (blocked ⊆ blocked' → ∀ agentId, index.Tightens (Text.trim agentId) index' → ∀ action,
      ((ofBlocks blocked).check index agentId action).isBlocked = true →
      ((ofBlocks blocked').check index' agentId action).isBlocked = true) := by
  have hw := DescriptorIndex.build_wellFormed hbuild
  have hw' := DescriptorIndex.build_wellFormed hbuild'
  refine ⟨?_, ?_⟩
  · intro h agentId action decision decision'
    have hsame : decision.isBlocked = true → decision' = decision :=
      check_of_sameRestrictions hw hw' h (ofBlocks blocked)
    have hsame' : decision'.isBlocked = true → decision = decision' :=
      check_of_sameRestrictions hw' hw h.symm (ofBlocks blocked)
    refine ⟨?_, hsame⟩
    rw [Bool.eq_iff_iff]
    constructor
    · intro hblocked
      rwa [hsame' hblocked]
    · intro hblocked
      rwa [hsame hblocked]
  · intro hmore agentId h action
    rw [check_isBlocked_iff hw, check_isBlocked_iff hw', h.ids]
    rintro (⟨hne, b, hb, htag⟩ | howned | hunknown | hdenied)
    · exact .inl ⟨hne, b, hmore hb, htag⟩
    · exact .inr (.inl (h.ownedByOther howned))
    · exact .inr (.inr (.inl hunknown))
    · exact .inr (.inr (.inr (h.deniedTo hdenied)))

/-- An allow list does not open an action that belongs to another agent, and more entries on the lists
do not either. -/
theorem blocks_outlast_changes_granted :
    ∃ index granted tight,
      DescriptorIndex.build [.withExclusive (.new "ops") ["deploy"], .new "dev"] = .ok index ∧
      DescriptorIndex.build
        [.withCan (.new "dev") ["deploy"], .withExclusive (.new "ops") ["deploy"]] = .ok granted ∧
      DescriptorIndex.build [.withExclusive (.new "ops") ["deploy", "release"],
        .withCannot (.new "dev") ["deploy"]] = .ok tight ∧
      (ofBlocks []).check granted " dev" "Deploy" = (ofBlocks []).check index " dev" "Deploy" ∧
      ((ofBlocks []).check granted " dev" "Deploy").isBlocked = true ∧
      ((ofBlocks ["force push"]).check tight " dev" "Deploy").isBlocked = true := by
  have hbuild : DescriptorIndex.build [.withExclusive (.new "ops") ["deploy"], .new "dev"] =
      .ok { descriptors := [.new "dev", .withExclusive (.new "ops") ["deploy"]]
            owners := [("deploy", "ops")] } := rfl
  have hgranted : DescriptorIndex.build
      [.withCan (.new "dev") ["deploy"], .withExclusive (.new "ops") ["deploy"]] =
      .ok { descriptors := [.withCan (.new "dev") ["deploy"], .withExclusive (.new "ops") ["deploy"]]
            owners := [("deploy", "ops")] } := rfl
  have htight : DescriptorIndex.build [.withExclusive (.new "ops") ["deploy", "release"],
        .withCannot (.new "dev") ["deploy"]] =
      .ok { descriptors := [.withCannot (.new "dev") ["deploy"],
              .withExclusive (.new "ops") ["deploy", "release"]]
            owners := [("deploy", "ops"), ("release", "ops")] } := rfl
  have hgrants := (blocks_outlast_changes hbuild hgranted [] []).1
    ⟨by decide +kernel, by decide +kernel, by decide +kernel⟩ " dev" "Deploy"
  have htightens := (blocks_outlast_changes hbuild htight [] ["force push"]).2 (List.nil_subset _)
    " dev" ⟨by decide +kernel, by decide +kernel, by decide +kernel⟩ "Deploy" (by decide +kernel)
  exact ⟨_, _, _, hbuild, hgranted, htight, hgrants.2 (by decide +kernel),
    hgrants.1.trans (by decide +kernel), htightens⟩

end Enforcer

end AgentGovernance
