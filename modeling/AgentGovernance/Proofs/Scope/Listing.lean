-- SUMMARY: The listing of blocked actions: what it holds, its order, and that checks agree with it.
import AgentGovernance.Proofs.Scope.DecisionTable

/-!
# The listing of blocked actions

A check goes through the rules in order and stops at the first that applies. The listing asks no rule:
it collects the global blocks, the deny list of the agent, and the exclusive actions of the others.
Main statement: for an agent that is declared, and an action whose tag is its own tag, the check blocks
exactly what is listed; and every listing is sorted, without repetitions.
-/

namespace AgentGovernance.Enforcer

variable {index : DescriptorIndex} {ds : List AgentDescriptor} {blocked : List String}
  {s : DescriptorStore} {agentId : String} {tag : Tag}

/-! ## The three sources -/

/-- The deny list that is looked up is that of the agent, or empty. -/
theorem mem_denyList_iff (hw : index.WellFormed) :
    tag ∈ ((index.find? agentId).map (·.cannot)).getD [] ↔
      index.DeniedTo (Text.trim agentId) tag := by
  cases hfound : index.find? agentId with
  | none =>
    have hunknown := (DescriptorIndex.find?_eq_none_iff agentId).1 hfound
    refine iff_of_false List.not_mem_nil ?_
    rintro ⟨d, hd, hid, -⟩
    exact hunknown (hid ▸ List.mem_map_of_mem hd)
  | some d =>
    obtain ⟨hd, hid⟩ := DescriptorIndex.mem_of_find? hfound
    refine ⟨fun htag => ⟨d, hd, hid, htag⟩, ?_⟩
    rintro ⟨e, he, heid, htag⟩
    rwa [hw.sorted.eq_of_id_eq he hd (heid.trans hid.symm)] at htag

/-- What is left of the owners without the agent is what the others own. -/
theorem mem_ownedByOthers_iff (hbuild : DescriptorIndex.build ds = .ok index) :
    tag ∈ (index.owners.filter fun o => o.2 != agentId).map (·.1) ↔
      index.OwnedByOther agentId tag := by
  simp only [List.mem_map, List.mem_filter, bne_iff_ne, DescriptorIndex.OwnedByOther]
  constructor
  · rintro ⟨⟨_, owner⟩, ⟨howner, hne⟩, rfl⟩
    obtain ⟨d, hd, rfl, htag⟩ := (DescriptorIndex.mem_owners_iff hbuild).1 howner
    exact ⟨d, hd, hne, htag⟩
  · rintro ⟨d, hd, hne, htag⟩
    exact ⟨(tag, d.id), ⟨(DescriptorIndex.mem_owners_iff hbuild).2 ⟨d, hd, rfl, htag⟩, hne⟩, rfl⟩

/-- A tag is listed if it is blocked for everyone, denied to the agent, or owned by another. -/
theorem mem_blockedActions_iff (hbuild : DescriptorIndex.build ds = .ok index) :
    tag ∈ (ofBlocks blocked).blockedActions index agentId ↔
      BlockedForAll blocked tag ∨ index.DeniedTo (Text.trim agentId) tag ∨
        index.OwnedByOther (Text.trim agentId) tag := by
  have hw := DescriptorIndex.build_wellFormed hbuild
  rw [blockedActions, mem_sortedSet, List.mem_append, List.mem_append, mem_globallyBlocked,
    mem_denyList_iff hw, mem_ownedByOthers_iff hbuild, Text.trim_trim, or_assoc]
  rfl

/-! ## Checks -/

/-- The check of a declared agent blocks the tags that are listed, if they are their own tags. -/
theorem check_isBlocked_iff_mem (hbuild : DescriptorIndex.build ds = .ok index)
    (hknown : (index.find? agentId).isSome) {action : String}
    (hfixed : Tag.ofText (Tag.ofText action) = Tag.ofText action) :
    ((ofBlocks blocked).check index agentId action).isBlocked = true ↔
      Tag.ofText action ∈ (ofBlocks blocked).blockedActions index agentId := by
  have hid : Text.trim agentId ∈ index.ids := (DescriptorIndex.find?_isSome_iff agentId).1 hknown
  rw [check_isBlocked_iff (DescriptorIndex.build_wellFormed hbuild), mem_blockedActions_iff hbuild,
    hfixed]
  simp only [hid, not_true_eq_false, false_or]
  exact or_congr_right or_comm

/-- The listing for an agent goes up strictly and holds what is blocked for everyone, what the agent is
denied, and what others own. If the agent is declared, its checks block an action whose tag is its own
tag exactly if the tag is listed. -/
theorem listing_agrees_with_checks (hs : s.Reachable) (blocked : List String) (agentId : String) :
    let listing := (ofBlocks blocked).blockedActions s.index agentId
    listing.Pairwise (· < ·) ∧
    (∀ tag, tag ∈ listing ↔ BlockedForAll blocked tag ∨
      s.index.DeniedTo (Text.trim agentId) tag ∨ s.index.OwnedByOther (Text.trim agentId) tag) ∧
    ((s.find? agentId).isSome → ∀ action, Tag.ofText (Tag.ofText action) = Tag.ofText action →
      (((ofBlocks blocked).check s.index agentId action).isBlocked = true ↔
        Tag.ofText action ∈ listing)) := by
  obtain ⟨ds, -, hbuild⟩ := hs.built
  refine ⟨sortedSet_sorted _, fun tag => mem_blockedActions_iff hbuild, ?_⟩
  intro hknown action hfixed
  exact check_isBlocked_iff_mem hbuild hknown hfixed

/-- A tag that another agent owns and that is on the deny list as well is listed once, and blocked. -/
theorem listing_agrees_with_checks_padded :
    let s := ((StoreCall.replace
      [.withExclusive (.new "ops") ["deploy"], .withCannot (.new "dev") ["push", "deploy"]]).act.run
        {}).world
    let e := ofBlocks ["push"]
    e.blockedActions s.index " dev " = ["deploy", "push"] ∧
      (e.check s.index " dev " "Deploy").isBlocked = true := by
  intro s e
  have hs : s.Reachable := by
    refine .after _ .empty ?_
    intro d hd
    rcases List.mem_cons.1 hd with rfl | hd
    · exact ⟨_, _, .withExclusive _ (.new "ops")⟩
    · obtain rfl := List.mem_singleton.1 hd
      exact ⟨_, _, .withCannot _ (.new "dev")⟩
  have hlisting : e.blockedActions s.index " dev " = ["deploy", "push"] := by decide +kernel
  obtain ⟨-, -, hchecks⟩ := listing_agrees_with_checks hs ["push"] " dev "
  refine ⟨hlisting, (hchecks (by decide +kernel) "Deploy" (by decide +kernel)).2 ?_⟩
  have htag : Tag.ofText "Deploy" = "deploy" := by decide +kernel
  rw [hlisting, htag]
  exact List.mem_cons_self

end AgentGovernance.Enforcer
