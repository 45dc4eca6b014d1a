-- SUMMARY: When descriptors conflict, which conflict is reported, and that their order does not matter.
import AgentGovernance.Proofs.Descriptor.Index
import Mathlib.Order.Bounds.Basic

/-!
# Conflicts between descriptors

The claims to exclusive tags are collected id by id in rising order, and within an agent in the order of
its list; the first tag that is taken already ends that. Of several descriptors with one id only the
first counts. Main statement: a list of descriptors is refused exactly if two that count claim one tag,
what is reported is the first clash, and descriptors with different ids may come in any order.
-/

namespace AgentGovernance.DescriptorIndex

variable {ds ds' before after : List AgentDescriptor} {c d : AgentDescriptor}
  {owners : List (Tag × String)} {index : DescriptorIndex} {id first second : String} {tag : Tag}
  {err : GovernanceError}

/-- The agent of the id claims the tag for itself. -/
def ClaimedUnder (ds : List AgentDescriptor) (id : String) (tag : Tag) : Prop :=
  ∃ d, Counts ds d ∧ d.id = id ∧ tag ∈ d.exclusive

/-- An agent with a smaller id claims the tag for itself. -/
def TakenBefore (ds : List AgentDescriptor) (id : String) (tag : Tag) : Prop :=
  ∃ smaller, smaller < id ∧ ClaimedUnder ds smaller tag

/-- The agent of the id claims a tag that is taken. -/
def Clashes (ds : List AgentDescriptor) (id : String) : Prop :=
  ∃ tag, ClaimedUnder ds id tag ∧ TakenBefore ds id tag

/-- The first clash: of the agents that clash the one with the least id, of its tags the first one that
is taken, and the one agent with a smaller id that has taken it. -/
structure FirstClash (ds : List AgentDescriptor) (tag : Tag) (first second : String) : Prop where
  second_least : IsLeast {id | Clashes ds id} second
  tag_first : ∃ d before after, Counts ds d ∧ d.id = second ∧ d.exclusive = before ++ tag :: after ∧
    TakenBefore ds second tag ∧ ∀ t ∈ before, ¬TakenBefore ds second t
  first_iff : ∀ id, id < second ∧ ClaimedUnder ds id tag ↔ id = first

/-! ## Which conflict is reported -/

/-- In a sorted list the descriptors before one are those with a smaller id. -/
theorem Sorted.mem_before_iff (h : Sorted (before ++ d :: after)) :
    c ∈ before ↔ c ∈ before ++ d :: after ∧ c.id < d.id := by
  obtain ⟨-, hrest, hlt⟩ := List.pairwise_append.1 h
  constructor
  · intro hc
    exact ⟨List.mem_append_left _ hc, hlt c hc d List.mem_cons_self⟩
  · rintro ⟨hc, hsmaller⟩
    rcases List.mem_append.1 hc with hbefore | hlater
    · exact hbefore
    rcases List.mem_cons.1 hlater with rfl | hafter
    · exact absurd hsmaller (lt_irrefl _)
    · exact absurd hsmaller (lt_asymm ((List.pairwise_cons.1 hrest).1 c hafter))

/-- The owners that are known when an agent's turn comes are those with smaller ids. -/
theorem lookup_owners_iff (hsplit : sortById ds = before ++ d :: after)
    (howners : ownersOf before [] = .ok owners) :
    owners.lookup tag = some id ↔ id < d.id ∧ ClaimedUnder ds id tag := by
  have hsorted : Sorted (before ++ d :: after) := hsplit ▸ sortById_sorted ds
  have hbefore : ∀ c, c ∈ before ↔ Counts ds c ∧ c.id < d.id := by
    intro c
    rw [hsorted.mem_before_iff, ← hsplit, mem_sortById_iff]
  rw [ownersOf_spec howners]
  constructor
  · rintro (⟨c, hc, rfl, htag⟩ | hnone)
    · obtain ⟨hcounts, hlt⟩ := (hbefore c).1 hc
      exact ⟨hlt, c, hcounts, rfl, htag⟩
    · cases hnone
  · rintro ⟨hlt, c, hcounts, rfl, htag⟩
    exact .inl ⟨c, (hbefore c).2 ⟨hcounts, hlt⟩, rfl, htag⟩

/-- What is reported is the first clash. -/
theorem firstClash_of_error (h : build ds = .error err) :
    ∃ tag first second, err = .descriptorConflict tag first second ∧
      FirstClash ds tag first second := by
  cases hall : ownersOf (sortById ds) [] with
  | ok owners =>
    rw [build, hall] at h
    cases h
  | error err' =>
    rw [build, hall] at h
    cases h
    obtain ⟨before, d, after, owners, hsplit, howners, hclaim⟩ := ownersOf_error_split hall
    obtain ⟨free, tag, rest, other, htags, ⟨claimed, hfree⟩, hother, hne, herr⟩ :=
      claim_error_split hclaim
    have hcounts : Counts ds d := mem_sortById_iff.1 (by simp [hsplit])
    have hlookup : ∀ {t id}, owners.lookup t = some id ↔ id < d.id ∧ ClaimedUnder ds id t :=
      lookup_owners_iff hsplit howners
    have htaken : TakenBefore ds d.id tag := ⟨other, hlookup.1 hother⟩
    refine ⟨tag, other, d.id, herr, ?_, ?_, ?_⟩
    · refine ⟨⟨tag, ⟨d, hcounts, rfl, by simp [htags]⟩, htaken⟩, ?_⟩
      rintro id ⟨t, hclaimed, smaller, hlt, hsmaller⟩
      -- Had a smaller id clashed, then its tag would have two owners when the turn of `d` comes.
      by_contra hge
      have hid := not_le.1 hge
      have hsame := (hlookup.2 ⟨hid, hclaimed⟩).symm.trans (hlookup.2 ⟨hlt.trans hid, hsmaller⟩)
      exact absurd (Option.some.inj hsame) (ne_of_gt hlt)
    · refine ⟨d, free, rest, hcounts, rfl, htags, htaken, ?_⟩
      rintro t ht ⟨smaller, htakes⟩
      have hself := (claim_spec hfree t).2 ht smaller (hlookup.2 htakes)
      exact absurd htakes.1 (hself ▸ lt_irrefl _)
    · intro id
      rw [← hlookup, hother, Option.some.injEq]
      exact eq_comm

/-! ## Exactness -/

theorem Counts.eq_of_id_eq (hc : Counts ds c) (hd : Counts ds d) (h : c.id = d.id) : c = d := by
  unfold Counts at hc hd
  rw [h, hd] at hc
  exact (Option.some.inj hc).symm

/-- An index is built only if no two agents claim one tag. -/
theorem eq_of_build_ok (h : build ds = .ok index) (hc : Counts ds c) (hd : Counts ds d)
    (hctag : tag ∈ c.exclusive) (hdtag : tag ∈ d.exclusive) : c = d :=
  (build_wellFormed h).eq_of_exclusive ((mem_descriptors_iff h).2 hc) ((mem_descriptors_iff h).2 hd)
    hctag hdtag

/-- The first element with a property is the same however the list is split. -/
theorem first_unique {α : Type} {p : α → Prop} {a b : α} {as bs cs ds : List α}
    (h : as ++ a :: bs = cs ++ b :: ds) (ha : p a) (hb : p b) (has : ∀ x ∈ as, ¬p x)
    (hcs : ∀ x ∈ cs, ¬p x) : a = b := by
  classical
  have hfound : (as ++ a :: bs).find? (fun x => decide (p x)) = some a :=
    List.find?_eq_some_iff_append.2 ⟨by simpa using ha, as, bs, rfl, by simpa using has⟩
  have hfound' : (cs ++ b :: ds).find? (fun x => decide (p x)) = some b :=
    List.find?_eq_some_iff_append.2 ⟨by simpa using hb, cs, ds, rfl, by simpa using hcs⟩
  rw [h, hfound'] at hfound
  exact (Option.some.inj hfound).symm

/-- There is one first clash. -/
theorem FirstClash.unique {tag' : Tag} {first' second' : String}
    (h : FirstClash ds tag first second) (h' : FirstClash ds tag' first' second') :
    tag = tag' ∧ first = first' ∧ second = second' := by
  obtain rfl := h.second_least.unique h'.second_least
  obtain ⟨d, free, rest, hd, hid, htags, htaken, hfree⟩ := h.tag_first
  obtain ⟨e, free', rest', he, heid, htags', htaken', hfree'⟩ := h'.tag_first
  obtain rfl := hd.eq_of_id_eq he (hid.trans heid.symm)
  obtain rfl := first_unique (htags.symm.trans htags') htaken htaken' hfree hfree'
  exact ⟨rfl, (h'.first_iff first).1 ((h.first_iff first).2 rfl), rfl⟩

/-- A clash is reported. -/
theorem error_of_clashes (h : Clashes ds id) : ∃ err, build ds = .error err := by
  obtain ⟨tag, ⟨d, hd, rfl, hdtag⟩, smaller, hlt, c, hc, rfl, hctag⟩ := h
  cases hbuild : build ds with
  | error err => exact ⟨err, rfl⟩
  | ok index =>
    have hsame := eq_of_build_ok hbuild hc hd hctag hdtag
    exact absurd hlt (hsame ▸ lt_irrefl _)

/-- Building fails with the first clash, if there is one. -/
theorem build_eq_error_iff : build ds = .error err ↔
    ∃ tag first second, err = .descriptorConflict tag first second ∧
      FirstClash ds tag first second := by
  refine ⟨firstClash_of_error, ?_⟩
  rintro ⟨tag, first, second, rfl, h⟩
  obtain ⟨err, hbuild⟩ := error_of_clashes h.second_least.1
  obtain ⟨tag', first', second', rfl, h'⟩ := firstClash_of_error hbuild
  obtain ⟨rfl, rfl, rfl⟩ := h.unique h'
  exact hbuild

/-- Agents with different ids and a tag in common clash, the one with the greater id. -/
theorem exists_clashes_iff : (∃ id, Clashes ds id) ↔
    ∃ c d tag, Counts ds c ∧ Counts ds d ∧ c.id ≠ d.id ∧ tag ∈ c.exclusive ∧ tag ∈ d.exclusive := by
  constructor
  · rintro ⟨_, tag, ⟨d, hd, rfl, hdtag⟩, smaller, hlt, c, hc, rfl, hctag⟩
    exact ⟨c, d, tag, hc, hd, ne_of_lt hlt, hctag, hdtag⟩
  · rintro ⟨c, d, tag, hc, hd, hne, hctag, hdtag⟩
    rcases lt_or_gt_of_ne hne with hlt | hgt
    · exact ⟨d.id, tag, ⟨d, hd, rfl, hdtag⟩, c.id, hlt, c, hc, rfl, hctag⟩
    · exact ⟨c.id, tag, ⟨c, hc, rfl, hctag⟩, d.id, hgt, d, hd, rfl, hdtag⟩

/-! ## Order -/

/-- With different ids all descriptors count. -/
theorem counts_iff_mem (h : (ds.map (·.id)).Nodup) : Counts ds d ↔ d ∈ ds := by
  refine ⟨List.mem_of_find?_eq_some, fun hd => ?_⟩
  have hfound : (ds.find? fun e => e.id == d.id).isSome :=
    List.find?_isSome.2 ⟨d, hd, beq_self_eq_true _⟩
  obtain ⟨e, he⟩ := Option.isSome_iff_exists.1 hfound
  have hid : e.id = d.id := by simpa using List.find?_some he
  rwa [List.inj_on_of_nodup_map h (List.mem_of_find?_eq_some he) hd hid] at he

/-- Sorted lists with the same descriptors are the same. -/
theorem Sorted.eq_of_mem_iff (h : Sorted ds) (h' : Sorted ds') (hmem : ∀ d, d ∈ ds ↔ d ∈ ds') :
    ds = ds' := by
  have hperm := (List.perm_ext_iff_of_nodup (List.Nodup.of_map _ h.nodup_ids)
    (List.Nodup.of_map _ h'.nodup_ids)).2 hmem
  refine List.Perm.eq_of_pairwise ?_ h h' hperm
  intro c d _ _ hcd hdc
  exact absurd hdc (lt_asymm hcd)

theorem build_perm (h : ds.Perm ds') (hnodup : (ds.map (·.id)).Nodup) : build ds' = build ds := by
  have hnodup' : (ds'.map (·.id)).Nodup := (h.map _).nodup_iff.1 hnodup
  have hsorted : sortById ds' = sortById ds := by
    refine (sortById_sorted ds').eq_of_mem_iff (sortById_sorted ds) fun d => ?_
    rw [mem_sortById_iff, mem_sortById_iff, counts_iff_mem hnodup, counts_iff_mem hnodup']
    exact h.mem_iff.symm
  rw [build, build, hsorted]

/-- Descriptors are refused exactly if two that count, under different ids, claim one tag. They are
refused with an error exactly if that reports the first clash. Descriptors with different ids give the
same index or the same error in any order. -/
theorem conflict_exact (ds : List AgentDescriptor) :
    ((∃ tag first second, build ds = .error (.descriptorConflict tag first second)) ↔
      ∃ c d tag, Counts ds c ∧ Counts ds d ∧ c.id ≠ d.id ∧ tag ∈ c.exclusive ∧
        tag ∈ d.exclusive) ∧
    (∀ err, build ds = .error err ↔ ∃ tag first second,
      err = .descriptorConflict tag first second ∧ FirstClash ds tag first second) ∧
    ((ds.map (·.id)).Nodup → ∀ ds', ds.Perm ds' → build ds' = build ds) := by
  refine ⟨?_, fun err => build_eq_error_iff, fun hnodup ds' h => build_perm h hnodup⟩
  rw [← exists_clashes_iff]
  constructor
  · rintro ⟨tag, first, second, hbuild⟩
    obtain ⟨_, _, second, -, h⟩ := firstClash_of_error hbuild
    exact ⟨second, h.second_least.1⟩
  · rintro ⟨id, hclashes⟩
    obtain ⟨err, hbuild⟩ := error_of_clashes hclashes
    obtain ⟨tag, first, second, rfl, -⟩ := firstClash_of_error hbuild
    exact ⟨tag, first, second, hbuild⟩

/-- Of three agents with one tag in common the middle one is reported, whichever comes first. -/
theorem conflict_exact_reversed :
    let ds : List AgentDescriptor := [.withExclusive (.new "qa") ["Sign-off", "deploy"],
      .withExclusive (.new "lead") ["triage", "deploy"], .withExclusive (.new "dev") ["Deploy"]]
    (ds.map (·.id)).Nodup ∧ build ds.reverse = .error (.descriptorConflict "deploy" "dev" "lead") ∧
      FirstClash ds "deploy" "dev" "lead" := by
  intro ds
  have hnodup : (ds.map (·.id)).Nodup := by decide +kernel
  have hbuild : build ds = .error (.descriptorConflict "deploy" "dev" "lead") := rfl
  obtain ⟨-, hexact, horder⟩ := conflict_exact ds
  refine ⟨hnodup, (horder hnodup _ (List.reverse_perm ds).symm).trans hbuild, ?_⟩
  obtain ⟨_, _, _, heq, h⟩ := (hexact _).1 hbuild
  cases heq
  exact h

end AgentGovernance.DescriptorIndex
