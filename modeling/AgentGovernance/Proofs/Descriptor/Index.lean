-- SUMMARY: What a built index holds: one descriptor per id, in order, and the owners of exclusive tags.
import AgentGovernance.Descriptor.Index
import AgentGovernance.Proofs.Json.Fields
import AgentGovernance.Proofs.Tag
import Mathlib.Data.List.Nodup
import Mathlib.Data.String.Basic

/-!
# Laws of descriptor indexes

An index that was built is well-formed: its descriptors are strictly increasing by id, and the owner
of a tag is the one descriptor that claims the tag for itself. Finding a descriptor and asking for
an owner are then statements about the descriptors alone.
-/

namespace AgentGovernance.DescriptorIndex

variable {index : DescriptorIndex} {d e : AgentDescriptor} {ds es : List AgentDescriptor}

/-- Strictly increasing by id. -/
def Sorted (ds : List AgentDescriptor) : Prop := ds.Pairwise fun d e => d.id < e.id

/-- The descriptor counts in the list: it is the first with its id. -/
def Counts (ds : List AgentDescriptor) (d : AgentDescriptor) : Prop :=
  ds.find? (fun e => e.id == d.id) = some d

/-- The error says that two descriptors that count claim one tag for themselves. -/
def Conflict (ds : List AgentDescriptor) (err : GovernanceError) : Prop :=
  ∃ c d tag, Counts ds c ∧ Counts ds d ∧ c.id ≠ d.id ∧ tag ∈ c.exclusive ∧ tag ∈ d.exclusive ∧
    err = .descriptorConflict tag c.id d.id

/-- What holds of every index that was built from a list. -/
structure WellFormed (index : DescriptorIndex) : Prop where
  sorted : Sorted index.descriptors
  /-- The owner of a tag is the descriptor that claims it. -/
  owner_iff : ∀ tag owner, index.owners.lookup tag = some owner ↔
    ∃ d ∈ index.descriptors, d.id = owner ∧ tag ∈ d.exclusive

/-! ## Sorting -/

theorem mem_of_mem_insert (h : e ∈ insert d es) : e = d ∨ e ∈ es := by
  induction es with
  | nil => simpa [insert] using h
  | cons f es ih =>
    simp only [insert] at h
    split at h
    · exact List.mem_cons.1 h
    · split at h
      · exact .inr h
      · rcases List.mem_cons.1 h with rfl | h
        · exact .inr List.mem_cons_self
        · exact (ih h).imp_right (List.mem_cons_of_mem f)

theorem insert_sorted (h : Sorted es) : Sorted (insert d es) := by
  induction es with
  | nil => exact List.pairwise_singleton _ d
  | cons f es ih =>
    obtain ⟨hf, hes⟩ := List.pairwise_cons.1 h
    simp only [insert]
    split
    · rename_i hlt
      refine List.pairwise_cons.2 ⟨?_, h⟩
      intro g hg
      rcases List.mem_cons.1 hg with rfl | hg
      · exact hlt
      · exact String.lt_trans hlt (hf g hg)
    · rename_i hnlt
      split
      · exact h
      · rename_i hne
        -- The ids are neither smaller nor equal, so the new descriptor belongs behind this one.
        have hgt : f.id < d.id := by
          rcases lt_trichotomy d.id f.id with hlt | heq | hgt
          · exact absurd hlt hnlt
          · exact absurd (beq_iff_eq.2 heq) hne
          · exact hgt
        refine List.pairwise_cons.2 ⟨?_, ih hes⟩
        intro g hg
        rcases mem_of_mem_insert hg with rfl | hg
        · exact hgt
        · exact hf g hg

theorem sortById_sorted (ds : List AgentDescriptor) : Sorted (sortById ds) := by
  have hfold : ∀ es, Sorted es → Sorted (ds.foldl (fun done d => insert d done) es) := by
    induction ds with
    | nil => exact fun es hes => hes
    | cons d ds ih => exact fun es hes => ih (insert d es) (insert_sorted hes)
  exact hfold [] List.Pairwise.nil

theorem Sorted.nodup_ids (h : Sorted ds) : (ds.map (·.id)).Nodup := by
  apply List.pairwise_map.2
  exact h.imp fun hlt => ne_of_lt hlt

theorem Sorted.eq_of_id_eq (h : Sorted ds) (hd : d ∈ ds) (he : e ∈ ds) (hid : d.id = e.id) :
    d = e :=
  List.inj_on_of_nodup_map h.nodup_ids hd he hid

theorem mem_insert_iff (h : Sorted es) :
    e ∈ insert d es ↔ e ∈ es ∨ e = d ∧ ∀ f ∈ es, f.id ≠ d.id := by
  induction es with
  | nil => simp [insert]
  | cons f es ih =>
    obtain ⟨hf, hes⟩ := List.pairwise_cons.1 h
    simp only [insert]
    split
    · rename_i hlt
      -- The list goes up from here, so the new id is not in it.
      have hfresh : ∀ g ∈ f :: es, g.id ≠ d.id := by
        intro g hg heq
        rcases List.mem_cons.1 hg with rfl | hg
        · exact absurd hlt (heq ▸ String.lt_irrefl _)
        · exact absurd (String.lt_trans hlt (hf g hg)) (heq ▸ String.lt_irrefl _)
      rw [List.mem_cons, and_iff_left hfresh]
      exact or_comm
    · split
      · rename_i heq
        simp [beq_iff_eq.1 heq]
      · rename_i hne
        have hne : f.id ≠ d.id := fun heq => hne (beq_iff_eq.2 heq.symm)
        simp only [List.mem_cons, ih hes, forall_eq_or_imp, hne, ne_eq, not_false_eq_true, true_and]
        exact or_assoc.symm

/-- Sorting keeps the descriptors that count. -/
theorem mem_sortById_iff : d ∈ sortById ds ↔ Counts ds d := by
  have hfold : ∀ es, Sorted es → (d ∈ ds.foldl (fun done d => insert d done) es ↔
      d ∈ es ∨ (∀ f ∈ es, f.id ≠ d.id) ∧ Counts ds d) := by
    induction ds with
    | nil => simp [Counts]
    | cons c ds ih =>
      intro es hes
      rw [List.foldl_cons, ih (insert c es) (insert_sorted hes)]
      simp only [mem_insert_iff hes, Counts, List.find?_cons]
      by_cases hid : c.id = d.id
      · simp only [hid, beq_self_eq_true, Option.some.injEq]
        grind
      · simp only [beq_false_of_ne hid]
        grind
  simpa [sortById] using hfold [] List.Pairwise.nil

/-! ## Duplicates -/

theorem insert_perm (h : ∀ e ∈ es, e.id ≠ d.id) : (insert d es).Perm (d :: es) := by
  induction es with
  | nil => exact List.Perm.refl _
  | cons e es ih =>
    obtain ⟨he, hes⟩ := List.forall_mem_cons.1 h
    rw [insert]
    split
    · exact List.Perm.refl _
    · rw [if_neg (by simpa using he.symm)]
      exact ((ih hes).cons e).trans (List.Perm.swap d e es)

theorem insert_of_mem (h : Sorted es) (he : e ∈ es) (hid : e.id = d.id) : insert d es = es := by
  induction es with
  | nil => cases he
  | cons f es ih =>
    obtain ⟨hf, hes⟩ := List.pairwise_cons.1 h
    rw [insert]
    rcases List.mem_cons.1 he with rfl | he
    · simp [hid]
    · have hlt := hid ▸ hf e he
      rw [if_neg (String.lt_asymm hlt), if_neg (by simpa using hlt.ne'), ih hes he]

/-- What is kept and what is reported as a duplicate make up the list. -/
theorem sortById_append_perm (ds : List AgentDescriptor) :
    (sortById ds ++ duplicatesFrom [] ds).Perm ds := by
  have hfold : ∀ es seen, Sorted es → (∀ id, id ∈ seen ↔ ∃ e ∈ es, e.id = id) →
      (ds.foldl (fun done d => insert d done) es ++ duplicatesFrom seen ds).Perm (es ++ ds) := by
    induction ds with
    | nil => intro es seen _ _; exact List.Perm.refl _
    | cons d ds ih =>
      intro es seen hes hseen
      rw [List.foldl_cons, duplicatesFrom]
      by_cases hd : d.id ∈ seen
      · obtain ⟨e, he, hid⟩ := (hseen d.id).1 hd
        rw [if_pos (by simpa using hd), insert_of_mem hes he hid]
        exact List.perm_middle.trans (((ih es seen hes hseen).cons d).trans List.perm_middle.symm)
      · have hfresh : ∀ e ∈ es, e.id ≠ d.id := fun e he hid => hd ((hseen d.id).2 ⟨e, he, hid⟩)
        rw [if_neg (by simpa using hd)]
        refine (ih (insert d es) (d.id :: seen) (insert_sorted hes) fun id => ?_).trans ?_
        · simp only [List.mem_cons, hseen, (insert_perm hfresh).mem_iff]
          constructor
          · rintro (rfl | ⟨e, he, rfl⟩)
            · exact ⟨d, .inl rfl, rfl⟩
            · exact ⟨e, .inr he, rfl⟩
          · rintro ⟨e, rfl | he, rfl⟩
            · exact .inl rfl
            · exact .inr ⟨e, he, rfl⟩
        · exact ((insert_perm hfresh).append_right ds).trans List.perm_middle.symm
  exact hfold [] [] List.Pairwise.nil (by simp)

theorem mem_duplicatesFrom {before after : List AgentDescriptor} {seen : List String}
    (h : d.id ∈ seen ∨ ∃ e ∈ before, e.id = d.id) :
    d ∈ duplicatesFrom seen (before ++ d :: after) := by
  induction before generalizing seen with
  | nil =>
    have hd : d.id ∈ seen := h.resolve_right (by simp)
    simp [duplicatesFrom, hd]
  | cons e before ih =>
    rw [List.cons_append, duplicatesFrom]
    split
    · rename_i hseen
      refine List.mem_cons_of_mem _ (ih ?_)
      rcases h with h | ⟨f, hf, hid⟩
      · exact .inl h
      · rcases List.mem_cons.1 hf with rfl | hf
        · exact .inl (hid ▸ by simpa using hseen)
        · exact .inr ⟨f, hf, hid⟩
    · refine ih ?_
      rcases h with h | ⟨f, hf, hid⟩
      · exact .inl (List.mem_cons_of_mem _ h)
      · rcases List.mem_cons.1 hf with rfl | hf
        · exact .inl (hid ▸ List.mem_cons_self)
        · exact .inr ⟨f, hf, hid⟩

theorem duplicatesFrom_sublist (seen : List String) (ds : List AgentDescriptor) :
    (duplicatesFrom seen ds).Sublist ds := by
  induction ds generalizing seen with
  | nil => exact List.Sublist.slnil
  | cons d ds ih =>
    rw [duplicatesFrom]
    split
    · exact (ih seen).cons_cons d
    · exact (ih _).cons d

theorem counts_of_first {before after : List AgentDescriptor} (h : ∀ e ∈ before, e.id ≠ d.id) :
    Counts (before ++ d :: after) d := by
  rw [Counts, List.find?_append, List.find?_eq_none.2 (by simpa using h)]
  simp

/-! ## Owners -/

section Owners

variable {owners claimed : List (Tag × String)} {id : String} {tags : List Tag} {tag : Tag}

/-- A claim that succeeds gives every tag of the list to the claimant and changes nothing else; no
tag of the list belonged to anyone else. -/
theorem claim_spec (h : claim id tags owners = .ok claimed) (tag : Tag) :
    claimed.lookup tag = (if tag ∈ tags then some id else owners.lookup tag) ∧
      (tag ∈ tags → ∀ other, owners.lookup tag = some other → other = id) := by
  induction tags generalizing owners with
  | nil =>
    cases h
    simp
  | cons u tags ih =>
    simp only [claim] at h
    split at h
    · rename_i other hother
      split at h
      · rename_i heq
        obtain rfl := beq_iff_eq.1 heq
        obtain ⟨hlookup, hothers⟩ := ih h
        by_cases htag : tag = u
        · subst htag
          refine ⟨?_, ?_⟩
          · rw [hlookup, if_pos List.mem_cons_self, hother]
            split <;> rfl
          · intro _ o ho
            exact Option.some.inj (ho.symm.trans hother)
        · simpa [htag] using And.intro hlookup hothers
      · cases h
    · rename_i hnone
      obtain ⟨hlookup, hothers⟩ := ih h
      rw [List.lookup_append] at hlookup hothers
      by_cases htag : tag = u
      · subst htag
        refine ⟨?_, ?_⟩
        · simp [hlookup, hnone]
        · intro _ o ho
          rw [hnone] at ho
          cases ho
      · have hskip : List.lookup tag [(u, id)] = none := by
          simp [List.lookup_cons, beq_false_of_ne htag]
        simp only [hskip, Option.or_none] at hlookup hothers
        simpa [htag] using And.intro hlookup hothers

theorem ownersOf_spec (h : ownersOf ds owners = .ok claimed) (tag : Tag) (owner : String) :
    claimed.lookup tag = some owner ↔
      (∃ d ∈ ds, d.id = owner ∧ tag ∈ d.exclusive) ∨ owners.lookup tag = some owner := by
  induction ds generalizing owners with
  | nil =>
    cases h
    simp
  | cons d ds ih =>
    cases hclaim : claim d.id d.exclusive owners with
    | error err =>
      rw [ownersOf, hclaim] at h
      cases h
    | ok next =>
      rw [ownersOf, hclaim] at h
      obtain ⟨hnext, hothers⟩ := claim_spec hclaim tag
      rw [ih h, hnext]
      by_cases htag : tag ∈ d.exclusive
      · -- Whoever owned the tag before was this very agent.
        have hsame : owners.lookup tag = some owner → d.id = owner := fun ho =>
          (hothers htag owner ho).symm
        simp only [htag, if_true, Option.some.injEq, List.mem_cons, exists_eq_or_imp, and_true]
        constructor
        · rintro (hlater | hthis)
          · exact .inl (.inr hlater)
          · exact .inl (.inl hthis)
        · rintro ((hthis | hlater) | hbefore)
          · exact .inr hthis
          · exact .inl hlater
          · exact .inr (hsame hbefore)
      · simp [htag]

/-- No tag is listed twice among the owners. -/
theorem claim_nodup (h : claim id tags owners = .ok claimed) (hnodup : (owners.map (·.1)).Nodup) :
    (claimed.map (·.1)).Nodup := by
  induction tags generalizing owners with
  | nil =>
    cases h
    exact hnodup
  | cons u tags ih =>
    simp only [claim] at h
    split at h
    · split at h
      · exact ih h hnodup
      · cases h
    · rename_i hnone
      refine ih h ?_
      have hnew : u ∉ owners.map (·.1) := by
        intro hu
        obtain ⟨owner, howner, rfl⟩ := List.mem_map.1 hu
        have := List.lookup_eq_none_iff.1 hnone owner howner
        simp at this
      rw [List.map_append, List.map_singleton, List.nodup_append_comm]
      exact List.nodup_cons.2 ⟨hnew, hnodup⟩

theorem ownersOf_nodup (h : ownersOf ds owners = .ok claimed) (hnodup : (owners.map (·.1)).Nodup) :
    (claimed.map (·.1)).Nodup := by
  induction ds generalizing owners with
  | nil =>
    cases h
    exact hnodup
  | cons d ds ih =>
    cases hclaim : claim d.id d.exclusive owners with
    | error err =>
      rw [ownersOf, hclaim] at h
      cases h
    | ok next =>
      rw [ownersOf, hclaim] at h
      exact ih h (claim_nodup hclaim hnodup)

/-- A claim fails at a tag that someone else owns, and succeeds up to there. -/
theorem claim_error_split {err : GovernanceError} (h : claim id tags owners = .error err) :
    ∃ before tag after other, tags = before ++ tag :: after ∧
      (∃ claimed, claim id before owners = .ok claimed) ∧ owners.lookup tag = some other ∧
      other ≠ id ∧ err = .descriptorConflict tag other id := by
  induction tags generalizing owners with
  | nil => cases h
  | cons u tags ih =>
    simp only [claim] at h
    split at h
    · rename_i owner howner
      split at h
      · rename_i heq
        obtain ⟨before, tag, after, other, rfl, ⟨claimed, hclaim⟩, hrest⟩ := ih h
        refine ⟨u :: before, tag, after, other, rfl, ⟨claimed, ?_⟩, hrest⟩
        simpa only [claim, howner, if_pos heq] using hclaim
      · rename_i hne
        cases h
        exact ⟨[], u, tags, owner, rfl, ⟨owners, rfl⟩, howner,
          fun heq => hne (beq_iff_eq.2 heq), rfl⟩
    · rename_i hnone
      obtain ⟨before, tag, after, other, rfl, ⟨claimed, hclaim⟩, hother, hne, herr⟩ := ih h
      refine ⟨u :: before, tag, after, other, rfl, ⟨claimed, ?_⟩, ?_, hne, herr⟩
      · simpa only [claim, hnone] using hclaim
      -- The entry that was added belongs to the claimant, so it is not the one that was found.
      · rw [List.lookup_append, Option.or_eq_some_iff] at hother
        rcases hother with hother | ⟨-, hadded⟩
        · exact hother
        · rw [List.lookup_cons] at hadded
          split at hadded
          · exact absurd (Option.some.inj hadded).symm hne
          · cases hadded

/-- The owners cannot be told because of one descriptor; up to there they can. -/
theorem ownersOf_error_split {err : GovernanceError} (h : ownersOf ds owners = .error err) :
    ∃ before d after claimed, ds = before ++ d :: after ∧ ownersOf before owners = .ok claimed ∧
      claim d.id d.exclusive claimed = .error err := by
  induction ds generalizing owners with
  | nil => cases h
  | cons e ds ih =>
    cases hclaim : claim e.id e.exclusive owners with
    | error err' =>
      rw [ownersOf, hclaim] at h
      cases h
      exact ⟨[], e, ds, owners, rfl, rfl, hclaim⟩
    | ok next =>
      rw [ownersOf, hclaim] at h
      obtain ⟨before, d, after, claimed, rfl, howners, herr⟩ := ih h
      refine ⟨e :: before, d, after, claimed, rfl, ?_, herr⟩
      rw [ownersOf, hclaim]
      exact howners

theorem ownersOf_error {err : GovernanceError} (h : ownersOf ds owners = .error err) :
    ∃ d ∈ ds, ∃ tag ∈ d.exclusive, ∃ other, other ≠ d.id ∧
      err = .descriptorConflict tag other d.id ∧
      ((∃ c ∈ ds, c.id = other ∧ tag ∈ c.exclusive) ∨ owners.lookup tag = some other) := by
  obtain ⟨before, d, after, claimed, rfl, howners, hclaim⟩ := ownersOf_error_split h
  obtain ⟨_, tag, _, other, htags, -, hother, hne, herr⟩ := claim_error_split hclaim
  refine ⟨d, by simp, tag, by simp [htags], other, hne, herr, ?_⟩
  refine ((ownersOf_spec howners tag other).1 hother).imp_left ?_
  rintro ⟨c, hc, hclaims⟩
  exact ⟨c, List.mem_append_left _ hc, hclaims⟩

end Owners

/-! ## Building -/

theorem build_spec (h : build ds = .ok index) :
    index.descriptors = sortById ds ∧ ownersOf (sortById ds) [] = .ok index.owners := by
  cases howners : ownersOf (sortById ds) [] with
  | error err =>
    rw [build, howners] at h
    cases h
  | ok owners =>
    rw [build, howners] at h
    cases h
    exact ⟨rfl, rfl⟩

theorem build_wellFormed (h : build ds = .ok index) : index.WellFormed where
  sorted := (build_spec h).1 ▸ sortById_sorted ds
  owner_iff tag owner := by
    obtain ⟨hds, howners⟩ := build_spec h
    rw [ownersOf_spec howners, hds]
    simp

/-- Building fails for a conflict only. -/
theorem build_error {err : GovernanceError} (h : build ds = .error err) : Conflict ds err := by
  cases howners : ownersOf (sortById ds) [] with
  | ok owners =>
    rw [build, howners] at h
    cases h
  | error err' =>
    rw [build, howners] at h
    cases h
    obtain ⟨d, hd, tag, htag, other, hne, herr, ⟨c, hc, rfl, hctag⟩ | hnone⟩ :=
      ownersOf_error howners
    · exact ⟨c, d, tag, mem_sortById_iff.1 hc, mem_sortById_iff.1 hd, hne, hctag, htag, herr⟩
    · cases hnone

theorem mem_descriptors_iff (h : build ds = .ok index) : d ∈ index.descriptors ↔ Counts ds d := by
  rw [(build_spec h).1, mem_sortById_iff]

/-- A tag is exclusive to one descriptor. -/
theorem WellFormed.eq_of_exclusive (hw : index.WellFormed) {tag : Tag} (hd : d ∈ index.descriptors)
    (he : e ∈ index.descriptors) (hdtag : tag ∈ d.exclusive) (hetag : tag ∈ e.exclusive) : d = e := by
  have hdowner := (hw.owner_iff tag d.id).2 ⟨d, hd, rfl, hdtag⟩
  have heowner := (hw.owner_iff tag e.id).2 ⟨e, he, rfl, hetag⟩
  exact hw.sorted.eq_of_id_eq hd he (Option.some.inj (hdowner.symm.trans heowner))

/-! ## Questions -/

theorem lookup_exclusiveMap (h : build ds = .ok index) (tag : Tag) :
    index.exclusiveMap.lookup tag = index.owners.lookup tag := by
  have hnodup := ownersOf_nodup (build_spec h).2 List.nodup_nil
  simp [exclusiveMap, Json.lookup_foldl_insertField hnodup]

theorem mem_owners_iff (h : build ds = .ok index) {tag : Tag} {owner : String} :
    (tag, owner) ∈ index.owners ↔ ∃ d ∈ index.descriptors, d.id = owner ∧ tag ∈ d.exclusive := by
  have hnodup := ownersOf_nodup (build_spec h).2 List.nodup_nil
  rw [← (build_wellFormed h).owner_iff]
  constructor
  · exact Json.lookup_eq_some_of_mem hnodup
  · intro hlookup
    obtain ⟨before, after, howners, -⟩ := List.lookup_eq_some_iff.1 hlookup
    simp [howners]

@[simp] theorem find?_trim (id : String) : index.find? (Text.trim id) = index.find? id := by
  simp [find?]

theorem find?_isSome_iff (id : String) : (index.find? id).isSome ↔ Text.trim id ∈ index.ids := by
  simp [find?, ids, List.find?_isSome]

theorem find?_eq_none_iff (id : String) : index.find? id = none ↔ Text.trim id ∉ index.ids := by
  rw [← find?_isSome_iff, Option.not_isSome_iff_eq_none]

theorem contains_iff (id : String) : index.contains id = true ↔ Text.trim id ∈ index.ids :=
  find?_isSome_iff id

theorem mem_of_find? {id : String} (h : index.find? id = some d) :
    d ∈ index.descriptors ∧ d.id = Text.trim id :=
  ⟨List.mem_of_find?_eq_some h, by simpa using List.find?_some h⟩

/-- Every descriptor is found by its id. -/
theorem WellFormed.find?_eq_some (hw : index.WellFormed) {id : String} (hd : d ∈ index.descriptors)
    (hid : d.id = Text.trim id) : index.find? id = some d := by
  have hknown : (index.find? id).isSome :=
    (find?_isSome_iff id).2 (hid ▸ List.mem_map_of_mem hd)
  obtain ⟨e, hfound⟩ := Option.isSome_iff_exists.1 hknown
  obtain ⟨he, heid⟩ := mem_of_find? hfound
  rw [hfound, hw.sorted.eq_of_id_eq hd he (hid.trans heid.symm)]

end AgentGovernance.DescriptorIndex
