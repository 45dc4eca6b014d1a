-- SUMMARY: Fields sorted by name: what is found after one field was put in, and after many.
import AgentGovernance.Json.Basic
import Mathlib.Data.List.Nodup
import Mathlib.Data.List.Sort
import Mathlib.Data.String.Basic

/-!
# Fields sorted by name

Putting a field in changes what is found under its name and nothing else. So fields that are put in
one after another are all found, as long as no two of them have the same name. They end up sorted,
and it does not matter in which order they were put in.
-/

namespace AgentGovernance.Json

variable {α : Type}

private theorem lookup_cons_eq_ite (name key : String) (value : α) (fields : List (String × α)) :
    ((name, value) :: fields).lookup key =
      if key = name then some value else fields.lookup key := by
  by_cases hkey : key = name
  · simp [hkey]
  · simp [List.lookup_cons, hkey, beq_false_of_ne hkey]

theorem lookup_insertField (name : String) (value : α) (fields : List (String × α)) (key : String) :
    (insertField name value fields).lookup key =
      if key = name then some value else fields.lookup key := by
  induction fields with
  | nil => simp only [insertField, lookup_cons_eq_ite, List.lookup_nil]
  | cons field fields ih =>
    obtain ⟨k, v⟩ := field
    simp only [insertField]
    split
    · exact lookup_cons_eq_ite name key value _
    · split
      · rename_i hname
        obtain rfl := beq_iff_eq.1 hname
        simp only [lookup_cons_eq_ite]
        split <;> rfl
      · rename_i hname
        rw [lookup_cons_eq_ite, ih, lookup_cons_eq_ite]
        by_cases hkey : key = name
        · subst hkey
          have hne : key ≠ k := fun heq => hname (beq_iff_eq.2 heq)
          simp [hne]
        · simp [hkey]

/-- Fields with different names are found after they were put in one after another. -/
theorem lookup_foldl_insertField {fields : List (String × α)} (hnames : (fields.map (·.1)).Nodup)
    (done : List (String × α)) (key : String) :
    (fields.foldl (fun done (name, value) => insertField name value done) done).lookup key =
      (fields.lookup key).or (done.lookup key) := by
  induction fields generalizing done with
  | nil => simp
  | cons field fields ih =>
    obtain ⟨name, value⟩ := field
    obtain ⟨hnew, hnames⟩ := List.nodup_cons.1 hnames
    rw [List.foldl_cons, ih hnames, lookup_insertField, lookup_cons_eq_ite]
    by_cases hkey : key = name
    · -- The name does not come again, so it is this field that is found.
      have hlater : fields.lookup key = none := by
        rw [List.lookup_eq_none_iff]
        intro field hfield
        have hne : key ≠ field.1 := by
          rintro rfl
          exact hnew (hkey ▸ List.mem_map.2 ⟨field, hfield, rfl⟩)
        simpa using hne
      simp [hkey, hkey ▸ hlater]
    · simp [hkey]

/-- Where no name comes twice, every field is found under its name. -/
theorem lookup_eq_some_of_mem {fields : List (String × α)} (hnames : (fields.map (·.1)).Nodup)
    {name : String} {value : α} (h : (name, value) ∈ fields) : fields.lookup name = some value := by
  induction fields with
  | nil => cases h
  | cons field fields ih =>
    obtain ⟨k, v⟩ := field
    obtain ⟨hfirst, hnames⟩ := List.nodup_cons.1 hnames
    rw [lookup_cons_eq_ite]
    rcases List.mem_cons.1 h with heq | hlater
    · cases heq
      exact if_pos rfl
    · have hne : name ≠ k := by
        rintro rfl
        exact hfirst (List.mem_map.2 ⟨_, hlater, rfl⟩)
      rw [if_neg hne]
      exact ih hnames hlater

/-! ## Sorted fields -/

/-- The fields are sorted by name, and no name comes twice. -/
def SortedByName (fields : List (String × α)) : Prop :=
  fields.Pairwise fun a b => a.1 < b.1

theorem mem_of_mem_insertField {name : String} {value : α} {field : String × α}
    {fields : List (String × α)} (h : field ∈ insertField name value fields) :
    field = (name, value) ∨ field ∈ fields := by
  induction fields with
  | nil => exact .inl (List.mem_singleton.1 h)
  | cons first fields ih =>
    obtain ⟨k, v⟩ := first
    simp only [insertField] at h
    split at h
    · exact List.mem_cons.1 h
    · split at h
      · rcases List.mem_cons.1 h with hnew | hold
        · exact .inl hnew
        · exact .inr (List.mem_cons_of_mem _ hold)
      · rcases List.mem_cons.1 h with hfirst | hlater
        · exact .inr (hfirst ▸ List.mem_cons_self)
        · exact (ih hlater).imp id (List.mem_cons_of_mem _)

theorem insertField_sorted {fields : List (String × α)} (h : SortedByName fields) (name : String)
    (value : α) : SortedByName (insertField name value fields) := by
  induction fields with
  | nil => exact List.pairwise_singleton _ _
  | cons first fields ih =>
    obtain ⟨k, v⟩ := first
    obtain ⟨hfirst, hrest⟩ := List.pairwise_cons.1 h
    simp only [insertField]
    split
    · rename_i hlt
      refine List.pairwise_cons.2 ⟨?_, h⟩
      intro field hfield
      rcases List.mem_cons.1 hfield with rfl | hlater
      · exact hlt
      · exact lt_trans hlt (hfirst field hlater)
    · rename_i hge
      split
      · rename_i heq
        obtain rfl := beq_iff_eq.1 heq
        exact List.pairwise_cons.2 ⟨hfirst, hrest⟩
      · rename_i hne
        refine List.pairwise_cons.2 ⟨?_, ih hrest⟩
        intro field hfield
        rcases mem_of_mem_insertField hfield with rfl | hlater
        · exact lt_of_le_of_ne (not_lt.1 hge) fun heq => hne (beq_iff_eq.2 heq.symm)
        · exact hfirst field hlater

/-- A field with a new name is put in and nothing is taken out. -/
theorem insertField_perm {name : String} {fields : List (String × α)}
    (hnew : name ∉ fields.map (·.1)) (value : α) :
    (insertField name value fields).Perm ((name, value) :: fields) := by
  induction fields with
  | nil => exact .refl _
  | cons first fields ih =>
    obtain ⟨k, v⟩ := first
    obtain ⟨hne, hnew⟩ := not_or.1 (mt List.mem_cons.2 hnew)
    simp only [insertField]
    split
    · exact .refl _
    · rw [if_neg (mt beq_iff_eq.1 hne)]
      exact ((ih hnew).cons (k, v)).trans (.swap ..)

section Many

variable {fields fields' : List (String × α)}

theorem foldl_insertField_sorted (fields : List (String × α)) {done : List (String × α)}
    (h : SortedByName done) :
    SortedByName (fields.foldl (fun done (name, value) => insertField name value done) done) := by
  induction fields generalizing done with
  | nil => exact h
  | cons field fields ih => exact ih (insertField_sorted h field.1 field.2)

theorem foldl_insertField_perm (fields done : List (String × α))
    (hnames : ((fields ++ done).map (·.1)).Nodup) :
    (fields.foldl (fun done (name, value) => insertField name value done) done).Perm
      (fields ++ done) := by
  induction fields generalizing done with
  | nil => exact .refl _
  | cons field fields ih =>
    rw [List.cons_append, List.map_cons, List.nodup_cons, List.map_append] at hnames
    have hnew : field.1 ∉ done.map (·.1) := fun hmem => hnames.1 (List.mem_append_right _ hmem)
    have hone := insertField_perm hnew field.2
    have hall : (fields ++ insertField field.1 field.2 done).Perm (field :: (fields ++ done)) :=
      (hone.append_left fields).trans List.perm_middle
    have hnodup : ((fields ++ insertField field.1 field.2 done).map (·.1)).Nodup :=
      (hall.map _).nodup_iff.2 (by simpa using hnames)
    exact (ih _ hnodup).trans hall

theorem eq_of_sortedByName_of_perm (hfields : SortedByName fields) (hfields' : SortedByName fields')
    (h : fields.Perm fields') : fields = fields' := by
  refine List.Perm.eq_of_pairwise ?_ hfields hfields' h
  intro a b _ _ hab hba
  exact absurd hba (lt_asymm hab)

/-- Fields with different names end up the same in whatever order they are put in. -/
theorem foldl_insertField_eq_of_perm (hnames : (fields.map (·.1)).Nodup) (h : fields.Perm fields') :
    fields.foldl (fun done (name, value) => insertField name value done) [] =
      fields'.foldl (fun done (name, value) => insertField name value done) [] := by
  have hnames' : (fields'.map (·.1)).Nodup := (h.map _).nodup_iff.1 hnames
  have hperm := foldl_insertField_perm fields [] (by simpa using hnames)
  have hperm' := foldl_insertField_perm fields' [] (by simpa using hnames')
  rw [List.append_nil] at hperm hperm'
  exact eq_of_sortedByName_of_perm (foldl_insertField_sorted fields .nil)
    (foldl_insertField_sorted fields' .nil) (hperm.trans (h.trans hperm'.symm))

/-- Sorted fields are in order already. -/
theorem foldl_insertField_of_sorted (h : SortedByName fields) :
    fields.foldl (fun done (name, value) => insertField name value done) [] = fields := by
  have hnames : (fields.map (·.1)).Nodup := List.pairwise_map.2 (h.imp ne_of_lt)
  have hperm := foldl_insertField_perm fields [] (by simpa using hnames)
  rw [List.append_nil] at hperm
  exact eq_of_sortedByName_of_perm (foldl_insertField_sorted fields .nil) h hperm

end Many

end AgentGovernance.Json
