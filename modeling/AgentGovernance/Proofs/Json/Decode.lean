-- SUMMARY: Typed values that were written as JSON are read as themselves.
import AgentGovernance.Json.Decode
import AgentGovernance.Proofs.Json.Fields
import AgentGovernance.Proofs.Json.Text
import Mathlib.Data.List.Basic

/-!
# Reading what was written

Options and lists are read as themselves if their elements are. A record is written as an object in
which no name stands twice. Main statement: whatever else such an object holds, reading it as a
record finds under each name what stands there.
-/

namespace AgentGovernance.Json

/-! ## Plain values -/

theorem plain_nat {d n : Nat} (h : n < 2 ^ 64) : Plain d (.nat n) := .integer (by omega) (by omega)

theorem plain_optional {α : Type} {encode : α → Json} {d : Nat} {o : Option α}
    (h : ∀ a ∈ o, Plain d (encode a)) : Plain d (optional encode o) := by
  cases o with
  | none => exact .null
  | some a => exact h a rfl

theorem plain_list {α : Type} {encode : α → Json} {d : Nat} {xs : List α}
    (h : ∀ x ∈ xs, Plain d (encode x)) : Plain (d + 1) (list encode xs) := by
  refine .array fun j hj => ?_
  obtain ⟨x, hx, rfl⟩ := List.mem_map.1 hj
  exact h x hx

theorem plain_fieldIfSome {α : Type} {name : String} {encode : α → Json} {d : Nat} {o : Option α}
    (h : ∀ a ∈ o, Plain d (encode a)) : ∀ field ∈ fieldIfSome name encode o, Plain d field.2 := by
  cases o with
  | none => exact nofun
  | some a => simpa [fieldIfSome] using h a rfl

/-! ## Numbers, options and lists -/

theorem asNatBelow?_nat {n bound : Nat} (h : n < bound) : asNatBelow? bound (.nat n) = some n := by
  simp [asNatBelow?, nat, h]

theorem asOption?_optional {α : Type} {encode : α → Json} {decode : Json → Option α} {o : Option α}
    (h : ∀ a ∈ o, decode (encode a) = some a) (hnull : ∀ a, encode a ≠ .null) :
    asOption? decode (optional encode o) = some o := by
  cases o with
  | none => rfl
  | some a =>
    rw [optional, asOption?, h a rfl]
    · rfl
    · exact hnull a

theorem asList?_list {α : Type} {encode : α → Json} {decode : Json → Option α} {xs : List α}
    (h : ∀ x ∈ xs, decode (encode x) = some x) : asList? decode (list encode xs) = some xs := by
  rw [list, asList?]
  induction xs with
  | nil => rfl
  | cons x xs ih =>
    obtain ⟨hx, hxs⟩ := List.forall_mem_cons.1 h
    rw [List.map_cons, List.mapM_cons, hx, ih hxs]
    rfl

/-- Fields with any names are read as themselves if they are sorted. -/
theorem asSortedFields?_object {α : Type} {encode : α → Json} {decode : Json → Option α}
    {fields : List (String × α)} (hsorted : SortedByName fields)
    (h : ∀ field ∈ fields, decode (encode field.2) = some field.2) :
    asSortedFields? decode (.object (fields.map fun (name, a) => (name, encode a))) =
      some fields := by
  have hvalues : (fields.map fun field => (field.1, encode field.2)).mapM
      (fun field => do return (field.1, ← decode field.2)) = some fields := by
    clear hsorted
    induction fields with
    | nil => rfl
    | cons field fields ih =>
      obtain ⟨hfield, hfields⟩ := List.forall_mem_cons.1 h
      rw [List.map_cons, List.mapM_cons, ih hfields]
      simp [hfield]
  unfold asSortedFields?
  refine Option.bind_eq_some_iff.2 ⟨fields, hvalues, ?_⟩
  exact congrArg some (foldl_insertField_of_sorted hsorted)

/-! ## Records -/

/-- Putting a value under a name that has none yet. -/
theorem Record.put_spec (name : String) (value : Json) {values : List (String × Option Json)}
    (h : ∀ old, values.lookup name ≠ some (some old)) :
    ∃ values', Record.put name value values = some values' ∧
      ∀ n, values'.lookup n =
        if n = name then (values.lookup n).map fun _ => some value else values.lookup n := by
  induction values with
  | nil => exact ⟨[], rfl, by simp⟩
  | cons entry rest ih =>
    obtain ⟨k, old⟩ := entry
    by_cases hk : k = name
    · subst hk
      cases old with
      | some old => exact absurd List.lookup_cons_self (h old)
      | none =>
        refine ⟨(k, some value) :: rest, by simp [Record.put], fun n => ?_⟩
        by_cases hn : n = k
        · simp [hn]
        · simp [List.lookup_cons, hn, beq_false_of_ne hn]
    · have hrest : ∀ old, rest.lookup name ≠ some (some old) := by
        intro old hold
        refine h old ?_
        rw [List.lookup_cons, beq_false_of_ne (Ne.symm hk)]
        exact hold
      obtain ⟨values', hput, hlookup⟩ := ih hrest
      refine ⟨(k, old) :: values', by simp [Record.put, hk, hput], fun n => ?_⟩
      by_cases hn : n = k
      · simp [hn, hk]
      · simp [List.lookup_cons, beq_false_of_ne hn, hlookup]

theorem lookup_foldlM_put {fields : List (String × Json)} (hfields : (fields.map (·.1)).Nodup)
    {values : List (String × Option Json)}
    (h : ∀ n ∈ fields.map (·.1), ∀ old, values.lookup n ≠ some (some old)) :
    ∃ values', fields.foldlM (fun acc (k, v) => Record.put k v acc) values = some values' ∧
      ∀ n, values'.lookup n = (values.lookup n).map fun old => (fields.lookup n).or old := by
  induction fields generalizing values with
  | nil => exact ⟨values, rfl, by simp⟩
  | cons field fields ih =>
    obtain ⟨k, v⟩ := field
    rw [List.map_cons, List.nodup_cons] at hfields
    obtain ⟨hfresh, hfields⟩ := hfields
    obtain ⟨next, hput, hnext⟩ := Record.put_spec k v (h k List.mem_cons_self)
    have hothers : ∀ n ∈ fields.map (·.1), ∀ old, next.lookup n ≠ some (some old) := by
      intro n hn old
      have hne : n ≠ k := ne_of_mem_of_not_mem hn hfresh
      rw [hnext, if_neg hne]
      exact h n (List.mem_cons_of_mem _ hn) old
    obtain ⟨values', hfold, hlookup⟩ := ih hfields hothers
    refine ⟨values', by simp [hput, hfold], fun n => ?_⟩
    rw [hlookup, hnext]
    by_cases hn : n = k
    · subst hn
      have hnone : fields.lookup n = none := by
        rw [List.lookup_eq_none_iff]
        intro field hfield
        exact bne_iff_ne.2 (ne_of_mem_of_not_mem (List.mem_map_of_mem hfield) hfresh).symm
      simp [hnone, Function.comp_def]
    · simp [hn, List.lookup_cons, beq_false_of_ne hn]

/-- A record that is read from an object finds what the object holds. -/
theorem asRecord?_object (names : List String) (fields : List (String × Json))
    (h : (fields.map (·.1)).Nodup) :
    ∃ r, asRecord? names (.object fields) = some r ∧ r.positional = false ∧
      ∀ n ∈ names, r.value? n = fields.lookup n := by
  have hstart (n : String) : (names.map fun n => (n, (none : Option Json))).lookup n =
      if n ∈ names then some none else none := by
    split
    · rename_i hn
      exact List.lookup_graph (fun _ => none) hn
    · rename_i hn
      simp only [List.lookup_eq_none_iff, List.mem_map]
      rintro _ ⟨m, hm, rfl⟩
      exact bne_iff_ne.2 (ne_of_mem_of_not_mem hm hn).symm
  have hempty : ∀ n ∈ fields.map (·.1), ∀ old,
      (names.map fun n => (n, (none : Option Json))).lookup n ≠ some (some old) := by
    intro n _ old
    rw [hstart]
    split <;> simp
  obtain ⟨values, hfold, hlookup⟩ := lookup_foldlM_put h hempty
  refine ⟨{ values, positional := false }, by simp [asRecord?, hfold], rfl, fun n hn => ?_⟩
  simp [Record.value?, hlookup, hstart, hn]

/-- A field that the object holds is read by its decoder. -/
theorem Record.required_of_mem {α : Type} {decode : Json → Option α} {r : Record} {a : α}
    {fields : List (String × Json)} {n : String} {j : Json} (h : (fields.map (·.1)).Nodup)
    (hvalue : r.value? n = fields.lookup n) (hmem : (n, j) ∈ fields) (hdecode : decode j = some a) :
    r.required n decode = some a := by
  rw [required, hvalue, lookup_eq_some_of_mem h hmem]
  exact hdecode

theorem lookup_fieldIfSome {α : Type} (name : String) (encode : α → Json) (o : Option α)
    (n : String) :
    (fieldIfSome name encode o).lookup n = if n = name then o.map encode else none := by
  cases o with
  | none => simp [fieldIfSome]
  | some a =>
    by_cases h : n = name
    · simp [fieldIfSome, h]
    · simp [fieldIfSome, List.lookup_cons, h, beq_false_of_ne h]

/-- A field that is left out when there is no value reads as the value or as nothing. -/
theorem Record.optional_of_value? {α : Type} {r : Record} {name : String}
    {decode : Json → Option α} {o : Option α} (encode : α → Json) (hvalue : r.value? name = o.map encode)
    (h : ∀ a ∈ o, decode (encode a) = some a) (hnull : ∀ a, encode a ≠ .null) :
    r.optional name decode = some o := by
  unfold Record.optional Record.withDefault
  rw [hvalue]
  cases o with
  | none => rfl
  | some a => exact asOption?_optional h hnull

/-! ## What was decoded -/

/-- What is read as an entry of a list is read from one of its items. -/
theorem exists_of_mem_asList? {α : Type} {decode : Json → Option α} {j : Json} {xs : List α} {a : α}
    (h : asList? decode j = some xs) (ha : a ∈ xs) : ∃ i, decode i = some a := by
  unfold asList? at h
  split at h
  · rename_i items
    induction items generalizing xs with
    | nil =>
      cases h
      cases ha
    | cons i items ih =>
      rw [List.mapM_cons] at h
      obtain ⟨b, hb, h⟩ := Option.bind_eq_some_iff.1 h
      obtain ⟨bs, hbs, h⟩ := Option.bind_eq_some_iff.1 h
      cases h
      rcases List.mem_cons.1 ha with rfl | hrest
      · exact ⟨i, hb⟩
      · exact ih hrest hbs
  · cases h

/-- What is read as an optional field is read from its value. -/
theorem Record.exists_of_optional {α : Type} {decode : Json → Option α} {r : Record} {name : String}
    {a : α} (h : r.optional name decode = some (some a)) : ∃ j, decode j = some a := by
  unfold optional withDefault at h
  split at h
  · rename_i j _
    unfold asOption? at h
    split at h
    · cases h
    · obtain ⟨b, hb, heq⟩ := Option.map_eq_some_iff.1 h
      cases heq
      exact ⟨j, hb⟩
  · cases h

end AgentGovernance.Json
