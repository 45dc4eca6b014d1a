-- SUMMARY: The indented text of a JSON value reads as that value.
import AgentGovernance.Json.Reader
import AgentGovernance.Proofs.Number.Digits
import Mathlib.Algebra.Group.Int.Defs

/-!
# Texts that read as what was written

A value is plain if it holds neither decimals nor broken parts, its integers are in range and it is
not nested too deep. Main statement: the indented text of a plain value reads as that value.
-/

namespace AgentGovernance.Json

/-- Values that nest at most so deep, without decimals and broken parts, and whose integers are in
range. -/
inductive Plain : Nat → Json → Prop
  | null {d : Nat} : Plain d .null
  | bool {d : Nat} (b : Bool) : Plain d (.bool b)
  | integer {d : Nat} {i : Int} (hlow : -(2 ^ 63) ≤ i) (hhigh : i < 2 ^ 64) : Plain d (.integer i)
  | string {d : Nat} (s : String) : Plain d (.string s)
  | array {d : Nat} {items : List Json} (h : ∀ j ∈ items, Plain d j) : Plain (d + 1) (.array items)
  | object {d : Nat} {fields : List (String × Json)} (h : ∀ f ∈ fields, Plain d f.2) :
    Plain (d + 1) (.object fields)

/-! ## Strings -/

theorem hexValue?_hexDigit : ∀ n < 16, hexValue? (hexDigit n) = some n := by decide

theorem stringUnit_short {c e : Char} (h : simpleEscape? e = some c) (cs : List Char) :
    stringUnit ('\\' :: e :: cs) = some (.char c, cs) := by
  have hunit : e ≠ 'u' := by
    rintro rfl
    cases h
  simp [stringUnit, hunit, h]

theorem stringUnit_hex {c : Char} (h : c.toNat < 0x20) (cs : List Char) :
    stringUnit ('\\' :: 'u' :: '0' :: '0' :: hexDigit (c.toNat / 16) :: hexDigit (c.toNat % 16) ::
      cs) = some (.char c, cs) := by
  have hzero : hexValue? '0' = some 0 := rfl
  have hvalue : c.toNat / 16 * 16 + c.toNat % 16 = c.toNat := by omega
  have hsurrogate : ¬ 0xD800 ≤ c.toNat := by omega
  simp [stringUnit, hexUnit?, hexValue?_hexDigit (c.toNat / 16) (by omega),
    hexValue?_hexDigit (c.toNat % 16) (by omega), hzero, hvalue, hsurrogate]

theorem stringUnit_self {c : Char} (hslash : c ≠ '\\') (hcontrol : ¬ c.toNat < 0x20)
    (cs : List Char) : stringUnit (c :: cs) = some (.char c, cs) := by
  unfold stringUnit
  split <;> simp_all

/-- A character in its escaped form is one unit, and it does not end the string. -/
theorem stringUnit_escapeChar (c : Char) (cs : List Char) :
    stringUnit (escapeChar c ++ cs) = some (.char c, cs) ∧
      (escapeChar c ++ cs).head? ≠ some '"' := by
  have hshort {e : Char} (h : simpleEscape? e = some c) :
      stringUnit (['\\', e] ++ cs) = some (.char c, cs) ∧ (['\\', e] ++ cs).head? ≠ some '"' :=
    ⟨stringUnit_short h cs, by simp⟩
  have hcode {n : Nat} (h : (c.toNat == n) = true) : Char.ofNat n = c := by
    rw [← beq_iff_eq.1 h, Char.ofNat_toNat]
  unfold escapeChar
  split
  · exact hshort (by simp_all [simpleEscape?])
  split
  · exact hshort (by simp_all [simpleEscape?])
  split
  · exact hshort (by simp_all [simpleEscape?])
  split
  · exact hshort (by simp_all [simpleEscape?])
  split
  · exact hshort (by simp_all [simpleEscape?])
  split
  · exact hshort (congrArg some (hcode ‹_›))
  split
  · exact hshort (congrArg some (hcode ‹_›))
  split
  · exact ⟨stringUnit_hex ‹_› cs, by simp⟩
  · refine ⟨stringUnit_self ?_ ‹_› cs, ?_⟩ <;> simp_all

theorem stringFrom_escapeChar (fuel : Nat) (done : List Char) (c : Char) (cs : List Char) :
    stringFrom (fuel + 1) none true done (escapeChar c ++ cs) =
      stringFrom fuel none true (c :: done) cs := by
  obtain ⟨hunit, hquote⟩ := stringUnit_escapeChar c cs
  generalize escapeChar c ++ cs = text at hunit hquote
  conv => lhs; unfold stringFrom
  split
  · simp at hquote
  · simp [hunit]

theorem stringFrom_flatMap {fuel : Nat} (s done rest : List Char) (h : s.length < fuel) :
    stringFrom fuel none true done (s.flatMap escapeChar ++ '"' :: rest) =
      some (some (String.ofList (done.reverse ++ s)), rest) := by
  induction s generalizing fuel done with
  | nil =>
    obtain ⟨fuel, rfl⟩ := Nat.exists_eq_add_one_of_ne_zero (Nat.ne_of_gt h)
    simp [stringFrom]
  | cons c s ih =>
    obtain ⟨fuel, rfl⟩ := Nat.exists_eq_add_one_of_ne_zero (Nat.ne_of_gt (Nat.zero_lt_of_lt h))
    rw [List.flatMap_cons, List.append_assoc, stringFrom_escapeChar,
      ih (c :: done) (Nat.lt_of_succ_lt_succ h)]
    simp

theorem escapeChar_ne_nil (c : Char) : escapeChar c ≠ [] := by
  unfold escapeChar
  repeat' split
  all_goals simp

theorem length_le_escaped (s : List Char) : s.length ≤ (s.flatMap escapeChar).length := by
  induction s with
  | nil => exact Nat.zero_le _
  | cons c s ih =>
    have hc := List.length_pos_iff.2 (escapeChar_ne_nil c)
    rw [List.flatMap_cons, List.length_append, List.length_cons]
    omega

/-- A string in quotes is read up to its closing quote. -/
theorem stringBody_quoted (s : String) (rest : List Char) :
    stringBody (s.toList.flatMap escapeChar ++ '"' :: rest) = some (some s, rest) := by
  unfold stringBody
  rw [stringFrom_flatMap _ _ _ ?_]
  · simp
  · have hlength := length_le_escaped s.toList
    rw [List.length_append]
    omega

/-! ## Numbers -/

/-- Nothing that follows belongs to a number: it is the end, a comma or a line break. -/
def Ended (rest : List Char) : Prop := ∀ c ∈ rest.head?, c = ',' ∨ c = '\n'

theorem integerPart_toDigits (n : Nat) {rest : List Char} (h : Ended rest) :
    integerPart (Nat.toDigits 10 n ++ rest) = some (Nat.toDigits 10 n, rest) := by
  have hspan : spanDigits (Nat.toDigits 10 n ++ rest) = (Nat.toDigits 10 n, rest) := by
    refine spanDigits_append (fun c hc => isDigit_of_mem_toDigits hc) ?_
    intro c hc
    rcases h c hc with rfl | rfl <;> rfl
  unfold integerPart
  rw [hspan]
  split
  · rename_i heq
    exact absurd (congrArg Prod.fst heq) Nat.toDigits_ne_nil
  · rename_i heq
    obtain ⟨hdigits, -⟩ := Prod.mk.inj heq
    by_cases hn : n = 0
    · rw [hn] at hdigits
      cases hdigits
    · exact absurd (congrArg List.head? hdigits) (head?_toDigits_ne_zero hn)
  · rename_i heq
    rw [← heq]

theorem fractionPart_of_ended {rest : List Char} (h : Ended rest) :
    fractionPart rest = some (none, rest) := by
  unfold fractionPart
  split
  · rcases h '.' rfl with h | h <;> cases h
  · rfl

theorem exponentPart_of_ended {rest : List Char} (h : Ended rest) :
    exponentPart rest = some (none, rest) := by
  unfold exponentPart
  split
  · rename_i c cs
    rcases h c rfl with rfl | rfl <;> rfl
  · rfl

theorem number_toDigits {n : Nat} (hn : n < 2 ^ 64) {rest : List Char} (h : Ended rest) :
    number (Nat.toDigits 10 n ++ rest) = some (.integer n, rest) := by
  have hsign : ∀ r, Nat.toDigits 10 n ++ rest ≠ '-' :: r := by
    intro r heq
    cases hdigits : Nat.toDigits 10 n with
    | nil => exact Nat.toDigits_ne_nil hdigits
    | cons c cs =>
      have hc : c.isDigit = true := isDigit_of_mem_toDigits (hdigits ▸ List.mem_cons_self)
      rw [hdigits, List.cons_append] at heq
      rw [(List.cons.inj heq).1] at hc
      cases hc
  unfold number
  split
  rename_i negative body hbody
  split at hbody
  · rename_i r heq
    exact absurd heq (hsign r)
  · obtain ⟨rfl, rfl⟩ := hbody
    have hin : n < Nat.pow 2 64 := hn
    simp [integerPart_toDigits n h, fractionPart_of_ended h, exponentPart_of_ended h, hin,
      -Nat.pow_eq]

theorem number_neg_toDigits {n : Nat} (hzero : 0 < n) (hn : n ≤ 2 ^ 63) {rest : List Char}
    (h : Ended rest) :
    number ('-' :: (Nat.toDigits 10 n ++ rest)) = some (.integer (-n), rest) := by
  have hin : n ≤ Nat.pow 2 63 := hn
  simp [number, integerPart_toDigits n h, fractionPart_of_ended h, exponentPart_of_ended h, hzero,
    hin, -Nat.pow_eq]

/-- The text of an integer, with a sign or without one. -/
theorem toList_toString_int (i : Int) :
    (toString i).toList =
      if 0 ≤ i then Nat.toDigits 10 i.toNat else '-' :: Nat.toDigits 10 (-i).toNat := by
  change i.repr.toList = _
  rw [Int.repr_eq_if]
  split
  · rw [Nat.repr_eq_ofList_toDigits, String.toList_ofList]
  · simp [Nat.repr_eq_ofList_toDigits]

theorem number_integer {i : Int} (hlow : -(2 ^ 63) ≤ i) (hhigh : i < 2 ^ 64) {rest : List Char}
    (h : Ended rest) : number ((toString i).toList ++ rest) = some (.integer i, rest) := by
  rw [toList_toString_int]
  split
  · rename_i hpos
    have hi : (i.toNat : Int) = i := Int.toNat_of_nonneg hpos
    rw [number_toDigits (by omega) h, hi]
  · rename_i hneg
    have hi : -((-i).toNat : Int) = i := by omega
    rw [List.cons_append, number_neg_toDigits (by omega) (by omega) h, hi]

/-! ## Values -/

theorem skipGap_cons {c : Char} (h : isGap c = false) (cs : List Char) :
    skipGap (c :: cs) = c :: cs := by
  simp [skipGap, h]

theorem skipGap_indentation (level : Nat) (cs : List Char) :
    skipGap (indentation level ++ cs) = skipGap cs := by
  have hgap : ∀ c ∈ indentation level, isGap c = true := by
    intro c hc
    rcases List.mem_cons.1 hc with rfl | hblank
    · rfl
    · rw [List.eq_of_mem_replicate hblank]
      rfl
  exact List.dropWhile_append_of_pos hgap

@[simp] theorem skipGap_skipGap (cs : List Char) : skipGap (skipGap cs) = skipGap cs := by
  induction cs with
  | nil => rfl
  | cons c cs ih => cases hgap : isGap c <;> simp_all [skipGap]

theorem valueFrom_skipGap (fuel depth : Nat) (cs : List Char) :
    valueFrom fuel depth (skipGap cs) = valueFrom fuel depth cs := by
  cases fuel with
  | zero => rfl
  | succ fuel => simp only [valueFrom, skipGap_skipGap]

theorem itemsFrom_skipGap (fuel depth : Nat) (cs : List Char) :
    itemsFrom fuel depth (skipGap cs) = itemsFrom fuel depth cs := by
  cases fuel with
  | zero => rfl
  | succ fuel => simp only [itemsFrom, valueFrom_skipGap]

theorem fieldsFrom_skipGap (fuel depth : Nat) (cs : List Char) :
    fieldsFrom fuel depth (skipGap cs) = fieldsFrom fuel depth cs := by
  cases fuel with
  | zero => rfl
  | succ fuel => simp only [fieldsFrom, skipGap_skipGap]

theorem valueFrom_indentation (fuel depth level : Nat) (cs : List Char) :
    valueFrom fuel depth (indentation level ++ cs) = valueFrom fuel depth cs := by
  rw [← valueFrom_skipGap, skipGap_indentation, valueFrom_skipGap]

/-- An integer starts with a digit or a minus sign. -/
theorem toString_int_cons (i : Int) :
    ∃ c cs, (toString i).toList = c :: cs ∧ (c.isDigit = true ∨ c = '-') := by
  rw [toList_toString_int]
  split
  · cases hdigits : Nat.toDigits 10 i.toNat with
    | nil => exact absurd hdigits Nat.toDigits_ne_nil
    | cons c cs => exact ⟨c, cs, rfl, .inl (isDigit_of_mem_toDigits (hdigits ▸ List.mem_cons_self))⟩
  · exact ⟨'-', _, rfl, .inr rfl⟩

/-- How the text of a value starts: with neither a gap nor a closing bracket. -/
def Starts (c : Char) : Prop := isGap c = false ∧ c ≠ ']'

theorem starts_of_isDigit {c : Char} (h : c.isDigit = true ∨ c = '-') : Starts c := by
  have hne {d : Char} (hd : d.isDigit = false ∧ d ≠ '-') : c ≠ d := by
    rintro rfl
    simp_all
  refine ⟨?_, hne (by decide)⟩
  simp [isGap, hne (d := ' ') (by decide), hne (d := '\n') (by decide),
    hne (d := '\t') (by decide), hne (d := '\r') (by decide)]

theorem starts_prettyChars {d : Nat} {j : Json} (h : Plain d j) (level : Nat) :
    ∃ c cs, prettyChars level j = c :: cs ∧ Starts c := by
  cases h with
  | null => exact ⟨'n', _, rfl, rfl, by decide⟩
  | bool b => cases b <;> exact ⟨_, _, rfl, rfl, by decide⟩
  | @integer _ i hlow hhigh =>
    obtain ⟨c, cs, htext, hc⟩ := toString_int_cons i
    exact ⟨c, cs, htext, starts_of_isDigit hc⟩
  | string s => exact ⟨'"', _, rfl, rfl, by decide⟩
  | @array _ items h => cases items <;> exact ⟨'[', _, rfl, rfl, by decide⟩
  | @object _ fields h => cases fields <;> exact ⟨'\x7b', _, rfl, rfl, by decide⟩

theorem valueFrom_number {c : Char} (h : c.isDigit = true ∨ c = '-') (fuel depth : Nat)
    (cs : List Char) : valueFrom (fuel + 1) depth (c :: cs) = number (c :: cs) := by
  have hne {d : Char} (hd : d.isDigit = false ∧ d ≠ '-') : c ≠ d := by
    rintro rfl
    simp_all
  rw [valueFrom, skipGap_cons (starts_of_isDigit h).1]
  split
  · rename_i heq
    cases heq
  all_goals first
    | rfl
    | rename_i heq
      exact absurd (List.cons.inj heq).1 (hne (by decide))

/-- With enough fuel, and not too deep inside other values, the text of the value reads as it. -/
def ReadsBack (d : Nat) (j : Json) : Prop :=
  ∀ fuel depth level rest, (prettyChars level j).length ≤ fuel → depth + d < depthLimit →
    Ended rest → valueFrom fuel depth (prettyChars level j ++ rest) = some (j, rest)

theorem ended_indentation (level : Nat) (cs : List Char) : Ended (indentation level ++ cs) := by
  rintro c ⟨⟩
  exact .inr rfl

theorem ended_comma (cs : List Char) : Ended (',' :: cs) := by
  rintro c ⟨⟩
  exact .inl rfl

theorem itemsFrom_prettyItems {d : Nat} {items : List Json} (hitems : items ≠ [])
    (h : ∀ j ∈ items, ReadsBack d j) (fuel : Nat) {depth level : Nat} {rest : List Char}
    (hfuel : (prettyItems level items).length ≤ fuel) (hdepth : depth + d < depthLimit) :
    itemsFrom fuel depth (prettyItems level items ++ rest) = some (items, rest) := by
  induction items generalizing fuel with
  | nil => exact absurd rfl hitems
  | cons j js ih =>
    obtain ⟨hj, hjs⟩ := List.forall_mem_cons.1 h
    cases js with
    | nil =>
      simp only [prettyItems, List.length_append, indentation, List.length_cons] at hfuel
      obtain ⟨fuel, rfl⟩ := Nat.exists_eq_add_one_of_ne_zero (n := fuel) (by omega)
      simp only [prettyItems, List.append_assoc, itemsFrom, valueFrom_indentation]
      rw [hj _ _ _ _ (by omega) hdepth (ended_indentation _ _)]
      simp [skipGap_indentation, skipGap_cons (c := ']') rfl]
    | cons k ks =>
      simp only [prettyItems, List.length_append, indentation, List.length_cons] at hfuel
      obtain ⟨fuel, rfl⟩ := Nat.exists_eq_add_one_of_ne_zero (n := fuel) (by omega)
      simp only [prettyItems, List.append_assoc, List.cons_append, itemsFrom,
        valueFrom_indentation]
      rw [hj _ _ _ _ (by omega) hdepth (ended_comma _)]
      simp [skipGap_cons (c := ',') rfl, ih (by simp) hjs fuel (by omega)]

theorem fieldsFrom_prettyFields {d : Nat} {fields : List (String × Json)} (hfields : fields ≠ [])
    (h : ∀ f ∈ fields, ReadsBack d f.2) (fuel : Nat) {depth level : Nat} {rest : List Char}
    (hfuel : (prettyFields level fields).length ≤ fuel) (hdepth : depth + d < depthLimit) :
    fieldsFrom fuel depth (prettyFields level fields ++ rest) = some (some fields, rest) := by
  induction fields generalizing fuel with
  | nil => exact absurd rfl hfields
  | cons f fs ih =>
    obtain ⟨k, v⟩ := f
    obtain ⟨hv, hfs⟩ := List.forall_mem_cons.1 h
    have hvalue (fuel : Nat) {cs : List Char} (hfuel : (prettyChars level v).length ≤ fuel)
        (hcs : Ended cs) :
        valueFrom fuel depth (' ' :: (prettyChars level v ++ cs)) = some (v, cs) := by
      rw [← hv _ _ _ _ hfuel hdepth hcs]
      cases fuel with
      | zero => rfl
      | succ fuel => rfl
    cases fs with
    | nil =>
      simp only [prettyFields, List.length_append, indentation, List.length_cons] at hfuel
      obtain ⟨fuel, rfl⟩ := Nat.exists_eq_add_one_of_ne_zero (n := fuel) (by omega)
      simp only [prettyFields, List.append_assoc, List.cons_append, fieldsFrom, skipGap_indentation,
        quoted, skipGap_cons (c := '"') rfl, List.nil_append, stringBody_quoted]
      simp [hvalue fuel (by omega) (ended_indentation _ _), skipGap_indentation,
        skipGap_cons (c := ':') rfl, skipGap_cons (c := '\x7d') rfl]
    | cons g gs =>
      simp only [prettyFields, List.length_append, indentation, List.length_cons] at hfuel
      obtain ⟨fuel, rfl⟩ := Nat.exists_eq_add_one_of_ne_zero (n := fuel) (by omega)
      simp only [prettyFields, List.append_assoc, List.cons_append, fieldsFrom, skipGap_indentation,
        quoted, skipGap_cons (c := '"') rfl, List.nil_append, stringBody_quoted]
      simp [hvalue fuel (by omega) (ended_comma _), skipGap_cons (c := ':') rfl,
        skipGap_cons (c := ',') rfl, ih (by simp) hfs fuel (by omega)]

theorem skipGap_prettyItems {d : Nat} {j : Json} (h : Plain d j) (js : List Json) (level : Nat)
    (rest : List Char) :
    ∃ c cs, skipGap (prettyItems level (j :: js) ++ rest) = c :: cs ∧ c ≠ ']' := by
  obtain ⟨c, cs, htext, hgap, hclose⟩ := starts_prettyChars h level
  cases js <;>
    simp [prettyItems, skipGap_indentation, htext, skipGap_cons hgap, hclose]

theorem skipGap_prettyFields (f : String × Json) (fs : List (String × Json)) (level : Nat)
    (rest : List Char) :
    ∃ cs, skipGap (prettyFields level (f :: fs) ++ rest) = '"' :: cs := by
  cases fs <;>
    simp [prettyFields, quoted, skipGap_indentation, skipGap_cons (c := '"') rfl]

theorem readsBack_array {d : Nat} {items : List Json} (hplain : ∀ j ∈ items, Plain d j)
    (h : ∀ j ∈ items, ReadsBack d j) : ReadsBack (d + 1) (.array items) := by
  intro fuel depth level rest hfuel hdepth hrest
  have hwithin : depth + 1 < depthLimit := by omega
  cases items with
  | nil =>
    obtain ⟨fuel, rfl⟩ := Nat.exists_eq_add_one_of_ne_zero (n := fuel) (by rintro rfl; cases hfuel)
    simp [prettyChars, valueFrom, skipGap_cons (c := '[') rfl, skipGap_cons (c := ']') rfl,
      withinDepth, hwithin]
  | cons j js =>
    simp only [prettyChars, List.length_cons] at hfuel
    obtain ⟨fuel, rfl⟩ := Nat.exists_eq_add_one_of_ne_zero (n := fuel) (by omega)
    obtain ⟨c, cs, hstart, hclose⟩ :=
      skipGap_prettyItems (hplain j List.mem_cons_self) js (level + 1) rest
    have hitems : itemsFrom fuel (depth + 1) (prettyItems (level + 1) (j :: js) ++ rest) =
        some (j :: js, rest) :=
      itemsFrom_prettyItems (List.cons_ne_nil j js) h fuel (by omega) (by omega)
    rw [← itemsFrom_skipGap, hstart] at hitems
    simp [prettyChars, valueFrom, skipGap_cons (c := '[') rfl, hstart, hclose, hitems, withinDepth,
      hwithin]

theorem readsBack_object {d : Nat} {fields : List (String × Json)}
    (h : ∀ f ∈ fields, ReadsBack d f.2) : ReadsBack (d + 1) (.object fields) := by
  intro fuel depth level rest hfuel hdepth hrest
  have hwithin : depth + 1 < depthLimit := by omega
  cases fields with
  | nil =>
    obtain ⟨fuel, rfl⟩ := Nat.exists_eq_add_one_of_ne_zero (n := fuel) (by rintro rfl; cases hfuel)
    simp [prettyChars, valueFrom, skipGap_cons (c := '\x7b') rfl, skipGap_cons (c := '\x7d') rfl,
      withinDepth, hwithin]
  | cons f fs =>
    simp only [prettyChars, List.length_cons] at hfuel
    obtain ⟨fuel, rfl⟩ := Nat.exists_eq_add_one_of_ne_zero (n := fuel) (by omega)
    obtain ⟨cs, hstart⟩ := skipGap_prettyFields f fs (level + 1) rest
    have hfields : fieldsFrom fuel (depth + 1) (prettyFields (level + 1) (f :: fs) ++ rest) =
        some (some (f :: fs), rest) :=
      fieldsFrom_prettyFields (List.cons_ne_nil f fs) h fuel (by omega) (by omega)
    rw [← fieldsFrom_skipGap, hstart] at hfields
    simp [prettyChars, valueFrom, skipGap_cons (c := '\x7b') rfl, hstart, hfields, withinDepth,
      hwithin]

theorem readsBack_leaf {d : Nat} {j : Json} (hplain : Plain d j)
    (h : ∀ fuel depth level rest, Ended rest →
      valueFrom (fuel + 1) depth (prettyChars level j ++ rest) = some (j, rest)) :
    ReadsBack d j := by
  intro fuel depth level rest hfuel _ hrest
  obtain ⟨c, cs, htext, -⟩ := starts_prettyChars hplain level
  rw [htext, List.length_cons] at hfuel
  obtain ⟨fuel, rfl⟩ := Nat.exists_eq_add_one_of_ne_zero (n := fuel) (by omega)
  exact h fuel depth level rest hrest

theorem readsBack {d : Nat} {j : Json} (h : Plain d j) : ReadsBack d j := by
  induction h with
  | null => exact readsBack_leaf .null fun _ _ _ _ _ => rfl
  | bool b =>
    refine readsBack_leaf (.bool b) fun _ _ _ _ _ => ?_
    cases b <;> rfl
  | @integer _ i hlow hhigh =>
    refine readsBack_leaf (.integer hlow hhigh) fun fuel depth level rest hrest => ?_
    have hnumber := number_integer hlow hhigh hrest
    obtain ⟨c, cs, htext, hc⟩ := toString_int_cons i
    change valueFrom (fuel + 1) depth ((toString i).toList ++ rest) = _
    rw [htext, List.cons_append] at hnumber ⊢
    rw [valueFrom_number hc, hnumber]
  | string s =>
    refine readsBack_leaf (.string s) fun fuel depth level rest _ => ?_
    simp [prettyChars, leafText, quoted, valueFrom, skipGap_cons (c := '"') rfl, stringBody_quoted]
  | array h ih => exact readsBack_array h ih
  | object h ih => exact readsBack_object ih

/-- The indented text of a plain value reads as that value. -/
theorem parse?_pretty {j : Json} (h : Plain 127 j) : parse? j.pretty = some j := by
  have hread := readsBack h ((prettyChars 0 j).length + 1) 0 0 [] (Nat.le_succ _) (by decide)
    (by simp [Ended])
  rw [List.append_nil] at hread
  unfold parse? pretty
  rewrite [String.toList_ofList]
  dsimp only
  rewrite [hread]
  rfl

end AgentGovernance.Json
