-- SUMMARY: Which findings share the bytes of a fingerprint, and which are told apart by them.
import AgentGovernance.Audit.Finding
import Mathlib.Data.List.Basic

/-!
# What fingerprints tell apart

The bytes behind a fingerprint are the parts of a finding with a zero byte between them. Where a part
has zeros of its own, another finding can have the same bytes with the cuts in other places; and a
missing line has the bytes of line zero. Main statement: the bytes identify a problem if it is known
how the zeros are distributed and whether there is a line. Without that they identify the problem of a
finding whose parts have no zero character and whose line is not zero, and of no finding with a zero
in its validator or its resource, or without a line.
-/

namespace AgentGovernance

/-- The character whose only byte is zero. -/
def zeroChar : Char := Char.ofNat 0

/-! ## Cuts -/

section Cuts

variable {α : Type} {a : α} {xs ys zs ws : List α}

/-- Two cuts of a list at the same element are one cut, or one comes later than the other. -/
theorem cut_cases (h : xs ++ a :: ys = zs ++ a :: ws) :
    xs = zs ∧ ys = ws ∨
    (∃ us, zs = xs ++ a :: us ∧ ys = us ++ a :: ws) ∨
    ∃ us, xs = zs ++ a :: us ∧ ws = us ++ a :: ys := by
  rcases List.append_eq_append_iff.1 h with ⟨us, hzs, hys⟩ | ⟨us, hxs, hws⟩
  · cases us with
    | nil => simp_all
    | cons u us =>
      obtain ⟨rfl, rfl⟩ := List.cons.inj hys
      exact .inr (.inl ⟨us, hzs, rfl⟩)
  · cases us with
    | nil => simp_all
    | cons u us =>
      obtain ⟨rfl, rfl⟩ := List.cons.inj hws
      exact .inr (.inr ⟨us, hxs, rfl⟩)

/-- A cut is found again from how often the element comes before it. -/
theorem cut_unique [BEq α] [LawfulBEq α] (h : xs ++ a :: ys = zs ++ a :: ws)
    (hcount : xs.count a = zs.count a) : xs = zs ∧ ys = ws := by
  rcases cut_cases h with heq | ⟨us, rfl, -⟩ | ⟨us, rfl, -⟩
  · exact heq
  · simp at hcount
  · simp at hcount

/-- The first cut is the one with no such element before it. -/
theorem cut_first (h : xs ++ a :: ys = zs ++ a :: ws) (hfirst : a ∉ xs) :
    xs = zs ∧ ys = ws ∨ ∃ us, zs = xs ++ a :: us ∧ ys = us ++ a :: ws := by
  rcases cut_cases h with heq | hlater | ⟨us, rfl, -⟩
  · exact .inl heq
  · exact .inr hlater
  · simp at hfirst

/-- Nothing of the length of the part before the last cut stands behind another cut. -/
theorem no_cut_before (hlast : a ∉ ys) (hlength : zs.length = xs.length) {us : List α} :
    xs ++ a :: ys ≠ us ++ a :: (zs ++ a :: ws) := by
  intro h
  rw [← List.cons_append, ← List.append_assoc] at h
  rcases cut_cases h with ⟨rfl, -⟩ | ⟨vs, -, rfl⟩ | ⟨vs, rfl, -⟩
  · simp only [List.length_append, List.length_cons] at hlength
    omega
  · simp at hlast
  · simp only [List.length_append, List.length_cons] at hlength
    omega

end Cuts

/-! ## Bytes -/

/-- Only the zero character has a zero among its bytes. -/
theorem zero_notMem_utf8EncodeChar {c : Char} (h : c ≠ zeroChar) : 0 ∉ String.utf8EncodeChar c := by
  have hne : c.val.toNat ≠ 0 := fun hzero => h (Char.ext (UInt32.toNat_inj.1 hzero))
  have hbyte : ∀ n : Nat, 0 < n → n < 256 → ¬(0 : UInt8) = UInt8.ofNat n := by
    intro n hpos hlt heq
    have hnat := congrArg UInt8.toNat heq
    rw [UInt8.toNat_ofNat', UInt8.toNat_zero] at hnat
    omega
  -- A byte of a longer encoding is a remainder with a high bit added.
  fun_cases String.utf8EncodeChar c with
  | case1 v hv =>
    simp only [List.mem_singleton]
    exact hbyte _ (by omega) (by omega)
  | case2 v _ hv =>
    simp only [List.mem_cons, List.not_mem_nil, or_false, not_or]
    refine ⟨?_, ?_⟩ <;> exact hbyte _ (by omega) (by omega)
  | case3 v _ _ hv =>
    simp only [List.mem_cons, List.not_mem_nil, or_false, not_or]
    refine ⟨?_, ?_, ?_⟩ <;> exact hbyte _ (by omega) (by omega)
  | case4 v _ _ hv =>
    simp only [List.mem_cons, List.not_mem_nil, or_false, not_or]
    refine ⟨?_, ?_, ?_, ?_⟩ <;> exact hbyte _ (by omega) (by omega)

theorem Blake3.wordBytes_inj {u w : UInt32} (h : wordBytes u = wordBytes w) : u = w := by
  simp only [wordBytes, List.cons.injEq, ← UInt8.toNat_inj, UInt32.toNat_toUInt8,
    UInt32.toNat_shiftRight, Nat.shiftRight_eq_div_pow, UInt32.reduceToNat, Nat.reduceMod,
    Nat.reducePow, and_true] at h
  have hu := u.toNat_lt
  have hw := w.toNat_lt
  rw [← UInt32.toNat_inj]
  omega

/-- The bytes of a number that fits give the number back. -/
theorem Blake3.bytes32_inj {m n : Nat} (hm : m < UInt32.size) (hn : n < UInt32.size)
    (h : bytes32 m = bytes32 n) : m = n := by
  have hword : m.toUInt32.toNat = n.toUInt32.toNat := congrArg UInt32.toNat (wordBytes_inj h)
  rwa [UInt32.toNat_ofNat_of_lt' hm, UInt32.toNat_ofNat_of_lt' hn] at hword

@[simp] theorem Blake3.length_bytes32 (n : Nat) : (bytes32 n).length = 4 := rfl

namespace Finding

theorem textBytes_ofList (cs : List Char) :
    textBytes (String.ofList cs) = cs.flatMap String.utf8EncodeChar := by
  simp [textBytes, List.utf8Encode]

theorem textBytes_inj {s t : String} : textBytes s = textBytes t ↔ s = t := by
  refine ⟨fun h => ?_, fun h => h ▸ rfl⟩
  exact String.toByteArray_inj.1 (ByteArray.ext (Array.toList_inj.1 h))

@[simp] theorem textBytes_append (s t : String) :
    textBytes (s ++ t) = textBytes s ++ textBytes t := by
  simp [textBytes]

@[simp] theorem textBytes_push_zeroChar (s : String) :
    textBytes (s.push zeroChar) = textBytes s ++ [0] := by
  rw [← String.append_singleton, textBytes_append]
  rfl

theorem count_zero_textBytes (s : String) : (textBytes s).count 0 = s.toList.count zeroChar := by
  rw [← String.ofList_toList (s := s), textBytes_ofList, String.toList_ofList]
  induction s.toList with
  | nil => rfl
  | cons c cs ih =>
    rw [List.flatMap_cons, List.count_append, ih, List.count_cons, Nat.add_comm]
    congr 1
    by_cases hc : c = zeroChar
    · subst hc
      rfl
    · rw [List.count_eq_zero.2 (zero_notMem_utf8EncodeChar hc), if_neg (by simpa using hc)]

theorem zero_notMem_textBytes {s : String} (h : zeroChar ∉ s.toList) : 0 ∉ textBytes s := by
  rw [← List.count_eq_zero, count_zero_textBytes, List.count_eq_zero]
  exact h

/-! ## Problems -/

/-- The findings agree in everything that a problem is known by. -/
structure SameProblem (f g : Finding) : Prop where
  validatorId : f.validatorId = g.validatorId
  location : f.location = g.location
  description : f.description = g.description

/-- The line, if there is one, fits into four bytes. -/
def LineFits (f : Finding) : Prop := f.location.line.getD 0 < UInt32.size

/-- How many zero characters the validator and the resource have. -/
def zeros (f : Finding) : Nat × Nat :=
  (f.validatorId.toList.count zeroChar, f.location.resource.toList.count zeroChar)

/-- There is a zero character in the validator or in the resource, or no line but perhaps zero. -/
def HasZero (f : Finding) : Prop :=
  zeroChar ∈ f.validatorId.toList ∨ zeroChar ∈ f.location.resource.toList ∨
    f.location.line.getD 0 = 0

instance (f : Finding) : Decidable f.LineFits := inferInstanceAs (Decidable (_ < _))

instance (f : Finding) : Decidable f.HasZero := inferInstanceAs (Decidable (_ ∨ _ ∨ _))

/-- The findings with the same bytes are those about the same problem. -/
def Identified (f : Finding) : Prop :=
  ∀ g : Finding, g.LineFits → (f.identityBytes = g.identityBytes ↔ f.SameProblem g)

variable {f g : Finding}

theorem SameProblem.identityBytes (h : f.SameProblem g) : f.identityBytes = g.identityBytes := by
  simp only [Finding.identityBytes, h.validatorId, h.location, h.description]

/-- Lines that count as the same are the same if both are there, or neither. -/
theorem line_eq_of_getD {m n : Option Nat} (h : m.getD 0 = n.getD 0) (hnone : m = none ↔ n = none) :
    m = n := by
  cases m with
  | none => exact (hnone.1 rfl).symm
  | some k =>
    cases n with
    | none => exact absurd (hnone.2 rfl) (by simp)
    | some l => exact congrArg some h

/-- Findings whose parts have the same bytes and that both have a line are about the same problem. -/
theorem sameProblem_of_parts (hf : f.LineFits) (hg : g.LineFits)
    (hvalidator : textBytes f.validatorId = textBytes g.validatorId)
    (hresource : textBytes f.location.resource = textBytes g.location.resource)
    (hline : Blake3.bytes32 (f.location.line.getD 0) = Blake3.bytes32 (g.location.line.getD 0))
    (hdescription : textBytes f.description = textBytes g.description)
    (hnone : f.location.line = none ↔ g.location.line = none) : f.SameProblem g where
  validatorId := textBytes_inj.1 hvalidator
  location := congrArg₂ Location.mk (textBytes_inj.1 hresource)
    (line_eq_of_getD (Blake3.bytes32_inj hf hg hline) hnone)
  description := textBytes_inj.1 hdescription

/-- The bytes identify a problem together with the distribution of the zeros and the presence of a
line. -/
theorem sameProblem_iff (hf : f.LineFits) (hg : g.LineFits) :
    f.SameProblem g ↔ f.identityBytes = g.identityBytes ∧ f.zeros = g.zeros ∧
      (f.location.line = none ↔ g.location.line = none) := by
  constructor
  · intro h
    refine ⟨h.identityBytes, ?_, by rw [h.location]⟩
    simp only [zeros, h.validatorId, h.location]
  · rintro ⟨hbytes, hzeros, hnone⟩
    simp only [zeros, Prod.mk.injEq, ← count_zero_textBytes] at hzeros
    obtain ⟨hvalidator, hrest⟩ := cut_unique hbytes hzeros.1
    obtain ⟨hresource, hrest⟩ := cut_unique hrest hzeros.2
    obtain ⟨hline, hrest⟩ := List.append_inj hrest (by simp)
    exact sameProblem_of_parts hf hg hvalidator hresource hline (List.cons.inj hrest).2 hnone

/-! ## Findings with zeros -/

/-- A text with a zero character is two texts with the character between them. -/
theorem exists_cut {s : String} (h : zeroChar ∈ s.toList) :
    ∃ t u : String, s = t.push zeroChar ++ u := by
  obtain ⟨cs, ds, hcut⟩ := List.append_of_mem h
  refine ⟨String.ofList cs, String.ofList ds, String.toList_injective ?_⟩
  simp [hcut]

theorem ne_push_append (s t : String) : s ≠ s.push zeroChar ++ t := by
  intro h
  have hlist := congrArg String.toList h
  simp at hlist

/-- With a zero in a part, or without a line, another problem has the same bytes. -/
theorem exists_other_of_hasZero (hf : f.LineFits) (h : f.HasZero) :
    ∃ g : Finding, g.LineFits ∧ f.identityBytes = g.identityBytes ∧ ¬f.SameProblem g := by
  rcases h with hvalidator | hresource | hline
  · -- What follows the zero moves to the front of the resource.
    obtain ⟨s, t, hcut⟩ := exists_cut hvalidator
    let resource := t.push zeroChar ++ f.location.resource
    refine ⟨{ f with validatorId := s, location := { f.location with resource } }, hf, ?_, ?_⟩
    · simp [identityBytes, resource, hcut]
    · intro hsame
      exact ne_push_append s t (hsame.validatorId.symm.trans hcut)
  · -- What precedes the zero moves to the end of the validator.
    obtain ⟨s, t, hcut⟩ := exists_cut hresource
    let validatorId := f.validatorId.push zeroChar ++ s
    refine ⟨{ f with validatorId, location := { f.location with resource := t } }, hf, ?_, ?_⟩
    · simp [identityBytes, validatorId, hcut]
    · intro hsame
      exact ne_push_append f.validatorId s hsame.validatorId
  · -- No line and line zero have the same bytes.
    have hzero : 0 < UInt32.size := by decide
    cases hnumber : f.location.line with
    | none =>
      refine ⟨{ f with location := { f.location with line := some 0 } }, hzero, ?_, ?_⟩
      · simp [identityBytes, hnumber]
      · intro hsame
        have hline := congrArg Location.line hsame.location
        simp [hnumber] at hline
    | some n =>
      refine ⟨{ f with location := { f.location with line := none } }, hzero, ?_, ?_⟩
      · rw [hnumber] at hline
        simp [identityBytes, hnumber, hline]
      · intro hsame
        have hline := congrArg Location.line hsame.location
        simp [hnumber] at hline

/-! ## Findings without -/

/-- Without a zero in the first two parts the cuts of both findings are the first ones. -/
theorem sameProblem_of_no_zero (hf : f.LineFits) (hg : g.LineFits) (h : ¬f.HasZero)
    (hdescription : zeroChar ∉ f.description.toList)
    (hbytes : f.identityBytes = g.identityBytes) : f.SameProblem g := by
  obtain ⟨hvalidator, hlater⟩ := not_or.1 h
  obtain ⟨hresource, hline⟩ := not_or.1 hlater
  -- A cut of `g` behind the first two of `f` would leave too little for the line.
  have hnone : ∀ us, Blake3.bytes32 (f.location.line.getD 0) ++ 0 :: textBytes f.description ≠
      us ++ 0 :: (Blake3.bytes32 (g.location.line.getD 0) ++ 0 :: textBytes g.description) :=
    fun us => no_cut_before (zero_notMem_textBytes hdescription) (by simp)
  rcases cut_first hbytes (zero_notMem_textBytes hvalidator) with ⟨hv, hrest⟩ | ⟨us, -, hrest⟩
  · rcases cut_first hrest (zero_notMem_textBytes hresource) with ⟨hr, hrest⟩ | ⟨us, -, hrest⟩
    · obtain ⟨hl, hd⟩ := List.append_inj hrest (by simp)
      refine sameProblem_of_parts hf hg hv hr hl (List.cons.inj hd).2 ?_
      have hnumber := Blake3.bytes32_inj hf hg hl
      refine iff_of_false ?_ ?_
      · intro hmissing
        exact hline (by rw [hmissing]; rfl)
      · intro hmissing
        exact hline (by rw [hnumber, hmissing]; rfl)
    · exact absurd hrest (hnone us)
  · rcases cut_first hrest (zero_notMem_textBytes hresource) with ⟨-, hrest⟩ | ⟨vs, -, hrest⟩
    · exact absurd hrest (hnone _)
    · rw [← List.cons_append, ← List.append_assoc] at hrest
      exact absurd hrest (hnone _)

/-- Two findings without zeros in their first two parts, and with lines other than zero, have the same
bytes exactly if they are about the same problem. -/
theorem sameProblem_iff_of_no_zero (hf : f.LineFits) (hg : g.LineFits) (h : ¬f.HasZero)
    (h' : ¬g.HasZero) : f.identityBytes = g.identityBytes ↔ f.SameProblem g := by
  have hzeros : ∀ {f : Finding}, ¬f.HasZero → f.zeros = (0, 0) ∧ f.location.line ≠ none := by
    intro f h
    obtain ⟨hvalidator, hlater⟩ := not_or.1 h
    obtain ⟨hresource, hline⟩ := not_or.1 hlater
    refine ⟨?_, fun hmissing => hline (by rw [hmissing]; rfl)⟩
    rw [zeros, List.count_eq_zero.2 hvalidator, List.count_eq_zero.2 hresource]
  obtain ⟨hf0, hfline⟩ := hzeros h
  obtain ⟨hg0, hgline⟩ := hzeros h'
  rw [sameProblem_iff hf hg, hf0, hg0]
  exact ⟨fun hbytes => ⟨hbytes, rfl, iff_of_false hfline hgline⟩, And.left⟩

/-! ## What a fingerprint identifies -/

/-- Two findings are about the same problem exactly if they have the same bytes, their zeros are
distributed alike, and both or neither have a line. So the bytes tell problems apart among the findings
without zeros in their first two parts and with a line other than zero. If the description of such a
finding has no zero either, its bytes are those of its own problem and of no other; a finding with a
zero in one of the first two parts, or without a line, shares its bytes with another problem. -/
theorem identified_unless_zero (f : Finding) (hf : f.LineFits) :
    (∀ g : Finding, g.LineFits →
      (f.SameProblem g ↔ f.identityBytes = g.identityBytes ∧ f.zeros = g.zeros ∧
        (f.location.line = none ↔ g.location.line = none))) ∧
    (¬f.HasZero → ∀ g : Finding, g.LineFits → ¬g.HasZero →
      (f.identityBytes = g.identityBytes ↔ f.SameProblem g)) ∧
    (¬f.HasZero → zeroChar ∉ f.description.toList → f.Identified) ∧
    (f.HasZero → ¬f.Identified) := by
  refine ⟨fun g hg => sameProblem_iff hf hg, ?_, ?_, ?_⟩
  · intro h g hg h'
    exact sameProblem_iff_of_no_zero hf hg h h'
  · intro h hdescription g hg
    exact ⟨sameProblem_of_no_zero hf hg h hdescription, SameProblem.identityBytes⟩
  · intro h hidentified
    obtain ⟨g, hg, hbytes, hother⟩ := exists_other_of_hasZero hf h
    exact hother ((hidentified g hg).1 hbytes)

/-- A finding in a line of a file is told from all others. -/
theorem identified_unless_zero_located :
    let f : Finding :=
      { validatorId := "xss", severity := .medium
        location := { resource := "src/page.html", line := some 4 }
        description := "unescaped input" }
    f.LineFits ∧ f.Identified := by
  intro f
  have hf : f.LineFits := by decide
  exact ⟨hf, (identified_unless_zero f hf).2.2.1 (by decide +kernel) (by decide +kernel)⟩

/-- A finding about a whole file has the bytes of one in line zero of the file. -/
theorem whole_file_passes_for_line_zero :
    let f : Finding :=
      { validatorId := "deps", severity := .high, location := { resource := "Cargo.lock" }
        description := "outdated crate" }
    let g : Finding := { f with location := { f.location with line := some 0 } }
    ¬(f.identityBytes = g.identityBytes ↔ f.SameProblem g) := by
  intro f g h
  have hline := congrArg Location.line (h.1 rfl).location
  cases hline

end Finding

end AgentGovernance
