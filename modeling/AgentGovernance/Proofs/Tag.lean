-- SUMMARY: Laws of tags: joining words twice, spellings in ASCII, and the members of a tag list.
import AgentGovernance.Tag
import Mathlib.Data.List.DropRight

/-!
# Laws of tags

Joining the words of a text is idempotent, and so is the whole normal form on ASCII spellings. In
general it is not: lower-casing can leave a letter and a mark that the normal form composes the next
time. A list of tags holds the non-empty tags of the spellings it was made from.
-/

namespace AgentGovernance

/-! ## Trimming -/

namespace Text

private theorem dropWhile_of_prefix {α : Type} {p : α → Bool} {xs ys : List α}
    (hpre : xs <+: ys) (hys : ys.dropWhile p = ys) : xs.dropWhile p = xs := by
  cases xs with
  | nil => rfl
  | cons x xs =>
    obtain ⟨rest, rfl⟩ := hpre
    have hx := (List.dropWhile_eq_self_iff (l := x :: xs ++ rest)).1 hys (by simp)
    exact List.dropWhile_cons_of_neg (by simpa using hx)

@[simp] theorem trim_trim (s : String) : trim (trim s) = trim s := by
  have hstart : (dropEndWhile isBlank (s.toList.dropWhile isBlank)).dropWhile isBlank =
      dropEndWhile isBlank (s.toList.dropWhile isBlank) :=
    dropWhile_of_prefix (List.rdropWhile_prefix isBlank _) (List.dropWhile_idempotent isBlank _)
  simp only [trim, String.toList_ofList, hstart]
  exact congrArg String.ofList (List.rdropWhile_idempotent isBlank _)

/-- Nothing is left of a text exactly if it is made of blanks. -/
theorem trim_eq_empty_iff {s : String} : trim s = "" ↔ ∀ c ∈ s.toList, isBlank c = true := by
  have hend : trim s = "" ↔ dropEndWhile isBlank (s.toList.dropWhile isBlank) = [] := by
    rw [trim, ← String.ofList_nil, String.ofList_inj]
  rw [hend]
  constructor
  · intro hnothing
    -- What is left of dropping the blanks in front would start with a character that is not blank.
    have hstart : s.toList.dropWhile isBlank = [] := by
      by_contra hne
      have hblank := List.rdropWhile_eq_nil_iff.1 hnothing _ (List.head_mem hne)
      exact absurd (List.head_dropWhile_not isBlank hne) (by simp [hblank])
    exact List.dropWhile_eq_nil_iff.1 hstart
  · intro hblank
    rw [List.dropWhile_eq_nil_iff.2 hblank]
    rfl

theorem trimmed?_eq_some_iff {s t : String} : trimmed? s = some t ↔ trim s = t ∧ t ≠ "" := by
  simp only [trimmed?]
  split
  · rename_i hempty
    simp only [reduceCtorEq, false_iff, not_and, ne_eq, not_not]
    rintro rfl
    exact String.isEmpty_iff.1 hempty
  · rename_i hfull
    rw [Option.some.injEq, ne_eq, ← String.isEmpty_iff]
    constructor
    · rintro rfl
      exact ⟨rfl, hfull⟩
    · exact And.left

theorem trim_of_trimmed? {s t : String} (h : trimmed? s = some t) : trim t = t := by
  obtain ⟨rfl, -⟩ := trimmed?_eq_some_iff.1 h
  exact trim_trim s

end Text

namespace Tag

/-! ## Joining words -/

private theorem joinWords_started (pending : Bool) (cs : List Char) :
    joinWords true false (joinWords true pending cs) = joinWords true pending cs := by
  induction cs generalizing pending with
  | nil => rfl
  | cons c cs ih =>
    by_cases hc : isSeparator c = true
    · simpa [joinWords, hc] using ih true
    · cases pending with
      | false => simp [joinWords, hc, ih]
      | true =>
        have hbar : isSeparator '_' = true := rfl
        simp [joinWords, hc, hbar, ih]

/-- Joined words are joined already. -/
theorem joinWords_joinWords (pending pending' : Bool) (cs : List Char) :
    joinWords false pending' (joinWords false pending cs) = joinWords false pending cs := by
  induction cs generalizing pending with
  | nil => rfl
  | cons c cs ih =>
    by_cases hc : isSeparator c = true
    · simpa [joinWords, hc] using ih true
    · simp [joinWords, hc, joinWords_started]

/-- Joining adds no character but the underscore. -/
theorem mem_joinWords {started pending : Bool} {cs : List Char} {c : Char}
    (h : c ∈ joinWords started pending cs) : c = '_' ∨ c ∈ cs := by
  induction cs generalizing started pending with
  | nil => simp [joinWords] at h
  | cons d cs ih =>
    simp only [joinWords] at h
    split at h
    · exact (ih h).imp_right (List.mem_cons_of_mem d)
    · split at h
      · rcases List.mem_cons.1 h with rfl | h
        · exact .inl rfl
        · rcases List.mem_cons.1 h with rfl | h
          · exact .inr List.mem_cons_self
          · exact (ih h).imp_right (List.mem_cons_of_mem d)
      · rcases List.mem_cons.1 h with rfl | h
        · exact .inr List.mem_cons_self
        · exact (ih h).imp_right (List.mem_cons_of_mem d)

/-! ## ASCII spellings -/

/-- Lower-casing stays in the ASCII range and does nothing the second time. -/
private theorem toLower_ascii {c : Char} (h : c.toNat < 0x80) :
    c.toLower.toNat < 0x80 ∧ c.toLower.toLower = c.toLower := by
  have hall : ∀ n : Fin 0x80, (Char.ofNat n).toLower.toNat < 0x80 ∧
      (Char.ofNat n).toLower.toLower = (Char.ofNat n).toLower := by decide
  simpa using hall ⟨c.toNat, h⟩

theorem ofText_ascii {s : String} (h : ∀ c ∈ s.toList, c.toNat < 0x80) :
    ofText s = String.ofList (joinWords false false (s.toList.map Char.toLower)) := by
  rw [ofText, Text.normalizeKC_ascii h, Text.lowercase_ascii h]

/-- The tag of an ASCII spelling is its own tag. -/
theorem ofText_ofText_of_ascii {s : String} (h : ∀ c ∈ s.toList, c.toNat < 0x80) :
    ofText (ofText s) = ofText s := by
  have hmem : ∀ c ∈ joinWords false false (s.toList.map Char.toLower),
      c.toNat < 0x80 ∧ c.toLower = c := by
    intro c hc
    rcases mem_joinWords hc with rfl | hc
    · exact ⟨by decide, by decide⟩
    · obtain ⟨d, hd, rfl⟩ := List.mem_map.1 hc
      exact toLower_ascii (h d hd)
  rw [ofText_ascii h, ofText_ascii (by simpa using fun c hc => (hmem c hc).1), String.toList_ofList]
  congr 1
  rw [List.map_congr_left (fun c hc => (hmem c hc).2), List.map_id']
  exact joinWords_joinWords false false _

/-! ## Lists of tags -/

theorem mem_distinctFrom {seen ts : List Tag} {t : Tag} :
    t ∈ distinctFrom seen ts ↔ t ∈ ts ∧ t ∉ seen := by
  induction ts generalizing seen with
  | nil => simp [distinctFrom]
  | cons u ts ih =>
    by_cases hu : u ∈ seen
    · simp only [distinctFrom, List.contains_iff_mem, hu, if_true, ih, List.mem_cons]
      constructor
      · rintro ⟨ht, hs⟩
        exact ⟨.inr ht, hs⟩
      · rintro ⟨rfl | ht, hs⟩
        · exact absurd hu hs
        · exact ⟨ht, hs⟩
    · simp only [distinctFrom, List.contains_iff_mem, hu, if_false, List.mem_cons, ih]
      by_cases ht : t = u
      · simp [ht, hu]
      · simp [ht]

/-- A list of tags holds the tags of its spellings, the empty one apart. -/
theorem mem_ofTexts {raw : List String} {t : Tag} :
    t ∈ ofTexts raw ↔ t ≠ "" ∧ ∃ s ∈ raw, ofText s = t := by
  simp only [ofTexts, mem_distinctFrom, List.not_mem_nil, not_false_eq_true, and_true,
    List.mem_filter, List.mem_map, Bool.not_eq_true', String.isEmpty_eq_false_iff, ne_eq]
  exact and_comm

end Tag

end AgentGovernance
