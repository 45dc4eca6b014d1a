-- SUMMARY: Lines of texts: a text that is put together from lines has those lines.
import AgentGovernance.Descriptor.Block

/-!
# Lines

A text is cut at its line feeds, and a carriage return in front of one goes with it. So lines come
back from the text they were written into, as long as none of them holds a line feed or ends in a
carriage return, and what stands in front of a line end is cut independently of what follows it.
-/

namespace AgentGovernance

/-- The text can be written as a line: it holds no line feed, and no carriage return at its end that
would go with the line end. -/
def IsLine (s : String) : Prop := '\n' ∉ s.toList ∧ s.toList.getLast? ≠ some '\r'

/-- The text is empty or ends with a line end. -/
def EndsLine (s : String) : Prop := ∀ c ∈ s.toList.getLast?, c = '\n'

instance (s : String) : Decidable (IsLine s) := inferInstanceAs (Decidable (_ ∧ _))

instance (s : String) : Decidable (EndsLine s) :=
  decidable_of_iff (s.toList.getLast?.all (· == '\n') = true) <| by
    cases h : s.toList.getLast? <;> simp [EndsLine, h]

/-! ## Cutting -/

namespace splitLines

theorem dropReturn_reverse {cs : List Char} (h : cs.getLast? ≠ some '\r') :
    dropReturn cs.reverse = cs := by
  unfold dropReturn
  split
  · rename_i cs' hcs
    rw [← List.head?_reverse, hcs] at h
    exact absurd rfl h
  · exact List.reverse_reverse cs

/-- At most a carriage return is dropped. -/
theorem eq_dropReturn_or (cs : List Char) :
    dropReturn cs.reverse = cs ∨ dropReturn cs.reverse ++ ['\r'] = cs := by
  by_cases h : cs.getLast? = some '\r'
  · obtain ⟨front, rfl⟩ := List.getLast?_eq_some_iff.1 h
    exact .inr (by simp [dropReturn])
  · exact .inl (dropReturn_reverse h)

theorem dropReturn_append {line : List Char} (h : line.head? ≠ some '\r') (cs : List Char) :
    dropReturn (cs ++ line) = line.reverse ++ dropReturn cs := by
  cases cs with
  | nil =>
    have hlast : line.reverse.getLast? ≠ some '\r' := by simpa using h
    simpa [dropReturn] using dropReturn_reverse hlast
  | cons c cs => by_cases hc : c = '\r' <;> simp [dropReturn, hc]

end splitLines

open splitLines (dropReturn)

variable {cs : List Char}

theorem splitLines_append_newline (h : '\n' ∉ cs) (line rest : List Char) :
    splitLines line (cs ++ '\n' :: rest) = dropReturn (cs.reverse ++ line) :: splitLines [] rest := by
  induction cs generalizing line with
  | nil => rfl
  | cons c cs ih =>
    obtain ⟨hc, hcs⟩ := not_or.1 (mt List.mem_cons.2 h)
    simp [splitLines, Ne.symm hc, ih hcs]

theorem splitLines_of_not_mem (h : '\n' ∉ cs) {line : List Char} (hne : cs.reverse ++ line ≠ []) :
    splitLines line cs = [(cs.reverse ++ line).reverse] := by
  induction cs generalizing line with
  | nil =>
    cases line with
    | nil => exact absurd rfl hne
    | cons c line => rfl
  | cons c cs ih =>
    obtain ⟨hc, hcs⟩ := not_or.1 (mt List.mem_cons.2 h)
    simp [splitLines, Ne.symm hc, ih hcs]

/-- What ends with a line feed is cut as if it stood alone. -/
theorem splitLines_append (cs line rest : List Char) :
    splitLines line (cs ++ '\n' :: rest) = splitLines line (cs ++ ['\n']) ++ splitLines [] rest := by
  induction cs generalizing line with
  | nil => rfl
  | cons c cs ih => by_cases hc : c = '\n' <;> simp [splitLines, hc, ih]

/-! ## Lines of a text -/

theorem textLines_append {s : String} (h : EndsLine s) (rest : String) :
    textLines (s ++ rest) = textLines s ++ textLines rest := by
  rcases List.eq_nil_or_concat s.toList with hs | ⟨cs, c, hs⟩
  · rw [String.toList_eq_nil_iff.1 hs]
    simp [textLines, splitLines]
  · have hc : c = '\n' := h c (by simp [hs])
    simp [textLines, hs, hc, splitLines_append cs [] rest.toList]

/-- A line is what stands in front of a line end, less at most a carriage return. -/
theorem exists_textLines_append_newline {s : String} (h : '\n' ∉ s.toList) (rest : String) :
    ∃ l, (l = s ∨ l ++ "\r" = s) ∧ textLines (s ++ "\n" ++ rest) = l :: textLines rest := by
  refine ⟨String.ofList (dropReturn s.toList.reverse), ?_, ?_⟩
  · rcases splitLines.eq_dropReturn_or s.toList with heq | heq
    · exact .inl (by rw [heq, String.ofList_toList])
    · exact .inr (String.toList_inj.1 (by simpa using heq))
  · simp [textLines, splitLines_append_newline h]

theorem textLines_line {s : String} (h : IsLine s) (rest : String) :
    textLines (s ++ "\n" ++ rest) = s :: textLines rest := by
  simp [textLines, splitLines_append_newline h.1, splitLines.dropReturn_reverse h.2]

/-- The first line starts with all that stands in front of the first line feed. -/
theorem exists_textLines_cons {s : String} (h : '\n' ∉ s.toList) (hne : s ≠ "") (tail : String) :
    ∃ l more rest, (l = s ++ more ∨ l ++ "\r" = s ++ more) ∧ textLines (s ++ tail) = l :: rest := by
  by_cases hmem : '\n' ∈ tail.toList
  · obtain ⟨more, rest, htail, hmore⟩ := List.eq_append_cons_of_mem hmem
    have hfront : '\n' ∉ (s ++ String.ofList more).toList := by simp [h, hmore]
    obtain ⟨l, hl, hlines⟩ := exists_textLines_append_newline hfront (String.ofList rest)
    have htext : s ++ tail = s ++ String.ofList more ++ "\n" ++ String.ofList rest :=
      String.toList_inj.1 (by simp [htail])
    exact ⟨l, _, _, hl, htext ▸ hlines⟩
  · refine ⟨s ++ tail, tail, [], .inl rfl, ?_⟩
    have hall : '\n' ∉ s.toList ++ tail.toList := by simp [h, hmem]
    have hsome : (s.toList ++ tail.toList).reverse ++ [] ≠ [] := by simp [hne]
    simp [textLines, splitLines_of_not_mem hall hsome]

/-- A line in front of a text becomes part of its first line. -/
theorem textLines_prepend {p : String} (h : IsLine p) (hne : p ≠ "") (s : String) :
    textLines (p ++ s) = (p ++ (textLines s).head?.getD "") :: (textLines s).tail := by
  by_cases hmem : '\n' ∈ s.toList
  · obtain ⟨cs, rest, hs, hcs⟩ := List.eq_append_cons_of_mem hmem
    have hall : '\n' ∉ p.toList ++ cs := by simp [h.1, hcs]
    have hp : p.toList.reverse.head? ≠ some '\r' := by simpa using h.2
    have hfirst := splitLines_append_newline hall [] rest
    have hsecond := splitLines_append_newline hcs [] rest
    rw [List.reverse_append, List.append_nil, splitLines.dropReturn_append hp,
      List.reverse_reverse] at hfirst
    simp only [List.append_assoc, List.append_nil] at hfirst hsecond
    simp [textLines, hs, hfirst, hsecond, String.ofList_append]
  · have hall : '\n' ∉ p.toList ++ s.toList := by simp [h.1, hmem]
    have hsome : (p.toList ++ s.toList).reverse ++ [] ≠ [] := by simp [hne]
    have hfirst : textLines (p ++ s) = [p ++ s] := by
      simp [textLines, splitLines_of_not_mem hall hsome]
    by_cases hs : s = ""
    · simpa [hs, textLines, splitLines] using hfirst
    · have hsecond : textLines s = [s] := by
        have hsome : s.toList.reverse ++ [] ≠ [] := by simp [hs]
        simp [textLines, splitLines_of_not_mem hmem hsome]
      simpa [hsecond] using hfirst

/-! ## Lines written one after the other -/

theorem textLines_join {ls : List String} (h : ∀ l ∈ ls, IsLine l) (rest : String) :
    textLines (String.join (ls.map (· ++ "\n")) ++ rest) = ls ++ textLines rest := by
  induction ls with
  | nil => simp
  | cons l ls ih =>
    obtain ⟨hl, hls⟩ := List.forall_mem_cons.1 h
    rw [List.map_cons, String.join_cons, String.append_assoc, textLines_line hl, ih hls,
      List.cons_append]

theorem intercalate_append_newline {ls : List String} (h : ls ≠ []) :
    "\n".intercalate ls ++ "\n" = String.join (ls.map (· ++ "\n")) := by
  induction ls with
  | nil => exact absurd rfl h
  | cons l ls ih =>
    cases ls with
    | nil => simp
    | cons l' ls =>
      rw [String.intercalate_cons_cons, String.append_assoc, ih (List.cons_ne_nil l' ls)]
      simp [String.append_assoc]

end AgentGovernance
