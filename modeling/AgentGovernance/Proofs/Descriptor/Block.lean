-- SUMMARY: Where the structured block of a text lies: blocks come out as they were put in, and what dashes and marks of byte order on the first line do.
import Mathlib.Data.List.DropRight
import AgentGovernance.Proofs.Text.Lines

/-!
# Structured blocks among lines

Front matter is what stands between the first line of a text and the next line of three dashes, and a
fenced block is what stands between the first line that opens a fence of YAML and the next line that
closes one. A block that is written into a text in one of these ways is found again, whatever the text
around it.

Front matter is taken to begin wherever a text begins with three dashes, and marks of byte order are
passed over when dashes are looked for, but not when a fence is.
-/

namespace AgentGovernance

namespace Text

theorem trim_append_return (s : String) : trim (s ++ "\r") = trim s := by
  have hblank : isBlank '\r' = true := by decide
  have hend (cs : List Char) : dropEndWhile isBlank (cs ++ ['\r']) = dropEndWhile isBlank cs := by
    simp [dropEndWhile, hblank]
  simp only [trim, String.toList_append, List.dropWhile_append]
  split
  · rename_i hall
    simp [List.isEmpty_iff.1 hall, hblank, dropEndWhile]
  · simp [hend]

end Text

namespace Descriptor

variable {ls inside : List String} {l : String}

/-! ## Where a block ends -/

/-- `inside` is what stands in front of the first of the lines that satisfies `closes`. -/
def UpTo (closes : String → Bool) (ls inside : List String) : Prop :=
  ∃ closing after, ls = inside ++ closing :: after ∧ (∀ l ∈ inside, closes l = false) ∧
    closes closing = true

theorem UpTo.intro {closes : String → Bool} {closing : String} (after : List String)
    (hinside : ∀ l ∈ inside, closes l = false) (hclosing : closes closing = true) :
    UpTo closes (inside ++ closing :: after) inside :=
  ⟨closing, after, rfl, hinside, hclosing⟩

theorem takeUntil_eq_some_iff {closes : String → Bool} :
    takeUntil closes ls = some inside ↔ UpTo closes ls inside := by
  induction ls generalizing inside with
  | nil => simp [takeUntil, UpTo]
  | cons l ls ih =>
    rw [takeUntil]
    cases hl : closes l with
    | true =>
      simp only [if_true, Option.some.injEq]
      constructor
      · rintro rfl
        exact ⟨l, ls, rfl, by simp, hl⟩
      · rintro ⟨closing, after, heq, hinside, -⟩
        cases inside with
        | nil => rfl
        | cons l' inside =>
          obtain ⟨rfl, -⟩ := List.cons.inj heq
          exact absurd (hinside l List.mem_cons_self) (by simp [hl])
    | false =>
      simp only [Bool.false_eq_true, if_false, Option.map_eq_some_iff]
      constructor
      · rintro ⟨rest, hrest, rfl⟩
        obtain ⟨closing, after, rfl, hinside, hclosing⟩ := ih.1 hrest
        exact ⟨closing, after, rfl, List.forall_mem_cons.2 ⟨hl, hinside⟩, hclosing⟩
      · rintro ⟨closing, after, heq, hinside, hclosing⟩
        cases inside with
        | nil =>
          obtain ⟨rfl, -⟩ := List.cons.inj heq
          exact absurd hclosing (by simp [hl])
        | cons l' inside =>
          obtain ⟨rfl, rfl⟩ := List.cons.inj heq
          exact ⟨inside, ih.2 (UpTo.intro after (List.forall_mem_cons.1 hinside).2 hclosing), rfl⟩

/-! ## Fences -/

/-- A line closes a fence if it begins with the mark of one, blanks apart. -/
theorem closesFence_iff :
    closesFence l = true ↔ fence.toList <+: l.toList.dropWhile Text.isBlank := by
  rw [closesFence, List.isPrefixOf_iff_prefix, Text.trim, String.toList_ofList]
  constructor
  · exact fun h => h.trans (List.rdropWhile_prefix _ _)
  · rintro ⟨rest, hrest⟩
    have hkeep : Text.dropEndWhile Text.isBlank fence.toList = fence.toList := by decide
    rw [← hrest, Text.dropEndWhile, List.reverse_append, List.dropWhile_append]
    split
    · exact hkeep.symm ▸ List.prefix_rfl
    · rw [List.reverse_append, List.reverse_reverse]
      exact List.prefix_append _ _

/-- A line that opens a fence would close one too. -/
theorem closesFence_of_opensFence (h : opensFence l = true) : closesFence l = true := by
  rw [opensFence, Bool.or_eq_true, beq_iff_eq, beq_iff_eq] at h
  rw [closesFence, List.isPrefixOf_iff_prefix]
  rcases h with h | h <;> simp [h]

/-- Such a line begins with a blank or with the mark of a fence, so neither with a mark of byte order
nor with a dash. -/
theorem exists_cons_of_closesFence (h : closesFence l = true) :
    ∃ c cs, l.toList = c :: cs ∧ c.toNat ≠ 0xFEFF ∧ c ≠ '-' := by
  obtain ⟨rest, hrest⟩ := closesFence_iff.1 h
  cases hl : l.toList with
  | nil =>
    rw [hl] at hrest
    exact absurd hrest (by simp [fence])
  | cons c cs =>
    have hc : Text.isBlank c = true ∨ c = '\x60' := by
      by_cases hblank : Text.isBlank c = true
      · exact .inl hblank
      · rw [hl, List.dropWhile_cons_of_neg hblank] at hrest
        exact .inr (List.cons.inj hrest).1.symm
    refine ⟨c, cs, rfl, fun hmark => ?_, ?_⟩
    · rcases hc with hblank | rfl
      · simp [Text.isBlank, hmark] at hblank
      · exact absurd hmark (by decide)
    · rintro rfl
      exact absurd hc (by decide)

theorem opensFence_of_append_return (l : String) : opensFence (l ++ "\r") = opensFence l := by
  simp only [opensFence, Text.trim_append_return]

theorem closesFence_of_append_return (l : String) : closesFence (l ++ "\r") = closesFence l := by
  simp only [closesFence, Text.trim_append_return]

theorem closesFence_append (h : closesFence l = true) (more : String) :
    closesFence (l ++ more) = true := by
  have hprefix := closesFence_iff.1 h
  rw [closesFence_iff, String.toList_append, List.dropWhile_append]
  split
  · rename_i hall
    rw [List.isEmpty_iff.1 hall, List.prefix_nil] at hprefix
    exact absurd hprefix (by simp [fence])
  · exact hprefix.trans (List.prefix_append _ _)

/-! ## The two kinds of block -/

/-- `inside` is front matter: what stands between the first line and the next line of three dashes. -/
def FrontMatter (ls inside : List String) : Prop :=
  UpTo (fun l => Text.trimEnd l == "---") ls.tail inside

/-- `inside` is what stands between the first line that opens a fence of YAML and the first line
behind it that closes a fence. -/
def Fenced (ls inside : List String) : Prop :=
  ∃ before opening rest, ls = before ++ opening :: rest ∧ (∀ l ∈ before, opensFence l = false) ∧
    opensFence opening = true ∧ UpTo closesFence rest inside

theorem fenced_cons_of_not_opensFence (h : opensFence l = false) :
    Fenced (l :: ls) inside ↔ Fenced ls inside := by
  constructor
  · rintro ⟨before, opening, rest, heq, hbefore, hopening, hinside⟩
    cases before with
    | nil =>
      obtain ⟨rfl, -⟩ := List.cons.inj heq
      exact absurd hopening (by simp [h])
    | cons l' before =>
      obtain ⟨rfl, rfl⟩ := List.cons.inj heq
      exact ⟨before, opening, rest, rfl, (List.forall_mem_cons.1 hbefore).2, hopening, hinside⟩
  · rintro ⟨before, opening, rest, rfl, hbefore, hopening, hinside⟩
    exact ⟨l :: before, opening, rest, rfl, List.forall_mem_cons.2 ⟨h, hbefore⟩, hopening, hinside⟩

theorem fenced_cons_of_opensFence (h : opensFence l = true) :
    Fenced (l :: ls) inside ↔ UpTo closesFence ls inside := by
  constructor
  · rintro ⟨before, opening, rest, heq, hbefore, -, hinside⟩
    cases before with
    | nil =>
      obtain ⟨rfl, rfl⟩ := List.cons.inj heq
      exact hinside
    | cons l' before =>
      obtain ⟨rfl, -⟩ := List.cons.inj heq
      exact absurd (hbefore l List.mem_cons_self) (by simp [h])
  · exact fun hinside => ⟨[], l, ls, rfl, by simp, h, hinside⟩

theorem fenced_iff :
    (match ls.dropWhile fun l => !opensFence l with
      | [] => none
      | _ :: rest => takeUntil closesFence rest) = some inside ↔ Fenced ls inside := by
  induction ls with
  | nil => simp [Fenced]
  | cons l ls ih =>
    cases hl : opensFence l with
    | true => simp [hl, fenced_cons_of_opensFence hl, takeUntil_eq_some_iff]
    | false => simpa [hl, fenced_cons_of_not_opensFence hl] using ih

/-- The block of a text is its front matter if the text opens some, and its first fenced block
otherwise. -/
theorem block?_eq_some_iff {content body : String} :
    block? content = some body ↔ ∃ inside, "\n".intercalate inside = body ∧
      if opensFrontMatter content then FrontMatter (textLines content) inside
      else Fenced (textLines content) inside := by
  rw [block?, Option.map_eq_some_iff]
  refine exists_congr fun inside => and_comm.trans (and_congr_right fun _ => ?_)
  split
  · rw [takeUntil_eq_some_iff, FrontMatter, List.drop_one]
  · exact fenced_iff

theorem block?_of_frontMatter {content : String} (hopens : opensFrontMatter content = true)
    (h : FrontMatter (textLines content) inside) :
    block? content = some ("\n".intercalate inside) :=
  block?_eq_some_iff.2 ⟨inside, rfl, by rwa [if_pos hopens]⟩

theorem block?_of_fenced {content : String} (hopens : opensFrontMatter content = false)
    (h : Fenced (textLines content) inside) :
    block? content = some ("\n".intercalate inside) :=
  block?_eq_some_iff.2 ⟨inside, rfl, by rwa [hopens, if_neg Bool.false_ne_true]⟩

/-! ## The beginning of a text -/

/-- The text without the marks of byte order in front of it. -/
def unmarked (content : String) : String :=
  String.ofList (content.toList.dropWhile fun c => c.toNat == 0xFEFF)

theorem opensFrontMatter_iff {content : String} :
    opensFrontMatter content = true ↔ "---".toList <+: (unmarked content).toList := by
  simp only [opensFrontMatter, List.isPrefixOf_iff_prefix, unmarked, String.toList_ofList]

theorem unmarked_append {marks : String} (h : ∀ c ∈ marks.toList, c.toNat = 0xFEFF)
    (content : String) : unmarked (marks ++ content) = unmarked content := by
  rw [unmarked, String.toList_append,
    List.dropWhile_append_of_pos fun c hc => beq_iff_eq.2 (h c hc), unmarked]

theorem unmarked_of_cons {content : String} {c : Char} {cs : List Char}
    (h : content.toList = c :: cs) (hc : c.toNat ≠ 0xFEFF) : unmarked content = content := by
  rw [unmarked, h, List.dropWhile_cons_of_neg (by simpa using hc), ← h, String.ofList_toList]

/-- Whether a text opens front matter does not depend on what follows its last line end. -/
theorem opensFrontMatter_append {s : String} (h : opensFrontMatter s = false) (hends : EndsLine s)
    (hne : s ≠ "") (rest : String) : opensFrontMatter (s ++ rest) = false := by
  rw [← Bool.not_eq_true, opensFrontMatter_iff] at h ⊢
  obtain ⟨front, hs⟩ : ∃ front, s.toList = front ++ ['\n'] := by
    rcases List.eq_nil_or_concat s.toList with hs | ⟨front, c, hs⟩
    · exact absurd (String.toList_eq_nil_iff.1 hs) hne
    · exact ⟨front, by rw [hs, hends c (by simp [hs]), List.concat_eq_append]⟩
  obtain ⟨left, hleft⟩ : ∃ left, (unmarked s).toList = left ++ ['\n'] := by
    rw [unmarked, String.toList_ofList, hs, List.dropWhile_append]
    split
    · exact ⟨[], rfl⟩
    · exact ⟨_, rfl⟩
  have hwhole : (unmarked (s ++ rest)).toList = left ++ ['\n'] ++ rest.toList := by
    rw [unmarked, String.toList_ofList] at hleft
    rw [unmarked, String.toList_ofList, String.toList_append, List.dropWhile_append, hleft]
    simp
  rw [hleft] at h
  rw [hwhole]
  intro hdashes
  rcases List.prefix_or_prefix_of_prefix hdashes (List.prefix_append _ _) with hwithin | hbeyond
  · exact h hwithin
  · exact absurd (hbeyond.subset (by simp : '\n' ∈ left ++ ['\n'])) (by decide)

/-- No front matter is opened on a line that closes a fence. -/
theorem opensFrontMatter_of_closesFence (h : closesFence l = true) (rest : String) :
    opensFrontMatter (l ++ rest) = false := by
  obtain ⟨c, cs, hl, hmark, hdash⟩ := exists_cons_of_closesFence h
  have hcons : (l ++ rest).toList = c :: (cs ++ rest.toList) := by simp [hl]
  rw [← Bool.not_eq_true, opensFrontMatter_iff, unmarked_of_cons hcons hmark, hcons]
  exact fun hdashes => hdash (List.cons_prefix_cons.1 hdashes).1.symm

/-! ## Blocks that are put into a text -/

theorem frontMatter_textLines {first tail : String} (hls : ∀ l ∈ ls, IsLine l)
    (hdashes : ∀ l ∈ ls, Text.trimEnd l ≠ "---") (hfirst : '\n' ∉ first.toList) :
    FrontMatter (textLines (first ++ "\n" ++
      (String.join (ls.map (· ++ "\n")) ++ ("---" ++ "\n" ++ tail)))) ls := by
  obtain ⟨l, -, hlines⟩ := exists_textLines_append_newline hfirst
    (String.join (ls.map (· ++ "\n")) ++ ("---" ++ "\n" ++ tail))
  rw [hlines, textLines_join hls, textLines_line (by decide), FrontMatter, List.tail_cons]
  exact UpTo.intro _ (fun l hl => by simpa using hdashes l hl) (by decide)

theorem fenced_textLines {prose opening closing tail : String} (hls : ∀ l ∈ ls, IsLine l)
    (hcloses : ∀ l ∈ ls, closesFence l = false) (hends : EndsLine prose)
    (hopens : ∀ l ∈ textLines prose, opensFence l = false)
    (hopening : '\n' ∉ opening.toList) (hopeningFence : opensFence opening = true)
    (hclosing : '\n' ∉ closing.toList) (hclosingFence : closesFence closing = true) :
    Fenced (textLines (prose ++ (opening ++ "\n" ++
      (String.join (ls.map (· ++ "\n")) ++ (closing ++ tail))))) ls := by
  have hne : closing ≠ "" := by
    rintro rfl
    exact absurd hclosingFence (by decide)
  obtain ⟨o, ho, hopeningLines⟩ := exists_textLines_append_newline hopening
    (String.join (ls.map (· ++ "\n")) ++ (closing ++ tail))
  obtain ⟨c, more, after, hc, hclosingLines⟩ := exists_textLines_cons hclosing hne tail
  have hoFence : opensFence o = true := by
    rcases ho with rfl | ho
    · exact hopeningFence
    · exact (opensFence_of_append_return o).symm.trans (ho ▸ hopeningFence)
  have hcFence : closesFence c = true := by
    have hfront := closesFence_append hclosingFence more
    rcases hc with rfl | hc
    · exact hfront
    · exact (closesFence_of_append_return c).symm.trans (hc ▸ hfront)
  rw [textLines_append hends, hopeningLines, textLines_join hls, hclosingLines]
  exact ⟨_, o, _, rfl, hopens, hoFence, UpTo.intro after hcloses hcFence⟩

/-- A block is read as it was written: between the first line of a text and the next line of three
dashes, marks of byte order apart, or in the first fence behind prose. -/
theorem block?_of_embedded (ls : List String) (hls : ∀ l ∈ ls, IsLine l) (tail : String) :
    (ls ≠ [] → (∀ l ∈ ls, Text.trimEnd l ≠ "---") → ∀ marks : Nat,
      block? (String.ofList (List.replicate marks '\ufeff') ++ "---\n" ++ "\n".intercalate ls ++
        "\n---\n" ++ tail) = some ("\n".intercalate ls)) ∧
    ((∀ l ∈ ls, closesFence l = false) → ∀ prose opening closing : String,
      opensFrontMatter prose = false → EndsLine prose →
      (∀ l ∈ textLines prose, opensFence l = false) →
      '\n' ∉ opening.toList → opensFence opening = true →
      '\n' ∉ closing.toList → closesFence closing = true →
      block? (prose ++ opening ++ "\n" ++ String.join (ls.map (· ++ "\n")) ++ closing ++ tail) =
        some ("\n".intercalate ls)) := by
  constructor
  · intro hne hdashes count
    set marks := String.ofList (List.replicate count '\ufeff') with hmarks
    have hmark : ∀ c ∈ marks.toList, c = '\ufeff' := by simp [hmarks, List.mem_replicate]
    have htext : marks ++ "---\n" ++ "\n".intercalate ls ++ "\n---\n" ++ tail =
        marks ++ "---" ++ "\n" ++
          (String.join (ls.map (· ++ "\n")) ++ ("---" ++ "\n" ++ tail)) := by
      rw [← intercalate_append_newline hne]
      simp [← String.toList_inj]
    have hopens : opensFrontMatter (marks ++ "---\n" ++ "\n".intercalate ls ++ "\n---\n" ++ tail) =
        true := by
      rw [opensFrontMatter_iff, String.append_assoc, String.append_assoc, String.append_assoc,
        unmarked_append fun c hc => by rw [hmark c hc]; rfl]
      simp [unmarked]
    refine block?_of_frontMatter hopens ?_
    rw [htext]
    refine frontMatter_textLines hls hdashes ?_
    simp [hmarks, List.mem_replicate]
  · intro hcloses prose opening closing hprose hends hopens hopening hopeningFence hclosing
      hclosingFence
    have htext : prose ++ opening ++ "\n" ++ String.join (ls.map (· ++ "\n")) ++ closing ++ tail =
        prose ++ (opening ++ "\n" ++ (String.join (ls.map (· ++ "\n")) ++ (closing ++ tail))) := by
      simp [← String.toList_inj]
    rw [htext]
    refine block?_of_fenced ?_ (fenced_textLines hls hcloses hends hopens hopening hopeningFence
      hclosing hclosingFence)
    by_cases hempty : prose = ""
    · rw [hempty, String.empty_append, String.append_assoc]
      exact opensFrontMatter_of_closesFence (closesFence_of_opensFence hopeningFence) _
    · exact opensFrontMatter_append hprose hends hempty _

/-- A descriptor in a manual, as front matter behind a mark and as a fence behind prose with line ends of
another kind. -/
theorem block?_of_embedded_manual :
    let ls := ["agent:", "  id: ops", "  name: --- Ops"]
    block? (String.ofList (List.replicate 1 '\ufeff') ++ "---\n" ++ "\n".intercalate ls ++ "\n---\n" ++
      "agent:\n  id: other") = some "agent:\n  id: ops\n  name: --- Ops" ∧
    block? ("# Ops\r\n```text\n---\n" ++ "  ```yml\r" ++ "\n" ++ String.join (ls.map (· ++ "\n")) ++
      "````" ++ "agent:\n  id: other") = some "agent:\n  id: ops\n  name: --- Ops" := by
  intro ls
  obtain ⟨hfront, hfence⟩ := block?_of_embedded ls (by decide +kernel) "agent:\n  id: other"
  exact ⟨hfront (by decide) (by decide +kernel) 1,
    hfence (by decide +kernel) "# Ops\r\n```text\n---\n" "  ```yml\r" "````" (by decide +kernel)
      (by decide +kernel) (by decide +kernel) (by decide +kernel) (by decide +kernel)
      (by decide +kernel) (by decide +kernel)⟩

/-! ## Dashes and marks on the first line -/

theorem exists_marks (content : String) :
    ∃ marks, content = marks ++ unmarked content ∧ ∀ c ∈ marks.toList, c.toNat = 0xFEFF := by
  refine ⟨String.ofList (content.toList.takeWhile fun c => c.toNat == 0xFEFF), ?_, ?_⟩
  · simp [unmarked, ← String.toList_inj]
  · intro c hc
    rw [String.toList_ofList] at hc
    simpa using List.mem_takeWhile_imp hc

theorem unmarked_mark_append_ne (content : String) : unmarked content ≠ "\ufeff" ++ content := by
  obtain ⟨marks, hcontent, -⟩ := exists_marks content
  intro heq
  have hlength := congrArg (fun s => s.toList.length) hcontent
  simp only [heq, String.toList_append, List.length_append] at hlength
  have hone : "\ufeff".toList.length = 1 := rfl
  omega

/-- Marks change the first line only, and a line with marks in front opens no fence. -/
theorem exists_textLines_of_marked {content : String} (h : unmarked content ≠ content) :
    ∃ l, opensFence l = false ∧
      textLines content = l :: (textLines (unmarked content)).tail := by
  obtain ⟨marks, hcontent, hmarks⟩ := exists_marks content
  have hne : marks ≠ "" := by
    rintro rfl
    exact h (by simpa using hcontent.symm)
  have hline : IsLine marks := by
    constructor
    · exact fun hmem => absurd (hmarks _ hmem) (by decide)
    · exact fun hlast => absurd (hmarks _ (List.mem_of_getLast? hlast)) (by decide)
  have hlines := textLines_prepend hline hne (unmarked content)
  rw [← hcontent] at hlines
  refine ⟨_, ?_, hlines⟩
  refine Bool.eq_false_iff.2 fun hopens => ?_
  obtain ⟨c, cs, hl, hmark, -⟩ := exists_cons_of_closesFence (closesFence_of_opensFence hopens)
  obtain ⟨m, ms, hm⟩ := List.exists_cons_of_ne_nil (mt String.toList_eq_nil_iff.1 hne)
  rw [String.toList_append, hm, List.cons_append] at hl
  obtain ⟨rfl, -⟩ := List.cons.inj hl
  exact hmark (hmarks m (by simp [hm]))

/-- The lines that satisfy a description, put together, make the text. -/
def Reads (description : List String → Prop) (body : String) : Prop :=
  ∃ inside, description inside ∧ "\n".intercalate inside = body

/-- The first of the lines opens a fence. -/
def OpensAtOnce (ls : List String) : Prop := ∃ l ∈ ls.head?, opensFence l = true

@[simp] theorem opensAtOnce_cons : OpensAtOnce (l :: ls) ↔ opensFence l = true := by
  simp [OpensAtOnce]

theorem reads_fenced_tail_iff (h : ¬OpensAtOnce ls) {body : String} :
    Reads (Fenced ls.tail) body ↔ Reads (Fenced ls) body := by
  cases ls with
  | nil => rfl
  | cons l ls =>
    have hl : opensFence l = false := Bool.eq_false_iff.2 (mt opensAtOnce_cons.2 h)
    exact exists_congr fun _ => and_congr_left fun _ => (fenced_cons_of_not_opensFence hl).symm

theorem exists_upTo {closes : String → Bool} (h : ∃ l ∈ ls, closes l = true) :
    ∃ inside, UpTo closes ls inside := by
  obtain ⟨closing, hclosing⟩ := Option.isSome_iff_exists.1 (List.find?_isSome.2 h)
  obtain ⟨hcloses, before, after, rfl, hbefore⟩ := List.find?_eq_some_iff_append.1 hclosing
  exact ⟨before, UpTo.intro after (fun l hl => by simpa using hbefore l hl) hcloses⟩

/-- If there is a fenced block behind a line that opens a fence, then one begins on that line. -/
theorem exists_fenced_of_tail (hfirst : OpensAtOnce ls) (h : Fenced ls.tail inside) :
    ∃ inside', Fenced ls inside' := by
  cases ls with
  | nil => exact ⟨inside, h⟩
  | cons l ls =>
    have hl := opensAtOnce_cons.1 hfirst
    obtain ⟨before, opening, rest, hls, -, hopening, -⟩ := h
    have hmem : opening ∈ ls := by
      rw [List.tail_cons] at hls
      simp [hls]
    have hcloses : ∃ l ∈ ls, closesFence l = true :=
      ⟨opening, hmem, closesFence_of_opensFence hopening⟩
    obtain ⟨inside', hinside'⟩ := exists_upTo hcloses
    exact ⟨inside', (fenced_cons_of_opensFence hl).2 hinside'⟩

/-- What the block of a text reads, said of the lines without marks: front matter behind dashes, and
otherwise the first fenced block, which is not looked for on a first line with marks. -/
theorem block?_eq_some_iff_reads {content body : String} :
    block? content = some body ↔
      if opensFrontMatter content then Reads (FrontMatter (textLines (unmarked content))) body
      else if unmarked content = content then Reads (Fenced (textLines (unmarked content))) body
      else Reads (Fenced (textLines (unmarked content)).tail) body := by
  have hreads : block? content = some body ↔
      if opensFrontMatter content then Reads (FrontMatter (textLines content)) body
      else Reads (Fenced (textLines content)) body := by
    rw [block?_eq_some_iff]
    split <;> exact exists_congr fun _ => and_comm
  by_cases hmarked : unmarked content = content
  · simp [hreads, hmarked]
  · obtain ⟨l, hl, hlines⟩ := exists_textLines_of_marked hmarked
    have hfirst : ¬OpensAtOnce (textLines content) := by simp [hlines, hl]
    have htail : (textLines content).tail = (textLines (unmarked content)).tail := by rw [hlines]; rfl
    have hfront : FrontMatter (textLines content) = FrontMatter (textLines (unmarked content)) := by
      funext inside
      rw [FrontMatter, FrontMatter, htail]
    rw [hreads, ← reads_fenced_tail_iff hfirst, htail, hfront, if_neg hmarked]

/-- A mark in front of a text hides its first line from the search for a fence. -/
theorem block?_mark_append {content body : String} :
    block? ("\ufeff" ++ content) = some body ↔
      if opensFrontMatter content then Reads (FrontMatter (textLines (unmarked content))) body
      else Reads (Fenced (textLines (unmarked content)).tail) body := by
  have hsame : unmarked ("\ufeff" ++ content) = unmarked content :=
    unmarked_append (by simp) content
  have hopens : opensFrontMatter ("\ufeff" ++ content) = opensFrontMatter content := by
    rw [Bool.eq_iff_iff, opensFrontMatter_iff, opensFrontMatter_iff, hsame]
  rw [block?_eq_some_iff_reads, hsame, hopens, if_neg (unmarked_mark_append_ne content)]

/-- Where the first line opens a fence, the text with a mark in front has the same block exactly if
the first fenced block behind that line reads as the one that begins there. -/
theorem mark_transparent_iff {content : String} (hopens : opensFrontMatter content = false)
    (hmarked : unmarked content = content) (hfirst : OpensAtOnce (textLines (unmarked content))) :
    block? ("\ufeff" ++ content) = block? content ↔
      ∀ inside, Fenced (textLines (unmarked content)) inside →
        Reads (Fenced (textLines (unmarked content)).tail) ("\n".intercalate inside) := by
  have hwith (body : String) : block? ("\ufeff" ++ content) = some body ↔
      Reads (Fenced (textLines (unmarked content)).tail) body := by
    rw [block?_mark_append, hopens, if_neg Bool.false_ne_true]
  have hwithout (body : String) : block? content = some body ↔
      Reads (Fenced (textLines (unmarked content))) body := by
    rw [block?_eq_some_iff_reads, hopens, if_neg Bool.false_ne_true, if_pos hmarked]
  constructor
  · intro hsame inside hinside
    exact (hwith _).1 (hsame.trans ((hwithout _).2 ⟨inside, hinside, rfl⟩))
  · intro hall
    cases hblock : block? content with
    | some body =>
      obtain ⟨inside, hinside, rfl⟩ := (hwithout body).1 hblock
      exact (hwith _).2 (hall inside hinside)
    | none =>
      -- Nothing is found behind the first line either: it would close the fence opened there.
      refine Option.eq_none_iff_forall_ne_some.2 fun body hbody => ?_
      obtain ⟨next, hnext, -⟩ := (hwith body).1 hbody
      obtain ⟨inside, hinside⟩ := exists_fenced_of_tail hfirst hnext
      exact absurd ((hwithout _).2 ⟨inside, hinside, rfl⟩) (by simp [hblock])

/-- The block of a text is its first fenced block, and a mark of byte order in front of the text
changes nothing, unless the text begins with dashes or its first line opens a fence behind a mark. The
block is then what stands in front of the next three dashes, or the first fenced block behind the first
line. -/
theorem fenced_block_taken_iff (content : String) :
    let ls := textLines (unmarked content)
    (∀ inside, Fenced ls inside →
      (block? content = some ("\n".intercalate inside) ↔
        (opensFrontMatter content = true → Reads (FrontMatter ls) ("\n".intercalate inside)) ∧
        (opensFrontMatter content = false → unmarked content ≠ content → OpensAtOnce ls →
          Reads (Fenced ls.tail) ("\n".intercalate inside)))) ∧
    (block? ("\ufeff" ++ content) = block? content ↔
      (opensFrontMatter content = false → unmarked content = content → OpensAtOnce ls →
        ∀ inside, Fenced ls inside → Reads (Fenced ls.tail) ("\n".intercalate inside))) := by
  dsimp only
  constructor
  · intro inside hinside
    have hreads : Reads (Fenced (textLines (unmarked content))) ("\n".intercalate inside) :=
      ⟨inside, hinside, rfl⟩
    rw [block?_eq_some_iff_reads]
    split_ifs with hopens hmarked
    · simp [hopens]
    · simp [hopens, hmarked, hmarked ▸ hreads]
    · by_cases hfirst : OpensAtOnce (textLines (unmarked content))
      · simp [hopens, hmarked, hfirst]
      · simp [hopens, hfirst, (reads_fenced_tail_iff hfirst).2 hreads]
  · by_cases hbegins : opensFrontMatter content = false ∧ unmarked content = content ∧
        OpensAtOnce (textLines (unmarked content))
    · obtain ⟨hopens, hmarked, hfirst⟩ := hbegins
      exact (mark_transparent_iff hopens hmarked hfirst).trans
        ⟨fun h _ _ _ => h, fun h => h hopens hmarked hfirst⟩
    · refine iff_of_true (Option.ext fun body => ?_) fun hopens hmarked hfirst =>
        absurd ⟨hopens, hmarked, hfirst⟩ hbegins
      rw [block?_mark_append, block?_eq_some_iff_reads]
      split_ifs with hopens hmarked
      · rfl
      · exact reads_fenced_tail_iff fun hfirst =>
          hbegins ⟨Bool.eq_false_iff.2 hopens, hmarked, hfirst⟩
      · rfl

/-- A fence behind prose is found through a mark of byte order. -/
theorem fenced_block_taken_iff_prose :
    let content := "\ufeff# Ops\n```yml\nid: ops\n```\n"
    Fenced (textLines (unmarked content)) ["id: ops"] ∧ block? content = some "id: ops" ∧
      block? ("\ufeff" ++ content) = block? content := by
  intro content
  have hlines : textLines (unmarked content) = ["# Ops", "```yml", "id: ops", "```"] := by
    decide +kernel
  have hfenced : Fenced (textLines (unmarked content)) ["id: ops"] := by
    rw [hlines]
    exact ⟨["# Ops"], "```yml", _, rfl, by decide +kernel, by decide +kernel,
      "```", [], rfl, by decide +kernel, by decide +kernel⟩
  have hopens : opensFrontMatter content = false := by decide +kernel
  have hfirst : ¬OpensAtOnce (textLines (unmarked content)) := by
    rw [hlines, opensAtOnce_cons]
    decide +kernel
  obtain ⟨hblock, hmark⟩ := fenced_block_taken_iff content
  exact ⟨hfenced, (hblock _ hfenced).2 ⟨fun h => absurd h (by simp [hopens]),
    fun _ _ h => absurd h hfirst⟩, hmark.2 fun _ _ h => absurd h hfirst⟩

/-- Dashes that are no delimiter hide a fenced block, and so does a mark in front of a fence on the
first line. -/
theorem dashes_and_mark_hide_fence :
    let dashes := "--- Ops ---\n```yaml\nid: ops\n```\n"
    let plain := "```yaml\nid: ops\n```\n"
    ((textLines (unmarked dashes)).head?.map Text.trimEnd ≠ some "---" ∧
      Fenced (textLines (unmarked dashes)) ["id: ops"] ∧ block? dashes ≠ some "id: ops") ∧
    block? ("\ufeff" ++ plain) ≠ block? plain := by
  intro dashes plain
  have hlines : textLines (unmarked dashes) = ["--- Ops ---", "```yaml", "id: ops", "```"] := by
    decide +kernel
  refine ⟨⟨by decide +kernel, ?_, by decide +kernel⟩, by decide +kernel⟩
  rw [hlines]
  exact ⟨["--- Ops ---"], "```yaml", _, rfl, by decide +kernel, by decide +kernel,
    "```", [], rfl, by decide +kernel, by decide +kernel⟩

end Descriptor

end AgentGovernance
