-- SUMMARY: The components of a path: with a name joined to it, of its parent, and without upward steps.
import AgentGovernance.Path

/-!
# Components of paths

Joining and taking the parent work on texts. On components they do what one expects: joining a plain
name adds it at the end, and the parent lacks the last component. A path that never leads upwards is
made of names.
-/

namespace AgentGovernance.Path

/-! ## Segments -/

theorem splitSegments_append (before cs rest : List Char) (h : '/' ∉ cs) :
    splitSegments before (cs ++ rest) = splitSegments (cs.reverse ++ before) rest := by
  induction cs generalizing before with
  | nil => rfl
  | cons c cs ih =>
    simp only [List.mem_cons, not_or] at h
    rw [List.cons_append, splitSegments, ih _ h.2]
    · simp
    · exact fun hc => h.1 hc.symm

theorem splitSegments_slash (before cs rest : List Char) :
    splitSegments before (cs ++ '/' :: rest) = splitSegments before cs ++ splitSegments [] rest := by
  fun_induction splitSegments before cs with
  | case1 => rfl
  | case2 _ cs ih => exact congrArg _ ih
  | case3 _ c cs hc ih =>
    rw [List.cons_append, splitSegments, ih]
    exact hc

/-- A text without slashes is one segment. -/
theorem segments_of_not_mem {s : String} (h : '/' ∉ s.toList) : (Path.mk s).segments = [s] := by
  have hsplit := splitSegments_append [] s.toList [] h
  rw [List.append_nil, List.append_nil] at hsplit
  simp [segments, hsplit, splitSegments]

/-- A slash divides segments. -/
theorem segments_append_slash (s t : String) :
    (Path.mk (s ++ "/" ++ t)).segments = (Path.mk s).segments ++ (Path.mk t).segments := by
  unfold segments
  rw [← splitSegments_slash]
  simp [String.toList_append]

theorem not_mem_of_mem_splitSegments {before cs : List Char} (hbefore : '/' ∉ before) :
    ∀ s ∈ splitSegments before cs, '/' ∉ s.toList := by
  fun_induction splitSegments before cs with
  | case1 before => simpa using hbefore
  | case2 before cs ih =>
    refine List.forall_mem_cons.2 ⟨by simpa using hbefore, ih (by simp)⟩
  | case3 before c cs hc ih =>
    refine ih ?_
    simp only [List.mem_cons, not_or]
    exact ⟨fun h => hc h.symm, hbefore⟩

theorem not_mem_of_mem_segments {p : Path} : ∀ s ∈ p.segments, '/' ∉ s.toList :=
  not_mem_of_mem_splitSegments (by simp)

theorem splitSegments_ne_nil (before cs : List Char) : splitSegments before cs ≠ [] := by
  fun_induction splitSegments before cs with
  | case1 => simp
  | case2 => simp
  | case3 _ _ _ _ ih => exact ih

theorem segments_ne_nil (p : Path) : p.segments ≠ [] := splitSegments_ne_nil [] p.text.toList

theorem segments_intercalate {segs : List String} (hne : segs ≠ [])
    (h : ∀ s ∈ segs, '/' ∉ s.toList) : (Path.mk ("/".intercalate segs)).segments = segs := by
  induction segs with
  | nil => exact absurd rfl hne
  | cons s rest ih =>
    obtain ⟨hs, hrest⟩ := List.forall_mem_cons.1 h
    cases rest with
    | nil =>
      rw [String.intercalate_singleton]
      exact segments_of_not_mem hs
    | cons t ts =>
      rw [String.intercalate_cons_cons, segments_append_slash, ih (by simp) hrest,
        segments_of_not_mem hs]
      rfl

theorem intercalate_splitSegments (before cs : List Char) :
    "/".intercalate (splitSegments before cs) = String.ofList (before.reverse ++ cs) := by
  fun_induction splitSegments before cs with
  | case1 before => simp
  | case2 before cs ih =>
    rw [String.intercalate_cons_of_ne_nil (splitSegments_ne_nil _ _), ih]
    apply String.toList_injective
    simp
  | case3 before c cs _ ih =>
    rw [ih]
    simp

/-- The segments spell the text. -/
theorem intercalate_segments (p : Path) : "/".intercalate p.segments = p.text := by
  rw [segments, intercalate_splitSegments]
  simp

theorem mem_intercalate_iff {c : Char} (hc : c ≠ '/') {segs : List String} :
    c ∈ ("/".intercalate segs).toList ↔ ∃ s ∈ segs, c ∈ s.toList := by
  induction segs with
  | nil => simp
  | cons s rest ih =>
    cases rest with
    | nil => simp
    | cons t rest =>
      rw [String.intercalate_cons_cons, String.toList_append, String.toList_append, List.mem_append,
        List.mem_append, ih]
      simp [hc]

/-- Apart from slashes, a path has the characters of its segments. -/
theorem mem_text_iff {p : Path} {c : Char} (hc : c ≠ '/') :
    c ∈ p.text.toList ↔ ∃ s ∈ p.segments, c ∈ s.toList := by
  rw [← mem_intercalate_iff hc, intercalate_segments]

/-! ## Components -/

/-- The components that segments spell. -/
def spelled : List String → List Component
  | [] => []
  | first :: rest =>
    (if first.isEmpty then [.root] else if first == "." then [.here]
      else (innerComponent? first).toList) ++ rest.filterMap innerComponent?

theorem spelled_append {segs : List String} (hne : segs ≠ []) (s : String) :
    spelled (segs ++ [s]) = spelled segs ++ (innerComponent? s).toList := by
  cases segs with
  | nil => exact absurd rfl hne
  | cons first rest =>
    simp only [spelled, List.cons_append, List.filterMap_append, List.append_assoc]
    cases h : innerComponent? s <;> simp [h]

theorem dropLast_spelled_singleton (s : String) : (spelled [s]).dropLast = [] := by
  simp only [spelled, List.filterMap_nil, List.append_nil]
  split
  · rfl
  split
  · rfl
  cases innerComponent? s <;> rfl

theorem components_eq_spelled {p : Path} (hp : p.text ≠ "") : p.components = spelled p.segments := by
  unfold components
  split
  · rename_i hnil
    exact absurd hnil p.segments_ne_nil
  · rename_i first rest hsegs
    simp only [spelled]
    split
    · rename_i hfirst
      have hrest : rest ≠ [] := by
        rintro rfl
        have htext := p.intercalate_segments
        rw [hsegs, String.intercalate_singleton] at htext
        exact hp (htext.symm.trans (by simpa using hfirst))
      simp [hsegs, hfirst, hrest]
    · rename_i hfirst
      split
      · rename_i hdot
        simp [hsegs, hfirst, hdot]
      · rename_i hdot
        simp [hsegs, hfirst, hdot]

/-! ## Joining names -/

/-- The text is a name: it is not empty, has no slash and is made of more than dots. -/
structure IsName (s : String) : Prop where
  noSlash : '/' ∉ s.toList
  ne_empty : s ≠ ""
  ne_dot : s ≠ "."
  ne_dots : s ≠ ".."

theorem IsName.innerComponent? {s : String} (h : IsName s) :
    innerComponent? s = some (.name s) := by
  simp [Path.innerComponent?, h.ne_empty, h.ne_dot, h.ne_dots]

theorem IsName.not_isAbsolute {s : String} (h : IsName s) : (Path.mk s).isAbsolute = false := by
  unfold isAbsolute
  cases hcs : s.toList with
  | nil => rfl
  | cons c cs =>
    have hc : c ≠ '/' := by
      rintro rfl
      exact h.noSlash (by simp [hcs])
    simpa using hc

theorem IsName.components {s : String} (h : IsName s) : (Path.mk s).components = [.name s] := by
  rw [components_eq_spelled h.ne_empty, segments_of_not_mem h.noSlash]
  simp [spelled, h.ne_empty, h.ne_dot, h.innerComponent?]

theorem isName_of_innerComponent? {s t : String} (hs : '/' ∉ s.toList)
    (h : Path.innerComponent? s = some (.name t)) : IsName t := by
  unfold Path.innerComponent? at h
  split at h
  · cases h
  · rename_i hidle
    split at h
    · cases h
    · rename_i hdots
      cases h
      simp only [Bool.or_eq_true, not_or, beq_iff_eq] at hidle hdots
      exact ⟨hs, by simpa using hidle.1, hidle.2, hdots⟩

/-- What is a name among the components is a name. -/
theorem isName_of_mem_components {p : Path} {t : String} (h : .name t ∈ p.components) :
    IsName t := by
  have hp : p.text ≠ "" := by
    intro htext
    obtain rfl : p = ⟨""⟩ := by rw [← htext]
    cases h
  rw [components_eq_spelled hp] at h
  have hsegments := p.not_mem_of_mem_segments
  cases hsegs : p.segments with
  | nil => exact absurd hsegs p.segments_ne_nil
  | cons first rest =>
    rw [hsegs] at h hsegments
    obtain ⟨hfirst, hrest⟩ := List.forall_mem_cons.1 hsegments
    rcases List.mem_append.1 h with hin | hin
    · split at hin
      · simp at hin
      · split at hin
        · simp at hin
        · exact isName_of_innerComponent? hfirst (Option.mem_toList.1 hin)
    · obtain ⟨s, hs, hname⟩ := List.mem_filterMap.1 hin
      exact isName_of_innerComponent? (hrest s hs) hname

/-- A path with a name joined to it is a text with a slash and the name after it. Up to a slash at its
end that text is the one of the path. -/
theorem join_eq {p : Path} (hp : p.text ≠ "") {s : String} (hs : IsName s) :
    ∃ base, p.join s = ⟨base ++ "/" ++ s⟩ ∧ spelled (Path.mk base).segments = spelled p.segments ∧
      (p.text = base ∨ p.text = base ++ "/") := by
  unfold join
  rw [hs.not_isAbsolute, if_neg Bool.false_ne_true]
  split
  · rename_i hend
    obtain ⟨cs, hcs⟩ : ∃ cs, p.text.toList = cs ++ ['/'] := by
      simpa [hp, List.getLast?_eq_some_iff] using hend
    have htext : p.text = String.ofList cs ++ "/" ++ "" := by
      apply String.toList_injective
      simp [hcs]
    refine ⟨String.ofList cs, ?_, ?_, .inr ?_⟩
    · rw [htext, String.append_empty]
    · rw [show p = ⟨String.ofList cs ++ "/" ++ ""⟩ by rw [← htext], segments_append_slash,
        show (Path.mk "").segments = [""] from rfl, spelled_append (segments_ne_nil _)]
      simp [Path.innerComponent?]
    · rw [htext, String.append_empty]
  · exact ⟨p.text, rfl, rfl, .inl rfl⟩

theorem append_slash_ne_empty (s t : String) : s ++ "/" ++ t ≠ "" := by
  intro h
  have hlist := congrArg String.toList h
  simp at hlist

theorem getLast?_segments_join {p : Path} (hp : p.text ≠ "") {s : String} (hs : IsName s) :
    (p.join s).segments.getLast? = some s := by
  obtain ⟨base, hjoin, -⟩ := join_eq hp hs
  rw [hjoin, segments_append_slash, segments_of_not_mem hs.noSlash, List.getLast?_concat]

/-- Joining a name adds a component. -/
theorem components_join (p : Path) {s : String} (hs : IsName s) :
    (p.join s).components = p.components ++ [.name s] := by
  by_cases hp : p.text = ""
  · obtain rfl : p = ⟨""⟩ := by rw [← hp]
    have hjoin : (Path.mk "").join s = ⟨s⟩ := by
      unfold join
      rw [hs.not_isAbsolute, if_neg Bool.false_ne_true]
      simp
    rw [hjoin, hs.components]
    rfl
  · obtain ⟨base, hjoin, hbase, -⟩ := join_eq hp hs
    rw [hjoin, components_eq_spelled (append_slash_ne_empty _ _), segments_append_slash,
      segments_of_not_mem hs.noSlash, spelled_append (segments_ne_nil _), hs.innerComponent?, hbase,
      components_eq_spelled hp]
    rfl

/-- Joining names one after another adds them all. -/
theorem components_foldl_join (p : Path) {names : List String} (h : ∀ s ∈ names, IsName s) :
    (names.foldl join p).components = p.components ++ names.map .name := by
  induction names generalizing p with
  | nil => exact (List.append_nil _).symm
  | cons s names ih =>
    obtain ⟨hs, hnames⟩ := List.forall_mem_cons.1 h
    rw [List.foldl_cons, ih (p.join s) hnames, components_join p hs, List.append_assoc]
    rfl

theorem filterMap_innerComponent? {names : List String} (h : ∀ s ∈ names, IsName s) :
    names.filterMap Path.innerComponent? = names.map .name := by
  induction names with
  | nil => rfl
  | cons s names ih =>
    obtain ⟨hs, hnames⟩ := List.forall_mem_cons.1 h
    rw [List.filterMap_cons_some hs.innerComponent?, ih hnames, List.map_cons]

/-- The names of an absolute path are those that it was made of. -/
theorem names_ofNames {names : List String} (h : ∀ s ∈ names, IsName s) :
    (ofNames names).names = names := by
  unfold ofNames
  split
  · rename_i hnil
    rw [List.isEmpty_iff.1 hnil]
    decide +kernel
  · rename_i hne
    have hsegs : (Path.mk ("/" ++ "/".intercalate names)).segments = "" :: names := by
      have hsplit := segments_append_slash "" ("/".intercalate names)
      rw [String.empty_append, segments_intercalate (by simpa using hne)
        fun s hs => (h s hs).noSlash] at hsplit
      exact hsplit
    have hcomponents : (Path.mk ("/" ++ "/".intercalate names)).components =
        .root :: names.map .name := by
      have htext : "/" ++ "/".intercalate names ≠ "" := by
        rw [← String.empty_append (s := "/")]
        exact append_slash_ne_empty "" _
      rw [components_eq_spelled htext, hsegs]
      simp [spelled, filterMap_innerComponent? h]
    rw [Path.names, hcomponents, List.filterMap_cons_none rfl, List.filterMap_map]
    exact List.filterMap_some

/-! ## Parents -/

theorem dropIdle_ne_nil {segs : List String} (h : segs ≠ []) : dropIdle segs ≠ [] := by
  fun_induction dropIdle segs with
  | case1 => exact absurd rfl h
  | case2 => simp
  | case3 s before hbefore _ ih => exact ih (by simpa using hbefore)
  | case4 => simp

theorem dropIdle_subset (segs : List String) : dropIdle segs ⊆ segs := by
  fun_induction dropIdle segs with
  | case1 => exact List.Subset.refl _
  | case2 => exact List.Subset.refl _
  | case3 s before _ _ ih => exact List.subset_cons_of_subset _ ih
  | case4 => exact List.Subset.refl _

/-- What idle segments were dropped behind is not idle, unless it stands alone. -/
theorem innerComponent?_of_dropIdle {segs before : List String} {s : String}
    (h : dropIdle segs = s :: before) (hbefore : before ≠ []) :
    ∃ c, innerComponent? s = some c := by
  fun_induction dropIdle segs with
  | case1 => cases h
  | case2 t ts hts =>
    cases h
    exact absurd (by simpa using hts) hbefore
  | case3 t ts hts hidle ih => exact ih h
  | case4 t ts hts hbusy =>
    cases h
    unfold innerComponent?
    rw [if_neg hbusy]
    split
    · exact ⟨_, rfl⟩
    · exact ⟨_, rfl⟩

/-- Idle segments at the end spell nothing. -/
theorem spelled_dropIdle (segs : List String) :
    spelled (dropIdle segs).reverse = spelled segs.reverse := by
  fun_induction dropIdle segs with
  | case1 => rfl
  | case2 => rfl
  | case3 s before hbefore hidle ih =>
    rw [ih, List.reverse_cons, spelled_append (by simpa using hbefore)]
    simp [innerComponent?, hidle]
  | case4 => rfl

theorem components_ofReversedSegments {segs : List String} (hne : segs ≠ [])
    (h : ∀ s ∈ segs, '/' ∉ s.toList) : (ofReversedSegments segs).components = spelled segs.reverse := by
  unfold ofReversedSegments
  split
  · exact absurd rfl hne
  · decide +kernel
  · rename_i hroot
    have hsegments : (Path.mk ("/".intercalate segs.reverse)).segments = segs.reverse :=
      segments_intercalate (by simpa using hne) (by simpa using h)
    rw [components_eq_spelled, hsegments]
    intro htext
    simp only at htext
    rw [htext] at hsegments
    have hrev : segs = [""] := by
      rw [← List.reverse_reverse segs, ← hsegments]
      rfl
    exact hroot hrev

/-- The parent has all components but the last. -/
theorem components_of_parent? {p q : Path} (h : p.parent? = some q) :
    q.components = p.components.dropLast := by
  have hp : p.text ≠ "" := by
    rintro htext
    obtain rfl : p = ⟨""⟩ := by rw [← htext]
    cases h
  have hcomponents : p.components = spelled (dropIdle p.segments.reverse).reverse := by
    rw [components_eq_spelled hp, spelled_dropIdle, List.reverse_reverse]
  have hnoSlash : ∀ s ∈ dropIdle p.segments.reverse, '/' ∉ s.toList := by
    intro s hs
    exact not_mem_of_mem_segments s (List.mem_reverse.1 (dropIdle_subset _ hs))
  unfold parent? at h
  split at h
  · cases h
  · cases h
  · rename_i last hroot hlast
    split at h
    · cases h
    · rename_i s hsegs
      cases h
      rw [hcomponents, hsegs]
      exact (dropLast_spelled_singleton s).symm
    · rename_i s before hbefore hsegs
      cases h
      rw [hsegs] at hcomponents hnoSlash
      have hne : before ≠ [] := hbefore
      obtain ⟨c, hc⟩ := innerComponent?_of_dropIdle hsegs hne
      rw [components_ofReversedSegments (dropIdle_ne_nil hne), spelled_dropIdle, hcomponents,
        List.reverse_cons, spelled_append (by simpa using hne), hc, Option.toList_some,
        List.dropLast_concat]
      intro t ht
      exact hnoSlash t (List.mem_cons_of_mem _ (dropIdle_subset _ ht))

theorem mem_of_mem_ofReversedSegments {segs : List String} {c : Char} (hc : c ≠ '/')
    (h : c ∈ (ofReversedSegments segs).text.toList) : ∃ s ∈ segs, c ∈ s.toList := by
  unfold ofReversedSegments at h
  split at h
  · simp at h
  · simp [hc] at h
  · obtain ⟨s, hs, hmem⟩ := (mem_intercalate_iff hc).1 h
    exact ⟨s, List.mem_reverse.1 hs, hmem⟩

/-- Apart from slashes, the parent of a path has no characters of its own. -/
theorem mem_text_of_parent? {p q : Path} (h : p.parent? = some q) {c : Char} (hc : c ≠ '/')
    (hq : c ∈ q.text.toList) : c ∈ p.text.toList := by
  unfold parent? at h
  split at h
  · cases h
  · cases h
  · split at h
    · cases h
    · cases h
      simp at hq
    · rename_i s before _ hsegs
      cases h
      obtain ⟨t, ht, hmem⟩ := mem_of_mem_ofReversedSegments hc hq
      have hin : t ∈ dropIdle p.segments.reverse := by
        rw [hsegs]
        exact List.mem_cons_of_mem _ (dropIdle_subset _ ht)
      exact (mem_text_iff hc).2 ⟨t, List.mem_reverse.1 (dropIdle_subset _ hin), hmem⟩

theorem exists_parent? {p : Path} {s : String} (h : p.components.getLast? = some (.name s)) :
    ∃ q, p.parent? = some q := by
  have hne : dropIdle p.segments.reverse ≠ [] := dropIdle_ne_nil (by simpa using segments_ne_nil p)
  unfold parent?
  rw [h]
  simp only
  split
  · contradiction
  · exact ⟨_, rfl⟩
  · exact ⟨_, rfl⟩

theorem components_ne_nil {p : Path} (hp : p.text ≠ "") : p.components ≠ [] := by
  rw [components_eq_spelled hp]
  cases hsegs : p.segments with
  | nil => exact absurd hsegs (segments_ne_nil p)
  | cons first rest =>
    simp only [spelled]
    split
    · simp
    · split
      · simp
      · rename_i hfirst hdot
        unfold innerComponent?
        split
        · simp_all
        · split <;> simp

/-! ## Paths that never lead upwards -/

/-- No component of the path leads upwards. -/
def Upless (p : Path) : Prop := .up ∉ p.components

instance (p : Path) : Decidable p.Upless := inferInstanceAs (Decidable (.up ∉ p.components))

theorem exists_names_of_not_mem_up {segs : List String}
    (h : .up ∉ segs.filterMap innerComponent?) :
    ∃ names : List String, segs.filterMap innerComponent? = names.map .name := by
  induction segs with
  | nil => exact ⟨[], rfl⟩
  | cons s segs ih =>
    rw [List.filterMap_cons] at h ⊢
    cases hs : innerComponent? s with
    | none =>
      rw [hs] at h
      exact ih h
    | some c =>
      rw [hs] at h
      obtain ⟨hc, hrest⟩ := not_or.1 (mt List.mem_cons.2 h)
      obtain ⟨names, hnames⟩ := ih hrest
      unfold innerComponent? at hs
      split at hs
      · cases hs
      · split at hs
        · cases hs
          exact absurd rfl hc
        · cases hs
          exact ⟨s :: names, congrArg _ hnames⟩

/-- A path that never leads upwards is made of names, but for its start. -/
theorem Upless.components {p : Path} (h : p.Upless) :
    ∃ (start : List Component) (names : List String),
      (start = [] ∨ start = [.root] ∨ start = [.here]) ∧
      p.components = start ++ names.map .name := by
  unfold Upless at h
  unfold Path.components at h ⊢
  split at h
  · exact ⟨[], [], .inl rfl, rfl⟩
  · rename_i first rest _
    dsimp only at h ⊢
    split at h
    · split at h
      · exact ⟨[], [], .inl rfl, by simp [*]⟩
      · obtain ⟨names, hnames⟩ := exists_names_of_not_mem_up (mt (List.mem_cons_of_mem _) h)
        exact ⟨[.root], names, .inr (.inl rfl), by simp [*]⟩
    · split at h
      · obtain ⟨names, hnames⟩ := exists_names_of_not_mem_up (mt (List.mem_cons_of_mem _) h)
        exact ⟨[.here], names, .inr (.inr rfl), by simp [*]⟩
      · have hall : (innerComponent? first).toList ++ rest.filterMap innerComponent? =
            (first :: rest).filterMap innerComponent? := by
          rw [List.filterMap_cons]
          cases innerComponent? first <;> rfl
        rw [hall] at h
        obtain ⟨names, hnames⟩ := exists_names_of_not_mem_up h
        refine ⟨[], names, .inl rfl, ?_⟩
        rw [if_neg ‹_›, if_neg ‹_›, hall, hnames]
        rfl

end AgentGovernance.Path
