-- SUMMARY: ASCII spellings share a tag exactly if they have the same words, whatever separates these.
import AgentGovernance.Proofs.Tag
import Mathlib.Data.List.Nodup

/-!
# Spellings of a tag

The words of a spelling are its maximal runs of characters other than separators, in lower case. The
tag of an ASCII spelling is its words with an underscore between each two, and the words can be read
off the tag again. Main statement: so tags tell apart what has different words and nothing else, and
a list of tags holds each of them once, in order of first use.
-/

namespace AgentGovernance.Tag

/-! ## Runs -/

/-- The maximal runs of characters that are no separators. -/
def runs (cs : List Char) : List (List Char) :=
  (cs.splitOnP isSeparator).filter fun run => !run.isEmpty

/-- The characters can stand between two separators. -/
def IsRun (w : List Char) : Prop := w ≠ [] ∧ ∀ c ∈ w, isSeparator c = false

/-- Runs with an underscore between each two of them. -/
def joined (ws : List (List Char)) : List Char := ['_'].intercalate ws

variable {cs : List Char} {ws : List (List Char)} {c : Char}

theorem splitOnP_separator (hc : isSeparator c = true) (cs : List Char) :
    (c :: cs).splitOnP isSeparator = [] :: cs.splitOnP isSeparator := by
  rw [List.splitOnP_cons_eq_if_modifyHead, if_pos hc]

theorem runs_separator (hc : isSeparator c = true) (cs : List Char) : runs (c :: cs) = runs cs := by
  rw [runs, splitOnP_separator hc, List.filter_cons_of_neg (by simp), runs]

/-- A character that is no separator joins the part in front. -/
theorem exists_splitOnP (hc : isSeparator c = false) (cs : List Char) :
    ∃ w ws, cs.splitOnP isSeparator = w :: ws ∧
      (c :: cs).splitOnP isSeparator = (c :: w) :: ws := by
  obtain ⟨w, ws, hsplit⟩ := List.exists_cons_of_ne_nil (List.splitOnP_ne_nil isSeparator cs)
  refine ⟨w, ws, hsplit, ?_⟩
  rw [List.splitOnP_cons_eq_if_modifyHead, hc, hsplit]
  rfl

theorem isRun_of_mem_runs {w : List Char} (h : w ∈ runs cs) : IsRun w ∧ w ⊆ cs := by
  obtain ⟨hmem, hne⟩ := List.mem_filter.1 h
  suffices hpart : (∀ c ∈ w, isSeparator c = false) ∧ w ⊆ cs from
    ⟨⟨by simpa using hne, hpart.1⟩, hpart.2⟩
  clear h hne
  induction cs generalizing w with
  | nil =>
    obtain rfl := List.mem_singleton.1 hmem
    exact ⟨nofun, nofun⟩
  | cons d cs ih =>
    by_cases hd : isSeparator d = true
    · rw [splitOnP_separator hd] at hmem
      rcases List.mem_cons.1 hmem with rfl | hmem
      · exact ⟨nofun, nofun⟩
      · exact (ih hmem).imp_right (List.subset_cons_of_subset d)
    · obtain ⟨v, vs, hsplit, hcons⟩ := exists_splitOnP (Bool.eq_false_iff.2 hd) cs
      rw [hcons] at hmem
      rw [hsplit] at ih
      rcases List.mem_cons.1 hmem with rfl | hmem
      · obtain ⟨hv, hsub⟩ := ih List.mem_cons_self
        exact ⟨List.forall_mem_cons.2 ⟨Bool.eq_false_iff.2 hd, hv⟩, List.cons_subset_cons d hsub⟩
      · exact (ih (List.mem_cons_of_mem _ hmem)).imp_right (List.subset_cons_of_subset d)

/-! ## Joining runs -/

theorem joined_cons (w : List Char) (ws : List (List Char)) :
    joined (w :: ws) = w ++ ws.flatMap ('_' :: ·) := by
  induction ws generalizing w with
  | nil => simp [joined]
  | cons v ws ih =>
    rw [joined, List.intercalate_cons_cons, ← joined, ih v]
    simp

theorem mem_joined (h : c ∈ joined ws) : c = '_' ∨ ∃ w ∈ ws, c ∈ w := by
  cases ws with
  | nil => cases h
  | cons w ws =>
    rw [joined_cons] at h
    rcases List.mem_append.1 h with hw | hws
    · exact .inr ⟨w, List.mem_cons_self, hw⟩
    · obtain ⟨v, hv, hc⟩ := List.mem_flatMap.1 hws
      rcases List.mem_cons.1 hc with rfl | hc
      · exact .inl rfl
      · exact .inr ⟨v, List.mem_cons_of_mem _ hv, hc⟩

/-- Runs can be read off what they are joined to. -/
theorem splitOnP_joined (hne : ws ≠ []) (h : ∀ w ∈ ws, IsRun w) :
    (joined ws).splitOnP isSeparator = ws := by
  induction ws with
  | nil => exact absurd rfl hne
  | cons w ws ih =>
    obtain ⟨⟨-, hw⟩, hws⟩ := List.forall_mem_cons.1 h
    cases ws with
    | nil => simpa [joined] using List.splitOnP_eq_singleton hw
    | cons v ws =>
      have hbar : isSeparator '_' = true := rfl
      rw [joined, List.intercalate_cons_cons, List.append_assoc, List.singleton_append,
        List.splitOnP_append_cons _ _ hbar, List.splitOnP_eq_singleton hw, ← joined,
        ih (List.cons_ne_nil v ws) hws, List.singleton_append]

theorem runs_joined (h : ∀ w ∈ ws, IsRun w) : runs (joined ws) = ws := by
  cases ws with
  | nil => rfl
  | cons w ws =>
    rw [runs, splitOnP_joined (List.cons_ne_nil w ws) h, List.filter_eq_self]
    intro v hv
    simpa using (h v hv).1

/-- Joining words is joining runs. Once a character has been kept, the rest of its run comes first and
every further run behind an underscore. -/
theorem joinWords_eq_joined (pending : Bool) (cs : List Char) :
    joinWords false pending cs = joined (runs cs) := by
  have hstarted (cs : List Char) :
      joinWords true true cs = (runs cs).flatMap ('_' :: ·) ∧
      ∀ w ws, cs.splitOnP isSeparator = w :: ws →
        joinWords true false cs = w ++ (ws.filter fun run => !run.isEmpty).flatMap ('_' :: ·) := by
    induction cs with
    | nil => simp [joinWords, runs]
    | cons c cs ih =>
      obtain ⟨hpending, hopen⟩ := ih
      by_cases hc : isSeparator c = true
      · refine ⟨by simpa [joinWords, hc, runs_separator hc] using hpending, ?_⟩
        intro w ws hsplit
        obtain ⟨rfl, rfl⟩ := List.cons.inj ((splitOnP_separator hc cs).symm.trans hsplit)
        simpa [joinWords, hc, runs] using hpending
      · obtain ⟨w, ws, hsplit, hcons⟩ := exists_splitOnP (Bool.eq_false_iff.2 hc) cs
        have hrest := hopen w ws hsplit
        refine ⟨by simp [joinWords, hc, runs, hcons, hrest], ?_⟩
        intro v vs hsplit'
        obtain ⟨rfl, rfl⟩ := List.cons.inj (hcons.symm.trans hsplit')
        simp [joinWords, hc, hrest]
  induction cs generalizing pending with
  | nil => rfl
  | cons c cs ih =>
    by_cases hc : isSeparator c = true
    · simpa [joinWords, hc, runs_separator hc] using ih true
    · obtain ⟨w, ws, hsplit, hcons⟩ := exists_splitOnP (Bool.eq_false_iff.2 hc) cs
      simp [joinWords, hc, (hstarted cs).2 w ws hsplit, runs, hcons, joined_cons]

/-! ## Words of ASCII spellings -/

/-- All characters are in the ASCII range. -/
def IsAscii (s : String) : Prop := ∀ c ∈ s.toList, c.toNat < 0x80

instance (s : String) : Decidable (IsAscii s) :=
  List.decidableBAll (fun c : Char => c.toNat < 0x80) s.toList

theorem isAscii_empty : IsAscii "" := by simp [IsAscii]

/-- The words of a spelling: its runs in lower case. -/
def words (s : String) : List (List Char) := (runs s.toList).map (·.map Char.toLower)

/-- Lower case makes no separator and takes none away, and leaves no capital letter. -/
private theorem toLower_keeps (h : c.toNat < 0x80) :
    isSeparator c.toLower = isSeparator c ∧ c.toLower.isUpper = false := by
  have hall : ∀ n : Fin 0x80, isSeparator (Char.ofNat n).toLower = isSeparator (Char.ofNat n) ∧
      (Char.ofNat n).toLower.isUpper = false := by decide
  simpa using hall ⟨c.toNat, h⟩

theorem runs_map_toLower (h : ∀ c ∈ cs, c.toNat < 0x80) :
    runs (cs.map Char.toLower) = (runs cs).map (·.map Char.toLower) := by
  have hsplit : (cs.map Char.toLower).splitOnP isSeparator =
      (cs.splitOnP isSeparator).map (·.map Char.toLower) := by
    induction cs with
    | nil => rfl
    | cons c cs ih =>
      obtain ⟨hc, hcs⟩ := List.forall_mem_cons.1 h
      obtain ⟨hkeeps, -⟩ := toLower_keeps hc
      rw [List.map_cons, List.splitOnP_cons_eq_if_modifyHead,
        List.splitOnP_cons_eq_if_modifyHead, hkeeps, ih hcs]
      split
      · rfl
      · cases cs.splitOnP isSeparator <;> rfl
  rw [runs, hsplit, List.filter_map, runs]
  congr 2
  funext run
  simp

/-- The tag of an ASCII spelling is its words, joined by underscores. -/
theorem toList_ofText {s : String} (h : IsAscii s) : (ofText s).toList = joined (words s) := by
  rw [ofText_ascii h, String.toList_ofList, joinWords_eq_joined, runs_map_toLower h, words]

/-- A word of an ASCII spelling is a run without capital letters. -/
theorem isRun_of_mem_words {s : String} (h : IsAscii s) {w : List Char} (hw : w ∈ words s) :
    IsRun w ∧ ∀ c ∈ w, c.isUpper = false := by
  rw [words, ← runs_map_toLower h] at hw
  obtain ⟨hrun, hsub⟩ := isRun_of_mem_runs hw
  refine ⟨hrun, fun c hc => ?_⟩
  obtain ⟨d, hd, rfl⟩ := List.mem_map.1 (hsub hc)
  exact (toLower_keeps (h d hd)).2

/-- The words of a spelling can be read off its tag. -/
theorem words_ofText {s : String} (h : IsAscii s) : words (ofText s) = words s := by
  have hruns : runs (ofText s).toList = words s := by
    rw [toList_ofText h]
    exact runs_joined fun w hw => (isRun_of_mem_words h hw).1
  have hlower : ∀ w ∈ words s, w.map Char.toLower = w := by
    intro w hw
    refine (List.map_congr_left fun c hc => ?_).trans (List.map_id w)
    exact dif_neg (of_decide_eq_false ((isRun_of_mem_words h hw).2 c hc))
  rw [words, hruns, List.map_congr_left hlower, List.map_id']

theorem ofText_eq_iff {s t : String} (hs : IsAscii s) (ht : IsAscii t) :
    ofText s = ofText t ↔ words s = words t := by
  constructor
  · intro htags
    rw [← words_ofText hs, htags, words_ofText ht]
  · intro hwords
    rw [← String.toList_inj, toList_ofText hs, toList_ofText ht, hwords]

theorem ofText_eq_empty_iff {s : String} (h : IsAscii s) : ofText s = "" ↔ words s = [] := by
  have hempty : words "" = [] := rfl
  rw [← hempty, ← ofText_eq_iff h isAscii_empty]
  rfl

/-! ## The form of a tag -/

/-- What a tag looks like. -/
structure Tidy (t : Tag) : Prop where
  lower : ∀ c ∈ t.toList, c.isUpper = false
  unblank : ∀ c ∈ t.toList, Text.isBlank c = false
  unhyphened : '-' ∉ t.toList
  /-- No underscore stands at the start, none at the end, and no two next to each other. -/
  start : ¬ ['_'] <+: t.toList
  finish : ¬ ['_'] <:+ t.toList
  single : ¬ ['_', '_'] <:+: t.toList

/-- Around an underscore at either end, or between two of them, there is an empty part. -/
theorem nil_mem_splitOnP (h : ['_'] <+: cs ∨ ['_'] <:+ cs ∨ ['_', '_'] <:+: cs) :
    [] ∈ cs.splitOnP isSeparator := by
  have hbar : isSeparator '_' = true := rfl
  rcases h with ⟨ys, rfl⟩ | ⟨xs, rfl⟩ | ⟨xs, ys, rfl⟩
  · rw [List.singleton_append, splitOnP_separator hbar]
    exact List.mem_cons_self
  · rw [List.splitOnP_append_cons _ _ hbar]
    exact List.mem_append_right _ List.mem_cons_self
  · rw [List.append_assoc, List.cons_append, List.splitOnP_append_cons _ _ hbar,
      List.singleton_append, splitOnP_separator hbar]
    exact List.mem_append_right _ List.mem_cons_self

theorem tidy_ofText {s : String} (h : IsAscii s) : Tidy (ofText s) := by
  have hchar : ∀ c ∈ (ofText s).toList,
      c = '_' ∨ c.isUpper = false ∧ isSeparator c = false := by
    intro c hc
    rw [toList_ofText h] at hc
    refine (mem_joined hc).imp_right ?_
    rintro ⟨w, hw, hc⟩
    obtain ⟨hrun, hlower⟩ := isRun_of_mem_words h hw
    exact ⟨hlower c hc, hrun.2 c hc⟩
  have hbars : ¬ (['_'] <+: (ofText s).toList ∨ ['_'] <:+ (ofText s).toList ∨
      ['_', '_'] <:+: (ofText s).toList) := by
    intro hbar
    rw [toList_ofText h] at hbar
    by_cases hwords : words s = []
    · simp [hwords, joined] at hbar
    · have hnil := nil_mem_splitOnP hbar
      rw [splitOnP_joined hwords fun w hw => (isRun_of_mem_words h hw).1] at hnil
      exact (isRun_of_mem_words h hnil).1.1 rfl
  simp only [not_or] at hbars
  refine ⟨?_, ?_, ?_, hbars.1, hbars.2.1, hbars.2.2⟩
  · intro c hc
    rcases hchar c hc with rfl | ⟨hlower, -⟩
    · rfl
    · exact hlower
  · intro c hc
    rcases hchar c hc with rfl | ⟨-, hsep⟩
    · rfl
    · simp only [isSeparator, Bool.or_eq_false_iff] at hsep
      exact hsep.2
  · intro hhyphen
    rcases hchar '-' hhyphen with heq | ⟨-, hsep⟩
    · cases heq
    · cases hsep

/-! ## Lists of tags -/

/-- The place of the first spelling of a tag. -/
def firstUse (raw : List String) (t : Tag) : Nat := raw.findIdx fun s => ofText s == t

theorem firstUse_cons_of_ne {s : String} {t : Tag} (h : ofText s ≠ t) (raw : List String) :
    firstUse (s :: raw) t = firstUse raw t + 1 := by
  rw [firstUse, List.findIdx_cons, beq_false_of_ne h]
  rfl

/-- Tags that are kept stand in the order of their first spellings. -/
theorem pairwise_distinctFrom (seen : List Tag) (raw : List String) :
    (distinctFrom seen ((raw.map ofText).filter fun t => !t.isEmpty)).Pairwise
      fun t u => firstUse raw t < firstUse raw u := by
  induction raw generalizing seen with
  | nil => exact .nil
  | cons s raw ih =>
    -- Behind the first spelling only other tags are kept, so all of them move one place on.
    have hshift {kept : List Tag} (hothers : ∀ t ∈ kept, ofText s ≠ t)
        (hkept : kept.Pairwise fun t u => firstUse raw t < firstUse raw u) :
        kept.Pairwise fun t u => firstUse (s :: raw) t < firstUse (s :: raw) u := by
      refine hkept.imp_of_mem ?_
      intro t u ht hu hlt
      rw [firstUse_cons_of_ne (hothers t ht), firstUse_cons_of_ne (hothers u hu)]
      exact Nat.succ_lt_succ hlt
    rw [List.map_cons, List.filter_cons]
    split
    · rw [distinctFrom]
      split
      · rename_i hseen
        refine hshift ?_ (ih seen)
        rintro t ht rfl
        exact (mem_distinctFrom.1 ht).2 (List.contains_iff_mem.1 hseen)
      · have hothers : ∀ t ∈ distinctFrom (ofText s :: seen)
            ((raw.map ofText).filter fun t => !t.isEmpty), ofText s ≠ t := by
          rintro t ht rfl
          exact (mem_distinctFrom.1 ht).2 List.mem_cons_self
        refine List.pairwise_cons.2 ⟨?_, hshift hothers (ih _)⟩
        intro t ht
        have hfirst : firstUse (s :: raw) (ofText s) = 0 := by simp [firstUse, List.findIdx_cons]
        rw [hfirst, firstUse_cons_of_ne (hothers t ht)]
        exact Nat.succ_pos _
    · rename_i hempty
      refine hshift ?_ (ih seen)
      rintro t ht rfl
      exact hempty (List.mem_filter.1 (mem_distinctFrom.1 ht).1).2

/-- A class is made of the spellings with the same words, of which there is at least one. The list
holds the tag of every class once, in the order in which the classes are met first. -/
structure OnePerClass (raw : List String) (tags : List Tag) : Prop where
  mem : ∀ t, t ∈ tags ↔ ∃ s ∈ raw, words s ≠ [] ∧ ofText s = t
  once : ∀ s ∈ raw, words s ≠ [] → tags.count (ofText s) = 1
  ordered : tags.Pairwise fun t u => firstUse raw t < firstUse raw u

theorem onePerClass_ofTexts {raw : List String} (h : ∀ s ∈ raw, IsAscii s) :
    OnePerClass raw (ofTexts raw) := by
  have hordered : (ofTexts raw).Pairwise fun t u => firstUse raw t < firstUse raw u :=
    pairwise_distinctFrom [] raw
  have hmem (t : Tag) : t ∈ ofTexts raw ↔ ∃ s ∈ raw, words s ≠ [] ∧ ofText s = t := by
    rw [mem_ofTexts]
    constructor
    · rintro ⟨hne, s, hs, rfl⟩
      exact ⟨s, hs, mt (ofText_eq_empty_iff (h s hs)).2 hne, rfl⟩
    · rintro ⟨s, hs, hwords, rfl⟩
      exact ⟨mt (ofText_eq_empty_iff (h s hs)).1 hwords, s, hs, rfl⟩
  have hnodup : (ofTexts raw).Nodup := hordered.imp fun hlt heq => by simp [heq] at hlt
  exact ⟨hmem, fun s hs hwords => List.count_eq_one_of_mem hnodup ((hmem _).2 ⟨s, hs, hwords, rfl⟩),
    hordered⟩

/-- The tag of an ASCII spelling is tidy and its own tag, two spellings share a tag exactly if they
have the same words, and the tags of a list are those of its classes. -/
theorem tags_classify_spellings :
    (∀ s, IsAscii s → Tidy (ofText s) ∧ ofText (ofText s) = ofText s) ∧
    (∀ s t, IsAscii s → IsAscii t → (ofText s = ofText t ↔ words s = words t)) ∧
    ∀ raw, (∀ s ∈ raw, IsAscii s) → OnePerClass raw (ofTexts raw) :=
  ⟨fun _ hs => ⟨tidy_ofText hs, ofText_ofText_of_ascii hs⟩, fun _ _ hs ht => ofText_eq_iff hs ht,
    fun _ hraw => onePerClass_ofTexts hraw⟩

/-- Two spellings of one action with another one and bare separators in between. -/
theorem tags_classify_spellings_release :
    let raw := ["Publish  Release", "- _", "write code", "--publish-RELEASE_"]
    (∀ s ∈ raw, IsAscii s) ∧ words "Publish  Release" = words "--publish-RELEASE_" ∧
      ofText "Publish  Release" = ofText "--publish-RELEASE_" ∧
      Tidy (ofText "--publish-RELEASE_") ∧ OnePerClass raw (ofTexts raw) ∧ "" ∉ ofTexts raw := by
  intro raw
  have hascii : ∀ s ∈ raw, IsAscii s := by decide
  have hwords : words "Publish  Release" = words "--publish-RELEASE_" := by decide
  obtain ⟨hform, hclasses, hlists⟩ := tags_classify_spellings
  have htags := (hclasses "Publish  Release" "--publish-RELEASE_" (hascii _ (by decide))
    (hascii _ (by decide))).2 hwords
  refine ⟨hascii, hwords, htags, (hform _ (hascii _ (by decide))).1, hlists raw hascii, ?_⟩
  intro hempty
  obtain ⟨s, hs, hne, htag⟩ := ((hlists raw hascii).mem "").1 hempty
  exact hne ((hclasses s "" (hascii s hs) isAscii_empty).1 htag)

end AgentGovernance.Tag
