-- SUMMARY: The RFC 3339 text of an instant reads as that instant, and what is read is one.
import AgentGovernance.Proofs.Number.Digits
import AgentGovernance.Proofs.Time.Calendar
import AgentGovernance.Time.Rfc3339
import Mathlib.Data.List.TakeWhile

/-!
# Instants as texts

Main statements: the text of an instant that a clock can show reads as that instant, and whatever is
read is an instant that a clock can show.
-/

namespace AgentGovernance

/-- A clock can show the instant: its nanoseconds are those of a second, or of a leap second at the
end of a minute, and its year is in the range of the calendar. -/
structure Instant.Valid (t : Instant) : Prop where
  nanos : t.nanos < 1000000000 ∨ t.nanos < 2000000000 ∧ t.seconds % 60 = 59
  year : Rfc3339.yearInRange t.date.year = true

theorem Date.lt_hundred_of_isValid {d : Date} (h : d.isValid = true) :
    d.month < 100 ∧ d.day < 100 := by
  simp only [isValid, Bool.and_eq_true, decide_eq_true_eq] at h
  have hlength : daysInMonth d.year d.month ≤ 31 := by
    unfold daysInMonth
    repeat' split
    all_goals decide
  omega

namespace Rfc3339

/-! ## Numbers -/

theorem isBlank_of_isDigit {c : Char} (h : c.isDigit = true) : Text.isBlank c = false := by
  have hrange := Char.isDigit_iff_toNat.1 h
  simp only [Text.isBlank, Bool.or_eq_false_iff, Bool.and_eq_false_iff, decide_eq_false_iff_not,
    beq_eq_false_iff_ne]
  simp only [show '0'.toNat = 48 from rfl, show '9'.toNat = 57 from rfl] at hrange
  omega

theorem skipBlanks_of_not_blank {c : Char} (h : Text.isBlank c = false) (cs : List Char) :
    skipBlanks (c :: cs) = c :: cs := by
  simp [skipBlanks, h]

theorem skipBlanks_digits {ds : List Char} (hds : ∀ c ∈ ds, c.isDigit = true) (hne : ds ≠ [])
    (rest : List Char) : skipBlanks (ds ++ rest) = ds ++ rest := by
  cases ds with
  | nil => exact absurd rfl hne
  | cons c cs => exact skipBlanks_of_not_blank (isBlank_of_isDigit (hds c List.mem_cons_self)) _

/-- What is read of digits with a limit on their number: all of them, if there are as many as the
limit, or if there are no more and another character follows. -/
theorem takeWhile_take_digits {width : Nat} {ds rest : List Char}
    (hds : ∀ c ∈ ds, c.isDigit = true)
    (hwidth : ds.length = width ∨ ds.length ≤ width ∧ ∀ c ∈ rest.head?, c.isDigit = false) :
    ((ds ++ rest).take width).takeWhile Char.isDigit = ds := by
  have hle : ds.length ≤ width := by
    rcases hwidth with rfl | ⟨hle, -⟩
    · exact Nat.le_refl _
    · exact hle
  have hstop : ∀ c ∈ (rest.take (width - ds.length)).head?, c.isDigit = false := by
    intro c hc
    rcases hwidth with rfl | ⟨-, hrest⟩
    · simp at hc
    · rw [List.head?_take] at hc
      split at hc
      · cases hc
      · exact hrest c hc
  rw [List.take_append, List.take_of_length_le hle]
  exact congrArg Prod.fst (spanDigits_append hds hstop)

/-- Digits are read up to the width, or up to the next character that is none. -/
theorem number_append {width : Nat} {ds rest : List Char} (hds : ∀ c ∈ ds, c.isDigit = true)
    (hne : ds ≠ [])
    (hwidth : ds.length = width ∨ ds.length ≤ width ∧ ∀ c ∈ rest.head?, c.isDigit = false) :
    number width (ds ++ rest) = some (digitsValue ds, rest) := by
  simp only [number, skipBlanks_digits hds hne, takeWhile_take_digits hds hwidth]
  simp [hne, digitsValue]

theorem number_padded {width n : Nat} (hwidth : 0 < width) (h : n < 10 ^ width) (rest : List Char) :
    number width ((padded width n).toList ++ rest) = some (n, rest) := by
  rw [number_append (fun c hc => isDigit_of_mem_padded hc) (padded_ne_nil width n)
    (.inl (length_padded hwidth h)), digitsValue_padded]

theorem literal_cons {c : Char} (h : Text.isBlank c = false) (cs : List Char) :
    literal c (c :: cs) = some cs := by
  simp [literal, skipBlanks_of_not_blank h]

/-! ## Parts -/

theorem year_of_digit {c : Char} (h : c.isDigit = true) (cs : List Char) :
    year (c :: cs) = (number 4 (c :: cs)).map fun (n, r) => ((n : Int), r) := by
  unfold year
  rw [skipBlanks_of_not_blank (isBlank_of_isDigit h)]
  split
  · rename_i heq
    rw [(List.cons.inj heq).1] at h
    cases h
  · rename_i heq
    rw [(List.cons.inj heq).1] at h
    cases h
  · rfl

theorem padded_eq_cons (width n : Nat) :
    ∃ c cs, (padded width n).toList = c :: cs ∧ c.isDigit = true := by
  cases htext : (padded width n).toList with
  | nil => exact absurd htext (padded_ne_nil width n)
  | cons c cs => exact ⟨c, cs, rfl, isDigit_of_mem_padded (htext ▸ List.mem_cons_self)⟩

theorem digitsOnly_padded (n : Nat) (rest : List Char) :
    year.digitsOnly ((padded 4 n).toList ++ '-' :: rest) = some (n, '-' :: rest) := by
  have hstop : ∀ c ∈ ('-' :: rest).head?, c.isDigit = false := by
    rintro c ⟨⟩
    rfl
  have hread := number_append (fun c hc => isDigit_of_mem_padded hc) (padded_ne_nil 4 n)
    (.inr ⟨Nat.le_add_right _ ('-' :: rest).length, hstop⟩)
  rw [digitsValue_padded, ← List.length_append] at hread
  obtain ⟨c, cs, htext, hc⟩ := padded_eq_cons 4 n
  rw [htext, List.cons_append] at hread ⊢
  simp only [year.digitsOnly, hc, if_true, hread]

theorem year_yearText (y : Int) (rest : List Char) :
    year ((yearText y).toList ++ '-' :: rest) = some (y, '-' :: rest) := by
  have hminus (cs : List Char) : skipBlanks ('-' :: cs) = '-' :: cs :=
    skipBlanks_of_not_blank rfl cs
  have hplus (cs : List Char) : skipBlanks ('+' :: cs) = '+' :: cs :=
    skipBlanks_of_not_blank rfl cs
  unfold yearText
  split
  · rename_i hrange
    simp only [Bool.and_eq_true, decide_eq_true_eq] at hrange
    have hread :
        number 4 ((padded 4 y.toNat).toList ++ '-' :: rest) = some (y.toNat, '-' :: rest) :=
      number_padded (by decide) (by omega) _
    obtain ⟨c, cs, htext, hc⟩ := padded_eq_cons 4 y.toNat
    rw [htext, List.cons_append] at hread ⊢
    rw [year_of_digit hc, hread]
    simp [Int.toNat_of_nonneg hrange.1]
  split
  · rename_i hneg
    obtain ⟨n, rfl⟩ : ∃ n : Nat, y = -n := ⟨y.natAbs, by omega⟩
    simp [year, hminus, digitsOnly_padded]
  · rename_i hrange hpos
    simp [year, hplus, digitsOnly_padded]
    omega

theorem fraction_digits {ds rest : List Char} (hds : ∀ c ∈ ds, c.isDigit = true) (hne : ds ≠ [])
    (hlength : ds.length ≤ 9) (hrest : ∀ c ∈ rest.head?, c.isDigit = false) :
    fraction ('.' :: (ds ++ rest)) = some (digitsValue ds * 10 ^ (9 - ds.length), rest) := by
  have hdrop : rest.dropWhile Char.isDigit = rest := by
    cases rest with
    | nil => rfl
    | cons c cs => simp [hrest c rfl]
  simp only [fraction, takeWhile_take_digits hds (.inr ⟨hlength, hrest⟩)]
  simp [hne, digitsValue, hdrop]

/-- Decimals are read as the nanoseconds that they were written for. -/
theorem fraction_fractionText {nanos : Nat} (h : nanos < 1000000000) (rest : List Char) :
    fraction ((fractionText nanos).toList ++ 'Z' :: rest) = some (nanos, 'Z' :: rest) := by
  have hgroup (width n : Nat) (hwidth : 0 < width) (hle : width ≤ 9) (hn : n < 10 ^ width) :
      fraction (("." ++ padded width n).toList ++ 'Z' :: rest) =
        some (n * 10 ^ (9 - width), 'Z' :: rest) := by
    have hlength := length_padded hwidth hn
    have hstop : ∀ c ∈ ('Z' :: rest).head?, c.isDigit = false := by
      rintro c ⟨⟩
      rfl
    have hread := fraction_digits (fun c hc => isDigit_of_mem_padded hc) (padded_ne_nil width n)
      (by omega) hstop
    rw [digitsValue_padded, hlength] at hread
    simpa using hread
  unfold fractionText
  simp only [beq_iff_eq]
  split
  · rename_i hzero
    rw [hzero]
    rfl
  split
  · rw [hgroup 3 _ (by decide) (by decide) (by omega)]
    simp only [Option.some.injEq, Prod.mk.injEq, and_true]
    omega
  split
  · rw [hgroup 6 _ (by decide) (by decide) (by omega)]
    simp only [Option.some.injEq, Prod.mk.injEq, and_true]
    omega
  · rw [hgroup 9 _ (by decide) (by decide) (by omega)]
    simp

/-! ## Instants -/

/-- The time of day of an instant, as numbers that a reader accepts. -/
theorem time_spec {t : Instant} (h : t.Valid) :
    t.time.hour < 24 ∧ t.time.minute < 60 ∧ t.time.second ≤ 60 ∧
      (t.seconds % Instant.secondsPerDay).toNat = t.time.hour * 3600 + t.time.minute * 60 +
        (if t.time.second == 60 then 59 else t.time.second) ∧
      t.nanos = t.time.nanos + (if t.time.second == 60 then 1000000000 else 0) := by
  have hnanos := h.nanos
  simp only [Instant.time, Instant.secondsPerDay, beq_iff_eq]
  refine ⟨by omega, by omega, by omega, ?_, ?_⟩
  · split <;> omega
  · split <;> omega

/-- The text of an instant reads as that instant. -/
theorem parse?_rfc3339 {t : Instant} (h : t.Valid) : parse? t.rfc3339 = some t := by
  have htext : t.rfc3339.toList = (yearText t.date.year).toList ++ '-' ::
      ((padded 2 t.date.month).toList ++ '-' :: ((padded 2 t.date.day).toList ++ 'T' ::
      ((padded 2 t.time.hour).toList ++ ':' :: ((padded 2 t.time.minute).toList ++ ':' ::
      ((padded 2 t.time.second).toList ++ ((fractionText t.time.nanos).toList ++ ['Z'])))))) := by
    simp [Instant.rfc3339, Instant.rfc3339With]
  have hvalid : t.date.isValid = true := Date.isValid_ofDays _
  have hdays : t.date.toDays = t.seconds / Instant.secondsPerDay := Date.toDays_ofDays _
  obtain ⟨hhour, hminute, hsecond, hseconds, hnanos⟩ := time_spec h
  have htwo {n : Nat} (hn : n < 100) (rest : List Char) :
      number 2 ((padded 2 n).toList ++ rest) = some (n, rest) := number_padded (by decide) hn rest
  obtain ⟨hmonth, hday⟩ := Date.lt_hundred_of_isValid hvalid
  have hdash (cs : List Char) : literal '-' ('-' :: cs) = some cs := literal_cons rfl cs
  have hcolon (cs : List Char) : literal ':' (':' :: cs) = some cs := literal_cons rfl cs
  have hfraction :
      fraction ((fractionText t.time.nanos).toList ++ ['Z']) = some (t.time.nanos, ['Z']) :=
    fraction_fractionText (Nat.mod_lt _ (by decide)) []
  have hoffset : offset (skipBlanks ['Z']) = some (0, []) := rfl
  have hinRange := h.year
  unfold parse?
  rw [htext]
  refine Option.bind_eq_some_iff.2 ⟨_, year_yearText _ _, ?_⟩
  refine Option.bind_eq_some_iff.2 ⟨_, hdash _, ?_⟩
  refine Option.bind_eq_some_iff.2 ⟨_, htwo hmonth _, ?_⟩
  refine Option.bind_eq_some_iff.2 ⟨_, hdash _, ?_⟩
  refine Option.bind_eq_some_iff.2 ⟨_, htwo hday _, ?_⟩
  simp only [beq_self_eq_true, Bool.true_or, if_true]
  refine Option.bind_eq_some_iff.2 ⟨_, rfl, ?_⟩
  refine Option.bind_eq_some_iff.2 ⟨_, htwo (by omega) _, ?_⟩
  refine Option.bind_eq_some_iff.2 ⟨_, hcolon _, ?_⟩
  refine Option.bind_eq_some_iff.2 ⟨_, htwo (by omega) _, ?_⟩
  refine Option.bind_eq_some_iff.2 ⟨_, hcolon _, ?_⟩
  refine Option.bind_eq_some_iff.2 ⟨_, htwo (by omega) _, ?_⟩
  refine Option.bind_eq_some_iff.2 ⟨_, hfraction, ?_⟩
  refine Option.bind_eq_some_iff.2 ⟨_, hoffset, ?_⟩
  have hend : skipBlanks [] = [] := rfl
  simp only [hend, List.isEmpty_nil, hinRange, hvalid, hhour, hminute, hsecond, decide_true,
    Bool.and_self, Bool.not_true, Bool.false_eq_true, if_false]
  have hsum : t.date.toDays * Instant.secondsPerDay +
      ((t.seconds % Instant.secondsPerDay).toNat : Int) - 0 = t.seconds := by
    rw [hdays, Instant.secondsPerDay]
    omega
  rw [← hseconds, ← hnanos, hsum, if_pos hinRange]

/-! ## What is read -/

theorem fraction_lt {cs rest : List Char} {n : Nat} (h : fraction cs = some (n, rest)) :
    n < 1000000000 := by
  unfold fraction at h
  split at h
  · rename_i cs
    dsimp only at h
    split at h
    · cases h
    · cases h
      generalize hdigits : (cs.take 9).takeWhile Char.isDigit = digits
      have hall : ∀ c ∈ digits, c.isDigit = true := by
        rw [← hdigits]
        exact fun c hc => List.mem_takeWhile_imp hc
      have hlength : digits.length ≤ 9 := by
        rw [← hdigits]
        exact (List.takeWhile_prefix _).length_le.trans (List.length_take_le 9 cs)
      calc digitsValue digits * 10 ^ (9 - digits.length)
          < 10 ^ digits.length * 10 ^ (9 - digits.length) :=
            Nat.mul_lt_mul_of_pos_right (digitsValue_lt hall) (Nat.pow_pos (by decide))
        _ = 10 ^ 9 := by rw [← Nat.pow_add, Nat.add_sub_cancel' hlength]
  · cases h
    decide

/-- Offsets are whole minutes. -/
theorem offset_mod {cs rest : List Char} {off : Int} (h : offset cs = some (off, rest)) :
    off % 60 = 0 := by
  have hsigned {sign : Int} {cs rest : List Char} {off : Int}
      (h : offset.signed sign cs = some (off, rest)) : off % 60 = 0 := by
    unfold offset.signed at h
    obtain ⟨⟨hours, rest⟩, -, h⟩ := Option.bind_eq_some_iff.1 h
    obtain ⟨⟨minutes, rest⟩, -, h⟩ := Option.bind_eq_some_iff.1 h
    dsimp only at h
    split at h
    · cases h
    · cases h
      refine Int.emod_eq_zero_of_dvd (Dvd.dvd.mul_left ?_ sign)
      omega
  unfold offset at h
  split at h
  · cases h
    rfl
  · cases h
    rfl
  · split at h
    · cases h
      rfl
    · split at h
      · exact hsigned h
      · split at h
        · exact hsigned h
        · cases h
  · cases h

/-- What is read is an instant that a clock can show. -/
theorem valid_of_parse? {text : String} {t : Instant} (h : parse? text = some t) : t.Valid := by
  unfold parse? at h
  obtain ⟨⟨y, rest⟩, -, h⟩ := Option.bind_eq_some_iff.1 h
  obtain ⟨rest, -, h⟩ := Option.bind_eq_some_iff.1 h
  obtain ⟨⟨month, rest⟩, -, h⟩ := Option.bind_eq_some_iff.1 h
  obtain ⟨rest, -, h⟩ := Option.bind_eq_some_iff.1 h
  obtain ⟨⟨day, rest⟩, -, h⟩ := Option.bind_eq_some_iff.1 h
  cases rest with
  | nil => cases h
  | cons c rest =>
    dsimp only at h
    split at h
    · obtain ⟨rest, -, h⟩ := Option.bind_eq_some_iff.1 h
      obtain ⟨⟨hour, rest⟩, -, h⟩ := Option.bind_eq_some_iff.1 h
      obtain ⟨rest, -, h⟩ := Option.bind_eq_some_iff.1 h
      obtain ⟨⟨minute, rest⟩, -, h⟩ := Option.bind_eq_some_iff.1 h
      obtain ⟨rest, -, h⟩ := Option.bind_eq_some_iff.1 h
      obtain ⟨⟨second, rest⟩, -, h⟩ := Option.bind_eq_some_iff.1 h
      obtain ⟨⟨nanos, rest⟩, hnanos, h⟩ := Option.bind_eq_some_iff.1 h
      obtain ⟨⟨off, rest⟩, hoff, h⟩ := Option.bind_eq_some_iff.1 h
      have hfraction := fraction_lt hnanos
      have hoffset := offset_mod hoff
      split at h
      · cases h
      split at h
      · cases h
      split at h
      · -- A leap second is the last one of its minute, and offsets are whole minutes.
        rw [Option.ite_none_right_eq_some] at h
        obtain ⟨hyear, heq⟩ := h
        obtain rfl := Option.some.inj heq
        refine ⟨.inr ⟨?_, ?_⟩, hyear⟩
        · dsimp only
          omega
        · dsimp only
          unfold Instant.secondsPerDay
          omega
      · rw [Option.ite_none_right_eq_some] at h
        obtain ⟨hyear, heq⟩ := h
        obtain rfl := Option.some.inj heq
        exact ⟨.inl hfraction, hyear⟩
    · cases h

end Rfc3339

end AgentGovernance
