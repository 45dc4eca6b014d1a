-- SUMMARY: Sortable texts of instants: their form, and that they sort as the instants they show.
import AgentGovernance.Proofs.Time.Rfc3339
import Mathlib.Data.String.Basic

/-!
# Texts that sort by time

The sortable text of an instant has a fixed form: numbers of fixed widths from the year down to the
millisecond. Main statement: of two instants that a clock can show in years of four digits, the one
that is earlier in whole milliseconds has the smaller text, whatever follows the texts.
-/

namespace AgentGovernance

/-- One time of day stands before another, to the millisecond. -/
def TimeOfDay.Before (a b : TimeOfDay) : Prop :=
  a.hour < b.hour ∨ a.hour = b.hour ∧ (a.minute < b.minute ∨ a.minute = b.minute ∧
    (a.second < b.second ∨ a.second = b.second ∧ a.nanos / 1000000 < b.nanos / 1000000))

namespace Instant

variable {s t : Instant}

/-- One instant is earlier than another. -/
def Before (s t : Instant) : Prop := t.le s = false

/-- The instant at the start of its millisecond. -/
def truncated (t : Instant) : Instant := { t with nanos := t.nanos / 1000000 * 1000000 }

/-- The year is written with four digits and no sign. -/
def PlainYear (t : Instant) : Prop := 0 ≤ t.date.year ∧ t.date.year ≤ 9999

instance (s t : Instant) : Decidable (s.Before t) := inferInstanceAs (Decidable (_ = _))

instance (t : Instant) : Decidable t.PlainYear := inferInstanceAs (Decidable (_ ∧ _))

theorem before_iff :
    s.Before t ↔ s.seconds < t.seconds ∨ s.seconds = t.seconds ∧ s.nanos < t.nanos := by
  simp only [Before, le, Bool.or_eq_false_iff, Bool.and_eq_false_iff, decide_eq_false_iff_not,
    beq_eq_false_iff_ne]
  omega

theorem Before.asymm (h : s.Before t) : ¬ t.Before s := by
  rw [before_iff] at *
  omega

/-- Of two instants one is earlier, unless they are the same. -/
theorem before_or_before (h : s ≠ t) : s.Before t ∨ t.Before s := by
  have hparts : s.seconds ≠ t.seconds ∨ s.nanos ≠ t.nanos := by
    by_contra hsame
    cases s
    cases t
    simp_all
  rw [before_iff, before_iff]
  omega

/-! ## Parts of an instant -/

/-- An earlier instant has an earlier date, or the same date and an earlier time of day. A leap second
is the last of its minute, so the minute that follows is later than all of it. -/
theorem date_before_or_time_before (hs : s.Valid) (ht : t.Valid)
    (h : s.truncated.Before t.truncated) :
    s.date.Before t.date ∨ s.date = t.date ∧ s.time.Before t.time := by
  have hsnanos := hs.nanos
  have htnanos := ht.nanos
  simp only [before_iff, truncated] at h
  rcases Int.lt_or_le (s.seconds / secondsPerDay) (t.seconds / secondsPerDay) with hday | hday
  · exact .inl (Date.ofDays_before hday)
  · have hsame : s.seconds / secondsPerDay = t.seconds / secondsPerDay := by
      unfold secondsPerDay at *
      omega
    refine .inr ⟨by rw [date, date, hsame], ?_⟩
    simp only [TimeOfDay.Before, time, secondsPerDay] at *
    omega

/-! ## The sortable text -/

/-- The parts of the sortable text. -/
theorem toList_sortable (hyear : t.PlainYear) :
    t.sortable.toList = (padded 4 t.date.year.toNat).toList ++ ((padded 2 t.date.month).toList ++
      ((padded 2 t.date.day).toList ++ 'T' :: ((padded 2 t.time.hour).toList ++
      ((padded 2 t.time.minute).toList ++ ((padded 2 t.time.second).toList ++ '.' ::
      ((padded 3 (t.time.nanos / 1000000)).toList ++ ['Z'])))))) := by
  have hrange : (0 ≤ t.date.year && t.date.year ≤ 9999) = true := by
    simpa [PlainYear] using hyear
  simp [sortable, yearText, hrange]

/-- Every part of the sortable text fits its width. -/
theorem parts_lt (ht : t.Valid) (hyear : t.PlainYear) :
    t.date.year.toNat < 10 ^ 4 ∧ t.date.month < 10 ^ 2 ∧ t.date.day < 10 ^ 2 ∧
      t.time.hour < 10 ^ 2 ∧ t.time.minute < 10 ^ 2 ∧ t.time.second < 10 ^ 2 ∧
      t.time.nanos / 1000000 < 10 ^ 3 := by
  have hdate : t.date.isValid = true := Date.isValid_ofDays _
  obtain ⟨hmonth, hday⟩ := Date.lt_hundred_of_isValid hdate
  obtain ⟨hhour, hminute, hsecond, -, -⟩ := Rfc3339.time_spec ht
  have hnanos : t.time.nanos < 1000000000 := Nat.mod_lt _ (by decide)
  unfold PlainYear at hyear
  omega

theorem length_sortable (ht : t.Valid) (hyear : t.PlainYear) : t.sortable.toList.length = 20 := by
  obtain ⟨hy, hmonth, hday, hhour, hminute, hsecond, hmillis⟩ := parts_lt ht hyear
  simp [toList_sortable hyear, length_padded (by decide) hy, length_padded (by decide) hmonth,
    length_padded (by decide) hday, length_padded (by decide) hhour,
    length_padded (by decide) hminute, length_padded (by decide) hsecond,
    length_padded (by decide) hmillis]

theorem mem_sortable {c : Char} (hyear : t.PlainYear) (hc : c ∈ t.sortable.toList) :
    c.isDigit = true ∨ c = 'T' ∨ c = '.' ∨ c = 'Z' := by
  rw [toList_sortable hyear] at hc
  simp only [List.mem_append, List.mem_cons, List.not_mem_nil, or_false] at hc
  rcases hc with hc | hc | hc | rfl | hc | hc | hc | rfl | hc | rfl
  all_goals first
    | exact .inl (isDigit_of_mem_padded hc)
    | simp

/-- A date in plain years before another one, as the numbers that are written. -/
theorem toNat_year_lt_or (hs : s.PlainYear) (h : s.date.Before t.date) :
    s.date.year.toNat < t.date.year.toNat ∨ s.date.year.toNat = t.date.year.toNat ∧
      (s.date.month < t.date.month ∨ s.date.month = t.date.month ∧ s.date.day < t.date.day) := by
  unfold PlainYear at hs
  unfold Date.Before at h
  omega

/-- The earlier of two instants, in whole milliseconds, has the smaller text. -/
theorem sortable_append_lt (hs : s.Valid) (ht : t.Valid) (hsyear : s.PlainYear)
    (htyear : t.PlainYear) (h : s.truncated.Before t.truncated) (as bs : List Char) :
    s.sortable.toList ++ as < t.sortable.toList ++ bs := by
  refine append_lt_append ?_ ((length_sortable hs hsyear).trans (length_sortable ht htyear).symm) _ _
  obtain ⟨hy, hmonth, hday, hhour, hminute, hsecond, hmillis⟩ := parts_lt hs hsyear
  obtain ⟨hy', hmonth', hday', hhour', hminute', hsecond', hmillis'⟩ := parts_lt ht htyear
  rw [toList_sortable hsyear, toList_sortable htyear]
  rcases date_before_or_time_before hs ht h with hdate | ⟨hdate, htime⟩
  · refine padded_append_lt (by decide) hy hy' ?_
    refine (toNat_year_lt_or hsyear hdate).imp_right fun ⟨heq, hrest⟩ => ⟨heq, ?_⟩
    refine padded_append_lt (by decide) hmonth hmonth' (hrest.imp_right fun ⟨heq, hlt⟩ => ⟨heq, ?_⟩)
    exact padded_append_lt (by decide) hday hday' (.inl hlt)
  · rw [hdate]
    iterate 3 refine List.Lex.append_left _ ?_ _
    refine List.Lex.cons ?_
    refine padded_append_lt (by decide) hhour hhour' (htime.imp_right fun ⟨heq, hrest⟩ => ⟨heq, ?_⟩)
    refine padded_append_lt (by decide) hminute hminute'
      (hrest.imp_right fun ⟨heq, hrest⟩ => ⟨heq, ?_⟩)
    refine padded_append_lt (by decide) hsecond hsecond'
      (hrest.imp_right fun ⟨heq, hlt⟩ => ⟨heq, List.Lex.cons ?_⟩)
    exact padded_append_lt (by decide) hmillis hmillis' (.inl hlt)

end Instant

end AgentGovernance
