/-
The instants of local times.

A day of the calendar is the date of its own number, and the day after it has the next number.
So a local date and time are what is written of one instant in UTC, and the timestamp with an
offset names that instant less the offset. A fraction is cut to milliseconds, with one
exception: no digit beyond the ninth counts towards the length of a fraction, but leading zeros
are not counted among the digits that are read, so a longer fraction that begins with a zero is
taken for more than it is as soon as more than six digits follow its zeros.

* `Civil.ofDayNumber_dayNumber`, `Civil.dayNumber_tomorrow` — days and their numbers, both
  ways;
* `fractionMillis_eq_wholeMillis_iff` — which fractions are cut as they should be;
* `Timestamp.inUtc` — the local date and time of a timestamp, written in UTC;
* `due_dates_are_instants` — the instant of every due date that is accepted;
* `long_fraction_misread` — a fraction of thirteen digits that is taken for a thousand times
  what it is.
-/
import Mathlib.Tactic.IntervalCases
import TodoServer.Proofs.Todo.DueDates

namespace TodoServer

/-! ### Days -/

namespace Civil

variable {d d' : Civil}

/-- The year, counted from the first of March, that a date is in. -/
def marchYear (d : Civil) : Int := if d.month ≤ 2 then d.year - 1 else d.year

/-- The months of that year before a date. -/
def marchMonths (d : Civil) : Int := if d.month ≤ 2 then d.month + 9 else d.month - 3

/-- The days of such a year before a month. -/
def monthStart (months : Int) : Int := (153 * months + 2) / 5

/-- The days before such a year. -/
def yearStart (year : Int) : Int := year * 365 + year / 4 - year / 100 + year / 400

theorem dayNumber_eq (d : Civil) :
    d.dayNumber = yearStart d.marchYear + monthStart d.marchMonths +
      (d.day - 1) - epochOffset := by
  rw [dayNumber, yearStart, monthStart, marchYear, marchMonths]

theorem yearStart_mono {year year' : Int} (h : year ≤ year') :
    yearStart year ≤ yearStart year' := by
  rw [yearStart, yearStart]
  omega

/-- A date lies before the next month begins, and February before the next year. -/
theorem day_mem (h : d.isReal = true) :
    (0 ≤ d.marchMonths ∧ d.marchMonths ≤ 11) ∧ 1 ≤ d.day ∧
      (d.marchMonths < 11 → monthStart d.marchMonths + d.day ≤
        monthStart (d.marchMonths + 1)) ∧
      yearStart d.marchYear + monthStart d.marchMonths + d.day ≤
        yearStart (d.marchYear + 1) := by
  obtain ⟨⟨hfirst, hmonth⟩, hday, hlast⟩ := (isReal_iff d).1 h
  have hleap := isLeap_iff d.year
  rw [daysIn] at hlast
  rw [yearStart, yearStart, monthStart, monthStart, marchYear, marchMonths]
  split_ifs at hlast ⊢ with hfebruary hfew hyear <;> try omega
  · rw [hyear] at hleap
    simp only [true_iff] at hleap
    omega
  · have hlong : d.month = 3 ∨ d.month = 5 ∨ d.month = 7 ∨ d.month = 8 ∨ d.month = 10 ∨
        d.month = 12 := by
      omega
    rcases hlong with hlong | hlong | hlong | hlong | hlong | hlong <;> rw [hlong] <;> omega

/-- Dates of one number are one date: they are in one year, and then in one month. -/
theorem eq_of_dayNumber_eq (h : d.isReal = true) (h' : d'.isReal = true)
    (hnumber : d.dayNumber = d'.dayNumber) : d = d' := by
  have hmem := day_mem h
  have hmem' := day_mem h'
  rw [dayNumber_eq, dayNumber_eq] at hnumber
  have hstart : ∀ m : Int, 0 ≤ m → 0 ≤ monthStart m := fun m hm => by
    rw [monthStart]
    omega
  have hyear : d.marchYear = d'.marchYear := by
    rcases Int.lt_trichotomy d.marchYear d'.marchYear with hlt | heq | hlt
    · have := yearStart_mono (Int.add_one_le_of_lt hlt)
      have := hstart _ hmem'.1.1
      omega
    · exact heq
    · have := yearStart_mono (Int.add_one_le_of_lt hlt)
      have := hstart _ hmem.1.1
      omega
  rw [hyear] at hnumber hmem
  have hmonths : d.marchMonths = d'.marchMonths := by
    simp only [monthStart] at hnumber hmem hmem'
    omega
  rw [hmonths] at hnumber
  obtain ⟨⟨hfirst, hlast⟩, -⟩ := (isReal_iff d).1 h
  obtain ⟨⟨hfirst', hlast'⟩, -⟩ := (isReal_iff d').1 h'
  obtain ⟨year, month, day⟩ := d
  obtain ⟨year', month', day'⟩ := d'
  simp only [marchYear, marchMonths, mk.injEq] at *
  split_ifs at * <;> omega

theorem ofDayNumber_dayNumber (h : d.isReal = true) : ofDayNumber d.dayNumber = d :=
  eq_of_dayNumber_eq (isReal_ofDayNumber _) h (dayNumber_ofDayNumber _)

/-- The day after a date. -/
def tomorrow (d : Civil) : Civil :=
  if d.day < daysIn d.year d.month then ⟨d.year, d.month, d.day + 1⟩
  else if d.month < 12 then ⟨d.year, d.month + 1, 1⟩
  else ⟨d.year + 1, 1, 1⟩

/-- Days are numbered one after the other. -/
theorem dayNumber_tomorrow (h : d.isReal = true) :
    d.tomorrow.isReal = true ∧ d.tomorrow.dayNumber = d.dayNumber + 1 := by
  obtain ⟨⟨hfirst, hmonth⟩, hday, hlast⟩ := (isReal_iff d).1 h
  have hleap := isLeap_iff d.year
  obtain ⟨year, month, day⟩ := d
  rw [isReal_iff, tomorrow]
  simp only at hleap hfirst hmonth hday hlast ⊢
  split_ifs with hmore hmonths
  · refine ⟨⟨⟨hfirst, hmonth⟩, Nat.succ_pos _, hmore⟩, ?_⟩
    simp only [dayNumber]
    split_ifs <;> omega
  · -- the lengths of the months are what the next one starts with
    obtain rfl : day = daysIn year month := Nat.le_antisymm hlast (Nat.not_lt.1 hmore)
    refine ⟨⟨⟨Nat.succ_pos _, hmonths⟩, Nat.le_refl 1, ?_⟩, ?_⟩
    · simp only [daysIn]
      split_ifs <;> omega
    · simp only [dayNumber, daysIn]
      cases hyear : isLeap year <;> rw [hyear] at hleap
      all_goals interval_cases month <;> simp at hleap ⊢ <;> omega
  · obtain rfl : month = 12 := by omega
    obtain rfl : day = 31 := Nat.le_antisymm hlast (Nat.not_lt.1 hmore)
    refine ⟨⟨⟨Nat.le_refl 1, hfirst⟩, Nat.le_refl 1, by simp [daysIn]⟩, ?_⟩
    simp only [dayNumber]
    omega

end Civil

/-! ### Fractions -/

/-- The whole milliseconds of a fraction. -/
def wholeMillis (fraction : List Char) : Nat :=
  digitsValue fraction * 1000 / 10 ^ fraction.length

/-- A fraction has no more digits than are counted, or no zero first, or few digits after its
zeros. -/
def IsReadInFull (fraction : List Char) : Prop :=
  fraction.length ≤ significantDigits ∨ fraction.head? ≠ some '0' ∨
    (fraction.dropWhile (· = '0')).length ≤ 6

section Fraction

variable {fraction : List Char}

theorem wholeMillis_lt_thousand (fraction : List Char) : wholeMillis fraction < 1000 := by
  refine Nat.div_lt_of_lt_mul ?_
  exact Nat.mul_lt_mul_of_pos_right (digitsValue_lt fraction) (by decide)

theorem wholeMillis_of_short (h : fraction.length ≤ 3) :
    wholeMillis fraction = digitsValue fraction * 10 ^ (3 - fraction.length) := by
  have hpow : (1000 : Nat) = 10 ^ (3 - fraction.length) * 10 ^ fraction.length := by
    rw [← Nat.pow_add, Nat.sub_add_cancel h]
  rw [wholeMillis, hpow, ← Nat.mul_assoc, Nat.mul_div_cancel _ (Nat.pow_pos (by decide))]

theorem wholeMillis_of_long (h : 3 ≤ fraction.length) :
    wholeMillis fraction = digitsValue fraction / 10 ^ (fraction.length - 3) := by
  have hpow : 10 ^ fraction.length = 10 ^ (fraction.length - 3) * 1000 := by
    rw [← Nat.pow_sub_mul_pow 10 h]
  rw [wholeMillis, hpow, Nat.mul_div_mul_right _ _ (by decide)]

/-- A fraction of no more digits than are counted is cut to milliseconds. -/
theorem fractionMillis_of_counted (h : fraction.length ≤ significantDigits) :
    fractionMillis fraction = wholeMillis fraction := by
  have hread : leadingNumber fraction = digitsValue fraction := by
    have hfew := (List.dropWhile_sublist (· = '0')).length_le.trans h
    rw [leadingNumber, List.take_of_length_le hfew, digitsValue_dropWhile]
  rw [fractionMillis, millisOfFraction, hread]
  split_ifs with hshort
  · exact (wholeMillis_of_short hshort).symm
  · rw [Nat.min_eq_left h]
    exact (wholeMillis_of_long (Nat.le_of_not_le hshort)).symm

/-- A longer one is cut as if it had no more digits than follow its zeros, or nine. -/
theorem fractionMillis_of_long (h : significantDigits < fraction.length) :
    fractionMillis fraction =
      digitsValue fraction / 10 ^
        (max (fraction.dropWhile (· = '0')).length significantDigits - 3) := by
  have hlong : ¬fraction.length ≤ 3 := fun hshort => absurd (h.trans_le hshort) (by decide)
  have hexponent : (fraction.dropWhile (· = '0')).length - significantDigits +
      (significantDigits - 3) =
      max (fraction.dropWhile (· = '0')).length significantDigits - 3 := by
    simp only [significantDigits]
    omega
  rw [fractionMillis, millisOfFraction, if_neg hlong, Nat.min_eq_right h.le, leadingNumber,
    digitsValue_take, digitsValue_dropWhile, Nat.div_div_eq_div_mul]
  exact congrArg (digitsValue fraction / ·)
    ((Nat.pow_add ..).symm.trans (congrArg (10 ^ ·) hexponent))

/-- The zeros that a fraction begins with are not among the digits after them. -/
theorem length_dropWhile_lt (hzero : fraction.head? = some '0') :
    (fraction.dropWhile (· = '0')).length < fraction.length := by
  obtain ⟨rest, rfl⟩ := List.head?_eq_some_iff.1 hzero
  rw [List.dropWhile_cons_of_pos (by decide), List.length_cons]
  exact Nat.lt_succ_of_le (List.dropWhile_sublist _).length_le

/-- A longer one that begins with a zero is taken for more than it is, if many digits follow
its zeros. -/
theorem wholeMillis_lt_fractionMillis (h : ∀ c ∈ fraction, isDecimal c = true)
    (hlong : significantDigits < fraction.length) (hzero : fraction.head? = some '0')
    (hmany : 6 < (fraction.dropWhile (· = '0')).length) :
    wholeMillis fraction < fractionMillis fraction := by
  have hsignificant : significantDigits = 9 := rfl
  have hfewer := length_dropWhile_lt hzero
  have hvalue := digitsValue_dropWhile fraction
  rw [fractionMillis_of_long hlong, wholeMillis_of_long (by omega)]
  rcases hrest : fraction.dropWhile (· = '0') with _ | ⟨c, cs⟩
  · rw [hrest] at hmany
    cases hmany
  have hc : isDecimal c = true :=
    h c ((List.dropWhile_sublist _).subset (hrest ▸ List.mem_cons_self))
  have hfirst : c ≠ '0' := by
    have hnot := List.head?_dropWhile_not (· = '0') fraction
    rw [hrest] at hnot
    simpa using hnot
  have hleast : 10 ^ cs.length ≤ digitsValue (c :: cs) := le_digitsValue hc hfirst
  rw [← hrest, hvalue] at hleast
  rw [hrest, List.length_cons] at hfewer hmany
  rw [List.length_cons]
  -- at least a millisecond as it is read, and at most a tenth of that in truth
  let read := digitsValue fraction / 10 ^ (max (cs.length + 1) significantDigits - 3)
  have hread : 0 < read := by
    refine Nat.div_pos (le_trans ?_ hleast) (Nat.pow_pos (by decide))
    exact Nat.pow_le_pow_right (by decide) (by omega)
  have htenth : digitsValue fraction / 10 ^ (fraction.length - 3) ≤ read / 10 := by
    rw [Nat.div_div_eq_div_mul, ← Nat.pow_succ]
    exact Nat.div_le_div_left (Nat.pow_le_pow_right (by decide) (by omega))
      (Nat.pow_pos (by decide))
  exact htenth.trans_lt (Nat.div_lt_self hread (by decide))

/-- The fractions that are cut to milliseconds are those that are read in full. -/
theorem fractionMillis_eq_wholeMillis_iff (h : ∀ c ∈ fraction, isDecimal c = true) :
    fractionMillis fraction = wholeMillis fraction ↔ IsReadInFull fraction := by
  by_cases hcounted : fraction.length ≤ significantDigits
  · exact iff_of_true (fractionMillis_of_counted hcounted) (Or.inl hcounted)
  have hlong : significantDigits < fraction.length := Nat.not_le.1 hcounted
  have hsignificant : significantDigits = 9 := rfl
  by_cases hzero : fraction.head? = some '0'
  · by_cases hfew : (fraction.dropWhile (· = '0')).length ≤ 6
    · -- less than a millisecond either way
      have hmore := digitsValue_lt (fraction.dropWhile (· = '0'))
      rw [digitsValue_dropWhile] at hmore
      have hsmall : digitsValue fraction < 10 ^ 6 :=
        hmore.trans_le (Nat.pow_le_pow_right (by decide) hfew)
      have hnone : ∀ exponent, 6 ≤ exponent → digitsValue fraction / 10 ^ exponent = 0 :=
        fun _ hle =>
        Nat.div_eq_of_lt (hsmall.trans_le (Nat.pow_le_pow_right (by decide) hle))
      refine iff_of_true ?_ (Or.inr (Or.inr hfew))
      rw [fractionMillis_of_long hlong, wholeMillis_of_long (by omega), hnone _ (by omega),
        hnone _ (by omega)]
    · have hlt := wholeMillis_lt_fractionMillis h hlong hzero (Nat.not_le.1 hfew)
      exact iff_of_false hlt.ne' (by simp [IsReadInFull, hcounted, hzero, hfew])
  · have hall : fraction.dropWhile (· = '0') = fraction := by
      rcases fraction with _ | ⟨c, cs⟩
      · rfl
      · exact List.dropWhile_cons_of_neg (by simpa using hzero)
    rw [fractionMillis_of_long hlong, wholeMillis_of_long (by omega), hall,
      Nat.max_eq_left hlong.le]
    exact iff_of_true rfl (Or.inr (Or.inl hzero))

end Fraction

/-! ### Local times in UTC -/

namespace Timestamp

variable {t : Timestamp} {cs : List Char}

/-- The local date and time, to whole milliseconds, as a timestamp in UTC. -/
def inUtc (t : Timestamp) : Timestamp :=
  { t with fraction := padded 3 (wholeMillis t.fraction), offset := .utc }

/-- What is written in UTC of the local date and time. -/
def utcText (t : Timestamp) : Text :=
  Text.ofString (String.ofList (t.minuteText ++
    ':' :: (padded 2 t.second ++ '.' :: (padded 3 (wholeMillis t.fraction) ++ ['Z']))))

theorem chars_utcText (t : Timestamp) :
    t.utcText.chars = t.minuteText ++
      ':' :: (padded 2 t.second ++ '.' :: (padded 3 (wholeMillis t.fraction) ++ ['Z'])) := by
  rw [utcText, Text.ofString, Text.chars_ofChars, String.toList_ofList]

theorem second_lt_of_writes (h : t.Writes cs) : t.second < 60 := by
  obtain ⟨seconds, offset, hseconds, -⟩ := h.text
  generalize t.second = second at hseconds
  generalize t.fraction = fraction at hseconds
  cases hseconds with
  | omitted => decide
  | written hsecond => exact hsecond

theorem isDecimal_of_writes (h : t.Writes cs) : ∀ c ∈ t.fraction, isDecimal c = true := by
  obtain ⟨seconds, offset, hseconds, -⟩ := h.text
  generalize t.second = second at hseconds
  generalize t.fraction = fraction at hseconds
  cases hseconds with
  | omitted => exact fun c hc => absurd hc List.not_mem_nil
  | written _ hfraction => exact hfraction

/-- The local date and time of a timestamp is written so in UTC, whatever its offset is. -/
theorem inUtc_writes (h : t.Writes cs) : t.inUtc.Writes t.utcText.chars := by
  have hne : padded 3 (wholeMillis t.fraction) ≠ [] := padded_ne_nil (by decide)
  have hseconds := Seconds.written (second_lt_of_writes h)
    (fun c hc => @isDecimal_of_mem_padded 3 (wholeMillis t.fraction) c hc)
  refine ⟨h.real, h.year, h.hour, h.minute, _, _, hseconds, .utc, ?_⟩
  rw [chars_utcText, fractionText, if_neg hne]
  simp only [List.append_assoc, List.cons_append]
  rfl

theorem localMillis_inUtc (t : Timestamp) :
    t.localMillis = t.inUtc.localMillis +
      (fractionMillis t.fraction - wholeMillis t.fraction) := by
  have hfraction : fractionMillis t.inUtc.fraction = wholeMillis t.fraction :=
    fractionMillis_padded (wholeMillis_lt_thousand t.fraction)
  rw [localMillis, localMillis, hfraction]
  simp only [inUtc]
  push_cast
  ring

/-- The instant of a local date and time in UTC is written as that date and time. -/
theorem wireText_inUtc (h : t.Writes cs) : Date.wireText t.inUtc.localMillis = t.utcText := by
  have hhour := h.hour
  have hminute := h.minute
  have hsecond := second_lt_of_writes h
  have hwhole := wholeMillis_lt_thousand t.fraction
  let inDay := t.hour * 3600000 + t.minute * 60000 + t.second * 1000 + wholeMillis t.fraction
  have hfraction : fractionMillis t.inUtc.fraction = wholeMillis t.fraction :=
    fractionMillis_padded hwhole
  have hmillis : t.inUtc.localMillis = t.day.dayNumber * Date.dayMillis + (inDay : Int) := by
    rw [localMillis, hfraction]
    rfl
  have hday : t.inUtc.localMillis / Date.dayMillis = t.day.dayNumber := by
    rw [hmillis]
    simp only [Date.dayMillis, inDay]
    omega
  have htime : (t.inUtc.localMillis % Date.dayMillis).toNat = inDay := by
    rw [hmillis]
    simp only [Date.dayMillis, inDay]
    omega
  have hfields : inDay / 3600000 = t.hour ∧ inDay / 60000 % 60 = t.minute ∧
      inDay / 1000 % 60 = t.second ∧ inDay % 1000 = wholeMillis t.fraction := by
    simp only [inDay]
    omega
  obtain ⟨hhours, hminutes, hseconds, hmilliseconds⟩ := hfields
  have hwritten : Date.isoMillis t.inUtc.localMillis = t.minuteText ++
      ':' :: (padded 2 t.second ++ '.' :: (padded 3 (wholeMillis t.fraction) ++ ['Z'])) := by
    rw [Date.isoMillis]
    simp only [hday, htime, hhours, hminutes, hseconds, hmilliseconds,
      Civil.ofDayNumber_dayNumber h.real, Date.yearText, if_pos h.year]
    simp only [minuteText, List.append_assoc, List.cons_append]
  rw [Date.wireText, hwritten, utcText]

end Timestamp

/-! ### Due dates -/

theorem dueDate?_wireText_of_year {millis : Int} (h : (Date.valid millis).HasFourDigitYear) :
    dueDate? (.text (Date.wireText millis)) = .ok (.valid millis) := by
  have hrange : -Date.range ≤ millis ∧ millis ≤ Date.range := by
    rw [Date.HasFourDigitYear] at h
    rw [Date.range]
    omega
  rw [dueDate?_wireText, Timestamp.read?_isoMillis h]
  simp only [Timestamp.date_ofMillis]
  rw [Date.ofMillis, if_pos hrange]

/-- A due date that is an instant in a year of four digits is accepted as that instant in the
text that is written of it. Every text that is accepted writes a timestamp; if its offset is
one that a clock can show, the local date and time is what is written of some instant in UTC,
seconds that are left out being zero and the fraction whole milliseconds, and the due date is
that instant less the offset, exactly if the fraction is read in full. Otherwise it is off by
what the fraction is taken for beyond its whole milliseconds. Days are those of the calendar,
counted from the first of January 1970. -/
theorem due_dates_are_instants (raw : Text) :
    (∀ millis : Int, (Date.valid millis).HasFourDigitYear →
      dueDate? (.text (Date.wireText millis)) = .ok (.valid millis)) ∧
    (∀ date : Date, dueDate? (.text raw) = .ok date →
      ∃ t : Timestamp, t.Writes raw.chars ∧ (t.offset.IsOnClock →
        ∃ utc : Int, (Date.valid utc).HasFourDigitYear ∧ Date.wireText utc = t.utcText ∧
          dueDate? (.text t.utcText) = .ok (.valid utc) ∧
          date = .valid (utc + (fractionMillis t.fraction - wholeMillis t.fraction) -
            t.offset.millis) ∧
          (date = .valid (utc - t.offset.millis) ↔ IsReadInFull t.fraction))) ∧
    Civil.dayNumber ⟨1970, 1, 1⟩ = 0 ∧
      ∀ d : Civil, d.isReal = true → d.tomorrow.isReal = true ∧
        d.tomorrow.dayNumber = d.dayNumber + 1 := by
  refine ⟨fun millis h => dueDate?_wireText_of_year h, ?_, rfl,
    fun d hd => Civil.dayNumber_tomorrow hd⟩
  intro date haccepted
  obtain ⟨_, t, hraw, hwrites, rfl⟩ := exists_writes_of_dueDate? haccepted
  cases hraw
  refine ⟨t, hwrites, fun hclock => ?_⟩
  have hyear := Timestamp.hasFourDigitYear_localMillis
    (Timestamp.read?_eq_some_iff.2 (Timestamp.inUtc_writes hwrites))
  have hwire := Timestamp.wireText_inUtc hwrites
  have hdate := Timestamp.date_of_writes hwrites hclock
  rw [Timestamp.localMillis_inUtc] at hdate
  refine ⟨_, hyear, hwire, ?_, hdate, ?_⟩
  · rw [← hwire]
    exact dueDate?_wireText_of_year hyear
  · rw [hdate, Date.valid.injEq,
      ← fractionMillis_eq_wholeMillis_iff (Timestamp.isDecimal_of_writes hwrites)]
    omega

/-- Nine o'clock and some in Tokyo, to more than milliseconds: the same time in UTC, nine hours
less. -/
theorem due_dates_are_instants_tokyo :
    dueDate? (.text (Date.wireText 1772355600123)) = .ok (.valid 1772355600123) ∧
      dueDate? (.text "2026-03-01T09:00:00.123Z") = .ok (.valid 1772355600123) ∧
      dueDate? (.text "2026-03-01T09:00:00.1239+09:00") =
        .ok (.valid (1772355600123 - 9 * 3600000)) ∧
      (Civil.tomorrow ⟨2026, 2, 28⟩).dayNumber = Civil.dayNumber ⟨2026, 2, 28⟩ + 1 := by
  obtain ⟨hwritten, hread, -, htomorrow⟩ :=
    due_dates_are_instants "2026-03-01T09:00:00.1239+09:00"
  obtain ⟨date, haccepted⟩ : ∃ date, dueDate? (.text "2026-03-01T09:00:00.1239+09:00") =
    .ok date :=
    ⟨_, rfl⟩
  obtain ⟨t, hwrites, hinstant⟩ := hread _ haccepted
  have ht : Timestamp.read? ("2026-03-01T09:00:00.1239+09:00" : Text).chars =
      some ⟨⟨2026, 3, 1⟩, 9, 0, 0, ['1', '2', '3', '9'], .ahead 9 0⟩ := by decide +kernel
  obtain rfl := Option.some.inj ((Timestamp.read?_eq_some_iff.2 hwrites).symm.trans ht)
  obtain ⟨utc, hyear, hwire, hutc, -, hfull⟩ := hinstant (by decide)
  have htext : Timestamp.utcText ⟨⟨2026, 3, 1⟩, 9, 0, 0, ['1', '2', '3', '9'], .ahead 9 0⟩ =
      "2026-03-01T09:00:00.123Z" := by decide +kernel
  have hvalue : dueDate? (.text "2026-03-01T09:00:00.123Z") = .ok (.valid 1772355600123) := by
    decide +kernel
  rw [htext, hvalue] at hutc
  cases hutc
  have hdate := hfull.2 (Or.inl (by decide))
  rw [hdate] at haccepted
  exact ⟨hwritten 1772355600123 hyear, hvalue, haccepted,
    (htomorrow ⟨2026, 2, 28⟩ (by decide)).2⟩

/-- Nine o'clock in Tokyo and a fraction that is less than a millisecond, of thirteen digits:
it is taken for 999 milliseconds. -/
theorem long_fraction_misread :
    ∃ t : Timestamp, t.Writes ("2026-03-01T09:00:00.0009999999999+09:00" : Text).chars ∧
      t.offset = .ahead 9 0 ∧ t.utcText = "2026-03-01T09:00:00.000Z" ∧
      dueDate? (.text "2026-03-01T09:00:00.000Z") = .ok (.valid 1772355600000) ∧
      dueDate? (.text "2026-03-01T09:00:00.0009999999999+09:00") = .ok (.valid 1772323200999) ∧
      (1772323200999 : Int) ≠ 1772355600000 - 9 * 3600000 := by
  refine ⟨⟨⟨2026, 3, 1⟩, 9, 0, 0, "0009999999999".toList, .ahead 9 0⟩, ?_, rfl, ?_, ?_,
    ?_, by decide⟩
  · exact Timestamp.read?_eq_some_iff.1 (by decide +kernel)
  all_goals decide +kernel

end TodoServer
