/-
Times written and read back.

A time is written in UTC, with a year of four digits where four are enough and with a sign and
six digits where they are not. Timestamps are read with four digits only. So what is written is
read back as the time that it was written for, from the first of January 0000 to the end of
9999, and is refused outside. A time that was asked for in a timestamp lies outside only if the
offset has moved it there: local times have years of four digits.

The days carry this. The number of a day is taken apart into cycles, centuries, four-year and
single years, each with its own bound, and a day of such parts has that number and is on the
calendar.

* `Civil.MarchDay`, `Civil.exists_marchDay` — the parts of a day, and every day has them;
* `Civil.dayNumber_ofDayNumber`, `Civil.isReal_ofDayNumber` — the date of a day number;
* `Timestamp.read?_isoMillis`, `Timestamp.date_ofMillis` — what is written of a time, read;
* `due_date_reads_back` — a due date in the wire form of a todo;
* `due_date_moved_out_of_years` — one that its offset has moved past either end.
-/
import TodoServer.Proofs.Calendar.Instants
import TodoServer.Proofs.Text.Identifiers
import TodoServer.Proofs.Todo.Dated

namespace TodoServer

/-! ### Days -/

namespace Civil

theorem isLeap_iff (year : Int) :
    isLeap year = true ↔ year % 4 = 0 ∧ (year % 100 ≠ 0 ∨ year % 400 = 0) := by
  simp only [isLeap, Bool.and_eq_true, Bool.or_eq_true, decide_eq_true_eq]

theorem isReal_iff (d : Civil) :
    d.isReal = true ↔ (1 ≤ d.month ∧ d.month ≤ 12) ∧ 1 ≤ d.day ∧
      d.day ≤ daysIn d.year d.month := by
  simp only [isReal, Bool.and_eq_true, decide_eq_true_eq, and_assoc]

/-- A day among the years that are counted from the first of March: the cycles of 400 years,
the centuries, the four-year and the single years before it, and the days before it in its own
year. -/
structure MarchDay where
  cycles : Int
  centuries : Int
  fours : Int
  ones : Int
  days : Int
  centuries_mem : 0 ≤ centuries ∧ centuries ≤ 3
  fours_mem : 0 ≤ fours ∧ fours ≤ 24
  ones_mem : 0 ≤ ones ∧ ones ≤ 3
  days_mem : 0 ≤ days ∧ days ≤ 365
  /-- Only the last of four years has a day more, and not the last of a century that ends no
  cycle. -/
  leap : days = 365 → ones = 3 ∧ (fours < 24 ∨ centuries = 3)

namespace MarchDay

variable (p : MarchDay)

/-- The year that the day's own begins in. -/
def year : Int := p.cycles * 400 + p.centuries * 100 + p.fours * 4 + p.ones

/-- The months before the day in its year. -/
def months : Int := (5 * p.days + 2) / 153

/-- Days since 1970-01-01. -/
def number : Int :=
  p.cycles * 146097 + p.centuries * 36524 + p.fours * 1461 + p.ones * 365 +
    p.days - epochOffset

/-- The date of the day. January and February belong to the next year. -/
def date : Civil :=
  let day := (p.days - (153 * p.months + 2) / 5 + 1).toNat
  if p.months < 10 then ⟨p.year, (p.months + 3).toNat, day⟩
  else ⟨p.year + 1, (p.months - 9).toNat, day⟩

theorem year_div : p.year / 4 = p.cycles * 100 + p.centuries * 25 + p.fours ∧
    p.year / 100 = p.cycles * 4 + p.centuries ∧ p.year / 400 = p.cycles := by
  have hcenturies := p.centuries_mem
  have hfours := p.fours_mem
  have hones := p.ones_mem
  rw [year]
  omega

theorem months_mem : 0 ≤ p.months ∧ p.months ≤ 11 := by
  have hdays := p.days_mem
  rw [months]
  omega

theorem dayNumber_date : p.date.dayNumber = p.number := by
  obtain ⟨hfours, hcenturies, hcycles⟩ := p.year_div
  have hdays := p.days_mem
  have hmonths := p.months_mem
  have hmonths' : p.months = (5 * p.days + 2) / 153 := rfl
  have hyear : p.year = p.cycles * 400 + p.centuries * 100 + p.fours * 4 + p.ones := rfl
  simp only [date, number]
  split_ifs with hmonth
  · have hlate : ¬(p.months + 3).toNat ≤ 2 := by omega
    simp only [dayNumber, hlate, if_false, hfours, hcenturies, hcycles]
    omega
  · -- the year is counted from March again
    have hearly : (p.months - 9).toNat ≤ 2 := by omega
    have hsame : p.year + 1 - 1 = p.year := by omega
    simp only [dayNumber, hearly, if_true, hsame, hfours, hcenturies, hcycles]
    omega

theorem isLeap_of_days (h : p.days = 365) : isLeap (p.year + 1) = true := by
  obtain ⟨hones, hrest⟩ := p.leap h
  have hcenturies := p.centuries_mem
  have hfours := p.fours_mem
  rw [isLeap_iff, year]
  omega

theorem isReal_date : p.date.isReal = true := by
  have hdays := p.days_mem
  have hmonths := p.months_mem
  have hmonths' : p.months = (5 * p.days + 2) / 153 := rfl
  rw [isReal_iff]
  simp only [date]
  split_ifs with hmonth
  · simp only [daysIn]
    refine ⟨by omega, by omega, ?_⟩
    split_ifs <;> omega
  · simp only [daysIn]
    refine ⟨by omega, by omega, ?_⟩
    split_ifs with hfebruary hleap
    · omega
    · have hdays' : p.days ≠ 365 := fun h => hleap (p.isLeap_of_days h)
      omega
    all_goals omega

end MarchDay

/-- Every day has its place among the years counted from March. -/
theorem exists_marchDay (n : Int) : ∃ p : MarchDay, p.number = n ∧ ofDayNumber n = p.date := by
  let inCycle := (n + epochOffset) % 146097
  let centuries := min (inCycle / 36524) 3
  let inCentury := inCycle - centuries * 36524
  let ones := min (inCentury % 1461 / 365) 3
  refine ⟨⟨(n + epochOffset) / 146097, centuries, inCentury / 1461, ones,
    inCentury % 1461 - ones * 365, ?_, ?_, ?_, ?_, ?_⟩, ?_, rfl⟩
  all_goals
    simp only [inCycle, centuries, inCentury, ones, MarchDay.number]
    omega

theorem dayNumber_ofDayNumber (n : Int) : (ofDayNumber n).dayNumber = n := by
  obtain ⟨p, hnumber, hdate⟩ := exists_marchDay n
  rw [hdate, p.dayNumber_date, hnumber]

theorem isReal_ofDayNumber (n : Int) : (ofDayNumber n).isReal = true := by
  obtain ⟨p, -, hdate⟩ := exists_marchDay n
  rw [hdate]
  exact p.isReal_date

theorem year_nonneg_iff {d : Civil} (h : d.isReal = true) :
    0 ≤ d.year ↔ -719528 ≤ d.dayNumber := by
  obtain ⟨hmonth, hday, hlast⟩ := (isReal_iff d).1 h
  have hlength := Timestamp.daysIn_le d.year d.month
  rw [dayNumber, epochOffset]
  split_ifs with hearly <;> constructor <;> intro hyear <;> omega

theorem year_le_iff {d : Civil} (h : d.isReal = true) : d.year ≤ 9999 ↔
    d.dayNumber ≤ 2932896 := by
  obtain ⟨hmonth, hday, hlast⟩ := (isReal_iff d).1 h
  have hlength := Timestamp.daysIn_le d.year d.month
  rw [dayNumber, epochOffset]
  split_ifs with hearly <;> constructor <;> intro hyear <;> omega

/-- Years of four digits are those from one day to another. -/
theorem year_mem_iff {d : Civil} (h : d.isReal = true) :
    0 ≤ d.year ∧ d.year ≤ 9999 ↔ -719528 ≤ d.dayNumber ∧ d.dayNumber ≤ 2932896 :=
  and_congr (year_nonneg_iff h) (year_le_iff h)

end Civil

/-! ### Numerals -/

theorem isDecimal_of_mem_padded {width n : Nat} {c : Char} (h : c ∈ padded width n) :
    isDecimal c = true := by
  obtain ⟨digit, hdigit, rfl⟩ := exists_of_mem_fixedDigits (by decide) h
  rw [isDecimal, decimalValue?_lowerDigit hdigit]
  rfl

theorem padded_ne_nil {width n : Nat} (h : 0 < width) : padded width n ≠ [] := by
  rw [← List.length_pos_iff, padded, length_fixedDigits]
  exact h

/-- Digits of fixed width write a number up to a power of ten. -/
theorem digitsValue_padded (width n : Nat) :
    digitsValue (padded width n) = n % 10 ^ width := by
  -- the last digit is written last and read last
  induction width generalizing n with
  | zero => simp [padded, fixedDigits, digitsValue, Nat.mod_one]
  | succ width ih =>
    have hdigit := decimalValue?_lowerDigit (Nat.mod_lt n (by decide : 0 < 10))
    have hread : digitsValue (padded (width + 1) n) =
        digitsValue (padded width (n / 10)) * 10 + n % 10 := by
      rw [padded, fixedDigits, digitsValue_concat, hdigit]
      rfl
    rw [hread, ih, Nat.pow_succ', Nat.mod_mul, Nat.add_comm, Nat.mul_comm 10]

theorem numeral?_padded {width n : Nat} (hpos : 0 < width) (h : n < 10 ^ width) :
    numeral? (padded width n) = some n := by
  have hall : (padded width n).all isDecimal = true :=
    List.all_eq_true.2 fun c hc => isDecimal_of_mem_padded hc
  rw [numeral?, if_pos ⟨padded_ne_nil hpos, hall⟩, digitsValue_padded, Nat.mod_eq_of_lt h]

/-! ### Fractions -/

/-- Three digits of a fraction are its milliseconds. -/
theorem fractionMillis_padded {n : Nat} (h : n < 1000) : fractionMillis (padded 3 n) = n := by
  have hlength : (padded 3 n).length = 3 := length_fixedDigits 10 3 n
  have hshort : ((padded 3 n).dropWhile (· = '0')).length ≤ significantDigits :=
    (List.dropWhile_sublist _).length_le.trans (hlength.le.trans (by decide))
  have hvalue : digitsValue (padded 3 n) = n := by
    rw [digitsValue_padded]
    exact Nat.mod_eq_of_lt h
  rw [fractionMillis, millisOfFraction, hlength, if_pos le_rfl, leadingNumber,
    List.take_of_length_le hshort, digitsValue_dropWhile, hvalue]
  exact Nat.mul_one n

/-- A fraction is less than a second, however long it is. -/
theorem fractionMillis_lt_thousand (fraction : List Char) :
    fractionMillis fraction < 1000 := by
  rw [fractionMillis, millisOfFraction]
  -- no more digits are read than there are, and no more than nine
  have hnumber : leadingNumber fraction < 10 ^ min fraction.length significantDigits := by
    have hlength : ((fraction.dropWhile (· = '0')).take significantDigits).length ≤
        min fraction.length significantDigits := by
      rw [List.length_take, Nat.min_comm]
      exact min_le_min_right _ (List.dropWhile_sublist _).length_le
    exact (digitsValue_lt _).trans_le (Nat.pow_le_pow_right (by decide) hlength)
  split_ifs with hshort
  · have hmin : min fraction.length significantDigits = fraction.length :=
      min_eq_left (hshort.trans (by decide))
    rw [hmin] at hnumber
    calc leadingNumber fraction * Nat.pow 10 (3 - fraction.length)
        < 10 ^ fraction.length * 10 ^ (3 - fraction.length) :=
          Nat.mul_lt_mul_of_pos_right hnumber (Nat.pow_pos (by decide))
      _ = 1000 := by rw [← Nat.pow_add, Nat.add_sub_cancel' hshort]
  · have hlong : 3 ≤ min fraction.length significantDigits :=
      le_min (Nat.le_of_not_le hshort) (by decide)
    refine Nat.div_lt_of_lt_mul ?_
    calc leadingNumber fraction < 10 ^ min fraction.length significantDigits := hnumber
      _ = Nat.pow 10 (min fraction.length significantDigits - 3) * 1000 := by
        show _ = 10 ^ (min fraction.length significantDigits - 3) * 10 ^ 3
        rw [← Nat.pow_add, Nat.sub_add_cancel hlong]

/-! ### Timestamps -/

/-- The times that have a year of four digits: from 0000-01-01T00:00:00.000Z to
9999-12-31T23:59:59.999Z. -/
def Date.HasFourDigitYear : Date → Prop
  | .valid millis => -62167219200000 ≤ millis ∧ millis ≤ 253402300799999
  | .invalid => False

example : (Date.valid (-62167219200000)).iso? = some "0000-01-01T00:00:00.000Z" ∧
    (Date.valid 253402300799999).iso? = some "9999-12-31T23:59:59.999Z" := by decide +kernel

/-- They are those whose date has such a year. -/
theorem Date.hasFourDigitYear_iff {millis : Int} :
    (Date.valid millis).HasFourDigitYear ↔
      0 ≤ (Civil.ofDayNumber (millis / dayMillis)).year ∧
        (Civil.ofDayNumber (millis / dayMillis)).year ≤ 9999 := by
  rw [Civil.year_mem_iff (Civil.isReal_ofDayNumber _), Civil.dayNumber_ofDayNumber,
    HasFourDigitYear, dayMillis]
  omega

namespace Timestamp

theorem exists_padded_two {n : Nat} (h : n < 100) :
    ∃ a b, padded 2 n = [a, b] ∧ two? a b = some n :=
  ⟨_, _, rfl, @numeral?_padded 2 n (by decide) h⟩

theorem exists_padded_four {n : Nat} (h : n < 10000) :
    ∃ a b c d, padded 4 n = [a, b, c, d] ∧ numeral? [a, b, c, d] = some n :=
  ⟨_, _, _, _, rfl, @numeral?_padded 4 n (by decide) h⟩

theorem readFraction?_padded (n : Nat) :
    readFraction? ('.' :: (padded 3 n ++ ['Z'])) = some (padded 3 n, .utc) := by
  have hdecimal : ∀ c ∈ padded 3 n, isDecimal c = true :=
    fun c hc => isDecimal_of_mem_padded hc
  have hdigits : (padded 3 n ++ ['Z']).takeWhile isDecimal = padded 3 n := by
    rw [List.takeWhile_append_of_pos hdecimal]
    exact List.append_nil _
  have hrest : (padded 3 n ++ ['Z']).dropWhile isDecimal = ['Z'] := by
    rw [List.dropWhile_append_of_pos hdecimal]
    rfl
  have hne : padded 3 n ≠ [] := padded_ne_nil (by decide)
  rw [readFraction?]
  simp only [hdigits, hrest, if_neg hne]
  rfl

/-- The timestamp that a time is written as. -/
def ofMillis (millis : Int) : Timestamp :=
  let time := (millis % Date.dayMillis).toNat
  { day := .ofDayNumber (millis / Date.dayMillis)
    hour := time / 3600000
    minute := time / 60000 % 60
    second := time / 1000 % 60
    fraction := padded 3 (time % 1000)
    offset := .utc }

theorem localMillis_ofMillis (millis : Int) : (ofMillis millis).localMillis = millis := by
  have hday : (ofMillis millis).day.dayNumber = millis / Date.dayMillis :=
    Civil.dayNumber_ofDayNumber _
  have hfraction : fractionMillis (ofMillis millis).fraction =
      (millis % Date.dayMillis).toNat % 1000 :=
        fractionMillis_padded (Nat.mod_lt _ (by decide))
  rw [localMillis, hday, hfraction]
  simp only [ofMillis, Date.dayMillis]
  omega

/-- The timestamp that a time is written as names the time. -/
theorem date_ofMillis (millis : Int) : (ofMillis millis).date = .ofMillis millis := by
  rw [date, localMillis_ofMillis]
  exact congrArg Date.ofMillis (Int.sub_zero millis)

/-- What is written of a time is read back, where its year has four digits. -/
theorem read?_isoMillis {millis : Int} (h : (Date.valid millis).HasFourDigitYear) :
    read? (Date.isoMillis millis) = some (ofMillis millis) := by
  let time := (millis % Date.dayMillis).toNat
  have htime : time < 86400000 := by
    simp only [time, Date.dayMillis]
    omega
  rw [Date.hasFourDigitYear_iff] at h
  have hreal := Civil.isReal_ofDayNumber (millis / Date.dayMillis)
  rcases hday : Civil.ofDayNumber (millis / Date.dayMillis) with ⟨year, month, day⟩
  rw [hday] at h hreal
  obtain ⟨⟨-, hmonth⟩, -, hdate⟩ := (Civil.isReal_iff _).1 hreal
  have hlength := daysIn_le year month
  simp only at h hmonth hdate
  have hsigned : ((year.toNat : Nat) : Int) = year := Int.toNat_of_nonneg h.1
  -- every numeral is wide enough for its number
  obtain ⟨y₁, y₂, y₃, y₄, hyears, hyear⟩ := exists_padded_four (by omega : year.toNat < 10000)
  obtain ⟨m₁, m₂, hmonths, hmonth'⟩ := exists_padded_two (by omega : month < 100)
  obtain ⟨d₁, d₂, hdays, hdate'⟩ := exists_padded_two (by omega : day < 100)
  obtain ⟨h₁, h₂, hhours, hhour⟩ := exists_padded_two (by omega : time / 3600000 < 100)
  obtain ⟨n₁, n₂, hminutes, hminute⟩ := exists_padded_two (by omega : time / 60000 % 60 < 100)
  obtain ⟨s₁, s₂, hseconds, hsecond⟩ := exists_padded_two (by omega : time / 1000 % 60 < 100)
  have hwritten : Date.isoMillis millis =
      y₁ :: y₂ :: y₃ :: y₄ :: '-' :: m₁ :: m₂ :: '-' :: d₁ :: d₂ :: 'T' :: h₁ :: h₂ ::
        ':' :: n₁ :: n₂ :: ':' :: s₁ :: s₂ :: '.' :: (padded 3 (time % 1000) ++ ['Z']) := by
    simp only [Date.isoMillis, hday, Date.yearText, if_pos h]
    rw [hyears, hmonths, hdays, hhours, hminutes, hseconds]
    rfl
  have hrest : readSeconds? (':' :: s₁ :: s₂ :: '.' :: (padded 3 (time % 1000) ++ ['Z'])) =
      some (time / 1000 % 60, padded 3 (time % 1000), .utc) := by
    simp only [readSeconds?, hsecond, readFraction?_padded, Option.bind_eq_bind,
      Option.bind_some]
    exact if_pos (Nat.mod_lt _ (by decide))
  rw [hwritten, read?]
  simp only [hyear, hmonth', hdate', hhour, hminute, hrest, Option.bind_eq_bind,
    Option.bind_some, hsigned]
  rw [if_pos ⟨hreal, by omega, by omega⟩, ofMillis, hday]

/-- A text that does not begin with a digit writes no timestamp. -/
theorem read?_eq_none {c : Char} {rest : List Char} (h : isDecimal c = false) :
    read? (c :: rest) = none := by
  unfold read?
  split
  · next hlist =>
    obtain ⟨rfl, -⟩ := List.cons.inj hlist
    have hyear : ∀ cs, numeral? (c :: cs) = none := fun cs => by simp [numeral?, h]
    rw [hyear]
    rfl
  · rfl

/-- What is written of a time is refused, where its year has more than four digits. -/
theorem read?_isoMillis_eq_none {millis : Int} (h : ¬(Date.valid millis).HasFourDigitYear) :
    read? (Date.isoMillis millis) = none := by
  rw [Date.hasFourDigitYear_iff] at h
  simp only [Date.isoMillis, Date.yearText, if_neg h]
  split_ifs
  · exact read?_eq_none (by decide)
  · exact read?_eq_none (by decide)

theorem isReal_of_read? {cs : List Char} {t : Timestamp} (h : read? cs = some t) :
    t.day.isReal = true := by
  unfold read? at h
  split at h
  · simp only [Option.bind_eq_bind, Option.bind_eq_some_iff] at h
    obtain ⟨year, -, month, -, date, -, hour, -, minute, -, ⟨second, fraction, offset⟩,
      -, h⟩ := h
    split_ifs at h with hreal
    cases h
    exact hreal.1
  · cases h

/-- Local times have years of four digits. -/
theorem hasFourDigitYear_localMillis {cs : List Char} {t : Timestamp} (h : read? cs = some t) :
    (Date.valid t.localMillis).HasFourDigitYear := by
  have hbounds := inBounds_of_read? h
  have hdays := (Civil.year_mem_iff (isReal_of_read? h)).1 hbounds.year
  have hhour := hbounds.hour
  have hminute := hbounds.minute
  have hsecond := hbounds.second
  have hfraction := fractionMillis_lt_thousand t.fraction
  rw [Date.HasFourDigitYear, localMillis, Date.dayMillis]
  omega

end Timestamp

/-! ### Due dates -/

/-- How a text that is no due date is refused. -/
def dueDateRule : ClientError := .invalidInput "due_at must be an RFC 3339 timestamp"

/-- The text of a due date on the wire. -/
def Date.wireText (millis : Int) : Text := Text.ofString (String.ofList (isoMillis millis))

theorem dueDate?_wireText (millis : Int) :
    dueDate? (.text (Date.wireText millis)) =
      match Timestamp.read? (Date.isoMillis millis) with
      | some timestamp => .ok timestamp.date
      | none => .error dueDateRule := by
  have hchars : (Date.wireText millis).chars = Date.isoMillis millis := by
    rw [Date.wireText, Text.ofString, Text.chars_ofChars, String.toList_ofList]
  rw [dueDate?, Datum.text?, Option.bind_some, hchars]
  rfl

theorem Json.lookup_append_singleton (members : List Member) (name : Text) (value : Value) :
    lookup (members ++ [(name, value)]) name = some value := by
  simp [lookup]

/-- The due date is the last member of a todo's wire form. -/
theorem Todo.response_of_due {todo : Todo} {millis : Int}
    (hcreated : ∃ created, todo.createdAt = .date (.valid created))
    (hupdated : ∃ updated, todo.updatedAt = .date (.valid updated))
    (hdue : todo.dueAt = .date (.valid millis)) :
    ∃ value, todo.response = .ok value ∧
      value.member? "due_at" = some (.text (Date.wireText millis)) := by
  obtain ⟨created, hcreated⟩ := hcreated
  obtain ⟨updated, hupdated⟩ := hupdated
  rw [response, hcreated, hupdated, hdue]
  exact ⟨_, rfl, Json.lookup_append_singleton _ _ _⟩

/-- A due date that was accepted and names a time is put on the wire of its todo as a text that
is accepted again, as the same time, if the year of the time has four digits; any other due
date is refused when it comes back. It is then the offset that has moved the time past either
end of those years. -/
theorem due_date_reads_back {given : Datum} {date : Date} (hgiven : dueDate? given = .ok date)
    (hvalid : date ≠ .invalid) {todo : Todo} (hdue : todo.dueAt = .date date)
    (hcreated : ∃ created, todo.createdAt = .date (.valid created))
    (hupdated : ∃ updated, todo.updatedAt = .date (.valid updated)) :
    ∃ value text, todo.response = .ok value ∧ value.member? "due_at" = some (.text text) ∧
      (date.HasFourDigitYear → dueDate? (.text text) = .ok date) ∧
      (¬date.HasFourDigitYear → dueDate? (.text text) = .error dueDateRule ∧
        ∃ t timestamp, given = .text t ∧ Timestamp.read? t.chars = some timestamp ∧
          timestamp.offset.millis? ≠ some 0) := by
  rcases date with millis | _
  · obtain ⟨value, hresponse, hmember⟩ := Todo.response_of_due hcreated hupdated hdue
    refine ⟨value, _, hresponse, hmember, ?_, ?_⟩
    · intro hyear
      have hrange : -Date.range ≤ millis ∧ millis ≤ Date.range := by
        rw [Date.HasFourDigitYear] at hyear
        rw [Date.range]
        omega
      rw [dueDate?_wireText, Timestamp.read?_isoMillis hyear]
      simp only [Timestamp.date_ofMillis]
      rw [Date.ofMillis, if_pos hrange]
    · intro hyear
      rw [dueDate?_wireText, Timestamp.read?_isoMillis_eq_none hyear]
      refine ⟨rfl, ?_⟩
      rw [dueDate?] at hgiven
      rcases hread : given.text?.bind fun text => Timestamp.read? text.chars with _ | timestamp
      · rw [hread] at hgiven
        cases hgiven
      · rw [hread, Except.ok.injEq] at hgiven
        obtain ⟨t, htext, hread⟩ := Option.bind_eq_some_iff.1 hread
        obtain rfl : given = .text t := by
          rcases given with _ | ⟨_ | _ | _ | _ | _ | _⟩ | _ <;> cases htext
          rfl
        refine ⟨t, timestamp, rfl, hread, fun hutc => hyear ?_⟩
        -- without an offset the time is the local one
        have hlocal := Timestamp.hasFourDigitYear_localMillis hread
        rw [Timestamp.date, hutc] at hgiven
        simp only [Int.sub_zero, Date.ofMillis] at hgiven
        split_ifs at hgiven
        cases hgiven
        exact hlocal
  · exact absurd rfl hvalid

/-- A todo that is due at a date. -/
def todoDue (date : Date) : Todo :=
  { id := "1", userId := "u", title := "t", description := "", status := Status.pending.name,
    dueAt := date, createdAt := .date (.valid 0), updatedAt := .date (.valid 0) }

/-- Half a second past nine in Tokyo comes back as half a second past midnight, and is the same
time. -/
theorem due_date_reads_back_tokyo :
    dueDate? (.text "2026-01-01T09:00:00.5+09:00") = .ok (.valid 1767225600500) ∧
      (Date.valid 1767225600500).HasFourDigitYear ∧
      ∃ value, (todoDue (.valid 1767225600500)).response = .ok value ∧
        value.member? "due_at" = some (.text "2026-01-01T00:00:00.500Z") ∧
        dueDate? (.text "2026-01-01T00:00:00.500Z") = .ok (.valid 1767225600500) := by
  have hgiven : dueDate? (.text "2026-01-01T09:00:00.5+09:00") =
      .ok (.valid 1767225600500) := by
    decide +kernel
  have hyear : (Date.valid 1767225600500).HasFourDigitYear := by
    rw [Date.HasFourDigitYear]
    decide
  have hdue : (todoDue (.valid 1767225600500)).dueAt = .date (.valid 1767225600500) := rfl
  obtain ⟨value, text, hresponse, hmember, haccepted, -⟩ :=
    due_date_reads_back hgiven (by decide) hdue ⟨0, rfl⟩ ⟨0, rfl⟩
  have hwritten : (todoDue (.valid 1767225600500)).response.toOption.bind
      (·.member? "due_at") = some (.text "2026-01-01T00:00:00.500Z") := by decide +kernel
  rw [hresponse] at hwritten
  have htext : some (Json.Value.text text) = some (.text "2026-01-01T00:00:00.500Z") :=
    hmember.symm.trans hwritten
  obtain rfl : text = "2026-01-01T00:00:00.500Z" := Json.Value.text.inj (Option.some.inj htext)
  exact ⟨hgiven, hyear, value, hresponse, hmember, haccepted hyear⟩

/-- The last second of 9999, asked for a minute behind UTC, is accepted, put on the wire in the
year 10000, and refused when it comes back; and so is the first second of the year 0000 a
minute ahead of UTC. -/
theorem due_date_moved_out_of_years :
    (dueDate? (.text "9999-12-31T23:59:59-00:01") = .ok (.valid 253402300859000) ∧
      (todoDue (.valid 253402300859000)).response.toOption.bind (·.member? "due_at") =
        some (.text "+010000-01-01T00:00:59.000Z") ∧
      dueDate? (.text "+010000-01-01T00:00:59.000Z") = .error dueDateRule) ∧
    dueDate? (.text "0000-01-01T00:00:00+00:01") = .ok (.valid (-62167219260000)) ∧
      (todoDue (.valid (-62167219260000))).response.toOption.bind (·.member? "due_at") =
        some (.text "-000001-12-31T23:59:00.000Z") ∧
      dueDate? (.text "-000001-12-31T23:59:00.000Z") = .error dueDateRule := by
  decide +kernel

end TodoServer
