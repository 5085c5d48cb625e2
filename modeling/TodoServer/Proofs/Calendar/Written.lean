/-
Texts that are timestamps.

A timestamp is written with a numeral of fixed width for each of its numbers. The seconds may
be left out, and a fraction with them; a fraction may have any number of digits; the offset is
Z, or a sign and two numerals with or without a colon. The reader accepts the texts that are
written so and no others, and reads of each what it is written for. Whether such a text names a
time is a question of its offset alone, for which two digits of any kind will do.

* `padded_digitsValue` — digits are the numeral of the number that they write;
* `Offset.Writes`, `Seconds`, `Timestamp.Writes` — how a timestamp is written;
* `Timestamp.read?_eq_some_iff` — what the reader makes of a text;
* `Offset.IsOnClock`, `Timestamp.date_of_writes` — the timestamps that name a time, and which.
-/
import TodoServer.Proofs.Calendar.RoundTrip
import TodoServer.Proofs.Number.Written

namespace TodoServer

/-! ### Numerals -/

/-- Digits are the numeral of the number that they write. -/
theorem padded_digitsValue {cs : List Char} (h : ∀ c ∈ cs, isDecimal c = true) :
    padded cs.length (digitsValue cs) = cs := by
  -- the last digit is written last and read last
  induction cs using List.reverseRecOn with
  | nil => rfl
  | append_singleton cs c ih =>
    have hdigit := decimalValue?_getD_le c
    have hfront : (digitsValue cs * 10 + (decimalValue? c).getD 0) / 10 =
        digitsValue cs := by omega
    have hlast : (digitsValue cs * 10 + (decimalValue? c).getD 0) % 10 =
        (decimalValue? c).getD 0 := by
      omega
    rw [digitsValue_concat, List.length_append, List.length_singleton, padded, fixedDigits,
      hfront, hlast, lowerDigit_decimalValue? (h c (by simp))]
    exact congrArg (· ++ [c]) (ih fun d hd => h d (List.mem_append_left _ hd))

theorem eq_padded_of_numeral? {cs : List Char} {n : Nat} (h : numeral? cs = some n) :
    cs = padded cs.length n := by
  obtain ⟨⟨-, hdigits⟩, rfl⟩ := numeral?_eq_some_iff_digits.1 h
  exact (padded_digitsValue hdigits).symm

/-! ### How timestamps are written -/

/-- An offset is written as Z, or as a sign, its hours and its minutes. -/
inductive Offset.Writes : Offset → List Char → Prop
  | utc : Writes .utc ['Z']
  | ahead {hours minutes : Nat} {colon : List Char} (hhours : hours < 100)
    (hminutes : minutes < 100) (hcolon : colon = [':'] ∨ colon = []) :
    Writes (.ahead hours minutes) ('+' :: (padded 2 hours ++ colon ++ padded 2 minutes))
  | behind {hours minutes : Nat} {colon : List Char} (hhours : hours < 100)
    (hminutes : minutes < 100) (hcolon : colon = [':'] ∨ colon = []) :
    Writes (.behind hours minutes) ('-' :: (padded 2 hours ++ colon ++ padded 2 minutes))

/-- Seconds that are left out are zero, and leave no place for a fraction. -/
inductive Seconds : Nat → List Char → List Char → Prop
  | omitted : Seconds 0 [] []
  | written {second : Nat} {fraction : List Char} (hsecond : second < 60)
    (hfraction : ∀ c ∈ fraction, isDecimal c = true) :
    Seconds second fraction (':' :: (padded 2 second ++ fractionText fraction))

namespace Timestamp

/-- The day of a timestamp, its hour and its minute. -/
def minuteText (t : Timestamp) : List Char :=
  padded 4 t.day.year.toNat ++ '-' :: (padded 2 t.day.month ++ '-' :: (padded 2 t.day.day ++
    'T' :: (padded 2 t.hour ++ ':' :: padded 2 t.minute)))

/-- A timestamp has a day of the calendar in a year of four digits and a time of day, and is
written as its day and time and offset. -/
structure Writes (t : Timestamp) (cs : List Char) : Prop where
  real : t.day.isReal = true
  year : 0 ≤ t.day.year ∧ t.day.year ≤ 9999
  hour : t.hour < 24
  minute : t.minute < 60
  text : ∃ seconds offset, Seconds t.second t.fraction seconds ∧ t.offset.Writes offset ∧
    cs = t.minuteText ++ (seconds ++ offset)

/-! ### What is read -/

variable {a b c d sign : Char} {cs fraction : List Char} {n second : Nat} {offset : Offset}

theorem two?_eq_some_iff : two? a b = some n ↔ n < 100 ∧ padded 2 n = [a, b] := by
  constructor
  · intro h
    exact ⟨numeral?_lt h, (eq_padded_of_numeral? h).symm⟩
  · rintro ⟨hlt, hwritten⟩
    rw [two?, ← hwritten]
    exact numeral?_padded (by decide) hlt

theorem signed?_eq_some_iff :
    readOffset?.signed? sign a b c d = some offset ↔
      ∃ hours minutes, two? a b = some hours ∧ two? c d = some minutes ∧
        (sign = '+' ∧ offset = .ahead hours minutes ∨ sign = '-' ∧
          offset = .behind hours minutes) := by
  simp only [readOffset?.signed?, Option.bind_eq_bind, Option.bind_eq_some_iff]
  constructor
  · rintro ⟨hours, hhours, minutes, hminutes, h⟩
    refine ⟨hours, minutes, hhours, hminutes, ?_⟩
    split_ifs at h with hplus hminus
    · exact Or.inl ⟨hplus, (Option.some_inj.1 h).symm⟩
    · exact Or.inr ⟨hminus, (Option.some_inj.1 h).symm⟩
  · rintro ⟨hours, minutes, hhours, hminutes, ⟨rfl, rfl⟩ | ⟨rfl, rfl⟩⟩
    · exact ⟨hours, hhours, minutes, hminutes, rfl⟩
    · exact ⟨hours, hhours, minutes, hminutes, rfl⟩

/-- The offset of a sign and four digits is written with them, with the colon or without. -/
theorem writes_of_signed? (h : readOffset?.signed? sign a b c d = some offset) :
    offset.Writes [sign, a, b, ':', c, d] ∧ offset.Writes [sign, a, b, c, d] := by
  obtain ⟨hours, minutes, hhours, hminutes, hsign⟩ := signed?_eq_some_iff.1 h
  obtain ⟨hhour, hhours⟩ := two?_eq_some_iff.1 hhours
  obtain ⟨hminute, hminutes⟩ := two?_eq_some_iff.1 hminutes
  rcases hsign with ⟨rfl, rfl⟩ | ⟨rfl, rfl⟩
  · have hcolon := Offset.Writes.ahead hhour hminute (Or.inl rfl)
    have hplain := Offset.Writes.ahead hhour hminute (Or.inr rfl)
    rw [hhours, hminutes] at hcolon hplain
    exact ⟨hcolon, hplain⟩
  · have hcolon := Offset.Writes.behind hhour hminute (Or.inl rfl)
    have hplain := Offset.Writes.behind hhour hminute (Or.inr rfl)
    rw [hhours, hminutes] at hcolon hplain
    exact ⟨hcolon, hplain⟩

theorem readOffset?_without_colon (sign a b c d : Char) :
    readOffset? [sign, a, b, c, d] = readOffset?.signed? sign a b c d := by
  unfold readOffset?
  split
  · next h => cases h
  · next h => cases h
  · next h => cases h; rfl
  · next h => exact absurd rfl (h sign a b c d)

/-- A sign and two numerals are read as the offset that they write. -/
theorem readOffset?_of_signed {hours minutes : Nat} {colon : List Char} (hhours : hours < 100)
    (hminutes : minutes < 100) (hcolon : colon = [':'] ∨ colon = [])
    (hsign : sign = '+' ∧ offset = .ahead hours minutes ∨ sign = '-' ∧
      offset = .behind hours minutes) :
    readOffset? (sign :: (padded 2 hours ++ colon ++ padded 2 minutes)) = some offset := by
  obtain ⟨a, b, hab, hhours⟩ := exists_padded_two hhours
  obtain ⟨c, d, hcd, hminutes⟩ := exists_padded_two hminutes
  have hsigned := signed?_eq_some_iff.2 ⟨hours, minutes, hhours, hminutes, hsign⟩
  rw [hab, hcd]
  rcases hcolon with rfl | rfl
  · rcases hsign with ⟨rfl, -⟩ | ⟨rfl, -⟩ <;> exact hsigned
  · exact (readOffset?_without_colon sign a b c d).trans hsigned

theorem readOffset?_eq_some_iff : readOffset? cs = some offset ↔ offset.Writes cs := by
  constructor
  · intro h
    unfold readOffset? at h
    split at h
    · cases h
      exact .utc
    · exact (writes_of_signed? h).1
    · exact (writes_of_signed? h).2
    · cases h
  · intro h
    cases h with
    | utc => rfl
    | ahead hhours hminutes hcolon =>
      exact readOffset?_of_signed hhours hminutes hcolon (Or.inl ⟨rfl, rfl⟩)
    | behind hhours hminutes hcolon =>
      exact readOffset?_of_signed hhours hminutes hcolon (Or.inr ⟨rfl, rfl⟩)

/-- An offset begins with neither a digit nor a point nor a colon. -/
theorem head_of_writes (h : offset.Writes cs) :
    ∃ first rest, cs = first :: rest ∧ isDecimal first = false ∧ first ≠ '.' ∧
      first ≠ ':' := by
  cases h <;> exact ⟨_, _, rfl, by decide, by decide, by decide⟩

theorem readFraction?_eq_some_iff :
    readFraction? cs = some (fraction, offset) ↔
      (∀ c ∈ fraction, isDecimal c = true) ∧
        ∃ rest, offset.Writes rest ∧ cs = fractionText fraction ++ rest := by
  constructor
  · intro h
    unfold readFraction? at h
    split at h
    · next rest =>
      simp only at h
      split_ifs at h with hnil
      obtain ⟨read, hread, heq⟩ := Option.map_eq_some_iff.1 h
      cases heq
      refine ⟨isDecimal_of_mem_takeWhile rest, rest.dropWhile isDecimal,
        readOffset?_eq_some_iff.1 hread, ?_⟩
      rw [fractionText, if_neg hnil, List.cons_append, List.takeWhile_append_dropWhile]
    · obtain ⟨read, hread, heq⟩ := Option.map_eq_some_iff.1 h
      cases heq
      exact ⟨fun c hc => absurd hc List.not_mem_nil, _, readOffset?_eq_some_iff.1 hread, rfl⟩
  · rintro ⟨hdigits, rest, hrest, rfl⟩
    have hread := readOffset?_eq_some_iff.2 hrest
    obtain ⟨first, others, rfl, hdecimal, hpoint, -⟩ := head_of_writes hrest
    by_cases hnil : fraction = []
    · subst hnil
      unfold readFraction?
      split
      · next heq => exact absurd (List.cons.inj heq).1 hpoint
      · rw [show fractionText [] ++ first :: others = first :: others from rfl, hread]
        rfl
    · have hend : ∀ c ∈ (first :: others).head?, isDecimal c = false := fun c hc =>
        Option.some_inj.1 hc ▸ hdecimal
      obtain ⟨htake, hdrop⟩ := takeWhile_digits hdigits hend
      rw [fractionText, if_neg hnil, List.cons_append, readFraction?]
      simp only [htake, hdrop, if_neg hnil, hread, Option.map_some]

theorem readSeconds?_eq_some_iff :
    readSeconds? cs = some (second, fraction, offset) ↔
      ∃ seconds rest, Seconds second fraction seconds ∧ offset.Writes rest ∧
        cs = seconds ++ rest := by
  constructor
  · intro h
    unfold readSeconds? at h
    split at h
    · next a b rest =>
      simp only [Option.bind_eq_bind, Option.bind_eq_some_iff] at h
      obtain ⟨value, hvalue, ⟨digits, read⟩, hread, h⟩ := h
      split_ifs at h with hlt
      cases h
      obtain ⟨hdigits, text, htext, rfl⟩ := readFraction?_eq_some_iff.1 hread
      obtain ⟨-, hwritten⟩ := two?_eq_some_iff.1 hvalue
      refine ⟨_, text, .written hlt hdigits, htext, ?_⟩
      rw [hwritten]
      rfl
    · obtain ⟨read, hread, heq⟩ := Option.map_eq_some_iff.1 h
      cases heq
      exact ⟨[], _, .omitted, readOffset?_eq_some_iff.1 hread, rfl⟩
  · rintro ⟨seconds, rest, hseconds, hrest, rfl⟩
    cases hseconds with
    | omitted =>
      have hread := readOffset?_eq_some_iff.2 hrest
      obtain ⟨first, others, rfl, -, -, hcolon⟩ := head_of_writes hrest
      unfold readSeconds?
      split
      · next heq => exact absurd (List.cons.inj heq).1 hcolon
      · rw [List.nil_append, hread]
        rfl
    | written hsecond hfraction =>
      obtain ⟨a, b, hab, hvalue⟩ :=
        exists_padded_two (Nat.lt_trans hsecond (by decide : 60 < 100))
      have hread := readFraction?_eq_some_iff.2 ⟨hfraction, rest, hrest, rfl⟩
      rw [hab, List.cons_append, List.append_assoc, List.cons_append, List.cons_append,
        List.nil_append, readSeconds?]
      simp only [hvalue, hread, Option.bind_eq_bind, Option.bind_some, if_pos hsecond]

/-- The reader accepts the texts that timestamps are written as, and reads of each the
timestamp that it is written for. -/
theorem read?_eq_some_iff {t : Timestamp} : read? cs = some t ↔ t.Writes cs := by
  constructor
  · intro h
    have hyear := (inBounds_of_read? h).year
    unfold read? at h
    split at h
    · simp only [Option.bind_eq_bind, Option.bind_eq_some_iff] at h
      obtain ⟨year, hyears, month, hmonths, day, hdays, hour, hhours, minute, hminutes,
        ⟨second, fraction, offset⟩, hrest, h⟩ := h
      split_ifs at h with hreal
      cases h
      obtain ⟨seconds, text, hseconds, htext, rfl⟩ := readSeconds?_eq_some_iff.1 hrest
      refine ⟨hreal.1, hyear, hreal.2.1, hreal.2.2, seconds, text, hseconds, htext, ?_⟩
      have hyears : padded 4 year = _ := (eq_padded_of_numeral? hyears).symm
      simp only [minuteText, Int.toNat_natCast, hyears, (two?_eq_some_iff.1 hmonths).2,
        (two?_eq_some_iff.1 hdays).2, (two?_eq_some_iff.1 hhours).2,
        (two?_eq_some_iff.1 hminutes).2]
      rfl
    · cases h
  · rintro ⟨hreal, hyear, hhour, hminute, seconds, text, hseconds, htext, rfl⟩
    obtain ⟨⟨year, month, day⟩, hour, minute, second, fraction, offset⟩ := t
    obtain ⟨⟨-, hmonth⟩, -, hday⟩ := (Civil.isReal_iff _).1 hreal
    have hlength := daysIn_le year month
    simp only at hyear hhour hminute hmonth hday
    have hsigned : ((year.toNat : Nat) : Int) = year := Int.toNat_of_nonneg hyear.1
    -- every numeral is wide enough for its number
    obtain ⟨y₁, y₂, y₃, y₄, hyears, hyear'⟩ :=
      exists_padded_four (by omega : year.toNat < 10000)
    obtain ⟨m₁, m₂, hmonths, hmonth'⟩ := exists_padded_two (by omega : month < 100)
    obtain ⟨d₁, d₂, hdays, hday'⟩ := exists_padded_two (by omega : day < 100)
    obtain ⟨h₁, h₂, hhours, hhour'⟩ := exists_padded_two (by omega : hour < 100)
    obtain ⟨n₁, n₂, hminutes, hminute'⟩ := exists_padded_two (by omega : minute < 100)
    have hrest := readSeconds?_eq_some_iff.2 ⟨seconds, text, hseconds, htext, rfl⟩
    rw [minuteText, hyears, hmonths, hdays, hhours, hminutes]
    simp only [List.cons_append, List.nil_append, read?, hyear', hmonth', hday', hhour',
      hminute', hrest, Option.bind_eq_bind, Option.bind_some, hsigned]
    exact if_pos ⟨hreal, hhour, hminute⟩

end Timestamp

/-! ### What they name -/

namespace Offset

/-- The hours and minutes of an offset are those of a clock. -/
def IsOnClock : Offset → Prop
  | .utc => True
  | .ahead hours minutes => hours < 24 ∧ minutes < 60
  | .behind hours minutes => hours < 24 ∧ minutes < 60

instance (offset : Offset) : Decidable offset.IsOnClock :=
  match offset with
  | .utc => .isTrue trivial
  | .ahead hours minutes => inferInstanceAs (Decidable (hours < 24 ∧ minutes < 60))
  | .behind hours minutes => inferInstanceAs (Decidable (hours < 24 ∧ minutes < 60))

/-- How far local time is ahead of UTC. -/
def millis : Offset → Int
  | .utc => 0
  | .ahead hours minutes => hours * 3600000 + minutes * 60000
  | .behind hours minutes => -(hours * 3600000 + minutes * 60000)

variable {offset : Offset}

theorem millis?_of_isOnClock (h : offset.IsOnClock) : offset.millis? = some offset.millis := by
  cases offset with
  | utc => rfl
  | ahead hours minutes =>
    simp [millis?, millis, if_pos (show hours < 24 ∧ minutes < 60 from h)]
  | behind hours minutes =>
    simp [millis?, millis, if_pos (show hours < 24 ∧ minutes < 60 from h)]

theorem millis?_of_not_isOnClock (h : ¬offset.IsOnClock) : offset.millis? = none := by
  cases offset with
  | utc => exact absurd trivial h
  | ahead hours minutes => exact if_neg h
  | behind hours minutes => exact if_neg h

end Offset

namespace Timestamp

variable {t : Timestamp} {cs : List Char}

/-- A timestamp names its local time less its offset, if the offset is one. -/
theorem date_of_writes (h : t.Writes cs) (hoffset : t.offset.IsOnClock) :
    t.date = .valid (t.localMillis - t.offset.millis) := by
  have hread := read?_eq_some_iff.2 h
  have hmillis := Offset.millis?_of_isOnClock hoffset
  obtain ⟨millis, hvalid⟩ := exists_millis_of_read? hread (by rw [hmillis]; rfl)
  rw [date, hmillis] at hvalid ⊢
  simp only [Date.ofMillis] at hvalid ⊢
  split_ifs at hvalid ⊢ with hrange
  rfl

theorem date_of_not_isOnClock (h : ¬t.offset.IsOnClock) : t.date = .invalid := by
  rw [date, Offset.millis?_of_not_isOnClock h]

end Timestamp

end TodoServer
