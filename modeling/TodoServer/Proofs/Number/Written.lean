/-
Texts that are numbers.

A number is written in a document as a sign or none, digits that begin with a zero only if that
is all there is, a fraction or none, and an exponent or none. The reader accepts the texts that
are written so and no others, and reads of each the decimal that it is written for. Where
digits end is plain from what follows them, which is no digit.

* `fractionText`, `takeWhile_digits` — what stands after digits, and where they end;
* `Decimal.IsWhole`, `Decimal.Exponent`, `Decimal.Writes` — how a number is written;
* `Decimal.read?_eq_some_iff` — what the reader makes of a text.
-/
import TodoServer.Proofs.Text.Identifiers
import TodoServer.Number.Decimal

namespace TodoServer

/-! ### Digits -/

/-- A fraction is written after a point, if it is. -/
def fractionText (digits : List Char) : List Char := if digits = [] then [] else '.' :: digits

/-- Digits end where something else follows. -/
theorem takeWhile_digits {digits rest : List Char} (hdigits : ∀ c ∈ digits, isDecimal c = true)
    (hrest : ∀ c ∈ rest.head?, isDecimal c = false) :
    (digits ++ rest).takeWhile isDecimal = digits ∧
      (digits ++ rest).dropWhile isDecimal = rest := by
  rw [List.takeWhile_append_of_pos hdigits, List.dropWhile_append_of_pos hdigits]
  cases rest with
  | nil => exact ⟨List.append_nil _, rfl⟩
  | cons c rest =>
    have hc : ¬isDecimal c = true := Bool.eq_false_iff.1 (hrest c rfl)
    rw [List.takeWhile_cons_of_neg hc, List.dropWhile_cons_of_neg hc, List.append_nil]
    exact ⟨rfl, rfl⟩

theorem isDecimal_of_mem_takeWhile (cs : List Char) :
    ∀ c ∈ cs.takeWhile isDecimal, isDecimal c = true :=
  List.all_eq_true.1 List.all_takeWhile

theorem numeral?_eq_some_iff_digits {cs : List Char} {n : Nat} :
    numeral? cs = some n ↔ (cs ≠ [] ∧ ∀ c ∈ cs, isDecimal c = true) ∧ digitsValue cs = n := by
  rw [numeral?, ← List.all_eq_true]
  split_ifs with h
  · exact ⟨fun heq => ⟨h, Option.some_inj.1 heq⟩, fun heq => congrArg some heq.2⟩
  · exact iff_of_false nofun fun heq => h heq.1

namespace Decimal

/-! ### How numbers are written -/

/-- The digits before the point, of which the first is zero only if it is the only one. -/
structure IsWhole (digits : List Char) : Prop where
  ne_nil : digits ≠ []
  decimal : ∀ c ∈ digits, isDecimal c = true
  zero : digits.head? = some '0' → digits = ['0']

/-- An exponent is written after a mark, with a sign or without; one that is left out is
zero. -/
inductive Exponent : Int → List Char → Prop
  | omitted : Exponent 0 []
  | plain {mark : Char} {digits : List Char} {n : Nat} (hmark : mark = 'e' ∨ mark = 'E')
    (hdigits : numeral? digits = some n) : Exponent n (mark :: digits)
  | plus {mark : Char} {digits : List Char} {n : Nat} (hmark : mark = 'e' ∨ mark = 'E')
    (hdigits : numeral? digits = some n) : Exponent n (mark :: '+' :: digits)
  | minus {mark : Char} {digits : List Char} {n : Nat} (hmark : mark = 'e' ∨ mark = 'E')
    (hdigits : numeral? digits = some n) : Exponent (-n) (mark :: '-' :: digits)

/-- A number without its sign is written as its digits before the point, its fraction and its
exponent. -/
inductive Unsigned (negative : Bool) : Decimal → List Char → Prop
  | mk {whole fraction exponent : List Char} {power : Int} (hwhole : IsWhole whole)
    (hfraction : ∀ c ∈ fraction, isDecimal c = true) (hexponent : Exponent power exponent) :
    Unsigned negative ⟨negative, digitsValue (whole ++ fraction), power - fraction.length⟩
      (whole ++ (fractionText fraction ++ exponent))

/-- A number is written with a hyphen before it if it is negative. -/
inductive Writes : Decimal → List Char → Prop
  | negative {d : Decimal} {cs : List Char} (h : Unsigned true d cs) : Writes d ('-' :: cs)
  | positive {d : Decimal} {cs : List Char} (h : Unsigned false d cs) : Writes d cs

/-! ### What is read -/

variable {negative : Bool} {d : Decimal} {cs whole fraction : List Char} {power : Int}

theorem ne_of_isDecimal {c other : Char} (hc : isDecimal c = true)
    (hother : isDecimal other = false) : c ≠ other := by
  rintro rfl
  rw [hc] at hother
  cases hother

/-- A text of digits has a digit at its head. -/
theorem exists_head_of_numeral? {n : Nat} (h : numeral? cs = some n) :
    ∃ first rest, cs = first :: rest ∧ isDecimal first = true := by
  obtain ⟨⟨hnil, hdigits⟩, -⟩ := numeral?_eq_some_iff_digits.1 h
  obtain ⟨first, rest, rfl⟩ := List.exists_cons_of_ne_nil hnil
  exact ⟨first, rest, rfl, hdigits first List.mem_cons_self⟩

theorem readInteger?_eq_some_iff {mark : Char} (hmark : mark = 'e' ∨ mark = 'E') :
    readInteger? cs = some power ↔ Exponent power (mark :: cs) := by
  constructor
  · intro h
    rw [readInteger?.eq_def] at h
    split at h
    · obtain ⟨value, hvalue, rfl⟩ := Option.map_eq_some_iff.1 h
      obtain ⟨n, hn, hvalue⟩ := Option.bind_eq_some_iff.1 hvalue
      cases hvalue
      exact .minus hmark hn
    · obtain ⟨n, hn, rfl⟩ := Option.map_eq_some_iff.1 h
      exact .plus hmark hn
    · obtain ⟨n, hn, rfl⟩ := Option.map_eq_some_iff.1 h
      exact .plain hmark hn
  · intro h
    cases h with
    | plain _ hdigits =>
      obtain ⟨first, rest, rfl, hfirst⟩ := exists_head_of_numeral? hdigits
      rw [readInteger?.eq_def]
      split
      · next heq => exact absurd (List.cons.inj heq).1 (ne_of_isDecimal hfirst (by decide))
      · next heq => exact absurd (List.cons.inj heq).1 (ne_of_isDecimal hfirst (by decide))
      · rw [hdigits]
        rfl
    | plus _ hdigits => rw [readInteger?, hdigits]; rfl
    | minus _ hdigits => rw [readInteger?, hdigits]; rfl

/-- What follows the digits is an exponent or nothing. -/
theorem readTail?_eq_some_iff :
    readTail? negative whole fraction cs = some d ↔ ∃ power, Exponent power cs ∧
      d = ⟨negative, digitsValue (whole ++ fraction), power - fraction.length⟩ := by
  rw [readTail?.eq_def]
  constructor
  · intro h
    split at h
    · exact ⟨0, .omitted, by rw [← Option.some_inj.1 h, zero_sub]⟩
    · split_ifs at h with hmark
      obtain ⟨power, hpower, rfl⟩ := Option.map_eq_some_iff.1 h
      exact ⟨power, (readInteger?_eq_some_iff hmark).1 hpower, rfl⟩
  · rintro ⟨power, hpower, rfl⟩
    cases cs with
    | nil =>
      cases hpower
      rw [zero_sub]
    | cons mark rest =>
      have hmark : mark = 'e' ∨ mark = 'E' := by cases hpower <;> assumption
      simp only [if_pos hmark, (readInteger?_eq_some_iff hmark).2 hpower, Option.map_some]

/-- An exponent begins with neither a digit nor a point. -/
theorem head_of_exponent (h : Exponent power cs) :
    ∀ c ∈ cs.head?, isDecimal c = false ∧ c ≠ '.' := by
  have hmark : ∀ {mark : Char}, mark = 'e' ∨ mark = 'E' → isDecimal mark = false ∧
      mark ≠ '.' := by
    rintro mark (rfl | rfl) <;> decide
  intro c hc
  cases h with
  | omitted => cases hc
  | _ => cases hc; exact hmark ‹_›

theorem readUnsigned?_eq_some_iff : readUnsigned? negative cs = some d ↔
    Unsigned negative d cs := by
  rw [readUnsigned?.eq_def]
  constructor
  · intro h
    -- the reader cuts the text where the digits end
    have hdigits := isDecimal_of_mem_takeWhile cs
    have hcs : cs.takeWhile isDecimal ++ cs.dropWhile isDecimal = cs :=
      List.takeWhile_append_dropWhile
    generalize cs.takeWhile isDecimal = whole at h hdigits hcs
    generalize cs.dropWhile isDecimal = rest at h hcs
    subst hcs
    simp only at h
    split_ifs at h with hzero
    rw [not_or, not_and, not_ne_iff] at hzero
    have hwhole : IsWhole whole := ⟨hzero.1, hdigits, hzero.2⟩
    split at h
    · next rest =>
      have hfraction := isDecimal_of_mem_takeWhile rest
      have hrest : rest.takeWhile isDecimal ++ rest.dropWhile isDecimal = rest :=
        List.takeWhile_append_dropWhile
      split_ifs at h with hnil
      obtain ⟨power, hpower, rfl⟩ := readTail?_eq_some_iff.1 h
      have hmk : Unsigned negative _ _ := .mk hwhole hfraction hpower
      rwa [fractionText, if_neg hnil, List.cons_append, hrest] at hmk
    · obtain ⟨power, hpower, rfl⟩ := readTail?_eq_some_iff.1 h
      exact @Unsigned.mk negative whole [] _ power hwhole nofun hpower
  · rintro ⟨hwhole, hfraction, hexponent⟩
    rename_i whole fraction exponent power
    have hhead := head_of_exponent hexponent
    have hwhole' : ¬(whole = [] ∨ whole.head? = some '0' ∧ whole ≠ ['0']) := by
      rintro (hnil | ⟨hzero, hne⟩)
      · exact hwhole.ne_nil hnil
      · exact hne (hwhole.zero hzero)
    -- no digit follows the whole part, so that is where the reader cuts
    have hend : ∀ c ∈ (fractionText fraction ++ exponent).head?, isDecimal c = false := by
      intro c hc
      rw [fractionText] at hc
      split_ifs at hc
      · exact (hhead c hc).1
      · cases hc
        decide
    obtain ⟨htake, hdrop⟩ := takeWhile_digits hwhole.decimal hend
    simp only [htake, hdrop, if_neg hwhole']
    have hread : readTail? negative whole fraction exponent =
        some ⟨negative, digitsValue (whole ++ fraction), power - fraction.length⟩ :=
      readTail?_eq_some_iff.2 ⟨power, hexponent, rfl⟩
    by_cases hnil : fraction = []
    · subst hnil
      rw [show fractionText [] ++ exponent = exponent from rfl]
      split
      · exact absurd rfl (hhead '.' rfl).2
      · exact hread
    · obtain ⟨htake, hdrop⟩ := takeWhile_digits hfraction fun c hc => (hhead c hc).1
      rw [fractionText, if_neg hnil, List.cons_append]
      simp only [htake, hdrop, if_neg hnil, hread]

/-- The reader accepts the texts that numbers are written as, and reads of each the decimal
that it is written for. -/
theorem read?_eq_some_iff : read? cs = some d ↔ d.Writes cs := by
  rw [read?.eq_def]
  constructor
  · intro h
    split at h
    · exact .negative (readUnsigned?_eq_some_iff.1 h)
    · exact .positive (readUnsigned?_eq_some_iff.1 h)
  · intro h
    cases h with
    | negative h => exact readUnsigned?_eq_some_iff.2 h
    | positive h =>
      have hread := readUnsigned?_eq_some_iff.2 h
      obtain ⟨hwhole, -, -⟩ := h
      obtain ⟨first, rest, rfl⟩ := List.exists_cons_of_ne_nil hwhole.ne_nil
      have hfirst : isDecimal first = true := hwhole.decimal first List.mem_cons_self
      split
      · next heq => exact absurd (List.cons.inj heq).1 (ne_of_isDecimal hfirst (by decide))
      · exact hread

end Decimal

end TodoServer
