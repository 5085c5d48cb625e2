/-
Documents written and read back.

A document is written without white space, so nothing but its own tokens stands between its
tokens. A text is written piece by piece, and what is written of a piece is written for the
units that it was made of, be it escaped or not; so no text can end itself, and halves of pairs
stay halves. What is written of a value is thus one of the ways to write it, and is read as the
value.

* `Text.flatMap_units_pieces` — the pieces of a text have its units;
* `Json.content_text`, `Json.spelled_written` — what is written of texts and tokens spells
  them;
* `Json.parse?_written` — a value whose numbers read back reads back.
-/
import TodoServer.Proofs.Json.Parsing

namespace TodoServer

/-! ### Pieces -/

namespace Text

/-- The units of a piece. -/
def Piece.units : Piece → List UInt16
  | .char c => charUnits c
  | .half unit => [unit]

/-- A unit that is no half of a pair is a character of one unit. -/
theorem charUnits_ofNat {unit : UInt16} (hhigh : isHigh unit = false)
    (hlow : isLow unit = false) : charUnits (Char.ofNat unit.toNat) = [unit] := by
  have hlt := unit.toNat_lt
  rw [isHigh, Bool.and_eq_false_iff, decide_eq_false_iff_not, decide_eq_false_iff_not] at hhigh
  rw [isLow, Bool.and_eq_false_iff, decide_eq_false_iff_not, decide_eq_false_iff_not] at hlow
  have hvalid : unit.toNat.isValidChar := by
    rw [Nat.isValidChar]
    omega
  rw [charUnits, toNat_charOfNat hvalid, if_pos (by omega), UInt16.ofNat_toNat]

/-- A pair is a character of the two units. -/
theorem charUnits_paired {high low : UInt16} (hhigh : isHigh high = true)
    (hlow : isLow low = true) : charUnits (paired high low) = [high, low] := by
  rw [isHigh, Bool.and_eq_true, decide_eq_true_iff, decide_eq_true_iff] at hhigh
  rw [isLow, Bool.and_eq_true, decide_eq_true_iff, decide_eq_true_iff] at hlow
  have hvalid :
      (0x10000 + (high.toNat - 0xD800) * 0x400 + (low.toNat - 0xDC00)).isValidChar := by
    rw [Nat.isValidChar]
    omega
  have hfirst :
      0xD800 + (0x10000 + (high.toNat - 0xD800) * 0x400 + (low.toNat - 0xDC00) - 0x10000) /
      0x400 = high.toNat := by omega
  have hsecond :
      0xDC00 + (0x10000 + (high.toNat - 0xD800) * 0x400 + (low.toNat - 0xDC00) - 0x10000) %
      0x400 = low.toNat := by omega
  rw [charUnits, paired, toNat_charOfNat hvalid, if_neg (by omega), hfirst, hsecond,
    UInt16.ofNat_toNat, UInt16.ofNat_toNat]

namespace Reading

/-- The units read so far. -/
def units (s : Reading) : List UInt16 := s.done.reverse.flatMap Piece.units ++ s.high.toList

/-- Nothing but the first half of a pair is waited with. -/
def IsSound (s : Reading) : Prop := ∀ high ∈ s.high, isHigh high = true

theorem isSound_of_eq_none {s : Reading} (h : s.high = none) : s.IsSound := by
  intro high hmem
  rw [h] at hmem
  exact absurd hmem (Option.not_mem_none high)

theorem start_sound (done : List Piece) (unit : UInt16) :
    (start done unit).IsSound ∧
      (start done unit).units = done.reverse.flatMap Piece.units ++ [unit] := by
  rw [start]
  split_ifs with hhigh hlow
  · refine ⟨fun high hmem => ?_, rfl⟩
    cases hmem
    exact hhigh
  · exact ⟨isSound_of_eq_none rfl, by simp [units, Piece.units]⟩
  · refine ⟨isSound_of_eq_none rfl, ?_⟩
    simp [units, Piece.units, charUnits_ofNat (Bool.eq_false_iff.2 hhigh)
      (Bool.eq_false_iff.2 hlow)]

theorem IsSound.step {s : Reading} (h : s.IsSound) (unit : UInt16) :
    (s.step unit).IsSound ∧ (s.step unit).units = s.units ++ [unit] := by
  rcases s with ⟨done, _ | high⟩
  · have hstart := start_sound done unit
    have hunits : units ⟨done, none⟩ = done.reverse.flatMap Piece.units := List.append_nil _
    rw [hunits]
    exact hstart
  · have hhigh : isHigh high = true := h high rfl
    rw [Reading.step]
    split_ifs with hlow
    · refine ⟨isSound_of_eq_none rfl, ?_⟩
      simp [units, Piece.units, charUnits_paired hhigh hlow]
    · have hstart := start_sound (.half high :: done) unit
      refine ⟨hstart.1, hstart.2.trans ?_⟩
      simp [units, Piece.units]

theorem units_finish (s : Reading) : s.finish.flatMap Piece.units = s.units := by
  rcases s with ⟨done, _ | high⟩
  · rw [units, Option.toList_none, List.append_nil]
    rfl
  · simp [finish, units, Piece.units]

end Reading

/-- The pieces of a text have its units. -/
theorem flatMap_units_pieces (t : Text) : t.pieces.flatMap Piece.units = t.units := by
  have hread : ∀ (units : List UInt16) (s : Reading), s.IsSound →
      (units.foldl Reading.step s).units = s.units ++ units := by
    intro units
    induction units with
    | nil => exact fun s _ => (List.append_nil _).symm
    | cons unit rest ih =>
      intro s hs
      obtain ⟨hsound, hunits⟩ := hs.step unit
      rw [List.foldl_cons, ih _ hsound, hunits, List.append_assoc, List.singleton_append]
  rw [pieces, Reading.units_finish, hread t.units ⟨[], none⟩ (Reading.isSound_of_eq_none rfl)]
  rfl

end Text

namespace Json

/-! ### Texts -/

/-- What is written of a piece between quotes is written for its units. -/
theorem content_piece (p : Text.Piece) : Content p.units (writtenPiece p) := by
  have hunicode : ∀ n < 65536,
      Content [UInt16.ofNat n] ('\\' :: 'u' :: fixedDigits 16 4 n) := by
    intro n hn
    have hcode : digitsIn? 16 (fixedDigits 16 4 n) = some n := by
      rw [digitsIn?_fixedDigits (by decide) le_rfl]
      exact congrArg some (Nat.mod_eq_of_lt hn)
    exact content_unicode (length_fixedDigits 16 4 n) hcode
  cases p with
  | half unit =>
    have hwritten := hunicode _ unit.toNat_lt
    rwa [UInt16.ofNat_toNat] at hwritten
  | char c =>
    rw [writtenPiece, escaped, Text.Piece.units]
    split_ifs with hquote hslash hback htab hline hform hreturn hcontrol
    -- the short escapes
    · subst hquote; exact content_short (by decide)
    · subst hslash; exact content_short (by decide)
    · subst hback; exact content_short (by decide)
    · subst htab; exact content_short (by decide)
    · subst hline; exact content_short (by decide)
    · subst hform; exact content_short (by decide)
    · subst hreturn; exact content_short (by decide)
    · rw [Text.charUnits, if_pos (by omega)]
      exact hunicode _ (by omega)
    · -- the character stands for itself
      exact content_char hquote hslash (not_lt.1 hcontrol)

theorem content_text (t : Text) : Content t.units (t.pieces.flatMap writtenPiece) := by
  have hpieces : ∀ ps : List Text.Piece,
      Content (ps.flatMap Text.Piece.units) (ps.flatMap writtenPiece) := by
    intro ps
    induction ps with
    | nil => exact .nil
    | cons p rest ih =>
      rw [List.flatMap_cons, List.flatMap_cons]
      exact (content_piece p).append ih
  rw [← Text.flatMap_units_pieces]
  exact hpieces t.pieces

/-! ### Tokens -/

/-- A token can be read: if it is a number, its text is a word that says it. -/
def Token.Readable (t : Token) : Prop := ∀ n, t = .number n → IsWord t.written t

/-- What is written of a token that can be read spells it. -/
theorem Token.Readable.spells {t : Token} (h : t.Readable) : t.Spells t.written := by
  cases t with
  | null => exact .null
  | bool value => cases value; exacts [.false, .true]
  | number n => exact spells_of_word? (h n rfl).word?_eq
  | text value =>
    rw [written, quoted, List.cons_append]
    exact .text (content_text value)
  | _ => exact .punctuation (by decide)

theorem spelled_written {ts : List Token} (h : ∀ t ∈ ts, t.Readable) :
    Spelled ts (ts.flatMap Token.written) := by
  induction ts with
  | nil => exact .nil
  | cons t rest ih =>
    rw [List.flatMap_cons]
    exact .token (h t List.mem_cons_self).spells
      (ih fun t ht => h t (List.mem_cons_of_mem _ ht))

/-! ### Values -/

/-- A value can be read: its numbers can. -/
def Value.Readable (value : Value) : Prop := ∀ t ∈ value.tokens, t.Readable

/-- A value whose numbers read back reads back from the text that it is written as. -/
theorem parse?_written {value : Value} (h : value.Readable) :
    parse? value.written = some value := parse?_eq_some_iff.2 (spelled_written h)

end Json

end TodoServer
