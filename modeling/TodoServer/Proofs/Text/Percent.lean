/-
Texts escaped and read back.

The bytes of a character are read as that character, wherever they stand: the first byte says
how many are to come, and the ranges that it leaves to the second are those that the characters
of its length need. So a text is read from its bytes as it was. An escape stands for one byte
and every other character for its own bytes; so what is escaped stands for the bytes of the
text that it was made of, as long as the percent sign is never kept, which would begin an
escape where there is none.

* `Utf8.foldl_step_utf8EncodeChar`, `Utf8.decode?_encodeChars` — characters and texts, from
  their bytes;
* `Percent.bytes?`, `Percent.read?` — the bytes that a text with escapes stands for, and the
  text;
* `Percent.read?_encode` — what is escaped reads back;
* `Percent.mem_encode` — the characters that can be in it.
-/
import TodoServer.Text.Percent
import Mathlib.Data.List.Basic

namespace TodoServer.Utf8

/-! ### Bytes of a character -/

variable {done : List (Option Char)} {n : Nat}

/-- The first byte of two, and the bits that it brings. -/
theorem lead_two (hlow : 2 ≤ n) (hhigh : n < 32) :
    lead done (n + 192) = ⟨done, some ⟨n, 1, 0x80, 0xBF⟩⟩ := by
  rw [lead, if_neg (by omega), if_pos (by omega), Nat.add_sub_cancel]

/-- The first byte of three leaves out the forms that are too long, and the surrogates. -/
theorem lead_three (hhigh : n < 16) :
    lead done (n + 224) = ⟨done, some ⟨n, 2, if n = 0 then 0xA0 else 0x80,
      if n = 0xD then 0x9F else 0xBF⟩⟩ := by
  rw [lead, if_neg (by omega), if_neg (by omega)]
  by_cases hfirst : n = 0
  · subst hfirst
    rfl
  · by_cases hsurrogates : n = 0xD
    · subst hsurrogates
      rfl
    · rw [if_neg (by omega), if_neg (by omega), if_pos (by omega), if_neg hfirst,
        if_neg hsurrogates, Nat.add_sub_cancel]

/-- The first byte of four leaves out the forms that are too long, and what no character is. -/
theorem lead_four (hhigh : n < 5) :
    lead done (n + 240) = ⟨done, some ⟨n, 3, if n = 0 then 0x90 else 0x80,
      if n = 4 then 0x8F else 0xBF⟩⟩ := by
  have hcases : n = 0 ∨ n = 1 ∨ n = 2 ∨ n = 3 ∨ n = 4 := by omega
  rcases hcases with rfl | rfl | rfl | rfl | rfl <;> rfl

theorem step_lead (hbyte : n < 256) : step ⟨done, none⟩ (UInt8.ofNat n) = lead done n := by
  have hnat : (UInt8.ofNat n).toNat = n := UInt8.toNat_ofNat_of_lt' hbyte
  simp only [step, hnat]

/-- A byte of a character that is under way, and not its last. -/
theorem step_inner {bits owed least greatest : Nat} (hn : n < 64) (howed : 1 < owed)
    (hrange : least ≤ n + 128 ∧ n + 128 ≤ greatest) :
    step ⟨done, some ⟨bits, owed, least, greatest⟩⟩ (UInt8.ofNat (n + 128)) =
      ⟨done, some ⟨bits * 64 + n, owed - 1, 0x80, 0xBF⟩⟩ := by
  have hbyte : n + 128 < 256 := by omega
  have hnat : (UInt8.ofNat (n + 128)).toNat = n + 128 := UInt8.toNat_ofNat_of_lt' hbyte
  simp only [step, hnat, if_pos hrange, if_neg (Nat.not_le.2 howed), Nat.add_sub_cancel]

theorem step_last {bits least greatest : Nat} (hn : n < 64)
    (hrange : least ≤ n + 128 ∧ n + 128 ≤ greatest) :
    step ⟨done, some ⟨bits, 1, least, greatest⟩⟩ (UInt8.ofNat (n + 128)) =
      ⟨some (Char.ofNat (bits * 64 + n)) :: done, none⟩ := by
  have hbyte : n + 128 < 256 := by omega
  have hnat : (UInt8.ofNat (n + 128)).toNat = n + 128 := UInt8.toNat_ofNat_of_lt' hbyte
  simp only [step, hnat, if_pos hrange, Nat.le_refl, if_true, Nat.add_sub_cancel]

/-- The machine reads the bytes of a character as the character. -/
theorem foldl_step_utf8EncodeChar (done : List (Option Char)) (c : Char) :
    (String.utf8EncodeChar c).foldl step ⟨done, none⟩ = ⟨some c :: done, none⟩ := by
  have hchar : Char.ofNat c.val.toNat = c := Char.ofNat_toNat c
  have hvalid : c.val.toNat < 0xD800 ∨ 0xDFFF < c.val.toNat ∧ c.val.toNat < 0x110000 := c.valid
  unfold String.utf8EncodeChar
  generalize c.val.toNat = v at hchar hvalid
  simp only
  -- one length of character after the other: its bits come together again
  split_ifs with hone htwo hthree
  · rw [List.foldl_cons, List.foldl_nil, step_lead (by omega), lead, if_pos hone, hchar]
  · have hbits : v / 64 % 32 * 64 + v % 64 = v := by omega
    rw [List.foldl_cons, List.foldl_cons, List.foldl_nil, step_lead (by omega),
      lead_two (by omega) (by omega), step_last (by omega) (by omega), hbits, hchar]
  · have hbits : (v / 4096 % 16 * 64 + v / 64 % 64) * 64 + v % 64 = v := by omega
    have hrange : (if v / 4096 % 16 = 0 then 0xA0 else 0x80) ≤ v / 64 % 64 + 128 ∧
        v / 64 % 64 + 128 ≤ if v / 4096 % 16 = 0xD then 0x9F else 0xBF := by
      split_ifs <;> omega
    rw [List.foldl_cons, List.foldl_cons, List.foldl_cons, List.foldl_nil,
      step_lead (by omega), lead_three (by omega), step_inner (by omega) (by omega) hrange,
      step_last (by omega) (by omega), hbits, hchar]
  · have hbits : ((v / 262144 % 8 * 64 + v / 4096 % 64) * 64 + v / 64 % 64) * 64 + v % 64 =
        v := by omega
    have hrange : (if v / 262144 % 8 = 0 then 0x90 else 0x80) ≤ v / 4096 % 64 + 128 ∧
        v / 4096 % 64 + 128 ≤ if v / 262144 % 8 = 4 then 0x8F else 0xBF := by
      split_ifs <;> omega
    rw [List.foldl_cons, List.foldl_cons, List.foldl_cons, List.foldl_cons, List.foldl_nil,
      step_lead (by omega), lead_four (by omega), step_inner (by omega) (by omega) hrange,
      step_inner (by omega) (by omega) (by omega), step_last (by omega) (by omega),
      hbits, hchar]

/-- Texts read back from their bytes. -/
theorem decode?_encodeChars (cs : List Char) : decode? (encodeChars cs) = some cs := by
  have hread : ∀ (cs : List Char) (done : List (Option Char)),
      (encodeChars cs).foldl step ⟨done, none⟩ = ⟨(cs.map some).reverse ++ done, none⟩ := by
    -- what has been read stands in reverse, the newest first
    intro cs
    induction cs with
    | nil => exact fun done => rfl
    | cons c rest ih =>
      intro done
      rw [encodeChars, List.flatMap_cons, List.foldl_append, foldl_step_utf8EncodeChar]
      exact (ih _).trans (by simp)
  have hscan : scan (encodeChars cs) = cs.map some := by
    rw [scan, State.start, hread cs [], State.finish]
    simp
  have hall : ∀ cs : List Char, (cs.map some).mapM id = some cs := by
    intro cs
    induction cs with
    | nil => rfl
    | cons c rest ih =>
      rw [List.map_cons, List.mapM_cons, ih]
      rfl
  rw [decode?, hscan, hall]

end TodoServer.Utf8

namespace TodoServer.Percent

/-! ### Escapes -/

/-- The bytes that a text with escapes stands for. A percent sign stands for nothing by
itself. -/
def bytes? : List Char → Option (List UInt8)
  | [] => some []
  | '%' :: high :: low :: rest => do
    let first ← hexValue? high
    let second ← hexValue? low
    let bytes ← bytes? rest
    some (UInt8.ofNat (first * 16 + second) :: bytes)
  | '%' :: _ => none
  | c :: rest => (bytes? rest).map (String.utf8EncodeChar c ++ ·)

/-- The text that stands for some bytes, escaped or not, if they are those of a text. -/
def read? (cs : List Char) : Option (List Char) := (bytes? cs).bind Utf8.decode?

theorem hexValue?_upperDigit {n : Nat} (h : n < 16) : hexValue? (upperDigit n) = some n := by
  have hall : ∀ n < 16, hexValue? (upperDigit n) = some n := by decide
  exact hall n h

theorem bytes?_escape (byte : UInt8) (rest : List Char) :
    bytes? (escape byte ++ rest) = (bytes? rest).map (byte :: ·) := by
  have hlt := byte.toNat_lt
  have hbyte : UInt8.ofNat (byte.toNat / 16 * 16 + byte.toNat % 16) = byte := by
    rw [Nat.div_add_mod', UInt8.ofNat_toNat]
  rw [escape, List.cons_append, List.cons_append, List.cons_append, List.nil_append, bytes?,
    hexValue?_upperDigit (by omega), hexValue?_upperDigit (by omega)]
  simp only [Option.bind_eq_bind, Option.bind_some, hbyte]
  cases bytes? rest <;> rfl

theorem bytes?_cons {c : Char} (h : c ≠ '%') (rest : List Char) :
    bytes? (c :: rest) = (bytes? rest).map (String.utf8EncodeChar c ++ ·) := by
  rw [bytes?]
  · exact fun _ _ _ hc _ => h hc
  · exact h

theorem bytes?_encodeChar {keep : Char → Bool} (hkeep : keep '%' = false) (c : Char)
    (rest : List Char) :
    bytes? (encodeChar keep c ++ rest) = (bytes? rest).map (String.utf8EncodeChar c ++ ·) := by
  have hescapes : ∀ bytes : List UInt8,
      bytes? (bytes.flatMap escape ++ rest) = (bytes? rest).map (bytes ++ ·) := by
    intro bytes
    induction bytes with
    | nil => simp
    | cons byte others ih => simp [bytes?_escape, ih, Function.comp_def]
  rw [encodeChar]
  split_ifs with hc
  · refine bytes?_cons ?_ rest
    rintro rfl
    rw [hkeep] at hc
    cases hc
  · exact hescapes _

/-- What is escaped reads back, if percent signs are escaped. -/
theorem read?_encode {keep : Char → Bool} (hkeep : keep '%' = false) (cs : List Char) :
    read? (encode keep cs) = some cs := by
  have hbytes : bytes? (encode keep cs) = some (Utf8.encodeChars cs) := by
    induction cs with
    | nil => rfl
    | cons c rest ih =>
      rw [encode, List.flatMap_cons, bytes?_encodeChar hkeep]
      exact congrArg (Option.map (String.utf8EncodeChar c ++ ·)) ih
  rw [read?, hbytes, Option.bind_some, Utf8.decode?_encodeChars]

/-- What is written has no other characters than those kept, percent signs and digits. -/
theorem mem_encode {keep : Char → Bool} {cs : List Char} {c : Char} (h : c ∈ encode keep cs) :
    keep c = true ∨ c = '%' ∨ ∃ n < 16, c = upperDigit n := by
  obtain ⟨d, -, hd⟩ := List.mem_flatMap.1 h
  rw [encodeChar] at hd
  split_ifs at hd with hkeep
  · obtain rfl := List.mem_singleton.1 hd
    exact Or.inl hkeep
  · obtain ⟨byte, -, hbyte⟩ := List.mem_flatMap.1 hd
    have hlt := byte.toNat_lt
    simp only [escape, List.mem_cons, List.not_mem_nil, or_false] at hbyte
    rcases hbyte with rfl | rfl | rfl
    · exact Or.inr (Or.inl rfl)
    · exact Or.inr (Or.inr ⟨_, by omega, rfl⟩)
    · exact Or.inr (Or.inr ⟨_, by omega, rfl⟩)

end TodoServer.Percent
