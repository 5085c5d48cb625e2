/-
Texts that are rows of tokens.

How a token is written is said here without a machine: punctuation is one character; names and
numbers are words; a text stands between quotes, with an escape for what cannot stand for
itself. White space of four kinds may come before a token and after it. The lexer reads from a
text what is written there and nothing else. The other way it needs to know where words end:
tokens are read wherever they are written as long as no two words are next to each other.

* `Json.Content`, `Json.Token.Spells`, `Json.Spelled` — how tokens are written;
* `Json.Lexer.HasRead`, `Json.spelled_of_tokens?` — what a lexer has read is what is written,
  by an invariant with one case for each of its modes;
* `Json.Separated`, `Json.lex_spelled` — tokens that are kept apart are read;
* `Json.tokens?_eq_some_iff` — both together.
-/
import TodoServer.Proofs.Number.Written
import TodoServer.Json.Token
import Mathlib.Data.List.Chain

namespace TodoServer

theorem hexValue?_lt {c : Char} {d : Nat} (h : hexValue? c = some d) : d < 16 := by
  have hle : ∀ {a b : Char}, a ≤ b → a.toNat ≤ b.toNat := fun h => h
  have hnine : '9'.toNat = 57 ∧ '0'.toNat = 48 := by decide
  have hf : 'f'.toNat = 102 ∧ 'a'.toNat = 97 := by decide
  have hF : 'F'.toNat = 70 ∧ 'A'.toNat = 65 := by decide
  rw [hexValue?] at h
  split_ifs at h with hdigit hsmall hcapital <;> cases h
  · have := hle hdigit.2
    omega
  · have := hle hsmall.2
    omega
  · have := hle hcapital.2
    omega

/-- One more hexadecimal digit. -/
theorem digitsIn?_concat {digits : List Char} {code d : Nat} {c : Char}
    (hcode : digitsIn? 16 digits = some code) (hc : hexValue? c = some d) :
    digitsIn? 16 (digits ++ [c]) = some (code * 16 + d) := by
  rw [digitsIn?] at hcode
  rw [digitsIn?, List.foldlM_append, hcode]
  simp [hc, hexValue?_lt hc]

namespace Json

/-! ### How tokens are written -/

/-- The characters that are tokens. -/
def punctuationMarks : List (Char × Token) :=
  [('\x7b', .openObject), ('\x7d', .closeObject), ('[', .openArray), (']', .closeArray),
    (':', .colon), (',', .comma)]

/-- The characters that have a short escape, after the character that it is written with. -/
def shortEscapes : List (Char × Char) :=
  [('"', '"'), ('\\', '\\'), ('/', '/'), ('b', '\x08'), ('f', '\x0c'), ('n', '\n'),
    ('r', '\r'), ('t', '\t')]

/-- The units of a text, and what is written for them between quotes: a character for itself,
or an escape. -/
inductive Content : List UInt16 → List Char → Prop
  | nil : Content [] []
  | char {c : Char} {units : List UInt16} {cs : List Char} (hquote : c ≠ '"')
    (hslash : c ≠ '\\') (hcontrol : 0x20 ≤ c.toNat) (h : Content units cs) :
    Content (Text.charUnits c ++ units) (c :: cs)
  | short {c e : Char} {units : List UInt16} {cs : List Char} (hescape : (c, e) ∈ shortEscapes)
    (h : Content units cs) : Content (Text.charUnits e ++ units) ('\\' :: c :: cs)
  | unicode {digits : List Char} {code : Nat} {units : List UInt16} {cs : List Char}
    (hlength : digits.length = 4) (hcode : digitsIn? 16 digits = some code)
    (h : Content units cs) :
    Content (UInt16.ofNat code :: units) ('\\' :: 'u' :: (digits ++ cs))

/-- How a token is written. -/
inductive Token.Spells : Token → List Char → Prop
  | punctuation {c : Char} {t : Token} (h : (c, t) ∈ punctuationMarks) : Spells t [c]
  | null : Spells .null "null".toList
  | true : Spells (.bool true) "true".toList
  | false : Spells (.bool false) "false".toList
  | number {d : Decimal} {cs : List Char} (h : d.Writes cs) : Spells (.number d.value) cs
  | text {units : List UInt16} {cs : List Char} (h : Content units cs) :
    Spells (.text ⟨units⟩) ('"' :: (cs ++ ['"']))

/-- How tokens are written one after the other, white space among them. -/
inductive Spelled : List Token → List Char → Prop
  | nil : Spelled [] []
  | space {c : Char} {ts : List Token} {cs : List Char} (hc : c ∈ [' ', '\t', '\n', '\r'])
    (h : Spelled ts cs) : Spelled ts (c :: cs)
  | token {t : Token} {ts : List Token} {text cs : List Char} (ht : t.Spells text)
    (h : Spelled ts cs) : Spelled (t :: ts) (text ++ cs)

/-! ### Tables -/

theorem isSpace_iff {c : Char} : isSpace c = true ↔ c ∈ [' ', '\t', '\n', '\r'] := by
  simp [isSpace, or_assoc]

theorem punctuation?_eq_some_iff {c : Char} {t : Token} :
    punctuation? c = some t ↔ (c, t) ∈ punctuationMarks := by
  constructor
  · intro h
    unfold punctuation? at h
    split at h <;> cases h <;> decide
  · intro h
    simp only [punctuationMarks, List.mem_cons, Prod.mk.injEq, List.not_mem_nil, or_false] at h
    rcases h with ⟨rfl, rfl⟩ | ⟨rfl, rfl⟩ | ⟨rfl, rfl⟩ | ⟨rfl, rfl⟩ | ⟨rfl, rfl⟩ |
      ⟨rfl, rfl⟩ <;> rfl

theorem shortEscape?_eq_some_iff {c e : Char} :
    shortEscape? c = some e ↔ (c, e) ∈ shortEscapes := by
  constructor
  · intro h
    unfold shortEscape? at h
    split at h <;> cases h <;> decide
  · intro h
    simp only [shortEscapes, List.mem_cons, Prod.mk.injEq, List.not_mem_nil, or_false] at h
    rcases h with ⟨rfl, rfl⟩ | ⟨rfl, rfl⟩ | ⟨rfl, rfl⟩ | ⟨rfl, rfl⟩ | ⟨rfl, rfl⟩ | ⟨rfl, rfl⟩ |
      ⟨rfl, rfl⟩ | ⟨rfl, rfl⟩ <;> rfl

/-! ### Machines -/

section machines

variable {σ α : Type} {f : σ → α → Option σ} {s s' : σ}

theorem foldlM_cons_of_some {a : α} (h : f s a = some s') (as : List α) :
    (a :: as).foldlM f s = as.foldlM f s' := by
  rw [List.foldlM_cons, h]
  rfl

theorem foldlM_append_of_some {as : List α} (h : as.foldlM f s = some s') (bs : List α) :
    (as ++ bs).foldlM f s = bs.foldlM f s' := by
  rw [List.foldlM_append, h]
  rfl

/-- What each step keeps true of a state and of all that has been read holds in the end. -/
theorem foldlM_keeps {P : σ → List α → Prop}
    (hstep : ∀ {s s' : σ} {as : List α} {a : α}, P s as → f s a = some s' → P s' (as ++ [a]))
    {as more : List α} (h : P s as) (hmore : more.foldlM f s = some s') :
    P s' (as ++ more) := by
  induction more generalizing s as with
  | nil =>
    cases hmore
    rwa [List.append_nil]
  | cons a rest ih =>
    rw [List.foldlM_cons] at hmore
    obtain ⟨next, hnext, hrest⟩ := Option.bind_eq_some_iff.1 hmore
    have hread := ih (hstep h hnext) hrest
    rwa [List.append_assoc, List.singleton_append] at hread

end machines

/-! ### Joining -/

theorem Content.append {units units' : List UInt16} {cs cs' : List Char} (h : Content units cs)
    (h' : Content units' cs') : Content (units ++ units') (cs ++ cs') := by
  induction h with
  | nil => exact h'
  | char hquote hslash hcontrol _ ih =>
    rw [List.append_assoc, List.cons_append]
    exact .char hquote hslash hcontrol ih
  | short hescape _ ih =>
    rw [List.append_assoc, List.cons_append, List.cons_append]
    exact .short hescape ih
  | unicode hlength hcode _ ih =>
    rw [List.cons_append, List.cons_append, List.cons_append, List.append_assoc]
    exact .unicode hlength hcode ih

theorem Spelled.append {ts ts' : List Token} {cs cs' : List Char} (h : Spelled ts cs)
    (h' : Spelled ts' cs') : Spelled (ts ++ ts') (cs ++ cs') := by
  induction h with
  | nil => exact h'
  | space hc _ ih => exact .space hc ih
  | token ht _ ih =>
    rw [List.append_assoc, List.cons_append]
    exact .token ht ih

theorem spelled_token {t : Token} {cs : List Char} (ht : t.Spells cs) : Spelled [t] cs :=
  List.append_nil cs ▸ .token ht .nil

/-! ### What is read is written -/

theorem content_char {c : Char} (hquote : c ≠ '"') (hslash : c ≠ '\\')
    (hcontrol : 0x20 ≤ c.toNat) : Content (Text.charUnits c) [c] :=
  List.append_nil (Text.charUnits c) ▸ .char hquote hslash hcontrol .nil

theorem content_short {c e : Char} (h : (c, e) ∈ shortEscapes) :
    Content (Text.charUnits e) ['\\', c] :=
  List.append_nil (Text.charUnits e) ▸ .short h .nil

theorem content_unicode {digits : List Char} {code : Nat} (hlength : digits.length = 4)
    (hcode : digitsIn? 16 digits = some code) :
    Content [UInt16.ofNat code] ('\\' :: 'u' :: digits) := by
  have h := Content.unicode hlength hcode .nil
  rwa [List.append_nil] at h

/-- A word spells the token that it is taken for. -/
theorem spells_of_word? {cs : List Char} {t : Token} (h : word? cs = some t) :
    t.Spells cs := by
  rw [word?] at h
  split_ifs at h with hnull htrue hfalse
  · cases h
    exact hnull ▸ .null
  · cases h
    exact htrue ▸ .true
  · cases h
    exact hfalse ▸ .false
  · obtain ⟨d, hd, rfl⟩ := Option.map_eq_some_iff.1 h
    exact .number (Decimal.read?_eq_some_iff.1 hd)

/-- The units of one more character, with those read before it. -/
theorem Content.push {seen : List UInt16} {content piece : List Char} {c : Char}
    (h : Content seen.reverse content) (hpiece : Content (Text.charUnits c) piece) :
    Content (pushUnits seen c).reverse (content ++ piece) := by
  rw [pushUnits, List.reverse_append, List.reverse_reverse]
  exact h.append hpiece

/-- What a lexer has read: the characters of the tokens read, and those of what is being
read. -/
inductive Lexer.HasRead : Lexer → List Char → Prop
  | between {read : List Token} {cs : List Char} (h : Spelled read.reverse cs) :
    HasRead ⟨read, .between⟩ cs
  | word {read : List Token} {cs seen : List Char} (h : Spelled read.reverse cs) :
    HasRead ⟨read, .word seen⟩ (cs ++ seen.reverse)
  | inText {read : List Token} {seen : List UInt16} {cs content : List Char}
    (h : Spelled read.reverse cs) (hcontent : Content seen.reverse content) :
    HasRead ⟨read, .inText seen⟩ (cs ++ '"' :: content)
  | escape {read : List Token} {seen : List UInt16} {cs content : List Char}
    (h : Spelled read.reverse cs) (hcontent : Content seen.reverse content) :
    HasRead ⟨read, .escape seen⟩ (cs ++ '"' :: (content ++ ['\\']))
  | unicode {read : List Token} {seen : List UInt16} {cs content digits : List Char}
    {code left : Nat} (h : Spelled read.reverse cs) (hcontent : Content seen.reverse content)
    (hpos : 0 < left) (hlength : digits.length + left = 4)
    (hcode : digitsIn? 16 digits = some code) :
    HasRead ⟨read, .unicode seen code left⟩ (cs ++ '"' :: (content ++ '\\' :: 'u' :: digits))

theorem Lexer.hasRead_start {read : List Token} {cs : List Char} (h : Spelled read.reverse cs)
    {c : Char} {s : Lexer} (hs : start read c = some s) : s.HasRead (cs ++ [c]) := by
  rw [start] at hs
  split_ifs at hs with hspace hquote hword
  · cases hs
    have hc : Spelled [] [c] := .space (isSpace_iff.1 hspace) .nil
    have hread := h.append hc
    rw [List.append_nil] at hread
    exact .between hread
  · cases hs
    subst hquote
    exact .inText h .nil
  · cases hs
    exact .word h
  · obtain ⟨t, ht, rfl⟩ := Option.map_eq_some_iff.1 hs
    have hread := h.append (spelled_token (.punctuation (punctuation?_eq_some_iff.1 ht)))
    rw [← List.reverse_cons] at hread
    exact .between hread

/-- A lexer goes on with one character. -/
theorem Lexer.HasRead.step {s s' : Lexer} {cs : List Char} (h : s.HasRead cs) {c : Char}
    (hstep : lexStep s c = some s') : s'.HasRead (cs ++ [c]) := by
  cases h with
  | between h => exact hasRead_start h hstep
  | @word read cs seen h =>
    simp only [lexStep] at hstep
    split_ifs at hstep
    · cases hstep
      have hread : HasRead ⟨read, .word (c :: seen)⟩ (cs ++ (c :: seen).reverse) := .word h
      rwa [List.reverse_cons, ← List.append_assoc] at hread
    · -- the word ends before this character, which begins what comes next
      obtain ⟨t, ht, hstart⟩ := Option.bind_eq_some_iff.1 hstep
      have hread := h.append (spelled_token (spells_of_word? ht))
      rw [← List.reverse_cons] at hread
      exact hasRead_start hread hstart
  | @inText read seen cs content h hcontent =>
    rw [List.append_assoc, List.cons_append]
    simp only [lexStep] at hstep
    split_ifs at hstep with hquote hslash hcontrol
    · cases hstep
      subst hquote
      have hread := h.append (spelled_token (.text hcontent))
      rw [← List.reverse_cons] at hread
      exact .between hread
    · cases hstep
      subst hslash
      exact .escape h hcontent
    · cases hstep
      exact .inText h (hcontent.push (content_char hquote hslash (not_lt.1 hcontrol)))
  | @escape read seen cs content h hcontent =>
    rw [List.append_assoc, List.cons_append, List.append_assoc, List.singleton_append]
    simp only [lexStep] at hstep
    split_ifs at hstep with hu
    · cases hstep
      subst hu
      exact .unicode h hcontent (by decide) rfl rfl
    · obtain ⟨e, he, rfl⟩ := Option.map_eq_some_iff.1 hstep
      exact .inText h (hcontent.push (content_short (shortEscape?_eq_some_iff.1 he)))
  | @unicode read seen cs content digits code left h hcontent hpos hlength hcode =>
    rw [List.append_assoc, List.cons_append, List.append_assoc, List.cons_append,
      List.cons_append]
    simp only [lexStep] at hstep
    obtain ⟨d, hd, hnext⟩ := Option.map_eq_some_iff.1 hstep
    have hmore := digitsIn?_concat hcode hd
    split_ifs at hnext with hlast <;> subst hnext
    · -- the fourth digit completes the code unit
      have hfour : (digits ++ [c]).length = 4 := by
        rw [List.length_append, List.length_singleton]
        omega
      refine .inText h ?_
      rw [List.reverse_cons]
      exact hcontent.append (content_unicode hfour hmore)
    · refine .unicode h hcontent (by omega) ?_ hmore
      rw [List.length_append, List.length_singleton]
      omega

/-- The tokens of a text are written there. -/
theorem spelled_of_tokens? {cs : List Char} {ts : List Token} (h : tokens? cs = some ts) :
    Spelled ts cs := by
  obtain ⟨s, hs, hfinish⟩ := Option.bind_eq_some_iff.1 h
  have hstart : Lexer.HasRead ⟨[], .between⟩ [] := .between .nil
  have hread : s.HasRead cs := foldlM_keeps (fun h => h.step) hstart hs
  cases hread with
  | between hread =>
    cases hfinish
    exact hread
  | word hread =>
    obtain ⟨t, ht, rfl⟩ := Option.map_eq_some_iff.1 hfinish
    rw [List.reverse_cons]
    exact hread.append (spelled_token (spells_of_word? ht))
  | inText => cases hfinish
  | escape => cases hfinish
  | unicode => cases hfinish

/-! ### What is written is read -/

/-- Hexadecimal digits, as many as are still to come, are read as the number that they go on
to. -/
theorem lex_digits {digits : List Char} {code n left : Nat}
    (hlength : digits.length = left + 1)
    (h : digits.foldlM (fun total c => (hexValue? c).bind fun digit =>
      if digit < 16 then some (total * 16 + digit) else none) code = some n)
    (read : List Token) (seen : List UInt16) :
    digits.foldlM lexStep ⟨read, .unicode seen code (left + 1)⟩ =
      some ⟨read, .inText (UInt16.ofNat n :: seen)⟩ := by
  induction digits generalizing code left with
  | nil => cases hlength
  | cons c rest ih =>
    obtain ⟨next, hnext, hrest⟩ := Option.bind_eq_some_iff.1 h
    obtain ⟨d, hd, hlt⟩ := Option.bind_eq_some_iff.1 hnext
    rw [if_pos (hexValue?_lt hd)] at hlt
    cases hlt
    have hstep : lexStep ⟨read, .unicode seen code (left + 1)⟩ c =
        some (if left + 1 ≤ 1 then ⟨read, .inText (UInt16.ofNat (code * 16 + d) :: seen)⟩
          else ⟨read, .unicode seen (code * 16 + d) left⟩) := by
      simp only [lexStep, hd, Option.map_some, Nat.add_sub_cancel]
    rw [foldlM_cons_of_some hstep]
    rw [List.length_cons, Nat.add_right_cancel_iff] at hlength
    cases left with
    | zero =>
      obtain rfl := List.length_eq_zero_iff.1 hlength
      cases hrest
      rfl
    | succ left =>
      rw [if_neg (by omega)]
      exact ih hlength hrest

/-- What is written between quotes is read as its units. -/
theorem lex_content {units : List UInt16} {cs : List Char} (h : Content units cs)
    (read : List Token) (seen : List UInt16) :
    cs.foldlM lexStep ⟨read, .inText seen⟩ = some ⟨read, .inText (units.reverse ++ seen)⟩ := by
  induction h generalizing seen with
  | nil => rfl
  | @char c units cs hquote hslash hcontrol _ ih =>
    have hstep : lexStep ⟨read, .inText seen⟩ c = some ⟨read, .inText (pushUnits seen c)⟩ := by
      simp only [lexStep, if_neg hquote, if_neg hslash, if_neg (not_lt.2 hcontrol)]
    rw [foldlM_cons_of_some hstep, ih, pushUnits, List.reverse_append, List.append_assoc]
  | @short c e units cs hescape _ ih =>
    have hu : c ≠ 'u' := by
      rintro rfl
      have hnone : shortEscape? 'u' = none := rfl
      rw [shortEscape?_eq_some_iff.2 hescape] at hnone
      cases hnone
    have hopen : lexStep ⟨read, .inText seen⟩ '\\' = some ⟨read, .escape seen⟩ := rfl
    have hstep : lexStep ⟨read, .escape seen⟩ c = some ⟨read, .inText (pushUnits seen e)⟩ := by
      simp only [lexStep, if_neg hu, shortEscape?_eq_some_iff.2 hescape, Option.map_some]
    rw [foldlM_cons_of_some hopen, foldlM_cons_of_some hstep, ih, pushUnits,
      List.reverse_append, List.append_assoc]
  | @unicode digits code units cs hlength hcode _ ih =>
    have hopen : ('\\' :: 'u' :: digits).foldlM lexStep ⟨read, .inText seen⟩ =
        digits.foldlM lexStep ⟨read, .unicode seen 0 4⟩ := rfl
    have hdigits : digits.foldlM lexStep ⟨read, .unicode seen 0 4⟩ =
        some ⟨read, .inText (UInt16.ofNat code :: seen)⟩ := lex_digits hlength hcode read seen
    rw [← List.cons_append, ← List.cons_append,
      foldlM_append_of_some (hopen.trans hdigits), ih]
    simp

/-- Tokens of one character that is part of no word. -/
def Token.IsPunctuation (t : Token) : Prop := ∃ c, (c, t) ∈ punctuationMarks

/-- A lexer has read some tokens, or is at the end of a word that says the newest of them. -/
inductive Lexer.Stands : Lexer → List Token → Prop
  | between (read : List Token) : Stands ⟨read, .between⟩ read
  | word {read : List Token} {seen : List Char} {t : Token} (h : word? seen.reverse = some t) :
    Stands ⟨read, .word seen⟩ (t :: read)

/-- A word that says a token. -/
structure IsWord (cs : List Char) (t : Token) : Prop where
  ne_nil : cs ≠ []
  chars : ∀ c ∈ cs, isWordChar c = true
  word?_eq : word? cs = some t

theorem start_of_isWordChar {c : Char} (h : isWordChar c = true) (read : List Token) :
    start read c = some ⟨read, .word [c]⟩ := by
  have hspace : isSpace c = false := by
    rw [Bool.eq_false_iff]
    intro hspace
    simp only [isSpace, Bool.or_eq_true, decide_eq_true_eq] at hspace
    rcases hspace with ((rfl | rfl) | rfl) | rfl <;> exact absurd h (by decide)
  have hquote : c ≠ '"' := by
    rintro rfl
    exact absurd h (by decide)
  rw [start, hspace, if_neg Bool.false_ne_true, if_neg hquote, if_pos h]

theorem lex_word {cs : List Char} {t : Token} (h : IsWord cs t) (read : List Token) :
    ∃ s, cs.foldlM lexStep ⟨read, .between⟩ = some s ∧ s.Stands (t :: read) := by
  have hmore : ∀ (cs seen : List Char), (∀ c ∈ cs, isWordChar c = true) →
      cs.foldlM lexStep ⟨read, .word seen⟩ = some ⟨read, .word (cs.reverse ++ seen)⟩ := by
    intro cs
    induction cs with
    | nil => exact fun seen _ => rfl
    | cons c rest ih =>
      intro seen hchars
      have hc : isWordChar c = true := hchars c List.mem_cons_self
      have hstep : lexStep ⟨read, .word seen⟩ c = some ⟨read, .word (c :: seen)⟩ := by
        simp only [lexStep, if_pos hc]
      rw [foldlM_cons_of_some hstep, ih _ fun c hc => hchars c (List.mem_cons_of_mem _ hc)]
      simp
  rcases cs with _ | ⟨c, rest⟩
  · exact absurd rfl h.ne_nil
  · have hfirst : lexStep ⟨read, .between⟩ c = some ⟨read, .word [c]⟩ :=
      start_of_isWordChar (h.chars c List.mem_cons_self) read
    refine ⟨⟨read, .word (rest.reverse ++ [c])⟩, ?_, .word ?_⟩
    · rw [foldlM_cons_of_some hfirst, hmore rest [c] fun c hc =>
        h.chars c (List.mem_cons_of_mem _ hc)]
    · rw [List.reverse_append, List.reverse_reverse]
      exact h.word?_eq

theorem isWordChar_of_isDecimal {c : Char} (h : isDecimal c = true) : isWordChar c = true := by
  simp [isWordChar, isAlphanumeric, h]

/-- Numbers are written with the characters of words. -/
theorem isWordChar_of_writes {d : Decimal} {cs : List Char} (h : d.Writes cs) :
    ∀ c ∈ cs, isWordChar c = true := by
  have hexponent : ∀ {power : Int} {cs : List Char}, Decimal.Exponent power cs →
      ∀ c ∈ cs, isWordChar c = true := by
    intro power cs h
    have hmark : ∀ {mark : Char}, mark = 'e' ∨ mark = 'E' → isWordChar mark = true := by
      rintro mark (rfl | rfl) <;> decide
    have hdigits : ∀ {digits : List Char} {n : Nat}, numeral? digits = some n →
        ∀ c ∈ digits, isWordChar c = true := fun hn c hc =>
      isWordChar_of_isDecimal ((numeral?_eq_some_iff_digits.1 hn).1.2 c hc)
    have hsign : isWordChar '+' = true ∧ isWordChar '-' = true := by decide
    cases h with
    | omitted => exact nofun
    | plain hm hn => exact List.forall_mem_cons.2 ⟨hmark hm, hdigits hn⟩
    | plus hm hn =>
      exact List.forall_mem_cons.2 ⟨hmark hm, List.forall_mem_cons.2 ⟨hsign.1, hdigits hn⟩⟩
    | minus hm hn =>
      exact List.forall_mem_cons.2 ⟨hmark hm, List.forall_mem_cons.2 ⟨hsign.2, hdigits hn⟩⟩
  have hunsigned : ∀ {negative : Bool} {d : Decimal} {cs : List Char},
      Decimal.Unsigned negative d cs →
      ∀ c ∈ cs, isWordChar c = true := by
    rintro negative _ _ ⟨hwhole, hfraction, hpower⟩
    refine List.forall_mem_append.2 ⟨fun c hc => isWordChar_of_isDecimal (hwhole.decimal c hc),
      List.forall_mem_append.2 ⟨?_, hexponent hpower⟩⟩
    rw [fractionText]
    split_ifs
    · exact nofun
    · exact List.forall_mem_cons.2
        ⟨by decide, fun c hc => isWordChar_of_isDecimal (hfraction c hc)⟩
  cases h with
  | negative h => exact List.forall_mem_cons.2 ⟨by decide, hunsigned h⟩
  | positive h => exact hunsigned h

theorem isWord_of_writes {d : Decimal} {cs : List Char} (h : d.Writes cs) :
    IsWord cs (.number d.value) := by
  have hread := Decimal.read?_eq_some_iff.2 h
  -- what is a number is no other word
  have hother : ∀ word : List Char, Decimal.read? word = none → cs ≠ word := by
    rintro word hnone rfl
    rw [hnone] at hread
    cases hread
  refine ⟨hother [] rfl, isWordChar_of_writes h, ?_⟩
  rw [word?, if_neg (hother _ (by decide +kernel)), if_neg (hother _ (by decide +kernel)),
    if_neg (hother _ (by decide +kernel)), hread]
  rfl

/-- What cannot go on a word begins afresh after it. -/
theorem Lexer.Stands.lexStep_eq_start {s : Lexer} {ts : List Token} (h : s.Stands ts)
    {c : Char} (hc : isWordChar c = false) : lexStep s c = start ts c := by
  cases h with
  | between => rfl
  | word hword =>
    simp only [lexStep, hc, Bool.false_eq_true, if_false, hword, Option.bind_some]

theorem Lexer.Stands.lexStep_mark {s : Lexer} {ts : List Token} (h : s.Stands ts) {c : Char}
    {p : Token} (hp : (c, p) ∈ punctuationMarks) : lexStep s c = some ⟨p :: ts, .between⟩ := by
  simp only [punctuationMarks, List.mem_cons, Prod.mk.injEq, List.not_mem_nil, or_false] at hp
  rcases hp with ⟨rfl, rfl⟩ | ⟨rfl, rfl⟩ | ⟨rfl, rfl⟩ | ⟨rfl, rfl⟩ | ⟨rfl, rfl⟩ |
    ⟨rfl, rfl⟩ <;>
    exact (h.lexStep_eq_start (by decide)).trans rfl

theorem Lexer.Stands.lexStep_space {s : Lexer} {ts : List Token} (h : s.Stands ts) {c : Char}
    (hc : c ∈ [' ', '\t', '\n', '\r']) : lexStep s c = some ⟨ts, .between⟩ := by
  have hword : isWordChar c = false := by
    simp only [List.mem_cons, List.not_mem_nil, or_false] at hc
    rcases hc with rfl | rfl | rfl | rfl <;> decide
  rw [h.lexStep_eq_start hword, start, if_pos (isSpace_iff.2 hc)]

theorem Lexer.Stands.finish? {s : Lexer} {ts : List Token} (h : s.Stands ts) :
    s.finish? = some ts.reverse := by
  cases h with
  | between read => rfl
  | word hword => simp only [Lexer.finish?, hword, Option.map_some]

/-- A token is read where it is written, after whatever comes before. -/
theorem lex_token {t : Token} {cs : List Char} (h : t.Spells cs) (read : List Token) :
    ∃ s, cs.foldlM lexStep ⟨read, .between⟩ = some s ∧ s.Stands (t :: read) := by
  cases h with
  | punctuation hp =>
    exact ⟨_, foldlM_cons_of_some ((Lexer.Stands.between read).lexStep_mark hp) [], .between _⟩
  | null => exact lex_word ⟨by decide, List.all_eq_true.1 (by decide +kernel), rfl⟩ read
  | true => exact lex_word ⟨by decide, List.all_eq_true.1 (by decide +kernel), rfl⟩ read
  | false => exact lex_word ⟨by decide, List.all_eq_true.1 (by decide +kernel), rfl⟩ read
  | number h => exact lex_word (isWord_of_writes h) read
  | @text units cs h =>
    have hopen : lexStep ⟨read, .between⟩ '"' = some ⟨read, .inText []⟩ := rfl
    refine ⟨⟨.text ⟨units⟩ :: read, .between⟩, ?_, .between _⟩
    rw [foldlM_cons_of_some hopen, foldlM_append_of_some (lex_content h read [])]
    simp [lexStep]

theorem not_isPunctuation_of_word? {cs : List Char} {t : Token} (h : word? cs = some t) :
    ¬t.IsPunctuation := by
  rintro ⟨c, hc⟩
  rw [word?] at h
  split_ifs at h
  · cases h
    simp [punctuationMarks] at hc
  · cases h
    simp [punctuationMarks] at hc
  · cases h
    simp [punctuationMarks] at hc
  · obtain ⟨d, -, rfl⟩ := Option.map_eq_some_iff.1 h
    simp [punctuationMarks] at hc

/-- Of two tokens next to each other one is punctuation. -/
def Separated (ts : List Token) : Prop :=
  ts.IsChain fun t t' => t.IsPunctuation ∨ t'.IsPunctuation

/-- Tokens that are kept apart are read where they are written. -/
theorem lex_spelled {ts : List Token} {cs : List Char} (h : Spelled ts cs) {s : Lexer}
    {read : List Token} (hs : s.Stands read) (hapart : Separated (read.head?.toList ++ ts)) :
    ∃ s', cs.foldlM lexStep s = some s' ∧ s'.Stands (ts.reverse ++ read) := by
  induction h generalizing s read with
  | nil => exact ⟨s, rfl, hs⟩
  | space hc _ ih =>
    obtain ⟨s', hs', hstands⟩ := ih (.between read) hapart
    exact ⟨s', (foldlM_cons_of_some (hs.lexStep_space hc) _).trans hs', hstands⟩
  | @token t ts text cs ht _ ih =>
    -- after a word comes punctuation, and after punctuation whatever comes
    have hfirst : ∃ next, text.foldlM lexStep s = some next ∧ next.Stands (t :: read) := by
      cases hs with
      | between => exact lex_token ht read
      | @word read seen last hword =>
        rcases (List.isChain_cons_cons.1 hapart).1 with hlast | ⟨c, hc⟩
        · exact absurd hlast (not_isPunctuation_of_word? hword)
        · cases ht with
          | punctuation hp =>
            exact ⟨_, foldlM_cons_of_some ((Lexer.Stands.word hword).lexStep_mark hp) [],
              .between _⟩
          | _ => exact absurd hc (by simp [punctuationMarks])
    obtain ⟨next, hnext, hstands⟩ := hfirst
    have hrest : Separated ((t :: read).head?.toList ++ ts) :=
      List.IsChain.right_of_append hapart
    obtain ⟨s', hs', hstands'⟩ := ih hstands hrest
    refine ⟨s', (foldlM_append_of_some hnext _).trans hs', ?_⟩
    rwa [List.reverse_cons, List.append_assoc, List.singleton_append]

/-- The tokens of a text, if they are kept apart, are those that are written there. -/
theorem tokens?_eq_some_iff {cs : List Char} {ts : List Token} (hapart : Separated ts) :
    tokens? cs = some ts ↔ Spelled ts cs := by
  refine ⟨spelled_of_tokens?, fun h => ?_⟩
  obtain ⟨s, hs, hstands⟩ := lex_spelled h (.between []) hapart
  rw [tokens?, hs, Option.bind_some, hstands.finish?, List.append_nil, List.reverse_reverse]

end Json

end TodoServer
