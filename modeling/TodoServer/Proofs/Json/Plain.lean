/-
Plain values and their documents.

Texts, truth values, null and numbers that are held exactly, and arrays and objects of these,
are written so that they can be read: a number is the only token of which this is not plain
from how it is written. A document of a plain value is one line, since a control character
stands in no token, inside a text or outside of it; and it is read back as the value with its
members in the order of a record.

* `Json.Value.IsPlain` — the values that have documents;
* `Json.Token.printable_of_spells` — a token has no control characters;
* `Json.Value.IsPlain.document` — what is written of a plain value.
-/
import TodoServer.Proofs.Json.Members
import TodoServer.Proofs.Json.Reading
import TodoServer.Proofs.Number.Shortest

namespace TodoServer.Json

/-! ### Control characters -/

/-- Whether a character does not come before the blank, as control characters do. -/
def isPrintable (c : Char) : Bool := 0x20 ≤ c.toNat

theorem isPrintable_of_le {c low : Char} (hlow : isPrintable low = true) (h : low ≤ c) :
    isPrintable c = true :=
  decide_eq_true (le_trans (of_decide_eq_true hlow) h)

theorem isPrintable_of_isDecimal {c : Char} (h : isDecimal c = true) :
    isPrintable c = true := by
  have hzero : isPrintable '0' = true := by decide
  exact isPrintable_of_le hzero (isDecimal_iff.1 h).1

theorem isPrintable_of_hexValue? {c : Char} {d : Nat} (h : hexValue? c = some d) :
    isPrintable c = true := by
  rw [hexValue?] at h
  split_ifs at h with hdigit hsmall hcapital
  · exact isPrintable_of_le (by decide) hdigit.1
  · exact isPrintable_of_le (by decide) hsmall.1
  · exact isPrintable_of_le (by decide) hcapital.1

theorem isPrintable_of_isWordChar {c : Char} (h : isWordChar c = true) :
    isPrintable c = true := by
  simp only [isWordChar, isAlphanumeric, Bool.or_eq_true, Bool.and_eq_true, decide_eq_true_eq]
    at h
  rcases h with (((((hdigit | hsmall) | hcapital) | rfl) | rfl) | rfl)
  · exact isPrintable_of_isDecimal hdigit
  · exact isPrintable_of_le (by decide) hsmall.1
  · exact isPrintable_of_le (by decide) hcapital.1
  all_goals decide

theorem isPrintable_of_digitsIn? {base code : Nat} {digits : List Char}
    (h : digitsIn? base digits = some code) : ∀ c ∈ digits, isPrintable c = true := by
  rw [digitsIn?] at h
  generalize 0 = total at h
  induction digits generalizing total with
  | nil => exact fun c hc => absurd hc List.not_mem_nil
  | cons c rest ih =>
    rw [List.foldlM_cons] at h
    obtain ⟨next, hnext, hrest⟩ := Option.bind_eq_some_iff.1 h
    obtain ⟨d, hd, -⟩ := Option.bind_eq_some_iff.1 hnext
    exact List.forall_mem_cons.2 ⟨isPrintable_of_hexValue? hd, ih next hrest⟩

theorem Content.printable {units : List UInt16} {cs : List Char} (h : Content units cs) :
    ∀ c ∈ cs, isPrintable c = true := by
  induction h with
  | nil => exact nofun
  | char _ _ hcontrol _ ih => exact List.forall_mem_cons.2 ⟨decide_eq_true hcontrol, ih⟩
  | @short c e _ _ hescape _ ih =>
    have hall : ∀ pair ∈ shortEscapes, isPrintable pair.1 = true :=
      List.all_eq_true.1 (by decide)
    exact List.forall_mem_cons.2 ⟨by decide, List.forall_mem_cons.2 ⟨hall _ hescape, ih⟩⟩
  | unicode _ hcode _ ih =>
    exact List.forall_mem_cons.2 ⟨by decide, List.forall_mem_cons.2
      ⟨by decide, List.forall_mem_append.2 ⟨isPrintable_of_digitsIn? hcode, ih⟩⟩⟩

/-- A token has no control characters. -/
theorem Token.printable_of_spells {t : Token} {cs : List Char} (h : t.Spells cs) :
    ∀ c ∈ cs, isPrintable c = true := by
  cases h with
  | punctuation h =>
    have hall : ∀ pair ∈ punctuationMarks, isPrintable pair.1 = true :=
      List.all_eq_true.1 (by decide)
    simpa using hall _ h
  | null => exact List.all_eq_true.1 (by decide +kernel)
  | true => exact List.all_eq_true.1 (by decide +kernel)
  | false => exact List.all_eq_true.1 (by decide +kernel)
  | number h => exact fun c hc => isPrintable_of_isWordChar (isWordChar_of_writes h c hc)
  | text h =>
    exact List.forall_mem_cons.2 ⟨by decide, List.forall_mem_append.2
      ⟨h.printable, List.forall_mem_singleton.2 (by decide)⟩⟩

/-! ### Plain values -/

/-- A value that a document can write: its numbers are held exactly. -/
inductive Value.IsPlain : Value → Prop
  | null : IsPlain .null
  | bool (b : Bool) : IsPlain (.bool b)
  | number {v : ℚ} (h : Number.IsDouble v) : IsPlain (.number (.finite v))
  | text (t : Text) : IsPlain (.text t)
  | array {items : List Value} (h : ∀ item ∈ items, IsPlain item) : IsPlain (.array items)
  | object {members : List Member} (h : ∀ m ∈ members, IsPlain m.2) : IsPlain (.object members)

theorem mem_itemTokens {t : Token} : ∀ {items : List Value}, t ∈ itemTokens items →
    t = .comma ∨ ∃ item ∈ items, t ∈ item.tokens
  | [], h => absurd h List.not_mem_nil
  | [item], h => Or.inr ⟨item, List.mem_singleton_self item, by rwa [itemTokens] at h⟩
  | item :: next :: rest, h => by
    rw [itemTokens, List.mem_append, List.mem_cons] at h
    · rcases h with h | h | h
      · exact Or.inr ⟨item, List.mem_cons_self, h⟩
      · exact Or.inl h
      · obtain hcomma | ⟨other, hother, h⟩ := mem_itemTokens h
        · exact Or.inl hcomma
        · exact Or.inr ⟨other, List.mem_cons_of_mem _ hother, h⟩
    · exact List.cons_ne_nil _ _

theorem mem_memberTokens {t : Token} : ∀ {members : List Member}, t ∈ memberTokens members →
    t = .comma ∨ t = .colon ∨ ∃ m ∈ members, t = .text m.1 ∨ t ∈ m.2.tokens
  | [], h => absurd h List.not_mem_nil
  | [(name, value)], h => by
    rw [memberTokens, List.mem_cons, List.mem_cons] at h
    rcases h with h | h | h
    · exact Or.inr (Or.inr ⟨_, List.mem_singleton_self _, Or.inl h⟩)
    · exact Or.inr (Or.inl h)
    · exact Or.inr (Or.inr ⟨_, List.mem_singleton_self _, Or.inr h⟩)
  | (name, value) :: next :: rest, h => by
    rw [memberTokens, List.mem_append, List.mem_cons, List.mem_cons, List.mem_cons] at h
    · rcases h with (h | h | h) | h | h
      · exact Or.inr (Or.inr ⟨_, List.mem_cons_self, Or.inl h⟩)
      · exact Or.inr (Or.inl h)
      · exact Or.inr (Or.inr ⟨_, List.mem_cons_self, Or.inr h⟩)
      · exact Or.inl h
      · obtain hcomma | hcolon | ⟨m, hm, h⟩ := mem_memberTokens h
        · exact Or.inl hcomma
        · exact Or.inr (Or.inl hcolon)
        · exact Or.inr (Or.inr ⟨m, List.mem_cons_of_mem _ hm, h⟩)
    · exact List.cons_ne_nil _ _

/-- A number that is held exactly is read back from its text. -/
theorem readable_number {v : ℚ} (h : Number.IsDouble v) :
    (Token.number (.finite v)).Readable := by
  obtain ⟨text, d, htext, hwrites, hvalue⟩ := Number.exists_writes h
  intro n hn
  rw [Token.written, htext, Option.getD_some, ← hvalue]
  exact isWord_of_writes hwrites

namespace Value

variable {value : Value}

theorem isPlain_ofInt {n : ℤ} (h : n.natAbs ≤ 2 ^ 53) : (ofInt n).IsPlain := by
  rw [ofInt, Number.ofInt_eq_finite h]
  exact .number (Number.ofInt_eq_finite h)

theorem IsPlain.readable (h : value.IsPlain) : value.Readable := by
  induction h with
  | null => exact List.forall_mem_singleton.2 nofun
  | bool => exact List.forall_mem_singleton.2 nofun
  | number h => exact List.forall_mem_singleton.2 (readable_number h)
  | text => exact List.forall_mem_singleton.2 nofun
  | array _ ih =>
    refine List.forall_mem_cons.2 ⟨nofun, List.forall_mem_append.2 ⟨fun t ht => ?_, ?_⟩⟩
    · obtain rfl | ⟨item, hitem, ht⟩ := mem_itemTokens ht
      · exact nofun
      · exact ih item hitem t ht
    · exact List.forall_mem_singleton.2 nofun
  | object _ ih =>
    refine List.forall_mem_cons.2 ⟨nofun, List.forall_mem_append.2 ⟨fun t ht => ?_, ?_⟩⟩
    · obtain rfl | rfl | ⟨m, hm, rfl | ht⟩ := mem_memberTokens ht
      · exact nofun
      · exact nofun
      · exact nofun
      · exact ih m hm t ht
    · exact List.forall_mem_singleton.2 nofun

theorem IsPlain.ordered (h : value.IsPlain) : value.ordered.IsPlain := by
  induction h with
  | null => exact .null
  | bool b => exact .bool b
  | number h => exact .number h
  | text t => exact .text t
  | array _ ih =>
    rw [Value.ordered, orderedItems_eq_map]
    exact .array (List.forall_mem_map.2 ih)
  | object _ ih =>
    rw [Value.ordered, orderedMembers_eq_map]
    refine .object fun m hm => ?_
    obtain ⟨m', hm', heq⟩ := List.mem_map.1 (mem_of_held (mem_memberOrder.1 hm))
    have hvalue : m'.2.ordered = m.2 := congrArg Prod.snd heq
    exact hvalue ▸ ih m' hm'

/-- What is written of a plain value, its members in the order of a record, is one line without
control characters, and is read back as a record of the value. -/
theorem IsPlain.document (h : value.IsPlain) :
    (∀ c ∈ value.ordered.written, isPrintable c = true) ∧
      ∃ record, parse? value.ordered.written = some record ∧ value.Recorded record := by
  have hreadable := h.ordered.readable
  refine ⟨fun c hc => ?_, _, parse?_written hreadable, value.recorded_ordered⟩
  obtain ⟨t, ht, hc⟩ := List.mem_flatMap.1 hc
  exact Token.printable_of_spells (hreadable t ht).spells c hc

end Value

end TodoServer.Json
