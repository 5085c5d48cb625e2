/-
Addresses of databases, taken apart again.

An address is cut at a few characters. A part that is escaped has none of them, so as long as
the host and the port, which stand there as they are, have none either, the address has those
that join its parts and no others. It is therefore the text of one row of parts only, and is
cut into these, whichever way it is read; and what was escaped reads back. Nothing that a user
or a password holds can come to stand in another place.

* `Dsn.Parts`, `Dsn.Parts.text`, `Dsn.Parts.split?` — the parts of an address, joined and cut;
* `Dsn.Parts.isPlain_iff` — parts have no delimiters exactly if their text has only those that
  join them;
* `Dsn.Parts.IsPlain.split?_text`, `Dsn.Parts.IsPlain.eq_of_text_eq` — such parts are the only
  ones;
* `Dsn.Parts.read?` — the settings that parts stand for;
* `addresses_read_back` — every address of a plain host and port.
-/
import TodoServer.Proofs.Text.Percent
import TodoServer.Sql.Pool

namespace TodoServer

namespace Dsn

/-- The characters that addresses are cut at. -/
def delimiters : List Char := [':', '/', '@', '?', '#']

def isDelimiter (c : Char) : Bool := delimiters.contains c

/-- The parts of an address as they stand in its text. -/
structure Parts where
  user : List Char
  password : List Char
  host : List Char
  port : List Char
  database : List Char
  sslmode : List Char
deriving DecidableEq

namespace Parts

def scheme : List Char := "postgres://".toList

def parameter : List Char := "?sslmode=".toList

/-- The text that parts stand in. -/
def text (p : Parts) : List Char :=
  scheme ++ (p.user ++ ':' :: (p.password ++ '@' :: (p.host ++ ':' :: (p.port ++ '/' ::
    (p.database ++ (parameter ++ p.sslmode))))))

/-- What stands before the first of a character, and what stands after it. -/
def cutAt? (c : Char) (cs : List Char) : Option (List Char × List Char) :=
  match cs.dropWhile (· ≠ c) with
  | [] => none
  | _ :: rest => some (cs.takeWhile (· ≠ c), rest)

/-- The parts that an address is cut into, each delimiter where it first comes. -/
def split? (cs : List Char) : Option Parts := do
  let rest ← dropStart? scheme cs
  let (user, rest) ← cutAt? ':' rest
  let (password, rest) ← cutAt? '@' rest
  let (host, rest) ← cutAt? ':' rest
  let (port, rest) ← cutAt? '/' rest
  let database := rest.takeWhile (· ≠ '?')
  let sslmode ← dropStart? parameter (rest.dropWhile (· ≠ '?'))
  some { user, password, host, port, database, sslmode }

/-- No part has a delimiter in it. -/
structure IsPlain (p : Parts) : Prop where
  user : ∀ c ∈ p.user, isDelimiter c = false
  password : ∀ c ∈ p.password, isDelimiter c = false
  host : ∀ c ∈ p.host, isDelimiter c = false
  port : ∀ c ∈ p.port, isDelimiter c = false
  database : ∀ c ∈ p.database, isDelimiter c = false
  sslmode : ∀ c ∈ p.sslmode, isDelimiter c = false

/-! ### Cutting and joining -/

theorem cut_of_plain {part rest : List Char} {c : Char}
    (hpart : ∀ c ∈ part, isDelimiter c = false) (hc : isDelimiter c = true) :
    (part ++ c :: rest).takeWhile (· ≠ c) = part ∧
      (part ++ c :: rest).dropWhile (· ≠ c) = c :: rest := by
  have hne : ∀ d ∈ part, (d ≠ c) := by
    rintro d hd rfl
    rw [hpart d hd] at hc
    cases hc
  constructor
  · rw [List.takeWhile_append_of_pos (by simpa using hne)]
    simp
  · rw [List.dropWhile_append_of_pos (by simpa using hne)]
    simp

theorem cutAt?_of_plain {part rest : List Char} {c : Char}
    (hpart : ∀ c ∈ part, isDelimiter c = false)
    (hc : isDelimiter c = true) : cutAt? c (part ++ c :: rest) = some (part, rest) := by
  obtain ⟨htake, hdrop⟩ := @cut_of_plain part rest c hpart hc
  rw [cutAt?, hdrop, htake]

theorem dropStart?_append (start rest : List Char) :
    dropStart? start (start ++ rest) = some rest := by
  rw [dropStart?, if_pos (by simp), List.drop_left]

variable {p q : Parts}

/-- Parts without delimiters are those that their text is cut into. -/
theorem IsPlain.split?_text (h : p.IsPlain) : split? p.text = some p := by
  have hquestion : parameter ++ p.sslmode = '?' :: ("sslmode=".toList ++ p.sslmode) := rfl
  obtain ⟨htake, hdrop⟩ := @cut_of_plain p.database ("sslmode=".toList ++ p.sslmode) '?'
    h.database (by decide)
  rw [split?, text, dropStart?_append]
  simp only [Option.bind_eq_bind, Option.bind_some,
    cutAt?_of_plain h.user (by decide : isDelimiter ':' = true),
    cutAt?_of_plain h.password (by decide : isDelimiter '@' = true),
    cutAt?_of_plain h.host (by decide : isDelimiter ':' = true),
    cutAt?_of_plain h.port (by decide : isDelimiter '/' = true)]
  rw [hquestion, htake, hdrop, ← hquestion, dropStart?_append]
  rfl

theorem isPlain_iff : p.IsPlain ↔ p.text.countP isDelimiter = 8 := by
  have hscheme : scheme.countP isDelimiter = 3 := by decide
  have hparameter : parameter.countP isDelimiter = 1 := by decide
  have hcolon : isDelimiter ':' = true := by decide
  have hat : isDelimiter '@' = true := by decide
  have hslash : isDelimiter '/' = true := by decide
  have hnone : ∀ part : List Char, (∀ c ∈ part, isDelimiter c = false) ↔
      part.countP isDelimiter = 0 := by
    intro part
    simp [List.countP_eq_zero]
  simp only [text, List.countP_append, List.countP_cons, hscheme, hparameter, hcolon, hat,
    hslash, if_true]
  constructor
  · rintro ⟨huser, hpassword, hhost, hport, hdatabase, hsslmode⟩
    rw [hnone] at *
    omega
  · intro h
    constructor <;> rw [hnone] <;> omega

/-- The text that such parts stand in is the text of no others. -/
theorem IsPlain.eq_of_text_eq (h : p.IsPlain) (heq : q.text = p.text) : q = p := by
  -- whatever stands in the same text has as many delimiters, and so none to spare
  have hq : q.IsPlain := by
    rw [isPlain_iff, heq]
    exact isPlain_iff.1 h
  have hsplit := hq.split?_text
  rw [heq, h.split?_text] at hsplit
  exact (Option.some_inj.1 hsplit).symm

/-- The settings that parts stand for: the host and the port are written as they are, the
others are escaped. -/
def read? (p : Parts) : Option Dsn := do
  let user ← Percent.read? p.user
  let password ← Percent.read? p.password
  let database ← Percent.read? p.database
  let sslmode ← Percent.read? p.sslmode
  some
    { host := String.ofList p.host, port := String.ofList p.port, user := String.ofList user,
      password := String.ofList password, database := String.ofList database,
      sslmode := String.ofList sslmode }

end Parts

/-! ### Addresses -/

/-- The host and the port have no delimiters. -/
def IsPlain (d : Dsn) : Prop := ∀ c ∈ d.host.toList ++ d.port.toList, isDelimiter c = false

instance (d : Dsn) : Decidable d.IsPlain :=
  List.decidableBAll _ (d.host.toList ++ d.port.toList)

/-- The parts that the address of some settings is made of. -/
def parts (d : Dsn) : Parts where
  user := Percent.encode Percent.isUnreserved d.user.toList
  password := Percent.encode Percent.isUnreserved d.password.toList
  host := d.host.toList
  port := d.port.toList
  database := Percent.encode Percent.isUnreserved d.database.toList
  sslmode := Percent.encode Percent.isUnreserved d.sslmode.toList

variable {d : Dsn}

theorem toList_text (d : Dsn) : d.text.toList = d.parts.text := by
  have hmarks : ":".toList = [':'] ∧ "@".toList = ['@'] ∧ "/".toList = ['/'] := ⟨rfl, rfl, rfl⟩
  have hwords : "postgres://".toList = Parts.scheme ∧ "?sslmode=".toList = Parts.parameter :=
    ⟨rfl, rfl⟩
  have htext : d.text = "postgres://" ++ Percent.encodeComponent d.user ++ ":" ++
      Percent.encodeComponent d.password ++ "@" ++ d.host ++ ":" ++ d.port ++ "/" ++
      Percent.encodeComponent d.database ++ "?sslmode=" ++ Percent.encodeComponent d.sslmode :=
        rfl
  simp only [htext, Parts.text, parts, Percent.encodeComponent, String.toList_append,
    String.toList_ofList, hmarks, hwords, List.append_assoc, List.cons_append, List.nil_append]

/-- What is escaped has no delimiters. -/
theorem isDelimiter_of_mem_encode {cs : List Char} :
    ∀ c ∈ Percent.encode Percent.isUnreserved cs, isDelimiter c = false := by
  have hkept : ∀ c ∈ delimiters, (!Percent.isUnreserved c) = true :=
    List.all_eq_true.1 (by decide +kernel)
  have hdigit : ∀ n < 16, isDelimiter (upperDigit n) = false := by decide
  intro c hc
  rcases Percent.mem_encode hc with hunreserved | rfl | ⟨n, hn, rfl⟩
  · rw [Bool.eq_false_iff]
    intro hdelimiter
    have hescaped := hkept c (List.contains_iff_mem.1 hdelimiter)
    rw [hunreserved] at hescaped
    cases hescaped
  · rfl
  · exact hdigit n hn

theorem IsPlain.parts (h : d.IsPlain) : d.parts.IsPlain where
  user := isDelimiter_of_mem_encode
  password := isDelimiter_of_mem_encode
  host c hc := h c (List.mem_append_left _ hc)
  port c hc := h c (List.mem_append_right _ hc)
  database := isDelimiter_of_mem_encode
  sslmode := isDelimiter_of_mem_encode

theorem read?_parts (d : Dsn) : d.parts.read? = some d := by
  have hpercent : Percent.isUnreserved '%' = false := by decide +kernel
  have huser := Percent.read?_encode hpercent d.user.toList
  have hpassword := Percent.read?_encode hpercent d.password.toList
  have hdatabase := Percent.read?_encode hpercent d.database.toList
  have hsslmode := Percent.read?_encode hpercent d.sslmode.toList
  rw [Parts.read?, parts, huser, hpassword, hdatabase, hsslmode]
  simp only [Option.bind_eq_bind, Option.bind_some, String.ofList_toList]

end Dsn

/-- The address of a plain host and port is cut, at the first of each delimiter in turn, into
parts that it is the text of, and into no other parts can it be cut; they stand for the
settings that it was made of, so no other settings have this address; and under another user
and another password the host, the port and all that follows are cut from it unchanged. -/
theorem addresses_read_back (d : Dsn) (hplain : d.IsPlain) :
    ∃ p : Dsn.Parts, Dsn.Parts.split? d.text.toList = some p ∧
      (∀ q : Dsn.Parts, q.text = d.text.toList ↔ q = p) ∧
      (p.read? = some d ∧ p.host = d.host.toList ∧ p.port = d.port.toList) ∧
      (∀ d' : Dsn, d'.IsPlain → d'.text = d.text → d' = d) ∧
      ∀ user password : String, ∃ q : Dsn.Parts,
        Dsn.Parts.split? (Dsn.text { d with user, password }).toList = some q ∧
          q.host = p.host ∧ q.port = p.port ∧ q.database = p.database ∧
            q.sslmode = p.sslmode := by
  have hsplit : ∀ d' : Dsn, d'.IsPlain → Dsn.Parts.split? d'.text.toList = some d'.parts := by
    intro d' hd'
    rw [d'.toList_text, hd'.parts.split?_text]
  refine ⟨d.parts, hsplit d hplain, fun q => ⟨fun hq => ?_, ?_⟩,
    ⟨d.read?_parts, rfl, rfl⟩, ?_, ?_⟩
  · rw [d.toList_text] at hq
    exact hplain.parts.eq_of_text_eq hq
  · rintro rfl
    exact d.toList_text.symm
  · intro d' hplain' htext
    have hparts : some d'.parts = some d.parts := by
      rw [← hsplit d' hplain', ← hsplit d hplain, htext]
    have hread := d'.read?_parts
    rw [Option.some_inj.1 hparts, d.read?_parts] at hread
    exact (Option.some_inj.1 hread).symm
  · intro user password
    exact ⟨_, hsplit { d with user, password } hplain, rfl, rfl, rfl, rfl⟩

/-- Settings whose user, password and database try to be an address of their own. -/
def hostileSettings : Dsn :=
  { host := "db.test", port := "5432", user := "a:b@c/%40",
    password := "@evil.test:1/x?sslmode=off#é😀",
    database := "t?sslmode=disable", sslmode := "verify-full" }

theorem addresses_read_back_hostile :
    hostileSettings.IsPlain ∧
      (∃ p, Dsn.Parts.split? hostileSettings.text.toList = some p ∧
        p.read? = some hostileSettings ∧ p.host = "db.test".toList ∧ p.port = "5432".toList) ∧
      hostileSettings.text = "postgres://a%3Ab%40c%2F%2540:" ++
        "%40evil.test%3A1%2Fx%3Fsslmode%3Doff%23%C3%A9%F0%9F%98%80" ++
        "@db.test:5432/t%3Fsslmode%3Ddisable?sslmode=verify-full" := by
  have hplain : hostileSettings.IsPlain := by decide +kernel
  obtain ⟨p, hsplit, -, ⟨hread, hhost, hport⟩, -⟩ := addresses_read_back hostileSettings hplain
  exact ⟨hplain, ⟨p, hsplit, hread, hhost, hport⟩, by decide +kernel⟩

end TodoServer
