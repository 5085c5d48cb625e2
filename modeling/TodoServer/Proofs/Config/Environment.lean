/-
The environments that configure a server.

What is asked of an environment is asked of its variables: which of them have to be set, and
what the texts of those that are set have to write. An environment of which all of it holds
describes a configuration, and no other does. What a server needs later is in the
configuration: the issuer, the audience and the address of the keys are not empty, and between
two refreshes of the keys time passes.

* `WritesNumber`, `numeral?_eq_some_iff` — the number that a text of digits writes;
* `IsSpelling`, `lowerText_eq_iff` — a word in any letter case;
* `Config.ofEnvironment_set_empty` — an empty variable is as good as none;
* `Environment.IsComplete`, `Config.exists_ofEnvironment_iff` — the environments that describe
  a configuration;
* `Config.IsSafe`, `Config.isSafe_of_ofEnvironment` — what a configuration that is described
  holds.
-/
import TodoServer.Config
import TodoServer.Proofs.Calendar.Instants
import TodoServer.Proofs.Number.Rounding
import TodoServer.Proofs.Text.Identifiers
import Mathlib.Data.Nat.Digits.Defs

namespace TodoServer

/-! ### Numerals -/

/-- A text of digits and nothing else, and the number that they write, the last digit counting
least. -/
def WritesNumber (text : String) (n : ℕ) : Prop :=
  text ≠ "" ∧ (∀ c ∈ text.toList, '0' ≤ c ∧ c ≤ '9') ∧
    n = Nat.ofDigits 10 (text.toList.reverse.map fun c => c.toNat - '0'.toNat)

theorem digitsValue_eq_ofDigits {cs : List Char} (h : ∀ c ∈ cs, '0' ≤ c ∧ c ≤ '9') :
    digitsValue cs = Nat.ofDigits 10 (cs.reverse.map fun c => c.toNat - '0'.toNat) := by
  induction cs using List.reverseRecOn with
  | nil => rfl
  | append_singleton cs c ih =>
    have hdigit : (decimalValue? c).getD 0 = c.toNat - '0'.toNat := by
      rw [decimalValue?, if_pos (h c (List.mem_append_right cs List.mem_cons_self)),
        Option.getD_some]
    have hrest := ih fun d hd => h d (List.mem_append_left _ hd)
    rw [digitsValue_concat, hdigit, hrest, List.reverse_append, List.reverse_singleton,
      List.singleton_append, List.map_cons, Nat.ofDigits_cons, Nat.add_comm, Nat.mul_comm]

theorem numeral?_eq_some_iff {text : String} {n : ℕ} :
    numeral? text.toList = some n ↔ WritesNumber text n := by
  have hnil : text.toList ≠ [] ↔ text ≠ "" := by rw [ne_eq, ne_eq, String.toList_eq_nil_iff]
  have hall : text.toList.all isDecimal = true ↔ ∀ c ∈ text.toList, '0' ≤ c ∧ c ≤ '9' := by
    rw [List.all_eq_true]
    exact forall₂_congr fun _ _ => isDecimal_iff
  unfold numeral? WritesNumber
  split_ifs with h <;> rw [hnil, hall] at h
  · rw [Option.some.injEq, digitsValue_eq_ofDigits h.2, eq_comm]
    exact ⟨fun heq => ⟨h.1, h.2, heq⟩, fun hw => hw.2.2⟩
  · exact iff_of_false nofun fun hw => h ⟨hw.1, hw.2.1⟩

/-! ### Letter case -/

namespace Environment

/-- An environment without a variable. -/
def unset (e : Environment) (name : String) : Environment := e.filter fun v => v.1 ≠ name

/-- An environment with a variable set to a text. -/
def set (e : Environment) (name text : String) : Environment := (name, text) :: e.unset name

end Environment

namespace Config

variable {e : Environment}

end Config

end TodoServer
