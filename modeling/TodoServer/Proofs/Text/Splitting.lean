/-
Parts between separators.

Paths are cut at their slashes and tokens at their points, and both are told apart by the parts
that come of it. Cutting and joining are inverse to each other as long as no part has a
separator in it.

* `notMem_of_mem_splitOn` — no part has a separator in it;
* `splitOn_eq_iff` — the parts that come of a cut are those that are joined to what was cut;
* `intercalate_cons` — after the first part, each has a separator before it.
-/
import Mathlib.Data.List.Basic

namespace TodoServer

section

variable {α : Type} {separator : α}

/-- A part of what is cut at separators has none in it. -/
theorem notMem_of_mem_splitOn [DecidableEq α] {units part : List α}
    (h : part ∈ units.splitOn separator) :
    separator ∉ part := by
  induction units generalizing part with
  | nil =>
    rw [List.splitOn_nil] at h
    rw [List.mem_singleton.1 h]
    exact List.not_mem_nil
  | cons unit rest ih =>
    rw [List.splitOn_cons_eq_if_modifyHead] at h
    obtain ⟨first, others, hsplit⟩ :=
      List.exists_cons_of_ne_nil (List.splitOn_ne_nil separator rest)
    rw [hsplit] at h ih
    split_ifs at h with hseparator
    · rcases List.mem_cons.1 h with rfl | h
      · exact List.not_mem_nil
      · exact ih h
    · rcases List.mem_cons.1 h with rfl | h
      · have hne : unit ≠ separator := by simpa using hseparator
        simp only [List.mem_cons, not_or]
        exact ⟨fun he => hne he.symm, ih List.mem_cons_self⟩
      · exact ih (List.mem_cons_of_mem _ h)

/-- What is cut is its parts joined again. -/
theorem eq_intercalate_of_splitOn [DecidableEq α] {units : List α} {parts : List (List α)}
    (h : units.splitOn separator = parts) : units = [separator].intercalate parts := by
  rw [← h, List.intercalate_splitOn]

/-- The parts that come of a cut are those without a separator that are joined to what was
cut. -/
theorem splitOn_eq_iff [DecidableEq α] {units : List α} {parts : List (List α)}
    (hne : parts ≠ []) :
    units.splitOn separator = parts ↔
      units = [separator].intercalate parts ∧ ∀ part ∈ parts, separator ∉ part := by
  constructor
  · rintro rfl
    exact ⟨eq_intercalate_of_splitOn rfl, fun _ => notMem_of_mem_splitOn⟩
  · rintro ⟨rfl, hparts⟩
    exact List.splitOn_intercalate separator hparts hne

/-- Parts set off by separators: after the first one, each has a separator before it. -/
theorem intercalate_cons (first : List α) (rest : List (List α)) :
    [separator].intercalate (first :: rest) =
      first ++ rest.flatMap fun part => separator :: part := by
  induction rest generalizing first with
  | nil => simp
  | cons part rest ih =>
    rw [List.intercalate_cons_cons, ih, List.flatMap_cons]
    simp

theorem mem_intercalate {unit : α} {part : List α} {parts : List (List α)}
    (hpart : part ∈ parts) (hunit : unit ∈ part) : unit ∈ [separator].intercalate parts := by
  cases parts with
  | nil => cases hpart
  | cons first rest =>
    rw [intercalate_cons, List.mem_append]
    rcases List.mem_cons.1 hpart with rfl | hrest
    · exact Or.inl hunit
    · exact Or.inr (List.mem_flatMap.2 ⟨part, hrest, List.mem_cons_of_mem _ hunit⟩)

end

end TodoServer
