/-
The order of listings.

Listings go from the newest todo to the oldest, and among todos of one time from the greatest
id to the least. The comparison that sorts them is a total order only on todos that have a time
and an id to go by; on those it is the order of pairs of a number and a text, and a list sorted
by it is told by which todos are in it. So what follows a todo in a listing is what comes after
it in the order, and need not be looked for by its place.

* `Todo.Newer` — one todo comes strictly before another;
* `Todo.listingOrder_eq_lt_iff` — the comparison finds just that;
* `Todo.pairwise_newer_mergeSort` — a sorted list goes strictly from newer to older;
* `Todo.mem_after_iff` — what follows a todo in a sorted list is what it is newer than.
-/
import Mathlib.Data.List.Sort
import Mathlib.Data.Prod.Lex
import TodoServer.Proofs.Text.Order
import TodoServer.Todo.Basic

namespace TodoServer

/-- A list sorted by a comparison that is one of keys has its keys in descending order. -/
theorem pairwise_mergeSort_of_key {α κ : Type} [LinearOrder κ] {l : List α} {le : α → α → Bool}
    (key : α → κ) (h : ∀ a ∈ l, ∀ b ∈ l, le a b = decide (key b ≤ key a)) :
    (l.mergeSort le).Pairwise fun a b => key b ≤ key a := by
  -- on the list the comparison is one that is a total order everywhere
  have hsort : l.mergeSort le = l.mergeSort fun a b => decide (key b ≤ key a) := by
    have hmap := List.map_mergeSort (f := id) (s := fun a b => decide (key b ≤ key a)) h
    simpa using hmap
  rw [hsort]
  refine (List.pairwise_mergeSort ?_ ?_ l).imp fun h => of_decide_eq_true h
  · intro a b c hab hbc
    exact decide_eq_true ((of_decide_eq_true hbc).trans (of_decide_eq_true hab))
  · intro a b
    simp [le_total]

namespace Todo

variable {a b c : Todo} {s t : Int} {x y : Text}

/-- The time of a todo's creation and its id, where they are of the kind that was meant. -/
def Keyed (todo : Todo) (millis : Int) (id : Text) : Prop :=
  todo.createdAt = .date (.valid millis) ∧ todo.id = .text id

/-- One todo comes strictly before another in listings: it was created later, or at the same
time under a greater id. -/
def Newer (a b : Todo) : Prop :=
  ∃ s x t y, a.Keyed s x ∧ b.Keyed t y ∧ (t < s ∨ t = s ∧ y < x)

theorem Keyed.unique (h : a.Keyed s x) (h' : a.Keyed t y) : s = t ∧ x = y := by
  obtain ⟨hs, hx⟩ := h
  obtain ⟨ht, hy⟩ := h'
  rw [hs] at ht
  rw [hx] at hy
  cases ht
  cases hy
  exact ⟨rfl, rfl⟩

theorem newer_iff_of_keyed (ha : a.Keyed s x) (hb : b.Keyed t y) :
    a.Newer b ↔ t < s ∨ t = s ∧ y < x := by
  constructor
  · rintro ⟨s', x', t', y', ha', hb', h⟩
    obtain ⟨rfl, rfl⟩ := ha.unique ha'
    obtain ⟨rfl, rfl⟩ := hb.unique hb'
    exact h
  · intro h
    exact ⟨s, x, t, y, ha, hb, h⟩

/-- A time and an id, as a pair in the order that listings go against. -/
def listingKey (todo : Todo) : Int ×ₗ List ℕ :=
  toLex (todo.created.millis?.getD 0, todo.id.words.codes)

theorem listingKey_of_keyed (h : a.Keyed s x) : a.listingKey = toLex (s, x.codes) := by
  rw [listingKey, created, h.1, h.2]
  rfl

theorem newer_iff_listingKey_lt (ha : a.Keyed s x) (hb : b.Keyed t y) :
    a.Newer b ↔ b.listingKey < a.listingKey := by
  rw [newer_iff_of_keyed ha hb, listingKey_of_keyed ha, listingKey_of_keyed hb,
    Prod.Lex.toLex_lt_toLex, Text.lt_iff_codes_lt]

/-- Where todos have a time and an id to go by, the comparison is one of these, the greater
first. -/
theorem listingOrder_of_keyed (ha : a.Keyed s x) (hb : b.Keyed t y) :
    a.listingOrder b = cmp b.listingKey a.listingKey := by
  have hcompare : Date.compare b.created a.created = compare t s := by
    rw [created, created, ha.1, hb.1]
    rfl
  have hwords : a.id.words = x ∧ b.id.words = y := by
    rw [ha.2, hb.2]
    exact ⟨rfl, rfl⟩
  rw [listingOrder, hcompare, hwords.1, hwords.2, listingKey_of_keyed ha,
    listingKey_of_keyed hb]
  rcases lt_trichotomy t s with hlt | rfl | hgt
  · have hkey : toLex (t, y.codes) < toLex (s, x.codes) :=
      Prod.Lex.toLex_lt_toLex.2 (Or.inl hlt)
    rw [compare_lt_iff_lt.2 hlt, (cmp_eq_lt_iff _ _).2 hkey]
  · -- at one time the ids decide
    rw [compare_eq_iff_eq.2 rfl]
    rcases lt_trichotomy y.codes x.codes with hlt | heq | hgt
    · have hkey : toLex (t, y.codes) < toLex (t, x.codes) :=
        Prod.Lex.toLex_lt_toLex.2 (Or.inr ⟨rfl, hlt⟩)
      have hne : x ≠ y := by
        rintro rfl
        exact lt_irrefl _ hlt
      rw [(cmp_eq_lt_iff _ _).2 hkey]
      simp only [if_neg hne, if_pos (Text.lt_iff_codes_lt.2 hlt)]
    · rw [heq, cmp_self_eq_eq]
      simp only [if_pos (Text.codes_injective heq).symm]
    · have hkey : toLex (t, x.codes) < toLex (t, y.codes) :=
        Prod.Lex.toLex_lt_toLex.2 (Or.inr ⟨rfl, hgt⟩)
      have hne : x ≠ y := by
        rintro rfl
        exact lt_irrefl _ hgt
      have hnot : ¬y < x := fun h => lt_asymm (Text.lt_iff_codes_lt.1 h) hgt
      rw [(cmp_eq_gt_iff _ _).2 hkey]
      simp only [if_neg hne, if_neg hnot]
  · have hkey : toLex (s, x.codes) < toLex (t, y.codes) :=
      Prod.Lex.toLex_lt_toLex.2 (Or.inl hgt)
    rw [compare_gt_iff_gt.2 hgt, (cmp_eq_gt_iff _ _).2 hkey]

theorem listingOrder_eq_lt_iff (ha : a.Keyed s x) (hb : b.Keyed t y) :
    a.listingOrder b = .lt ↔ a.Newer b := by
  rw [listingOrder_of_keyed ha hb, cmp_eq_lt_iff, newer_iff_listingKey_lt ha hb]

theorem precedes_of_keyed (ha : a.Keyed s x) (hb : b.Keyed t y) :
    a.precedes b = decide (b.listingKey ≤ a.listingKey) := by
  rw [precedes, listingOrder_of_keyed ha hb, Bool.eq_iff_iff, decide_eq_true_iff,
    decide_eq_true_iff, Ne, cmp_eq_gt_iff, not_lt]

theorem Newer.keyed (h : a.Newer b) : (∃ s x, a.Keyed s x) ∧ ∃ t y, b.Keyed t y := by
  obtain ⟨s, x, t, y, ha, hb, -⟩ := h
  exact ⟨⟨s, x, ha⟩, ⟨t, y, hb⟩⟩

theorem Newer.trans (hab : a.Newer b) (hbc : b.Newer c) : a.Newer c := by
  obtain ⟨⟨s, x, ha⟩, ⟨t, y, hb⟩⟩ := hab.keyed
  obtain ⟨-, ⟨r, z, hc⟩⟩ := hbc.keyed
  rw [newer_iff_listingKey_lt ha hb] at hab
  rw [newer_iff_listingKey_lt hb hc] at hbc
  rw [newer_iff_listingKey_lt ha hc]
  exact hbc.trans hab

theorem Newer.asymm (h : a.Newer b) : ¬b.Newer a := by
  obtain ⟨⟨s, x, ha⟩, ⟨t, y, hb⟩⟩ := h.keyed
  rw [newer_iff_listingKey_lt ha hb] at h
  rw [newer_iff_listingKey_lt hb ha]
  exact h.asymm

theorem Newer.ne (h : a.Newer b) : a ≠ b := by
  rintro rfl
  exact h.asymm h

instance : Std.Antisymm Newer := ⟨fun _ _ h h' => absurd h' h.asymm⟩

instance : Std.Irrefl Newer := ⟨fun _ h => h.asymm h⟩

/-- Todos that differ in their ids go strictly from newer to older once they are sorted. -/
theorem pairwise_newer_mergeSort {todos : List Todo}
    (hkeyed : ∀ todo ∈ todos, ∃ millis id, todo.Keyed millis id)
    (hdistinct : (todos.map Todo.id).Nodup) :
    (todos.mergeSort Todo.precedes).Pairwise Newer := by
  have hsorted : (todos.mergeSort Todo.precedes).Pairwise fun a b =>
      b.listingKey ≤ a.listingKey := by
    refine pairwise_mergeSort_of_key listingKey fun a ha b hb => ?_
    obtain ⟨s, x, ha⟩ := hkeyed a ha
    obtain ⟨t, y, hb⟩ := hkeyed b hb
    exact precedes_of_keyed ha hb
  have hperm := List.mergeSort_perm todos Todo.precedes
  have hne : (todos.mergeSort Todo.precedes).Pairwise fun a b => a.id ≠ b.id :=
    List.pairwise_map.1 ((hperm.map Todo.id).nodup_iff.2 hdistinct)
  refine (hsorted.and hne).imp_of_mem fun ha hb h => ?_
  obtain ⟨s, x, ha⟩ := hkeyed _ (hperm.mem_iff.1 ha)
  obtain ⟨t, y, hb⟩ := hkeyed _ (hperm.mem_iff.1 hb)
  rw [newer_iff_listingKey_lt ha hb]
  refine lt_of_le_of_ne h.1 fun heq => h.2 ?_
  -- keys that are the same would be of one id
  rw [listingKey_of_keyed ha, listingKey_of_keyed hb] at heq
  have hid : x = y := Text.codes_injective (congrArg (fun k => (ofLex k).2) heq).symm
  rw [ha.2, hb.2, hid]

theorem pairwise_after {before after : List Todo} {anchor : Todo}
    (hsorted : (before ++ anchor :: after).Pairwise Newer) : after.Pairwise Newer :=
  hsorted.sublist ((List.sublist_cons_self _ _).trans (List.sublist_append_right _ _))

/-- What follows a todo in a sorted list is what it is newer than. -/
theorem mem_after_iff {before after : List Todo} {anchor todo : Todo}
    (hsorted : (before ++ anchor :: after).Pairwise Newer) :
    todo ∈ after ↔ todo ∈ before ++ anchor :: after ∧ anchor.Newer todo := by
  obtain ⟨-, hrest, hbefore⟩ := List.pairwise_append.1 hsorted
  obtain ⟨hafter, -⟩ := List.pairwise_cons.1 hrest
  constructor
  · intro h
    exact ⟨List.mem_append_right _ (List.mem_cons_of_mem _ h), hafter todo h⟩
  · rintro ⟨h, hnewer⟩
    rcases List.mem_append.1 h with h | h
    · exact absurd hnewer (hbefore todo h anchor List.mem_cons_self).asymm
    · rcases List.mem_cons.1 h with rfl | h
      · exact absurd rfl hnewer.ne
      · exact h

end Todo

end TodoServer
