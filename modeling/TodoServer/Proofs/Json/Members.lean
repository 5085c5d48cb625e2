/-
What a record holds of named values.

Named values are put into a record one after the other, and a later one takes the place of an
earlier one under its name. So a record has each name once, with the last value that there is
under it, and the order in which it lists its members changes nothing of that. A document is
written with the members of all its objects in this order; what is written is thus a record of
the value, and read back as one.

* `Json.held`, `Json.mem_memberOrder` — the last value under a name, and what the members of a
  record are;
* `Json.Value.Recorded` — what a record of a value holds;
* `Json.Value.recorded_ordered` — the order of a record keeps what it holds.
-/
import Mathlib.Data.List.Induction
import Mathlib.Data.List.Nodup
import TodoServer.Json.Basic

namespace TodoServer.Json

/-! ### Values put one after the other -/

section record

variable {α β : Type} {members : List (Text × α)} {m : Text × α} {name : Text} {value : α}

/-- The last value under a name. -/
def held (members : List (Text × α)) (name : Text) : Option α :=
  (members.reverse.find? fun m => m.1 = name).map (·.2)

theorem lookup_eq_held (members : List Member) : lookup members = held members := rfl

theorem held_concat (members : List (Text × α)) (m : Text × α) (name : Text) :
    held (members ++ [m]) name = if m.1 = name then some m.2 else held members name := by
  rw [held, List.reverse_append, List.reverse_singleton, List.singleton_append,
    List.find?_cons]
  by_cases hname : m.1 = name
  · simp [hname]
  · simp [hname, held]

theorem held_map (members : List (Text × α)) (f : α → β) (name : Text) :
    held (members.map fun m => (m.1, f m.2)) name = (held members name).map f := by
  induction members using List.reverseRecOn with
  | nil => rfl
  | append_singleton rest m ih =>
    rw [List.map_append, List.map_singleton, held_concat, held_concat, ih]
    split_ifs <;> rfl

theorem mem_of_held (h : held members name = some value) : (name, value) ∈ members := by
  obtain ⟨m, hfind, rfl⟩ := Option.map_eq_some_iff.1 h
  obtain rfl : m.1 = name := by simpa using List.find?_some hfind
  exact List.mem_reverse.1 (List.mem_of_find?_eq_some hfind)

/-- Where no name is repeated, each value is the last one under its name. -/
theorem held_eq_some_iff (h : (members.map (·.1)).Nodup) :
    held members name = some value ↔ (name, value) ∈ members := by
  refine ⟨mem_of_held, fun hmem => ?_⟩
  induction members using List.reverseRecOn with
  | nil => cases hmem
  | append_singleton rest m ih =>
    rw [List.map_append, List.nodup_append'] at h
    rw [held_concat]
    rcases List.mem_append.1 hmem with hrest | hlast
    · have hne : m.1 ≠ name := fun hname =>
        h.2.2 (List.mem_map_of_mem hrest) (by simp [hname])
      rw [if_neg hne, ih h.1 hrest]
    · rw [← List.mem_singleton.1 hlast, if_pos rfl]

/-- Where a value is put, the other ones under its name are gone. -/
theorem mem_put : (name, value) ∈ put members m ↔
    (name, value) = m ∨ m.1 ≠ name ∧ (name, value) ∈ members := by
  rw [put]
  split_ifs with hany
  · -- every value that is there under the name gives way, and there is one
    obtain ⟨old, hold, hname⟩ := List.any_eq_true.1 hany
    rw [List.mem_map]
    constructor
    · rintro ⟨m', hm', heq⟩
      split_ifs at heq with hsame
      · exact Or.inl heq.symm
      · subst heq
        exact Or.inr ⟨Ne.symm hsame, hm'⟩
    · rintro (rfl | ⟨hne, hmem⟩)
      · exact ⟨old, hold, if_pos (by simpa using hname)⟩
      · exact ⟨_, hmem, if_neg hne.symm⟩
  · have hnew : (name, value) ∈ members → m.1 ≠ name := fun hmem hname =>
      hany (List.any_eq_true.2 ⟨_, hmem, by simp [hname]⟩)
    rw [List.mem_append, List.mem_singleton]
    tauto

theorem nodup_put (h : (members.map (·.1)).Nodup) : ((put members m).map (·.1)).Nodup := by
  rw [put]
  split_ifs with hany
  · have hnames : (members.map fun m' => if m'.1 = m.1 then m else m').map (·.1) =
        members.map (·.1) := by
      rw [List.map_map]
      refine List.map_congr_left fun m' _ => ?_
      show (if m'.1 = m.1 then m else m').1 = m'.1
      split_ifs with hsame
      · exact hsame.symm
      · rfl
    rwa [hnames]
  · rw [List.map_append, List.map_singleton, List.nodup_append']
    refine ⟨h, List.nodup_singleton _, fun name hname hlast => hany ?_⟩
    obtain ⟨old, hold, rfl⟩ := List.mem_map.1 hname
    exact List.any_eq_true.2 ⟨old, hold, by simpa using hlast⟩

/-- What has been put holds under each name the last value. -/
theorem mem_foldl_put : (name, value) ∈ members.foldl put [] ↔
    held members name = some value := by
  induction members using List.reverseRecOn with
  | nil => simp [held]
  | append_singleton rest m ih =>
    rw [List.foldl_append, List.foldl_cons, List.foldl_nil, mem_put, ih, held_concat]
    split_ifs with hname
    · subst hname
      simp [Prod.ext_iff, eq_comm]
    · have hne : (name, value) ≠ m := fun heq => hname (congrArg Prod.fst heq).symm
      simp [hne, hname]

theorem nodup_foldl_put (members : List (Text × α)) :
    ((members.foldl put []).map (·.1)).Nodup := by
  induction members using List.reverseRecOn with
  | nil => exact List.nodup_nil
  | append_singleton rest m ih =>
    rw [List.foldl_append]
    exact nodup_put ih

/-! ### Their order -/

/-- A record lists what has been put, the names that are indices first. -/
theorem memberOrder_perm (members : List (Text × α)) :
    (memberOrder members).Perm (members.foldl put []) := by
  generalize hsingle : members.foldl put [] = single
  -- what is sorted are the members whose names are indices
  have hindexed : (single.filterMap fun m => (index? m.1).map fun n => (n, m)).map (·.2) =
      single.filter fun m => (index? m.1).isSome := by
    rw [List.map_filterMap, ← List.filterMap_eq_filter]
    refine List.filterMap_congr fun m _ => ?_
    cases hindex : index? m.1 <;> simp [Option.guard, hindex]
  have hnone : (fun m : Text × α => (index? m.1).isNone) = fun m => !(index? m.1).isSome := by
    funext m
    simp
  have hsorted := ((single.filterMap fun m => (index? m.1).map fun n => (n, m)).mergeSort_perm
    fun a b => a.1 ≤ b.1).map (·.2)
  rw [memberOrder, hsingle, hnone]
  rw [hindexed] at hsorted
  exact (hsorted.append_right _).trans (List.filter_append_perm _ single)

/-- The members of a record: each name with the last value under it. -/
theorem mem_memberOrder : (name, value) ∈ memberOrder members ↔
    held members name = some value := by
  rw [(memberOrder_perm members).mem_iff, mem_foldl_put]

/-- No name is repeated in a record. -/
theorem nodup_memberOrder (members : List (Text × α)) :
    ((memberOrder members).map (·.1)).Nodup :=
  ((memberOrder_perm members).map _).nodup_iff.2 (nodup_foldl_put members)

theorem held_memberOrder (members : List (Text × α)) (name : Text) :
    held (memberOrder members) name = held members name :=
  Option.ext fun _ => (held_eq_some_iff (nodup_memberOrder members)).trans mem_memberOrder

end record

/-! ### Records of values -/

/-- A value and a record of it. The objects of a record have each name once, and hold under it
a record of what the value holds last under the name. -/
inductive Value.Recorded : Value → Value → Prop
  | null : Recorded .null .null
  | bool (b : Bool) : Recorded (.bool b) (.bool b)
  | number (n : Number) : Recorded (.number n) (.number n)
  | text (t : Text) : Recorded (.text t) (.text t)
  | array {items items' : List Value} (h : List.Forall₂ Recorded items items') :
    Recorded (.array items) (.array items')
  | object {members members' : List Member} (hnames : (members'.map (·.1)).Nodup)
    (h : ∀ name, Option.Rel Recorded (lookup members name) (lookup members' name)) :
    Recorded (.object members) (.object members')

theorem orderedItems_eq_map (items : List Value) :
    orderedItems items = items.map Value.ordered := by
  induction items with
  | nil => rfl
  | cons item rest ih => rw [orderedItems, ih, List.map_cons]

theorem orderedMembers_eq_map (members : List Member) :
    orderedMembers members = members.map fun m => (m.1, m.2.ordered) := by
  induction members with
  | nil => rfl
  | cons m rest ih => rw [orderedMembers, ih, List.map_cons]

theorem lookup_orderedMembers (members : List Member) (name : Text) :
    lookup (memberOrder (orderedMembers members)) name =
      (lookup members name).map Value.ordered := by
  rw [lookup_eq_held, lookup_eq_held, held_memberOrder, orderedMembers_eq_map, held_map]

mutual

/-- A value in the order of a record is a record of it. -/
theorem Value.recorded_ordered : ∀ value : Value, value.Recorded value.ordered
  | .null => .null
  | .bool b => .bool b
  | .number n => .number n
  | .text t => .text t
  | .array items => .array (recorded_orderedItems items)
  | .object members => by
    refine .object (nodup_memberOrder _) fun name => ?_
    rw [lookup_orderedMembers]
    rcases hlookup : lookup members name with _ | value
    · exact .none
    · exact .some (recorded_orderedMembers members _ (mem_of_held hlookup))

theorem recorded_orderedItems : ∀ items : List Value,
    List.Forall₂ Value.Recorded items (orderedItems items)
  | [] => .nil
  | item :: rest => .cons item.recorded_ordered (recorded_orderedItems rest)

theorem recorded_orderedMembers : ∀ members : List Member,
    ∀ m ∈ members, m.2.Recorded m.2.ordered
  | [], _, h => absurd h List.not_mem_nil
  | (_, value) :: rest, m, h => by
    rcases List.mem_cons.1 h with rfl | h
    · exact value.recorded_ordered
    · exact recorded_orderedMembers rest m h

end

end TodoServer.Json
