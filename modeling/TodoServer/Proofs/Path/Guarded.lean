/-
Every path of a todo is guarded.

The gate decides on the canonical form of a path and the routes are matched on the path itself,
so a path that reads differently in the two ways could be served without a caller. None does:
the canonical form of a path with a route about todos begins `/api/v1`, and what follows is
`todos`, nothing, or the last segment of a status path, but never `auth` with something after
it.

* `Route.Registered` — the routes and the paths they are registered under;
* `Route.ofPath?_eq_some_iff` — these are the routes that paths have;
* `Gate.isExempt_canonical_iff` — the paths that pass without identity, by their segments;
* `todo_routes_guarded` — no path of a todo route is exempt, and the health check is the only
  exempt path that has a route.
-/
import TodoServer.Server.Handlers
import TodoServer.Server.Stages
import TodoServer.Proofs.Identity.Screening
import TodoServer.Proofs.Path.Canonical

namespace TodoServer

open TodoServer.Path Http

/-! ### Routes -/

namespace Route

/-- The path of the collection of todos. -/
def collectionPath : Text := "/api/v1/todos"

/-- The routes and the paths they are registered under. The id of a todo is one segment that is
not empty, and may be anything else that has no slash in it. -/
inductive Registered : Text → Route → Prop
  | health : Registered "/health" .health
  | todos : Registered collectionPath .todos
  | todo {id : Text} (hne : id.units ≠ []) (hslash : slash ∉ id.units) :
    Registered ⟨collectionPath.units ++ slash :: id.units⟩ (.todo (idOfSegment id.units))
  | todoStatus {id : Text} (hne : id.units ≠ []) (hslash : slash ∉ id.units) :
    Registered ⟨collectionPath.units ++ slash :: (id.units ++ slash :: statusSegment.units)⟩
      (.todoStatus (idOfSegment id.units))

theorem splitOn_collectionPath :
    collectionPath.units.splitOn slash = todosStart.map Text.units := by
  decide +kernel

theorem splitOn_itemPath {id : List UInt16} (h : slash ∉ id) :
    (collectionPath.units ++ slash :: id).splitOn slash = todosStart.map Text.units ++
      [id] := by
  rw [List.splitOn_append_cons_self, splitOn_collectionPath, List.splitOn_eq_singleton h]

theorem splitOn_statusPath {id : List UInt16} (h : slash ∉ id) :
    (collectionPath.units ++ slash :: (id ++ slash :: statusSegment.units)).splitOn slash =
      todosStart.map Text.units ++ [id, statusSegment.units] := by
  rw [List.splitOn_append_cons_self, splitOn_collectionPath,
    List.splitOn_append_cons_self_of_not_mem h,
    List.splitOn_eq_singleton (show slash ∉ statusSegment.units by decide +kernel)]

/-- A path whose parts between slashes begin with those of the collection's path. -/
theorem units_eq_of_splitOn {path : Text} {rest : List (List UInt16)}
    (h : path.units.splitOn slash = todosStart.map Text.units ++ rest) :
    path.units = collectionPath.units ++ rest.flatMap fun part => slash :: part := by
  rw [eq_intercalate_of_splitOn h, eq_intercalate_of_splitOn splitOn_collectionPath]
  simp [todosStart, intercalate_cons]

/-- The route of a path whose parts between slashes are those of the collection's path and
more. -/
theorem ofPath?_of_splitOn {path : Text} {rest : List (List UInt16)} :
    path.units.splitOn slash = todosStart.map Text.units ++ rest →
      ofPath? path =
        match rest with
        | [] => some .todos
        | [id] => if id = [] then none else some (.todo (idOfSegment id))
        | [id, last] =>
          if id ≠ [] ∧ last = statusSegment.units then some (.todoStatus (idOfSegment id))
          else none
        | _ => none := by
  intro h
  have hhealth : todosStart.map Text.units ++ rest ≠ [[], healthSegment.units] := by
    intro he
    have hlen := congrArg List.length he
    simp [todosStart] at hlen
  have hprefix : (todosStart.map Text.units).isPrefixOf
      (todosStart.map Text.units ++ rest) := by
    rw [List.isPrefixOf_iff_prefix]
    exact List.prefix_append _ _
  unfold ofPath?
  simp only [h]
  rewrite [if_neg hhealth, if_pos hprefix, List.drop_left]
  rfl

/-- The routes of paths are those registered. -/
theorem ofPath?_eq_some_iff {path : Text} {route : Route} :
    ofPath? path = some route ↔ Registered path route := by
  constructor
  · intro h
    -- a path with a route is cut like the health check's, or like the collection's and more
    by_cases hhealth : path.units.splitOn slash = [[], healthSegment.units]
    · unfold ofPath? at h
      simp only [] at h
      rw [if_pos hhealth, Option.some_inj] at h
      subst h
      have hpath : path = "/health" := by
        have hunits := eq_intercalate_of_splitOn hhealth
        cases path with
        | mk units =>
          simp only at hunits
          rw [hunits]
          decide +kernel
      rw [hpath]
      exact .health
    · obtain ⟨rest, hrest⟩ : ∃ rest, path.units.splitOn slash =
        todosStart.map Text.units ++ rest := by
        unfold ofPath? at h
        simp only [] at h
        rw [if_neg hhealth] at h
        split_ifs at h with hprefix
        obtain ⟨rest, hrest⟩ := List.isPrefixOf_iff_prefix.1 hprefix
        exact ⟨rest, hrest.symm⟩
      have hunits := units_eq_of_splitOn hrest
      have hslash : ∀ part ∈ rest, slash ∉ part := fun part hpart =>
        notMem_of_mem_splitOn (hrest ▸ List.mem_append_right _ hpart)
      rw [ofPath?_of_splitOn hrest] at h
      cases path with
      | mk units =>
      simp only at hunits
      subst hunits
      match rest, h, hslash with
      | [], h, _ =>
        rw [Option.some_inj] at h
        subst h
        exact .todos
      | [id], h, hslash =>
        simp only at h
        split_ifs at h with hne
        rw [Option.some_inj] at h
        subst h
        simpa using @Registered.todo ⟨id⟩ hne (hslash id (by simp))
      | [id, last], h, hslash =>
        simp only at h
        split_ifs at h with hboth
        rw [Option.some_inj] at h
        subst h
        obtain ⟨hne, rfl⟩ := hboth
        simpa using @Registered.todoStatus ⟨id⟩ hne (hslash id (by simp))
      | _ :: _ :: _ :: _, h, _ => simp at h
  · intro h
    cases h with
    | health => decide +kernel
    | todos =>
      have hcut : collectionPath.units.splitOn slash = todosStart.map Text.units ++ [] := by
        rw [splitOn_collectionPath, List.append_nil]
      rw [ofPath?_of_splitOn hcut]
    | todo hne hslash =>
      rw [ofPath?_of_splitOn (splitOn_itemPath hslash)]
      simp [hne]
    | todoStatus hne hslash =>
      rw [ofPath?_of_splitOn (splitOn_statusPath hslash)]
      simp [hne]

end Route

/-! ### Exempt paths -/

namespace Gate

/-- The segments that the paths of authentication begin with. -/
def authStart : List Text := ["api", "v1", "auth"]

theorem splitOn_authPath :
    ("/api/v1/auth" : Text).units.splitOn slash = [] :: authStart.map Text.units := by
  decide +kernel

/-- The paths of authentication go on with one part at least after their start, which ends in a
slash. -/
theorem authPathStart_prefix_iff {units : List UInt16} :
    authPathStart.units <+: units ↔
      ∃ first rest, units.splitOn slash = [] ::
        (authStart.map Text.units ++ first :: rest) := by
  have hstart : authPathStart.units = ("/api/v1/auth" : Text).units ++
      [slash] := by decide +kernel
  constructor
  · rintro ⟨more, rfl⟩
    obtain ⟨first, rest, hmore⟩ := List.exists_cons_of_ne_nil (List.splitOn_ne_nil slash more)
    refine ⟨first, rest, ?_⟩
    rw [hstart, List.append_assoc, List.singleton_append, List.splitOn_append_cons_self,
      splitOn_authPath, hmore]
    rfl
  · rintro ⟨first, rest, hunits⟩
    refine ⟨[slash].intercalate (first :: rest), ?_⟩
    rw [eq_intercalate_of_splitOn hunits, hstart, eq_intercalate_of_splitOn splitOn_authPath]
    simp [intercalate_cons]

theorem canonical_eq_healthPath_iff (path : Text) :
    canonical path = healthPath ↔ segments path = [Route.healthSegment.units] := by
  have hparts : healthPath.units.splitOn slash = [[], Route.healthSegment.units] := by
    decide +kernel
  constructor
  · intro h
    have hcut := splitOn_canonical path
    rw [h, hparts] at hcut
    split_ifs at hcut with hnil
    · exact absurd hcut (by decide +kernel)
    · exact (List.cons.inj hcut).2.symm
  · intro h
    have hunits := canonical_units path
    rw [h] at hunits
    cases hc : canonical path with
    | mk units =>
      rw [hc] at hunits
      simp only at hunits
      rw [hunits]
      decide +kernel

/-- The paths that pass without identity, by the segments of their canonical form. -/
theorem isExempt_canonical_iff (path : Text) :
    isExempt (canonical path) = true ↔
      segments path = [Route.healthSegment.units] ∨
        ∃ first rest, segments path = authStart.map Text.units ++ first :: rest := by
  unfold isExempt
  rw [Bool.or_eq_true, decide_eq_true_iff, canonical_eq_healthPath_iff,
    List.isPrefixOf_iff_prefix, authPathStart_prefix_iff, splitOn_canonical]
  refine or_congr Iff.rfl (exists_congr fun first => exists_congr fun rest => ?_)
  split_ifs with hnil
  · rw [hnil]
    simp [authStart]
  · exact ⟨fun h => (List.cons.inj h).2, fun h => by rw [h]⟩

/-- A path of two segments or more is not exempt unless its third one is `auth`. -/
theorem not_isExempt_of_segments {path : Text} (hlen : 2 ≤ (segments path).length)
    (hthird : (segments path)[2]? ≠ some ("auth" : Text).units) :
    isExempt (canonical path) = false := by
  rw [Bool.eq_false_iff, ne_eq, isExempt_canonical_iff]
  rintro (h | ⟨first, rest, h⟩)
  · rw [h] at hlen
    simp at hlen
  · rw [h] at hthird
    exact hthird (by simp [authStart])

end Gate

/-! ### Todo routes -/

theorem Route.foldl_descend_collectionPath :
    (todosStart.map Text.units).foldl descend [] =
      [("todos" : Text).units, ("v1" : Text).units, ("api" : Text).units] := by
  decide +kernel

/-- What the id of a todo does to the segments: it names one below the collection, or the
collection itself, or the place above it. -/
theorem Route.descend_id (id above : List UInt16) (rest : List (List UInt16)) :
    descend (above :: rest) id = id :: above :: rest ∨
      descend (above :: rest) id = above :: rest ∨
      descend (above :: rest) id = rest := by
  unfold descend
  split_ifs
  · exact Or.inr (Or.inl rfl)
  · exact Or.inr (Or.inr rfl)
  · exact Or.inl rfl

/-- No canonical form of a path registered for a route about todos passes without identity: its
third segment, if it has one, is `todos` or the last one of a status path. -/
theorem Route.Registered.not_isExempt {path : Text} {route : Route} (h : Registered path route)
    (hroute : route ≠ .health) : Gate.isExempt (canonical path) = false := by
  have htodos : ("todos" : Text).units ≠ ("auth" : Text).units := by decide +kernel
  have hstatus : statusSegment.units ≠ ("auth" : Text).units := by decide +kernel
  have hstatus' : ∀ above, descend above statusSegment.units = statusSegment.units :: above :=
    fun above => descend_of_ne (by decide +kernel) (by decide +kernel) (by decide +kernel)
  cases h with
  | health => exact absurd rfl hroute
  | todos =>
    have hsegments := segments_of_splitOn splitOn_collectionPath
    rw [foldl_descend_collectionPath] at hsegments
    refine Gate.not_isExempt_of_segments ?_ ?_ <;> rw [hsegments] <;> simp [htodos]
  | @todo id hne hslash =>
    have hsegments := segments_of_splitOn (splitOn_itemPath hslash)
    rw [List.foldl_append, foldl_descend_collectionPath, List.foldl_cons, List.foldl_nil]
      at hsegments
    -- the id itself, a dot, or two dots
    rcases descend_id id.units ("todos" : Text).units
      [("v1" : Text).units, ("api" : Text).units]
      with hd | hd | hd <;>
    · rw [hd] at hsegments
      refine Gate.not_isExempt_of_segments ?_ ?_ <;> rw [hsegments] <;> simp [htodos]
  | @todoStatus id hne hslash =>
    have hsegments := segments_of_splitOn (splitOn_statusPath hslash)
    rw [List.foldl_append, foldl_descend_collectionPath, List.foldl_cons, List.foldl_cons,
      List.foldl_nil, hstatus'] at hsegments
    -- the third segment is `todos`, `todos` again, or the last one of the path
    rcases descend_id id.units ("todos" : Text).units
      [("v1" : Text).units, ("api" : Text).units]
      with hd | hd | hd <;>
    · rw [hd] at hsegments
      refine Gate.not_isExempt_of_segments ?_ ?_ <;> rw [hsegments] <;> simp [htodos, hstatus]

theorem Gate.isExempt_healthPath : isExempt (canonical "/health") = true := by
  decide +kernel

/-- At a path that is not exempt a handler runs for a caller that there is evidence for, or
else the request is answered without any handler. -/
theorem Stage.guarded_of_not_isExempt {mode : Gate.Mode} {requestId : String} {r : Request}
    {w : World} (h : Gate.isExempt (canonical r.path) = false) (handler : Handler) :
    (∃ userId w', Gate.Establishes mode r w userId ∧
      guarded mode none handler requestId r w =
        ⟨(handler r userId w').1, userId, (handler r userId w').2⟩) ∨
      ∀ other, guarded mode none other requestId r w =
        guarded mode none handler requestId r w := by
  unfold guarded
  rcases hresult : Gate.screen mode none r requestId w with ⟨_ | userId | response | fault, w'⟩
  · have hexempt := Gate.screen_fst_eq_exempt_iff.1 (congrArg Prod.fst hresult)
    rw [h] at hexempt
    exact absurd hexempt Bool.false_ne_true
  · have hcaller := Gate.screen_fst_eq_caller_iff.1 (congrArg Prod.fst hresult)
    exact Or.inl ⟨userId, w', hcaller.2, rfl⟩
  · exact Or.inr fun _ => rfl
  · exact Or.inr fun _ => rfl

/-- The gate and the routes agree on every path. Paths have the routes that are registered
under them; no path of a todo route is exempt, and its handlers run for nobody but a caller
that there is evidence for; and the health check is the only exempt path with a route. -/
theorem todo_routes_guarded (path : Text) :
    (∀ route, Route.ofPath? path = some route ↔ Route.Registered path route) ∧
      (∀ route, Route.ofPath? path = some route → route ≠ .health →
        Gate.isExempt (canonical path) = false ∧
          ∀ (mode : Gate.Mode) (kind : StoreKind) (requestId : String) (r : Request)
            (w : World), r.path = path →
            (∃ userId w', Gate.Establishes mode r w userId ∧
              Stage.guarded mode none (Route.dispatch kind) requestId r w =
                ⟨(Route.dispatch kind r userId w').1, userId,
                (Route.dispatch kind r userId w').2⟩) ∨
              ∀ handler, Stage.guarded mode none handler requestId r w =
                Stage.guarded mode none (Route.dispatch kind) requestId r w) ∧
      ((Route.ofPath? path).isSome = true ∧ Gate.isExempt (canonical path) = true ↔
        path = "/health") := by
  refine ⟨fun route => Route.ofPath?_eq_some_iff, ?_, ?_⟩
  · intro route hroute htodo
    have hregistered := Route.ofPath?_eq_some_iff.1 hroute
    have hguarded := hregistered.not_isExempt htodo
    refine ⟨hguarded, ?_⟩
    rintro mode kind requestId r w rfl
    exact Stage.guarded_of_not_isExempt hguarded (Route.dispatch kind)
  · constructor
    · rintro ⟨hsome, hexempt⟩
      obtain ⟨route, hroute⟩ := Option.isSome_iff_exists.1 hsome
      have hregistered := Route.ofPath?_eq_some_iff.1 hroute
      by_cases hhealth : route = .health
      · subst hhealth
        cases hregistered with
        | health => rfl
      · rw [hregistered.not_isExempt hhealth] at hexempt
        exact absurd hexempt Bool.false_ne_true
    · rintro rfl
      refine ⟨?_, Gate.isExempt_healthPath⟩
      rw [Route.ofPath?_eq_some_iff.2 .health, Option.isSome_some]

end TodoServer
