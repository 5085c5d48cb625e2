/-
The form that canonical paths have.

A path is read segment by segment: an empty one and a dot stay at a place, two dots go to the
place above, or stay at the root, and any other name, however many dots it has, goes to the
place below of that name. The canonical form of a path writes the names that lead to where this
ends. Such a path is told by its looks: it begins with a slash, ends in one only if it is
nothing else, and between its slashes there are names. It is the canonical form of itself, so a
path has such a form exactly if it is the canonical form of some path.

* `IsName`, `IsCanonical` — the names of places, and the looks of a canonical path;
* `isName_of_mem_segments` — what is read of a path consists of names;
* `isCanonical_canonical`, `IsCanonical.canonical_eq` — canonical forms look so, and what looks
  so is one;
* `canonical_forms` — the canonical form of every path, and whether it passes without identity.
-/
import TodoServer.Proofs.Path.Guarded

namespace TodoServer.Path

/-! ### Names -/

/-- A segment that names a place below another. -/
structure IsName (segment : List UInt16) : Prop where
  ne_nil : segment ≠ []
  ne_dot : segment ≠ [dot]
  ne_dots : segment ≠ [dot, dot]

theorem IsName.descend_eq {segment : List UInt16} (h : IsName segment)
    (above : List (List UInt16)) : descend above segment = segment :: above :=
  descend_of_ne h.ne_nil h.ne_dot h.ne_dots

/-- A segment leads among names to names. -/
theorem isName_of_mem_descend {above : List (List UInt16)} {segment s : List UInt16}
    (habove : ∀ s ∈ above, IsName s) (h : s ∈ descend above segment) : IsName s := by
  unfold descend at h
  split_ifs at h with hsame hup
  · exact habove s h
  · exact habove s (List.mem_of_mem_tail h)
  · rcases List.mem_cons.1 h with rfl | h
    · exact ⟨fun he => hsame (Or.inl he), fun he => hsame (Or.inr he), hup⟩
    · exact habove s h

theorem isName_of_mem_foldl {segments above : List (List UInt16)} {s : List UInt16}
    (habove : ∀ s ∈ above, IsName s) (h : s ∈ segments.foldl descend above) : IsName s := by
  induction segments generalizing above with
  | nil => exact habove s h
  | cons segment rest ih => exact ih (fun _ => isName_of_mem_descend habove) h

theorem isName_of_mem_segments {path : Text} {segment : List UInt16}
    (h : segment ∈ segments path) : IsName segment :=
  isName_of_mem_foldl (fun _ hs => absurd hs List.not_mem_nil) (List.mem_reverse.1 h)

/-- Names are entered one below the other. -/
theorem foldl_descend_of_isName {names : List (List UInt16)} (h : ∀ name ∈ names, IsName name)
    (above : List (List UInt16)) : names.foldl descend above = names.reverse ++ above := by
  induction names generalizing above with
  | nil => rfl
  | cons name rest ih =>
    rw [List.forall_mem_cons] at h
    rw [List.foldl_cons, h.1.descend_eq, ih h.2, List.reverse_cons, List.append_assoc,
      List.singleton_append]

/-! ### Looks -/

/-- The path of the root. -/
def rootPath : Text := "/"

theorem rootPath_units : rootPath.units = [slash] := by decide +kernel

/-- The looks of a canonical path. -/
structure IsCanonical (path : Text) : Prop where
  starts : path.units.head? = some slash
  ends : path.units.getLast? = some slash → path = rootPath
  names : path ≠ rootPath → ∀ segment ∈ (path.units.splitOn slash).tail, IsName segment

/-- The canonical form is the segments of a path joined at slashes, after a slash. -/
theorem canonical_units_eq_intercalate (path : Text) :
    (canonical path).units = slash :: [slash].intercalate (segments path) := by
  rw [canonical_units]
  rcases hsegments : segments path with _ | ⟨first, rest⟩
  · rfl
  · rw [rendered_of_ne_nil (List.cons_ne_nil _ _), intercalate_cons, List.flatMap_cons]
    rfl

theorem canonical_eq_rootPath_iff {path : Text} : canonical path = rootPath ↔
    segments path = [] := by
  constructor
  · intro h
    by_contra hne
    -- the first name is not empty, so there is more than a slash
    obtain ⟨first, rest, hsegments⟩ := List.exists_cons_of_ne_nil hne
    have hname : IsName first := isName_of_mem_segments (hsegments ▸ List.mem_cons_self)
    have hunits := canonical_units_eq_intercalate path
    rw [h, rootPath_units, hsegments, intercalate_cons, List.cons.injEq] at hunits
    exact hname.ne_nil (List.append_eq_nil_iff.1 hunits.2.symm).1
  · intro h
    have hunits := canonical_units_eq_intercalate path
    rw [h] at hunits
    exact congrArg Text.mk hunits

/-- What ends in a separator ends in an empty part. -/
theorem getLast?_splitOn_of_getLast? {units : List UInt16} (h : units.getLast? = some slash) :
    (units.splitOn slash).getLast? = some [] := by
  obtain ⟨before, rfl⟩ := List.getLast?_eq_some_iff.1 h
  rw [List.splitOn_append_cons_self, List.splitOn_nil, List.getLast?_append]
  rfl

theorem isCanonical_canonical (path : Text) : IsCanonical (canonical path) := by
  have hcut := splitOn_canonical path
  refine ⟨?_, fun hends => ?_, fun hroot segment hsegment => ?_⟩
  · rw [canonical_units_eq_intercalate]
    rfl
  · rw [canonical_eq_rootPath_iff]
    by_contra hne
    -- the last part is a name, and not the empty one after a slash
    have hlast := getLast?_splitOn_of_getLast? hends
    rw [hcut, if_neg hne, List.getLast?_cons, Option.some_inj] at hlast
    have hmem := List.getLast_mem hne
    rw [List.getLast?_eq_some_getLast hne, Option.getD_some] at hlast
    exact (isName_of_mem_segments hmem).ne_nil hlast
  · rw [hcut, if_neg (mt canonical_eq_rootPath_iff.2 hroot)] at hsegment
    exact isName_of_mem_segments hsegment

/-- What looks like a canonical path is the canonical form of itself. -/
theorem IsCanonical.canonical_eq {path : Text} (h : IsCanonical path) :
    canonical path = path := by
  by_cases hroot : path = rootPath
  · subst hroot
    decide +kernel
  · obtain ⟨rest, hunits⟩ := List.head?_eq_some_iff.1 h.starts
    obtain ⟨first, others, hcut⟩ := List.exists_cons_of_ne_nil (List.splitOn_ne_nil slash rest)
    have hparts : path.units.splitOn slash = [] :: first :: others := by
      have hsplit := List.splitOn_append_cons_self_of_not_mem (@List.not_mem_nil _ slash) rest
      rwa [List.nil_append, ← hunits, hcut] at hsplit
    have hnames : ∀ name ∈ first :: others, IsName name := by
      have hnames := h.names hroot
      rwa [hparts, List.tail_cons] at hnames
    have hsegments : segments path = first :: others := by
      rw [segments_of_splitOn hparts, List.foldl_cons, descend_nil,
        foldl_descend_of_isName hnames, List.append_nil, List.reverse_reverse]
    have hcanonical := canonical_units_eq_intercalate path
    rw [hsegments, ← hcut, List.intercalate_splitOn, ← hunits] at hcanonical
    exact congrArg Text.mk hcanonical

/-- The canonical form of every path. It is written from the segments that are left when the
path is read, all of them names, joined at slashes after a slash, so it has the looks of a
canonical path: a slash at its beginning, none at its end unless it is nothing else, and names
between slashes. What has these looks is the canonical form of itself, and nothing else is. And
it passes without identity exactly if it names the health check, or something below the place
of authentication. -/
theorem canonical_forms (path : Text) :
    (canonical path).units = slash :: [slash].intercalate (segments path) ∧
      (∀ segment ∈ segments path, IsName segment ∧ slash ∉ segment) ∧
      IsCanonical (canonical path) ∧
      canonical (canonical path) = canonical path ∧
      (canonical path = path ↔ IsCanonical path) ∧
      (Gate.isExempt (canonical path) = true ↔
        segments path = [("health" : Text).units] ∨
          ∃ first rest, segments path = ("api" : Text).units :: ("v1" : Text).units ::
            ("auth" : Text).units :: first :: rest) := by
  have hcanonical := isCanonical_canonical path
  refine ⟨canonical_units_eq_intercalate path,
    fun segment h => ⟨isName_of_mem_segments h, slash_notMem_of_mem_segments h⟩, hcanonical,
    hcanonical.canonical_eq, ⟨fun h => h ▸ hcanonical, IsCanonical.canonical_eq⟩, ?_⟩
  exact Gate.isExempt_canonical_iff path

/-- Names may consist of dots and begin with one; nothing is above the root. -/
example : canonical "a//../.././.../.a/b/../" = "/.../.a" := by decide +kernel

end TodoServer.Path
