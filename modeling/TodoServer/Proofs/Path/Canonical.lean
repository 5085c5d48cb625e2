/-
The canonical form of a path, by its segments.

`Path.canonical` finds the form in one pass, so nothing about segments can be read off it. Here
it is shown to be what splitting at the slashes first would give: the path is cut into
segments, each of them is taken in turn by `Path.descend`, and what is left is written with a
slash before every segment.

* `canonical_units` — the canonical form is the segments, written;
* `slash_notMem_of_mem_segments` — no segment has a slash in it, so the written form can be cut
  again;
* `splitOn_canonical` — the segments of the canonical form are those it was written from.
-/
import TodoServer.Http.Message
import TodoServer.Proofs.Text.Splitting

namespace TodoServer.Path

/-! ### One segment -/

@[simp] theorem descend_nil (above : List (List UInt16)) : descend above [] = above := by
  simp [descend]

@[simp] theorem descend_dot (above : List (List UInt16)) : descend above [dot] = above := by
  simp [descend]

@[simp] theorem descend_dot_dot (above : List (List UInt16)) :
    descend above [dot, dot] = above.tail := by
  simp [descend]

/-- A segment that is no dot segment goes on top of those before it. -/
theorem descend_of_ne {above : List (List UInt16)} {segment : List UInt16}
    (hnil : segment ≠ []) (hdot : segment ≠ [dot]) (hdots : segment ≠ [dot, dot]) :
    descend above segment = segment :: above := by
  simp [descend, hnil, hdot, hdots]

/-- Nothing but the segment itself is new after a segment. -/
theorem mem_descend {above : List (List UInt16)} {segment s : List UInt16}
    (h : s ∈ descend above segment) : s ∈ above ∨ s = segment := by
  unfold descend at h
  split_ifs at h with hsame hup
  · exact Or.inl h
  · exact Or.inl (List.mem_of_mem_tail h)
  · rcases List.mem_cons.1 h with rfl | h
    · exact Or.inr rfl
    · exact Or.inl h

/-- After any segments, each one left was there before or is one of them. -/
theorem mem_foldl_descend {segments above : List (List UInt16)} {s : List UInt16}
    (h : s ∈ segments.foldl descend above) : s ∈ above ∨ s ∈ segments := by
  induction segments generalizing above with
  | nil => exact Or.inl h
  | cons segment rest ih =>
    rcases ih h with h | h
    · rcases mem_descend h with h | rfl
      · exact Or.inl h
      · exact Or.inr List.mem_cons_self
    · exact Or.inr (List.mem_cons_of_mem _ h)

/-! ### The walk -/

/-- Closing a walk takes the segment being read, whose units stand last first; the two dot
segments read the same either way. -/
theorem Walk.close_eq_descend (w : Walk) : w.close = descend w.above w.current.reverse := by
  have hnil : w.current.reverse = [] ↔ w.current = [] := List.reverse_eq_nil_iff
  have hdot : w.current.reverse = [dot] ↔ w.current = [dot] := by
    rw [List.reverse_eq_iff]; simp
  have hdots : w.current.reverse = [dot, dot] ↔ w.current = [dot, dot] := by
    rw [List.reverse_eq_iff]; simp
  simp only [Walk.close, descend, hnil, hdot, hdots]

/-- A walk over units ends where the segments of what it had begun and those units lead. The
segment begun has no slash in it, so the first cut comes after it. -/
theorem close_foldl_step (units : List UInt16) (w : Walk) (h : slash ∉ w.current) :
    (units.foldl Walk.step w).close =
      ((w.current.reverse ++ units).splitOn slash).foldl descend w.above := by
  induction units generalizing w with
  | nil =>
    have hr : slash ∉ w.current.reverse := by simpa using h
    rw [List.foldl_nil, Walk.close_eq_descend, List.append_nil, List.splitOn_eq_singleton hr]
    rfl
  | cons unit rest ih =>
    rw [List.foldl_cons]
    by_cases hslash : unit = slash
    · subst hslash
      have hr : slash ∉ w.current.reverse := by simpa using h
      rw [Walk.step, if_pos rfl, ih ⟨w.close, []⟩ (by simp), Walk.close_eq_descend,
        List.splitOn_append_cons_self_of_not_mem hr]
      rfl
    · rw [Walk.step, if_neg hslash, ih ⟨w.above, unit :: w.current⟩]
      · simp
      · simp only [List.mem_cons, not_or]
        exact ⟨fun he => hslash he.symm, h⟩

/-- The canonical form is the segments of a path, written. -/
theorem canonical_units (path : Text) :
    (canonical path).units = rendered (segments path).reverse := by
  show rendered (path.units.foldl Walk.step ⟨[], []⟩).close = _
  rw [close_foldl_step path.units ⟨[], []⟩ (by simp), segments, List.reverse_reverse]
  rfl

/-! ### The segments -/

/-- The segments of a path whose parts between slashes are known. -/
theorem segments_of_splitOn {path : Text} {parts : List (List UInt16)}
    (h : path.units.splitOn slash = parts) :
    segments path = (parts.foldl descend []).reverse := by
  rw [segments, h]

/-- No segment has a slash in it. -/
theorem slash_notMem_of_mem_segments {path : Text} {segment : List UInt16}
    (h : segment ∈ segments path) : slash ∉ segment := by
  rcases mem_foldl_descend (List.mem_reverse.1 h) with h | h
  · exact absurd h List.not_mem_nil
  · exact notMem_of_mem_splitOn h

/-! ### The written form -/

/-- What is written of segments, if there are any. -/
theorem rendered_of_ne_nil {segments : List (List UInt16)} (h : segments ≠ []) :
    rendered segments.reverse = segments.flatMap fun segment => slash :: segment := by
  unfold rendered
  split
  · next heq => exact absurd (List.reverse_eq_nil_iff.1 heq) h
  · rw [List.reverse_reverse]

/-- The canonical form cut at its slashes: an empty part before the first slash, and then the
segments, or one more empty part where there is none. -/
theorem splitOn_canonical (path : Text) :
    (canonical path).units.splitOn slash =
      [] :: if segments path = [] then [[]] else segments path := by
  rw [canonical_units]
  split_ifs with h
  · rw [h]
    decide
  · rw [rendered_of_ne_nil h, ← List.nil_append (List.flatMap _ _), ← intercalate_cons,
      List.splitOn_intercalate]
    · intro part hpart
      rcases List.mem_cons.1 hpart with rfl | hpart
      · exact List.not_mem_nil
      · exact slash_notMem_of_mem_segments hpart
    · exact List.cons_ne_nil _ _

end TodoServer.Path
