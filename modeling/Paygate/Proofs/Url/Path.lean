import Paygate.Proofs.Url.FormEncoding
import Paygate.Url.Basic

/-!
# Paths in their normal form

The segments of a path are taken one after the other, and `..` takes back the one before it, but never
the empty segment in front of the first slash.

* `rooted_normalPath`: a path from the root stays one or becomes empty.
* `normalPath_append`: segments behind a path that are neither `.` nor `..` stay as they are.
-/

namespace Paygate.Url

/-! ## Segments -/

/-- The segments so far, the last one first, with one more. -/
def addSegment (done : List (List Char)) (segment : List Char) : List (List Char) :=
  if segment = ['.'] then done
  else if segment = ['.', '.'] then (if done = [] ∨ done = [[]] then done else done.drop 1)
  else segment :: done

theorem resolveSegments_eq (segments : List (List Char)) :
    resolveSegments segments = (segments.foldl addSegment []).reverse := rfl

theorem addSegment_of_plain {done : List (List Char)} {segment : List Char} (hone : segment ≠ ['.'])
    (htwo : segment ≠ ['.', '.']) : addSegment done segment = segment :: done := by
  rw [addSegment, if_neg hone, if_neg htwo]

/-- The first segment is empty, as it is in front of a slash. -/
def FromRoot (done : List (List Char)) : Prop := done.getLast? = some []

theorem FromRoot.addSegment {done : List (List Char)} (h : FromRoot done) (segment : List Char) :
    FromRoot (addSegment done segment) := by
  unfold Url.addSegment
  split
  · exact h
  · split
    · split
      · exact h
      · rename_i hmore
        match done, h with
        | [first], h =>
          obtain rfl := Option.some.inj h
          exact absurd (.inr rfl) hmore
        | _ :: next :: done, h => exact h
    · cases done with
      | nil => cases h
      | cons => exact h

theorem FromRoot.foldl {done : List (List Char)} (h : FromRoot done) (segments : List (List Char)) :
    FromRoot (segments.foldl Url.addSegment done) := by
  induction segments generalizing done with
  | nil => exact h
  | cons segment segments ih => exact ih (h.addSegment segment)

/-- A path that is empty or starts with a slash. -/
def IsRooted (path : List Char) : Prop := path = [] ∨ path.head? = some '/'

theorem isRooted_dropWhile (cs : List Char) : IsRooted (cs.dropWhile (· ≠ '/')) := by
  have hhead := List.head?_dropWhile_not (· ≠ '/') cs
  cases hrest : cs.dropWhile (· ≠ '/') with
  | nil => exact .inl rfl
  | cons c rest =>
    rw [hrest] at hhead
    simp_all [IsRooted]

variable {path : List Char}

theorem IsRooted.append_segment (h : IsRooted path) (segments : List Char) :
    IsRooted (path ++ '/' :: segments) := by
  cases path with
  | nil => exact .inr rfl
  | cons c path => exact h.elim nofun .inr

theorem fromRoot_foldl_splitOn (h : IsRooted path) :
    FromRoot ((path.splitOn '/').foldl addSegment []) := by
  have hfirst : ∃ segments, path.splitOn '/' = [] :: segments := by
    rcases h with rfl | hslash
    · exact ⟨[], rfl⟩
    · obtain ⟨rest, rfl⟩ := List.head?_eq_some_iff.mp hslash
      exact ⟨rest.splitOn '/', List.splitOn_append_cons_self [] rest⟩
  obtain ⟨segments, hsegments⟩ := hfirst
  have hroot : FromRoot [[]] := rfl
  rw [hsegments]
  exact hroot.foldl segments

/-! ## Paths -/

theorem intercalate_append_singleton {segments : List (List Char)} (h : segments ≠ [])
    (segment : List Char) : List.intercalate ['/'] (segments ++ [segment]) =
      List.intercalate ['/'] segments ++ '/' :: segment := by
  induction segments with
  | nil => exact absurd rfl h
  | cons first segments ih =>
    cases segments with
    | nil => simp [List.intercalate_cons_cons]
    | cons next segments =>
      have hrest := ih (List.cons_ne_nil next segments)
      rw [List.cons_append, List.cons_append, List.intercalate_cons_cons, List.intercalate_cons_cons,
        ← List.cons_append, hrest]
      simp

/-- A path from the root stays one, or becomes empty. -/
theorem rooted_normalPath (h : IsRooted path) : IsRooted (normalPath path) := by
  have hroot := fromRoot_foldl_splitOn h
  unfold normalPath
  rw [resolveSegments_eq]
  generalize (path.splitOn '/').foldl addSegment [] = done at hroot
  obtain ⟨segments, rfl⟩ := List.getLast?_eq_some_iff.mp hroot
  rw [List.reverse_append, List.reverse_singleton, List.singleton_append]
  cases hsegments : segments.reverse with
  | nil => exact .inl rfl
  | cons next rest =>
    rw [List.intercalate_cons_cons]
    exact .inr rfl

/-- A segment behind a path from the root stays as it is, unless it is `.` or `..`. -/
theorem normalPath_append (h : IsRooted path) {segment : List Char} (hslash : '/' ∉ segment)
    (hone : segment ≠ ['.']) (htwo : segment ≠ ['.', '.']) :
    normalPath (path ++ '/' :: segment) = normalPath path ++ '/' :: segment := by
  have hroot := fromRoot_foldl_splitOn h
  have hne : ((path.splitOn '/').foldl addSegment []).reverse ≠ [] := by
    intro hnil
    rw [List.reverse_eq_nil_iff] at hnil
    rw [hnil] at hroot
    cases hroot
  unfold normalPath
  rw [List.splitOn_append_cons_self, List.splitOn_eq_singleton hslash, resolveSegments_eq,
    List.foldl_append, List.foldl_cons, List.foldl_nil, addSegment_of_plain hone htwo,
    List.reverse_cons, intercalate_append_singleton hne, ← resolveSegments_eq]

end Paygate.Url
