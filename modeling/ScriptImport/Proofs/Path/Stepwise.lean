/-
# Joining in steps

What is joined can be joined with more: its components are those that are left of the first segments, and `..` in
further segments goes on from there (`cancel_append`).  So it does not matter whether segments are put together at once
or one after the other, with one exception.  A backslash is a character like others inside of a segment, but at its
start it does not count.  When the components in front of it are taken away, as in `./\b` and `a/../\b`, the first step
ends with a path that starts with a backslash, and the next step loses it.  That is the only exception, and then not
even joining the path alone gives the path again (`join_join`).

The backslash is lost because joining adds no characters but slashes and the point of an empty path (`count_join_le`).
-/

import Mathlib.Data.List.Flatten
import ScriptImport.Proofs.Path.Normal

namespace ScriptImport
namespace Path

variable {absolute : Bool} {parts : List (List Char)} {path : List Char} {c : Char} {xs : List String}

/-! ### What is in front of a segment -/

/-- Whether a backslash starts the first component of a path. -/
def startsWithBackslash (path : List Char) : Bool := (path.dropWhile (· = '/')).head? = some '\\'

/-- Only slashes are in front of a path that no backslash starts. -/
theorem dropWhile_eq (h : startsWithBackslash path = false) :
    path.dropWhile (fun c => c = '/' || c = '\\') = path.dropWhile (· = '/') := by
  induction path with
  | nil => rfl
  | cons c path ih =>
    by_cases hc : c = '/'
    · subst hc
      exact ih h
    · have hback : c ≠ '\\' := by simpa [startsWithBackslash, hc] using h
      simp [hc, hback]

/-- Slashes in front of a path do not count. -/
theorem components_dropWhile (path : List Char) : components (path.dropWhile (· = '/')) = components path := by
  induction path with
  | nil => rfl
  | cons c path ih =>
    by_cases hc : c = '/'
    · subst hc
      exact ih
    · simp [hc]

/-- The components of what is joined are those that are left of the segments. -/
theorem segmentParts_join (h : startsWithBackslash (join xs).toList = false) :
    segmentParts (join xs) = cancel (startsAtRoot xs) [] (xs.flatMap segmentParts) := by
  rw [segmentParts, dropWhile_eq h, components_dropWhile, join_eq, normalize_eq, String.toList_ofList,
    components_written fun _ => isComponent_of_mem_cancel]

/-- A path that is joined starts at the root if its segments do. -/
theorem startsAtRoot_join (ys : List String) : startsAtRoot (join xs :: ys) = startsAtRoot xs := by
  have hne : join xs ≠ "" := fun h => (isNormal_join xs).ne_nil (by rw [h]; rfl)
  rw [startsAtRoot, List.find?_cons_of_pos (by simpa using hne)]
  exact isAbsolute_join xs

theorem startsAtRoot_append (hsome : ∃ x ∈ xs, x ≠ "") (ys : List String) :
    startsAtRoot (xs ++ ys) = startsAtRoot xs := by
  have hfound : (xs.find? (· ≠ "")).isSome := List.find?_isSome.2 (by simpa using hsome)
  rw [startsAtRoot, List.find?_append, Option.or_of_isSome hfound]
  rfl

/-- Components that are left of the first segments go on as the segments do. -/
theorem cancel_cancel_append (absolute : Bool) (parts more : List (List Char)) :
    cancel absolute [] (cancel absolute [] parts ++ more) = cancel absolute [] (parts ++ more) := by
  have hsettled : Settled absolute ((cancel absolute [] parts).reverse ++ []) := by
    rw [List.append_nil]
    exact settled_cancel trivial
  rw [cancel_append, cancel_append, cancel_eq_self hsettled]
  rfl

/-! ### Characters -/

theorem flatten_components_sublist (path : List Char) : (components path).flatten.Sublist path := by
  have hsplit : (components path).flatten.Sublist (splitAt '/' path).flatten := List.filter_sublist.flatten
  rw [flatten_splitAt] at hsplit
  exact hsplit.trans List.filter_sublist

theorem count_joinWith {sep : Char} (hc : c ≠ sep) (parts : List (List Char)) :
    (joinWith sep parts).count c = parts.flatten.count c := by
  induction parts with
  | nil => rfl
  | cons part parts ih =>
    cases parts with
    | nil => simp [joinWith]
    | cons next rest =>
      rw [joinWith_cons_cons, List.count_append, List.count_cons_of_ne (Ne.symm hc), ih, ← List.count_append]
      rfl

theorem count_written_le (hslash : c ≠ '/') (hpoint : c ≠ '.') :
    (written absolute parts).count c ≤ parts.flatten.count c := by
  rw [written]
  split_ifs
  · rw [List.count_cons_of_ne (Ne.symm hslash), count_joinWith hslash]
  · simp [Ne.symm hpoint]
  · rw [count_joinWith hslash]

/-- Joining a segment adds nothing to it but slashes and a point. -/
theorem count_join_le (hslash : c ≠ '/') (hpoint : c ≠ '.') (segment : String) :
    (join [segment]).toList.count c ≤ (segment.toList.dropWhile fun c => c = '/' || c = '\\').count c := by
  rw [join_eq, normalize_eq, String.toList_ofList, List.flatMap_singleton]
  calc (written _ (cancel _ [] (segmentParts segment))).count c
      ≤ (cancel _ [] (segmentParts segment)).flatten.count c := count_written_le hslash hpoint
    _ ≤ (segmentParts segment).flatten.count c := cancel_sublist.flatten.count_le c
    _ ≤ _ := (flatten_components_sublist _).count_le c

/-- A backslash in front of a segment is lost. -/
theorem count_dropWhile_lt (h : startsWithBackslash path = true) :
    (path.dropWhile fun c => c = '/' || c = '\\').count '\\' < path.count '\\' := by
  induction path with
  | nil => exact absurd h (by decide)
  | cons c path ih =>
    by_cases hc : c = '/'
    · subst hc
      rw [List.count_cons_of_ne (by decide)]
      exact ih h
    · have hback : c = '\\' := by simpa [startsWithBackslash, hc] using h
      subst hback
      rw [List.count_cons_self, List.dropWhile_cons_of_pos (by decide)]
      exact Nat.lt_succ_of_le ((List.dropWhile_suffix _).sublist.count_le '\\')

/-! ### Steps -/

/-- **Joining can be done in steps,** unless the first step gives a path that a backslash starts.  Joining such a path
does not even give the path itself. -/
theorem join_join (hsome : ∃ x ∈ xs, x ≠ "") :
    (startsWithBackslash (join xs).toList = false → ∀ ys, join (join xs :: ys) = join (xs ++ ys)) ∧
      (startsWithBackslash (join xs).toList = true → join [join xs] ≠ join xs) := by
  refine ⟨fun h ys => ?_, fun h hsame => ?_⟩
  · rw [join_eq (join xs :: ys), join_eq (xs ++ ys), startsAtRoot_join, startsAtRoot_append hsome, List.flatMap_cons,
      segmentParts_join h, List.flatMap_append, normalize_eq, normalize_eq, cancel_cancel_append]
  · have hle := count_join_le (c := '\\') (by decide) (by decide) (join xs)
    rw [hsame] at hle
    exact absurd (count_dropWhile_lt h) (Nat.not_lt.2 hle)

/-- Going up goes on in further segments. -/
theorem join_join_above : (∃ x ∈ ["a", "../.."], x ≠ "") ∧ join ["a", "../.."] = ".." ∧
    ∀ ys, join (".." :: ys) = join (["a", "../.."] ++ ys) := by
  have hsome : ∃ x ∈ ["a", "../.."], x ≠ "" := ⟨"a", List.mem_cons_self .., by decide⟩
  have habove : join ["a", "../.."] = ".." := by decide
  refine ⟨hsome, habove, fun ys => ?_⟩
  have hjoin := (join_join hsome).1 (by rw [habove]; decide) ys
  rwa [habove] at hjoin

/-- A backslash that comes to the front in the first step is lost in the second one. -/
theorem join_join_backslash : (∃ x ∈ ["./\\b"], x ≠ "") ∧ join (["./\\b"] ++ []) = "\\b" ∧
    join (join ["./\\b"] :: []) = "b" :=
  ⟨⟨"./\\b", List.mem_cons_self .., by decide⟩, by decide, by decide⟩

end Path
end ScriptImport
