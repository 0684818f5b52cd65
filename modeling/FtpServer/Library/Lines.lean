import Mathlib

/-!
# Terminated lines of a stream

A stream of which only a prefix has arrived is a sequence of **terminated** lines and an unfinished
one. What the terminated lines are is a function of the prefix alone, and the lines that have been
taken off its front can be forgotten (`terminated_unlines_append`).
-/

namespace Lines

variable {α : Type} [DecidableEq α] {sep : α} {ls : List (List α)} {l rest : List α}

/-- The lines of a stream that are terminated, less their terminators. -/
def terminated (sep : α) (s : List α) : List (List α) := (s.splitOn sep).dropLast

/-- What follows the last terminator. -/
def unfinished (sep : α) (s : List α) : List α := (s.splitOn sep).getLastD []

omit [DecidableEq α] in
/-- The stream of these lines, each with its terminator. -/
def unlines (sep : α) (ls : List (List α)) : List α := ls.flatMap (· ++ [sep])

omit [DecidableEq α] in
/-- One line more. -/
theorem unlines_concat (ls : List (List α)) (l : List α) :
    unlines sep (ls ++ [l]) = unlines sep ls ++ (l ++ [sep]) := by
  rw [unlines, List.flatMap_append, List.flatMap_singleton, unlines]

/-- Terminated lines are split off in front of the rest. -/
theorem splitOn_unlines_append (h : ∀ l ∈ ls, sep ∉ l) (rest : List α) :
    (unlines sep ls ++ rest).splitOn sep = ls ++ rest.splitOn sep := by
  induction ls with
  | nil => rfl
  | cons l ls ih =>
    obtain ⟨hl, hls⟩ := List.forall_mem_cons.1 h
    have hcons : unlines sep (l :: ls) ++ rest = l ++ sep :: (unlines sep ls ++ rest) := by
      simp [unlines]
    rw [hcons, List.splitOn_append_cons_self_of_not_mem hl, ih hls, List.cons_append]

/-- Terminated lines in front of the rest are terminated lines of the whole. -/
theorem terminated_unlines_append (h : ∀ l ∈ ls, sep ∉ l) (rest : List α) :
    terminated sep (unlines sep ls ++ rest) = ls ++ terminated sep rest := by
  rw [terminated, splitOn_unlines_append h,
    List.dropLast_append_of_ne_nil (List.splitOn_ne_nil sep rest), terminated]

/-- They say nothing about its unfinished end. -/
theorem unfinished_unlines_append (h : ∀ l ∈ ls, sep ∉ l) (rest : List α) :
    unfinished sep (unlines sep ls ++ rest) = unfinished sep rest := by
  have hne := List.splitOn_ne_nil sep rest
  rw [unfinished, splitOn_unlines_append h, unfinished, List.getLastD_eq_getLast?,
    List.getLastD_eq_getLast?, List.getLast?_append, List.getLast?_eq_some_getLast hne]
  rfl

/-- What has no separator has no terminated line. -/
theorem terminated_of_not_mem (h : sep ∉ rest) : terminated sep rest = [] := by
  rw [terminated, List.splitOn_eq_singleton h, List.dropLast_singleton]

/-- It is all unfinished. -/
theorem unfinished_of_not_mem (h : sep ∉ rest) : unfinished sep rest = rest := by
  rw [unfinished, List.splitOn_eq_singleton h]
  rfl

/-- A terminator ends a line. -/
theorem terminated_ne_nil (h : sep ∈ rest) : terminated sep rest ≠ [] := by
  obtain ⟨l, post, rfl, hl⟩ := List.eq_append_cons_of_mem h
  rw [terminated, List.splitOn_append_cons_self_of_not_mem hl,
    List.dropLast_cons_of_ne_nil (List.splitOn_ne_nil sep post)]
  exact List.cons_ne_nil _ _

end Lines
