import Mathlib

/-!
# Ledgers of resources

What a program acquires and releases, replayed from what it holds at the start. A release of what is
not held has no replay, so a replay that ends with nothing held says that everything acquired was
released, once, and nothing else was.
-/

namespace Ledger

variable {α : Type} [DecidableEq α]

/-- A resource changes hands. -/
inductive Move (α : Type) where
  | acquire (a : α)
  | release (a : α)
  deriving DecidableEq, Repr

/-- What is held after a move. -/
def Move.apply (held : List α) : Move α → Option (List α)
  | acquire a => some (a :: held)
  | release a => if a ∈ held then some (held.erase a) else none

/-- What is held after these moves. -/
def replay (held : List α) (moves : List (Move α)) : Option (List α) :=
  moves.foldlM Move.apply held

@[simp] theorem replay_nil (held : List α) : replay held [] = some held := rfl

/-- The last move is made on what the others have left. -/
theorem replay_concat (held : List α) (moves : List (Move α)) (m : Move α) :
    replay held (moves ++ [m]) = (replay held moves).bind (Move.apply · m) := by
  rw [replay, List.foldlM_append]
  simp [replay, List.foldlM_cons, List.foldlM_nil]

variable {start held : List α} {moves : List (Move α)}

/-- What is acquired is held besides. -/
theorem replay_acquire (h : replay start moves = some held) (a : α) :
    replay start (moves ++ [.acquire a]) = some (a :: held) := by
  rw [replay_concat, h]
  rfl

/-- What is held can be released once. -/
theorem replay_release (h : replay start moves = some held) {a : α} (ha : a ∈ held) :
    replay start (moves ++ [.release a]) = some (held.erase a) := by
  rw [replay_concat, h, Option.bind_some, Move.apply, if_pos ha]

end Ledger
