import Mathlib

/-!
# Tilings of an interval

A list of intervals of the integers, each given by its start and its length, **tiles** the interval
from `lo` to `hi` if each begins where the one before it ended. The intervals of a tiling are
disjoint and do not leave the interval, they are as long together as it is, and what they select of
a list is what it selects.
-/

namespace Tiling

/-- Each interval begins where the last one ended, from `lo` to `hi`. -/
def Tiles : ℤ → ℤ → List (ℤ × ℕ) → Prop
  | lo, hi, [] => lo = hi
  | lo, hi, x :: xs => x.1 = lo ∧ Tiles (lo + x.2) hi xs

variable {lo mid hi : ℤ} {xs ys : List (ℤ × ℕ)}

instance Tiles.decidable : (lo hi : ℤ) → (xs : List (ℤ × ℕ)) → Decidable (Tiles lo hi xs)
  | lo, hi, [] => inferInstanceAs (Decidable (lo = hi))
  | lo, hi, x :: xs =>
    have := Tiles.decidable (lo + x.2) hi xs
    inferInstanceAs (Decidable (x.1 = lo ∧ Tiles (lo + x.2) hi xs))

/-- How long the intervals are together. -/
def total (xs : List (ℤ × ℕ)) : ℕ := (xs.map Prod.snd).sum

@[simp] theorem total_nil : total [] = 0 := rfl

@[simp] theorem total_cons (x : ℤ × ℕ) (xs : List (ℤ × ℕ)) : total (x :: xs) = x.2 + total xs :=
  rfl

@[simp] theorem total_append (xs ys : List (ℤ × ℕ)) : total (xs ++ ys) = total xs + total ys := by
  simp [total]

/-- The intervals are as long together as the whole. -/
theorem Tiles.hi_eq (h : Tiles lo hi xs) : hi = lo + total xs := by
  induction xs generalizing lo with
  | nil => simpa [Tiles] using h.symm
  | cons x xs ih =>
    have := ih h.2
    rw [total_cons]
    omega

/-- Two tilings, one behind the other. -/
theorem Tiles.append (hx : Tiles lo mid xs) (hy : Tiles mid hi ys) : Tiles lo hi (xs ++ ys) := by
  induction xs generalizing lo with
  | nil =>
    obtain rfl : lo = mid := hx
    exact hy
  | cons x xs ih => exact ⟨hx.1, ih hx.2⟩

/-- One interval more. -/
theorem Tiles.concat (h : Tiles lo mid xs) (len : ℕ) : Tiles lo (mid + len) (xs ++ [(mid, len)]) :=
  h.append ⟨rfl, rfl⟩

/-- Every interval lies within the whole. -/
theorem Tiles.within (h : Tiles lo hi xs) {x : ℤ × ℕ} (hx : x ∈ xs) :
    lo ≤ x.1 ∧ x.1 + x.2 ≤ hi := by
  induction xs generalizing lo with
  | nil => simp at hx
  | cons y ys ih =>
    obtain ⟨hy, hys⟩ := h
    have hhi := hys.hi_eq
    rcases List.mem_cons.1 hx with rfl | hx
    · omega
    · have := ih hys hx
      omega

/-- **The intervals are disjoint**, and in order. -/
theorem Tiles.pairwise (h : Tiles lo hi xs) : xs.Pairwise fun x y : ℤ × ℕ ↦ x.1 + x.2 ≤ y.1 := by
  induction xs generalizing lo with
  | nil => exact List.Pairwise.nil
  | cons x xs ih =>
    obtain ⟨hx, hxs⟩ := h
    refine List.pairwise_cons.2 ⟨fun y hy ↦ ?_, ih hxs⟩
    have := (hxs.within hy).1
    omega

/-- What the intervals select of a list. -/
theorem Tiles.flatMap {α : Type} (s : List α) {n : ℕ} (h : Tiles (n : ℕ) hi xs) :
    (xs.flatMap fun x ↦ (s.drop x.1.toNat).take x.2) = (s.drop n).take (total xs) := by
  induction xs generalizing n with
  | nil => simp
  | cons x xs ih =>
    obtain ⟨hx, hxs⟩ := h
    have hcast : Tiles ((n + x.2 : ℕ) : ℤ) hi xs := by
      rw [Int.natCast_add]
      exact hxs
    rw [List.flatMap_cons, ih hcast, hx, Int.toNat_natCast, total_cons, List.take_add,
      List.drop_drop]

/-- The first `k` blocks of a size. -/
theorem tiles_blocks (lo : ℤ) (size k : ℕ) :
    Tiles lo (lo + (k * size : ℕ)) ((List.range k).map fun i ↦ (lo + (i * size : ℕ), size)) := by
  induction k with
  | zero => simp [Tiles]
  | succ k ih =>
    rw [List.range_succ, List.map_append, Nat.succ_mul, Int.natCast_add, ← Int.add_assoc]
    exact ih.concat size

end Tiling
