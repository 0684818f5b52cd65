import Mathlib

/-!
# Moving a range in pieces

A range of a list is moved by a sequence of requests, each for so many elements from where the last
request ended. What is granted of a request may be less; the next request starts behind it all the
same. This module says exactly when nothing is left out: of the pieces that were granted anything,
only the last may have been granted less than requested (`moved_isPrefix_iff`), and none for the
whole range to arrive (`moved_eq_drop_iff`).

* `moved` is what arrives of a list, given the requests and what was granted of each.
-/

namespace Blocks

/-- How many elements were requested, and how many of them were granted. -/
structure Piece where
  requested : ℕ
  granted : ℕ
  le : granted ≤ requested
  deriving DecidableEq, Repr

variable {α : Type} {s : List α} {off size : ℕ} {p : Piece} {ps : List Piece}

/-- How much was requested altogether. -/
def totalRequested (ps : List Piece) : ℕ := (ps.map Piece.requested).sum

/-- How much was granted altogether. -/
def totalGranted (ps : List Piece) : ℕ := (ps.map Piece.granted).sum

/-- What is moved of `s`, from the index `off` on. -/
def moved (s : List α) : (off : ℕ) → List Piece → List α
  | _, [] => []
  | off, p :: ps => (s.drop off).take p.granted ++ moved s (off + p.requested) ps

@[simp] theorem totalRequested_cons (p : Piece) (ps : List Piece) :
    totalRequested (p :: ps) = p.requested + totalRequested ps := by
  rw [totalRequested, List.map_cons, List.sum_cons, totalRequested]

@[simp] theorem totalGranted_cons (p : Piece) (ps : List Piece) :
    totalGranted (p :: ps) = p.granted + totalGranted ps := by
  rw [totalGranted, List.map_cons, List.sum_cons, totalGranted]

@[simp] theorem totalRequested_concat (ps : List Piece) (p : Piece) :
    totalRequested (ps ++ [p]) = totalRequested ps + p.requested := by
  simp [totalRequested]

/-- The next piece comes from behind everything that was requested. -/
theorem moved_concat (s : List α) (off : ℕ) (ps : List Piece) (p : Piece) :
    moved s off (ps ++ [p]) =
      moved s off ps ++ (s.drop (off + totalRequested ps)).take p.granted := by
  induction ps generalizing off with
  | nil => simp [moved, totalRequested]
  | cons q ps ih =>
    rw [List.cons_append, moved, ih, moved, totalRequested_cons, List.append_assoc, Nat.add_assoc]

/-- No more is granted than is requested. -/
theorem totalGranted_le (ps : List Piece) : totalGranted ps ≤ totalRequested ps :=
  List.sum_le_sum fun p _ ↦ p.le

/-- Everything was granted if and only if each piece was. -/
theorem totalGranted_eq_iff (ps : List Piece) :
    totalGranted ps = totalRequested ps ↔ ∀ p ∈ ps, p.granted = p.requested := by
  induction ps with
  | nil => simp [totalGranted, totalRequested]
  | cons p ps ih =>
    have hp := p.le
    have hps := totalGranted_le ps
    rw [List.forall_mem_cons, ← ih, totalGranted_cons, totalRequested_cons]
    omega

/-- As many bytes move as are granted, as long as the requests lie within the contents. -/
theorem length_moved (h : off + totalRequested ps ≤ s.length) :
    (moved s off ps).length = totalGranted ps := by
  induction ps generalizing off with
  | nil => rfl
  | cons p ps ih =>
    have hp := p.le
    rw [totalRequested_cons] at h
    rw [moved, List.length_append, ih (by omega), totalGranted_cons, List.length_take,
      List.length_drop]
    omega

/-- If every request is granted in full, what moves is what was requested. -/
theorem moved_of_full (h : ∀ p ∈ ps, p.granted = p.requested) :
    moved s off ps = (s.drop off).take (totalRequested ps) := by
  induction ps generalizing off with
  | nil => rw [moved, totalRequested, List.map_nil, List.sum_nil, List.take_zero]
  | cons p ps ih =>
    obtain ⟨hp, hps⟩ := List.forall_mem_cons.1 h
    rw [moved, ih hps, hp, totalRequested_cons, List.take_add, List.drop_drop]

/-- Nothing moves where nothing is granted. -/
theorem moved_of_granted_nothing (h : ∀ p ∈ ps, p.granted = 0) : moved s off ps = [] := by
  induction ps generalizing off with
  | nil => rfl
  | cons p ps ih =>
    obtain ⟨hp, hps⟩ := List.forall_mem_cons.1 h
    rw [moved, hp, List.take_zero, ih hps, List.nil_append]

/-- A piece that was granted in full does not matter. -/
theorem moved_cons_isPrefix_iff (hp : p.granted = p.requested) :
    moved s off (p :: ps) <+: s.drop off ↔
      moved s (off + p.requested) ps <+: s.drop (off + p.requested) := by
  have hdrop : s.drop off = (s.drop off).take p.requested ++ s.drop (off + p.requested) := by
    rw [← List.drop_drop, List.take_append_drop]
  rw [moved, hp]
  nth_rewrite 2 [hdrop]
  exact List.prefix_append_right_inj _

/-- Unless nothing is granted, what is moved starts with an element of the range. -/
theorem exists_head?_moved (hsize : off + totalRequested ps ≤ size) (h : ¬∀ p ∈ ps, p.granted = 0) :
    ∃ o, off ≤ o ∧ o < size ∧ ∀ s : List α, s.length = size → (moved s off ps).head? = s[o]? := by
  induction ps generalizing off with
  | nil => simp at h
  | cons p ps ih =>
    have hp := p.le
    rw [totalRequested_cons] at hsize
    by_cases hzero : p.granted = 0
    · obtain ⟨o, hle, hlt, ho⟩ := @ih (off + p.requested) (by omega) fun hps ↦
        h (List.forall_mem_cons.2 ⟨hzero, hps⟩)
      refine ⟨o, by omega, hlt, fun s hs ↦ ?_⟩
      rw [moved, hzero, List.take_zero, List.nil_append, ho s hs]
    · refine ⟨off, Nat.le_refl off, by omega, fun s hs ↦ ?_⟩
      have hne : (s.drop off).take p.granted ≠ [] := by
        rw [← List.length_pos_iff, List.length_take, List.length_drop]
        omega
      rw [moved, List.head?_append_of_ne_nil _ hne, List.head?_take, if_neg hzero,
        List.head?_drop]

/-- **When nothing is left out.** Whatever the elements are, what was moved is the start of the
range if and only if nothing was granted behind a piece that was granted less than requested. -/
theorem moved_isPrefix_iff [Nontrivial α] (hsize : off + totalRequested ps ≤ size) :
    (∀ s : List α, s.length = size → moved s off ps <+: s.drop off) ↔
      ps.Pairwise fun p q ↦ p.granted < p.requested → q.granted = 0 := by
  induction ps generalizing off with
  | nil => simp [moved]
  | cons p ps ih =>
    have hp := p.le
    rw [totalRequested_cons] at hsize
    rw [List.pairwise_cons]
    by_cases hfull : p.granted = p.requested
    · have hps := @ih (off + p.requested) (by omega)
      simp only [moved_cons_isPrefix_iff hfull, hps]
      exact (and_iff_right fun q _ hlt ↦ absurd hfull hlt.ne).symm
    have hlt : p.granted < p.requested := by omega
    constructor
    · intro h
      by_contra hnot
      have hsome : ¬∀ q ∈ ps, q.granted = 0 := fun hall ↦ hnot
        ⟨fun q hq _ ↦ hall q hq, List.pairwise_of_forall_mem_list fun _ _ q hq _ ↦ hall q hq⟩
      obtain ⟨o, hle, ho, hhead⟩ :=
        exists_head?_moved (α := α) (show off + p.requested + totalRequested ps ≤ size by omega)
          hsome
      obtain ⟨a, b, hab⟩ := exists_pair_ne α
      -- a list that tells the element moved next from the one that was left out
      let s : List α := (List.range size).map fun i ↦ if i = o then a else b
      have hs : s.length = size := by simp [s]
      obtain ⟨rest, hrest⟩ := h s hs
      have hlen : ((s.drop off).take p.granted).length = p.granted := by
        rw [List.length_take, List.length_drop, hs]
        omega
      have hget : s[off + p.granted]? = s[o]? := by
        calc s[off + p.granted]?
            = (s.drop off)[p.granted]? := by rw [List.getElem?_drop]
          _ = (moved s off (p :: ps) ++ rest)[p.granted]? := by rw [hrest]
          _ = (moved s (off + p.requested) ps ++ rest)[0]? := by
              rw [moved, List.append_assoc, List.getElem?_append_right hlen.le, hlen, Nat.sub_self]
          _ = s[o]? := by
              rw [← hhead s hs, ← List.head?_eq_getElem?, List.head?_append, hhead s hs]
              simp [s, ho]
      have hne : off + p.granted ≠ o := by omega
      have hlt' : off + p.granted < size := by omega
      simp [s, ho, hlt', hne] at hget
      exact hab hget.symm
    · rintro ⟨hzero, -⟩ s -
      rw [moved, moved_of_granted_nothing fun q hq ↦ hzero q hq hlt, List.append_nil]
      exact List.take_prefix _ _

/-- **When everything arrives.** -/
theorem moved_eq_drop_iff (hsize : off + totalRequested ps = s.length) :
    moved s off ps = s.drop off ↔ ∀ p ∈ ps, p.granted = p.requested := by
  constructor
  · intro h
    have hlen := congrArg List.length h
    rw [length_moved hsize.le, List.length_drop] at hlen
    rw [← totalGranted_eq_iff]
    omega
  · intro h
    rw [moved_of_full h, List.take_of_length_le]
    rw [List.length_drop]
    omega

end Blocks
