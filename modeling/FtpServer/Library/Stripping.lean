import Mathlib

/-!
# The ends of a list

What is left of a list when the elements that satisfy a predicate are dropped at one end or at both.
A list with an element that stays is not changed in front of it (`rdropWhile_append_cons`) or behind
it (`dropWhile_append_cons`), so the two ends may be dropped in either order
(`dropWhile_rdropWhile`).
-/

namespace Stripping

variable {α : Type} {p q : α → Bool} {a : α} {s : List α}

/-! ### What the ends are then -/

/-- What is left does not begin with what was stripped. -/
theorem head?_dropWhile : ∀ c ∈ (s.dropWhile p).head?, p c = false := by
  intro c hc
  have h := List.head?_dropWhile_not p s
  rw [Option.mem_def.1 hc] at h
  exact h

/-- It does not end with it, either. -/
theorem getLast?_rdropWhile : ∀ c ∈ (s.rdropWhile p).getLast?, p c = false := by
  intro c hc
  have hne : s.rdropWhile p ≠ [] := by
    intro h
    simp [h] at hc
  rw [List.getLast?_eq_some_getLast hne, Option.mem_some_iff] at hc
  simpa [← hc] using List.rdropWhile_last_not p s hne

/-- Stripping at the end leaves the beginning, unless it leaves nothing. -/
theorem head?_rdropWhile (h : s.rdropWhile p ≠ []) : (s.rdropWhile p).head? = s.head? := by
  conv_rhs => rw [← List.rdropWhile_append_rtakeWhile (p := p) (l := s)]
  exact (List.head?_append_of_ne_nil _ h).symm

/-- Stripping adds nothing. -/
theorem not_mem_rdropWhile (h : a ∉ s) : a ∉ s.rdropWhile p :=
  fun hc ↦ h ((List.rdropWhile_prefix p s).subset hc)

/-- Something is left of what is not all to be stripped. -/
theorem rdropWhile_ne_nil (h : ¬(s ≠ [] ∧ s.all p)) (hne : s ≠ []) : s.rdropWhile p ≠ [] := by
  intro hnil
  exact h ⟨hne, List.all_eq_true.2 ((List.rdropWhile_eq_nil_iff).1 hnil)⟩

/-! ### Elements that stay -/

/-- Stripping at the front ends at the first item to keep. -/
theorem dropWhile_append_cons (ha : p a = false) (s t : List α) :
    (s ++ a :: t).dropWhile p = s.dropWhile p ++ a :: t := by
  rw [List.dropWhile_append]
  split_ifs with h
  · rw [List.isEmpty_iff.1 h, List.dropWhile_cons_of_neg (by simp [ha]), List.nil_append]
  · rfl

/-- Stripping at the end ends at the last item to keep. -/
theorem rdropWhile_append_cons (ha : p a = false) (s t : List α) :
    (s ++ a :: t).rdropWhile p = s ++ a :: t.rdropWhile p := by
  rw [List.rdropWhile, List.reverse_append, List.reverse_cons, List.append_assoc,
    List.singleton_append, dropWhile_append_cons ha, List.reverse_append, List.reverse_cons,
    List.reverse_reverse, List.append_assoc, List.singleton_append, List.rdropWhile]

/-- It depends on the items there are only. -/
theorem dropWhile_congr (h : ∀ c ∈ s, p c = q c) : s.dropWhile p = s.dropWhile q := by
  induction s with
  | nil => rfl
  | cons c s ih =>
    obtain ⟨hc, hs⟩ := List.forall_mem_cons.1 h
    rw [List.dropWhile_cons, List.dropWhile_cons, hc, ih hs]

theorem rdropWhile_congr (h : ∀ c ∈ s, p c = q c) : s.rdropWhile p = s.rdropWhile q := by
  rw [List.rdropWhile, dropWhile_congr fun c hc ↦ h c (List.mem_reverse.1 hc), List.rdropWhile]

/-- The two ends of a list are stripped in either order. -/
theorem dropWhile_rdropWhile (p : α → Bool) (s : List α) :
    (s.rdropWhile p).dropWhile p = (s.dropWhile p).rdropWhile p := by
  by_cases hall : ∀ c ∈ s, p c = true
  · rw [List.rdropWhile_eq_nil_iff.2 hall, List.dropWhile_eq_nil_iff.2 hall]
    rfl
  · have hne : s.dropWhile p ≠ [] := fun h ↦ hall (List.dropWhile_eq_nil_iff.1 h)
    obtain ⟨a, t, hat⟩ := List.exists_cons_of_ne_nil hne
    have ha : p a = false := head?_dropWhile a (by rw [hat]; rfl)
    have hs : s = s.takeWhile p ++ a :: t := by rw [← hat, List.takeWhile_append_dropWhile]
    have hfront : (s.takeWhile p).dropWhile p = [] :=
      List.dropWhile_eq_nil_iff.2 fun c hc ↦ List.mem_takeWhile_imp hc
    rw [hat, hs, rdropWhile_append_cons ha, dropWhile_append_cons ha, hfront]
    exact (rdropWhile_append_cons ha [] t).symm

end Stripping
