import Mathlib

/-!
# Looking up a key in a sorted table

A table is sorted with one comparison and searched with another, which compares a key with an entry.
The search finds what is there (`Searches.eq_some_iff`) as soon as both read the same linear order
off the entries. Sorting and searching are given by what their callers may count on.

* `Sorts` and `Searches` are what is asked of a sort and of a search.
-/

namespace Lookup

variable {α κ : Type*}

/-- A function sorts if its result is a permutation, in order whenever the comparison is a total
preorder. -/
structure Sorts (sort : (r : α → α → Prop) → [DecidableRel r] → List α → List α) : Prop where
  perm : ∀ (r : α → α → Prop) [DecidableRel r] l, (sort r l).Perm l
  pairwise : ∀ (r : α → α → Prop) [DecidableRel r] l, (∀ a b, r a b ∨ r b a) →
    (∀ a b c, r a b → r b c → r a c) → (sort r l).Pairwise r

/-- The insertion sort sorts. -/
theorem sorts_insertionSort : Sorts (α := α) fun r _ l ↦ l.insertionSort r where
  perm r _ l := List.perm_insertionSort r l
  pairwise r _ l htotal htrans :=
    haveI : Std.Total r := ⟨htotal⟩
    haveI : IsTrans α r := ⟨htrans⟩
    List.pairwise_insertionSort r l

/-- The entries that the key is above come first, then those that it equals, then those that it is
below. -/
def Arranged (cmp : α → Ordering) (l : List α) : Prop :=
  l.Pairwise fun a b ↦ (cmp a = .lt → cmp b = .lt) ∧ (cmp a = .eq → cmp b ≠ .gt)

/-- A function searches if, in a table that is arranged for the key, it finds an entry that the key
equals or, if there is none, says so. -/
structure Searches (search : (α → Ordering) → List α → Option α) : Prop where
  found : ∀ cmp l a, Arranged cmp l → search cmp l = some a → a ∈ l ∧ cmp a = .eq
  missed : ∀ cmp l, Arranged cmp l → search cmp l = none → ∀ a ∈ l, cmp a ≠ .eq

/-- A linear search finds what a binary search may assume to be arranged. -/
theorem searches_find : Searches (α := α) fun cmp l ↦ l.find? fun a ↦ cmp a = .eq where
  found _ _ _ _ h := ⟨List.mem_of_find?_eq_some h, by simpa using List.find?_some h⟩
  missed _ _ _ h a ha heq := by simpa [heq] using List.find?_eq_none.1 h a ha

section Key

variable [LinearOrder κ]

/-- The comparison reads this order off the entries. -/
structure Compares (k : κ) (key : α → κ) (cmp : α → Ordering) : Prop where
  lt : ∀ a, cmp a = .lt ↔ k < key a
  eq : ∀ a, cmp a = .eq ↔ k = key a

variable {key : α → κ} {k : κ} {cmp : α → Ordering} {l : List α}

/-- The comparison says that the key looked for is greater. -/
theorem Compares.gt (hcmp : Compares k key cmp) (a : α) : cmp a = .gt ↔ key a < k := by
  have hlt := hcmp.lt a
  have heq := hcmp.eq a
  rcases lt_trichotomy k (key a) with h | h | h
  · simp [hlt.2 h, h.not_gt]
  · simp [heq.2 h, h]
  · have hgt : cmp a = .gt := by
      rcases hc : cmp a with - | - | -
      · exact absurd (hlt.1 hc) h.not_gt
      · exact absurd (heq.1 hc) h.ne'
      · rfl
    exact iff_of_true hgt h

/-- A list that is sorted by its keys is arranged for every key. -/
theorem arranged_of_pairwise (hcmp : Compares k key cmp)
    (hl : l.Pairwise fun a b ↦ key a ≤ key b) : Arranged cmp l := by
  refine hl.imp fun {a b} hab ↦ ?_
  rw [hcmp.lt, hcmp.lt, hcmp.eq, Ne, hcmp.gt]
  exact ⟨fun h ↦ h.trans_le hab, fun h ↦ not_lt.2 (h.le.trans hab)⟩

variable {search : (α → Ordering) → List α → Option α}

/-- What a search finds is in the list and has the key. -/
theorem Searches.of_eq_some (hsearch : Searches search) (hcmp : Compares k key cmp)
    (hl : l.Pairwise fun a b ↦ key a ≤ key b) {a : α} (h : search cmp l = some a) :
    a ∈ l ∧ key a = k := by
  obtain ⟨hmem, heq⟩ := hsearch.found cmp l a (arranged_of_pairwise hcmp hl) h
  exact ⟨hmem, ((hcmp.eq a).1 heq).symm⟩

/-- A search that finds nothing has nothing to find. -/
theorem Searches.eq_none_iff (hsearch : Searches search) (hcmp : Compares k key cmp)
    (hl : l.Pairwise fun a b ↦ key a ≤ key b) : search cmp l = none ↔ ∀ a ∈ l, key a ≠ k := by
  refine ⟨fun h a ha hk ↦ ?_, fun h ↦ ?_⟩
  · exact hsearch.missed cmp l (arranged_of_pairwise hcmp hl) h a ha ((hcmp.eq a).2 hk.symm)
  · by_contra hne
    obtain ⟨a, ha⟩ := Option.ne_none_iff_exists'.1 hne
    obtain ⟨hmem, hk⟩ := hsearch.of_eq_some hcmp hl ha
    exact h a hmem hk

/-- **A sorted table without repetitions is a finite map.** -/
theorem Searches.eq_some_iff (hsearch : Searches search) (hcmp : Compares k key cmp)
    (hl : l.Pairwise fun a b ↦ key a ≤ key b) (hne : l.Pairwise fun a b ↦ key a ≠ key b) {a : α} :
    search cmp l = some a ↔ a ∈ l ∧ key a = k := by
  refine ⟨hsearch.of_eq_some hcmp hl, ?_⟩
  rintro ⟨hmem, hk⟩
  rcases hs : search cmp l with - | b
  · exact absurd hk ((hsearch.eq_none_iff hcmp hl).1 hs a hmem)
  · obtain ⟨hmemb, hkb⟩ := hsearch.of_eq_some hcmp hl hs
    have hinj : (l.map key).Nodup := List.pairwise_map.2 hne
    exact congrArg some (List.inj_on_of_nodup_map hinj hmemb hmem (hkb.trans hk.symm))

end Key

end Lookup
