import Mathlib

/-!
# Words of single letters and groups

The words that begin with at most one introduction and go on with singles and **groups**, each an
opening, any number of parts and a closing. The laws say what may be appended: a single to a word
with all groups closed, a part to one whose last group is open. They hold in every Kleene algebra;
the words themselves are those of the algebra of languages.
-/

open Computability

/-- What the words are made of. -/
structure Groups (K : Type) where
  introduction : K
  single : K
  opening : K
  part : K
  closing : K

namespace Groups

section Laws

variable {K : Type} [KleeneAlgebra K] (s : Groups K)

/-- A group whose end is not there. -/
def unfinished : K := s.opening * s.part∗

def group : K := s.unfinished * s.closing

/-- The words with all groups closed. -/
def closed : K := (1 + s.introduction) * (s.single + s.group)∗

/-- The words whose last group is open. -/
def opened : K := s.closed * s.unfinished

theorem one_add_introduction_le_closed : 1 + s.introduction ≤ s.closed :=
  le_mul_of_one_le_right' one_le_kstar

/-- Nothing at all is closed. -/
theorem one_le_closed : 1 ≤ s.closed :=
  le_trans (by simp [add_eq_sup]) s.one_add_introduction_le_closed

/-- An introduction alone is closed. -/
theorem introduction_le_closed : s.introduction ≤ s.closed :=
  le_trans (by simp [add_eq_sup]) s.one_add_introduction_le_closed

/-- A single or a whole group may follow what is closed. -/
theorem closed_mul_le_closed {a : K} (ha : a ≤ s.single + s.group) : s.closed * a ≤ s.closed := by
  calc s.closed * a
      ≤ (1 + s.introduction) * ((s.single + s.group)∗ * (s.single + s.group)) := by
        rw [closed, mul_assoc]
        gcongr
    _ ≤ s.closed := by
        rw [closed]
        gcongr
        exact kstar_mul_le_kstar

/-- A single may. -/
theorem closed_mul_single_le : s.closed * s.single ≤ s.closed :=
  s.closed_mul_le_closed (by simp [add_eq_sup])

/-- An opening opens what was closed. -/
theorem closed_mul_opening_le : s.closed * s.opening ≤ s.opened := by
  rw [opened, unfinished]
  gcongr
  exact le_mul_of_one_le_right' one_le_kstar

/-- A part leaves it open. -/
theorem opened_mul_part_le : s.opened * s.part ≤ s.opened := by
  rw [opened, unfinished, mul_assoc, mul_assoc]
  gcongr
  exact kstar_mul_le_kstar

/-- A closing closes it. -/
theorem opened_mul_closing_le : s.opened * s.closing ≤ s.closed := by
  rw [opened, mul_assoc]
  exact s.closed_mul_le_closed (by simp [add_eq_sup, group])

end Laws

section Words

variable {α : Type}

/-- The algebra of languages with one letter for each. -/
def letters (introduction single opening part closing : α) : Groups (Language α) where
  introduction := {[introduction]}
  single := {[single]}
  opening := {[opening]}
  part := {[part]}
  closing := {[closing]}

/-- A word of one language may be continued by one of another. -/
theorem append_mem {l m n : Language α} (h : l * m ≤ n) {u v : List α} (hu : u ∈ l) (hv : v ∈ m) :
    u ++ v ∈ n :=
  h (Language.append_mem_mul hu hv)

/-- A word can be continued to one with all groups closed. -/
def Completes (s : Groups (Language α)) (u : List α) : Prop := ∃ v, u ++ v ∈ s.closed

variable {s : Groups (Language α)} {u : List α}

/-- What is closed needs nothing more. -/
theorem completes_of_closed (h : u ∈ s.closed) : s.Completes u := ⟨[], by simpa using h⟩

/-- What is open needs a closing. -/
theorem completes_of_opened {c : List α} (hc : c ∈ s.closing) (h : u ∈ s.opened) :
    s.Completes u :=
  ⟨c, append_mem s.opened_mul_closing_le h hc⟩

end Words

end Groups
