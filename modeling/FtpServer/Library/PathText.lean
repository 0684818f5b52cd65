import Mathlib

/-!
# Normal forms of paths, as stacks and as text

A path is a list over any alphabet, cut into components by a separator `sep`; `dot` is the letter
whose one- and two-letter words mean "here" and "up". The **reference semantics** of a path is on
stacks of names, innermost last: `normalize` folds `stepDir` over the components.

The second half is the same on **text**. A program that edits the rendered path in place never sees
a stack: it cuts the text back to the last separator, or appends a separator and a name, and strips
a separator left at the end. `Shows` says which stack a text stands for, with or without a pending
separator, and each edit is shown to follow the stack (`shows_push`, `shows_pop`, `finish_shows`).
-/

namespace PathText

variable {α : Type}

/-! ### Stacks of names, and their text -/

/-- A component that names an entry of a directory. -/
structure IsName (sep dot : α) (c : List α) : Prop where
  ne_nil : c ≠ []
  sep_not_mem : sep ∉ c
  ne_here : c ≠ [dot]
  ne_up : c ≠ [dot, dot]

/-- A stack as text. -/
def render (sep : α) (dir : List (List α)) : List α :=
  if dir = [] then [sep] else dir.flatMap (sep :: ·)

variable {sep dot : α}

@[simp] theorem render_nil : render sep ([] : List (List α)) = [sep] := rfl

theorem render_of_ne_nil {dir : List (List α)} (h : dir ≠ []) :
    render sep dir = dir.flatMap (sep :: ·) := by
  simp [render, h]

/-- The last component ends the text. -/
theorem render_push (dir : List (List α)) (c : List α) :
    render sep (dir ++ [c]) = dir.flatMap (sep :: ·) ++ sep :: c := by
  simp [render]

theorem render_ne_nil (dir : List (List α)) : render sep dir ≠ [] := by
  rcases dir with - | ⟨c, dir⟩ <;> simp [render]

/-- A path is absolute. -/
theorem head?_render (dir : List (List α)) : (render sep dir).head? = some sep := by
  rcases dir with - | ⟨c, dir⟩ <;> simp [render]

/-- Only the root is written with one letter. -/
theorem length_render_of_ne_nil {dir : List (List α)} (h : ∀ c ∈ dir, IsName sep dot c)
    (hne : dir ≠ []) : 1 < (render sep dir).length := by
  obtain ⟨c, dir, rfl⟩ := List.exists_cons_of_ne_nil hne
  have hc := List.length_pos_iff.2 (h c (by simp)).ne_nil
  simp only [render_of_ne_nil (List.cons_ne_nil c dir), List.flatMap_cons, List.length_append,
    List.length_cons]
  omega

/-- The text of a stack of names ends in a letter of the innermost one. -/
theorem getLast?_render_ne_sep {dir : List (List α)} (h : ∀ c ∈ dir, IsName sep dot c)
    (hne : dir ≠ []) : (render sep dir).getLast? ≠ some sep := by
  obtain ⟨d, c, rfl⟩ := List.eq_nil_or_concat' dir |>.resolve_left hne
  have hc := h c (by simp)
  rw [render_push, List.getLast?_append_of_ne_nil _ (by simp),
    List.getLast?_cons_of_ne_nil hc.ne_nil]
  exact fun hl ↦ hc.sep_not_mem (List.mem_of_getLast? hl)

/-- The text `p` stands for the stack `dir`, possibly with one more separator at its end. -/
def Shows (sep : α) (dir : List (List α)) (p : List α) : Prop :=
  p = render sep dir ∨ (dir ≠ [] ∧ p = render sep dir ++ [sep])

/-- A path under construction is never empty. -/
theorem Shows.ne_nil {dir : List (List α)} {p : List α} (h : Shows sep dir p) : p ≠ [] := by
  obtain rfl | ⟨-, rfl⟩ := h
  · exact render_ne_nil dir
  · simp

/-- It is absolute, too. -/
theorem Shows.head? {dir : List (List α)} {p : List α} (h : Shows sep dir p) :
    p.head? = some sep := by
  obtain rfl | ⟨-, rfl⟩ := h
  · exact head?_render dir
  · rw [List.head?_append, head?_render, Option.some_or]

/-! ### The reference semantics -/

variable [DecidableEq α]

section Reference

variable (sep dot)

instance (c : List α) : Decidable (IsName sep dot c) :=
  decidable_of_iff (c ≠ [] ∧ sep ∉ c ∧ c ≠ [dot] ∧ c ≠ [dot, dot])
    ⟨fun ⟨h₁, h₂, h₃, h₄⟩ ↦ ⟨h₁, h₂, h₃, h₄⟩, fun ⟨h₁, h₂, h₃, h₄⟩ ↦ ⟨h₁, h₂, h₃, h₄⟩⟩

/-- One component, seen from a directory. At the root, "up" stays there. -/
def stepDir (dir : List (List α)) (c : List α) : List (List α) :=
  if c = [] ∨ c = [dot] then dir
  else if c = [dot, dot] then dir.dropLast
  else dir ++ [c]

/-- The directory a path leads to from `dir`. -/
def normalize (dir : List (List α)) (path : List α) : List (List α) :=
  (path.splitOn sep).foldl (stepDir dot) dir

/-- As `stepDir`, but pushing a name must not bring the text to `limit` letters. -/
def stepWithin (limit : ℕ) (dir : List (List α)) (c : List α) : Option (List (List α)) :=
  if c = [] ∨ c = [dot] then some dir
  else if c = [dot, dot] then some dir.dropLast
  else if (render sep (dir ++ [c])).length < limit then some (dir ++ [c])
  else none

/-- As `normalize`, giving up at the first push that is too long. -/
def normalizeWithin (limit : ℕ) (dir : List (List α)) (path : List α) : Option (List (List α)) :=
  (path.splitOn sep).foldlM (stepWithin sep dot limit) dir

end Reference

/-- A name is appended if there is room for it. -/
theorem IsName.stepWithin {limit : ℕ} {dir : List (List α)} {c : List α} (h : IsName sep dot c) :
    stepWithin sep dot limit dir c =
      if (render sep (dir ++ [c])).length < limit then some (dir ++ [c]) else none := by
  simp [PathText.stepWithin, h.ne_nil, h.ne_here, h.ne_up]

/-- Within the limit, the bounded reference is the reference. -/
theorem stepWithin_eq_some {limit : ℕ} {dir dir' : List (List α)} {c : List α}
    (h : stepWithin sep dot limit dir c = some dir') : dir' = stepDir dot dir c := by
  revert h
  simp only [stepWithin, stepDir]
  split_ifs <;> simp +contextual [eq_comm]

/-- Where the room is enough, it does not matter. -/
theorem normalizeWithin_eq_some {limit : ℕ} {dir dir' : List (List α)} {path : List α}
    (h : normalizeWithin sep dot limit dir path = some dir') :
    dir' = normalize sep dot dir path := by
  rw [normalizeWithin] at h
  rw [normalize]
  generalize path.splitOn sep = cs at h
  induction cs generalizing dir with
  | nil => simpa [eq_comm] using h
  | cons c cs ih =>
    rw [List.foldlM_cons] at h
    obtain ⟨d, hd, h⟩ := Option.bind_eq_some_iff.1 h
    rw [List.foldl_cons, ← stepWithin_eq_some hd]
    exact ih h

/-- One step leaves names on the stack, and no other component. -/
theorem isName_of_mem_stepDir {dir : List (List α)} {c : List α} (h : ∀ d ∈ dir, IsName sep dot d)
    (hc : sep ∉ c) : ∀ d ∈ stepDir dot dir c, IsName sep dot d := by
  intro d hd
  rw [stepDir] at hd
  split_ifs at hd with hhere hup
  · exact h d hd
  · exact h d (List.mem_of_mem_dropLast hd)
  · rcases List.mem_append.1 hd with hd | hd
    · exact h d hd
    · obtain rfl := List.mem_singleton.1 hd
      exact ⟨fun hnil ↦ hhere (.inl hnil), hc, fun hdot ↦ hhere (.inr hdot), hup⟩

/-- A component has no separator in it. -/
theorem sep_not_mem_of_mem_splitOn {t c : List α} (h : c ∈ t.splitOn sep) : sep ∉ c := by
  induction t generalizing c with
  | nil =>
    obtain rfl : c = [] := by simpa using h
    simp
  | cons a t ih =>
    rw [List.splitOn_cons_eq_if_modifyHead] at h
    split_ifs at h with ha
    · rcases List.mem_cons.1 h with rfl | h
      · simp
      · exact ih h
    · obtain ⟨c', cs, hcs⟩ := List.exists_cons_of_ne_nil (List.splitOn_ne_nil sep t)
      rw [hcs, List.modifyHead_cons] at h
      rcases List.mem_cons.1 h with rfl | h
      · have hc' : sep ∉ c' := ih (by simp [hcs])
        simp only [beq_iff_eq] at ha
        simp [hc', Ne.symm ha]
      · exact ih (by simp [hcs, h])

/-- From a stack of names, every path leads to one. -/
theorem isName_of_mem_normalize {dir : List (List α)} (h : ∀ d ∈ dir, IsName sep dot d)
    (path : List α) : ∀ d ∈ normalize sep dot dir path, IsName sep dot d := by
  have hsep : ∀ c ∈ path.splitOn sep, sep ∉ c := fun _ ↦ sep_not_mem_of_mem_splitOn
  rw [normalize]
  generalize path.splitOn sep = cs at hsep
  induction cs generalizing dir with
  | nil => exact h
  | cons c cs ih =>
    obtain ⟨hc, hcs⟩ := List.forall_mem_cons.1 hsep
    exact ih (isName_of_mem_stepDir h hc) hcs

/-- Some push on the way along a path brings the text to `limit` letters. -/
def Overflows (sep dot : α) (limit : ℕ) (dir : List (List α)) (path : List α) : Prop :=
  ∃ pre c post, path.splitOn sep = pre ++ c :: post ∧ IsName sep dot c ∧
    limit ≤ (render sep (pre.foldl (stepDir dot) dir ++ [c])).length

/-- Only a name can be too long, as the last component of the path so far. -/
theorem stepWithin_eq_none {limit : ℕ} {dir : List (List α)} {c : List α} (hc : sep ∉ c) :
    stepWithin sep dot limit dir c = none ↔
      IsName sep dot c ∧ limit ≤ (render sep (dir ++ [c])).length := by
  constructor
  · intro h
    have hname : IsName sep dot c := by
      refine ⟨?_, hc, ?_, ?_⟩ <;> rintro rfl <;> simp [stepWithin] at h
    rw [hname.stepWithin] at h
    exact ⟨hname, by simpa using h⟩
  · rintro ⟨hname, hlong⟩
    rw [hname.stepWithin, if_neg (Nat.not_lt.2 hlong)]

/-- The bounded reference gives up exactly when some push is too long. -/
theorem normalizeWithin_eq_none {limit : ℕ} {dir : List (List α)} {path : List α} :
    normalizeWithin sep dot limit dir path = none ↔ Overflows sep dot limit dir path := by
  have hsep : ∀ c ∈ path.splitOn sep, sep ∉ c := fun _ ↦ sep_not_mem_of_mem_splitOn
  rw [normalizeWithin, Overflows]
  generalize path.splitOn sep = cs at hsep
  induction cs generalizing dir with
  | nil => simp
  | cons c cs ih =>
    obtain ⟨hc, hcs⟩ := List.forall_mem_cons.1 hsep
    rw [List.foldlM_cons]
    rcases hstep : stepWithin sep dot limit dir c with - | d
    · obtain ⟨hname, hlong⟩ := (stepWithin_eq_none hc).1 hstep
      exact iff_of_true rfl ⟨[], c, cs, rfl, hname, hlong⟩
    · obtain rfl := stepWithin_eq_some hstep
      refine (ih hcs).trans ⟨?_, ?_⟩
      · rintro ⟨pre, b, post, rfl, hb⟩
        exact ⟨c :: pre, b, post, rfl, hb⟩
      · rintro ⟨- | ⟨a, pre⟩, b, post, heq, hname, hlong⟩
        · obtain ⟨rfl, rfl⟩ := List.cons.inj heq
          have hnone : stepWithin sep dot limit dir c = none :=
            (stepWithin_eq_none hc).2 ⟨hname, hlong⟩
          rw [hnone] at hstep
          cases hstep
        · obtain ⟨rfl, rfl⟩ := List.cons.inj heq
          exact ⟨pre, b, post, rfl, hname, hlong⟩

/-- A letter in no component of the directory nor in the path is in no component of the result. -/
theorem not_mem_of_normalizeWithin {limit : ℕ} {dir dir' : List (List α)} {path : List α} {x : α}
    (hdir : ∀ c ∈ dir, x ∉ c) (hpath : x ∉ path)
    (h : normalizeWithin sep dot limit dir path = some dir') : ∀ c ∈ dir', x ∉ c := by
  have hcs : ∀ c ∈ path.splitOn sep, x ∉ c := by
    intro c hc hx
    have hmem : x ∈ List.intercalate [sep] (path.splitOn sep) := by
      obtain ⟨i, hi⟩ := List.getElem?_of_mem hc
      have hi' := @List.getElem?_intersperse_two_mul _ (path.splitOn sep) [sep] i
      rw [List.intercalate, List.mem_flatten]
      exact ⟨c, List.mem_of_getElem? (hi'.trans hi), hx⟩
    rw [List.intercalate_splitOn] at hmem
    exact hpath hmem
  rw [normalizeWithin] at h
  generalize path.splitOn sep = cs at h hcs
  induction cs generalizing dir with
  | nil =>
    obtain rfl : dir = dir' := by simpa using h
    exact hdir
  | cons c cs ih =>
    rw [List.foldlM_cons] at h
    obtain ⟨d, hd, h⟩ := Option.bind_eq_some_iff.1 h
    obtain ⟨hc, hcs⟩ := List.forall_mem_cons.1 hcs
    refine ih ?_ h hcs
    rw [stepWithin_eq_some hd, stepDir]
    split_ifs
    · exact hdir
    · exact fun b hb ↦ hdir b (List.dropLast_subset _ hb)
    · intro b hb
      rcases List.mem_append.1 hb with hb | hb
      · exact hdir b hb
      · exact List.mem_singleton.1 hb ▸ hc

omit [DecidableEq α] in
/-- What is in no component is not in the path, unless it is the separator. -/
theorem not_mem_render {dir : List (List α)} {x : α} (hx : x ≠ sep) (h : ∀ c ∈ dir, x ∉ c) :
    x ∉ render sep dir := by
  rw [render]
  split_ifs
  · simpa using hx
  · intro hmem
    obtain ⟨c, hc, hmem⟩ := List.mem_flatMap.1 hmem
    rcases List.mem_cons.1 hmem with h0 | h0
    · exact hx h0
    · exact h c hc h0

/-! ### Reading a path from the left -/

/-- An empty path leads nowhere else. -/
@[simp] theorem normalizeWithin_nil (limit : ℕ) (dir : List (List α)) :
    normalizeWithin sep dot limit dir [] = some dir := by
  simp [normalizeWithin, stepWithin]

/-- A separator in front of a path changes nothing. -/
theorem normalizeWithin_sep_cons (limit : ℕ) (dir : List (List α)) (path : List α) :
    normalizeWithin sep dot limit dir (sep :: path) = normalizeWithin sep dot limit dir path := by
  rw [normalizeWithin, List.splitOn_cons_eq_if_modifyHead]
  simp [normalizeWithin, stepWithin]

/-- Separators in front of a path do nothing. -/
theorem normalizeWithin_dropWhile (limit : ℕ) (dir : List (List α)) (path : List α) :
    normalizeWithin sep dot limit dir (path.dropWhile (· = sep)) =
      normalizeWithin sep dot limit dir path := by
  induction path with
  | nil => rfl
  | cons a path ih =>
    by_cases ha : a = sep
    · rw [List.dropWhile_cons_of_pos (by simpa using ha), ih, ha, normalizeWithin_sep_cons]
    · rw [List.dropWhile_cons_of_neg (by simpa using ha)]

/-- The first component of a path is taken before the rest is looked at. -/
theorem normalizeWithin_append {limit : ℕ} {dir : List (List α)} {name rest : List α}
    (hname : sep ∉ name) (hrest : ∀ a ∈ rest.head?, a = sep) :
    normalizeWithin sep dot limit dir (name ++ rest) =
      (stepWithin sep dot limit dir name).bind fun d ↦
        normalizeWithin sep dot limit d rest := by
  cases rest with
  | nil =>
    rw [List.append_nil, normalizeWithin, List.splitOn_eq_singleton hname, List.foldlM_cons]
    simp only [normalizeWithin_nil]
    rfl
  | cons a rest =>
    obtain rfl : a = sep := hrest a (by simp)
    simp only [normalizeWithin_sep_cons]
    rw [normalizeWithin, List.splitOn_append_cons_self_of_not_mem hname, List.foldlM_cons]
    rfl

/-- Cutting a rendered text at its separators gives the names back. -/
theorem splitOn_tail_render {dir : List (List α)} (h : ∀ c ∈ dir, IsName sep dot c)
    (hne : dir ≠ []) : (render sep dir).tail.splitOn sep = dir := by
  induction dir with
  | nil => exact absurd rfl hne
  | cons c dir ih =>
    have hc := (h c (by simp)).sep_not_mem
    rw [render_of_ne_nil (List.cons_ne_nil c dir), List.flatMap_cons, List.cons_append,
      List.tail_cons]
    by_cases hd : dir = []
    · simp [hd, List.splitOn_eq_singleton hc]
    · have ih' := ih (fun c hc ↦ h c (by simp [hc])) hd
      obtain ⟨c', dir', rfl⟩ := List.exists_cons_of_ne_nil hd
      rw [render_of_ne_nil (List.cons_ne_nil c' dir')] at ih'
      rw [List.flatMap_cons, List.cons_append, List.splitOn_append_cons_self_of_not_mem hc]
      simpa using ih'

/-- Any list of components is the text that `splitOn` cut it from. -/
theorem render_splitOn (t : List α) : render sep (t.splitOn sep) = sep :: t := by
  have hflat : ∀ cs : List (List α), cs ≠ [] →
      cs.flatMap (sep :: ·) = sep :: [sep].intercalate cs := by
    intro cs
    induction cs with
    | nil => simp
    | cons c cs ih =>
      intro _
      by_cases hcs : cs = []
      · simp [hcs]
      · rw [List.flatMap_cons, ih hcs, List.intercalate_cons_of_ne_nil hcs]
        simp
  rw [render_of_ne_nil (List.splitOn_ne_nil sep t), hflat _ (List.splitOn_ne_nil sep t),
    List.intercalate_splitOn]

/-! ### Editing the text in place -/

/-- Append a name, with a separator before it unless there is one. -/
def pushText (sep : α) (p c : List α) : List α :=
  (if p.getLast? = some sep then p else p ++ [sep]) ++ c

/-- Remove at least one letter, and then everything after the last separator. -/
def popText (sep : α) (p : List α) : List α := p.dropLast.rdropWhile (· ≠ sep)

/-- Remove a separator at the end, unless it is all there is. -/
def finishText (sep : α) (p : List α) : List α :=
  if 1 < p.length ∧ p.getLast? = some sep then p.dropLast else p

section Shows

variable {dir : List (List α)} {p c : List α} (hdir : ∀ c ∈ dir, IsName sep dot c)
include hdir

/-- A name is appended to the text as to the directory. -/
theorem shows_push (h : Shows sep dir p) : pushText sep p c = render sep (dir ++ [c]) := by
  rw [render_push, pushText]
  by_cases hne : dir = []
  · subst hne
    obtain rfl | ⟨hne, -⟩ := h
    · simp
    · exact absurd rfl hne
  · obtain rfl | ⟨-, rfl⟩ := h
    · rw [if_neg (getLast?_render_ne_sep hdir hne), render_of_ne_nil hne]
      simp
    · rw [if_pos (by simp), render_of_ne_nil hne]
      simp

/-- The last component is cut off the text as off the directory. -/
theorem shows_pop (h : Shows sep dir p) (hp : 1 < p.length) :
    Shows sep dir.dropLast (popText sep p) := by
  have hne : dir ≠ [] := by
    rintro rfl
    obtain rfl | ⟨hne, -⟩ := h
    · simp at hp
    · exact absurd rfl hne
  obtain ⟨d, c, rfl⟩ := List.eq_nil_or_concat' dir |>.resolve_left hne
  have hc := hdir c (by simp)
  -- with or without a pending separator, removing a letter leaves some letters of `c`
  have hcut : ∃ c', (∀ a ∈ c', a ≠ sep) ∧ p.dropLast = d.flatMap (sep :: ·) ++ [sep] ++ c' := by
    obtain rfl | ⟨-, rfl⟩ := h
    · refine ⟨c.dropLast, ?_, ?_⟩
      · exact fun a ha has ↦ hc.sep_not_mem (has ▸ List.dropLast_subset _ ha)
      · rw [render_push, List.dropLast_append_of_ne_nil (by simp),
          List.dropLast_cons_of_ne_nil hc.ne_nil]
        simp
    · refine ⟨c, fun a ha has ↦ hc.sep_not_mem (has ▸ ha), ?_⟩
      rw [List.dropLast_concat, render_push]
      simp
  obtain ⟨c', hc', hcut⟩ := hcut
  have hpop : popText sep p = d.flatMap (sep :: ·) ++ [sep] := by
    rw [popText, hcut, List.rdropWhile, List.reverse_append,
      List.dropWhile_append_of_pos (fun a ha ↦ by simpa using hc' a (List.mem_reverse.1 ha)),
      List.reverse_append, List.reverse_singleton, List.singleton_append,
      List.dropWhile_cons_of_neg (by simp)]
    simp
  rw [List.dropLast_concat, hpop]
  by_cases hd : d = []
  · exact .inl (by simp [hd])
  · exact .inr ⟨hd, by rw [render_of_ne_nil hd]⟩

/-- The finished text is the directory, as it is written. -/
theorem finish_shows (h : Shows sep dir p) : finishText sep p = render sep dir := by
  obtain rfl | ⟨hne, rfl⟩ := h
  · rw [finishText, if_neg]
    rintro ⟨hlen, hlast⟩
    refine getLast?_render_ne_sep hdir ?_ hlast
    rintro rfl
    simp at hlen
  · have : 0 < (render sep dir).length := List.length_pos_iff.2 (render_ne_nil dir)
    rw [finishText, if_pos ⟨by simp; omega, by simp⟩, List.dropLast_concat]

end Shows

/-! ### The last component -/

/-- What is behind the last separator is the last component. -/
theorem splitOn_append_sep_cons (front : List α) {base : List α} (hbase : sep ∉ base) :
    (front ++ sep :: base).splitOn sep = front.splitOn sep ++ [base] := by
  rw [List.splitOn_append_cons_self, List.splitOn_eq_singleton hbase]

/-- The last component of a path is what follows its last separator. -/
theorem getLast?_splitOn (path : List α) :
    (path.splitOn sep).getLast? = some (path.rtakeWhile (· ≠ sep)) := by
  have hbase : sep ∉ path.rtakeWhile (· ≠ sep) := fun h ↦ by
    simpa using List.mem_rtakeWhile_imp h
  have hpath := List.rdropWhile_append_rtakeWhile (p := (· ≠ sep)) (l := path)
  generalize path.rtakeWhile (· ≠ sep) = base at hbase hpath
  rcases List.eq_nil_or_concat' (path.rdropWhile (· ≠ sep)) with hfront | ⟨front, a, hfront⟩
  · rw [hfront, List.nil_append] at hpath
    rw [← hpath, List.splitOn_eq_singleton hbase]
    rfl
  · have ha : a = sep := by
      have hlast := List.rdropWhile_last_not (fun b ↦ decide (b ≠ sep)) path
      simp only [hfront, List.getLast_concat, decide_eq_true_eq, not_not] at hlast
      exact hlast (List.concat_ne_nil a front)
    rw [← hpath, hfront, ha, List.append_assoc, List.singleton_append,
      splitOn_append_sep_cons _ hbase, List.getLast?_concat]

/-- A path whose last component is a name leads to an entry of that name. -/
theorem getLast?_normalize {dir : List (List α)} {path c : List α}
    (hc : IsName sep dot c) (hlast : path.rtakeWhile (· ≠ sep) = c) :
    (normalize sep dot dir path).getLast? = some c := by
  have hsplit := @getLast?_splitOn _ sep _ path
  rw [hlast] at hsplit
  obtain ⟨front, hfront⟩ := List.getLast?_eq_some_iff.1 hsplit
  rw [normalize, hfront, List.foldl_append, List.foldl_cons, List.foldl_nil, stepDir,
    if_neg (by simp [hc.ne_nil, hc.ne_here]), if_neg hc.ne_up, List.getLast?_concat]

end PathText
