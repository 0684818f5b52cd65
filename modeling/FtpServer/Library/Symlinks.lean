import Mathlib

/-!
# Paths through symbolic links

How a kernel walks a path through a tree of files in which any entry may be a symbolic link. A
`FileTree` says what stands at each place, and a place is the list of names that leads to it from
the top.

`Resolves tree follow here path place links` is one walk: it begins at `here`, takes the steps of
`path` one after the other, ends at `place`, and has gone through the links at the places `links`,
in this order. A link in the middle is always followed, and its target is walked in its stead, from
the top or from where the link stands; a link at the end is followed only if `follow` says so. An
entry that does not exist may be the last one, since a walk also finds the place of a new file.

* A walk is determined by where it begins and what it is told (`Resolves.unique`).
* A walk along two paths is one walk behind the other (`Resolves.split`).
* A walk follows no link exactly if no link stands in its way (`Resolves.links_eq_nil_iff`), and
  then it ends at the place that its path names (`Resolves.place_eq`).

The last two are about paths that only go down, since a step up leaves what was walked before.
-/

namespace Symlinks

variable {Name : Type}

/-- A step of a path: into the entry of this name, or up. -/
inductive Step (Name : Type) where
  | name (n : Name)
  | up
  deriving DecidableEq, Repr

/-- What may stand at a place. The target of a link starts at the top if it is absolute. -/
inductive Entry (Name : Type) where
  | dir
  | file
  | link (absolute : Bool) (target : List (Step Name))
  deriving DecidableEq, Repr

/-- What stands at each place. -/
abbrev FileTree (Name : Type) := List Name → Option (Entry Name)

/-- A link stands at this place. -/
def IsLink (tree : FileTree Name) (place : List Name) : Prop :=
  ∃ absolute target, tree place = some (.link absolute target)

/-- A walk that succeeds. -/
inductive Resolves (tree : FileTree Name) (follow : Bool) :
    List Name → List (Step Name) → List Name → List (List Name) → Prop
  | done (here : List Name) : Resolves tree follow here [] here []
  | up {here place : List Name} {path : List (Step Name)} {links : List (List Name)}
      (h : Resolves tree follow here.dropLast path place links) :
      Resolves tree follow here (.up :: path) place links
  | enter {here place : List Name} {n : Name} {path : List (Step Name)} {links : List (List Name)}
      (hdir : tree (here ++ [n]) = some .dir)
      (h : Resolves tree follow (here ++ [n]) path place links) :
      Resolves tree follow here (.name n :: path) place links
  | file {here : List Name} {n : Name} (hfile : tree (here ++ [n]) = some .file) :
      Resolves tree follow here [.name n] (here ++ [n]) []
  | fresh {here : List Name} {n : Name} (hnone : tree (here ++ [n]) = none) :
      Resolves tree follow here [.name n] (here ++ [n]) []
  | stop {here : List Name} {n : Name} (hlink : IsLink tree (here ++ [n]))
      (hstop : follow = false) :
      Resolves tree follow here [.name n] (here ++ [n]) []
  | through {here place : List Name} {n : Name} {path target : List (Step Name)} {absolute : Bool}
      {links : List (List Name)} (hlink : tree (here ++ [n]) = some (.link absolute target))
      (hfollow : path = [] → follow = true)
      (h : Resolves tree follow (if absolute then [] else here) (target ++ path) place links) :
      Resolves tree follow here (.name n :: path) place ((here ++ [n]) :: links)

namespace Resolves

variable {tree : FileTree Name} {follow : Bool} {here place : List Name} {path : List (Step Name)}
  {links : List (List Name)}

/-- **A walk is determined** by where it begins, its path, and whether it follows a link at the
end. -/
theorem unique (h : Resolves tree follow here path place links) :
    ∀ {place' : List Name} {links' : List (List Name)},
      Resolves tree follow here path place' links' → place' = place ∧ links' = links := by
  induction h with
  | done here =>
    intro _ _ h'
    cases h'
    exact ⟨rfl, rfl⟩
  | up _ ih =>
    intro _ _ h'
    cases h' with
    | up h' => exact ih h'
  | enter hdir h ih =>
    intro _ _ h'
    cases h' with
    | enter _ h' => exact ih h'
    | file hfile => simp [hdir] at hfile
    | fresh hnone => simp [hdir] at hnone
    | stop hlink _ => simp [IsLink, hdir] at hlink
    | through hlink _ _ => simp [hdir] at hlink
  | file hfile =>
    intro _ _ h'
    cases h' with
    | enter hdir _ => simp [hfile] at hdir
    | file _ => exact ⟨rfl, rfl⟩
    | fresh _ => exact ⟨rfl, rfl⟩
    | stop _ _ => exact ⟨rfl, rfl⟩
    | through hlink _ _ => simp [hfile] at hlink
  | fresh hnone =>
    intro _ _ h'
    cases h' with
    | enter hdir _ => simp [hnone] at hdir
    | file _ => exact ⟨rfl, rfl⟩
    | fresh _ => exact ⟨rfl, rfl⟩
    | stop _ _ => exact ⟨rfl, rfl⟩
    | through hlink _ _ => simp [hnone] at hlink
  | stop hlink hstop =>
    intro _ _ h'
    cases h' with
    | enter hdir _ => simp [IsLink, hdir] at hlink
    | file _ => exact ⟨rfl, rfl⟩
    | fresh _ => exact ⟨rfl, rfl⟩
    | stop _ _ => exact ⟨rfl, rfl⟩
    | through _ hfollow _ => exact absurd (hfollow rfl) (by simp [hstop])
  | through hlink hfollow h ih =>
    intro _ _ h'
    cases h' with
    | enter hdir _ => simp [hlink] at hdir
    | file hfile => simp [hlink] at hfile
    | fresh hnone => simp [hlink] at hnone
    | stop _ hstop => exact absurd (hfollow rfl) (by simp [hstop])
    | through hlink' _ h' =>
      rw [hlink] at hlink'
      cases hlink'
      obtain ⟨rfl, rfl⟩ := ih h'
      exact ⟨rfl, rfl⟩

/-- **A walk along two paths** is a walk along the first, which follows a link at its end, and one
behind it along the second. -/
theorem split {path' : List (Step Name)} (hne : path' ≠ [])
    (h : Resolves tree follow here (path ++ path') place links) :
    ∃ middle links₁ links₂, Resolves tree true here path middle links₁ ∧
      Resolves tree follow middle path' place links₂ ∧ links = links₁ ++ links₂ := by
  generalize hwhole : path ++ path' = whole at h
  induction h generalizing path with
  | done here => exact absurd (List.append_eq_nil_iff.1 hwhole).2 hne
  | @up here place rest links h ih =>
    rcases path with - | ⟨step, path⟩
    · obtain rfl : path' = Step.up :: rest := hwhole
      exact ⟨here, [], links, .done _, .up h, rfl⟩
    · obtain ⟨rfl, rfl⟩ := List.cons.inj hwhole
      obtain ⟨middle, links₁, links₂, h₁, h₂, rfl⟩ := ih rfl
      exact ⟨middle, links₁, links₂, .up h₁, h₂, rfl⟩
  | @enter here place n rest links hdir h ih =>
    rcases path with - | ⟨step, path⟩
    · obtain rfl : path' = Step.name n :: rest := hwhole
      exact ⟨here, [], links, .done _, .enter hdir h, rfl⟩
    · obtain ⟨rfl, rfl⟩ := List.cons.inj hwhole
      obtain ⟨middle, links₁, links₂, h₁, h₂, rfl⟩ := ih rfl
      exact ⟨middle, links₁, links₂, .enter hdir h₁, h₂, rfl⟩
  | @file here n hfile =>
    rcases path with - | ⟨step, path⟩
    · obtain rfl : path' = [Step.name n] := hwhole
      exact ⟨here, [], [], .done _, .file hfile, rfl⟩
    · exact absurd (List.append_eq_nil_iff.1 (List.cons.inj hwhole).2).2 hne
  | @fresh here n hnone =>
    rcases path with - | ⟨step, path⟩
    · obtain rfl : path' = [Step.name n] := hwhole
      exact ⟨here, [], [], .done _, .fresh hnone, rfl⟩
    · exact absurd (List.append_eq_nil_iff.1 (List.cons.inj hwhole).2).2 hne
  | @stop here n hlink hstop =>
    rcases path with - | ⟨step, path⟩
    · obtain rfl : path' = [Step.name n] := hwhole
      exact ⟨here, [], [], .done _, .stop hlink hstop, rfl⟩
    · exact absurd (List.append_eq_nil_iff.1 (List.cons.inj hwhole).2).2 hne
  | @through here place n rest target absolute links hlink hfollow h ih =>
    rcases path with - | ⟨step, path⟩
    · obtain rfl : path' = Step.name n :: rest := hwhole
      exact ⟨here, [], _, .done _, .through hlink hfollow h, rfl⟩
    · obtain ⟨rfl, rfl⟩ := List.cons.inj hwhole
      obtain ⟨middle, links₁, links₂, h₁, h₂, rfl⟩ := ih (List.append_assoc target path path')
      exact ⟨middle, _ :: links₁, links₂, .through hlink (fun _ ↦ rfl) h₁, h₂, rfl⟩

end Resolves

/-! ### Links in the way -/

/-- No link stands in the way of a walk down these names. One at the end stands in the way only of a
walk that follows it. -/
def Clear (tree : FileTree Name) (follow : Bool) (here names : List Name) : Prop :=
  ∀ front n rest, names = front ++ n :: rest → (rest = [] → follow = true) →
    ¬IsLink tree (here ++ front ++ [n])

variable {tree : FileTree Name} {follow : Bool} {here names place : List Name} {n : Name}
  {links : List (List Name)}

theorem clear_nil : Clear tree follow here [] := by
  intro front n rest hnames
  simp at hnames

theorem clear_cons : Clear tree follow here (n :: names) ↔
    ((names = [] → follow = true) → ¬IsLink tree (here ++ [n])) ∧
      Clear tree follow (here ++ [n]) names := by
  constructor
  · intro h
    refine ⟨fun hfollow ↦ by simpa using h [] n names rfl hfollow, ?_⟩
    intro front m rest hnames hfollow
    simpa using h (n :: front) m rest (by rw [hnames, List.cons_append]) hfollow
  · rintro ⟨hfirst, hrest⟩ front m rest hnames hfollow
    rcases front with - | ⟨n', front⟩
    · obtain ⟨rfl, rfl⟩ := List.cons.inj hnames
      simpa using hfirst hfollow
    · obtain ⟨rfl, rfl⟩ := List.cons.inj hnames
      simpa using hrest front m rest rfl hfollow

/-- All that a walk which does not follow the last link leaves to one that does is the entry at the
end. -/
theorem Clear.strengthen (h : Clear tree false here names) (hlast : ¬IsLink tree (here ++ names)) :
    Clear tree true here names := by
  intro front n rest hnames _
  rcases eq_or_ne rest [] with rfl | hne
  · rwa [List.append_assoc, ← hnames]
  · exact h front n rest hnames fun hnil ↦ absurd hnil hne

/-- **A walk down follows no link** if and only if none stands in its way. -/
theorem Resolves.links_eq_nil_iff
    (h : Resolves tree follow here (names.map Step.name) place links) :
    links = [] ↔ Clear tree follow here names := by
  induction names generalizing here with
  | nil =>
    cases h
    exact iff_of_true rfl clear_nil
  | cons n names ih =>
    rw [clear_cons]
    rw [List.map_cons] at h
    generalize hpath : names.map Step.name = path at h
    cases h with
    | enter hdir h =>
      have hfirst : ¬IsLink tree (here ++ [n]) := by simp [IsLink, hdir]
      subst hpath
      rw [ih h]
      exact ⟨fun hclear ↦ ⟨fun _ ↦ hfirst, hclear⟩, fun hclear ↦ hclear.2⟩
    | file hfile =>
      have hfirst : ¬IsLink tree (here ++ [n]) := by simp [IsLink, hfile]
      obtain rfl := List.map_eq_nil_iff.1 hpath
      exact iff_of_true rfl ⟨fun _ ↦ hfirst, clear_nil⟩
    | fresh hnone =>
      have hfirst : ¬IsLink tree (here ++ [n]) := by simp [IsLink, hnone]
      obtain rfl := List.map_eq_nil_iff.1 hpath
      exact iff_of_true rfl ⟨fun _ ↦ hfirst, clear_nil⟩
    | stop hlink hstop =>
      -- the link is where the walk ends, and is left alone
      obtain rfl := List.map_eq_nil_iff.1 hpath
      exact iff_of_true rfl ⟨fun hfollow ↦ by simp [hfollow rfl] at hstop, clear_nil⟩
    | through hlink hfollow h =>
      refine iff_of_false (by simp) fun hclear ↦ hclear.1 (fun hnil ↦ hfollow ?_) ⟨_, _, hlink⟩
      rw [← hpath, hnil, List.map_nil]

/-- Then it ends at the place that the names lead to. -/
theorem Resolves.place_eq (h : Resolves tree follow here (names.map Step.name) place []) :
    place = here ++ names := by
  induction names generalizing here with
  | nil =>
    cases h
    rw [List.append_nil]
  | cons n names ih =>
    rw [List.map_cons] at h
    generalize hpath : names.map Step.name = path at h
    cases h with
    | enter _ h =>
      subst hpath
      rw [ih h, List.append_assoc, List.singleton_append]
    | file _ | fresh _ | stop _ _ => rw [List.map_eq_nil_iff.1 hpath]

end Symlinks
