import Mathlib

/-!
# Rosters

A roster knows something of each of its members. Members join it, leave it, and send messages that
change what is known of them. Abstractly, a roster is a partial function of the keys (`replay`); it
can be kept as a list of records, in the order in which their members joined (`replayList`), as long
as nobody joins twice (`Represents.joined`).
-/

namespace Roster

variable {K V M : Type}

/-- What can happen to a roster. -/
inductive Event (K V M : Type) where
  | joined (k : K) (v : V)
  | left (k : K)
  | sent (k : K) (m : M)

def Event.sent? : Event K V M → Option (K × M)
  | .sent k m => some (k, m)
  | _ => none

section

variable [DecidableEq K] (key : V → K) (receive : M → V → V)

/-! ### The two rosters -/

/-- What is known of each key after an event. -/
def Event.apply (f : K → Option V) : Event K V M → K → Option V
  | .joined k v => Function.update f k (some v)
  | .left k => Function.update f k none
  | .sent k m => Function.update f k ((f k).map (receive m))

/-- What is known of each key in the end. -/
def replay (events : List (Event K V M)) : K → Option V :=
  events.foldl (Event.apply receive) fun _ ↦ none

/-- The first record with the key is changed. -/
def change (k : K) (f : V → V) : List V → List V
  | [] => []
  | v :: l => if key v = k then f v :: l else v :: change k f l

/-- The records after an event. -/
def Event.applyList (l : List V) : Event K V M → List V
  | .joined _ v => l ++ [v]
  | .left k => l.eraseP (key · = k)
  | .sent k m => change key k (receive m) l

def replayList (events : List (Event K V M)) : List V :=
  events.foldl (Event.applyList key receive) []

/-- More events go on from where the others have led. -/
theorem replay_append (receive : M → V → V) (events events' : List (Event K V M)) :
    replay receive (events ++ events') = events'.foldl (Event.apply receive)
      (replay receive events) :=
  List.foldl_append

/-- So do they on the list. -/
theorem replayList_append (key : V → K) (receive : M → V → V)
    (events events' : List (Event K V M)) :
    replayList key receive (events ++ events') =
      events'.foldl (Event.applyList key receive) (replayList key receive events) :=
  List.foldl_append

/-- The records say what is known, each key once. -/
structure Represents (l : List V) (f : K → Option V) : Prop where
  nodup : (l.map key).Nodup
  eq_some_iff : ∀ k v, f k = some v ↔ v ∈ l ∧ key v = k

variable {key receive} {l : List V} {f : K → Option V} {k : K} {v : V} {m : M}

/-- The list finds what the map has. -/
theorem Represents.find?_eq (h : Represents key l f) (k : K) : l.find? (key · = k) = f k := by
  rcases hk : f k with - | v
  · rw [List.find?_eq_none]
    intro v hv hkey
    have hsome := (h.eq_some_iff k v).2 ⟨hv, by simpa using hkey⟩
    rw [hk] at hsome
    cases hsome
  · obtain ⟨hv, rfl⟩ := (h.eq_some_iff k v).1 hk
    obtain ⟨v', hfound⟩ := Option.isSome_iff_exists.1
      (List.find?_isSome (p := (key · = key v)) |>.2 ⟨v, hv, by simp⟩)
    have hkey : key v' = key v := by simpa using List.find?_some hfound
    rw [hfound, List.inj_on_of_nodup_map h.nodup (List.mem_of_find?_eq_some hfound) hv hkey]

/-- A message does not change whose entry it is. -/
theorem map_key_change (hreceive : ∀ v, key (receive m v) = key v) (k : K) (l : List V) :
    (change key k (receive m) l).map key = l.map key := by
  induction l with
  | nil => rfl
  | cons v l ih =>
    rw [change]
    split_ifs
    · rw [List.map_cons, List.map_cons, hreceive]
    · rw [List.map_cons, List.map_cons, ih]

/-- Of records with different keys, one is changed. -/
theorem mem_change (hl : (l.map key).Nodup) :
    v ∈ change key k (receive m) l ↔
      v ∈ l ∧ key v ≠ k ∨ ∃ v' ∈ l, key v' = k ∧ receive m v' = v := by
  induction l with
  | nil => simp [change]
  | cons u l ih =>
    rw [List.map_cons, List.nodup_cons] at hl
    rw [change]
    split_ifs with hu
    -- the keys are distinct, so nobody behind the one that was changed has its key
    · have hne : ∀ v ∈ l, key v ≠ k := by
        rintro v hv rfl
        exact hl.1 (hu ▸ List.mem_map_of_mem hv)
      constructor
      · rintro (_ | ⟨_, hv⟩)
        · exact .inr ⟨u, List.mem_cons_self, hu, rfl⟩
        · exact .inl ⟨List.mem_cons_of_mem _ hv, hne v hv⟩
      · rintro (⟨_ | ⟨_, hv⟩, hkey⟩ | ⟨v', _ | ⟨_, hv'⟩, hkey, rfl⟩)
        · exact absurd hu hkey
        · exact List.mem_cons_of_mem _ hv
        · exact List.mem_cons_self
        · exact absurd hkey (hne v' hv')
    · rw [List.mem_cons, ih hl.2]
      constructor
      · rintro (rfl | ⟨hv, hkey⟩ | ⟨v', hv', hkey⟩)
        · exact .inl ⟨List.mem_cons_self, hu⟩
        · exact .inl ⟨List.mem_cons_of_mem _ hv, hkey⟩
        · exact .inr ⟨v', List.mem_cons_of_mem _ hv', hkey⟩
      · rintro (⟨_ | ⟨_, hv⟩, hkey⟩ | ⟨v', _ | ⟨_, hv'⟩, hkey, rfl⟩)
        · exact .inl rfl
        · exact .inr (.inl ⟨hv, hkey⟩)
        · exact absurd hkey hu
        · exact .inr (.inr ⟨v', hv', hkey, rfl⟩)

/-- Of records with different keys, one is erased. -/
theorem mem_eraseP_key (hl : (l.map key).Nodup) :
    v ∈ l.eraseP (key · = k) ↔ v ∈ l ∧ key v ≠ k := by
  induction l with
  | nil => simp
  | cons u l ih =>
    rw [List.map_cons, List.nodup_cons] at hl
    by_cases hu : key u = k
    · rw [List.eraseP_cons_of_pos (by simpa using hu)]
      constructor
      · intro hv
        refine ⟨List.mem_cons_of_mem _ hv, ?_⟩
        rintro rfl
        exact hl.1 (hu ▸ List.mem_map_of_mem hv)
      · rintro ⟨_ | ⟨_, hv⟩, hkey⟩
        · exact absurd hu hkey
        · exact hv
    · rw [List.eraseP_cons_of_neg (by simpa using hu), List.mem_cons, ih hl.2, List.mem_cons]
      constructor
      · rintro (rfl | ⟨hv, hkey⟩)
        · exact ⟨.inl rfl, hu⟩
        · exact ⟨.inr hv, hkey⟩
      · rintro ⟨rfl | hv, hkey⟩
        · exact .inl rfl
        · exact .inr ⟨hv, hkey⟩

/-! ### The list does what the roster does -/

omit [DecidableEq K] in
/-- The empty list represents the empty map. -/
theorem represents_nil : Represents key [] fun _ ↦ none :=
  ⟨List.nodup_nil, by simp⟩

/-- A newcomer is put in front of the list. -/
theorem Represents.joined (h : Represents key l f) (receive : M → V → V)
    (hnew : f (key v) = none) :
    Represents key (Event.applyList key receive l (.joined (key v) v))
      (Event.apply receive f (.joined (key v) v)) := by
  have hother : ∀ v' ∈ l, key v' ≠ key v := by
    intro v' hv' hkey
    have hsome := (h.eq_some_iff (key v) v').2 ⟨hv', hkey⟩
    rw [hnew] at hsome
    cases hsome
  refine ⟨?_, fun k' v' ↦ ?_⟩
  · rw [Event.applyList, List.map_append]
    refine h.nodup.append (List.nodup_singleton _) ?_
    simpa [List.disjoint_singleton] using hother
  simp only [Event.apply, Event.applyList, List.mem_append, List.mem_singleton,
    Function.update_apply]
  split_ifs with hk
  · subst hk
    constructor
    · rintro ⟨⟩
      exact ⟨.inr rfl, rfl⟩
    · rintro ⟨hv' | rfl, hkey⟩
      · exact absurd hkey (hother v' hv')
      · rfl
  · rw [h.eq_some_iff]
    constructor
    · exact fun ⟨hv', hkey⟩ ↦ ⟨.inl hv', hkey⟩
    · rintro ⟨hv' | rfl, hkey⟩
      · exact ⟨hv', hkey⟩
      · exact absurd hkey.symm hk

/-- The entry of one who leaves is taken out. -/
theorem Represents.left (h : Represents key l f) (receive : M → V → V) (k : K) :
    Represents key (Event.applyList key receive l (.left k))
      (Event.apply receive f (.left k)) := by
  refine ⟨h.nodup.sublist (List.eraseP_sublist.map key), fun k' v' ↦ ?_⟩
  simp only [Event.apply, Event.applyList, mem_eraseP_key h.nodup, Function.update_apply]
  split_ifs with hk
  · subst hk
    simp
  · rw [h.eq_some_iff]
    constructor
    · rintro ⟨hv', rfl⟩
      exact ⟨⟨hv', hk⟩, rfl⟩
    · exact fun ⟨⟨hv', _⟩, hkey⟩ ↦ ⟨hv', hkey⟩

/-- The entry of one who has sent something receives it. -/
theorem Represents.sent (h : Represents key l f) (hreceive : ∀ v, key (receive m v) = key v)
    (k : K) : Represents key (Event.applyList key receive l (.sent k m))
      (Event.apply receive f (.sent k m)) := by
  refine ⟨?_, fun k' v' ↦ ?_⟩
  · rw [Event.applyList, map_key_change hreceive]
    exact h.nodup
  simp only [Event.apply, Event.applyList, mem_change h.nodup, Function.update_apply]
  split_ifs with hk
  · subst hk
    rw [Option.map_eq_some_iff]
    constructor
    · rintro ⟨v, hv, rfl⟩
      obtain ⟨hmem, hkey⟩ := (h.eq_some_iff _ v).1 hv
      exact ⟨.inr ⟨v, hmem, hkey, rfl⟩, by rw [hreceive, hkey]⟩
    · rintro ⟨(⟨-, hkey⟩ | ⟨v, hmem, hkey, rfl⟩), hkey'⟩
      · exact absurd hkey' hkey
      · exact ⟨v, (h.eq_some_iff _ v).2 ⟨hmem, hkey⟩, rfl⟩
  · rw [h.eq_some_iff]
    constructor
    · rintro ⟨hv', rfl⟩
      exact ⟨.inl ⟨hv', hk⟩, rfl⟩
    · rintro ⟨(⟨hv', -⟩ | ⟨v, -, hkey, rfl⟩), hkey'⟩
      · exact ⟨hv', hkey'⟩
      · exact absurd (hkey'.symm.trans ((hreceive v).trans hkey)) hk

/-! ### What is known of one member -/

/-- What a member joined with, and what it has sent since; none if it has left. -/
def Event.career (k : K) (c : Option (V × List M)) : Event K V M → Option (V × List M)
  | .joined k' v => if k' = k then some (v, []) else c
  | .left k' => if k' = k then none else c
  | .sent k' m => if k' = k then c.map fun (v, ms) ↦ (v, ms ++ [m]) else c

def career (k : K) (events : List (Event K V M)) : Option (V × List M) :=
  events.foldl (Event.career k) none

/-- A record to which messages were applied. -/
def receiveAll (receive : M → V → V) (v : V) (ms : List M) : V := ms.foldl (fun v m ↦ receive m v) v

/-- **What is known of a member** is what it has said since it joined. -/
theorem replay_eq_career (receive : M → V → V) (events : List (Event K V M)) (k : K) :
    replay receive events k = (career k events).map fun (v, ms) ↦ receiveAll receive v ms := by
  induction events using List.reverseRecOn with
  | nil => rfl
  | append_singleton events event ih =>
    have hcareer : career k (events ++ [event]) = event.career k (career k events) :=
      List.foldl_append
    rw [replay_append, List.foldl_cons, List.foldl_nil, hcareer]
    cases event with
    | joined k' v =>
      rw [Event.apply, Event.career, Function.update_apply]
      split_ifs with h h' h'
      · rfl
      · exact absurd h.symm h'
      · exact absurd h'.symm h
      · exact ih
    | left k' =>
      rw [Event.apply, Event.career, Function.update_apply]
      split_ifs with h h' h'
      · rfl
      · exact absurd h.symm h'
      · exact absurd h'.symm h
      · exact ih
    | sent k' m =>
      rw [Event.apply, Event.career, Function.update_apply]
      split_ifs with h h' h'
      · subst h
        rw [ih, Option.map_map, Option.map_map]
        rcases career k events with - | ⟨v, ms⟩
        · rfl
        · simp [receiveAll]
      · exact absurd h.symm h'
      · exact absurd h'.symm h
      · exact ih

end

end Roster
