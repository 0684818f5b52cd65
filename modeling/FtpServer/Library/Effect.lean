import Mathlib

/-!
# Programs that call an environment

A program here is a state transformer that may **call** its environment, and every call is recorded
with its answer on a trace. The environment is an arbitrary function of the trace so far, so a
statement about all environments is a statement about every pattern of answers, adaptive ones
included, and what the environment is assumed to respect is a predicate on traces.

Nothing below knows which calls there are: an `Interface` supplies the calls, the type of each
call's answer, and a type of *notes*. A note is a ghost entry of the trace: it marks a point of the
program for a specification to refer to and has no other effect.

## Runs of any length

An environment answers `limit` calls and then blocks. A program that loops forever therefore still
has a run under every environment, which stops inside the call that was not answered, and a
statement about all limits speaks of every finite prefix of every run. `Proc.loop` takes its fuel
from the same limit, so no fuel appears in the programs or in the statements about them.

## Two ways of reasoning

* `Proc.wp` is the usual predicate transformer, with one postcondition for a program that returns
  and one for a program that stops early.
* `Proc.Within` relates the worlds before and after a program, however it ended. For a relation
  that composes (`Guard`) it is closed under every program former, which makes it the tool for
  invariants and frame conditions.
-/

namespace Effect

/-- What a program may ask of its environment. -/
structure Interface where
  /-- The calls. -/
  Call : Type
  /-- The answers to a call. -/
  Ret : Call → Type
  /-- Ghost entries of the trace. -/
  Note : Type

/-- An entry of a trace: a call with its answer, or a note. -/
inductive Item (I : Interface) where
  | call (c : I.Call) (r : I.Ret c)
  | note (n : I.Note)

/-- An environment: its answer to a call, given everything that happened before, and the length of
trace from which on it answers no more. -/
structure Env (I : Interface) where
  answer : List (Item I) → (c : I.Call) → I.Ret c
  limit : ℕ

/-- The state of a program together with the trace of its calls, oldest first. -/
structure World (I : Interface) (σ : Type) where
  st : σ
  trace : List (Item I)

/-- Why a program stopped before returning: a call was not answered, or the program did something
that has no defined meaning. -/
inductive Halt where
  | blocked
  | fault
  deriving DecidableEq, Repr

/-- How a run of a program ended. -/
inductive Outcome (α : Type) where
  | ret (a : α)
  | halt (h : Halt)
  deriving DecidableEq, Repr

/-- A program with state `σ` that returns an `α`. -/
def Proc (I : Interface) (σ α : Type) : Type :=
  Env I → World I σ → Outcome α × World I σ

variable {I : Interface} {σ α β τ : Type}

/-- The world at the start of a program: nothing has been called yet. -/
def World.start (s : σ) : World I σ := ⟨s, []⟩

@[simp] theorem World.start_st (s : σ) : (World.start s : World I σ).st = s := rfl

/-- A program starts with nothing in the trace. -/
@[simp] theorem World.start_trace (s : σ) : (World.start s : World I σ).trace = [] := rfl

/-! ### Properties of a trace -/

/-- Every entry satisfies `S`, together with what came before it. -/
def AtEach (S : List (Item I) → Item I → Prop) (trace : List (Item I)) : Prop :=
  ∀ pre x post, trace = pre ++ x :: post → S pre x

theorem atEach_nil (S : List (Item I) → Item I → Prop) : AtEach S [] := by
  intro pre x post h
  simp at h

/-- A property of all entries with what was before them, for one entry more. -/
theorem atEach_concat {S : List (Item I) → Item I → Prop} {trace : List (Item I)} {x : Item I} :
    AtEach S (trace ++ [x]) ↔ AtEach S trace ∧ S trace x := by
  constructor
  · refine fun h ↦ ⟨fun pre y post heq ↦ h pre y (post ++ [x]) (by simp [heq]), h trace x [] rfl⟩
  · rintro ⟨h, hx⟩ pre y post heq
    rcases List.eq_nil_or_concat' post with rfl | ⟨post', z, rfl⟩
    · obtain ⟨rfl, rfl⟩ : trace = pre ∧ x = y := by simpa using heq
      exact hx
    · rw [← List.cons_append, ← List.append_assoc] at heq
      exact h pre y post' (List.append_inj_left' heq rfl)

/-- It holds of every beginning of the trace. -/
theorem AtEach.of_append {S : List (Item I) → Item I → Prop} {trace suffix : List (Item I)}
    (h : AtEach S (trace ++ suffix)) : AtEach S trace :=
  fun pre x post heq ↦ h pre x (post ++ suffix) (by simp [heq])

/-- Every entry of `post` satisfies `S`, together with `pre` and what is between them. -/
def AtEachFrom (S : List (Item I) → Item I → Prop) : (pre post : List (Item I)) → Prop
  | _, [] => True
  | pre, x :: post => S pre x ∧ AtEachFrom S (pre ++ [x]) post

instance AtEachFrom.decidable {S : List (Item I) → Item I → Prop}
    [∀ pre x, Decidable (S pre x)] : (pre post : List (Item I)) → Decidable (AtEachFrom S pre post)
  | _, [] => .isTrue trivial
  | pre, x :: post =>
    have := AtEachFrom.decidable (S := S) (pre ++ [x]) post
    inferInstanceAs (Decidable (S pre x ∧ AtEachFrom S (pre ++ [x]) post))

/-- It is one of every way to split the rest of the trace at an entry. -/
theorem atEachFrom_iff {S : List (Item I) → Item I → Prop} (pre post : List (Item I)) :
    AtEachFrom S pre post ↔ ∀ mid x rest, post = mid ++ x :: rest → S (pre ++ mid) x := by
  induction post generalizing pre with
  | nil => simp [AtEachFrom]
  | cons y post ih =>
    rw [AtEachFrom, ih]
    constructor
    · rintro ⟨hy, h⟩ mid x rest heq
      rcases mid with - | ⟨z, mid⟩
      · obtain ⟨rfl, rfl⟩ := List.cons.inj heq
        simpa using hy
      · obtain ⟨rfl, heq'⟩ := List.cons.inj heq
        simpa using h mid x rest heq'
    · refine fun h ↦ ⟨by simpa using h [] y post rfl, fun mid x rest heq ↦ ?_⟩
      simpa using h (y :: mid) x rest (by rw [heq, List.cons_append])

/-- A property that can be decided at each entry can be decided of a trace. -/
instance {S : List (Item I) → Item I → Prop} [∀ pre x, Decidable (S pre x)]
    (trace : List (Item I)) : Decidable (AtEach S trace) :=
  decidable_of_iff (AtEachFrom S [] trace) (atEachFrom_iff [] trace)

/-- The trace of `w'` is that of `w` with more entries, all of which satisfy `Q`. -/
def Extends (Q : Item I → Prop) (w w' : World I σ) : Prop :=
  ∃ suffix, w'.trace = w.trace ++ suffix ∧ ∀ x ∈ suffix, Q x

section Extends

variable {Q Q' : Item I → Prop} {S : List (Item I) → Item I → Prop} {w w₁ w₂ w₃ : World I σ}

/-- Nothing happened. -/
theorem Extends.of_eq (h : w₂.trace = w₁.trace) : Extends Q w₁ w₂ :=
  ⟨[], by simp [h], by simp⟩

theorem Extends.refl (w : World I σ) : Extends Q w w := .of_eq rfl

/-- What happens after another has happened after both. -/
theorem Extends.trans (h₁ : Extends Q w₁ w₂) (h₂ : Extends Q w₂ w₃) : Extends Q w₁ w₃ := by
  obtain ⟨s₁, ht₁, hs₁⟩ := h₁
  obtain ⟨s₂, ht₂, hs₂⟩ := h₂
  refine ⟨s₁ ++ s₂, by rw [ht₂, ht₁, List.append_assoc], fun x hx ↦ ?_⟩
  rcases List.mem_append.1 hx with hx | hx
  · exact hs₁ x hx
  · exact hs₂ x hx

/-- One thing happened. -/
theorem Extends.concat {x : Item I} (h : w₂.trace = w₁.trace ++ [x]) (hx : Q x) :
    Extends Q w₁ w₂ :=
  ⟨[x], h, by simpa using hx⟩

/-- What is allowed more. -/
theorem Extends.mono (h : Extends Q w₁ w₂) (hQ : ∀ x, Q x → Q' x) : Extends Q' w₁ w₂ := by
  obtain ⟨s, ht, hs⟩ := h
  exact ⟨s, ht, fun x hx ↦ hQ x (hs x hx)⟩

/-- What is read off the entries is not changed by entries that carry none of it. -/
theorem Extends.filterMap {α : Type} {f : Item I → Option α} (h : Extends Q w₁ w₂)
    (hQ : ∀ x, Q x → f x = none) : w₂.trace.filterMap f = w₁.trace.filterMap f := by
  obtain ⟨s, ht, hs⟩ := h
  rw [ht, List.filterMap_append, List.filterMap_eq_nil_iff.2 fun x hx ↦ hQ x (hs x hx),
    List.append_nil]

/-- What no entry of the suffix is, is in the trace if it was there before. -/
theorem Extends.any {p : Item I → Bool} (h : Extends Q w₁ w₂) (hQ : ∀ x, Q x → p x = false) :
    w₂.trace.any p = w₁.trace.any p := by
  obtain ⟨s, ht, hs⟩ := h
  have hnone : s.any p = false := List.any_eq_false.2 fun x hx ↦ by simp [hQ x (hs x hx)]
  rw [ht, List.any_append, hnone, Bool.or_false]

/-- Nor is what is accumulated over the entries. -/
theorem Extends.foldl {α : Type} {f : α → Item I → α} (h : Extends Q w₁ w₂)
    (hQ : ∀ x, Q x → ∀ a, f a x = a) (a : α) : w₂.trace.foldl f a = w₁.trace.foldl f a := by
  obtain ⟨s, ht, hs⟩ := h
  have hkeep : ∀ (xs : List (Item I)) a, (∀ x ∈ xs, Q x) → xs.foldl f a = a := by
    intro xs
    induction xs with
    | nil => exact fun _ _ ↦ rfl
    | cons x xs ih =>
      intro a hxs
      rw [List.foldl_cons, hQ x (hxs x List.mem_cons_self)]
      exact ih a fun y hy ↦ hxs y (List.mem_cons_of_mem x hy)
  rw [ht, List.foldl_append, hkeep s _ hs]

/-- A property of all entries holds after a suffix whose entries have it behind everything that
extends the trace. -/
theorem AtEach.append {trace suffix : List (Item I)} (h : AtEach S trace)
    (hs : ∀ x ∈ suffix, ∀ pre, trace <+: pre → S pre x) : AtEach S (trace ++ suffix) := by
  induction suffix using List.reverseRecOn with
  | nil => simpa using h
  | append_singleton suffix x ih =>
    rw [← List.append_assoc]
    exact atEach_concat.2 ⟨ih fun y hy ↦ hs y (by simp [hy]),
      hs x (by simp) _ (List.prefix_append _ _)⟩

/-- So it is kept by a program all of whose entries have it there. -/
theorem Extends.atEach_of_prefix (h : Extends Q w₁ w₂)
    (hQ : ∀ x, Q x → ∀ pre, w₁.trace <+: pre → S pre x) (hS : AtEach S w₁.trace) :
    AtEach S w₂.trace := by
  obtain ⟨s, ht, hs⟩ := h
  rw [ht]
  exact hS.append fun x hx ↦ hQ x (hs x hx)

/-- Or have it anywhere. -/
theorem Extends.atEach (h : Extends Q w₁ w₂) (hQ : ∀ x, Q x → ∀ pre, S pre x)
    (hS : AtEach S w₁.trace) : AtEach S w₂.trace :=
  h.atEach_of_prefix (fun x hx pre _ ↦ hQ x hx pre) hS

end Extends

namespace Proc

/-! ### Program formers -/

instance : Monad (Proc I σ) where
  pure a := fun _ w ↦ (.ret a, w)
  bind m f := fun e w ↦
    match m e w with
    | (.ret a, w') => f a e w'
    | (.halt h, w') => (.halt h, w')

instance : LawfulMonad (Proc I σ) :=
  LawfulMonad.mk' _
    (fun m ↦ by
      funext e w
      simp only [Functor.map]
      rcases m e w with ⟨_ | _, _⟩ <;> rfl)
    (fun _ _ ↦ rfl)
    (fun m _ _ ↦ by
      funext e w
      simp only [bind]
      rcases m e w with ⟨_ | _, _⟩ <;> rfl)

/-- Call the environment. -/
def perform (c : I.Call) : Proc I σ (I.Ret c) := fun e w ↦
  if w.trace.length < e.limit then
    (.ret (e.answer w.trace c), { w with trace := w.trace ++ [.call c (e.answer w.trace c)] })
  else (.halt .blocked, w)

/-- Leave a note on the trace. -/
def note (n : I.Note) : Proc I σ Unit := fun _ w ↦
  (.ret (), { w with trace := w.trace ++ [.note n] })

/-- Stop: the source has no defined behaviour here. -/
def fault : Proc I σ α := fun _ w ↦ (.halt .fault, w)

/-- Read the state. -/
def get : Proc I σ σ := fun _ w ↦ (.ret w.st, w)

/-- Change the state. -/
def modify (f : σ → σ) : Proc I σ Unit := fun _ w ↦ (.ret (), { w with st := f w.st })

/-- The part of a loop that runs at most `n` times. -/
def loopFuel (body : τ → Proc I σ (τ ⊕ α)) : ℕ → τ → Proc I σ α
  | 0, _ => fun _ w ↦ (.halt .blocked, w)
  | n + 1, t => do
    match ← body t with
    | .inl t' => loopFuel body n t'
    | .inr a => pure a

/-- Repeat `body` until it returns `.inr`. The fuel is more than the calls the environment will
still answer, so a loop each of whose rounds makes a call never runs out of it before it blocks. -/
def loop (body : τ → Proc I σ (τ ⊕ α)) (t : τ) : Proc I σ α := fun e w ↦
  loopFuel body (e.limit - w.trace.length + 1) t e w

/-! ### Weakest preconditions -/

/-- In the world `w`, `m` returns with `Q` or stops early with `H`. -/
def wp (e : Env I) (m : Proc I σ α) (Q : α → World I σ → Prop) (H : Halt → World I σ → Prop)
    (w : World I σ) : Prop :=
  match m e w with
  | (.ret a, w') => Q a w'
  | (.halt h, w') => H h w'

section Wp

variable {e : Env I} {Q Q' : α → World I σ → Prop} {R : β → World I σ → Prop}
  {H H' : Halt → World I σ → Prop} {w w' : World I σ}

@[simp] theorem wp_pure (a : α) : wp e (pure a) Q H w ↔ Q a w := Iff.rfl

@[simp] theorem wp_bind (m : Proc I σ α) (f : α → Proc I σ β) :
    wp e (m >>= f) R H w ↔ wp e m (fun a w' ↦ wp e (f a) R H w') H w := by
  simp only [wp, bind]
  rcases m e w with ⟨a | h, w'⟩ <;> rfl

/-- A result that is mapped. -/
@[simp] theorem wp_map (m : Proc I σ α) (f : α → β) :
    wp e (f <$> m) R H w ↔ wp e m (fun a ↦ R (f a)) H w :=
  wp_bind m fun a ↦ pure (f a)

@[simp] theorem wp_get {Q : σ → World I σ → Prop} : wp e get Q H w ↔ Q w.st w := Iff.rfl

@[simp] theorem wp_modify {Q : Unit → World I σ → Prop} (f : σ → σ) :
    wp e (modify f) Q H w ↔ Q () { w with st := f w.st } := Iff.rfl

@[simp] theorem wp_note {Q : Unit → World I σ → Prop} (n : I.Note) :
    wp e (note n) Q H w ↔ Q () { w with trace := w.trace ++ [.note n] } := Iff.rfl

@[simp] theorem wp_fault : wp e (fault : Proc I σ α) Q H w ↔ H .fault w := Iff.rfl

/-- A call either blocks or is answered; its answer is then the last entry of the trace. -/
theorem wp_perform {c : I.Call} {Q : I.Ret c → World I σ → Prop}
    (hret : ∀ r, e.answer w.trace c = r → w.trace.length < e.limit →
      Q r { w with trace := w.trace ++ [.call c r] })
    (hblock : H .blocked w) : wp e (perform c) Q H w := by
  by_cases h : w.trace.length < e.limit
  · simpa [wp, perform, h] using hret _ rfl h
  · simpa [wp, perform, h] using hblock

/-- As long as the environment answers, a call cannot block. -/
theorem wp_perform_of_lt {c : I.Call} {Q : I.Ret c → World I σ → Prop}
    (hlt : w.trace.length < e.limit)
    (hret : Q (e.answer w.trace c) { w with trace := w.trace ++ [.call c (e.answer w.trace c)] }) :
    wp e (perform c) Q H w := by
  simpa [wp, perform, hlt] using hret

/-- A call is answered exactly as long as the environment answers. -/
theorem wp_perform_cases {c : I.Call} {Q : I.Ret c → World I σ → Prop}
    (hret : w.trace.length < e.limit →
      Q (e.answer w.trace c) { w with trace := w.trace ++ [.call c (e.answer w.trace c)] })
    (hblock : e.limit ≤ w.trace.length → H .blocked w) : wp e (perform c) Q H w := by
  rcases Nat.lt_or_ge w.trace.length e.limit with hlt | hge
  · exact wp_perform_of_lt hlt (hret hlt)
  · simpa [wp, perform, Nat.not_lt.2 hge] using hblock hge

/-- The rule of consequence. -/
theorem wp_mono {m : Proc I σ α} (h : wp e m Q H w) (hQ : ∀ a w', Q a w' → Q' a w')
    (hH : ∀ k w', H k w' → H' k w') : wp e m Q' H' w := by
  revert h
  simp only [wp]
  rcases m e w with ⟨a | k, w'⟩
  · exact hQ a w'
  · exact hH k w'

/-- Two specifications of one program hold together. -/
theorem wp_and {m : Proc I σ α} (h : wp e m Q H w) (h' : wp e m Q' H' w) :
    wp e m (fun a w' ↦ Q a w' ∧ Q' a w') (fun k w' ↦ H k w' ∧ H' k w') w := by
  revert h h'
  simp only [wp]
  rcases m e w with ⟨a | k, w'⟩ <;> exact fun h h' ↦ ⟨h, h'⟩

/-- Whatever a program does, it does something. -/
theorem wp_anyhow {m : Proc I σ α} : wp e m (fun _ _ ↦ True) (fun _ _ ↦ True) w := by
  simp only [wp]
  split <;> trivial

/-- What comes first does not matter, if the rest does what it should from wherever it starts. -/
theorem wp_bind_anyhow {m : Proc I σ α} {f : α → Proc I σ β}
    (hf : ∀ a w', wp e (f a) R (fun _ _ ↦ True) w') : wp e (m >>= f) R (fun _ _ ↦ True) w :=
  (wp_bind m f).2 (wp_mono wp_anyhow (fun a w' _ ↦ hf a w') fun _ _ h ↦ h)

/-- The rule for loops, with an invariant on the loop state and the world. The invariant itself
must imply the early postcondition, since the environment may stop answering at any round. -/
theorem wp_loop {body : τ → Proc I σ (τ ⊕ α)} (Inv : τ → World I σ → Prop)
    (hstep : ∀ t w, Inv t w →
      wp e (body t) (fun r w' ↦ r.elim (fun t' ↦ Inv t' w') (fun a ↦ Q a w')) H w)
    (hblock : ∀ t w, Inv t w → H .blocked w) {t : τ} (hinit : Inv t w) :
    wp e (loop body t) Q H w := by
  suffices h : ∀ n t w, Inv t w → wp e (loopFuel body n t) Q H w from h _ t w hinit
  intro n
  induction n with
  | zero => exact fun t w h ↦ hblock t w h
  | succ n ih =>
    intro t w h
    rw [loopFuel, wp_bind]
    refine wp_mono (hstep t w h) ?_ fun _ _ h ↦ h
    rintro (t' | a) w' h'
    · exact ih t' w' h'
    · exact h'

/-- The rule for a loop each of whose rounds waits for an answer: such a loop does not run out of
fuel, so it stops early only inside of a round. -/
theorem wp_loop_of_answered {body : τ → Proc I σ (τ ⊕ α)} (Inv : τ → World I σ → Prop)
    (hstep : ∀ t w, Inv t w → wp e (body t) (fun r w' ↦ r.elim
      (fun t' ↦ w.trace.length < e.limit ∧ w.trace.length < w'.trace.length ∧ Inv t' w')
      (fun a ↦ Q a w')) H w)
    {t : τ} (hinit : Inv t w) : wp e (loop body t) Q H w := by
  suffices h : ∀ n t w, 0 < n → e.limit < w.trace.length + n → Inv t w →
      wp e (loopFuel body n t) Q H w from h _ t w (by omega) (by omega) hinit
  intro n
  induction n with
  | zero => exact fun t w hpos ↦ absurd hpos (Nat.lt_irrefl 0)
  | succ n ih =>
    intro t w _ hfuel hInv
    rw [loopFuel, wp_bind]
    refine wp_mono (hstep t w hInv) ?_ fun _ _ h ↦ h
    rintro (t' | a) w' h'
    · obtain ⟨hlt, hgrows, hInv'⟩ := h'
      exact ih t' w' (by omega) (by omega) hInv'
    · exact h'

/-- A postcondition for every end speaks of the last world. -/
theorem wp_always {m : Proc I σ α} {T : World I σ → Prop} :
    wp e m (fun _ ↦ T) (fun _ ↦ T) w ↔ T (m e w).2 := by
  simp only [wp]
  rcases m e w with ⟨_ | _, _⟩ <;> rfl

/-- A specification of a run that is known says what it says of its end. -/
theorem wp_iff_ret {m : Proc I σ α} {a : α} (h : m e w = (.ret a, w')) :
    wp e m Q H w ↔ Q a w' := by
  simp only [wp, h]

/-- What a specification says of a run that returned. -/
theorem wp_ret {m : Proc I σ α} {a : α} (h : wp e m Q H w) (hr : m e w = (.ret a, w')) :
    Q a w' :=
  (wp_iff_ret hr).1 h

/-- A program that cannot stop early returns. -/
theorem exists_ret_of_wp {m : Proc I σ α} (h : wp e m Q (fun _ _ ↦ False) w) :
    ∃ a w', m e w = (.ret a, w') ∧ Q a w' := by
  revert h
  simp only [wp]
  rcases m e w with ⟨a | k, w'⟩
  · exact fun h ↦ ⟨a, w', rfl, h⟩
  · exact False.elim

/-- What a run returns and where it ends. -/
theorem run_eq {m : Proc I σ α} {a : α} (h : (m e w).1 = .ret a) : m e w = (.ret a, (m e w).2) :=
  Prod.ext h rfl

/-- A specification applies to a run that stops. -/
theorem wp_halt {m : Proc I σ α} {k : Halt} (h : wp e m Q H w) (hr : m e w = (.halt k, w')) :
    H k w' := by
  simpa only [wp, hr] using h

end Wp

/-! ### Relations kept by every program former -/

/-- A relation `R` between worlds that holds of doing nothing, composes, and keeps the invariant
`P` on which its own steps may rely. -/
structure Guard (P : World I σ → Prop) (R : World I σ → World I σ → Prop) : Prop where
  refl : ∀ w, P w → R w w
  trans : ∀ {w₁ w₂ w₃}, P w₁ → R w₁ w₂ → R w₂ w₃ → R w₁ w₃
  keep : ∀ {w w'}, P w → R w w' → P w'

/-- An invariant is kept if every step leads to worlds that satisfy it. -/
theorem guard_inv (P : World I σ → Prop) : Guard P fun _ ↦ P where
  refl _ h := h
  trans _ _ h := h
  keep _ h := h

/-- From worlds satisfying `P`, `m` ends in an `R`-related world, however it ends. -/
def Within (P : World I σ → Prop) (R : World I σ → World I σ → Prop) (m : Proc I σ α) : Prop :=
  ∀ e w, P w → R w (m e w).2

/-- Whatever `m` returns, from any world, satisfies `S`. -/
def Returns (S : α → Prop) (m : Proc I σ α) : Prop :=
  ∀ e w a w', m e w = (.ret a, w') → S a

/-- What every result satisfies may be used behind a specification. -/
theorem wp_and_result {m : Proc I σ α} {S : α → Prop} {e : Env I} {Q : α → World I σ → Prop}
    {H : Halt → World I σ → Prop} {w : World I σ} (h : wp e m Q H w)
    (hS : ∀ a w', m e w = (.ret a, w') → S a) : wp e m (fun a w' ↦ S a ∧ Q a w') H w := by
  revert h
  simp only [wp]
  rcases hm : m e w with ⟨a | k, w'⟩
  · exact fun h ↦ ⟨hS a w' hm, h⟩
  · exact id

/-- What a program returns may be added to its postcondition. -/
theorem Returns.wp {S : α → Prop} {m : Proc I σ α} (hS : Returns S m) {e : Env I}
    {Q : α → World I σ → Prop} {H : Halt → World I σ → Prop} {w : World I σ}
    (h : Proc.wp e m Q H w) : Proc.wp e m (fun a w' ↦ S a ∧ Q a w') H w :=
  wp_and_result h fun a w' hm ↦ hS e w a w' hm

theorem returns_pure {S : α → Prop} {a : α} (h : S a) : Returns S (pure a : Proc I σ α) := by
  rintro e w _ _ ⟨⟩
  exact h

/-- What a program returns is what its last part does. -/
theorem returns_bind {S : β → Prop} {m : Proc I σ α} {f : α → Proc I σ β}
    (h : ∀ a, Returns S (f a)) : Returns S (m >>= f) := by
  intro e w b w' hb
  simp only [bind] at hb
  rcases hm : m e w with ⟨a | k, w₁⟩
  · rw [hm] at hb
    exact h a e w₁ b w' hb
  · rw [hm] at hb
    cases hb

/-! ### Programs that do nothing undefined -/

/-- Whatever the environment answers, `m` does nothing that has no defined meaning. -/
def Faultless (m : Proc I σ α) : Prop := ∀ e w, (m e w).1 ≠ .halt .fault

theorem faultless_pure (a : α) : Faultless (pure a : Proc I σ α) := by
  rintro e w ⟨⟩

theorem faultless_get : Faultless (get : Proc I σ σ) := by
  rintro e w ⟨⟩

theorem faultless_modify (f : σ → σ) : Faultless (modify f : Proc I σ Unit) := by
  rintro e w ⟨⟩

theorem faultless_note (n : I.Note) : Faultless (note n : Proc I σ Unit) := by
  rintro e w ⟨⟩

theorem faultless_perform (c : I.Call) : Faultless (perform c : Proc I σ (I.Ret c)) := by
  intro e w
  rw [perform]
  split_ifs <;> simp

/-- A sequence of two programs is faultless if both are. -/
theorem faultless_bind {m : Proc I σ α} {f : α → Proc I σ β} (hm : Faultless m)
    (hf : ∀ a, Faultless (f a)) : Faultless (m >>= f) := by
  intro e w
  have h := hm e w
  simp only [bind]
  rcases hmw : m e w with ⟨a | k, w'⟩
  · exact hf a e w'
  · simpa [hmw] using h

/-- So is a loop if every round of it is. -/
theorem faultless_loop {body : τ → Proc I σ (τ ⊕ α)} (h : ∀ t, Faultless (body t)) (t : τ) :
    Faultless (loop body t) := by
  have hfuel : ∀ n t, Faultless (loopFuel body n t) := by
    intro n
    induction n with
    | zero => rintro t e w ⟨⟩
    | succ n ih =>
      intro t
      refine faultless_bind (h t) ?_
      rintro (t' | a)
      · exact ih t'
      · exact faultless_pure a
  exact fun e w ↦ hfuel _ t e w

section Within

variable {P P' : World I σ → Prop} {R R' : World I σ → World I σ → Prop}

/-- `Within` is a specification with the world it starts from in the postcondition. -/
theorem within_iff_wp {m : Proc I σ α} :
    Within P R m ↔ ∀ e w, P w → wp e m (fun _ ↦ R w) (fun _ ↦ R w) w := by
  exact forall₃_congr fun e w _ ↦ wp_always.symm

/-- To use it as one. -/
theorem Within.wp {m : Proc I σ α} (h : Within P R m) {e : Env I} {w : World I σ} (hw : P w) :
    Proc.wp e m (fun _ ↦ R w) (fun _ ↦ R w) w :=
  within_iff_wp.1 h e w hw

/-- Such a program stops early only because the environment does not answer. -/
theorem Within.wp_faultless {m : Proc I σ α} (h : Within P R m) (hm : Faultless m) {e : Env I}
    {w : World I σ} (hw : P w) :
    Proc.wp e m (fun _ ↦ R w) (fun k w' ↦ k = .blocked ∧ R w w') w := by
  have hR := h e w hw
  have hne := hm e w
  simp only [Proc.wp]
  rcases hmw : m e w with ⟨a | k, w'⟩
  · rwa [hmw] at hR
  · rw [hmw] at hR hne
    rcases k with - | -
    · exact ⟨rfl, hR⟩
    · exact absurd rfl hne

/-- It may assume more and promise less. -/
theorem Within.mono {m : Proc I σ α} (h : Within P R m) (hP : ∀ w, P' w → P w)
    (hR : ∀ w w', P' w → R w w' → R' w w') : Within P' R' m :=
  fun e w hw ↦ hR _ _ hw (h e w (hP w hw))

/-- Two relations at once. -/
theorem Guard.prod (G : Guard P R) (G' : Guard P' R') :
    Guard (fun w ↦ P w ∧ P' w) fun w w' ↦ R w w' ∧ R' w w' where
  refl w hw := ⟨G.refl w hw.1, G'.refl w hw.2⟩
  trans hw h₁ h₂ := ⟨G.trans hw.1 h₁.1 h₂.1, G'.trans hw.2 h₁.2 h₂.2⟩
  keep hw h := ⟨G.keep hw.1 h.1, G'.keep hw.2 h.2⟩

/-- Two relations are kept at once. -/
theorem Within.prod {m : Proc I σ α} (h : Within P R m) (h' : Within P' R' m) :
    Within (fun w ↦ P w ∧ P' w) (fun w w' ↦ R w w' ∧ R' w w') m :=
  fun e w hw ↦ ⟨h e w hw.1, h' e w hw.2⟩

variable (G : Guard P R)
include G

/-- A program that does nothing stays within every relation. -/
theorem within_pure (a : α) : Within P R (pure a : Proc I σ α) := fun _ w hw ↦ G.refl w hw

theorem within_fault : Within P R (fault : Proc I σ α) := fun _ w hw ↦ G.refl w hw

theorem within_get : Within P R (get : Proc I σ σ) := fun _ w hw ↦ G.refl w hw

/-- A sequence of two programs stays within a relation that both stay within. -/
theorem within_bind {m : Proc I σ α} {f : α → Proc I σ β} (hm : Within P R m)
    (hf : ∀ a, Within P R (f a)) : Within P R (m >>= f) := by
  intro e w hw
  have h := hm e w hw
  simp only [bind]
  rcases hmw : m e w with ⟨a | k, w'⟩
  · rw [hmw] at h
    exact G.trans hw h (hf a e w' (G.keep hw h))
  · rw [hmw] at h
    exact h

/-- The continuation may use how the result of `m` depends on the world before it. -/
theorem within_bind_returns {m : Proc I σ α} {f : α → Proc I σ β} {S : World I σ → α → Prop}
    (hm : Within P R m) (hS : ∀ e w a w', m e w = (.ret a, w') → S w a)
    (hf : ∀ w a, P w → S w a → Within P R (f a)) : Within P R (m >>= f) := by
  intro e w hw
  have h := hm e w hw
  simp only [bind]
  rcases hmw : m e w with ⟨a | k, w'⟩
  · rw [hmw] at h
    exact G.trans hw h (hf w a hw (hS e w a w' hmw) e w' (G.keep hw h))
  · rw [hmw] at h
    exact h

omit G in
/-- The continuation of a read may use what `P` says of the state that was read. -/
theorem within_get_bind {f : σ → Proc I σ β}
    (hf : ∀ w, P w → Within P R (f w.st)) : Within P R (get >>= f) :=
  fun e w hw ↦ hf w hw e w hw

omit G in
/-- A change of the state has to be looked at. -/
theorem within_modify {f : σ → σ} (h : ∀ w, P w → R w { w with st := f w.st }) :
    Within P R (modify f) :=
  fun _ w hw ↦ h w hw

/-- A loop stays within a relation that every round of it stays within. -/
theorem within_loop {body : τ → Proc I σ (τ ⊕ α)} (h : ∀ t, Within P R (body t)) (t : τ) :
    Within P R (loop body t) := by
  have hfuel : ∀ n t, Within P R (loopFuel body n t) := by
    intro n
    induction n with
    | zero => exact fun _ _ w hw ↦ G.refl w hw
    | succ n ih =>
      intro t
      refine within_bind G (h t) ?_
      rintro (t' | a)
      · exact ih t'
      · exact within_pure G a
  exact fun e w hw ↦ hfuel _ t e w hw

end Within

/-! ### Invariants -/

/-- `Inv` is kept by the relation `R`, on whose assumption `P` it may count, and implies what is to
hold at every point. -/
structure Keeps (P : World I σ → Prop) (R : World I σ → World I σ → Prop)
    (Inv Mid : World I σ → Prop) : Prop where
  assume : ∀ w, Inv w → P w
  keepInv : ∀ w w', Inv w → R w w' → Inv w'
  mid : ∀ w, Inv w → Mid w

section Keeps

variable {P : World I σ → Prop} {R : World I σ → World I σ → Prop} {Inv Mid : World I σ → Prop}
  (K : Keeps P R Inv Mid) {e : Env I} {w : World I σ} {m : Proc I σ α}
include K

/-- A program within the relation keeps the invariant. -/
theorem Keeps.wp {Q : α → World I σ → Prop} (hm : Within P R m) (hw : Inv w)
    (hQ : ∀ a w', Inv w' → Q a w') : Proc.wp e m Q (fun _ ↦ Mid) w :=
  wp_mono (hm.wp (K.assume w hw)) (fun a w' h ↦ hQ a w' (K.keepInv w w' hw h)) fun _ w' h ↦
    K.mid w' (K.keepInv w w' hw h)

/-- The first part of a program keeps the invariant. -/
theorem Keeps.bind {f : α → Proc I σ β} {Q : β → World I σ → Prop} (hm : Within P R m)
    (hw : Inv w) (hf : ∀ a w', Inv w' → Proc.wp e (f a) Q (fun _ ↦ Mid) w') :
    Proc.wp e (m >>= f) Q (fun _ ↦ Mid) w :=
  (wp_bind _ _).2 (K.wp hm hw hf)

end Keeps

end Proc

end Effect
