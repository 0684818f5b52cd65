import Mathlib

/-!
# Limiting a rate in windows

A limiter lets blocks pass and pauses after each of them, until the time that is due for what it has
counted since its window began. It closes a window before the pause and not behind it. So each pause
at the end of a window is time of the next window too, and what has passed exceeds the rate by more
than any bound (`exists_exceeds`). But in each window it does so by a block at most
(`Holds.le_cap`).
-/

namespace Pacing

/-- The state of a limiter: when its window began, what has passed since, and what the time is. -/
structure Window where
  probe : ℤ
  len : ℤ
  now : ℤ

/-- A limiter: how long a window lasts at least, the size of a block, and how long it should take
for so much to pass. -/
structure Limiter where
  width : ℤ
  block : ℤ
  due : ℤ → ℤ

namespace Limiter

variable (l : Limiter)

/-- The window in which a block is counted that passes at once, or the one that begins then. -/
def roll (w : Window) : Window :=
  if l.width < w.now - w.probe then ⟨w.now, 0, w.now⟩ else { w with len := w.len + l.block }

/-- A block passes, and then the limiter pauses. -/
def step (w : Window) : Window :=
  { l.roll w with now := max w.now (w.probe + l.due (w.len + l.block)) }

/-- What it is like when so many blocks have passed. -/
def after (n : ℕ) : Window := l.step^[n] ⟨0, 0, 0⟩

/-- The last step is one from where the others have led. -/
theorem after_succ (n : ℕ) : l.after (n + 1) = l.step (l.after n) :=
  Function.iterate_succ_apply' _ _ _

/-- A limiter that means to let `rate` pass in a unit of time. -/
structure Paces (rate bound : ℤ) : Prop where
  block_pos : 0 < l.block
  due_le : ∀ len, 0 ≤ len → rate * l.due len ≤ len
  due_le_bound : ∀ len, l.due len ≤ bound
  bound_nonneg : 0 ≤ bound

/-- How far what has passed is above the rate when `k` windows are closed and `n` blocks have
passed. Half of the windows are over by a block. -/
structure Ahead (rate bound : ℤ) (k n : ℕ) (w : Window) : Prop where
  len_nonneg : 0 ≤ w.len
  len_le : w.len ≤ l.block * n
  /-- When the window began. -/
  begun : l.block * ((k + 1) / 2 : ℕ) ≤ l.block * n - w.len - rate * w.probe
  /-- The time of the window is one that is due, or the last window's pause. -/
  paused : rate * (w.now - w.probe) ≤ w.len ∨
    l.block * (k / 2 : ℕ) ≤ l.block * n - w.len - rate * w.now
  probe_nonneg : 0 ≤ w.probe
  probe_le : w.probe ≤ k * bound
  probe_le_now : w.probe ≤ w.now
  now_le : w.now ≤ w.probe + bound

variable {l} {rate bound : ℤ} {k n : ℕ} {w : Window}

/-- The excess does not shrink when a window is closed. -/
theorem block_mul_le (hl : l.Paces rate bound) (k : ℕ) :
    l.block * (k / 2 : ℕ) ≤ l.block * ((k + 1) / 2 : ℕ) :=
  mul_le_mul_of_nonneg_left (by exact_mod_cast (by omega : k / 2 ≤ (k + 1) / 2)) hl.block_pos.le

/-- What is ahead of the rate grows with the number of windows. -/
theorem Ahead.exceeds (hl : l.Paces rate bound) (h : l.Ahead rate bound k n w) :
    l.block * (k / 2 : ℕ) ≤ l.block * n - rate * w.now := by
  have hlen := h.len_nonneg
  rcases h.paused with hdue | hpause
  · have hbegun := h.begun
    have hle := block_mul_le hl k
    rw [mul_sub] at hdue
    linarith
  · linarith

/-- The time by which the window lasts after the next block. -/
theorem Paces.now_le (hl : l.Paces rate bound) {w : Window} (h : w.now ≤ w.probe + bound) :
    max w.now (w.probe + l.due (w.len + l.block)) ≤ w.probe + bound :=
  max_le h (by linarith [hl.due_le_bound (w.len + l.block)])

/-- The window stays open. -/
theorem Ahead.count (hl : l.Paces rate bound) (h : l.Ahead rate bound k n w) :
    l.Ahead rate bound k (n + 1)
      ⟨w.probe, w.len + l.block, max w.now (w.probe + l.due (w.len + l.block))⟩ := by
  have hpos := hl.block_pos
  have hlen := h.len_nonneg
  have hbegun := h.begun
  have hle := h.len_le
  have hdue := hl.due_le (w.len + l.block) (by linarith)
  have hn : l.block * (n + 1 : ℕ) = l.block * n + l.block := by rw [Nat.cast_succ, mul_add_one]
  refine ⟨by dsimp only; linarith, by dsimp only; linarith, by dsimp only; linarith, ?_,
    h.probe_nonneg, h.probe_le, h.probe_le_now.trans (le_max_left _ _), hl.now_le h.now_le⟩
  dsimp only
  rcases le_total w.now (w.probe + l.due (w.len + l.block)) with hnow | hnow
  · rw [max_eq_right hnow, add_sub_cancel_left]
    exact .inl hdue
  · rw [max_eq_left hnow]
    exact h.paused.imp (fun hpaused ↦ by linarith) fun hpaused ↦ by linarith

/-- The window is closed, and the pause after it is time of the next one. -/
theorem Ahead.close (hl : l.Paces rate bound) (h : l.Ahead rate bound k n w) :
    l.Ahead rate bound (k + 1) (n + 1)
      ⟨w.now, 0, max w.now (w.probe + l.due (w.len + l.block))⟩ := by
  have hpos := hl.block_pos
  have hlen := h.len_nonneg
  have hbegun := h.begun
  have hdue := hl.due_le (w.len + l.block) (by linarith)
  have hbound := hl.due_le_bound (w.len + l.block)
  have hn : l.block * (n + 1 : ℕ) = l.block * n + l.block := by rw [Nat.cast_succ, mul_add_one]
  have hhalf : l.block * ((k + 1 + 1) / 2 : ℕ) = l.block * (k / 2 : ℕ) + l.block := by
    rw [show (k + 1 + 1) / 2 = k / 2 + 1 by omega, Nat.cast_succ, mul_add_one]
  refine ⟨le_rfl, by positivity, ?_, ?_, h.probe_nonneg.trans h.probe_le_now, ?_,
    le_max_left _ _, ?_⟩
  · dsimp only
    linarith [h.exceeds hl]
  · dsimp only
    rcases le_total w.now (w.probe + l.due (w.len + l.block)) with hnow | hnow
    · rw [max_eq_right hnow, mul_add]
      exact .inr (by linarith)
    · rw [max_eq_left hnow, sub_self, mul_zero]
      exact .inl le_rfl
  · rw [Nat.cast_succ, add_one_mul]
    linarith [h.probe_le, h.now_le]
  · exact max_le (by linarith [hl.bound_nonneg]) (by linarith [h.probe_le_now])

/-- **Every window is ahead of the last but one.** -/
theorem exists_ahead (hl : l.Paces rate bound) (n : ℕ) :
    ∃ k, l.Ahead rate bound k n (l.after n) := by
  induction n with
  | zero => exact ⟨0, by constructor <;> simp [after, hl.bound_nonneg]⟩
  | succ n ih =>
    obtain ⟨k, h⟩ := ih
    rw [after_succ, step, roll]
    split_ifs
    · exact ⟨k + 1, h.close hl⟩
    · exact ⟨k, h.count hl⟩

/-- **More passes than the rate allows**, by more than any bound. -/
theorem exists_exceeds (hl : l.Paces rate bound) (hrate : 0 ≤ rate) (C : ℤ) :
    ∃ n : ℕ, rate * (l.after n).now + C < l.block * n := by
  by_contra! hcapped
  -- few windows are closed, so little time has passed, and in no time little may pass
  set m : ℕ := C.toNat + 1 with hm
  set n : ℕ := (rate * (2 * m * bound + bound) + C).toNat + 1 with hn
  obtain ⟨k, h⟩ := exists_ahead hl n
  have hpos : 1 ≤ l.block := hl.block_pos
  have hk : k ≤ 2 * m := by
    have hhalf : ((k / 2 : ℕ) : ℤ) ≤ l.block * (k / 2 : ℕ) :=
      le_mul_of_one_le_left (by positivity) hpos
    have hover := h.exceeds hl
    have hunder := hcapped n
    omega
  have hnow : (l.after n).now ≤ 2 * m * bound + bound := by
    have hprobe : (k : ℤ) * bound ≤ 2 * m * bound :=
      mul_le_mul_of_nonneg_right (by exact_mod_cast hk) hl.bound_nonneg
    linarith [h.now_le, h.probe_le]
  have htime := mul_le_mul_of_nonneg_left hnow hrate
  have hblocks : (n : ℤ) ≤ l.block * n := le_mul_of_one_le_left (by positivity) hpos
  have hcap := hcapped n
  omega

end Limiter

/-! ### What a limiter does bound -/

/-- What a limiter is measured by: the rate it is to keep, how much passes between two of its pauses
at most, how much a pause may leave undone, and how long a window lasts at least. -/
structure Gauge where
  rate : ℤ
  block : ℤ
  slack : ℤ
  width : ℤ
  rate_nonneg : 0 ≤ rate
  block_nonneg : 0 ≤ block
  slack_nonneg : 0 ≤ slack
  width_pos : 0 < width

namespace Gauge

variable (g : Gauge)

/-- What may have passed by a time: beside the rate, a block for each window. -/
def cap (now : ℤ) : ℤ := g.rate * now + (now / g.width + 1) * (g.block + g.slack)

/-- So much has passed, in the window `w` and in `k` windows before it, and the limiter has not yet
paused for the last of it, which is at most `rest`. -/
structure Holds (k : ℕ) (passed rest : ℤ) (w : Window) : Prop where
  closed : passed - w.len ≤ g.rate * w.probe + k * (g.block + g.slack)
  long : k * g.width ≤ w.probe
  paused : w.len ≤ g.rate * (w.now - w.probe) + g.slack + rest
  probe_le_now : w.probe ≤ w.now

variable {g} {k : ℕ} {passed rest now b c : ℤ} {w : Window}

/-- Waiting only helps. -/
theorem Holds.wait (h : g.Holds k passed rest w) (hnow : w.now ≤ now) :
    g.Holds k passed rest { w with now } where
  closed := h.closed
  long := h.long
  paused := by
    have hrate : g.rate * (w.now - w.probe) ≤ g.rate * (now - w.probe) :=
      mul_le_mul_of_nonneg_left (by omega) g.rate_nonneg
    linarith [h.paused]
  probe_le_now := h.probe_le_now.trans hnow

/-- As much as `c` is counted when `b` passes. -/
theorem Holds.pass (h : g.Holds k passed 0 w) (hbc : b ≤ c) (hc : c ≤ g.block) :
    g.Holds k (passed + b) g.block { w with len := w.len + c } where
  closed := by
    dsimp only
    linarith [h.closed]
  long := h.long
  paused := by
    dsimp only
    linarith [h.paused]
  probe_le_now := h.probe_le_now

/-- A pause of the right length pays for the window. -/
theorem Holds.pause (h : g.Holds k passed rest w)
    (hdue : w.len ≤ g.rate * (w.now - w.probe) + g.slack) : g.Holds k passed 0 w where
  closed := h.closed
  long := h.long
  paused := by rwa [add_zero]
  probe_le_now := h.probe_le_now

/-- A window that was long enough is passed. -/
theorem Holds.close (h : g.Holds k passed g.block w) (hlong : g.width ≤ w.now - w.probe) :
    g.Holds (k + 1) passed 0 ⟨w.now, 0, w.now⟩ where
  closed := by
    have hpaused := h.paused
    rw [mul_sub] at hpaused
    push_cast
    linarith [h.closed]
  long := by
    push_cast
    linarith [h.long]
  paused := by simpa using g.slack_nonneg
  probe_le_now := le_rfl

/-- **The cap holds**, even with `b` more that is not counted yet. -/
theorem Holds.le_cap (h : g.Holds k passed rest w) (hb : b + rest ≤ g.block) :
    passed + b ≤ g.cap w.now := by
  have hk : (k : ℤ) ≤ w.now / g.width :=
    (Int.le_ediv_iff_mul_le g.width_pos).2 (h.long.trans h.probe_le_now)
  have hwindows : (k : ℤ) * (g.block + g.slack) ≤ w.now / g.width * (g.block + g.slack) :=
    mul_le_mul_of_nonneg_right hk (add_nonneg g.block_nonneg g.slack_nonneg)
  have hpaused := h.paused
  rw [mul_sub] at hpaused
  rw [cap, add_one_mul]
  linarith [h.closed]

end Gauge

end Pacing
