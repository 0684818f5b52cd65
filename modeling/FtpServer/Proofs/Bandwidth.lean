import FtpServer.Proofs.SessionLoop
import FtpServer.Proofs.Throttle

/-!
# What the bandwidth cap does bound

A transfer may exceed the rate by a block in each window of half a second, and by what the pauses
lose in rounding. This is all (`transfer_caps`).

* `RealTime` is the clock: it does not go back, and a sleep lasts as long as it is asked to, but for
  what it says is left when a signal interrupts it.
* `CapsWindows` is the bound, as a condition on all moments of a transfer.
* `Metered` is the invariant of both loops, in terms of the gauge of `Pacing` that `throttle_pause`
  is measured by (`throttleGauge`); `throttlePause_metered` is what a pause contributes to it.

An `int` counts the milliseconds since a window began, and the bound is kept for as long as it can.
-/

namespace FtpServer

open CString Effect Effect.Proc Pacing

/-! ### Time -/

/-- How much of a sleep is left when it is over. -/
def unslept : Except (ℤ × ℤ) Unit → ℕ
  | .ok () => 0
  | .error rem => nanos rem

/-- A clock, in nanoseconds, that does not go back: `gettimeofday` reads it, and `nanosleep` sleeps
as long as it is asked to, but for what it says is left when a signal interrupts it. -/
structure RealTime (clock : List (Item kernel) → ℕ) (e : Env) : Prop where
  mono : ∀ trace x, clock trace ≤ clock (trace ++ [x])
  read : ∀ trace, ∀ r : Answer .gettimeofday, e.answer trace .gettimeofday = r →
    r.val = timevalAt (clock trace)
  sleep : ∀ trace t, ∀ r : Answer (.nanosleep t), e.answer trace (.nanosleep t) = r →
    clock trace + nanos t ≤ clock (trace ++ [.call (.nanosleep t) r]) + unslept r.val

theorem Clock.realTime {clock : List (Item kernel) → ℕ} {e : Env} (h : Clock clock e) :
    RealTime clock e where
  mono := h.mono
  read := h.read
  sleep trace t r hr := by
    obtain ⟨hval, hslept⟩ := h.sleep trace t r hr
    rw [hslept, hval, unslept, add_zero]

/-- For so long an `int` counts milliseconds. -/
def intMilliseconds : ℕ := (2 ^ 31 - 1) * 10 ^ 6

/-- At every time of a transfer, no more than this has been transferred beside what the rate, in
bytes per millisecond, allows since its start: for each window of half a second a block, and two
milliseconds' worth. -/
def CapsWindows {α : Type} (config : FtpConfig) (transfer : Program α) : Prop :=
  ∀ clock e s, RealTime clock e → ∀ trace, trace <+: (transfer e (World.start s)).2.trace →
    clock trace < clock [] + intMilliseconds →
    (transferred trace : ℤ) * 10 ^ 6 ≤ config.throttleRate * (clock trace - clock [] : ℤ) +
      ((clock trace - clock [] : ℤ) / (5 * 10 ^ 8) + 1) *
        (xferBlockSize * 10 ^ 6 + 2 * config.throttleRate * 10 ^ 6)

/-- The seconds may be too many for their type. -/
theorem exists_sec_timevalAt (ns : ℕ) :
    ∃ q : ℤ, (timevalAt ns).sec.toInt = (ns / 10 ^ 9 : ℕ) - 2 ^ 64 * q := by
  obtain ⟨q, hq⟩ := Int.dvd_self_sub_bmod (x := (ns / 10 ^ 9 : ℕ)) (m := 2 ^ 64)
  refine ⟨q, ?_⟩
  rw [show ((2 ^ 64 : ℕ) : ℤ) = 2 ^ 64 by norm_num] at hq
  rw [timevalAt, Int64.toInt_ofNat', show Int64.size = 2 ^ 64 from rfl]
  linarith

theorem usec_timevalAt (ns : ℕ) : (timevalAt ns).usec.toInt = (ns % 10 ^ 9 / 1000 : ℕ) := by
  rw [timevalAt]
  exact Int64.toInt_ofNat_of_lt (by omega)

/-- The difference of two readings, up to a millisecond. -/
theorem msecdiff_timevalAt {a b : ℕ} (hle : b ≤ a) (hlt : a < b + intMilliseconds) :
    0 ≤ msecdiff (timevalAt a) (timevalAt b) ∧
      msecdiff (timevalAt a) (timevalAt b) * 10 ^ 6 < a - b + 10 ^ 6 ∧
      (a - b : ℤ) < (msecdiff (timevalAt a) (timevalAt b) + 2) * 10 ^ 6 := by
  obtain ⟨q, hq⟩ := exists_sec_timevalAt a
  obtain ⟨q', hq'⟩ := exists_sec_timevalAt b
  rw [intMilliseconds] at hlt
  generalize hd : ((a / 10 ^ 9 : ℕ) - (b / 10 ^ 9 : ℕ) : ℤ) * 1000 +
    ((a % 10 ^ 9 / 1000 : ℕ) - (b % 10 ^ 9 / 1000 : ℕ) : ℤ).tdiv 1000 = d
  have hbounds : 0 ≤ d ∧ d * 10 ^ 6 < a - b + 10 ^ 6 ∧ (a - b : ℤ) < (d + 2) * 10 ^ 6 := by
    rcases le_total (b % 10 ^ 9 / 1000) (a % 10 ^ 9 / 1000) with h | h
    · rw [Int.tdiv_eq_ediv_of_nonneg (by omega)] at hd
      omega
    · rw [← neg_sub ((b % 10 ^ 9 / 1000 : ℕ) : ℤ), Int.neg_tdiv,
        Int.tdiv_eq_ediv_of_nonneg (by omega)] at hd
      omega
  have heq : msecdiff (timevalAt a) (timevalAt b) = d := by
    rw [msecdiff, hq, hq', usec_timevalAt, usec_timevalAt,
      ← toInt_of_abs_lt (x := d) (by omega) (by omega)]
    refine toInt_congr (Dvd.intro (2 ^ 32 * 1000 * (q' - q)) ?_)
    linear_combination - hd
  rwa [heq]

/-! ### The state of a transfer -/

/-- What `throttle_pause` is measured by, in millionths of a byte, or bytes and nanoseconds. -/
def throttleGauge {rate : ℤ} (hrate : 1 ≤ rate) : Gauge where
  rate := rate
  block := xferBlockSize * 10 ^ 6
  slack := 2 * rate * 10 ^ 6
  width := 5 * 10 ^ 8
  rate_nonneg := by omega
  block_nonneg := by positivity
  slack_nonneg := by omega
  width_pos := by norm_num

section

variable {clock : List (Item kernel) → ℕ} {config : FtpConfig} {hrate : 1 ≤ config.throttleRate}
  {start p b : ℕ} {rest : ℤ} {e : Env} {w w' : World}

/-- The cap holds as long as an `int` counts the milliseconds since the start. -/
def Capped (clock : List (Item kernel) → ℕ) (hrate : 1 ≤ config.throttleRate) (start : ℕ)
    (trace : List (Item kernel)) : Prop :=
  clock trace < start + intMilliseconds →
    (transferred trace : ℤ) * 10 ^ 6 ≤ (throttleGauge hrate).cap (clock trace - start)

/-- A transfer that began at `start`, in a window that began at `p`. So many bytes are not counted
yet. -/
structure Metered (clock : List (Item kernel) → ℕ) (hrate : 1 ≤ config.throttleRate)
    (start p b : ℕ) (rest : ℤ) (w : World) : Prop where
  capped : ∀ trace, trace <+: w.trace → Capped clock hrate start trace
  state : clock w.trace < start + intMilliseconds →
    w.st.session.info.xferProbe = timevalAt p ∧ ∃ k,
      (throttleGauge hrate).Holds k (((transferred w.trace : ℤ) - b) * 10 ^ 6) rest
        ⟨p - start, w.st.session.info.probeLen.toNat * 10 ^ 6, clock w.trace - start⟩

theorem Metered.of_trace (h : Metered clock hrate start p b rest w) (htrace : w'.trace = w.trace)
    (hinfo : w'.st.session.info = w.st.session.info) : Metered clock hrate start p b rest w' where
  capped := by rw [htrace]; exact h.capped
  state := by rw [htrace, hinfo]; exact h.state

/-- An entry that leaves the counters alone. -/
theorem Metered.step (hmono : ∀ trace x, clock trace ≤ clock (trace ++ [x]))
    (h : Metered clock hrate start p b rest w) {x : Item kernel}
    (htrace : w'.trace = w.trace ++ [x]) (hinfo : w'.st.session.info = w.st.session.info)
    (hfit : ((b + placed x : ℕ) : ℤ) * 10 ^ 6 + rest ≤ xferBlockSize * 10 ^ 6) :
    Metered clock hrate start p (b + placed x) rest w' := by
  have hnow := hmono w.trace x
  have hmoved := transferred_concat w.trace x
  have hstate : clock w'.trace < start + intMilliseconds →
      w'.st.session.info.xferProbe = timevalAt p ∧ ∃ k, (throttleGauge hrate).Holds k
        (((transferred w'.trace : ℤ) - (b + placed x : ℕ)) * 10 ^ 6) rest
        ⟨p - start, w'.st.session.info.probeLen.toNat * 10 ^ 6, clock w'.trace - start⟩ := by
    intro htime
    rw [htrace] at htime ⊢
    obtain ⟨hprobe, k, hk⟩ := h.state (by omega)
    refine ⟨by rw [hinfo]; exact hprobe, k, ?_⟩
    rw [hinfo, hmoved, Nat.cast_add, Nat.cast_add, add_sub_add_right_eq_sub]
    exact hk.wait (by dsimp only; omega)
  refine ⟨fun trace hshorter ↦ ?_, hstate⟩
  rw [htrace, List.prefix_concat_iff] at hshorter
  rcases hshorter with rfl | hshorter
  · rw [← htrace]
    intro htime
    obtain ⟨-, k, hk⟩ := hstate htime
    refine le_trans (le_of_eq ?_) (hk.le_cap hfit)
    rw [sub_mul, sub_add_cancel]
  · exact h.capped trace hshorter

/-- A call that moves nothing. -/
theorem Metered.call (hmono : ∀ trace x, clock trace ≤ clock (trace ++ [x]))
    (hfit : (b : ℤ) * 10 ^ 6 + rest ≤ xferBlockSize * 10 ^ 6)
    (h : Metered clock hrate start p b rest w) {c : Call} (r : Answer c)
    (hplaced : placed (.call c r) = 0) : Metered clock hrate start p b rest (answered w c r) := by
  have hstep : Metered clock hrate start p (b + placed (.call c r)) rest (answered w c r) :=
    h.step hmono rfl rfl (by rwa [hplaced])
  rwa [hplaced] at hstep

theorem Metered.note (hmono : ∀ trace x, clock trace ≤ clock (trace ++ [x]))
    (hfit : (b : ℤ) * 10 ^ 6 + rest ≤ xferBlockSize * 10 ^ 6)
    (h : Metered clock hrate start p b rest w) (n : Note) :
    Metered clock hrate start p b rest (noted w n) :=
  h.step hmono (x := .note n) rfl rfl hfit

theorem placed_of_topic {c : Call} (hc : c.topic ≠ .data) (r : Answer c) :
    placed (.call c r) = 0 := by
  cases c <;> first | rfl | exact absurd rfl hc

/-- What neither moves data nor touches the counters. -/
theorem metered_steps (hmono : ∀ trace x, clock trace ≤ clock (trace ++ [x]))
    (hrate : 1 ≤ config.throttleRate) (start p : ℕ)
    (hfit : (b : ℤ) * 10 ^ 6 + rest ≤ xferBlockSize * 10 ^ 6) :
    StepLogic (fun t ↦ t ≠ .data ∧ t ≠ .progress) (Metered clock hrate start p b rest)
      fun _ ↦ Metered clock hrate start p b rest where
  toCallLogic := .of_observe (guard_inv _) (by decide) (by decide)
    (fun _ hc ↦ within_sys (guard_inv _) fun _ r hw ↦
      hw.call hmono hfit r (placed_of_topic hc.1 r))
    (fun _ ↦ within_setErrno fun _ hw ↦ hw.of_trace rfl rfl)
    fun _ _ ↦ within_mark fun _ hw ↦ hw.note hmono hfit _
  statePool _ _ := within_modify fun _ hw ↦ hw.of_trace rfl rfl
  modifySession _ hf := within_modify fun _ hw ↦
    hw.of_trace rfl ((hf _).info.resolve_left fun h ↦ h.2 rfl)
  undefined _ _ _ _ := within_mark fun _ hw ↦ hw.note hmono hfit _

theorem metered_signal (hmono : ∀ trace x, clock trace ≤ clock (trace ++ [x]))
    (hfit : (b : ℤ) * 10 ^ 6 + rest ≤ xferBlockSize * 10 ^ 6) (waiter : Waiter) :
    Within (Metered clock hrate start p b rest) (fun _ ↦ Metered clock hrate start p b rest)
      (serverHandleSignal waiter) :=
  (metered_steps hmono hrate start p hfit).serverHandleSignal waiter
    (fun _ ↦ within_modify fun _ hw ↦ hw.of_trace rfl rfl)
    (within_mark fun _ hw ↦ hw.note hmono hfit _)

/-- The cap has held all the time. -/
def AlwaysCapped (clock : List (Item kernel) → ℕ) (hrate : 1 ≤ config.throttleRate) (start : ℕ)
    (w : World) : Prop :=
  ∀ trace, trace <+: w.trace → Capped clock hrate start trace

/-! ### A block -/

/-- **`splice_stream` moves a block at most.** -/
theorem spliceStream_metered (hmono : ∀ trace x, clock trace ≤ clock (trace ++ [x]))
    (out : Stream) (outOffset : Option ℤ) (in_ : Stream) (inOffset : Option ℤ) {count : ℕ}
    (hcount : count ≤ xferBlockSize) (hw : Metered clock hrate start p 0 0 w) :
    wp e (spliceStream out outOffset in_ inOffset count)
      (fun r w' ↦ (r.1 = -1 ∧ Metered clock hrate start p 0 0 w') ∨
        ∃ b ≤ count, r.1 = b ∧ Metered clock hrate start p b 0 w')
      (fun _ ↦ AlwaysCapped clock hrate start) w := by
  have hfit : ((0 : ℕ) : ℤ) * 10 ^ 6 + 0 ≤ xferBlockSize * 10 ^ 6 := by norm_num [xferBlockSize]
  have L := metered_steps hmono hrate start p hfit
  have hseek : ∀ fd offset, Within (Metered clock hrate start p 0 0)
      (fun _ ↦ Metered clock hrate start p 0 0) (seekTo fd offset) := by
    rintro fd (- | offset)
    · exact L.pure _
    · refine L.bind (L.checked (within_sys L.toGuard fun _ r hw ↦ ?_)) fun _ ↦ L.pure _
      exact hw.call hmono hfit r rfl
  -- a call that moves data
  have hmove : ∀ {c : Call} {n : ℕ} {w₁ : World} (r : Answer c),
      Metered clock hrate start p 0 0 w₁ → placed (.call c r) = n → n ≤ count →
      Metered clock hrate start p n 0 (answered w₁ c r) := by
    intro c n w₁ r hw₁ hn hle
    subst hn
    have hstep : Metered clock hrate start p (0 + placed (.call c r)) 0 (answered w₁ c r) := by
      refine hw₁.step hmono rfl rfl ?_
      rw [Nat.zero_add, add_zero]
      exact mul_le_mul_of_nonneg_right (by exact_mod_cast hle.trans hcount) (by norm_num)
    rwa [Nat.zero_add] at hstep
  have hcapped : ∀ (_ : Halt) w', Metered clock hrate start p 0 0 w' →
      AlwaysCapped clock hrate start w' := fun _ _ h ↦ h.capped
  rw [spliceStream, wp_bind]
  refine wp_mono ((hseek _ _).wp hw) (fun _ w₁ hw₁ ↦ ?_) fun k w' h ↦ hcapped k w' h
  rw [wp_bind]
  refine wp_mono ((hseek _ _).wp hw₁) (fun _ w₂ hw₂ ↦ ?_) fun k w' h ↦ hcapped k w' h
  split_ifs with hfile
  · rw [wp_bind, wp_checked]
    refine wp_sys (fun r _ ↦ ?_) hw₂.capped
    rcases hr : r.val with err | n
    · exact .inl ⟨rfl, (hmove r hw₂ (by simp only [placed, hr]) (Nat.zero_le _)).of_trace rfl rfl⟩
    · exact .inr ⟨n.1, n.2, rfl, hmove r hw₂ (by simp only [placed, hr]) n.2⟩
  · rw [wp_bind]
    refine wp_mono ((L.sysOther rfl).wp hw₂) ?_ fun k w' h ↦ hcapped k w' h
    rintro (_ | block) w₃ hw₃
    · exact .inl ⟨rfl, hw₃.of_trace rfl rfl⟩
    dsimp only
    rw [wp_bind, wp_checked]
    refine wp_sys (fun r _ ↦ ?_) hw₃.capped
    have hw₄ := hw₃.call hmono hfit r rfl
    rcases hr : r.val with err | buf
    · exact .inl ⟨rfl, hw₄.of_trace rfl rfl⟩
    dsimp only
    split_ifs with hempty
    · exact .inr ⟨0, Nat.zero_le _, rfl, hw₄⟩
    rw [wp_bind, wp_checked]
    refine wp_sys (fun r' _ ↦ ?_) hw₄.capped
    rcases hr' : r'.val with err | n
    · exact .inl ⟨rfl, (hmove r' hw₄ (by simp only [placed, hr']) (Nat.zero_le _)).of_trace rfl rfl⟩
    · have hle := n.2.trans buf.2
      exact .inr ⟨n.1, hle, rfl, hmove r' hw₄ (by simp only [placed, hr']) hle⟩

/-- A block is counted. -/
theorem Metered.count (hsmall : config.throttleRate ≤ 2 ^ 22)
    (h : Metered clock hrate start p b 0 w) {c : ℕ} (hbc : b ≤ c) (hc : c ≤ xferBlockSize)
    (htrace : w'.trace = w.trace)
    (hprobe : w'.st.session.info.xferProbe = w.st.session.info.xferProbe)
    (hlen : w'.st.session.info.probeLen = w.st.session.info.probeLen + .ofNat c) :
    Metered clock hrate start p 0 (xferBlockSize * 10 ^ 6) w' where
  capped := by rw [htrace]; exact h.capped
  state := by
    rw [htrace, hprobe, hlen]
    intro htime
    obtain ⟨hprobe, k, hk⟩ := h.state htime
    refine ⟨hprobe, k, ?_⟩
    -- the counter does not overflow
    have hlong := hk.long
    have hpaused := hk.paused
    have hnow := hk.probe_le_now
    dsimp only at hlong hpaused hnow
    have hrate' : config.throttleRate * (clock w.trace - p : ℤ) ≤ 2 ^ 22 * (2 ^ 31 * 10 ^ 6) := by
      have hk0 : (0 : ℤ) ≤ k * (throttleGauge hrate).width :=
        mul_nonneg (by positivity) (throttleGauge hrate).width_pos.le
      rw [intMilliseconds] at htime
      exact mul_le_mul hsmall (by omega) (by omega) (by norm_num)
    have hbound : w.st.session.info.probeLen.toNat < 2 ^ 54 := by
      simp only [throttleGauge, sub_sub_sub_cancel_right, add_zero] at hpaused
      omega
    have hcount : (w.st.session.info.probeLen + .ofNat c).toNat =
        w.st.session.info.probeLen.toNat + c := by
      rw [UInt64.toNat_add, UInt64.toNat_ofNat']
      rw [xferBlockSize] at hc
      omega
    have hpass := hk.pass (b := b * 10 ^ 6) (c := c * 10 ^ 6) (by omega)
      (mul_le_mul_of_nonneg_right (by exact_mod_cast hc) (by norm_num))
    rw [hcount, Nat.cast_zero, sub_zero, Nat.cast_add, add_mul]
    rwa [sub_mul, sub_add_cancel] at hpass

theorem Metered.pause (h : Metered clock hrate start p b rest w)
    (hdue : (w.st.session.info.probeLen.toNat : ℤ) * 10 ^ 6 ≤
      config.throttleRate * (clock w.trace - p : ℤ) + 2 * config.throttleRate * 10 ^ 6) :
    Metered clock hrate start p b 0 w where
  capped := h.capped
  state htime := by
    obtain ⟨hprobe, k, hk⟩ := h.state htime
    refine ⟨hprobe, k, hk.pause ?_⟩
    dsimp only
    rwa [sub_sub_sub_cancel_right]

/-- A window is closed, and the next one begins. -/
theorem Metered.close (hmono : ∀ trace x, clock trace ≤ clock (trace ++ [x]))
    (h : Metered clock hrate start p 0 (xferBlockSize * 10 ^ 6) w)
    (hlong : 5 * 10 ^ 8 ≤ (clock w.trace - p : ℤ)) {x : Item kernel} (hx : placed x = 0)
    (htrace : w'.trace = w.trace ++ [x])
    (hprobe : w'.st.session.info.xferProbe = timevalAt (clock w.trace))
    (hlen : w'.st.session.info.probeLen = 0) :
    Metered clock hrate start (clock w.trace) 0 0 w' := by
  have hnow := hmono w.trace x
  have hstep : Metered clock hrate start p (0 + placed x) (xferBlockSize * 10 ^ 6)
      { w with trace := w'.trace } := h.step hmono htrace rfl (by simp [hx])
  refine ⟨hstep.capped, ?_⟩
  rw [htrace, hprobe, hlen]
  intro htime
  obtain ⟨-, k, hk⟩ := h.state (by omega)
  refine ⟨rfl, k + 1, ?_⟩
  rw [transferred_concat, hx]
  have hclose := hk.close (by rw [throttleGauge]; dsimp only; omega)
  exact hclose.wait (by dsimp only; omega)

/-! ### A pause -/

/-- Once an `int` no longer counts the milliseconds, there is nothing left to keep. -/
def Late (clock : List (Item kernel) → ℕ) (hrate : 1 ≤ config.throttleRate)
    (start : ℕ) (w : World) : Prop :=
  AlwaysCapped clock hrate start w ∧ start + intMilliseconds ≤ clock w.trace

theorem Late.metered (h : Late clock hrate start w) : Metered clock hrate start p b rest w where
  capped := h.1
  state htime := absurd h.2 (by omega)

theorem late_steps (hmono : ∀ trace x, clock trace ≤ clock (trace ++ [x]))
    (hrate : 1 ≤ config.throttleRate) (start : ℕ) :
    StepLogic (fun _ ↦ True) (Late clock hrate start) fun _ ↦ Late clock hrate start := by
  have hstep : ∀ {w w' : World} {x}, Late clock hrate start w → w'.trace = w.trace ++ [x] →
      Late clock hrate start w' := by
    intro w w' x hw htrace
    have hnow := hmono w.trace x
    have hlate := hw.2
    refine ⟨fun trace hshorter ↦ ?_, by rw [htrace]; omega⟩
    rw [htrace, List.prefix_concat_iff] at hshorter
    rcases hshorter with rfl | hshorter
    · exact fun htime ↦ absurd htime (by omega)
    · exact hw.1 trace hshorter
  exact {
    toCallLogic := .of_observe (guard_inv _) trivial (fun _ ↦ trivial)
      (fun _ _ ↦ within_sys (guard_inv _) fun _ _ hw ↦ hstep hw rfl)
      (fun _ ↦ within_setErrno fun _ hw ↦ hw)
      fun _ _ ↦ within_mark fun _ hw ↦ hstep hw rfl
    statePool := fun _ _ ↦ within_modify fun _ hw ↦ hw
    modifySession := fun _ _ ↦ within_modify fun _ hw ↦ hw
    undefined := fun _ _ _ _ ↦ within_mark fun _ hw ↦ hstep hw rfl }

/-- `nanosleep`, as often as it takes. -/
theorem sleepFor_metered (henv : RealTime clock e)
    (hfit : (b : ℤ) * 10 ^ 6 + rest ≤ xferBlockSize * 10 ^ 6) (t : ℤ × ℤ)
    (hw : Metered clock hrate start p b rest w) :
    wp e (sleepFor t)
      (fun _ w' ↦ Metered clock hrate start p b rest w' ∧ w'.st.session = w.st.session ∧
        clock w.trace + nanos t ≤ clock w'.trace)
      (fun _ ↦ AlwaysCapped clock hrate start) w := by
  refine wp_loop (fun slp w' ↦ Metered clock hrate start p b rest w' ∧
    w'.st.session = w.st.session ∧ clock w.trace + nanos t ≤ clock w'.trace + nanos slp) ?_
    (fun _ _ h ↦ h.1.capped) ⟨hw, rfl, le_rfl⟩
  rintro slp w₁ ⟨hw₁, hsession, hleft⟩
  rw [wp_bind]
  refine wp_sys (fun r hr ↦ ?_) hw₁.capped
  have hslept := henv.sleep _ _ r hr
  have hw₂ := hw₁.call henv.mono hfit r rfl
  rcases hval : r.val with rem | ⟨⟩
  · rw [hval, unslept] at hslept
    exact ⟨hw₂, hsession, by rw [answered_trace]; omega⟩
  · rw [hval, unslept] at hslept
    exact ⟨hw₂, hsession, by rw [answered_trace]; omega⟩

/-- The report to the master closes the window. -/
theorem reportProgress_metered (henv : RealTime clock e) {diff : ℤ} (hdiff : 500 < diff)
    (hlong : 5 * 10 ^ 8 ≤ (clock w.trace - p : ℤ))
    (hw : Metered clock hrate start p 0 (xferBlockSize * 10 ^ 6) w) :
    wp e (reportProgress diff) (fun _ w' ↦ ∃ p', Metered clock hrate start p' 0 0 w')
      (fun _ ↦ AlwaysCapped clock hrate start) w := by
  have hfit : ((0 : ℕ) : ℤ) * 10 ^ 6 + xferBlockSize * 10 ^ 6 ≤ xferBlockSize * 10 ^ 6 := by simp
  have hsend : Within (fun w : World ↦ Metered clock hrate start p 0 (xferBlockSize * 10 ^ 6) w ∧
      5 * 10 ^ 8 ≤ (clock w.trace - p : ℤ)) (fun _ w ↦
      Metered clock hrate start p 0 (xferBlockSize * 10 ^ 6) w ∧
      5 * 10 ^ 8 ≤ (clock w.trace - p : ℤ)) (sendState .xfer) := by
    refine Within.prod ((metered_steps henv.mono hrate start p hfit).sendState (by decide) .xfer) ?_
    refine (persists_steps (T := fun trace ↦ 5 * 10 ^ 8 ≤ (clock trace - p : ℤ))
      fun trace x _ h ↦ ?_).sendState (by decide) .xfer
    have hnow := henv.mono trace x
    omega
  rw [reportProgress, if_pos hdiff, wp_bind]
  refine wp_mono (hsend.wp ⟨hw, hlong⟩) ?_ fun _ _ h ↦ h.1.capped
  rintro _ w₁ ⟨hw₁, hlong₁⟩
  rw [wp_bind, resetProbe, wp_bind]
  refine wp_sys (fun r hr ↦ ?_) hw₁.capped
  exact ⟨_, hw₁.close henv.mono hlong₁ (x := .call .gettimeofday r) rfl rfl
    (henv.read _ r hr) rfl⟩

/-- **A pause makes up for the block before it**, or closes the window. -/
theorem throttlePause_metered (henv : RealTime clock e) (hsmall : config.throttleRate ≤ 2 ^ 22)
    (hw : Metered clock hrate start p 0 (xferBlockSize * 10 ^ 6) w) :
    wp e (throttlePause config) (fun _ w' ↦ ∃ p', Metered clock hrate start p' 0 0 w')
      (fun _ ↦ AlwaysCapped clock hrate start) w := by
  rcases Nat.lt_or_ge (clock w.trace) (start + intMilliseconds) with htime | hlate
  swap
  · have L := late_steps henv.mono hrate start
    refine wp_mono ((L.throttlePause (L.sendState trivial .xfer) config trivial).wp
      ⟨hw.capped, hlate⟩) (fun _ _ h ↦ ⟨0, h.metered⟩) fun _ _ h ↦ h.1
  have hfit : ((0 : ℕ) : ℤ) * 10 ^ 6 + xferBlockSize * 10 ^ 6 ≤ xferBlockSize * 10 ^ 6 := by simp
  have hfit₀ : ((0 : ℕ) : ℤ) * 10 ^ 6 + 0 ≤ xferBlockSize * 10 ^ 6 := by norm_num [xferBlockSize]
  obtain ⟨hprobe, k, hk⟩ := hw.state htime
  have hstart : (0 : ℤ) ≤ p - start :=
    (mul_nonneg (by positivity) (throttleGauge hrate).width_pos.le).trans hk.long
  have hbegun : (p : ℤ) ≤ clock w.trace := by have h := hk.probe_le_now; dsimp only at h; omega
  have hpaused := hk.paused
  simp only [throttleGauge, sub_sub_sub_cancel_right] at hpaused
  -- what `msecdiff` says
  obtain ⟨hd₀, hd₁, hd₂⟩ := msecdiff_timevalAt (a := clock w.trace) (b := p) (by omega) (by omega)
  rw [throttlePause, wp_bind]
  refine wp_sys (fun r hr ↦ ?_) hw.capped
  have hw₁ := hw.call henv.mono hfit r rfl
  have hnow := henv.mono w.trace (.call .gettimeofday r)
  rw [wp_bind, wp_getSession]
  dsimp only
  rw [henv.read _ r hr, show (answered w .gettimeofday r).st.session.info.xferProbe = timevalAt p
    from hprobe]
  generalize msecdiff (timevalAt (clock w.trace)) (timevalAt p) = diff at hd₀ hd₁ hd₂ ⊢
  rw [if_neg (by omega), wp_bind]
  by_cases hlong : 500 < diff
  · refine wp_mono (reportProgress_metered henv hlong (by rw [answered_trace]; omega) hw₁) ?_
      fun _ _ h ↦ h
    rintro _ w₂ ⟨p', hw₂⟩
    have L := metered_steps henv.mono hrate start p' hfit₀
    rw [if_neg (by omega)]
    split_ifs
    · exact ⟨p', hw₂⟩
    · refine wp_mono ((L.sleepFor _).wp hw₂) (fun _ _ h ↦ ⟨p', h⟩) fun _ _ h ↦ h.capped
  · rw [reportProgress, if_neg (by omega), wp_pure, if_neg (by omega)]
    have hrate' : config.throttleRate * (clock w.trace - p : ℤ) ≤
        config.throttleRate * (502 * 10 ^ 6) := mul_le_mul_of_nonneg_left (by omega) (by omega)
    have hlen : (w.st.session.info.probeLen.toNat : ℤ) ≤ 504 * config.throttleRate + 4096 := by
      rw [xferBlockSize] at hpaused
      omega
    rw [show (answered w .gettimeofday r).st.session.info.probeLen = w.st.session.info.probeLen
      from rfl, toInt_of_abs_lt (by omega) (by omega), Int.tdiv_eq_ediv_of_nonneg (by omega)]
    have hideal := Int.lt_ediv_add_one_mul_self (w.st.session.info.probeLen.toNat : ℤ)
      (by omega : 0 < config.throttleRate)
    generalize (w.st.session.info.probeLen.toNat : ℤ) / config.throttleRate = idealdiff at hideal ⊢
    -- so long has it taken, or been made to take
    have hdue : ∀ now : ℤ, (idealdiff - 1) * 10 ^ 6 ≤ now - p →
        (w.st.session.info.probeLen.toNat : ℤ) * 10 ^ 6 ≤
          config.throttleRate * (now - p) + 2 * config.throttleRate * 10 ^ 6 := by
      intro now hnow
      have hmul := mul_le_mul_of_nonneg_left hnow (by omega : 0 ≤ config.throttleRate)
      linarith
    split_ifs with hdone
    · refine ⟨p, hw₁.pause (hdue _ ?_)⟩
      rw [answered_trace]
      omega
    · refine wp_mono (sleepFor_metered henv hfit _ hw₁) ?_ fun _ _ h ↦ h
      rintro _ w₂ ⟨hw₂, hsession, hslept⟩
      refine ⟨p, hw₂.pause ?_⟩
      rw [hsession]
      refine hdue _ ?_
      rw [nanos, Int.tdiv_eq_ediv_of_nonneg (by omega), Int.tmod_eq_emod_of_nonneg (by omega),
        answered_trace] at hslept
      omega

/-! ### The two transfers -/

/-- Nothing has passed yet. -/
theorem metered_nil (htrace : w.trace = [])
    (hprobe : w.st.session.info.xferProbe = timevalAt (clock []))
    (hlen : w.st.session.info.probeLen = 0) :
    Metered clock hrate (clock []) (clock []) 0 0 w := by
  have hholds : (throttleGauge hrate).Holds 0 0 0 ⟨0, 0, 0⟩ := by
    refine ⟨by simp, by simp, ?_, le_rfl⟩
    simpa using (throttleGauge hrate).slack_nonneg
  refine ⟨fun trace hshorter ↦ ?_, fun _ ↦ ⟨hprobe, 0, ?_⟩⟩
  · rw [htrace, List.prefix_nil] at hshorter
    rw [hshorter]
    intro _
    have hcap := hholds.le_cap (b := 0) (by simpa using (throttleGauge hrate).block_nonneg)
    simpa [transferred] using hcap
  · rw [htrace, hlen]
    simpa [transferred] using hholds

theorem startTransfer_metered (henv : RealTime clock e) (hrate : 1 ≤ config.throttleRate)
    (s : Process) :
    wp e startTransfer (fun _ w' ↦ Metered clock hrate (clock []) (clock []) 0 0 w')
      (fun _ ↦ AlwaysCapped clock hrate (clock [])) (World.start s) := by
  rw [startTransfer, wp_bind]
  have hstart : ∀ info : FtpXferInfo, info.xferProbe = timevalAt (clock []) → info.probeLen = 0 →
      Metered clock hrate (clock []) (clock []) 0 0
        (World.start { s with session := { s.session with info } } : World) :=
    fun _ hprobe hlen ↦ metered_nil rfl hprobe hlen
  refine wp_sys (fun r hr ↦ ?_) (hstart { s.session.info with
    xferProbe := timevalAt (clock []), probeLen := 0 } rfl rfl).capped
  rw [henv.read _ r hr]
  have hstep := (hstart { s.session.info with
    xferStart := timevalAt (clock []), xferProbe := timevalAt (clock []), xferLen := 0,
    probeLen := 0 } rfl rfl).call henv.mono (by norm_num [xferBlockSize]) r rfl
  exact hstep.of_trace rfl rfl

theorem storeFile_metered (henv : RealTime clock e) (hrate : 1 ≤ config.throttleRate)
    (hsmall : config.throttleRate ≤ 2 ^ 22) (file data : Stream) (s : Process) :
    wp e (storeFile config file data) (fun _ ↦ AlwaysCapped clock hrate (clock []))
      (fun _ ↦ AlwaysCapped clock hrate (clock [])) (World.start s) := by
  have hfit : ((0 : ℕ) : ℤ) * 10 ^ 6 + 0 ≤ xferBlockSize * 10 ^ 6 := by norm_num [xferBlockSize]
  rw [storeFile, wp_bind, wp_getSession, wp_bind]
  refine wp_mono (startTransfer_metered henv hrate s) ?_ fun _ _ h ↦ h
  intro _ w₁ hw₁
  -- between two blocks nothing is left uncounted, and only the start of the window has moved
  refine wp_loop (fun _ w ↦ ∃ p, Metered clock hrate (clock []) p 0 0 w) ?_
    (fun _ _ h ↦ h.elim fun _ h ↦ h.capped) ⟨_, hw₁⟩
  rintro offset w ⟨p, hw⟩
  have L := metered_steps henv.mono hrate (clock []) p hfit
  rw [wp_bind]
  refine wp_mono (spliceStream_metered henv.mono _ _ _ _ le_rfl hw) ?_ fun _ _ h ↦ h
  rintro ⟨ret, offset'⟩ w₂ h
  dsimp only at h ⊢
  rcases h with ⟨rfl, hw₂⟩ | ⟨b, hb, rfl, hw₂⟩
  · rw [if_neg (by decide), if_pos rfl, wp_bind]
    refine wp_mono ((L.spliceFailed (metered_signal henv.mono hfit _)).wp hw₂) ?_
      fun _ _ h ↦ h.capped
    rintro (_ | ret) w₃ hw₃
    · exact ⟨p, hw₃⟩
    · exact hw₃.capped
  · by_cases hzero : (b : ℤ) = 0
    · rw [if_pos hzero]
      exact hw₂.capped
    rw [if_neg hzero, if_neg (by omega), wp_bind, modifyInfo, modifySession, wp_modify, wp_bind]
    -- the block is counted in the window before the pause makes up for it
    refine wp_mono (throttlePause_metered henv hsmall
      (hw₂.count hsmall le_rfl hb rfl rfl rfl)) ?_ fun _ _ h ↦ h
    rintro _ w₃ ⟨p', hw₃⟩
    rw [wp_bind, wp_get]
    split_ifs
    · rw [wp_bind]
      refine wp_mono ((metered_signal henv.mono hfit _).wp hw₃) ?_ fun _ _ h ↦ h.capped
      intro ret w₄ hw₄
      split_ifs
      · exact hw₄.capped
      · exact ⟨p', hw₄⟩
    · exact ⟨p', hw₃⟩

/-- A request of `transfer_file`, repeated until it does not fail. -/
theorem spliceBlock_metered (hmono : ∀ trace x, clock trace ≤ clock (trace ++ [x]))
    (data file : Stream) (offset : ℤ) {count : ℕ} (hcount : count ≤ xferBlockSize)
    (hw : Metered clock hrate start p 0 0 w) :
    wp e (spliceBlock data file offset count)
      (fun r w' ↦ match r with
        | .error _ => AlwaysCapped clock hrate start w'
        | .ok _ => ∃ b ≤ count, Metered clock hrate start p b 0 w')
      (fun _ ↦ AlwaysCapped clock hrate start) w := by
  have hfit : ((0 : ℕ) : ℤ) * 10 ^ 6 + 0 ≤ xferBlockSize * 10 ^ 6 := by norm_num [xferBlockSize]
  have L := metered_steps hmono hrate start p hfit
  refine wp_loop (fun _ w ↦ Metered clock hrate start p 0 0 w) ?_ (fun _ _ h ↦ h.capped) hw
  intro _ w₁ hw₁
  rw [wp_bind]
  refine wp_mono (spliceStream_metered hmono _ _ _ _ hcount hw₁) ?_ fun _ _ h ↦ h
  rintro ⟨ret, offset'⟩ w₂ h
  dsimp only at h ⊢
  rcases h with ⟨rfl, hw₂⟩ | ⟨b, hb, rfl, hw₂⟩
  · rw [if_pos rfl, wp_bind]
    refine wp_mono ((L.spliceFailed (metered_signal hmono hfit _)).wp hw₂) ?_ fun _ _ h ↦ h.capped
    rintro (_ | ret) w₃ hw₃
    · exact hw₃
    · exact hw₃.capped
  · rw [if_neg (by omega)]
    exact ⟨b, hb, hw₂⟩

theorem transferFile_metered (henv : RealTime clock e) (hrate : 1 ≤ config.throttleRate)
    (hsmall : config.throttleRate ≤ 2 ^ 22) (data file : Stream) (fileOffset count : ℤ)
    (s : Process) :
    wp e (transferFile config data file fileOffset count)
      (fun _ ↦ AlwaysCapped clock hrate (clock []))
      (fun _ ↦ AlwaysCapped clock hrate (clock [])) (World.start s) := by
  have hfit : ((0 : ℕ) : ℤ) * 10 ^ 6 + 0 ≤ xferBlockSize * 10 ^ 6 := by norm_num [xferBlockSize]
  -- the loop over the blocks begins and ends with nothing left to count
  have hblocks : ∀ blocks w, Metered clock hrate (clock []) (clock []) 0 0 w →
      wp e (sendBlocks config data file fileOffset blocks)
        (fun r w' ↦ r.elim (∃ p, Metered clock hrate (clock []) p 0 0 w') fun _ ↦
          AlwaysCapped clock hrate (clock []) w')
        (fun _ ↦ AlwaysCapped clock hrate (clock [])) w := by
    intro blocks w hw
    refine wp_loop (fun _ w ↦ ∃ p, Metered clock hrate (clock []) p 0 0 w) ?_
      (fun _ _ h ↦ h.elim fun _ h ↦ h.capped) ⟨_, hw⟩
    rintro i w₁ ⟨p, hw₁⟩
    split_ifs
    swap
    · exact ⟨p, hw₁⟩
    rw [wp_bind]
    refine wp_mono (spliceBlock_metered henv.mono _ _ _ le_rfl hw₁) ?_ fun _ _ h ↦ h
    rintro (ret | ret) w₂ hw₂
    · exact hw₂
    obtain ⟨b, hb, hw₂⟩ := hw₂
    dsimp only
    by_cases hzero : ret = 0
    · rw [if_pos hzero]
      exact hw₂.capped
    rw [if_neg hzero, wp_bind, modifyInfo, modifySession, wp_modify, wp_bind]
    refine wp_mono (throttlePause_metered henv hsmall
      (hw₂.count hsmall hb le_rfl rfl rfl rfl)) ?_ fun _ _ h ↦ h
    rintro _ w₃ ⟨p', hw₃⟩
    rw [wp_bind]
    refine wp_mono ((metered_signal henv.mono hfit _).wp hw₃) ?_ fun _ _ h ↦ h.capped
    intro ret w₄ hw₄
    split_ifs
    · exact hw₄.capped
    · exact ⟨p', hw₄⟩
  rw [transferFile, wp_bind]
  refine wp_mono (startTransfer_metered henv hrate s) ?_ fun _ _ h ↦ h
  intro _ w₁ hw₁
  dsimp only
  rw [wp_bind]
  refine wp_mono (hblocks _ w₁ hw₁) ?_ fun _ _ h ↦ h
  rintro (_ | ret) w₂ hw₂
  · obtain ⟨p, hw₂⟩ := hw₂
    -- the remainder is no longer than a block, and no pause comes behind it
    have hcount : (count.tmod xferBlockSize).toNat ≤ xferBlockSize := by
      have hlt := Int.tmod_lt_of_pos count (by decide : (0 : ℤ) < xferBlockSize)
      omega
    dsimp only
    rw [wp_bind]
    refine wp_mono (spliceBlock_metered henv.mono _ _ _ hcount hw₂) ?_ fun _ _ h ↦ h
    rintro (ret | ret) w₃ hw₃
    · exact hw₃
    · obtain ⟨b, -, hw₃⟩ := hw₃
      exact hw₃.capped
  · exact hw₂

end

/-- **What passes in a transfer is at most the rate**, and a block and two milliseconds' worth for
each half second. -/
theorem transfer_caps (config : FtpConfig) (hrate : 1 ≤ config.throttleRate)
    (hsmall : config.throttleRate ≤ 2 ^ 22) (data file : Stream) :
    (∀ fileOffset count, CapsWindows config (transferFile config data file fileOffset count)) ∧
      CapsWindows config (storeFile config file data) := by
  constructor
  · intro fileOffset count clock e s henv
    exact wp_always.1 (transferFile_metered henv hrate hsmall data file fileOffset count s)
  · intro clock e s henv
    exact wp_always.1 (storeFile_metered henv hrate hsmall file data s)

/-- The rate is 4 kilobytes per second. -/
theorem transfer_caps_four :
    RealTime sleepClock (fullSpeed 12) ∧ CapsWindows { loadDefaults with throttleRate := 4 }
      (storeFile { loadDefaults with throttleRate := 4 } ⟨7, .file⟩ ⟨8, .socket⟩) :=
  ⟨(clock_fullSpeed 12).realTime, (transfer_caps { loadDefaults with throttleRate := 4 } (by decide)
    (by decide) ⟨8, .socket⟩ ⟨7, .file⟩).2⟩

end FtpServer
