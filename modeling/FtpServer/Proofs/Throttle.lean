import FtpServer.Library.Pacing
import FtpServer.Proofs.StatePipe

/-!
# The bandwidth cap

`throttle_pause` begins a new window before it sleeps for the old one, as the limiters of `Pacing`
do. So however large a constant is allowed beside the rate, some upload exceeds it, at every rate
(`storeFile_exceeds`).

* `Clock` is a clock that is read as it is, and by which sleeps are exact. So it is not for want of
  precision that the bound fails.
* `Caps` is the bound that is refuted, with any constant.
* `fullSpeed` is an upload of blocks that are there when they are asked for. It is a run of the
  limiter of `Pacing` (`storeFile_fullSpeed`), as every pause is a step of it
  (`throttlePause_fullSpeed`).
-/

namespace FtpServer

open CString Effect Effect.Proc Pacing

/-! ### Time -/

/-- The `struct timeval` of a time in nanoseconds. -/
def timevalAt (ns : ℕ) : Timeval := ⟨.ofNat (ns / 10 ^ 9), .ofNat (ns % 10 ^ 9 / 1000)⟩

/-- The time that a `nanosleep` is to take. -/
def nanos (t : ℤ × ℤ) : ℕ := (t.1 * 10 ^ 9 + t.2).toNat

/-- A clock, in nanoseconds, that does not go back: `gettimeofday` reads it, and `nanosleep` sleeps
exactly as long as it is asked to. -/
structure Clock (clock : List (Item kernel) → ℕ) (e : Env) : Prop where
  mono : ∀ trace x, clock trace ≤ clock (trace ++ [x])
  read : ∀ trace, ∀ r : Answer .gettimeofday, e.answer trace .gettimeofday = r →
    r.val = timevalAt (clock trace)
  sleep : ∀ trace t, ∀ r : Answer (.nanosleep t), e.answer trace (.nanosleep t) = r →
    r.val = .ok () ∧ clock (trace ++ [.call (.nanosleep t) r]) = clock trace + nanos t

/-- How many bytes a call puts where they are to go: on the socket, or in the file. -/
def placed : Item kernel → ℕ
  | .call (.sendfile _ _ _ _) r =>
    match r.val with
    | .ok n => n.1
    | .error _ => 0
  | .call (.write _ _) r =>
    match r.val with
    | .ok n => n.1
    | .error _ => 0
  | _ => 0

def transferred (trace : List (Item kernel)) : ℕ := (trace.map placed).sum

/-- At every time of a transfer, no more than this has been transferred beside what the rate, in
bytes per millisecond, allows since its start. -/
def Caps (config : FtpConfig) (C : ℕ) (transfer : Program FtpRet) : Prop :=
  ∀ clock e s, Clock clock e → ∀ trace, trace <+: (transfer e (World.start s)).2.trace →
    (transferred trace : ℤ) * 10 ^ 6 ≤
      config.throttleRate * (clock trace - clock [] : ℤ) + C * 10 ^ 6

/-! ### Milliseconds -/

/-- A time in milliseconds. -/
def timevalOfMs (ms : ℤ) : Timeval := timevalAt (ms.toNat * 10 ^ 6)

theorem toInt_congr {x y : ℤ} (h : (2 ^ 32 : ℤ) ∣ x - y) : toInt x = toInt y := by
  rw [toInt, toInt, Int.bmod_eq_bmod_iff_bmod_sub_eq_zero, ← Int.dvd_iff_bmod_eq_zero]
  exact_mod_cast h

theorem toInt_of_abs_lt {x : ℤ} (hlow : -2 ^ 31 ≤ x) (hhigh : x < 2 ^ 31) : toInt x = x :=
  Int.bmod_eq_of_le_mul_two (by omega) (by omega)

theorem toInt_le {x : ℤ} (h : 0 ≤ x) : toInt x ≤ x := by
  rw [toInt, Int.bmod_def]
  split_ifs <;> omega

/-- The seconds may be too many for their type. -/
theorem exists_sec_timevalOfMs (ms : ℤ) :
    ∃ q : ℤ, (timevalOfMs ms).sec.toInt = (ms.toNat / 1000 : ℕ) - 2 ^ 64 * q := by
  obtain ⟨q, hq⟩ := Int.dvd_self_sub_bmod (x := (ms.toNat / 1000 : ℕ)) (m := 2 ^ 64)
  refine ⟨q, ?_⟩
  rw [show ((2 ^ 64 : ℕ) : ℤ) = 2 ^ 64 by norm_num] at hq
  rw [timevalOfMs, timevalAt, show ms.toNat * 10 ^ 6 / 10 ^ 9 = ms.toNat / 1000 by omega,
    Int64.toInt_ofNat', show Int64.size = 2 ^ 64 from rfl]
  linarith

theorem usec_timevalOfMs (ms : ℤ) : (timevalOfMs ms).usec.toInt = (ms.toNat % 1000 : ℕ) * 1000 := by
  rw [timevalOfMs, timevalAt,
    show ms.toNat * 10 ^ 6 % 10 ^ 9 / 1000 = ms.toNat % 1000 * 1000 by omega]
  rw [Int64.toInt_ofNat_of_lt (by omega), Nat.cast_mul]
  rfl

/-- But their difference is right. -/
theorem msecdiff_ms {a b : ℤ} (hb : 0 ≤ b) (hle : b ≤ a) (hlt : a < b + 2 ^ 31) :
    msecdiff (timevalOfMs a) (timevalOfMs b) = a - b := by
  obtain ⟨p, hp⟩ := exists_sec_timevalOfMs a
  obtain ⟨q, hq⟩ := exists_sec_timevalOfMs b
  have htdiv : ((a.toNat % 1000 : ℕ) * 1000 - (b.toNat % 1000 : ℕ) * 1000 : ℤ).tdiv 1000 =
      (a.toNat % 1000 : ℕ) - (b.toNat % 1000 : ℕ) := by
    rw [← sub_mul, Int.mul_tdiv_cancel _ (by decide)]
  have ha : (a.toNat / 1000 : ℕ) * 1000 + (a.toNat % 1000 : ℕ) = a := by omega
  have hb : (b.toNat / 1000 : ℕ) * 1000 + (b.toNat % 1000 : ℕ) = b := by omega
  rw [msecdiff, hp, hq, usec_timevalOfMs, usec_timevalOfMs, htdiv, ← toInt_of_abs_lt (x := a - b)
    (by omega) (by omega)]
  refine toInt_congr (Dvd.intro (2 ^ 32 * 1000 * (q - p)) ?_)
  linear_combination hb - ha

/-! ### The throttle as a limiter -/

/-- The limiter that `throttle_pause` is, in bytes and milliseconds. -/
def throttle (rate : ℤ) : Limiter where
  width := 500
  block := xferBlockSize
  due len := (toInt len).tdiv rate

theorem throttle_paces {rate : ℤ} (hrate : 1 ≤ rate) : (throttle rate).Paces rate (2 ^ 31 - 1) where
  block_pos := show (0 : ℤ) < (4096 : ℕ) by decide
  due_le len hlen := by
    have hle := toInt_le hlen
    rcases le_total 0 (toInt len) with hpos | hneg
    · calc rate * (toInt len).tdiv rate = rate * (toInt len / rate) := by
            rw [Int.tdiv_eq_ediv_of_nonneg hpos]
        _ ≤ toInt len := Int.mul_ediv_self_le (by omega)
        _ ≤ len := hle
    · have hdiv : (toInt len).tdiv rate ≤ 0 := by
        have h := Int.tdiv_nonneg (neg_nonneg.2 hneg) (by omega : 0 ≤ rate)
        rw [Int.neg_tdiv] at h
        omega
      exact (mul_nonpos_of_nonneg_of_nonpos (by omega) hdiv).trans hlen
  due_le_bound len := by
    have hlt : toInt len < 2 ^ 31 := by
      rw [toInt]
      have h := Int.bmod_lt (x := len) (m := 2 ^ 32) (by norm_num)
      omega
    rcases le_total 0 (toInt len) with hpos | hneg
    · exact (Int.tdiv_le_self rate hpos).trans (by omega)
    · have h := Int.tdiv_nonneg (neg_nonneg.2 hneg) (by omega : 0 ≤ rate)
      rw [Int.neg_tdiv] at h
      change (toInt len).tdiv rate ≤ 2 ^ 31 - 1
      omega
  bound_nonneg := by norm_num

/-! ### An upload at full speed -/

/-- How long a call sleeps. -/
def slept : Item kernel → ℕ
  | .call (.nanosleep t) _ => nanos t
  | _ => 0

/-- The clock of a world in which nothing takes time but sleeping. -/
def sleepClock (trace : List (Item kernel)) : ℕ := (trace.map slept).sum

/-- The environment of an upload of so many blocks that arrive at once. -/
def fullSpeed (blocks : ℕ) : Env where
  answer trace c :=
    match c with
    | .gettimeofday => ⟨[], timevalAt (sleepClock trace)⟩
    | .read _ count =>
      if transferred trace < blocks * xferBlockSize then
        ⟨[], .ok ⟨List.replicate count 0, by simp⟩⟩
      else ⟨[], .ok ⟨[], Nat.zero_le _⟩⟩
    | c => ⟨[], Val.default c⟩
  limit := 8 * blocks + 8

theorem sleepClock_concat (trace : List (Item kernel)) (x : Item kernel) :
    sleepClock (trace ++ [x]) = sleepClock trace + slept x := by
  simp [sleepClock]

theorem transferred_concat (trace : List (Item kernel)) (x : Item kernel) :
    transferred (trace ++ [x]) = transferred trace + placed x := by
  simp [transferred]

theorem clock_fullSpeed (blocks : ℕ) : Clock sleepClock (fullSpeed blocks) where
  mono trace x := by rw [sleepClock_concat]; omega
  read := by
    rintro trace r rfl
    rfl
  sleep := by
    rintro trace t r rfl
    exact ⟨rfl, sleepClock_concat _ _⟩

/-- No signals are delivered. -/
theorem async_fullSpeed {blocks : ℕ} {trace : List (Item kernel)} {c : Call} {r : Answer c}
    (h : (fullSpeed blocks).answer trace c = r) : r.async = [] := by
  subst h
  cases c with
  | read fd count =>
    show Answer.async (if _ then _ else _ : Answer (.read fd count)) = []
    split_ifs <;> rfl
  | _ => rfl

section

variable {config : FtpConfig} {blocks n k : ℕ} {w w' w'' : World} {W : Window}

/-- At most so many calls were made, which transferred nothing and took no time. -/
structure Costs (k : ℕ) (w w' : World) : Prop where
  clock : sleepClock w'.trace = sleepClock w.trace
  transferred : transferred w'.trace = transferred w.trace
  grows : w.trace.length ≤ w'.trace.length
  length : w'.trace.length ≤ w.trace.length + k
  flag : w'.st.signalFlag = w.st.signalFlag

theorem Costs.trans {k' : ℕ} (h : Costs k w w') (h' : Costs k' w' w'') : Costs (k + k') w w'' where
  clock := h'.clock.trans h.clock
  transferred := h'.transferred.trans h.transferred
  grows := h.grows.trans h'.grows
  length := by have hlen := h.length; have hlen' := h'.length; omega
  flag := h'.flag.trans h.flag

/-- A call that neither transfers nor sleeps. -/
theorem wp_costs {c : Call} {Q : Val c → World → Prop} (hroom : w.trace.length < 8 * blocks + 8)
    (hplaced : ∀ r : Answer c, placed (.call c r) = 0)
    (hslept : ∀ r : Answer c, slept (.call c r) = 0)
    (hQ : ∀ (r : Answer c) w', (fullSpeed blocks).answer w.trace c = r → w'.st = w.st →
      w'.trace.length = w.trace.length + 1 → Costs 1 w w' → Q r.val w') :
    wp (fullSpeed blocks) (sys c) Q (fun _ _ ↦ False) w := by
  refine wp_sys_of_lt hroom fun r hr ↦ ?_
  have hst : (answered w c r).st = w.st := by
    rw [answered, async_fullSpeed hr]
    rfl
  refine hQ r _ hr hst (by simp) ⟨?_, ?_, by simp, by simp, by rw [hst]⟩
  · exact (sleepClock_concat _ _).trans (congrArg (sleepClock w.trace + ·) (hslept r))
  · exact (transferred_concat _ _).trans (congrArg (transferred w.trace + ·) (hplaced r))

/-- A loop that is left in its first round. -/
theorem wp_loop_once {τ α : Type} {body : τ → Program (τ ⊕ α)} {t : τ} {e : Env}
    {Q : α → World → Prop} {H : Halt → World → Prop}
    (h : wp e (body t) (fun r w' ↦ r.elim (fun _ ↦ False) fun a ↦ Q a w') H w) :
    wp e (Proc.loop body t) Q H w := by
  refine wp_loop_of_answered (fun t' w' ↦ t' = t ∧ w' = w) ?_ ⟨rfl, rfl⟩
  rintro _ _ ⟨rfl, rfl⟩
  refine wp_mono h ?_ fun _ _ h ↦ h
  rintro (t' | a) w' h'
  · exact h'.elim
  · exact h'

/-- The report to the master. -/
theorem wp_report (hroom : w.trace.length < 8 * blocks + 8)
    (hpool : ∃ pool, w.st.statePool = some pool) :
    wp (fullSpeed blocks) (sendState .xfer)
      (fun _ w' ↦ w'.st.session = w.st.session ∧
        (∃ pool, w'.st.statePool = some pool) ∧ Costs 1 w w')
      (fun _ _ ↦ False) w := by
  obtain ⟨pool, hpool⟩ := hpool
  rw [sendState, wp_bind, wp_get, hpool, find?_type]
  simp only [opOf, sendXfer, wp_bind, wp_modify, ne_eq, not_true_eq_false, if_false]
  refine wp_loop_once ?_
  rw [wp_bind, wp_checked]
  refine wp_costs hroom (fun _ ↦ rfl) (fun _ ↦ rfl) fun r w' hr hst _ hcosts ↦ ?_
  subst hr
  exact ⟨by rw [hst], ⟨_, by rw [hst]⟩, hcosts.clock, hcosts.transferred, hcosts.grows,
    hcosts.length, hcosts.flag⟩

/-- What the session and the clock say about the limiter. -/
structure InWindow (W : Window) (w : World) : Prop where
  probe : w.st.session.info.xferProbe = timevalOfMs W.probe
  len : w.st.session.info.probeLen = UInt64.ofNat W.len.toNat
  now : sleepClock w.trace = W.now.toNat * 10 ^ 6
  pool : ∃ pool, w.st.statePool = some pool
  flag : w.st.signalFlag = 0

theorem InWindow.costs (h : InWindow W w) (hst : w'.st = w.st) (hcosts : Costs k w w') :
    InWindow W w' where
  probe := by rw [hst, h.probe]
  len := by rw [hst, h.len]
  now := hcosts.clock.trans h.now
  pool := by rw [hst]; exact h.pool
  flag := by rw [hst, h.flag]

theorem wp_sleep {ms : ℤ} (hms : 0 ≤ ms) (hroom : w.trace.length < 8 * blocks + 8) :
    wp (fullSpeed blocks) (sleepFor (ms.tdiv 1000, ms.tmod 1000 * 1000000))
      (fun _ w' ↦ w'.st = w.st ∧ sleepClock w'.trace = sleepClock w.trace + ms.toNat * 10 ^ 6 ∧
        transferred w'.trace = transferred w.trace ∧ w'.trace.length = w.trace.length + 1)
      (fun _ _ ↦ False) w := by
  refine wp_loop_once ?_
  rw [wp_bind]
  refine wp_sys_of_lt hroom fun r hr ↦ ?_
  have hst : (answered w (.nanosleep (ms.tdiv 1000, ms.tmod 1000 * 1000000)) r).st = w.st := by
    rw [answered, async_fullSpeed hr]
    rfl
  have hnanos : nanos (ms.tdiv 1000, ms.tmod 1000 * 1000000) = ms.toNat * 10 ^ 6 := by
    rw [nanos, Int.tdiv_eq_ediv_of_nonneg hms, Int.tmod_eq_emod_of_nonneg hms]
    dsimp only
    omega
  have hval : r.val = .ok () := by
    rw [← hr]
    rfl
  rw [hval]
  refine ⟨hst, ?_, ?_, by simp⟩
  · exact (sleepClock_concat _ _).trans (congrArg (sleepClock w.trace + ·) hnanos)
  · exact transferred_concat _ _

theorem reportProgress_fullSpeed (hw : InWindow W w) (hroom : w.trace.length + 2 ≤ 8 * blocks + 8) :
    wp (fullSpeed blocks) (reportProgress (W.now - W.probe))
      (fun _ w' ↦
        InWindow (if 500 < W.now - W.probe then ⟨W.now, 0, W.now⟩ else W) w' ∧
          Costs 2 w w')
      (fun _ _ ↦ False) w := by
  rw [reportProgress]
  by_cases hlong : 500 < W.now - W.probe
  · rw [if_pos hlong, if_pos hlong, wp_bind]
    refine wp_mono (wp_report (by omega) hw.pool) ?_ fun _ _ h ↦ h
    rintro _ w₁ ⟨hsession, hpool, hcosts₁⟩
    rw [wp_bind, resetProbe, wp_bind]
    have hlen₁ := hcosts₁.length
    refine wp_costs (by omega) (fun _ ↦ rfl) (fun _ ↦ rfl) fun r w₂ hr hst hlen₂ hcosts₂ ↦ ?_
    have hval : r.val = timevalOfMs W.now := by
      rw [(clock_fullSpeed blocks).read _ r hr, hcosts₁.clock, hw.now, timevalOfMs]
    have hcosts := hcosts₁.trans hcosts₂
    refine ⟨⟨?_, rfl, ?_, ?_, ?_⟩, hcosts.clock, hcosts.transferred, hcosts.grows, hcosts.length,
      hcosts.flag⟩
    · exact hval
    · exact hcosts.clock.trans hw.now
    · obtain ⟨pool, hpool⟩ := hpool
      exact ⟨pool, by rw [← hpool, ← hst]⟩
    · exact hcosts.flag.trans hw.flag
  · rw [if_neg hlong, if_neg hlong]
    exact ⟨hw, rfl, rfl, le_rfl, Nat.le_add_right _ _, rfl⟩

/-- **`throttle_pause` is a step of the limiter.** -/
theorem throttlePause_fullSpeed (hrate : 1 ≤ config.throttleRate) (hprobe : 0 ≤ W.probe)
    (hlen : 0 ≤ W.len) (hnow : W.probe ≤ W.now) (hlt : W.now < W.probe + 2 ^ 31)
    (hw : InWindow { W with len := W.len + xferBlockSize } w)
    (hroom : w.trace.length + 4 ≤ 8 * blocks + 8) :
    wp (fullSpeed blocks) (throttlePause config)
      (fun _ w' ↦ InWindow ((throttle config.throttleRate).step W) w' ∧
        transferred w'.trace = transferred w.trace ∧ w.trace.length ≤ w'.trace.length ∧
        w'.trace.length ≤ w.trace.length + 4)
      (fun _ _ ↦ False) w := by
  rw [throttlePause, wp_bind]
  refine wp_costs (by omega) (fun _ ↦ rfl) (fun _ ↦ rfl) fun r w₁ hr hst hlen₁ hcosts₁ ↦ ?_
  have hval : r.val = timevalOfMs W.now := by
    rw [(clock_fullSpeed blocks).read _ r hr, hw.now, timevalOfMs]
  have hw₁ := hw.costs hst hcosts₁
  have hsize : toInt w₁.st.session.info.probeLen.toNat = toInt (W.len + xferBlockSize) := by
    refine toInt_congr ?_
    rw [show w₁.st.session.info.probeLen = UInt64.ofNat (W.len + xferBlockSize).toNat from hw₁.len,
      UInt64.toNat_ofNat']
    omega
  have hdiff : msecdiff r.val w₁.st.session.info.xferProbe = W.now - W.probe := by
    rw [hval, show w₁.st.session.info.xferProbe = timevalOfMs W.probe from hw₁.probe]
    exact msecdiff_ms hprobe hnow hlt
  rw [wp_bind, wp_getSession]
  dsimp only
  rw [hdiff, hsize, if_neg (by omega), wp_bind]
  have hlen₁ := hcosts₁.length
  refine wp_mono (reportProgress_fullSpeed (W := { W with len := W.len + xferBlockSize }) hw₁
    (by omega)) ?_ fun _ _ h ↦ h
  rintro _ w₂ ⟨hw₂, hcosts₂⟩
  have hlen₂ := hcosts₂.length
  have hcosts := hcosts₁.trans hcosts₂
  have hgrows := hcosts.grows
  rw [if_neg (by omega)]
  replace hw₂ : InWindow ((throttle config.throttleRate).roll W) w₂ := hw₂
  have hnow₂ : sleepClock w₂.trace = W.now.toNat * 10 ^ 6 := hcosts.clock.trans hw.now
  -- the time that is due, as the limiter has it
  generalize hdue : (toInt (W.len + xferBlockSize)).tdiv config.throttleRate = due
  have hstep : (throttle config.throttleRate).step W =
      { (throttle config.throttleRate).roll W with now := max W.now (W.probe + due) } := by
    rw [← hdue]
    rfl
  rw [hstep]
  by_cases hdone : due < W.now - W.probe
  · rw [if_pos hdone, max_eq_left (by omega)]
    exact ⟨⟨hw₂.probe, hw₂.len, hnow₂, hw₂.pool, hw₂.flag⟩, hcosts.transferred, hgrows, by omega⟩
  · rw [if_neg hdone, max_eq_right (by omega)]
    refine wp_mono (wp_sleep (by omega) (by omega)) ?_ fun _ _ h ↦ h
    rintro _ w₃ ⟨hst₃, hclock₃, hmoved₃, hlen₃⟩
    refine ⟨⟨by rw [hst₃, hw₂.probe], by rw [hst₃, hw₂.len], ?_, by rw [hst₃]; exact hw₂.pool,
      by rw [hst₃, hw₂.flag]⟩, hmoved₃.trans hcosts.transferred, by omega, by omega⟩
    have htime : W.now.toNat + (due - (W.now - W.probe)).toNat = (W.probe + due).toNat := by omega
    rw [hclock₃, hnow₂, ← add_mul, htime]

/-- What a call of `splice_stream` does: a block arrives and is written, or nothing more arrives. -/
structure Spliced (blocks : ℕ) (ret : ℤ) (w w' : World) : Prop where
  st : w'.st = w.st
  clock : sleepClock w'.trace = sleepClock w.trace
  grows : w.trace.length < w'.trace.length
  length : w'.trace.length ≤ w.trace.length + 4
  moves : if transferred w.trace < blocks * xferBlockSize then
      ret = xferBlockSize ∧ transferred w'.trace = transferred w.trace + xferBlockSize
    else ret = 0 ∧ transferred w'.trace = transferred w.trace

theorem spliceStream_fullSpeed (file data offset : ℤ)
    (hroom : w.trace.length + 4 ≤ 8 * blocks + 8) :
    wp (fullSpeed blocks)
      (spliceStream ⟨file, .file⟩ (some offset) ⟨data, .socket⟩ none xferBlockSize)
      (fun r w' ↦ Spliced blocks r.1 w w') (fun _ _ ↦ False) w := by
  simp only [spliceStream, seekTo, wp_bind, wp_pure, wp_checked, reduceCtorEq, decide_false,
    Bool.false_and, Bool.false_eq_true, if_false]
  refine wp_costs (by omega) (fun _ ↦ rfl) (fun _ ↦ rfl) fun r₁ w₁ hr₁ hst₁ hlen₁ hcosts₁ ↦ ?_
  have hval₁ : r₁.val = .ok () := by
    rw [← hr₁]
    rfl
  rw [hval₁]
  dsimp only
  refine wp_costs (by omega) (fun _ ↦ rfl) (fun _ ↦ rfl) fun r₂ w₂ hr₂ hst₂ hlen₂ hcosts₂ ↦ ?_
  obtain ⟨block, hval₂⟩ : ∃ block, r₂.val = some block := ⟨_, by rw [← hr₂]; rfl⟩
  rw [hval₂]
  dsimp only
  have hcosts := hcosts₁.trans hcosts₂
  simp only [wp_bind, wp_checked]
  refine wp_costs (by omega) (fun _ ↦ rfl) (fun _ ↦ rfl) fun r₃ w₃ hr₃ hst₃ hlen₃ hcosts₃ ↦ ?_
  have hst : w₃.st = w.st := hst₃.trans (hst₂.trans hst₁)
  by_cases hmore : transferred w.trace < blocks * xferBlockSize
  · obtain ⟨hle, hval₃⟩ : ∃ h, r₃.val = .ok ⟨List.replicate xferBlockSize 0, h⟩ := by
      refine ⟨by simp, ?_⟩
      rw [← hr₃]
      show Answer.val (if transferred w₂.trace < _ then _ else _ : Answer (.read data _)) = _
      rw [if_pos (hcosts.transferred ▸ hmore)]
    rw [hval₃]
    dsimp only
    rw [if_neg (by simp [xferBlockSize]), wp_bind, wp_checked]
    refine wp_sys_of_lt (show w₃.trace.length < 8 * blocks + 8 by omega) fun r₄ hr₄ ↦ ?_
    have hval₄ : r₄.val = .ok ⟨(List.replicate xferBlockSize 0).length, le_rfl⟩ := by
      rw [← hr₄]
      rfl
    have hst₄ : (answered w₃ (.write file (List.replicate xferBlockSize 0)) r₄).st = w₃.st := by
      rw [answered, async_fullSpeed hr₄]
      rfl
    have hplaced : placed (.call (.write file (List.replicate xferBlockSize 0)) r₄) =
        xferBlockSize := by
      simp [placed, hval₄]
    rw [hval₄]
    refine ⟨hst₄.trans hst, ?_, by simp; omega, by simp; omega, ?_⟩
    · rw [answered_trace, sleepClock_concat]
      exact (hcosts.trans hcosts₃).clock
    · rw [if_pos hmore, answered_trace, transferred_concat, hplaced,
        (hcosts.trans hcosts₃).transferred]
      exact ⟨by simp, rfl⟩
  · have hval₃ : r₃.val = .ok ⟨[], Nat.zero_le _⟩ := by
      rw [← hr₃]
      show Answer.val (if transferred w₂.trace < _ then _ else _ : Answer (.read data _)) = _
      rw [if_neg (hcosts.transferred ▸ hmore)]
    rw [hval₃]
    dsimp only
    rw [if_pos rfl]
    refine ⟨hst, (hcosts.trans hcosts₃).clock, by omega, by omega, ?_⟩
    rw [if_neg hmore]
    exact ⟨rfl, (hcosts.trans hcosts₃).transferred⟩

/-- So many blocks have been stored. -/
structure BlocksStored (config : FtpConfig) (n : ℕ) (w : World) : Prop where
  window : InWindow ((throttle config.throttleRate).after n) w
  transferred : transferred w.trace = n * xferBlockSize
  length : w.trace.length ≤ 8 * n + 1

/-- **An upload at full speed** is a run of the limiter. -/
theorem storeFile_fullSpeed (hrate : 1 ≤ config.throttleRate) (file data : ℤ) {s : Process}
    (hpool : ∃ pool, s.statePool = some pool) (hflag : s.signalFlag = 0) :
    wp (fullSpeed blocks) (storeFile config ⟨file, .file⟩ ⟨data, .socket⟩)
      (fun _ w' ↦ transferred w'.trace = blocks * xferBlockSize ∧ sleepClock w'.trace =
        ((throttle config.throttleRate).after blocks).now.toNat * 10 ^ 6)
      (fun _ _ ↦ False) (World.start s) := by
  have hpaces := throttle_paces hrate
  rw [storeFile, wp_bind, wp_getSession, wp_bind, startTransfer, wp_bind]
  refine wp_costs (by simp) (fun _ ↦ rfl) (fun _ ↦ rfl) fun r w₁ hr hst hlen hcosts ↦ ?_
  rw [modifyInfo, modifySession, wp_modify]
  refine wp_loop_of_answered (fun _ w ↦ ∃ n ≤ blocks, BlocksStored config n w) ?_
    ⟨0, Nat.zero_le _, ?_⟩
  · rintro offset w ⟨n, hn, hw⟩
    obtain ⟨k, hahead⟩ := Limiter.exists_ahead hpaces n
    have hroom := hw.length
    rw [wp_bind]
    refine wp_mono (spliceStream_fullSpeed file data offset (by omega)) ?_ fun _ _ h ↦ h
    rintro ⟨ret, offset'⟩ w₂ h
    dsimp only at h ⊢
    have hgrows := h.grows
    have hlen₂ := h.length
    have hmoves := h.moves
    rw [hw.transferred] at hmoves
    by_cases hmore : n < blocks
    · rw [if_pos (Nat.mul_lt_mul_of_pos_right hmore (by decide))] at hmoves
      obtain ⟨rfl, hmoved⟩ := hmoves
      rw [if_neg (by decide), if_neg (by decide), wp_bind, modifyInfo, modifySession, wp_modify,
        wp_bind]
      refine wp_mono (throttlePause_fullSpeed (W := (throttle config.throttleRate).after n) hrate
        hahead.probe_nonneg hahead.len_nonneg hahead.probe_le_now (by linarith [hahead.now_le])
        ⟨?_, ?_, ?_, ?_, ?_⟩ ?_) ?_ fun _ _ h ↦ h
      · dsimp only
        rw [h.st, hw.window.probe]
      · have hlen := hahead.len_nonneg
        dsimp only
        rw [h.st, hw.window.len, ← UInt64.ofNat_add]
        congr 1
        omega
      · exact h.clock.trans hw.window.now
      · dsimp only
        rw [h.st]
        exact hw.window.pool
      · dsimp only
        rw [h.st, hw.window.flag]
      · dsimp only
        omega
      · rintro _ w₃ ⟨hwindow, hmoved₃, hgrows₃, hlen₃⟩
        dsimp only at hmoved₃ hgrows₃ hlen₃
        rw [wp_bind, wp_get, if_neg (not_not.2 hwindow.flag)]
        have hroom₂ : w.trace.length < 8 * blocks + 8 := by omega
        refine ⟨hroom₂, by omega, n + 1, hmore, ?_, ?_, by omega⟩
        · rw [Limiter.after_succ]
          exact hwindow
        · rw [hmoved₃, hmoved, Nat.succ_mul]
    · obtain rfl : n = blocks := by omega
      rw [if_neg (lt_irrefl _)] at hmoves
      obtain ⟨rfl, hmoved⟩ := hmoves
      exact ⟨hmoved, h.clock.trans hw.window.now⟩
  · have hval : r.val = timevalOfMs 0 := by
      rw [(clock_fullSpeed blocks).read _ r hr]
      simp [timevalOfMs, sleepClock]
    obtain ⟨pool, hpool⟩ := hpool
    refine ⟨⟨hval, rfl, ?_, ⟨pool, ?_⟩, ?_⟩, ?_, ?_⟩
    · exact hcosts.clock.trans (by simp [sleepClock, Limiter.after])
    · rw [← hpool, ← World.start_st s, ← hst]
    · exact hcosts.flag.trans hflag
    · exact hcosts.transferred.trans (by simp [transferred])
    · simpa using hlen.le

/-- The process that serves an upload. -/
def uploader : Process := { Process.initial 1 with statePool := some [] }

/-- Whatever is allowed beside the rate, a long enough upload at full speed exceeds it: each block
that ends a window is written a pause too early, and the pauses add up. -/
theorem storeFile_outruns (hrate : 1 ≤ config.throttleRate) (file data : ℤ) (C : ℕ) :
    ∃ n, let w := (storeFile config ⟨file, .file⟩ ⟨data, .socket⟩ (fullSpeed n)
        (World.start uploader)).2
      config.throttleRate * (sleepClock w.trace - sleepClock [] : ℤ) + C * 10 ^ 6 <
        (transferred w.trace : ℤ) * 10 ^ 6 := by
  have hpaces := throttle_paces hrate
  obtain ⟨n, hexceeds⟩ := Limiter.exists_exceeds hpaces (by omega) C
  obtain ⟨k, hahead⟩ := Limiter.exists_ahead hpaces n
  have hnow : 0 ≤ ((throttle config.throttleRate).after n).now :=
    hahead.probe_nonneg.trans hahead.probe_le_now
  have hupload : wp (fullSpeed n) (storeFile config ⟨file, .file⟩ ⟨data, .socket⟩) _ _ _ :=
    storeFile_fullSpeed hrate file data (s := uploader) ⟨_, rfl⟩ rfl
  obtain ⟨_, w, hrun, hmoved, hclock⟩ := exists_ret_of_wp hupload
  have hstart : sleepClock [] = 0 := rfl
  have hblock : (throttle config.throttleRate).block = xferBlockSize := rfl
  refine ⟨n, ?_⟩
  -- the limiter counts in milliseconds, the clock in nanoseconds
  rw [hrun]
  dsimp only
  rw [hmoved, hclock, hstart]
  push_cast
  rw [Int.toNat_of_nonneg hnow, sub_zero]
  rw [hblock] at hexceeds
  linarith

end

/-- **No constant beside the rate** bounds what an upload may transfer, at any rate. -/
theorem storeFile_exceeds (config : FtpConfig) (hrate : 1 ≤ config.throttleRate) (file data : ℤ)
    (C : ℕ) : ¬Caps config C (storeFile config ⟨file, .file⟩ ⟨data, .socket⟩) := by
  intro hcaps
  obtain ⟨n, houtruns⟩ := storeFile_outruns hrate file data C
  exact (hcaps sleepClock (fullSpeed n) _ (clock_fullSpeed n) _ List.prefix_rfl).not_gt houtruns

/-- The rate is 4 kilobytes per second. -/
theorem storeFile_exceeds_four :
    ¬Caps { loadDefaults with throttleRate := 4 } 1000000 (storeFile { loadDefaults with
      throttleRate := 4 } ⟨7, .file⟩ ⟨8, .socket⟩) :=
  storeFile_exceeds { loadDefaults with throttleRate := 4 } (by decide) 7 8 1000000

/-- At this rate, there is no constant that would do. -/
theorem storeFile_uncapped_four :
    ¬∃ C, Caps { loadDefaults with throttleRate := 4 } C (storeFile { loadDefaults with
      throttleRate := 4 } ⟨7, .file⟩ ⟨8, .socket⟩) := by
  rintro ⟨C, hcaps⟩
  have hrate : 1 ≤ FtpConfig.throttleRate { loadDefaults with throttleRate := 4 } := by decide
  obtain ⟨n, houtruns⟩ := storeFile_outruns hrate 7 8 C
  exact (hcaps sleepClock (fullSpeed n) _ (clock_fullSpeed n) _ List.prefix_rfl).not_gt houtruns

/-- Of twelve blocks, which are 49152 bytes, four come too early at this rate. -/
example : ((throttle 4).after 12).now = 8192 := by decide

end FtpServer
