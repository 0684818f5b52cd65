import FtpServer.Proofs.CommandTrace

/-!
# Why a session stops reading

`read_poll` and `read_cmd` share one `errno`, and both of them look for signals, so what makes the
main loop end is spread over four functions. Together they come to this: when `commandLoop` returns,
a command has failed, or the trace shows a reason to stop (`stopsReading`):

* the `poll` timed out, or it failed and not because of a signal;
* the `recv` found the end of the stream, filled the buffer, or failed and not because of a signal;
* `server_handle_signal` found a signal that terminates the session.

In particular an interrupted call alone never ends a session. `readPoll_stops` says what `read_poll`
hands up, `readRound_stops` the same of one round of `read_cmd`, and `commandLoop_stops` puts the
four stages of the loop together.
-/

namespace FtpServer

open CString Effect Effect.Proc

/-- A reason to stop. -/
def stopsReading : Item kernel → Bool
  | .call (.poll _ _) r =>
    match r.val with
    | .ok ready => !ready
    | .error err => err ≠ .eintr
  | .call (.recv _ max) r =>
    match r.val with
    | .ok bs => bs.1 = [] ∨ bs.1.length = max
    | .error err => err ≠ .eintr
  | .note (.quit waiter) => waiter = .readPoll ∨ waiter = .readCmd
  | _ => false

/-- The trace shows a reason to stop. -/
def MustStop (w : World) : Prop := ∃ x ∈ w.trace, stopsReading x = true

/-- The last thing that happened may be a reason. -/
theorem mustStop_concat {w w' : World} {x : Item kernel} (ht : w'.trace = w.trace ++ [x])
    (hx : stopsReading x = true) : MustStop w' :=
  ⟨x, by rw [ht]; exact List.mem_concat_self, hx⟩

/-- A reason does not go away. -/
theorem MustStop.extends {w w' : World} {Q : Item kernel → Prop} (h : MustStop w)
    (hw : Extends Q w w') : MustStop w' := by
  obtain ⟨x, hx, hstops⟩ := h
  obtain ⟨suffix, ht, -⟩ := hw
  exact ⟨x, by rw [ht]; exact List.mem_append_left _ hx, hstops⟩

variable {config : FtpConfig} {e : Env} {w : World}

/-! ### Reading -/

/-- The signal that interrupted a call is still in `errno` when it has been handled. -/
theorem serverHandleSignal_stops {waiter : Waiter}
    (hwaiter : waiter = .readPoll ∨ waiter = .readCmd) :
    wp e (serverHandleSignal waiter)
      (fun ret w' ↦ w'.st.errno = w.st.errno ∧ (ret = .quit → MustStop w')) (fun _ _ ↦ True) w := by
  refine (wp_bind _ _).2 (wp_sys (fun r _ ↦ ?_) trivial)
  rw [wp_bind, wp_modify, takeTerminating]
  simp only [wp_bind, wp_get]
  split_ifs
  · -- the signal is taken, and the note says so
    simp only [wp_bind, wp_modify, wp_pure, if_true, wp_mark]
    refine wp_sys (fun r' _ ↦ ⟨rfl, fun _ ↦ ⟨.note (.quit waiter), ?_, decide_eq_true hwaiter⟩⟩)
      trivial
    simp
  · simp only [wp_pure, reduceCtorEq, if_false, wp_bind]
    exact wp_sys (fun r' _ ↦ ⟨rfl, fun hquit ↦ by cases hquit⟩) trivial

/-- A call that was interrupted ends the session only if the signal does. -/
theorem interruptedToQuit_stops :
    wp e (interruptedToQuit .readPoll)
      (fun b w' ↦ if b = true then MustStop w' else w'.st.errno = some .eintr ∨ w' = w)
      (fun _ _ ↦ True) w := by
  rw [interruptedToQuit, wp_bind, wp_errnoIs]
  split_ifs with hintr
  · refine (wp_bind _ _).2 (wp_mono (serverHandleSignal_stops (.inl rfl)) ?_ fun _ _ h ↦ h)
    rintro ret w' ⟨herrno, hstop⟩
    rw [wp_pure]
    split_ifs with hret
    · exact hstop (of_decide_eq_true hret)
    · exact .inl (herrno.trans (of_decide_eq_true hintr))
  · exact .inr rfl

/-- What `read_poll` hands up: the error of an interrupted call, a reason to stop, or bytes. -/
def ReadStops (max : ℕ) (r : Option Bytes) (w : World) : Prop :=
  match r with
  | none => w.st.errno = some .eintr ∨ MustStop w
  | some bs => bs.length ≤ max ∧ (bs = [] ∨ bs.length = max → MustStop w)

/-- `read_poll` hands up a reason, the error of an interrupted call, or bytes; as many as there was
space for are a reason themselves. -/
theorem readPoll_stops (sock : ℤ) (max : ℕ) :
    wp e (readPoll config sock max) (ReadStops max) (fun _ _ ↦ True) w := by
  -- a call that failed, and was not interrupted, is itself the reason
  have hfailed : ∀ {err : Errno} {w' : World}, (err ≠ .eintr → MustStop (withErrno w' err)) →
      ∀ b w₁,
        (if b = true then MustStop w₁ else w₁.st.errno = some .eintr ∨ w₁ = withErrno w' err) →
        (b = true → MustStop w₁) ∧ (b ≠ true → w₁.st.errno = some .eintr ∨ MustStop w₁) := by
    intro err w' hstop b w₁ h₁
    refine ⟨fun hb ↦ by rwa [if_pos hb] at h₁, fun hb ↦ ?_⟩
    rw [if_neg hb] at h₁
    rcases h₁ with hintr | rfl
    · exact .inl hintr
    · by_cases herr : err = .eintr
      · exact .inl (congrArg some herr)
      · exact .inr (hstop herr)
  rw [readPoll, wp_bind, wp_checked]
  refine wp_sys (fun r _ ↦ ?_) trivial
  rcases hr : r.val with err | (_ | _)
  · have hstop : err ≠ .eintr →
        MustStop (withErrno (answered w (.poll sock config.idleTimeout) r) err) :=
      fun herr ↦ mustStop_concat rfl (by simpa [stopsReading, hr] using herr)
    refine (wp_bind _ _).2 (wp_mono interruptedToQuit_stops (fun b w₁ h₁ ↦ ?_) fun _ _ h ↦ h)
    obtain ⟨hquit, hnone⟩ := hfailed hstop b w₁ h₁
    split_ifs with hb
    · exact ⟨Nat.zero_le _, fun _ ↦ hquit hb⟩
    · exact hnone hb
  · exact ⟨Nat.zero_le _, fun _ ↦ mustStop_concat rfl (by simp [stopsReading, hr])⟩
  set w₂ := answered w (.poll sock config.idleTimeout) r
  dsimp only
  rw [wp_bind, wp_checked]
  refine wp_sys (fun r _ ↦ ?_) trivial
  rcases hr : r.val with err | bs
  · have hstop : err ≠ .eintr → MustStop (withErrno (answered w₂ (.recv sock max) r) err) :=
      fun herr ↦ mustStop_concat rfl (by simpa [stopsReading, hr] using herr)
    refine (wp_bind _ _).2 (wp_mono interruptedToQuit_stops (fun b w₁ h₁ ↦ ?_) fun _ _ h ↦ h)
    obtain ⟨hquit, hnone⟩ := hfailed hstop b w₁ h₁
    split_ifs with hb
    · exact ⟨Nat.zero_le _, fun _ ↦ hquit hb⟩
    · rw [wp_bind, wp_errnoIs]
      split_ifs with hreset
      · refine ⟨Nat.zero_le _, fun _ ↦ ?_⟩
        rcases hnone hb with hintr | hstop
        · rw [of_decide_eq_true hreset] at hintr
          cases hintr
        · exact hstop
      · exact hnone hb
  · refine ⟨bs.2, fun hbs ↦ mustStop_concat rfl ?_⟩
    simpa [stopsReading, hr] using hbs

/-- A line is in the buffer. -/
def LineThere (w : World) : Prop :=
  lf ∈ w.st.session.command.line.take w.st.session.command.dirtyLen

/-- One round of `read_cmd` finds a line in the buffer, or a reason to give up. -/
theorem readRound_stops :
    wp e (readRound config) (fun r w' ↦ r.elim (fun _ ↦ True) fun ret ↦
      if ret = .success then LineThere w' else MustStop w') (fun _ _ ↦ True) w := by
  rw [readRound, wp_bind, wp_getSession]
  dsimp only
  by_cases hline : lf ∈ w.st.session.command.line.take w.st.session.command.dirtyLen
  · rw [if_pos hline]
    exact hline
  rw [if_neg hline]
  refine (wp_bind _ _).2 (wp_mono (readPoll_stops _ _) ?_ fun _ _ h ↦ h)
  rintro (_ | bs) w₁ h₁
  · rw [wp_bind, wp_errnoIs]
    split_ifs with hintr
    · refine (wp_bind _ _).2 (wp_mono (serverHandleSignal_stops (.inr rfl)) ?_ fun _ _ h ↦ h)
      rintro ret w₂ ⟨-, hstop⟩
      split_ifs with hret
      · exact hstop hret
      · trivial
    · exact h₁.resolve_left fun h ↦ hintr (decide_eq_true h)
  obtain ⟨hle, hstop⟩ := h₁
  by_cases hbs : bs = []
  · simp only [if_pos hbs]
    exact hstop (.inl hbs)
  simp only [if_neg hbs]
  split
  · trivial
  simp only [wp_bind, modifyCommand, modifySession, wp_modify]
  split_ifs with hge
  · -- the buffer is full: the last `recv` took all the space it was offered
    have hreply := keepsCommand_steps.reply (by decide) w.st.session.conn.sock
      (ofString "421 Command line too long\r\n") (by decide)
    have hfull : MustStop w₁ := hstop (.inr (by omega))
    refine (wp_bind _ _).2 (wp_mono (hreply.wp_faultless (faultless_reply _ _) trivial)
      (fun _ w₂ hk ↦ ?_) fun _ _ _ ↦ trivial)
    exact (hfull.extends (.of_eq rfl : KeepsQuiet w₁ _)).extends hk.2
  · trivial

/-- And so does `read_cmd`: it succeeds with a line in the buffer, and only so. -/
theorem readCmd_stops :
    wp e (readCmd config) (fun ret w' ↦ if ret = .success then LineThere w' else MustStop w')
      (fun _ _ ↦ True) w := by
  rw [readCmd_eq]
  refine wp_loop (fun _ _ ↦ True) (fun _ w _ ↦ ?_) (fun _ _ _ ↦ trivial) trivial
  refine wp_mono readRound_stops ?_ fun _ _ h ↦ h
  rintro (⟨⟩ | ret) w' h
  · trivial
  · exact h

/-! ### The loop -/

/-- A command failed, or there was a reason to stop. -/
def MayEnd (w : World) : Prop := (∀ ret ∈ finishedOf w.trace, ret = .success) → MustStop w

/-- With a line there, `parse_cmd` succeeds. -/
theorem parseCmd_stops (h : LineThere w) :
    wp e parseCmd (fun ret _ ↦ ret = .success) (fun _ _ ↦ True) w := by
  rw [parseCmd, wp_bind, wp_getSession]
  dsimp only
  split
  · rename_i hnone
    have hne := List.findIdx?_eq_none_iff.1 hnone lf (List.mem_of_mem_take h)
    simp at hne
  · split
    · trivial
    · rfl

/-- When `do_cmd` does not, a command has failed. -/
theorem doCmd_stops :
    wp e (doCmd config) (fun ret w' ↦ ret ≠ .success → MayEnd w') (fun _ _ ↦ True) w := by
  refine wp_bind_anyhow fun session w₁ ↦ wp_bind_anyhow fun _ w₂ ↦ wp_bind_anyhow fun ret w₃ ↦ ?_
  rw [wp_bind, wp_mark, wp_pure]
  refine fun hret hall ↦ absurd (hall ret ?_) hret
  rw [finishedOf, noted_trace, List.filterMap_append]
  exact List.mem_append_right _ List.mem_cons_self

/-- The main loop of a session ends when a command has failed or there is a reason to stop. -/
theorem commandLoop_stops :
    wp e (commandLoop config) (fun _ ↦ MayEnd) (fun _ _ ↦ True) w := by
  refine commandLoop_wp (fun _ ↦ True) LineThere (fun _ ↦ True) (fun _ ↦ True) (fun _ _ ↦ trivial)
    (fun w _ ↦ ?_) (fun w hw ↦ ?_) (fun w _ ↦ ?_) (fun w _ ↦ ?_) trivial
  · refine wp_mono readCmd_stops (fun ret w' h ↦ ?_) fun _ _ h ↦ h
    split_ifs at h ⊢
    · exact h
    · exact fun _ ↦ h
  · refine wp_mono (parseCmd_stops hw) (fun ret w' h ↦ ?_) fun _ _ h ↦ h
    rw [if_pos h]
    trivial
  · refine wp_mono doCmd_stops (fun ret w' h ↦ ?_) fun _ _ h ↦ h
    split_ifs with hret
    exact h hret
  · exact trivial

end FtpServer
