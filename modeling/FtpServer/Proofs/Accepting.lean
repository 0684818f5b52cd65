import FtpServer.Proofs.Actions

/-!
# Waiting for a data connection

`accept_data_conn` has a loop around `accept`, every branch of which returns. So it makes one
attempt, and what it returns is right except where it should have made another one: after an
interruption that asks for nothing, and after an attempt that the client aborted
(`acceptDataConn_waits`).

What a call does is read off the part of the trace that it adds:

* `Shows` has the answers to its `accept`, whether a terminating signal was taken, and how often the
  client was refused;
* `WaitsWell` is what is asked of it: to quit only for a signal, to give up with one reply, and to
  make another attempt after one that came to nothing;
* `Conclusive` is the condition on the answer: neither aborted, nor interrupted without a signal
  that is to end the session.

Everything else the function does has nothing to do with the connection (`Unrelated`).
-/

namespace FtpServer

open CString Effect Effect.Proc

/-! ### What a run shows -/

/-- The reply of `accept_data_conn`. -/
def cannotOpen : Bytes := ofString "425 Cannot open data connection\r\n"

/-- The error an `accept` failed with, or that it did not fail. -/
def attempt? : Item kernel → Option (Option Errno)
  | .call (.accept _) r =>
    match r.val with
    | .ok _ => some none
    | .error err => some (some err)
  | _ => none

/-- `server_handle_signal` took a terminating signal. -/
def takesQuit : Item kernel → Bool
  | .note (.quit _) => true
  | _ => false

def saysCannotOpen : Item kernel → Bool
  | .note (.observe (.reply msg)) => msg = cannotOpen
  | _ => false

/-- What is asked of a call of `accept_data_conn` with result `r` and these entries of the trace: it
quits only for a signal, gives up with one reply, and makes another attempt after one that failed
for no reason of its own. -/
structure WaitsWell (r : DataConn) (run : List (Item kernel)) : Prop where
  quit : r = .quit → run.any takesQuit = true
  failed : r = .failed → run.countP saysCannotOpen = 1
  waits : ∀ err, (run.filterMap attempt?).getLast? = some (some err) →
    err ≠ .econnaborted ∧ (err = .eintr → run.any takesQuit = true)

/-! ### Whether it has to wait -/

/-- The answer to the `accept` of a call in the world `w`. -/
def acceptAnswer (e : Env) (w : World) : Answer (.accept w.st.session.conn.pasvSock) :=
  e.answer w.trace (.accept w.st.session.conn.pasvSock)

/-- The signals that `server_handle_signal` sees when it is called behind it. -/
def flagBehind (e : Env) (w : World) : SignalFlag :=
  let w' := answered w (.accept w.st.session.conn.pasvSock) (acceptAnswer e w)
  let r : Answer .sigprocmask := e.answer w'.trace .sigprocmask
  deliver w'.st.signalFlag r.async

/-- A terminating signal is among them. -/
def Terminated (e : Env) (w : World) : Prop :=
  flagBehind e w &&& ~~~recvSigchld &&& ~~~recvSigpipe ≠ 0

instance (e : Env) (w : World) : Decidable (Terminated e w) := inferInstanceAs (Decidable (_ ≠ _))

/-- The attempt is neither aborted nor interrupted without a reason to end the session. -/
def Conclusive (e : Env) (w : World) : Prop :=
  (acceptAnswer e w).val ≠ .error .econnaborted ∧
    ((acceptAnswer e w).val = .error .eintr → Terminated e w)

/-! ### What it does -/

variable {e : Env} {w : World}

/-- An entry about none of this. -/
def Unrelated (x : Item kernel) : Prop :=
  attempt? x = none ∧ takesQuit x = false ∧ saysCannotOpen x = false

/-- What is sent to the client has nothing to do with the data connection. -/
theorem sendall_unrelated (sock : ℤ) (buf : Bytes) :
    Within (fun _ ↦ True) (Extends Unrelated) (sendall sock buf) :=
  within_sendall ⟨fun w _ ↦ .refl w, fun _ h₁ h₂ ↦ h₁.trans h₂, fun _ _ ↦ trivial⟩
    (fun _ ↦ within_sys ⟨fun w _ ↦ .refl w, fun _ h₁ h₂ ↦ h₁.trans h₂, fun _ _ ↦ trivial⟩
      fun _ _ _ ↦ .concat rfl ⟨rfl, rfl, rfl⟩)
    (fun _ ↦ within_setErrno fun _ _ ↦ .of_eq rfl) buf

/-- What the entries of a run add up to. -/
structure Shows (attempts : List (Option Errno)) (quits : Bool) (replies : ℕ)
    (run : List (Item kernel)) : Prop where
  attempts : run.filterMap attempt? = attempts
  quits : run.any takesQuit = quits
  replies : run.countP saysCannotOpen = replies

/-- The answers, the signal and the number of sockets add up. -/
theorem Shows.append {as as' : List (Option Errno)} {q q' : Bool} {n n' : ℕ}
    {run run' : List (Item kernel)} (h : Shows as q n run) (h' : Shows as' q' n' run') :
    Shows (as ++ as') (q || q') (n + n') (run ++ run') where
  attempts := by rw [List.filterMap_append, h.attempts, h'.attempts]
  quits := by rw [List.any_append, h.quits, h'.quits]
  replies := by rw [List.countP_append, h.replies, h'.replies]

/-- Unrelated entries show nothing. -/
theorem shows_unrelated {run : List (Item kernel)} (h : ∀ x ∈ run, Unrelated x) :
    Shows [] false 0 run where
  attempts := List.filterMap_eq_nil_iff.2 fun x hx ↦ (h x hx).1
  quits := List.any_eq_false.2 fun x hx ↦ by simp [(h x hx).2.1]
  replies := List.countP_eq_zero.2 fun x hx ↦ by simp [(h x hx).2.2]

/-- The trace of `w'` is that of `w` and a run that shows this. -/
def Grows (as : List (Option Errno)) (q : Bool) (n : ℕ) (w w' : World) : Prop :=
  ∃ run, w'.trace = w.trace ++ run ∧ Shows as q n run

/-- The same of what is added to a trace. -/
theorem Grows.trans {as as' : List (Option Errno)} {q q' : Bool} {n n' : ℕ} {w₁ w₂ w₃ : World}
    (h₁ : Grows as q n w₁ w₂) (h₂ : Grows as' q' n' w₂ w₃) :
    Grows (as ++ as') (q || q') (n + n') w₁ w₃ := by
  obtain ⟨run, ht, hs⟩ := h₁
  obtain ⟨run', ht', hs'⟩ := h₂
  exact ⟨run ++ run', by rw [ht', ht, List.append_assoc], hs.append hs'⟩

theorem grows_unrelated {w₁ w₂ : World} (h : Extends Unrelated w₁ w₂) :
    Grows [] false 0 w₁ w₂ := by
  obtain ⟨run, ht, hs⟩ := h
  exact ⟨run, ht, shows_unrelated hs⟩

/-- One entry shows what it is. -/
theorem grows_of_concat {w₁ w₂ : World} {x : Item kernel} {as : List (Option Errno)} {q : Bool}
    {n : ℕ} (ht : w₂.trace = w₁.trace ++ [x]) (hs : Shows as q n [x]) : Grows as q n w₁ w₂ :=
  ⟨[x], ht, hs⟩

/-- Whether the session is to quit is a matter of the signals that came in before they were blocked.
-/
theorem serverHandleSignal_shows :
    wp e (serverHandleSignal .acceptDataConn)
      (fun ret w' ↦ w'.st.errno = w.st.errno ∧
        let r : Answer .sigprocmask := e.answer w.trace .sigprocmask
        if deliver w.st.signalFlag r.async &&& ~~~recvSigchld &&& ~~~recvSigpipe ≠ 0 then
          ret = .quit ∧ Grows [] true 0 w w'
        else ret = .success ∧ Grows [] false 0 w w')
      (fun _ _ ↦ True) w := by
  have hcall : ∀ (w₁ w₂ : World) (r : Answer .sigprocmask),
      w₂.trace = w₁.trace ++ [.call .sigprocmask r] → Grows [] false 0 w₁ w₂ :=
    fun _ _ _ ht ↦ grows_of_concat ht ⟨rfl, rfl, rfl⟩
  rw [serverHandleSignal, wp_bind]
  refine wp_sys (fun r hr ↦ ?_) trivial
  rw [hr, wp_bind, wp_modify, takeTerminating]
  simp only [wp_bind, wp_get, answered_signalFlag]
  have h₁ := hcall w (answered w .sigprocmask r) r rfl
  split_ifs with hflag
  · simp only [wp_bind, wp_modify, wp_pure, if_true, wp_mark]
    refine wp_sys (fun r' _ ↦ ⟨rfl, trivial, ?_⟩) trivial
    have hquit : Shows [] true 0 [.note (.quit .acceptDataConn)] := ⟨rfl, rfl, rfl⟩
    exact (h₁.trans (grows_of_concat rfl hquit)).trans (hcall _ _ r' rfl)
  · simp only [wp_pure, reduceCtorEq, if_false, wp_bind]
    exact wp_sys (fun r' _ ↦ ⟨rfl, trivial, h₁.trans (hcall _ _ r' rfl)⟩) trivial

/-- The reply of a call that gives up. -/
theorem cannotOpen_shows :
    wp e (do replyMsg "425 Cannot open data connection\r\n"; return DataConn.failed)
      (fun r w' ↦ r = .failed ∧ Grows [] false 1 w w') (fun _ _ ↦ True) w := by
  simp only [replyMsg, reply, observe, wp_bind, wp_getSession, wp_mark, wp_pure]
  refine wp_mono ((sendall_unrelated _ _).wp trivial) (fun _ w' h ↦ ⟨trivial, ?_⟩) fun _ _ _ ↦
    trivial
  have hsaid : Shows [] false 1 [.note (.observe (.reply cannotOpen))] := ⟨rfl, rfl, rfl⟩
  exact (grows_of_concat rfl hsaid).trans (grows_unrelated h)

/-- What one call makes of the answer to its `accept`. -/
theorem acceptDataConn_wp_shows :
    wp e acceptDataConn
      (fun r w' ↦ match (acceptAnswer e w).val with
        | .ok _ => (∃ fd, r = .sock fd) ∧ Grows [none] false 0 w w'
        | .error err =>
          if err = .eintr ∧ Terminated e w then r = .quit ∧ Grows [some err] true 0 w w'
          else if err = .econnaborted then r = .quit ∧ Grows [some err] false 0 w w'
          else r = .failed ∧ Grows [some err] false 1 w w')
      (fun _ _ ↦ True) w := by
  rw [acceptDataConn, wp_bind, wp_getSession, wp_bind, wp_checked]
  refine wp_sys (fun r hr ↦ ?_) trivial
  obtain rfl : r = acceptAnswer e w := hr.symm
  have hshows : ∀ o, attempt? (.call (.accept w.st.session.conn.pasvSock) (acceptAnswer e w)) =
      some o → Shows [o] false 0 [.call (.accept w.st.session.conn.pasvSock) (acceptAnswer e w)] :=
    fun o ho ↦ ⟨by rw [List.filterMap_cons_some ho, List.filterMap_nil], rfl, rfl⟩
  rcases hval : (acceptAnswer e w).val with err | ⟨fd, addr⟩
  · have hgrows : Grows [some err] false 0 w (withErrno (answered w
        (.accept w.st.session.conn.pasvSock) (acceptAnswer e w)) err) :=
      grows_of_concat rfl (hshows (some err) (by simp only [attempt?, hval]))
    simp only [interruptedToQuit, wp_bind, wp_errnoIs, withErrno_errno, Option.some.injEq,
      decide_eq_true_eq]
    -- an interruption is for the signals to decide, which are looked at behind the call
    by_cases heintr : err = .eintr
    · rw [if_pos heintr, wp_bind]
      refine wp_mono serverHandleSignal_shows (fun ret w₂ h ↦ ?_) fun _ _ h ↦ h
      obtain ⟨herrno, h⟩ := h
      have hterm : (deliver (withErrno (answered w (.accept w.st.session.conn.pasvSock)
          (acceptAnswer e w)) err).st.signalFlag (Answer.async (c := .sigprocmask) (e.answer
            (withErrno (answered w (.accept w.st.session.conn.pasvSock) (acceptAnswer e w))
              err).trace
              .sigprocmask)) &&& ~~~recvSigchld &&& ~~~recvSigpipe ≠ 0) ↔ Terminated e w := Iff.rfl
      by_cases hquit : Terminated e w
      · rw [if_pos (hterm.2 hquit)] at h
        obtain ⟨rfl, h⟩ := h
        simpa [heintr, hquit] using hgrows.trans h
      · rw [if_neg (mt hterm.1 hquit)] at h
        obtain ⟨rfl, h⟩ := h
        have hgrows₂ := hgrows.trans h
        rw [wp_pure, decide_eq_false (by decide), if_neg Bool.false_ne_true, wp_bind, wp_errnoIs,
          herrno, withErrno_errno, heintr, if_neg (by decide)]
        simp only [hquit, and_false, reduceCtorEq, if_false]
        -- nothing terminates, so the loop of the source should go round, but the client is refused
        refine wp_mono cannotOpen_shows (fun r w₃ h₃ ↦ ⟨h₃.1, ?_⟩) fun _ _ h ↦ h
        simpa [heintr] using hgrows₂.trans h₃.2
    · rw [if_neg heintr]
      simp only [wp_pure, Bool.false_eq_true, if_false, wp_errnoIs, withErrno_errno, wp_bind,
        Option.some.injEq, decide_eq_true_eq, heintr, false_and]
      -- an aborted attempt leaves the loop as if the session was to quit
      by_cases haborted : err = .econnaborted
      · subst haborted
        exact ⟨rfl, hgrows⟩
      · simp only [if_neg haborted]
        refine wp_mono cannotOpen_shows (fun r w₃ h₃ ↦ ⟨h₃.1, ?_⟩) fun _ _ h ↦ h
        simpa using hgrows.trans h₃.2
  · exact ⟨⟨fd, rfl⟩, grows_of_concat rfl (hshows none (by simp only [attempt?, hval]))⟩

/-- **When `accept_data_conn` waits as it should.** A call quits only for a signal, gives up with
one reply and makes another attempt after one that came to nothing, if and only if its `accept` is
not aborted and not interrupted without a terminating signal. -/
theorem acceptDataConn_waits (e : Env) (w : World) {r : DataConn} {w' : World}
    (hrun : acceptDataConn e w = (.ret r, w')) :
    ∃ run, w'.trace = w.trace ++ run ∧ (WaitsWell r run ↔ Conclusive e w) := by
  have h := wp_ret acceptDataConn_wp_shows hrun
  rw [Conclusive]
  rcases hval : (acceptAnswer e w).val with err | a
  · rw [hval] at h
    dsimp only at h
    split_ifs at h with hquit haborted
    · obtain ⟨rfl, run, ht, hs⟩ := h
      obtain ⟨rfl, hterm⟩ := hquit
      refine ⟨run, ht, iff_of_true ⟨fun _ ↦ hs.quits, nofun, fun err herr ↦ ?_⟩ (by simp [hterm])⟩
      obtain rfl : .eintr = err := by simpa [hs.attempts] using herr
      exact ⟨by decide, fun _ ↦ hs.quits⟩
    · obtain ⟨rfl, run, ht, hs⟩ := h
      refine ⟨run, ht, iff_of_false (fun hw ↦ ?_) (by simp [haborted])⟩
      exact absurd (hs.quits.symm.trans (hw.quit rfl)) (by simp)
    · obtain ⟨rfl, run, ht, hs⟩ := h
      refine ⟨run, ht, ⟨fun hw ↦ ⟨by simpa using haborted, fun heq ↦ ?_⟩, fun hc ↦ ?_⟩⟩
      · have heintr : err = .eintr := by simpa using heq
        have htook := (hw.waits err (by simp [hs.attempts])).2 heintr
        exact absurd (hs.quits.symm.trans htook) (by simp)
      · refine ⟨nofun, fun _ ↦ hs.replies, fun err' herr ↦ ?_⟩
        obtain rfl : err = err' := by simpa [hs.attempts] using herr
        exact ⟨haborted, fun heintr ↦ absurd ⟨heintr, hc.2 (by rw [heintr])⟩ hquit⟩
  · rw [hval] at h
    obtain ⟨⟨fd, rfl⟩, run, ht, hs⟩ := h
    refine ⟨run, ht, iff_of_true ⟨nofun, nofun, fun err herr ↦ ?_⟩ ⟨nofun, nofun⟩⟩
    simp [hs.attempts] at herr

/-- A client that connects. -/
theorem acceptDataConn_waits_connected :
    let w := World.start (Process.initial 1)
    ∃ run, (acceptDataConn (clientEnv []) w).2.trace = w.trace ++ run ∧
      (WaitsWell (.sock 8) run ↔ Conclusive (clientEnv []) w) :=
  acceptDataConn_waits (clientEnv []) (World.start (Process.initial 1)) (run_eq (by decide +kernel))

/-- An environment in which the client drops its first attempt to connect. -/
def droppingClient : Env :=
  scriptedEnv (fun before c ↦
    match c with
    | .accept _ => if before = [] then some ⟨[], .error .econnaborted⟩ else none
    | _ => none) 100

/-- The session ends, although no signal was delivered and a second attempt would succeed. -/
theorem acceptDataConn_drops :
    let w := (acceptDataConn droppingClient (World.start (Process.initial 1))).2
    (acceptDataConn droppingClient (World.start (Process.initial 1))).1 = .ret .quit ∧
      w.st.signalFlag = 0 ∧ ¬WaitsWell .quit w.trace := by
  refine ⟨by decide +kernel, by decide +kernel, fun h ↦ absurd (h.quit rfl) (by decide +kernel)⟩

end FtpServer
