import FtpServer.Model.Stream

/-!
# Rules for system calls

The rules of `Effect.Proc.wp` and `Effect.Proc.Within` for the calls and the small actions that
every program of the server is made of.
-/

namespace FtpServer

open Effect Effect.Proc

variable {α : Type} {e : Env} {w : World} {H : Halt → World → Prop}

/-! ### Worlds after an action -/

/-- The world in which the call `c` was answered with `r`: the handler ran for the signals that were
delivered, and the call is on the trace. -/
def answered (w : World) (c : Call) (r : Answer c) : World where
  st := { w.st with signalFlag := deliver w.st.signalFlag r.async }
  trace := w.trace ++ [.call c r]

/-- The world in which `errno` was set. -/
def withErrno (w : World) (err : Errno) : World where
  st := { w.st with errno := some err }
  trace := w.trace

/-- The world in which a note was left. -/
def noted (w : World) (n : Note) : World where
  st := w.st
  trace := w.trace ++ [.note n]

section

variable (w) (c : Call) (r : Answer c) (err : Errno) (n : Note)

@[simp] theorem answered_trace : (answered w c r).trace = w.trace ++ [.call c r] := rfl
@[simp] theorem answered_session : (answered w c r).st.session = w.st.session := rfl
@[simp] theorem answered_signalFlag :
    (answered w c r).st.signalFlag = deliver w.st.signalFlag r.async := rfl
@[simp] theorem answered_errno : (answered w c r).st.errno = w.st.errno := rfl
@[simp] theorem answered_vfsPool : (answered w c r).st.vfsPool = w.st.vfsPool := rfl
@[simp] theorem answered_statePool : (answered w c r).st.statePool = w.st.statePool := rfl
@[simp] theorem answered_clients : (answered w c r).st.clients = w.st.clients := rfl
@[simp] theorem answered_pid : (answered w c r).st.pid = w.st.pid := rfl

@[simp] theorem withErrno_trace : (withErrno w err).trace = w.trace := rfl
@[simp] theorem withErrno_errno : (withErrno w err).st.errno = some err := rfl
@[simp] theorem withErrno_session : (withErrno w err).st.session = w.st.session := rfl
@[simp] theorem withErrno_signalFlag : (withErrno w err).st.signalFlag = w.st.signalFlag := rfl
@[simp] theorem withErrno_vfsPool : (withErrno w err).st.vfsPool = w.st.vfsPool := rfl
@[simp] theorem withErrno_clients : (withErrno w err).st.clients = w.st.clients := rfl

@[simp] theorem noted_trace : (noted w n).trace = w.trace ++ [.note n] := rfl
@[simp] theorem noted_st : (noted w n).st = w.st := rfl

end

/-! ### Preconditions of the actions -/

/-- What follows a call is right if it is for every answer that the environment may give here; where
the session is over, the call never returns. -/
theorem wp_sys {c : Call} {Q : Val c → World → Prop}
    (hret : ∀ r : Answer c, e.answer w.trace c = r → Q r.val (answered w c r))
    (hblock : H .blocked w) : wp e (sys c) Q H w :=
  (wp_bind (e := e) (w := w) (H := H) _ _).2
    (wp_perform (fun r hr _ ↦ hret r hr) hblock)

/-- While the environment still answers, a call returns. -/
theorem wp_sys_of_lt {c : Call} {Q : Val c → World → Prop} (hlt : w.trace.length < e.limit)
    (hret : ∀ r : Answer c, e.answer w.trace c = r → Q r.val (answered w c r)) :
    wp e (sys c) Q H w :=
  (wp_bind (e := e) (w := w) (H := H) _ _).2 (wp_perform_of_lt hlt (hret _ rfl))

/-- Both cases at once: the environment answers, or it does not any more. -/
theorem wp_sys_cases {c : Call} {Q : Val c → World → Prop}
    (hret : w.trace.length < e.limit → ∀ r : Answer c, e.answer w.trace c = r →
      Q r.val (answered w c r))
    (hblock : e.limit ≤ w.trace.length → H .blocked w) : wp e (sys c) Q H w :=
  (wp_bind (e := e) (w := w) (H := H) _ _).2
    (wp_perform_cases (fun hlt ↦ hret hlt _ rfl) hblock)

/-- The same of a call during which signals are blocked: none is delivered. -/
theorem wp_sysBlocked {c : Call} {Q : Val c → World → Prop}
    (hret : ∀ r : Answer c, e.answer w.trace c = r →
      Q r.val { w with trace := w.trace ++ [.call c r] })
    (hblock : H .blocked w) : wp e (sysBlocked c) Q H w :=
  (wp_bind (e := e) (w := w) (H := H) _ _).2
    (wp_perform (fun r hr _ ↦ hret r hr) hblock)

@[simp] theorem wp_setErrno {err : Errno} {Q : Unit → World → Prop} :
    wp e (setErrno err) Q H w ↔ Q () (withErrno w err) := Iff.rfl

@[simp] theorem wp_errnoIs {err : Errno} {Q : Bool → World → Prop} :
    wp e (errnoIs err) Q H w ↔ Q (w.st.errno = some err) w := Iff.rfl

@[simp] theorem wp_getSession {Q : FtpSession → World → Prop} :
    wp e getSession Q H w ↔ Q w.st.session w := Iff.rfl

@[simp] theorem wp_mark {n : Note} {Q : Unit → World → Prop} :
    wp e (mark n) Q H w ↔ Q () (noted w n) := Iff.rfl

/-- A call that fails leaves its error in `errno`. -/
theorem wp_checked {m : Program (Except Errno α)} {Q : Option α → World → Prop} :
    wp e (checked m) Q H w ↔
      wp e m (fun r w' ↦ match r with
        | .ok a => Q (some a) w'
        | .error err => Q none (withErrno w' err)) H w := by
  rw [checked, wp_bind]
  refine ⟨fun h ↦ wp_mono h ?_ fun _ _ h ↦ h, fun h ↦ wp_mono h ?_ fun _ _ h ↦ h⟩
  all_goals
    rintro (err | a) w' h'
    · exact h'
    · exact h'

/-- A failure only sets `errno`. -/
theorem wp_checked_of {m : Program (Except Errno α)} {S : World → Prop}
    (h : wp e m (fun _ ↦ S) (fun _ ↦ S) w) (herrno : ∀ w' err, S w' → S (withErrno w' err)) :
    wp e (checked m) (fun _ ↦ S) (fun _ ↦ S) w := by
  refine wp_checked.2 (wp_mono h ?_ fun _ _ h ↦ h)
  rintro (err | a) w' h'
  · exact herrno w' err h'
  · exact h'

/-! ### Actions within a relation -/

section Within

variable {P : World → Prop} {R : World → World → Prop}

/-- To keep a call within a relation, look at each of its answers. -/
theorem within_sys (G : Guard P R) {c : Call} (h : ∀ w r, P w → R w (answered w c r)) :
    Within P R (sys c) :=
  within_iff_wp.2 fun _ w hw ↦ wp_sys (fun r _ ↦ h w r hw) (G.refl w hw)

/-- The same while signals are blocked. -/
theorem within_sysBlocked (G : Guard P R) {c : Call}
    (h : ∀ w (r : Answer c), P w → R w { w with trace := w.trace ++ [.call c r] }) :
    Within P R (sysBlocked c) :=
  within_iff_wp.2 fun _ w hw ↦ wp_sysBlocked (fun r _ ↦ h w r hw) (G.refl w hw)

theorem within_setErrno {err : Errno} (h : ∀ w, P w → R w (withErrno w err)) :
    Within P R (setErrno err) :=
  fun _ w hw ↦ h w hw

theorem within_mark {n : Note} (h : ∀ w, P w → R w (noted w n)) : Within P R (mark n) :=
  fun _ w hw ↦ h w hw

end Within

/-! ### Actions that do nothing undefined -/

/-- The kernel does nothing undefined. -/
theorem faultless_sys (c : Call) : Faultless (sys c) :=
  faultless_bind (faultless_perform (I := kernel) c) fun _ ↦
    faultless_bind (faultless_modify _) fun _ ↦ faultless_pure _

theorem faultless_setErrno (err : Errno) : Faultless (setErrno err) := faultless_modify _

theorem faultless_errnoIs (err : Errno) : Faultless (errnoIs err) :=
  faultless_bind faultless_get fun _ ↦ faultless_pure _

theorem faultless_checked {m : Program (Except Errno α)} (h : Faultless m) :
    Faultless (checked m) := by
  refine faultless_bind h fun r ↦ ?_
  rcases r with err | a
  · exact faultless_bind (faultless_setErrno err) fun _ ↦ faultless_pure _
  · exact faultless_pure _

/-- `sendall` goes on until everything is sent or a call fails. -/
theorem faultless_sendall (sockfd : ℤ) (buf : Bytes) : Faultless (sendall sockfd buf) := by
  refine faultless_loop (fun total ↦ ?_) 0
  split_ifs
  · refine faultless_bind (faultless_checked (faultless_sys _)) fun r ↦ ?_
    rcases r with - | n
    · refine faultless_bind (faultless_errnoIs _) fun b ↦ ?_
      split_ifs <;> exact faultless_pure _
    · exact faultless_pure _
  · exact faultless_pure _

theorem faultless_reply (sock : ℤ) (msg : Bytes) : Faultless (reply sock msg) :=
  faultless_bind (faultless_note _) fun _ ↦ faultless_sendall sock msg

/-- Handling a signal is bookkeeping. -/
theorem faultless_serverHandleSignal (waiter : Waiter) : Faultless (serverHandleSignal waiter) := by
  have htake : Faultless takeTerminating := by
    refine faultless_bind faultless_get fun s ↦ ?_
    split_ifs
    · exact faultless_bind (faultless_modify _) fun _ ↦ faultless_pure _
    · exact faultless_pure _
  refine faultless_bind (faultless_sys _) fun _ ↦ faultless_bind (faultless_modify _) fun _ ↦ ?_
  refine faultless_bind htake fun ret ↦ ?_
  dsimp only
  split_ifs
  · exact faultless_bind (faultless_note _) fun _ ↦ faultless_bind (faultless_sys _) fun _ ↦
      faultless_pure _
  · exact faultless_bind (faultless_sys _) fun _ ↦ faultless_pure _

theorem faultless_interruptedToQuit (waiter : Waiter) : Faultless (interruptedToQuit waiter) := by
  refine faultless_bind (faultless_errnoIs _) fun b ↦ ?_
  split_ifs
  · exact faultless_bind (faultless_serverHandleSignal waiter) fun _ ↦ faultless_pure _
  · exact faultless_pure _

/-! ### Environments to run programs in -/

/-- The result of a call that succeeds at once: memory is zeroed, files are empty, nothing is left
to read, and both ends of a `poll` are ready. -/
def Val.default : (c : Call) → Val c
  | .malloc size => some ⟨List.replicate size 0, by simp⟩
  | .indeterminate => fun _ ↦ 0
  | .gettimeofday => Timeval.zero
  | .nanosleep _ => .ok ()
  | .sigprocmask => ()
  | .getpeername _ | .getsockname _ => .ok ⟨127, 0, 0, 1⟩
  | .poll _ _ => .ok true
  | .recv _ _ => .ok ⟨[], by simp⟩
  | .send _ buf => .ok ⟨buf.length, le_rfl⟩
  | .read _ _ => .ok ⟨[], by simp⟩
  | .write _ buf => .ok ⟨buf.length, le_rfl⟩
  | .lseek _ _ => .ok ()
  | .sendfile _ _ _ count => .ok ⟨count, le_rfl⟩
  | .close _ => .ok ()
  | .path .lstat _ | .path .stat _ => .ok (⟨.reg, 1, 0, 0, 0, 0⟩ : Stat)
  | .path (.creat _) _ | .path .open _ | .path .opendir _ => .ok (7 : ℕ)
  | .path (.mkdir _) _ | .path .rmdir _ | .path .unlink _ => .ok ()
  | .readdir _ => none
  | .closedir _ => .ok ()
  | .socket => .ok (6 : ℕ)
  | .setsockopt _ | .bind _ _ | .listen _ => .ok ()
  | .getsockport _ => .ok ((4, 1) : UInt8 × UInt8)
  | .accept _ => .ok ((8, ⟨127, 0, 0, 1⟩) : ℕ × InAddr)
  | .writev _ _ _ => .ok ()
  | .getpwnam _ => some ⟨1000, [slash]⟩
  | .getspnam _ => some [33]
  | .crypt _ _ => some [33]
  | .setuid _ => .ok ()
  | .pollBoth _ _ => .ok (some (true, false))
  | .fork => .ok (.parent 2)
  | .waitpid => (2 : Int32)
  | .kill _ => .ok ()

/-- The calls of a trace. -/
def callsOf (trace : List (Item kernel)) : List Call :=
  trace.filterMap fun | .call c _ => some (c : Call) | .note _ => none

/-- An environment in which every call succeeds, except where `script`, which sees the calls made
so far, says otherwise. -/
def scriptedEnv (script : List Call → (c : Call) → Option (Answer c)) (limit : ℕ) : Env where
  answer trace c := (script (callsOf trace) c).getD ⟨[], Val.default c⟩
  limit := limit

/-- Such an environment in which, besides, the client sends these chunks. -/
def clientEnvWith (script : List Call → (c : Call) → Option (Answer c)) (chunks : List Bytes) :
    Env :=
  scriptedEnv (fun before c ↦
    match c with
    | .recv _ max =>
      let sent := before.countP fun | .recv _ _ => true | _ => false
      some ⟨[], .ok ⟨(chunks.getD sent []).take max, List.length_take_le _ _⟩⟩
    | c => script before c) 1000

/-- An environment in which every call succeeds, and the client sends these chunks. -/
def clientEnv (chunks : List Bytes) : Env := clientEnvWith (fun _ _ ↦ none) chunks

end FtpServer
