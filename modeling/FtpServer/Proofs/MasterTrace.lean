import FtpServer.Proofs.Clients
import FtpServer.Proofs.SessionLoop

/-!
# What the master knows of its children

What the master knows of its children is what its own calls have told it. `Mastering` ties its
client list and its signal flags to the trace: the list has the processes that were forked and not
yet waited for, in the order of their forks.

* `unreaped` are the children, and `exitsOf` what has become of those that have exited, both read
  off the trace by a fold; `flagOf` are the signals that the master has been told of.
* `Tracking` holds while the master handles its signals, when its flags are behind the trace;
  `Pending` and `Forking` hold between a `fork` and the entry of the child in the list.
* `Stopped` has the points at which a run of the main loop may be stopped, and `Left` the ways to
  leave it: as a new process, or as the master. `Serving` is what is known of the former.
-/

namespace FtpServer

open CString Effect Effect.Proc

/-! ### What the trace of the master says -/

/-- The children, given those before a call: `fork` makes one and `waitpid` reaps one. -/
def tracked (pids : List Int32) : Item kernel → List Int32
  | .call .fork r =>
    match r.val with
    | .ok (.parent pid) => pids ++ [pid]
    | _ => pids
  | .call .waitpid r => pids.erase r.val
  | _ => pids

/-- The children that were forked and not waited for. -/
def unreaped (trace : List (Item kernel)) : List Int32 := trace.foldl tracked []

/-- The signals that were delivered and not taken. While `waitpid` is called, all are blocked. -/
def signalled (flag : SignalFlag) : Item kernel → SignalFlag
  | .call .waitpid _ => flag
  | .call _ r => deliver flag (Answer.async r)
  | .note (.handled _) => 0
  | .note _ => flag

def flagOf (flag₀ : SignalFlag) (trace : List (Item kernel)) : SignalFlag :=
  trace.foldl signalled flag₀

/-- The children that have exited, and what has become of the `SIGCHLD` for each. -/
structure Exits where
  /-- The children that have exited and were not waited for. -/
  zombies : List Int32
  /-- A `SIGCHLD` is pending. -/
  raised : Bool
  /-- A `SIGCHLD` was delivered, and no child was waited for since. -/
  owed : Bool
  /-- How often a `SIGCHLD` was raised while one was pending, or delivered while one was owed. -/
  merged : ℕ
  deriving DecidableEq

def Exits.event (k : Exits) : Async → Exits
  | .exit pid =>
    { k with zombies := k.zombies ++ [pid], raised := true, merged := k.merged + k.raised.toNat }
  | .deliver .sigchld => { k with raised := false, owed := true, merged := k.merged + k.owed.toNat }
  | .deliver _ => k

def Exits.events (k : Exits) (async : List Async) : Exits := async.foldl Exits.event k

def Exits.step (k : Exits) : Item kernel → Exits
  | .call .waitpid r =>
    { k.events (Answer.async r) with
      zombies := (k.events (Answer.async r)).zombies.erase r.val, owed := false }
  | .call _ r => k.events (Answer.async r)
  | .note _ => k

def exitsOf (flag₀ : SignalFlag) (trace : List (Item kernel)) : Exits :=
  trace.foldl Exits.step ⟨[], false, flag₀ &&& recvSigchld ≠ 0, 0⟩

/-- A `fork` has returned in the new process. -/
def forksChild : Item kernel → Bool
  | .call .fork r =>
    match r.val with
    | .ok (.child _) => true
    | _ => false
  | _ => false

/-- The process is one that serves a client. -/
def served (trace : List (Item kernel)) : Bool := trace.any forksChild

/-- The process that is killed. -/
def killed? : Item kernel → Option Int32
  | .call (.kill pid) _ => some pid
  | _ => none

def killsOf (trace : List (Item kernel)) : List Int32 := trace.filterMap killed?

/-- There is no memory for something. -/
def starves : Item kernel → Bool
  | .call (.malloc _) r => r.val.isNone
  | _ => false

def starved (trace : List (Item kernel)) : Bool := trace.any starves

/-- The signals that `daemon_handle_signal` finds behind its `waitpid`: `signal_flag &=
!RECV_SIGCHLD` clears them all. -/
def flagLeft (flag : SignalFlag) : SignalFlag := if flag &&& recvSigchld ≠ 0 then 0 else flag

/-- What the master has to go by when it waits for a child, when it forks one, and when it says that
it was told to quit. -/
structure Directed (config : FtpConfig) (flag₀ : SignalFlag) (before : List (Item kernel))
    (x : Item kernel) : Prop where
  waits : ∀ r, x = .call .waitpid r → (exitsOf flag₀ before).owed = true
  forks : ∀ r, x = .call .fork r →
    config.maxClients = -1 ∨ ((unreaped before).length : ℤ) < config.maxClients
  handles : ∀ ret, x = .note (.handled ret) → (exitsOf flag₀ before).owed = false ∧
    ret = if flagLeft (flagOf flag₀ before) ≠ 0 then .quit else .success

/-! ### The invariant -/

/-- What holds in the master, also while it handles its signals. -/
structure Tracking (config : FtpConfig) (flag₀ : SignalFlag) (w : World) : Prop where
  listed : pidsOf w.st.clients = unreaped w.trace
  unserved : served w.trace = false
  mild : killsOf w.trace = []
  directed : AtEach (Directed config flag₀) w.trace

/-- What holds in the master between two of its calls. -/
structure Mastering (config : FtpConfig) (flag₀ : SignalFlag) (w : World) : Prop
    extends Tracking config flag₀ w where
  flag : w.st.signalFlag = flagOf flag₀ w.trace
  owed : (exitsOf flag₀ w.trace).owed = decide (flagOf flag₀ w.trace &&& recvSigchld ≠ 0)

section Trace

variable {flag₀ : SignalFlag} {trace : List (Item kernel)} {x : Item kernel} {c : Call}
  {r : Answer c}

theorem unreaped_concat : unreaped (trace ++ [x]) = tracked (unreaped trace) x := by
  rw [unreaped, List.foldl_append]
  rfl

theorem flagOf_concat : flagOf flag₀ (trace ++ [x]) = signalled (flagOf flag₀ trace) x := by
  rw [flagOf, List.foldl_append]
  rfl

theorem exitsOf_concat : exitsOf flag₀ (trace ++ [x]) = (exitsOf flag₀ trace).step x := by
  rw [exitsOf, List.foldl_append]
  rfl

theorem served_concat : served (trace ++ [x]) = (served trace || forksChild x) := by
  simp [served]

theorem killsOf_concat : killsOf (trace ++ [x]) = killsOf trace ++ (killed? x).toList := by
  rw [killsOf, List.filterMap_append]
  cases h : killed? x <;> simp [h, killsOf]

theorem signalled_call (hc : c ≠ .waitpid) (flag : SignalFlag) :
    signalled flag (.call c r) = deliver flag r.async := by
  cases c with
  | waitpid => exact absurd rfl hc
  | _ => rfl

theorem exitsOf_call (hc : c ≠ .waitpid) :
    exitsOf flag₀ (trace ++ [.call c r]) = (exitsOf flag₀ trace).events r.async := by
  rw [exitsOf_concat]
  cases c with
  | waitpid => exact absurd rfl hc
  | _ => rfl

theorem signalHandler_sigchld (flag : SignalFlag) (sig : Signal) :
    signalHandler flag sig &&& recvSigchld ≠ 0 ↔ sig = .sigchld ∨ flag &&& recvSigchld ≠ 0 := by
  rw [signalHandler, BitVec.and_or_distrib_right]
  by_cases hsig : sig = .sigchld
  · refine iff_of_true (fun h ↦ ?_) (.inl hsig)
    have hbit := congrArg (BitVec.getLsbD · 4) h
    have hchld : (Signal.bit .sigchld &&& recvSigchld).getLsbD 4 = true := rfl
    rw [hsig, BitVec.getLsbD_or, hchld, Bool.or_true] at hbit
    cases hbit
  · have hbit : sig.bit &&& recvSigchld = 0 := by
      cases sig <;> first | rfl | exact absurd rfl hsig
    simp [hsig, hbit]

/-- The flag of `SIGCHLD` is set if one was delivered and no child was waited for since. -/
theorem owed_events (async : List Async) {k : Exits} {flag : SignalFlag}
    (h : k.owed = decide (flag &&& recvSigchld ≠ 0)) :
    (k.events async).owed = decide (deliver flag async &&& recvSigchld ≠ 0) := by
  induction async generalizing k flag with
  | nil => exact h
  | cons event async ih =>
    rcases event with sig | pid
    · refine @ih (k.event (.deliver sig)) (signalHandler flag sig) ?_
      rw [decide_eq_decide.2 (signalHandler_sigchld flag sig)]
      cases sig with
      | sigchld => rfl
      | _ => simpa [Exits.event] using h
    · exact ih (k := k.event (.exit pid)) h

theorem OfSession.killed?_eq (h : OfSession x) : killed? x = none := by
  rcases x with ⟨c, r⟩ | n
  · cases c with
    | kill => exact absurd rfl h
    | _ => rfl
  · rfl

theorem directed_call {config : FtpConfig} (hwait : c ≠ .waitpid) (hfork : c ≠ .fork) :
    Directed config flag₀ trace (.call c r) where
  waits _ h := absurd (by injection h) hwait
  forks _ h := absurd (by injection h) hfork
  handles _ h := by cases h

theorem OfSession.directed {config : FtpConfig} (h : OfSession x) :
    Directed config flag₀ trace x where
  waits _ hx := by
    subst hx
    exact absurd rfl h
  forks _ hx := by
    subst hx
    exact absurd rfl h
  handles ret hx := by
    subst hx
    exact absurd rfl (h ret)

end Trace

namespace Mastering

variable {config : FtpConfig} {flag₀ : SignalFlag} {w : World}

/-- A call of the master that is not about its children. -/
theorem answered (h : Mastering config flag₀ w) {c : Call} {r : Answer c} (hwait : c ≠ .waitpid)
    (hfork : c ≠ .fork) (hkill : ∀ pid, c ≠ .kill pid) :
    Mastering config flag₀ (answered w c r) where
  listed := by
    have htracked : tracked (unreaped w.trace) (.call c r) = unreaped w.trace := by
      cases c with
      | waitpid => exact absurd rfl hwait
      | fork => exact absurd rfl hfork
      | _ => rfl
    rw [answered_clients, h.listed, answered_trace, unreaped_concat, htracked]
  unserved := by
    have hchild : forksChild (.call c r) = false := by
      cases c with
      | fork => exact absurd rfl hfork
      | _ => rfl
    rw [answered_trace, served_concat, h.unserved, hchild]
    rfl
  mild := by
    have hkilled : killed? (.call c r) = none := by
      cases c with
      | kill pid => exact absurd rfl (hkill pid)
      | _ => rfl
    rw [answered_trace, killsOf_concat, h.mild, hkilled]
    rfl
  directed := atEach_concat.2 ⟨h.directed, directed_call hwait hfork⟩
  flag := by
    rw [answered_signalFlag, answered_trace, flagOf_concat, signalled_call hwait, h.flag]
  owed := by
    rw [answered_trace, exitsOf_call hwait, flagOf_concat, signalled_call hwait]
    exact owed_events _ h.owed

theorem withErrno (h : Mastering config flag₀ w) (err : Errno) :
    Mastering config flag₀ (withErrno w err) :=
  ⟨⟨h.listed, h.unserved, h.mild, h.directed⟩, h.flag, h.owed⟩

theorem observed (h : Mastering config flag₀ w) (o : Observation) :
    Mastering config flag₀ (noted w (.observe o)) where
  listed := by
    rw [noted_st, h.listed, noted_trace, unreaped_concat]
    rfl
  flag := by
    rw [noted_st, h.flag, noted_trace, flagOf_concat]
    rfl
  owed := by
    rw [noted_trace, exitsOf_concat, flagOf_concat]
    exact h.owed
  unserved := by
    rw [noted_trace, served_concat, h.unserved]
    rfl
  mild := by
    rw [noted_trace, killsOf_concat, h.mild]
    rfl
  directed := atEach_concat.2 ⟨h.directed, nofun, nofun, nofun⟩

/-- The entries of the list may change, but not whose they are. -/
theorem withClients (h : Mastering config flag₀ w) {clients : List FtpChild}
    (hpids : pidsOf clients = pidsOf w.st.clients) :
    Mastering config flag₀ { w with st := { w.st with clients } } :=
  ⟨⟨hpids.trans h.listed, h.unserved, h.mild, h.directed⟩, h.flag, h.owed⟩

end Mastering

/-! ### Where a run may end -/

/-- A child was forked, and is not in the list yet. -/
def Pending (config : FtpConfig) (flag₀ : SignalFlag) (pid : Int32) (w : World) : Prop :=
  ∀ child : FtpChild, child.pid = pid →
    Mastering config flag₀ { w with st := { w.st with clients := w.st.clients ++ [child] } }

/-- The last thing that was done is a `fork`, but for a `close`. -/
def Forking (trace : List (Item kernel)) : Prop :=
  ∃ before r, trace = before ++ [.call .fork r] ∨
    ∃ fd r', trace = before ++ [.call .fork r, .call (.close fd) r']

/-- A process that serves a client kills nobody. -/
structure Serving (config : FtpConfig) (flag₀ : SignalFlag) (trace : List (Item kernel)) :
    Prop where
  served : served trace = true
  mild : killsOf trace = []
  directed : AtEach (Directed config flag₀) trace

/-- `waitpid` has returned something that is no child of the master. -/
structure Misled (config : FtpConfig) (flag₀ : SignalFlag) (w : World) : Prop where
  waited : ∃ before r, w.trace = before ++ [.call .waitpid r] ∧ r.val ∉ unreaped before
  unserved : served w.trace = false
  directed : AtEach (Directed config flag₀) w.trace

/-- Where the main loop is stopped: the master waits for a call to be answered, perhaps with a child
that is not in the list yet, or it looks for a child that it does not have; or it is not the master
that is stopped. -/
inductive Stopped (config : FtpConfig) (flag₀ : SignalFlag) : Halt → World → Prop where
  | working {w : World} (h : Tracking config flag₀ w) : Stopped config flag₀ .blocked w
  | adding {w : World} {pid : Int32} (h : Pending config flag₀ pid w) (hfork : Forking w.trace) :
      Stopped config flag₀ .blocked w
  | misled {w : World} (h : Misled config flag₀ w) : Stopped config flag₀ .fault w
  | serving {k : Halt} {w : World} (h : Serving config flag₀ w.trace) : Stopped config flag₀ k w

/-- How the main loop may be left: in a new process when its client is served, and otherwise by the
master, which knows all its children unless there was no memory for an entry. -/
structure Left (config : FtpConfig) (flag₀ : SignalFlag) (ret : FtpRet) (w : World) : Prop where
  mild : killsOf w.trace = []
  served : served w.trace = true ↔ ret = .quit
  listed : ret ≠ .quit → pidsOf w.st.clients = unreaped w.trace ∨
    starved w.trace = true ∧ (pidsOf w.st.clients).Sublist (unreaped w.trace)
  directed : AtEach (Directed config flag₀) w.trace

end FtpServer
