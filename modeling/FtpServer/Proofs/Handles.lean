import FtpServer.Library.Ledger
import FtpServer.Proofs.SessionLoop
import FtpServer.Proofs.DataCommands

/-!
# What a process holds open

The descriptors and the open directory of a process, as the calls of a run open and close them.

* `move?` says what a call opens or closes, and `handlesAfter` replays a trace from what is held
  before it, by the ledger of the library.
* `Holding start held conn created refused` is the invariant inside of a command: what is held comes
  from `start`, and whether a file was created or a connection refused is remembered for the end.
* An action that opens and closes nothing keeps all of this (`KeepsHandles`). The others are few:
  `Holding.acquire` and `Holding.close` are about single calls, and `AcceptedWith` is what
  `accept_data_conn` leaves open.
-/

namespace FtpServer

open CString Effect Effect.Proc Ledger

/-! ### What the trace says -/

/-- What a process can hold open: a descriptor, or an open directory. -/
inductive Handle where
  | fd (fd : ℤ)
  | dir (dir : ℕ)
  deriving DecidableEq, Repr

/-- The descriptor that a call yields, if it succeeds. -/
def openedFd : Except Errno ℕ → Option (Move Handle)
  | .ok fd => some (.acquire (.fd fd))
  | .error _ => none

/-- What a call opens or closes. `close` lets go of the descriptor even if it reports an error, and
does nothing to a negative one. -/
def move? : Item kernel → Option (Move Handle)
  | .call (.path (.creat _) _) r => openedFd r.val
  | .call (.path .open _) r => openedFd r.val
  | .call (.path .opendir _) r =>
    match r.val with
    | .ok dir => some (.acquire (.dir dir))
    | .error _ => none
  | .call .socket r => openedFd r.val
  | .call (.accept _) r =>
    match r.val with
    | .ok (fd, _) => some (.acquire (.fd fd))
    | .error _ => none
  | .call (.close fd) _ => if 0 ≤ fd then some (.release (.fd fd)) else none
  | .call (.closedir dir) _ => some (.release (.dir dir))
  | _ => none

/-- What is held at the end, if `held` is what was held before. -/
def handlesAfter (held : List Handle) (trace : List (Item kernel)) : Option (List Handle) :=
  replay held (trace.filterMap move?)

/-- A `creat` succeeds. -/
def creates : Item kernel → Bool
  | .call (.path (.creat _) _) r =>
    match r.val with
    | .ok _ => true
    | .error _ => false
  | _ => false

/-- An `accept` fails. -/
def refuses : Item kernel → Bool
  | .call (.accept _) r =>
    match r.val with
    | .ok _ => false
    | .error _ => true
  | _ => false

/-- The listening socket of a session. -/
def pasvHandles (s : Process) : List Handle :=
  if 0 ≤ s.session.conn.pasvSock then [.fd s.session.conn.pasvSock] else []

/-- What the command `cmd` is to do with descriptors, between `s` and `w`. -/
def KeepsDescriptors (cmd : CmdHandler) (s : Process) (w : World) : Prop :=
  if cmd.name = "PASV" then handlesAfter (pasvHandles s) w.trace = some (pasvHandles w.st)
  else handlesAfter [] w.trace = some [] ∧ w.st.session.conn.pasvSock = s.session.conn.pasvSock

instance (cmd : CmdHandler) (s : Process) (w : World) : Decidable (KeepsDescriptors cmd s w) := by
  unfold KeepsDescriptors
  infer_instance

/-- A file was created and a connection refused. -/
def LosesFile (trace : List (Item kernel)) : Prop :=
  trace.any creates = true ∧ trace.any refuses = true

/-! ### Actions that open and close nothing -/

/-- An entry about no descriptor. -/
structure Unheld (x : Item kernel) : Prop where
  move : move? x = none
  creates : creates x = false
  refuses : refuses x = false

/-- The path operations that open nothing. -/
def OpensNothing : PathOp → Prop
  | .lstat | .stat | .mkdir _ | .rmdir | .unlink => True
  | .creat _ | .open | .opendir => False

theorem unheld_note (n : Note) : Unheld (.note n : Item kernel) := ⟨rfl, rfl, rfl⟩

theorem unheld_call {c : Call} (hc : c.topic ≠ .descriptor)
    (hpath : ∀ op path, c = .path op path → OpensNothing op) (r : Answer c) :
    Unheld (.call c r : Item kernel) := by
  cases c with
  | path op path =>
    have hop := hpath op path rfl
    cases op with
    | creat | «open» | opendir => exact hop.elim
    | _ => exact ⟨rfl, rfl, rfl⟩
  | close | closedir | socket | accept => exact absurd rfl hc
  | _ => exact ⟨rfl, rfl, rfl⟩

/-- The connection is as it was, and nothing was opened or closed. -/
structure KeepsHandles (w w' : World) : Prop where
  conn : w'.st.session.conn = w.st.session.conn
  unheld : Extends Unheld w w'

theorem keepsHandles_guard : Guard (fun _ ↦ True) KeepsHandles where
  refl w _ := ⟨rfl, .refl w⟩
  trans _ h₁ h₂ := ⟨h₂.conn.trans h₁.conn, h₁.unheld.trans h₂.unheld⟩
  keep _ _ := trivial

theorem keepsHandles_mark (n : Note) : Within (fun _ ↦ True) KeepsHandles (mark n) :=
  within_mark fun _ _ ↦ ⟨rfl, .concat rfl (unheld_note n)⟩

theorem keepsHandles_modify {f : Process → Process}
    (hf : ∀ s, (f s).session.conn = s.session.conn) :
    Within (fun _ ↦ True) KeepsHandles (Proc.modify f) :=
  within_modify fun w _ ↦ ⟨hf w.st, .of_eq rfl⟩

theorem keepsHandles_session {f : FtpSession → FtpSession} (hf : ∀ s, (f s).conn = s.conn) :
    Within (fun _ ↦ True) KeepsHandles (modifySession f) :=
  keepsHandles_modify fun s ↦ hf s.session

theorem keepsHandles_sys {c : Call} (hc : c.topic ≠ .descriptor)
    (hpath : ∀ op path, c = .path op path → OpensNothing op) :
    Within (fun _ ↦ True) KeepsHandles (sys c) :=
  within_sys keepsHandles_guard fun _ r _ ↦ ⟨rfl, .concat rfl (unheld_call hc hpath r)⟩

/-- The topics of what opens and closes nothing. -/
abbrev NoHandle (t : Topic) : Prop := t ≠ .descriptor ∧ t ≠ .path

theorem keepsHandles_steps : StepLogic NoHandle (fun _ ↦ True) KeepsHandles where
  toCallLogic := .of_observe keepsHandles_guard (by decide) (by decide)
    (fun _ hc ↦ keepsHandles_sys hc.1 fun _ _ h ↦ absurd (h ▸ rfl) hc.2)
    (fun _ ↦ keepsHandles_modify fun _ ↦ rfl) fun _ _ ↦ keepsHandles_mark _
  statePool _ _ := keepsHandles_modify fun _ ↦ rfl
  modifySession _ hf := keepsHandles_session fun s ↦
    (hf s).conn.resolve_left fun h ↦ absurd rfl h.1
  undefined _ _ _ _ := keepsHandles_mark _

theorem keepsHandles_handlers (config : FtpConfig) :
    TransferLogic NoHandle OpensNothing (fun _ ↦ True) config (fun _ ↦ True) KeepsHandles where
  toDirectoryLogic := .of_steps keepsHandles_steps (by decide)
    (fun op path hop ↦ keepsHandles_sys (by simp [Call.topic]) fun _ _ h ↦ by
      cases h
      rcases hop with rfl | rfl | hop
      · trivial
      · trivial
      · exact hop)
    (fun _ ↦ keepsHandles_modify fun _ ↦ rfl) (fun _ ↦ keepsHandles_session fun _ ↦ rfl)
    (keepsHandles_session fun _ ↦ rfl)
    (keepsHandles_steps.trimArgument fun _ ↦ keepsHandles_session fun _ ↦ rfl)
    (keepsHandles_steps.listArgument fun _ ↦ keepsHandles_session fun _ ↦ rfl)
  process := by decide
  name := by decide
  progress := by decide
  serverHandleSignal waiter _ := keepsHandles_steps.serverHandleSignal waiter
    (fun _ ↦ keepsHandles_modify fun _ ↦ rfl) (keepsHandles_mark _)

theorem keepsHandles_login : LoginLogic NoHandle (fun _ ↦ True) KeepsHandles where
  toStepLogic := keepsHandles_steps
  process := by decide
  rename _ _ := keepsHandles_modify fun _ ↦ rfl
  logIn := keepsHandles_modify fun _ ↦ rfl
  named _ := keepsHandles_mark _
  loggedIn _ := keepsHandles_mark _
  initVfsPool := keepsHandles_steps.initVfsPool fun _ _ _ _ _ _ ↦
    ⟨rfl, .concat rfl (unheld_note _)⟩

/-! ### What is held -/

/-- Between the start and here, `held` came from `start`. -/
structure Holding (start held : List Handle) (conn : FtpConn) (created refused : Bool) (w : World) :
    Prop where
  handles : handlesAfter start w.trace = some held
  conn : w.st.session.conn = conn
  created : w.trace.any creates = created
  refused : w.trace.any refuses = refused

variable {config : FtpConfig} {e : Env} {w : World} {α : Type} {start held : List Handle}
  {conn : FtpConn} {created refused : Bool}

theorem Holding.keep {w' : World} (h : Holding start held conn created refused w)
    (hk : KeepsHandles w w') : Holding start held conn created refused w' where
  handles := by
    rw [handlesAfter, hk.unheld.filterMap fun _ hx ↦ hx.move]
    exact h.handles
  conn := hk.conn.trans h.conn
  created := (hk.unheld.any fun _ hx ↦ hx.creates).trans h.created
  refused := (hk.unheld.any fun _ hx ↦ hx.refuses).trans h.refused

/-- What is held when a command may stop early does not matter. -/
theorem holding_keeps : Keeps (fun _ ↦ True) KeepsHandles (Holding start held conn created refused)
    fun _ ↦ True where
  assume _ _ := trivial
  keepInv _ _ h hk := h.keep hk
  mid _ _ := trivial

section Moves

variable {c : Call} {r : Answer c} {a : Handle}

theorem Holding.move (h : Holding start held conn created refused w) {m : Move Handle}
    (hx : move? (.call c r) = some m) {held' : List Handle}
    (hheld : replay start (w.trace.filterMap move? ++ [m]) = some held') :
    Holding start held' conn (created || creates (.call c r)) (refused || refuses (.call c r))
      (answered w c r) where
  handles := by
    rw [handlesAfter, answered_trace, List.filterMap_append, List.filterMap_cons_some hx,
      List.filterMap_nil, hheld]
  conn := h.conn
  created := by simp [h.created]
  refused := by simp [h.refused]

/-- Something is opened. -/
theorem Holding.acquire (h : Holding start held conn created refused w)
    (hx : move? (.call c r) = some (.acquire a)) :
    Holding start (a :: held) conn (created || creates (.call c r)) (refused || refuses (.call c r))
      (answered w c r) :=
  h.move hx (replay_acquire h.handles a)

/-- Something is closed that is held. -/
theorem Holding.release (h : Holding start held conn created refused w)
    (hx : move? (.call c r) = some (.release a)) (ha : a ∈ held) :
    Holding start (held.erase a) conn (created || creates (.call c r))
      (refused || refuses (.call c r)) (answered w c r) :=
  h.move hx (replay_release h.handles ha)

end Moves

variable {Q : FtpRet → World → Prop}

theorem Holding.errno (h : Holding start held conn created refused w) (err : Errno) :
    Holding start held conn created refused (withErrno w err) :=
  ⟨h.handles, h.conn, h.created, h.refused⟩

/-- The close of a descriptor that is held. -/
theorem Holding.close (h : Holding start held conn created refused w) {fd : ℤ} (hfd : 0 ≤ fd)
    (hmem : .fd fd ∈ held) :
    wp e (checked (sys (.close fd)))
      (fun _ ↦ Holding start (held.erase (.fd fd)) conn created refused) (fun _ _ ↦ True) w := by
  refine wp_checked.2 (wp_sys (fun r _ ↦ ?_) trivial)
  have hmove : move? (.call (.close fd) r) = some (.release (.fd fd)) := if_pos hfd
  have h₁ : Holding start (held.erase (.fd fd)) conn created refused
      (answered w (.close fd) r) := by
    simpa [creates, refuses] using h.release hmove hmem
  obtain ⟨async, err | u⟩ := r
  · exact h₁.errno err
  · exact h₁

theorem Holding.vfsClose (h : Holding start held conn created refused w) {fd : ℤ} (hfd : 0 ≤ fd)
    (hmem : .fd fd ∈ held) :
    wp e (vfsClose fd) (fun _ ↦ Holding start (held.erase (.fd fd)) conn created refused)
      (fun _ _ ↦ True) w :=
  (wp_bind _ _).2 (h.close hfd hmem)

/-- The close of a negative descriptor. -/
theorem keepsHandles_close {fd : ℤ} (hfd : fd < 0) :
    Within (fun _ ↦ True) KeepsHandles (checked (sys (.close fd))) :=
  keepsHandles_steps.checked (within_sys keepsHandles_guard fun _ r _ ↦
    ⟨rfl, .concat rfl ⟨if_neg (by omega), rfl, rfl⟩⟩)

/-- A path operation that opens something. -/
theorem Holding.vfsCall (h : Holding start held conn created refused w) {op : PathOp}
    {T : op.Result → World → Prop}
    (hok : ∀ path async a w, Holding start held conn created refused w →
      T a (answered w (.path op path) ⟨async, .ok a⟩))
    (herror : ∀ path async err, Unheld (.call (.path op path) ⟨async, .error err⟩ : Item kernel))
    (cwd path : Bytes) :
    wp e (vfsCall op cwd path) (OpenedOr (Holding start held conn created refused) T)
      (fun _ _ ↦ True) w := by
  refine keepsHandles_steps.vfsCall_wp holding_keeps (fun _ ↦ keepsHandles_modify fun _ ↦ rfl)
    (fun _ h ↦ h) (fun path w h ↦ wp_checked.2 (wp_sys (fun r _ ↦ ?_) trivial)) h cwd path
  obtain ⟨async, err | a⟩ := r
  · exact h.keep ⟨rfl, .concat rfl (herror path async err)⟩
  · exact hok path async a w h

theorem Holding.vfsOpen (h : Holding start held conn created refused w) (cwd path : Bytes) :
    wp e (vfsOpen cwd path) (OpenedOr (Holding start held conn created refused)
      fun fd ↦ Holding start (.fd fd :: held) conn created refused) (fun _ _ ↦ True) w := by
  refine h.vfsCall (fun path async fd w h ↦ ?_) (fun _ _ _ ↦ ⟨rfl, rfl, rfl⟩) cwd path
  simpa [creates, refuses] using h.acquire (c := .path .open path) (r := ⟨async, .ok fd⟩) rfl

theorem Holding.vfsCreat (h : Holding start held conn created refused w) (cwd path : Bytes)
    (mode : ℕ) :
    wp e (vfsCreat cwd path mode) (OpenedOr (Holding start held conn created refused)
      fun fd ↦ Holding start (.fd fd :: held) conn true refused) (fun _ _ ↦ True) w := by
  refine h.vfsCall (fun path async fd w h ↦ ?_) (fun _ _ _ ↦ ⟨rfl, rfl, rfl⟩) cwd path
  simpa [creates, refuses] using
    h.acquire (c := .path (.creat mode) path) (r := ⟨async, .ok fd⟩) rfl

theorem Holding.vfsOpendir (h : Holding start held conn created refused w) (cwd path : Bytes) :
    wp e (vfsOpendir cwd path) (OpenedOr (Holding start held conn created refused)
      fun dir ↦ Holding start (.dir dir :: held) conn created refused) (fun _ _ ↦ True) w := by
  refine h.vfsCall (fun path async dir w h ↦ ?_) (fun _ _ _ ↦ ⟨rfl, rfl, rfl⟩) cwd path
  simpa [creates, refuses] using
    h.acquire (c := .path .opendir path) (r := ⟨async, .ok dir⟩) rfl

/-- What `accept_data_conn` leaves open. -/
def AcceptedWith (start held : List Handle) (conn : FtpConn) (created : Bool) :
    DataConn → World → Prop
  | .sock fd => Holding start (.fd fd :: held) conn created false
  | _ => Holding start held conn created true

theorem Holding.acceptDataConn (h : Holding start held conn created false w) :
    wp e acceptDataConn (AcceptedWith start held conn created) (fun _ _ ↦ True) w := by
  have L := keepsHandles_handlers loadDefaults
  rw [FtpServer.acceptDataConn, wp_bind, wp_getSession]
  refine (wp_bind _ _).2 (wp_checked.2 (wp_sys (fun r _ ↦ ?_) trivial))
  obtain ⟨async, err | ⟨fd, addr⟩⟩ := r
  · -- the connection is refused, and the rest only says so
    have h₁ : Holding start held conn created true (answered w
        (.accept w.st.session.conn.pasvSock) ⟨async, .error err⟩) := by
      refine ⟨?_, h.conn, ?_, ?_⟩
      · exact (congrArg (replay start) (by simp [move?])).trans h.handles
      · simp [h.created, creates]
      · simp [refuses]
    refine holding_keeps.bind (L.interruptedToQuit trivial) (h₁.errno err) fun b w₂ h₂ ↦ ?_
    split_ifs
    · exact h₂
    · rw [wp_bind, wp_errnoIs]
      split_ifs
      · exact h₂
      · exact holding_keeps.bind (L.replyMsg (by decide) _ (by decide)) h₂ fun _ _ h ↦ h
  · simpa [AcceptedWith, creates, refuses] using h.acquire
      (c := .accept w.st.session.conn.pasvSock) (r := ⟨async, .ok (fd, addr)⟩) rfl

end FtpServer
