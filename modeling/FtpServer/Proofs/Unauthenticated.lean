import FtpServer.Proofs.SessionLoop

/-!
# What a session does without a login

As long as no `PASS` was accepted, a session answers on the control connection and keeps the login
fields and the command line, and that is all: the rest of the session object is as it was made, and
no call is made that concerns files, other descriptors or other processes (`serveSession_stranger`).

* `Discreet` has the entries that only the client of the control connection sees.
* `Stranger w₀` says that nothing else has happened since `w₀`, and `LogsInSince` that a `PASS` was
  accepted; every point of a session has one or the other (`StrangerOrNot`).
* `public_stranger` goes through the commands that need no login. All others are refused, and keep
  the stranger one.
-/

namespace FtpServer

open CString Effect Effect.Proc

/-! ### What the trace says -/

/-- A `PASS` is accepted: it sets `logged_in`, or becomes the user it was given the password of. -/
def logsIn : Item kernel → Bool
  | .note (.loggedIn _) => true
  | .call (.setuid _) r =>
    match r.val with
    | .ok () => true
    | .error _ => false
  | _ => false

/-- An entry that nobody but the client on `sock` sees. -/
def Discreet (sock : ℤ) : Item kernel → Prop
  | .call (.send fd _) _ => fd = sock
  | .call c _ => (c : Call).topic = .other ∨ (c : Call).topic = .control
  | .note _ => True

/-- Calls that are neither about paths nor about other sockets are discreet. -/
theorem discreet_call (sock : ℤ) {c : Call} (hc : c.topic = .other ∨ c.topic = .control)
    (r : Answer c) : Discreet sock (.call c r) := by
  cases c
  case send => exact absurd hc (by simp [Call.topic])
  all_goals exact hc

/-! ### The invariant -/

variable {config : FtpConfig} {sock : ℤ} {w₀ : World}

/-- Since `w₀`, nobody logged in and nothing else happened. -/
structure Stranger (sock : ℤ) (w₀ w : World) : Prop where
  sock_eq : w.st.session.conn.sock = sock
  pasvSock : w.st.session.conn.pasvSock = -1
  loggedIn : w.st.session.login.loggedIn = false
  session : w.st.session =
    { w₀.st.session with login := w.st.session.login, command := w.st.session.command }
  discreet : Extends (Discreet sock) w₀ w

/-- Since `w₀`, a `PASS` was accepted. -/
def LogsInSince (w₀ : World) (trace : List (Item kernel)) : Prop :=
  ∃ suffix, trace = w₀.trace ++ suffix ∧ ∃ x ∈ suffix, logsIn x = true

theorem logsInSince_concat (trace : List (Item kernel)) (x : Item kernel)
    (_ : OfSession x) (h : LogsInSince w₀ trace) : LogsInSince w₀ (trace ++ [x]) := by
  obtain ⟨suffix, rfl, y, hy, hlogs⟩ := h
  exact ⟨suffix ++ [x], by rw [List.append_assoc], y, List.mem_append_left _ hy, hlogs⟩

/-- What holds at every point of a session. -/
def StrangerOrNot (sock : ℤ) (w₀ w : World) : Prop := LogsInSince w₀ w.trace ∨ Stranger sock w₀ w

/-- Once somebody logs in, the login is in the trace. -/
theorem Stranger.logIn {w w' : World} (h : Stranger sock w₀ w) {x : Item kernel}
    (hx : logsIn x = true) (ht : w'.trace = w.trace ++ [x]) : LogsInSince w₀ w'.trace := by
  obtain ⟨suffix, hsuffix, -⟩ := h.discreet
  exact ⟨suffix ++ [x], by rw [ht, hsuffix, List.append_assoc], x, by simp, hx⟩

/-! ### Actions of a stranger -/

def KeepsStranger (sock : ℤ) (w₀ : World) (_ w' : World) : Prop := Stranger sock w₀ w'

theorem keepsStranger_guard : Guard (Stranger sock w₀) (KeepsStranger sock w₀) := guard_inv _

/-- Another discreet entry changes nothing. -/
theorem Stranger.append {w w' : World} (h : Stranger sock w₀ w) {x : Item kernel}
    (hx : Discreet sock x) (ht : w'.trace = w.trace ++ [x])
    (hsession : w'.st.session = w.st.session) : Stranger sock w₀ w' where
  sock_eq := hsession ▸ h.sock_eq
  pasvSock := hsession ▸ h.pasvSock
  loggedIn := hsession ▸ h.loggedIn
  session := hsession ▸ h.session
  discreet := h.discreet.trans (.concat ht hx)

/-- What the rest of the process does is not seen by the session. -/
theorem Stranger.of_session {w : World} (h : Stranger sock w₀ w) {s : Process}
    (hsession : s.session = w.st.session) : Stranger sock w₀ { w with st := s } :=
  ⟨hsession ▸ h.sock_eq, hsession ▸ h.pasvSock, hsession ▸ h.loggedIn, hsession ▸ h.session,
    h.discreet⟩

theorem keepsStranger_modify {f : Process → Process} (hf : ∀ s, (f s).session = s.session) :
    Within (Stranger sock w₀) (KeepsStranger sock w₀) (Proc.modify f) :=
  within_modify fun w hw ↦ hw.of_session (hf w.st)

theorem keepsStranger_mark (n : Note) :
    Within (Stranger sock w₀) (KeepsStranger sock w₀) (mark n) :=
  within_mark fun _ hw ↦ hw.append (x := .note n) trivial rfl rfl

/-- The calls that a stranger makes the session make. -/
theorem keepsStranger_calls : CallLogic (fun t ↦ t = .other ∨ t = .control) (Stranger sock w₀)
    (KeepsStranger sock w₀) :=
  .of_observe keepsStranger_guard (by decide) (by decide)
    (fun c hc ↦ within_sys keepsStranger_guard fun _ r hw ↦
      hw.append (discreet_call sock hc r) rfl rfl)
    (fun _ ↦ keepsStranger_modify fun _ ↦ rfl) fun _ _ ↦ keepsStranger_mark _

/-- The control connection is written to. -/
theorem keepsStranger_reply (msg : Bytes) :
    Within (Stranger sock w₀) (KeepsStranger sock w₀) (reply sock msg) := by
  refine within_bind keepsStranger_guard (keepsStranger_mark _) fun _ ↦ ?_
  refine within_sendall keepsStranger_guard (fun buf ↦ within_sys keepsStranger_guard ?_)
    keepsStranger_calls.setErrno msg
  exact fun _ r hw ↦ hw.append (x := .call (.send sock buf) r) rfl rfl rfl

/-- The connection is the one the session was given. -/
theorem keepsStranger_replySock {w : World} (hw : Stranger sock w₀ w) (msg : Bytes) :
    Within (Stranger sock w₀) (KeepsStranger sock w₀) (reply w.st.session.conn.sock msg) :=
  hw.sock_eq ▸ keepsStranger_reply msg

theorem keepsStranger_replyMsg (msg : String) :
    Within (Stranger sock w₀) (KeepsStranger sock w₀) (replyMsg msg) :=
  within_getSession_bind fun _ hw ↦ keepsStranger_calls.bind (keepsStranger_replySock hw _)
    fun _ ↦ keepsStranger_calls.pure _

theorem keepsStranger_replyFormat (text : Bytes) :
    Within (Stranger sock w₀) (KeepsStranger sock w₀) (replyFormat text) := by
  have L := @keepsStranger_calls sock w₀
  refine L.bind L.get fun s ↦ ?_
  split_ifs
  · refine L.bind (keepsStranger_mark _) fun _ ↦ within_getSession_bind fun _ hw ↦ ?_
    exact L.bind (keepsStranger_replySock hw _) fun _ ↦ L.pure _
  · exact L.fault

/-- A name may be given, as long as nobody is logged in by it. -/
theorem keepsStranger_modifyLogin {f : FtpLogin → FtpLogin}
    (hf : ∀ l, (f l).loggedIn = l.loggedIn) :
    Within (Stranger sock w₀) (KeepsStranger sock w₀) (modifyLogin f) :=
  within_modify fun w hw ↦ ⟨hw.sock_eq, hw.pasvSock, (hf _).trans hw.loggedIn, by
    have hsession := hw.session
    generalize w.st.session = s at hsession ⊢
    rw [hsession], hw.discreet⟩

/-- The command buffer is the stranger's. -/
theorem keepsStranger_modifyCommand (f : FtpCommand → FtpCommand) :
    Within (Stranger sock w₀) (KeepsStranger sock w₀) (modifyCommand f) :=
  within_modify fun w hw ↦ ⟨hw.sock_eq, hw.pasvSock, hw.loggedIn, by
    have hsession := hw.session
    generalize w.st.session = s at hsession ⊢
    rw [hsession], hw.discreet⟩

/-- To read a user name that is not there is noted, and undefined. -/
theorem keepsStranger_badUser {α : Type} (user : UserPtr) :
    Within (Stranger sock w₀) (KeepsStranger sock w₀) (badUser user : Program α) := by
  have L := @keepsStranger_calls sock w₀
  rw [badUser]
  split_ifs
  · exact L.bind (keepsStranger_mark _) fun _ ↦ L.fault
  · exact L.fault

/-! ### The commands of a stranger -/

/-- Most of the commands a stranger may give only reply. -/
theorem keepsStranger_replyOnly (msg : String) (ret : FtpRet) :
    Within (Stranger sock w₀) (KeepsStranger sock w₀) (do replyMsg msg; return ret) :=
  keepsStranger_calls.bind (keepsStranger_replyMsg msg) fun _ ↦ keepsStranger_calls.pure ret

/-- `FEAT` replies more than once. -/
theorem keepsStranger_dofeat : Within (Stranger sock w₀) (KeepsStranger sock w₀) dofeat := by
  have L := @keepsStranger_calls sock w₀
  exact L.bind (keepsStranger_replyMsg _) fun _ ↦ L.bind (keepsStranger_replyMsg _) fun _ ↦
    L.bind (keepsStranger_replyMsg _) fun _ ↦ keepsStranger_replyOnly _ _

/-- `USER` remembers the name. -/
theorem keepsStranger_douser :
    Within (Stranger sock w₀) (KeepsStranger sock w₀) (douser config) :=
  keepsStranger_calls.douser (fun msg _ ↦ keepsStranger_replyMsg msg)
    (fun _ _ text _ ↦ keepsStranger_replyFormat text)
    (fun _ hf ↦ keepsStranger_modifyLogin hf.loggedIn) fun _ ↦ keepsStranger_mark _

variable {e : Env} {w : World} {α : Type}

/-- What keeps a stranger one can be followed by anything that expects one. -/
theorem wp_keepsStranger {m : Program α} {Q : α → World → Prop}
    (hm : Within (Stranger sock w₀) (KeepsStranger sock w₀) m) (hw : Stranger sock w₀ w)
    (hQ : ∀ a w', Stranger sock w₀ w' → Q a w') : wp e m Q (fun _ ↦ StrangerOrNot sock w₀) w :=
  wp_mono (hm.wp hw) (fun a w' h ↦ hQ a w' h) fun _ _ h ↦ .inr h

/-- After a login, nothing takes the login back. -/
theorem wp_logsInSince {m : Program α}
    (hm : Within (fun w : World ↦ LogsInSince w₀ w.trace) (fun _ w' ↦ LogsInSince w₀ w'.trace) m)
    (hw : LogsInSince w₀ w.trace) :
    wp e m (fun _ ↦ StrangerOrNot sock w₀) (fun _ ↦ StrangerOrNot sock w₀) w :=
  wp_mono (hm.wp hw) (fun _ _ h ↦ .inl h) fun _ _ h ↦ .inl h

/-- `PASS` opens and changes something only once it is accepted. -/
theorem dopass_stranger (hw : Stranger sock w₀ w) :
    wp e (dopass config) (fun _ ↦ StrangerOrNot sock w₀) (fun _ ↦ StrangerOrNot sock w₀) w := by
  have L := @keepsStranger_calls sock w₀
  have hstate : ∀ pool, Within (Stranger sock w₀) (KeepsStranger sock w₀)
      (Proc.modify fun s : Process ↦ { s with statePool := some pool }) :=
    fun _ ↦ keepsStranger_modify fun _ ↦ rfl
  have hinit : ∀ rootDir, Within (Stranger sock w₀) (KeepsStranger sock w₀)
      (initVfsPool rootDir) :=
    L.initVfsPool fun rootDir ret _ ↦ L.bind (keepsStranger_modify fun _ ↦ rfl) fun _ ↦
      L.bind (keepsStranger_mark _) fun _ ↦ L.pure _
  rw [dopass, wp_bind, wp_getSession]
  simp only [hw.loggedIn, Bool.false_eq_true, if_false]
  split_ifs
  -- the anonymous login needs no answer of the system to be one
  · refine (wp_bind _ _).2 (wp_keepsStranger (keepsStranger_replyMsg _) hw fun _ w₁ hw₁ ↦ ?_)
    refine (wp_bind _ _).2 (wp_keepsStranger (hinit _) hw₁ fun _ w₂ hw₂ ↦ ?_)
    refine (wp_bind _ _).2 (wp_keepsStranger (L.initStatePool hstate) hw₂ fun _ w₃ hw₃ ↦ ?_)
    exact .inl (hw₃.logIn (x := .note (.loggedIn .anonymous)) rfl rfl)
  split
  · exact wp_keepsStranger (keepsStranger_badUser _) hw fun _ _ h ↦ .inr h
  · exact wp_keepsStranger (keepsStranger_replyOnly _ _) hw fun _ _ h ↦ .inr h
  · rename_i user huser
    refine (wp_bind _ _).2 (wp_keepsStranger (L.loginUser hstate hinit _ _) hw
      fun userId w₁ hw₁ ↦ ?_)
    split_ifs
    · exact wp_keepsStranger (keepsStranger_replyOnly _ _) hw₁ fun _ _ h ↦ .inr h
    -- a named login is one as soon as the process has become the user
    refine (wp_bind _ _).2 (wp_checked.2 (wp_sys (fun r _ ↦ ?_) (.inr hw₁)))
    obtain ⟨async, err | -⟩ := r
    · exact .inr (hw₁.append (x := .call (.setuid userId) ⟨async, .error err⟩) (.inl rfl) rfl rfl)
    · have hlogs : LogsInSince w₀ (answered w₁ (.setuid userId) ⟨async, .ok ()⟩).trace :=
        hw₁.logIn (x := .call (.setuid userId) ⟨async, .ok ()⟩) rfl rfl
      have M := persists_login (T := LogsInSince w₀) logsInSince_concat
      exact wp_logsInSince (M.bind (M.sendState (by decide) _) fun _ ↦
        M.bind M.logIn fun _ ↦ M.bind (M.loggedIn _) fun _ ↦
          M.replyMsg_pure (by decide) _ _ (by decide)) hlogs

/-- A command of the table that needs no login either keeps the stranger one, or it is `PASS` and
logs in. -/
theorem public_stranger {cmd : CmdHandler} (hcmd : cmd ∈ coreCommandList config)
    (hlogin : cmd.needsLogin = false) (hw : Stranger sock w₀ w) :
    wp e cmd.handler (fun _ ↦ StrangerOrNot sock w₀) (fun _ ↦ StrangerOrNot sock w₀) w := by
  have hkeep : ∀ {m : Program FtpRet}, Within (Stranger sock w₀) (KeepsStranger sock w₀) m →
      wp e m (fun _ ↦ StrangerOrNot sock w₀) (fun _ ↦ StrangerOrNot sock w₀) w :=
    fun hm ↦ wp_keepsStranger hm hw fun _ _ h ↦ .inr h
  have hreply : ∀ (msg : String) (ret : FtpRet), wp e (do replyMsg msg; return ret)
      (fun _ ↦ StrangerOrNot sock w₀) (fun _ ↦ StrangerOrNot sock w₀) w :=
    fun msg ret ↦ hkeep (keepsStranger_replyOnly msg ret)
  exact forall_public (Q := fun cmd ↦ wp e cmd.handler (fun _ ↦ StrangerOrNot sock w₀)
    (fun _ ↦ StrangerOrNot sock w₀) w) |>.2 ⟨hkeep keepsStranger_dofeat, hreply _ _, hreply _ _,
      dopass_stranger hw, hreply _ _, hreply _ _, hkeep keepsStranger_douser⟩ cmd hcmd hlogin

/-- `do_cmd` refuses a stranger all other commands. -/
theorem doCmd_stranger (hw : Stranger sock w₀ w) :
    wp e (doCmd config) (fun _ ↦ StrangerOrNot sock w₀) (fun _ ↦ StrangerOrNot sock w₀) w := by
  rw [doCmd, wp_bind, wp_getSession, wp_bind, wp_mark]
  have hw₁ : Stranger sock w₀ (noted w (.dispatch (cstr w.st.session.command.line)
    w.st.session.command.argument)) := hw.append (x := .note _) trivial rfl rfl
  have hreply : ∀ msg : String, wp e (do replyMsg msg; return FtpRet.success)
      (fun _ ↦ StrangerOrNot sock w₀) (fun _ ↦ StrangerOrNot sock w₀) (noted w _) :=
    fun msg ↦ wp_keepsStranger (keepsStranger_replyOnly msg _) hw₁ fun _ _ h ↦ .inr h
  refine (wp_bind _ _).2 (wp_mono (execCmd_wp (fun _ ↦ hreply _) (fun _ _ _ msg _ ↦ hreply msg)
    fun cmd hcmd hlogin _ _ ↦ ?_) ?_ fun _ _ h ↦ h)
  · rcases hneeds : cmd.needsLogin with - | -
    · exact public_stranger (mem_of_searchCommand hcmd) hneeds hw₁
    · exact absurd (hw₁.loggedIn.symm.trans (hlogin hneeds)) (by simp)
  · rintro ret w₂ (hw₂ | hw₂)
    · exact .inl (logsInSince_concat _ _ (fun _ hret ↦ by cases hret) hw₂)
    · exact .inr (hw₂.append (x := .note (.finished ret)) trivial rfl rfl)

/-! ### Sessions -/

/-- The end of a stranger's session. -/
theorem endSession_stranger (hw : Stranger sock w₀ w) :
    wp e (endSession sock) (fun _ ↦ StrangerOrNot sock w₀) (fun _ ↦ StrangerOrNot sock w₀) w := by
  refine (wp_bind _ _).2 (wp_keepsStranger (keepsStranger_reply _) hw fun _ w₁ hw₁ ↦ ?_)
  have hw₂ : Stranger sock w₀ (noted { w₁ with st := { w₁.st with
      statePool := none, vfsPool := none, replyPool := false } } (.observe .destroyed)) :=
    (hw₁.of_session rfl).append (x := .note (.observe .destroyed)) trivial rfl rfl
  exact destroySession_wp hw₁.pasvSock (fun _ ↦ .inr hw₂) fun _ ↦
    .inr (hw₂.append (x := .note (.observe .unassigned)) trivial rfl rfl)

/-- Whoever somebody is, an action is right if it is so for both. -/
theorem wp_strangerOrNot {m : Program α}
    (hstranger : Within (Stranger sock w₀) (KeepsStranger sock w₀) m)
    (hlogged : Within (fun w : World ↦ LogsInSince w₀ w.trace)
      (fun _ w' ↦ LogsInSince w₀ w'.trace) m) (hw : StrangerOrNot sock w₀ w) :
    wp e m (fun _ ↦ StrangerOrNot sock w₀) (fun _ ↦ StrangerOrNot sock w₀) w :=
  hw.elim (wp_logsInSince hlogged) fun hw ↦ wp_keepsStranger hstranger hw fun _ _ h ↦ .inr h

/-- Reading a command needs no login. -/
theorem keepsStranger_readCmd :
    Within (Stranger sock w₀) (KeepsStranger sock w₀) (readCmd config) := by
  have L := @keepsStranger_calls sock w₀
  refine L.readCmd (.inr rfl) (fun waiter ↦ ?_) keepsStranger_modifyCommand fun _ hw ↦
    keepsStranger_replySock hw _
  exact L.serverHandleSignal waiter (fun _ ↦ keepsStranger_modify fun _ ↦ rfl)
    (keepsStranger_mark _)

/-- So between two commands there is a stranger, or a login in the trace. -/
theorem commandLoop_stranger (hw : StrangerOrNot sock w₀ w) :
    wp e (commandLoop config) (fun _ ↦ StrangerOrNot sock w₀)
      (fun _ ↦ StrangerOrNot sock w₀) w := by
  have L := @keepsStranger_calls sock w₀
  have M := persists_steps (T := LogsInSince w₀) logsInSince_concat
  refine commandLoop_inv (fun _ h ↦ h) (fun w hw ↦ ?_) (fun w hw ↦ ?_) (fun w hw ↦ ?_)
    (fun w hw ↦ ?_) hw
  · refine wp_strangerOrNot keepsStranger_readCmd ?_ hw
    exact M.readCmd (by decide)
      (fun waiter ↦ (persists_handlers logsInSince_concat config).serverHandleSignal waiter trivial)
      (fun _ ↦ persists_modify _) fun _ _ ↦ M.reply (by decide) _ _ (by decide)
  · exact wp_strangerOrNot (L.parseCmd keepsStranger_modifyCommand)
      (M.parseCmd fun _ ↦ persists_modify _) hw
  · exact hw.elim (fun hw ↦ wp_logsInSince (persists_doCmd logsInSince_concat config) hw)
      doCmd_stranger
  · exact wp_strangerOrNot (L.removeCmd keepsStranger_modifyCommand)
      (M.removeCmd fun _ ↦ persists_modify _) hw

/-- **Without a login, a session touches nothing.** From its start to whatever point, a session has
accepted a `PASS`, or its object has changed in the login and the command only, and all its calls
were about the control connection or about nothing that others see. -/
theorem serveSession_stranger (config : FtpConfig) (sock : ℤ) (e : Env) (w₀ : World)
    (hsock : w₀.st.session.conn.sock = sock) (hpasv : w₀.st.session.conn.pasvSock = -1)
    (hlogin : w₀.st.session.login.loggedIn = false) :
    let w := (serveSession config sock e w₀).2
    ∃ suffix, w.trace = w₀.trace ++ suffix ∧ ((∃ x ∈ suffix, logsIn x = true) ∨
      (∀ x ∈ suffix, Discreet sock x) ∧ w.st.session =
        { w₀.st.session with login := w.st.session.login, command := w.st.session.command }) := by
  suffices h : wp e (serveSession config sock) (fun _ ↦ StrangerOrNot sock w₀)
      (fun _ ↦ StrangerOrNot sock w₀) w₀ by
    rcases wp_always.1 h with ⟨suffix, ht, hlogs⟩ | hw
    · exact ⟨suffix, ht, .inl hlogs⟩
    · obtain ⟨suffix, ht, hdiscreet⟩ := hw.discreet
      exact ⟨suffix, ht, .inr ⟨hdiscreet, hw.session⟩⟩
  have hw₀ : Stranger sock w₀ w₀ := ⟨hsock, hpasv, hlogin, rfl, .refl w₀⟩
  refine (wp_bind _ _).2 (wp_keepsStranger (keepsStranger_reply _) hw₀ fun _ w₁ hw₁ ↦ ?_)
  refine (wp_bind _ _).2 (wp_mono (commandLoop_stranger (.inr hw₁)) ?_ fun _ _ h ↦ h)
  exact fun _ w₂ hw₂ ↦ hw₂.elim
    (fun hw ↦ wp_logsInSince (persists_endSession logsInSince_concat sock) hw) endSession_stranger

/-- A process with a fresh session. -/
def freshProcess : Process :=
  { Process.initial 1 with
    replyPool := true
    session := freshSession (newConn 4 5 ⟨127, 0, 0, 1⟩ ⟨127, 0, 0, 1⟩)
      (List.replicate commandBufferSize 0) (List.replicate ftpMaxPath 0) }

/-- A client that tries some commands without a login. -/
def curiousClient : Env := clientEnv [ofString "USER bob\r\nMKD d\r\nPASV\r\nSYST\r\n"]

/-- A client that names a user, and then tries a directory, a data connection and the system: no
login happens, and only its own connection is used. -/
theorem curiousClient_stranger :
    let w := (serveSession loadDefaults 4 curiousClient (World.start freshProcess)).2
    ∃ suffix, w.trace = (World.start freshProcess : World).trace ++ suffix ∧
      ((∃ x ∈ suffix, logsIn x = true) ∨ (∀ x ∈ suffix, Discreet 4 x) ∧ w.st.session =
        { freshProcess.session with
          login := w.st.session.login, command := w.st.session.command }) :=
  serveSession_stranger loadDefaults 4 curiousClient (World.start freshProcess) rfl rfl rfl

end FtpServer
