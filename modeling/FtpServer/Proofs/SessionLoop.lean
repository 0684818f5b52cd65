import FtpServer.Proofs.CommandTable

/-!
# The main loop of a session

`control_loop` reads a command, parses it, executes it and removes it, until one of these does not
succeed; around it are the welcome and the end of the session, and `ftp_main` makes the session
first.

* `commandLoop_wp` has one assertion for each point between two of the four calls, `commandLoop_inv`
  one for all of them. `LoopRule` and `SessionRule` say what has to be shown of an invariant whose
  actions keep it: only that the commands do.
* `preCommand_wp`, `execCmd_wp` and `doCmd_wp` say what `do_cmd` does with a verb: it does not know
  it, refuses it, or executes its handler.
* `ftpMain_ends` goes from before the session to its end. What only the master can undo persists
  through all of it (`persists_ftpMain`).
-/

namespace FtpServer

open CString Effect Effect.Proc

variable {A : Topic → Prop} {O : PathOp → Prop} {P : World → Prop} {R : World → World → Prop}
  {α β τ : Type} {config : FtpConfig}

/-! ### The main loop of a session -/

namespace CallLogic

variable (L : CallLogic A P R)
include L

variable (hreply : A .reply)
include hreply

theorem preCommand (cmdDef : CmdHandler) : Within P R (preCommand cmdDef) := by
  refine L.bind L.getSession fun session ↦ ?_
  split_ifs
  all_goals first | exact L.replyMsg_pure hreply _ _ (by decide) | exact L.pure _

theorem execCmd (hhandler : ∀ cmd ∈ coreCommandList config, Within P R cmd.handler)
    (verb : Bytes) : Within P R (execCmd config verb) := by
  rw [FtpServer.execCmd]
  rcases hcmd : searchCommand (commandPool config) verb with - | cmdDef
  · exact L.replyMsg_pure hreply _ _ (by decide)
  · refine L.bind (L.preCommand hreply _) fun ret ↦ ?_
    split_ifs
    · exact L.pure _
    · exact hhandler cmdDef (mem_of_searchCommand hcmd)

theorem doCmd (hdispatch : ∀ verb argument, Within P R (mark (.dispatch verb argument)))
    (hfinished : ∀ ret, Within P R (mark (.finished ret)))
    (hhandler : ∀ cmd ∈ coreCommandList config, Within P R cmd.handler) :
    Within P R (doCmd config) :=
  L.bind L.getSession fun _ ↦ L.bind (hdispatch _ _) fun _ ↦
    L.bind (L.execCmd hreply hhandler _) fun ret ↦ L.bind (hfinished ret) fun _ ↦ L.pure ret

section Reading

variable (hcontrol : A .control)
  (hsignal : ∀ waiter, Within P R (FtpServer.serverHandleSignal waiter))
  (hcommand : ∀ f, Within P R (modifyCommand f))

omit hreply

include hcontrol hsignal in
theorem readPoll (sock : ℤ) (max : ℕ) : Within P R (readPoll config sock max) := by
  have hquit : Within P R (interruptedToQuit .readPoll) := by
    refine L.bind (L.errnoIs _) fun b ↦ ?_
    split_ifs
    · exact L.bind (hsignal _) fun _ ↦ L.pure _
    · exact L.pure _
  refine L.bind (L.checked (L.sys (.poll sock _) hcontrol)) fun r ↦ ?_
  rcases r with - | (_ | _)
  · refine L.bind hquit fun b ↦ ?_
    split_ifs <;> exact L.pure _
  · exact L.pure _
  · refine L.bind (L.checked (L.sys (.recv sock max) hcontrol)) fun r ↦ ?_
    rcases r with - | bs
    · refine L.bind hquit fun b ↦ ?_
      split_ifs
      · exact L.pure _
      · refine L.bind (L.errnoIs _) fun b ↦ ?_
        split_ifs <;> exact L.pure _
    · exact L.pure _

include hcontrol hsignal hcommand in
theorem readCmd (hlong : ∀ w : World, P w → Within P R
    (FtpServer.reply w.st.session.conn.sock (ofString "421 Command line too long\r\n"))) :
    Within P R (readCmd config) := by
  refine L.loop (fun _ ↦ within_getSession_bind fun w hw ↦ ?_) ()
  dsimp only
  split_ifs
  · exact L.pure _
  refine L.bind (L.readPoll hcontrol hsignal _ _) fun r ↦ ?_
  rcases r with - | bs
  · refine L.bind (L.errnoIs _) fun b ↦ ?_
    split_ifs
    · refine L.bind (hsignal _) fun ret ↦ ?_
      split_ifs <;> exact L.pure _
    · exact L.pure _
  · by_cases hbs : bs = []
    · simpa only [if_pos hbs] using L.pure _
    simp only [if_neg hbs]
    split
    · exact L.fault
    · refine L.bind (hcommand _) fun _ ↦ ?_
      split_ifs
      · exact L.bind (hlong w hw) fun _ ↦ L.pure _
      · exact L.pure _

include hcommand

theorem parseCmd : Within P R parseCmd := by
  refine L.bind L.getSession fun session ↦ ?_
  dsimp only
  split
  · exact L.pure _
  split
  · exact L.fault
  · exact L.bind (hcommand _) fun _ ↦ L.pure _

theorem removeCmd : Within P R removeCmd := L.bind (hcommand _) fun _ ↦ L.pure _

include hreply hcontrol hsignal

theorem commandLoop (hdoCmd : Within P R (FtpServer.doCmd config)) :
    Within P R (commandLoop config) := by
  have hlong : ∀ w : World, P w → Within P R
      (FtpServer.reply w.st.session.conn.sock (ofString "421 Command line too long\r\n")) :=
    fun _ _ ↦ L.reply hreply _ _ (by decide)
  refine L.loop (fun _ ↦ L.bind (L.readCmd hcontrol hsignal hcommand hlong) fun ret ↦ ?_) ()
  split_ifs
  · exact L.pure _
  refine L.bind (L.parseCmd hcommand) fun ret ↦ ?_
  split_ifs
  · exact L.pure _
  refine L.bind hdoCmd fun ret ↦ ?_
  split_ifs
  · exact L.pure _
  refine L.bind (L.removeCmd hcommand) fun ret ↦ ?_
  split_ifs <;> exact L.pure _

end Reading

end CallLogic

theorem StepLogic.endSession (L : StepLogic A P R) (hend : A .descriptor ∧ A .teardown)
    (hpools : ∀ f : Process → Process,
      (∀ s, (f s).session = s.session ∧ ((f s).vfsPool = s.vfsPool ∨ (f s).vfsPool = none)) →
        Within P R (Proc.modify f)) (sock : ℤ)
    (hbye : Within P R (FtpServer.reply sock (ofString "421 Goodbye!\r\n"))) :
    Within P R (endSession sock) := by
  refine L.bind hbye fun _ ↦ ?_
  refine L.bind (hpools _ fun _ ↦ ⟨rfl, .inl rfl⟩) fun _ ↦ ?_
  refine L.bind (hpools _ fun _ ↦ ⟨rfl, .inr rfl⟩) fun _ ↦ ?_
  refine L.bind (hpools _ fun _ ↦ ⟨rfl, .inl rfl⟩) fun _ ↦ ?_
  refine L.bind (L.observe .destroyed hend.2 (by decide)) fun _ ↦ ?_
  refine within_getSession_bind fun w hw ↦ ?_
  dsimp only
  split_ifs
  · exact L.bind (L.close hend.1 _) fun _ ↦ L.badUser hw
  · exact L.bind (L.close hend.1 _) fun _ ↦ L.pure _
  · exact L.badUser hw
  · exact L.pure _

/-- The end of a session without a listening socket. -/
theorem destroySession_wp {Q : Unit → World → Prop} {H : Halt → World → Prop} {e : Env} {w : World}
    (hpasv : w.st.session.conn.pasvSock = -1)
    (hret : w.st.session.login.user ≠ .indeterminate → Q () (noted w (.observe .destroyed)))
    (hfault : w.st.session.login.user = .indeterminate →
      H .fault (noted (noted w (.observe .destroyed)) (.observe .unassigned))) :
    wp e destroySession Q H w := by
  rw [destroySession, observe, wp_bind, wp_mark, wp_bind, wp_getSession]
  split_ifs with huser hsock hsock
  · exact absurd hpasv hsock
  · rw [show (noted w (.observe .destroyed)).st.session.login.user = .indeterminate from huser]
    exact hfault huser
  · exact absurd hpasv hsock
  · exact hret huser

/-- The replies of `pre_command`. -/
def refusals : List String :=
  ["530 You're not logged in\r\n", "425 Cannot open data connection\r\n",
    "501 Missing argument\r\n"]

theorem completeReply_refusal : ∀ msg ∈ refusals, CompleteReply (ofString msg) := by decide

section ExecCmd

variable {Q : FtpRet → World → Prop} {H : Halt → World → Prop} {e : Env} {w : World}

/-- `pre_command` does nothing where it succeeds. -/
theorem preCommand_wp (cmdDef : CmdHandler)
    (hok : (cmdDef.needsLogin = true → w.st.session.login.loggedIn = true) →
      (cmdDef.needsData = true → w.st.session.conn.pasvSock ≠ -1) →
      (cmdDef.needsArg = true → w.st.session.command.argument ≠ []) → Q .success w)
    (hfail : (cmdDef.needsLogin || cmdDef.needsData || cmdDef.needsArg) = true →
      ∀ msg ∈ refusals, wp e (do replyMsg msg; return FtpRet.error) Q H w) :
    wp e (preCommand cmdDef) Q H w := by
  rw [preCommand, wp_bind, wp_getSession]
  split_ifs with hlogin hdata harg
  · refine hfail ?_ _ (by decide)
    simp [(Bool.and_eq_true_iff.1 hlogin).1]
  · refine hfail ?_ _ (by decide)
    simp only [Bool.and_eq_true, decide_eq_true_eq] at hdata
    simp [hdata.1]
  · refine hfail ?_ _ (by decide)
    simp only [Bool.and_eq_true, decide_eq_true_eq] at harg
    simp [harg.1]
  · refine hok (fun h ↦ ?_) (fun h hsock ↦ ?_) fun h hnil ↦ ?_
    · simpa [h] using hlogin
    · simp [h, hsock] at hdata
    · simp [h, hnil] at harg

/-- **What `do_cmd` does with a verb**: it does not know it, refuses it, or executes its handler. -/
theorem execCmd_wp {verb : Bytes}
    (hunknown : searchCommand (commandPool config) verb = none →
      wp e (do replyMsg "500 ?\r\n"; return FtpRet.success) Q H w)
    (hrefused : ∀ cmd, searchCommand (commandPool config) verb = some cmd →
      (cmd.needsLogin || cmd.needsData || cmd.needsArg) = true → ∀ msg ∈ refusals,
        wp e (do replyMsg msg; return FtpRet.success) Q H w)
    (hhandler : ∀ cmd, searchCommand (commandPool config) verb = some cmd →
      (cmd.needsLogin = true → w.st.session.login.loggedIn = true) →
      (cmd.needsData = true → w.st.session.conn.pasvSock ≠ -1) →
      (cmd.needsArg = true → w.st.session.command.argument ≠ []) → wp e cmd.handler Q H w) :
    wp e (execCmd config verb) Q H w := by
  rw [execCmd]
  rcases hcmd : searchCommand (commandPool config) verb with - | cmd
  · exact hunknown hcmd
  · refine (wp_bind _ _).2 (preCommand_wp cmd (hhandler cmd hcmd) fun hneeds msg hmsg ↦ ?_)
    simpa only [wp_bind, wp_pure, ne_eq, reduceCtorEq, not_false_eq_true, if_true] using
      hrefused cmd hcmd hneeds msg hmsg

/-- The same for `do_cmd` with its notes. -/
theorem doCmd_wp {T : FtpRet → World → Prop} {w₁ : World}
    (hw₁ : w₁ = noted w (.dispatch (cstr w.st.session.command.line) w.st.session.command.argument))
    (hunknown : wp e (do replyMsg "500 ?\r\n"; return FtpRet.success) Q H w₁)
    (hrefused : ∀ msg ∈ refusals, wp e (do replyMsg msg; return FtpRet.success) Q H w₁)
    (hhandler : ∀ cmd ∈ coreCommandList config,
      (cmd.needsLogin = true → w₁.st.session.login.loggedIn = true) → wp e cmd.handler Q H w₁)
    (hfinished : ∀ ret w', Q ret w' → T ret (noted w' (.finished ret))) :
    wp e (doCmd config) T H w := by
  subst hw₁
  rw [doCmd, wp_bind, wp_getSession, wp_bind, wp_mark]
  refine (wp_bind _ _).2 (wp_mono (execCmd_wp (fun _ ↦ hunknown) (fun _ _ _ ↦ hrefused)
    fun cmd hcmd hlogin _ _ ↦ ?_) hfinished fun _ _ h ↦ h)
  exact hhandler cmd (mem_of_searchCommand hcmd) hlogin

end ExecCmd

/-! ### What has happened stays so -/

/-- An entry that a session can make: it is about nothing that is the master's to do. -/
def OfSession : Item kernel → Prop
  | .call c _ => (c : Call).topic ≠ .master
  | .note n => ∀ ret, n ≠ .handled ret

section Persists

variable {T : List (Item kernel) → Prop}

theorem persists_guard :
    Guard (fun w : World ↦ T w.trace) fun _ (w' : World) ↦ T w'.trace :=
  guard_inv _

theorem persists_modify (f : Process → Process) :
    Within (fun w : World ↦ T w.trace) (fun _ w' ↦ T w'.trace) (Proc.modify f) :=
  within_modify fun _ hw ↦ hw

variable (hT : ∀ trace x, OfSession x → T trace → T (trace ++ [x]))
include hT

theorem persists_mark {n : Note} (hn : ∀ ret, n ≠ .handled ret) :
    Within (fun w : World ↦ T w.trace) (fun _ w' ↦ T w'.trace) (mark n) :=
  within_mark fun _ hw ↦ hT _ _ hn hw

theorem persists_steps :
    StepLogic (· ≠ .master) (fun w : World ↦ T w.trace) fun _ w' ↦ T w'.trace where
  toCallLogic := .of_observe persists_guard (by decide) (by decide)
    (fun _ hc ↦ within_sys persists_guard fun _ _ hw ↦ hT _ _ hc hw)
    (fun _ ↦ persists_modify _) fun _ _ ↦ persists_mark hT nofun
  statePool _ _ := persists_modify _
  modifySession _ _ := persists_modify _
  undefined _ _ _ _ := persists_mark hT nofun

theorem persists_handlers (config : FtpConfig) :
    TransferLogic (· ≠ .master) (fun _ ↦ True) (fun _ ↦ True) config
      (fun w : World ↦ T w.trace) fun _ w' ↦ T w'.trace where
  process := by decide
  name := by decide
  progress := by decide
  toDirectoryLogic := .of_steps (persists_steps hT) (by decide)
    (fun _ _ _ ↦ (persists_steps hT).sys _ (by simp [Call.topic])) (fun _ ↦ persists_modify _)
    (fun _ ↦ persists_modify _) (persists_modify _)
    ((persists_steps hT).trimArgument fun _ ↦ persists_modify _)
    ((persists_steps hT).listArgument fun _ ↦ persists_modify _)
  serverHandleSignal waiter _ := (persists_steps hT).serverHandleSignal waiter
    (fun _ ↦ persists_modify _) (persists_mark hT nofun)

theorem persists_login :
    LoginLogic (· ≠ .master) (fun w : World ↦ T w.trace) fun _ w' ↦ T w'.trace where
  toStepLogic := persists_steps hT
  process := by decide
  rename _ _ := persists_modify _
  logIn := persists_modify _
  named _ := persists_mark hT nofun
  loggedIn _ := persists_mark hT nofun
  initVfsPool := (persists_steps hT).initVfsPool fun _ _ _ _ _ hw ↦ hT _ _ nofun hw

theorem persists_doCmd (config : FtpConfig) :
    Within (fun w : World ↦ T w.trace) (fun _ w' ↦ T w'.trace) (doCmd config) :=
  (persists_steps hT).doCmd (by decide) (fun _ _ ↦ persists_mark hT nofun)
    (fun _ ↦ persists_mark hT nofun)
    fun _ hcmd ↦ handler_within (persists_handlers hT config) (persists_login hT)
      (by decide) hcmd

theorem persists_endSession (sock : ℤ) :
    Within (fun w : World ↦ T w.trace) (fun _ w' ↦ T w'.trace) (endSession sock) :=
  (persists_steps hT).endSession (by decide) (fun _ _ ↦ persists_modify _) sock
    ((persists_steps hT).reply (by decide) _ _ (by decide))

end Persists

/-! ### A whole session -/

/-- One of the four calls of the main loop. -/
theorem wp_stage {J T : World → Prop} {H : Halt → World → Prop} {Q : Unit ⊕ Unit → World → Prop}
    {e : Env} {w : World} {m : Program FtpRet} {f : Program (Unit ⊕ Unit)}
    (hm : wp e m (fun ret w' ↦ if ret = .success then J w' else T w') H w)
    (hf : ∀ w', J w' → wp e f Q H w') (hT : ∀ w', T w' → Q (.inr ()) w') :
    wp e (m >>= fun ret ↦ if ret ≠ .success then pure (.inr ()) else f) Q H w := by
  rw [wp_bind]
  refine wp_mono hm (fun ret w' h ↦ ?_) fun _ _ h ↦ h
  by_cases hret : ret = .success
  · rw [if_pos hret] at h
    rw [if_neg (not_not.2 hret)]
    exact hf w' h
  · rw [if_neg hret] at h
    rw [if_pos hret]
    exact hT w' h

/-- The rule for the main loop, with one assertion for each point between two of its four calls. A
round that does not succeed ends the loop with `T`. -/
theorem commandLoop_wp (I J K M : World → Prop) {T : World → Prop} {H : Halt → World → Prop}
    {e : Env} {w : World} (hblock : ∀ w, I w → H .blocked w)
    (hread : ∀ w, I w →
      wp e (readCmd config) (fun ret w' ↦ if ret = .success then J w' else T w') H w)
    (hparse : ∀ w, J w → wp e parseCmd (fun ret w' ↦ if ret = .success then K w' else T w') H w)
    (hdo : ∀ w, K w →
      wp e (doCmd config) (fun ret w' ↦ if ret = .success then M w' else T w') H w)
    (hremove : ∀ w, M w → wp e removeCmd (fun ret w' ↦ if ret = .success then I w' else T w') H w)
    (hw : I w) : wp e (commandLoop config) (fun _ ↦ T) H w := by
  refine wp_loop (fun _ ↦ I) (fun _ w hw ↦ ?_) (fun _ ↦ hblock) hw
  refine wp_stage (hread w hw) (fun w₁ h₁ ↦ ?_) fun _ h ↦ h
  refine wp_stage (hparse w₁ h₁) (fun w₂ h₂ ↦ ?_) fun _ h ↦ h
  refine wp_stage (hdo w₂ h₂) (fun w₃ h₃ ↦ ?_) fun _ h ↦ h
  exact wp_stage (hremove w₃ h₃) (fun _ h ↦ h) fun _ h ↦ h

/-- The rule for an invariant `Inv` of the main loop, where `Mid` holds at every point. -/
theorem commandLoop_inv {Inv Mid : World → Prop} {e : Env} {w : World}
    (hmid : ∀ w, Inv w → Mid w)
    (hread : ∀ w, Inv w → wp e (readCmd config) (fun _ ↦ Inv) (fun _ ↦ Mid) w)
    (hparse : ∀ w, Inv w → wp e parseCmd (fun _ ↦ Inv) (fun _ ↦ Mid) w)
    (hdo : ∀ w, Inv w → wp e (doCmd config) (fun _ ↦ Inv) (fun _ ↦ Mid) w)
    (hremove : ∀ w, Inv w → wp e removeCmd (fun _ ↦ Inv) (fun _ ↦ Mid) w) (hw : Inv w) :
    wp e (commandLoop config) (fun _ ↦ Inv) (fun _ ↦ Mid) w := by
  have hstage : ∀ {m : Program FtpRet} {w : World}, wp e m (fun _ ↦ Inv) (fun _ ↦ Mid) w →
      wp e m (fun ret w' ↦ if ret = .success then Inv w' else Inv w') (fun _ ↦ Mid) w :=
    fun h ↦ wp_mono h (fun ret w' h ↦ by rwa [ite_self]) fun _ _ h ↦ h
  exact commandLoop_wp Inv Inv Inv Inv hmid (fun w hw ↦ hstage (hread w hw))
    (fun w hw ↦ hstage (hparse w hw)) (fun w hw ↦ hstage (hdo w hw))
    (fun w hw ↦ hstage (hremove w hw)) hw

/-- An invariant of the main loop that its actions keep: what has to be shown besides is that the
commands keep it. -/
structure LoopRule (A : Topic → Prop) (P : World → Prop) (K : World → World → Prop)
    (config : FtpConfig) (e : Env) (Inv Mid : World → Prop) : Prop
    extends CallLogic A P K, Keeps P K Inv Mid where
  control : A .control
  tooLong : ∀ w : World, P w → Within P K
    (FtpServer.reply w.st.session.conn.sock (ofString "421 Command line too long\r\n"))
  signal : ∀ waiter, Within P K (serverHandleSignal waiter)
  command : ∀ f, Within P K (modifyCommand f)
  doCmd : ∀ w, Inv w → wp e (doCmd config) (fun _ ↦ Inv) (fun _ ↦ Mid) w

namespace LoopRule

variable {K : World → World → Prop} {Inv Mid : World → Prop} {e : Env} {w : World}
  (L : LoopRule A P K config e Inv Mid)
include L

theorem keeps {m : Program α} (hm : Within P K m) (hw : Inv w) :
    wp e m (fun _ ↦ Inv) (fun _ ↦ Mid) w :=
  L.toKeeps.wp hm hw fun _ _ h ↦ h

theorem commandLoop (hw : Inv w) : wp e (commandLoop config) (fun _ ↦ Inv) (fun _ ↦ Mid) w :=
  commandLoop_inv L.mid
    (fun _ hw ↦ L.keeps (L.readCmd L.control L.signal L.command L.tooLong) hw)
    (fun _ hw ↦ L.keeps (L.parseCmd L.command) hw) L.doCmd
    (fun _ hw ↦ L.keeps (L.removeCmd L.command) hw) hw

/-- The whole session, given how it ends. -/
theorem serveSession {sock : ℤ} {Q : Unit → World → Prop}
    (hwelcome : Within P K (FtpServer.reply sock (ofString "220 Welcome\r\n")))
    (hend : ∀ w, Inv w → wp e (FtpServer.endSession sock) Q (fun _ ↦ Mid) w) (hw : Inv w) :
    wp e (FtpServer.serveSession config sock) Q (fun _ ↦ Mid) w := by
  refine (wp_bind _ _).2 (wp_mono (L.keeps hwelcome hw) ?_ fun _ _ h ↦ h)
  refine fun _ w₁ hw₁ ↦ (wp_bind _ _).2 (wp_mono (L.commandLoop hw₁) ?_ fun _ _ h ↦ h)
  exact fun _ w₂ hw₂ ↦ hend w₂ hw₂

end LoopRule

/-- Such an invariant of a whole session. -/
structure SessionRule (A : Topic → Prop) (P : World → Prop) (K : World → World → Prop)
    (config : FtpConfig) (sock : ℤ) (e : Env) (Inv Mid : World → Prop) : Prop
    extends LoopRule A P K config e Inv Mid where
  welcome : Within P K (FtpServer.reply sock (ofString "220 Welcome\r\n"))
  endSession : ∀ w, Inv w → wp e (endSession sock) (fun _ ↦ Mid) (fun _ ↦ Mid) w

theorem SessionRule.serveSession {K : World → World → Prop} {Inv Mid : World → Prop} {sock : ℤ}
    {e : Env} {w : World} (L : SessionRule A P K config sock e Inv Mid) (hw : Inv w) :
    wp e (FtpServer.serveSession config sock) (fun _ ↦ Mid) (fun _ ↦ Mid) w :=
  L.toLoopRule.serveSession L.welcome L.endSession hw

section Session

variable {S T : World → Prop} {e : Env} {w : World}
  (L : CallLogic (· = .other) S fun _ ↦ S)
include L

omit L in
/-- Before there is a session, calls have to be looked at only. -/
theorem startup_calls
    (hsys : ∀ w (c : Call) (r : Answer c), c.topic = .other → S w → S (answered w c r))
    (herrno : ∀ w err, S w → S (withErrno w err)) : CallLogic (· = .other) S fun _ ↦ S := by
  refine .of_observe (guard_inv S) rfl (by decide)
    (fun c hc ↦ within_sys (guard_inv S) fun w r hw ↦ hsys w c r hc hw)
    (fun err ↦ within_setErrno fun w hw ↦ herrno w err hw) fun o ho ↦ ?_
  cases o <;> cases ho

/-- The connection `new_session` starts with. -/
def newConn (sock writePipe : ℤ) (hostAddr clientAddr : InAddr) : FtpConn :=
  { masterPipe := writePipe, sock, pasvSock := -1, dataSock := -1, hostAddr, clientAddr }

/-- Before there is a session, `ftp_main` only makes calls; `new_session` makes a fresh one. -/
theorem newSession_wp (hw : S w) (sock writePipe : ℤ) :
    wp e (newSession sock writePipe)
      (fun ok w' ↦ if ok then ∃ (w₁ : World) (host client : InAddr) (line virtPath : Bytes),
          S w₁ ∧ line.length = commandBufferSize ∧ virtPath.length = ftpMaxPath ∧
          w' = { w₁ with st := { w₁.st with
            session := freshSession (newConn sock writePipe host client) line virtPath } }
        else S w')
      (fun _ ↦ S) w := by
  rw [newSession, wp_bind]
  refine wp_mono ((L.sys (.malloc ftpSessionSize) rfl).wp hw) ?_ fun _ _ h ↦ h
  rintro (_ | block) w₁ hw₁
  · exact hw₁
  rw [wp_bind]
  refine wp_mono ((L.checked (L.sys (.getpeername sock) rfl)).wp hw₁) ?_ fun _ _ h ↦ h
  rintro (_ | clientAddr) w₂ hw₂
  · exact hw₂
  rw [wp_bind]
  refine wp_mono ((L.checked (L.sys (.getsockname sock) rfl)).wp hw₂) ?_ fun _ _ h ↦ h
  rintro (_ | hostAddr) w₃ hw₃
  · exact hw₃
  dsimp only
  rw [allocSession, wp_bind]
  refine wp_mono ((L.sys (.malloc commandBufferSize) rfl).wp hw₃) ?_ fun _ _ h ↦ h
  rintro (_ | line) w₄ hw₄
  · exact hw₄
  rw [wp_bind]
  refine wp_mono ((L.sys (.malloc ftpMaxPath) rfl).wp hw₄) ?_ fun _ _ h ↦ h
  rintro (_ | virtPath) w₅ hw₅
  · exact hw₅
  rw [wp_bind]
  refine wp_mono ((L.sys (.malloc ftpMaxName) rfl).wp hw₅) ?_ fun _ _ h ↦ h
  rintro (_ | filename) w₆ hw₆
  · exact hw₆
  exact ⟨w₆, _, _, line.1, virtPath.1, hw₆, line.2, virtPath.2, rfl⟩

/-- The rule for `ftp_main`: `S` before there is a session, `Inv` once there is one, `Q` where it
returns, and `T` where it stops. -/
theorem ftpMain_ends {Q : World → Prop} (sock writePipe : ℤ) (Inv : World → Prop)
    (hreply : ∀ (w : World) b, S w → S { w with st := { w.st with replyPool := b } })
    (hfresh : ∀ (w : World) host client line virtPath, S w → line.length = commandBufferSize →
      virtPath.length = ftpMaxPath → Inv { w with st := { w.st with
        session := freshSession (newConn sock writePipe host client) line virtPath } })
    (hserve : ∀ w, Inv w → wp e (serveSession config sock) (fun _ ↦ Q) (fun _ ↦ T) w)
    (hend : ∀ w, S w → Q w ∧ T w) (hw : S w) :
    wp e (ftpMain config sock writePipe) (fun _ ↦ Q) (fun _ ↦ T) w := by
  rw [ftpMain, initReplyPool, wp_bind, wp_bind]
  refine wp_mono ((L.sys (.malloc responseBufferSize) rfl).wp hw) ?_ fun _ w' h ↦ (hend w' h).2
  rintro (_ | block) w₁ hw₁
  · exact (hend w₁ hw₁).1
  simp only [wp_bind, wp_modify, wp_pure, ne_eq, not_true_eq_false, if_false]
  refine wp_mono (newSession_wp L (hreply w₁ true hw₁) sock writePipe) ?_ fun _ w' h ↦ (hend w' h).2
  rintro (_ | _) w₂ h₂
  · exact (hend _ (hreply w₂ false h₂)).1
  · obtain ⟨w₃, host, client, line, virtPath, hw₃, hline, hvirt, rfl⟩ := h₂
    exact hserve _ (hfresh w₃ host client line virtPath hw₃ hline hvirt)

/-- The same with `T` at every end. -/
theorem ftpMain_wp (sock writePipe : ℤ) (Inv : World → Prop)
    (hreply : ∀ (w : World) b, S w → S { w with st := { w.st with replyPool := b } })
    (hfresh : ∀ (w : World) host client line virtPath, S w → line.length = commandBufferSize →
      virtPath.length = ftpMaxPath → Inv { w with st := { w.st with
        session := freshSession (newConn sock writePipe host client) line virtPath } })
    (hserve : ∀ w, Inv w → wp e (serveSession config sock) (fun _ ↦ T) (fun _ ↦ T) w)
    (hend : ∀ w, S w → T w) (hw : S w) :
    wp e (ftpMain config sock writePipe) (fun _ ↦ T) (fun _ ↦ T) w :=
  ftpMain_ends L sock writePipe Inv hreply hfresh hserve (fun w h ↦ ⟨hend w h, hend w h⟩) hw

end Session

/-- What only the master can undo persists through a whole session. -/
theorem persists_ftpMain {T : List (Item kernel) → Prop}
    (hT : ∀ trace x, OfSession x → T trace → T (trace ++ [x])) (sock writePipe : ℤ) :
    Within (fun w : World ↦ T w.trace) (fun _ w' ↦ T w'.trace) (ftpMain config sock writePipe) := by
  have L := persists_steps hT
  have hloop : ∀ e, SessionRule (· ≠ .master) (fun w : World ↦ T w.trace) (fun _ w' ↦ T w'.trace)
      config sock e (fun w ↦ T w.trace) fun w ↦ T w.trace := fun e ↦
    { toCallLogic := L.toCallLogic
      assume := fun _ h ↦ h
      keepInv := fun _ _ _ h ↦ h
      mid := fun _ h ↦ h
      control := by decide
      tooLong := fun _ _ ↦ L.reply (by decide) _ _ (by decide)
      signal := fun waiter ↦ (persists_handlers hT config).serverHandleSignal waiter trivial
      command := fun _ ↦ persists_modify _
      doCmd := fun _ hw ↦ (persists_doCmd hT config).wp hw
      welcome := L.reply (by decide) _ _ (by decide)
      endSession := fun _ hw ↦ (persists_endSession hT sock).wp hw }
  have hcalls : CallLogic (· = .other) (fun w : World ↦ T w.trace) fun _ w' ↦ T w'.trace :=
    startup_calls (fun w c r hc hw ↦ hT _ _ (by simp [OfSession, hc]) hw) fun _ _ hw ↦ hw
  refine within_iff_wp.2 fun e w hw ↦ ?_
  exact ftpMain_wp hcalls sock writePipe (fun w ↦ T w.trace) (fun _ _ h ↦ h)
    (fun _ _ _ _ _ h _ _ ↦ h) (fun w hw ↦ (hloop e).serveSession hw) (fun _ h ↦ h) hw

end FtpServer
