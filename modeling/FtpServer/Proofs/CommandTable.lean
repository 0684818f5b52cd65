import FtpServer.Proofs.TransferHandlers

/-!
# The login and the command table

* `LoginLogic` has the actions of `USER` and `PASS`, which change the login and make the pools.
* The table is searched by name without regard to case, and no two of its names are the same in this
  sense. So a verb finds an entry if and only if it is its name (`searchCommand_eq`).
* `forall_handler` lists what has to be shown of a property of the handlers. The rules after it
  leave out the handlers that are made of the actions of a logic; with all actions there is nothing
  left to show (`handler_within`).
-/

namespace FtpServer

open CString Effect Effect.Proc

variable {A : Topic → Prop} {O : PathOp → Prop} {P : World → Prop} {R : World → World → Prop}
  {α β τ : Type} {config : FtpConfig}

/-! ### The login -/

/-- What `USER` does to the login: it names somebody. -/
structure Renames (f : FtpLogin → FtpLogin) : Prop where
  loggedIn : ∀ l, (f l).loggedIn = l.loggedIn
  user : ∀ l, (f l).user = .indeterminate → l.user = .indeterminate

/-- `USER`, given what it replies with and does to the login. -/
theorem CallLogic.douser (L : CallLogic A P R)
    (hsay : ∀ msg : String, CompleteReply (ofString msg) → Within P R (FtpServer.replyMsg msg))
    (hformat : ∀ w : World, P w → ∀ text, Formatted w.st.session text →
      Within P R (FtpServer.replyFormat text))
    (hrename : ∀ f, Renames f → Within P R (modifyLogin f))
    (hnamed : ∀ who, Within P R (mark (.named who))) : Within P R (FtpServer.douser config) := by
  refine within_getSession_bind fun w hw ↦ ?_
  have hnull := hrename ({ · with user := .null }) ⟨fun _ ↦ rfl, fun _ h ↦ by cases h⟩
  dsimp only
  split_ifs
  · exact L.bind (hsay _ (by decide)) fun _ ↦ L.pure _
  · exact L.bind hnull fun _ ↦ L.bind (hsay _ (by decide)) fun _ ↦ L.pure _
  · exact L.bind hnull fun _ ↦ L.bind (hsay _ (by decide)) fun _ ↦ L.bind (hnamed _) fun _ ↦
      L.bind (hrename _ ⟨fun _ ↦ rfl, fun _ h ↦ h⟩) fun _ ↦ L.pure _
  · refine L.bind hnull fun _ ↦ L.bind (L.sysOther rfl) fun r ↦ ?_
    rcases r with - | block
    · exact L.pure _
    · refine L.bind (hrename _ ⟨fun _ ↦ rfl, fun _ h ↦ by cases h⟩) fun _ ↦ ?_
      exact L.bind (hformat w hw _ fun harg _ ↦ completeReply_user harg) fun _ ↦
        L.bind (hnamed _) fun _ ↦ L.pure _

/-- The actions of `USER` and `PASS`. -/
structure LoginLogic (A : Topic → Prop) (P : World → Prop) (R : World → World → Prop) : Prop
    extends StepLogic A P R where
  process : A .process
  rename : ∀ f, Renames f → Within P R (modifyLogin f)
  logIn : Within P R (modifyLogin ({ · with loggedIn := true }))
  named : ∀ who, Within P R (mark (.named who))
  loggedIn : ∀ who, Within P R (mark (.loggedIn who))
  initVfsPool : ∀ rootDir, Within P R (FtpServer.initVfsPool rootDir)

namespace LoginLogic

variable (L : LoginLogic A P R) (hreply : A .reply)
include L hreply

/-- `USER` may be given at any time before the login. -/
theorem douser : Within P R (douser config) :=
  CallLogic.douser L.toCallLogic (fun msg hmsg ↦ L.replyMsg hreply msg hmsg)
    (L.replyFormat hreply) L.rename L.named

/-- `PASS` is the one command that makes the pools. -/
theorem dopass : Within P R (dopass config) := by
  refine within_getSession_bind fun w hw ↦ ?_
  split_ifs
  · exact L.replyMsg_pure hreply _ _ (by decide)
  · exact L.bind (L.replyMsg hreply _ (by decide)) fun _ ↦ L.bind (L.initVfsPool _) fun _ ↦
      L.bind (L.initStatePool (L.statePool L.process)) fun _ ↦ L.bind L.logIn fun _ ↦
        L.bind (L.loggedIn _) fun _ ↦ L.pure _
  split
  · exact L.badUser hw
  · exact L.replyMsg_pure hreply _ _ (by decide)
  · refine L.bind (L.loginUser (L.statePool L.process) L.initVfsPool _ _) fun userId ↦ ?_
    split_ifs
    · exact L.replyMsg_pure hreply _ _ (by decide)
    refine L.bind (L.checked (L.sysOther rfl)) fun r ↦ ?_
    rcases r with - | -
    · exact L.pure _
    · exact L.bind (L.sendState L.process _) fun _ ↦ L.bind L.logIn fun _ ↦
        L.bind (L.loggedIn _) fun _ ↦ L.replyMsg_pure hreply _ _ (by decide)

end LoginLogic

/-! ### The command table -/

/-- Sorting the table loses no command. -/
theorem mem_commandPool {cmd : CmdHandler} :
    cmd ∈ commandPool config ↔ cmd ∈ coreCommandList config := by
  rw [commandPool, List.mem_insertionSort]

/-- What is found is in the table. -/
theorem mem_of_searchCommand {key : Bytes} {cmd : CmdHandler}
    (h : searchCommand (commandPool config) key = some cmd) : cmd ∈ coreCommandList config := by
  rw [searchCommand] at h
  exact mem_commandPool.1 (List.mem_of_find?_eq_some h)

/-- What is equal to one name compares to the others as that name does. -/
theorem strcaseeq_of_name {verb : Bytes} {name other : String}
    (h : strcaseeq verb (ofString name) = true) :
    strcaseeq verb (ofString other) = strcaseeq (ofString name) (ofString other) := by
  simp only [strcaseeq, decide_eq_true_eq] at h ⊢
  rw [h]

/-- And has the name that was searched for. -/
theorem name_of_searchCommand {verb : Bytes} {cmd : CmdHandler}
    (h : searchCommand (commandPool config) verb = some cmd) :
    strcaseeq verb (ofString cmd.name) = true := by
  rw [searchCommand] at h
  exact List.find?_some (p := fun cmd : CmdHandler ↦ strcaseeq verb (ofString cmd.name)) h

/-- No two names of the table are the same to `strcasecmp`. -/
theorem commandNames_nodup :
    ((coreCommandList config).map fun cmd ↦ (ofString cmd.name).map tolower).Nodup := by
  simp only [coreCommandList, List.map_cons, List.map_nil]
  decide

/-- A name of the table finds its own entry. -/
theorem searchCommand_eq {cmd : CmdHandler} (hcmd : cmd ∈ coreCommandList config) {verb : Bytes}
    (hverb : strcaseeq verb (ofString cmd.name) = true) :
    searchCommand (commandPool config) verb = some cmd := by
  rcases hfound : searchCommand (commandPool config) verb with - | cmd'
  · rw [searchCommand, List.find?_eq_none] at hfound
    exact absurd hverb (hfound cmd (mem_commandPool.2 hcmd))
  · have hverb' := name_of_searchCommand hfound
    have hmem' := mem_of_searchCommand hfound
    simp only [strcaseeq, decide_eq_true_eq] at hverb hverb'
    exact congrArg some (List.inj_on_of_nodup_map commandNames_nodup hmem' hcmd
      (hverb'.symm.trans hverb))

/-- What does not find an entry has not its name. -/
theorem strcaseeq_eq_false {cmd : CmdHandler} (hcmd : cmd ∈ coreCommandList config) {verb : Bytes}
    (hne : searchCommand (commandPool config) verb ≠ some cmd) :
    strcaseeq verb (ofString cmd.name) = false := by
  by_contra h
  exact hne (searchCommand_eq hcmd (by simpa using h))

/-- The commands that need no login. -/
theorem forall_public {Q : CmdHandler → Prop} :
    (∀ cmd ∈ coreCommandList config, cmd.needsLogin = false → Q cmd) ↔
      Q ⟨"FEAT", dofeat, false, false, false⟩ ∧ Q ⟨"NOOP", donoop, false, false, false⟩ ∧
      Q ⟨"OPTS", doopts, false, false, false⟩ ∧ Q ⟨"PASS", dopass config, false, false, false⟩ ∧
      Q ⟨"QUIT", doquit, false, false, false⟩ ∧ Q ⟨"SYST", dosyst, false, false, false⟩ ∧
      Q ⟨"USER", douser config, false, false, false⟩ := by
  simp only [coreCommandList, List.forall_mem_cons, List.not_mem_nil, false_imp_iff, implies_true,
    and_true, Bool.true_eq_false, true_and, forall_const]

/-- What has to be shown of the handlers, one for each entry of the table. -/
theorem forall_handler {Q : String → Program FtpRet → Prop} :
    (∀ cmd ∈ coreCommandList config, Q cmd.name cmd.handler) ↔
      Q "ABOR" doabor ∧ Q "ACCT" doacct ∧ Q "ALLO" doallo ∧ Q "CDUP" (docdup config) ∧
      Q "CLNT" doclnt ∧ Q "CWD" (docwd config) ∧ Q "FEAT" dofeat ∧ Q "LIST" (dolist config) ∧
      Q "MDTM" (domdtm config) ∧ Q "MKD" domkd ∧ Q "NOOP" donoop ∧ Q "OPTS" doopts ∧
      Q "PASS" (dopass config) ∧ Q "PASV" (dopasv config) ∧ Q "PWD" dopwd ∧ Q "QUIT" doquit ∧
      Q "REST" dorest ∧ Q "DELE" dodele ∧ Q "RETR" (doretr config) ∧ Q "RMD" dormd ∧
      Q "SIZE" (dosize config) ∧ Q "SYST" dosyst ∧ Q "TYPE" dotype ∧ Q "USER" (douser config) ∧
      Q "STOR" (dostor config) := by
  simp only [coreCommandList, List.forall_mem_cons, List.not_mem_nil, false_imp_iff, implies_true,
    and_true]

/-- What has to be shown of the commands, if it holds of those whose handlers are made of calls,
replies and path operations on names: the nine others. -/
theorem HandlerLogic.forall_command (L : HandlerLogic A O config P R) (hreply : A .reply)
    (hmkdir : O (.mkdir 0o777)) (hrmdir : O .rmdir) (hunlink : O .unlink)
    {Q : String → Program FtpRet → Prop} (hQ : ∀ name h, Within P R h → Q name h)
    (huser : Q "USER" (douser config)) (hpass : Q "PASS" (dopass config))
    (hcwd : Q "CWD" (FtpServer.docwd config)) (hcdup : Q "CDUP" (FtpServer.docdup config))
    (hpasv : Q "PASV" (FtpServer.dopasv config)) (hrest : Q "REST" FtpServer.dorest)
    (hlist : Q "LIST" (dolist config)) (hretr : Q "RETR" (doretr config))
    (hstor : Q "STOR" (dostor config)) {cmd : CmdHandler} (hcmd : cmd ∈ coreCommandList config) :
    Q cmd.name cmd.handler := by
  have hsay : ∀ (name msg : String) (ret : FtpRet), CompleteReply (ofString msg) →
      Q name (do replyMsg msg; return ret) :=
    fun name msg ret h ↦ hQ name _ (L.replyOnly hreply msg ret h)
  refine FtpServer.forall_handler.2 ⟨hsay _ _ _ (by decide), hsay _ _ _ (by decide),
    hsay _ _ _ (by decide), hcdup, hsay _ _ _ (by decide),
    hcwd, hQ _ _ (L.dofeat hreply), hlist, hQ _ _ (L.domdtm hreply),
    hQ _ _ (L.domkd hreply hmkdir), hsay _ _ _ (by decide), hsay _ _ _ (by decide), hpass, hpasv,
    hQ _ _ (L.dopwd hreply), hsay _ _ _ (by decide), hrest, hQ _ _ (L.dodele hreply hunlink), hretr,
    hQ _ _ (L.dormd hreply hrmdir), hQ _ _ (L.dosize hreply), hsay _ _ _ (by decide),
    hQ _ _ (L.dotype hreply), huser, hstor⟩ cmd hcmd

/-- The same where what is sent to the master does not matter: the seven others. -/
theorem TransferLogic.forall_command {W : Waiter → Prop} (L : TransferLogic A O W config P R)
    (hreply : A .reply) (hmkdir : O (.mkdir 0o777)) (hrmdir : O .rmdir) (hunlink : O .unlink)
    {Q : String → Program FtpRet → Prop} (hQ : ∀ name h, Within P R h → Q name h)
    (huser : Q "USER" (douser config)) (hpass : Q "PASS" (dopass config))
    (hpasv : Q "PASV" (FtpServer.dopasv config)) (hrest : Q "REST" FtpServer.dorest)
    (hlist : Q "LIST" (FtpServer.dolist config)) (hretr : Q "RETR" (FtpServer.doretr config))
    (hstor : Q "STOR" (FtpServer.dostor config)) {cmd : CmdHandler}
    (hcmd : cmd ∈ coreCommandList config) : Q cmd.name cmd.handler :=
  have hchdir := L.sendState L.process .chdir
  L.toHandlerLogic.forall_command hreply hmkdir hrmdir hunlink hQ huser hpass
    (hQ _ _ (L.docwd hreply hchdir)) (hQ _ _ (L.docdup hreply hchdir)) hpasv hrest hlist hretr hstor
    hcmd

/-- The same where the names do not matter, either. -/
theorem TransferLogic.forall_handler {W : Waiter → Prop} (L : TransferLogic A O W config P R)
    (hreply : A .reply) (hmkdir : O (.mkdir 0o777)) (hrmdir : O .rmdir) (hunlink : O .unlink)
    {Q : Program FtpRet → Prop} (hQ : ∀ h, Within P R h → Q h) (huser : Q (douser config))
    (hpass : Q (dopass config)) (hpasv : Q (FtpServer.dopasv config)) (hrest : Q FtpServer.dorest)
    (hlist : Q (FtpServer.dolist config)) (hretr : Q (FtpServer.doretr config))
    (hstor : Q (FtpServer.dostor config)) {cmd : CmdHandler}
    (hcmd : cmd ∈ coreCommandList config) : Q cmd.handler :=
  L.forall_command hreply hmkdir hrmdir hunlink (Q := fun _ ↦ Q) (fun _ ↦ hQ) huser hpass hpasv
    hrest hlist hretr hstor hcmd

/-- **Every command stays within what its actions stay within.** -/
theorem handler_within (T : TransferLogic A (fun _ ↦ True) (fun _ ↦ True) config P R)
    (L : LoginLogic A P R) (hA : A .reply ∧ A .descriptor ∧ A .restart) {cmd : CmdHandler}
    (h : cmd ∈ coreCommandList config) : Within P R cmd.handler := by
  obtain ⟨hreply, hdesc, hrestart⟩ := hA
  exact T.forall_handler hreply trivial trivial trivial (fun _ h ↦ h) (L.douser hreply)
    (L.dopass hreply) (T.dopasv hreply hdesc) (T.dorest hreply hrestart)
    (T.dolist hreply hdesc trivial trivial)
    (T.doretr hreply hdesc hrestart trivial trivial trivial)
    (T.dostor hreply hdesc hrestart trivial trivial trivial) h

end FtpServer
