import FtpServer.Proofs.CommandTable

/-!
# Two invariants at once

What stays within one relation and within another stays within both, so the actions of two
invariants are the actions of their conjunction, about the topics that both allow.
-/

namespace FtpServer

open Effect Effect.Proc

variable {A A' : Topic → Prop} {O O' : PathOp → Prop} {W W' : Waiter → Prop}
  {P P' : World → Prop} {R R' : World → World → Prop} {config : FtpConfig}

/-- Two logics of actions, each about relations of its own, hold side by side. -/
theorem CallLogic.prod (L : CallLogic A P R) (L' : CallLogic A' P' R') :
    CallLogic (fun t ↦ A t ∧ A' t) (fun w ↦ P w ∧ P' w) fun w w' ↦ R w w' ∧ R' w w' where
  toGuard := L.toGuard.prod L'.toGuard
  other := ⟨L.other, L'.other⟩
  sys c hc := (L.sys c hc.1).prod (L'.sys c hc.2)
  setErrno e := (L.setErrno e).prod (L'.setErrno e)
  observe o ho hne := (L.observe o ho.1 hne).prod (L'.observe o ho.2 hne)
  reply h sock msg hmsg := (L.reply h.1 sock msg hmsg).prod (L'.reply h.2 sock msg hmsg)
  replyFormat h w hw text htext :=
    (L.replyFormat h.1 w hw.1 text htext).prod (L'.replyFormat h.2 w hw.2 text htext)

/-- Fewer topics. -/
theorem CallLogic.mono (L : CallLogic A P R) (h : ∀ t, A' t → A t) (hother : A' .other) :
    CallLogic A' P R where
  toGuard := L.toGuard
  other := hother
  sys c hc := L.sys c (h _ hc)
  setErrno := L.setErrno
  observe o ho hne := L.observe o (h _ ho) hne
  reply hreply := L.reply (h _ hreply)
  replyFormat hreply := L.replyFormat (h _ hreply)

/-- The same of logics that know the session. -/
theorem StepLogic.prod (L : StepLogic A P R) (L' : StepLogic A' P' R') :
    StepLogic (fun t ↦ A t ∧ A' t) (fun w ↦ P w ∧ P' w) fun w w' ↦ R w w' ∧ R' w w' where
  toCallLogic := L.toCallLogic.prod L'.toCallLogic
  statePool h pool := (L.statePool h.1 pool).prod (L'.statePool h.2 pool)
  modifySession f hf := (L.modifySession f fun s ↦ (hf s).mono fun _ h ↦ h.1).prod
    (L'.modifySession f fun s ↦ (hf s).mono fun _ h ↦ h.2)
  undefined w hw o ho := (L.undefined w hw.1 o ho).prod (L'.undefined w hw.2 o ho)

/-- The same of logics of handlers: what both allow may be done. -/
theorem HandlerLogic.prod (L : HandlerLogic A O config P R) (L' : HandlerLogic A' O' config P' R') :
    HandlerLogic (fun t ↦ A t ∧ A' t) (fun op ↦ O op ∧ O' op) config (fun w ↦ P w ∧ P' w)
      fun w w' ↦ R w w' ∧ R' w w' where
  toStepLogic := L.toStepLogic.prod L'.toStepLogic
  data := ⟨L.data, L'.data⟩
  send := ⟨L.send, L'.send⟩
  listening := ⟨L.listening, L'.listening⟩
  vfsStat w hw path hpath := (L.vfsStat w hw.1 path hpath).prod (L'.vfsStat w hw.2 path hpath)
  vfsCall w hw op path hop hpath :=
    (L.vfsCall w hw.1 op path hop.1 hpath).prod (L'.vfsCall w hw.2 op path hop.2 hpath)
  trimArgument := L.trimArgument.prod L'.trimArgument

/-- The same with a current directory. -/
theorem DirectoryLogic.prod (L : DirectoryLogic A O config P R)
    (L' : DirectoryLogic A' O' config P' R') :
    DirectoryLogic (fun t ↦ A t ∧ A' t) (fun op ↦ O op ∧ O' op) config (fun w ↦ P w ∧ P' w)
      fun w w' ↦ R w w' ∧ R' w w' where
  toHandlerLogic := L.toHandlerLogic.prod L'.toHandlerLogic
  vfsChdir w hw path hpath hlf :=
    (L.vfsChdir w hw.1 path hpath hlf).prod (L'.vfsChdir w hw.2 path hpath hlf)
  restore w hw := (L.restore w hw.1).prod (L'.restore w hw.2)
  parent := L.parent.prod L'.parent
  listArgument := L.listArgument.prod L'.listArgument

/-- The same with transfers, where both agree on who may take a signal. -/
theorem TransferLogic.prod (L : TransferLogic A O W config P R)
    (L' : TransferLogic A' O' W' config P' R') :
    TransferLogic (fun t ↦ A t ∧ A' t) (fun op ↦ O op ∧ O' op) (fun x ↦ W x ∧ W' x) config
      (fun w ↦ P w ∧ P' w) fun w w' ↦ R w w' ∧ R' w w' where
  toDirectoryLogic := L.toDirectoryLogic.prod L'.toDirectoryLogic
  process := ⟨L.process, L'.process⟩
  name := ⟨L.name, L'.name⟩
  progress := ⟨L.progress, L'.progress⟩
  serverHandleSignal waiter h :=
    (L.serverHandleSignal waiter h.1).prod (L'.serverHandleSignal waiter h.2)

/-- The same of logics that log somebody in. -/
theorem LoginLogic.prod (L : LoginLogic A P R) (L' : LoginLogic A' P' R') :
    LoginLogic (fun t ↦ A t ∧ A' t) (fun w ↦ P w ∧ P' w) fun w w' ↦ R w w' ∧ R' w w' where
  toStepLogic := L.toStepLogic.prod L'.toStepLogic
  process := ⟨L.process, L'.process⟩
  rename f hf := (L.rename f hf).prod (L'.rename f hf)
  logIn := L.logIn.prod L'.logIn
  named who := (L.named who).prod (L'.named who)
  loggedIn who := (L.loggedIn who).prod (L'.loggedIn who)
  initVfsPool rootDir := (L.initVfsPool rootDir).prod (L'.initVfsPool rootDir)

end FtpServer
