import FtpServer.Proofs.ControlLoop
import FtpServer.Proofs.DataCommands
import FtpServer.Proofs.StatePipe

/-!
# Messages by their types

Which types of messages an action may send (`Informs`), and the commands that send some, given that
their messages keep an invariant. What a control loop keeps holds in every state it reaches
(`LoopRule.reaches`).

* `StepLogic.retrData` and its like are rules for a command in terms of the messages that it sends.
* `same_steps` keeps any part of the session that no action is about.
* `CallLogic.readRound` and `LoopRule.reaches` carry an invariant into every state of the loop, also
  between two rounds of `read_cmd`.
-/

namespace FtpServer

open CString Effect Effect.Proc

variable {A : Topic → Prop} {O : PathOp → Prop} {P Inv : World → Prop}
  {R : World → World → Prop} {config : FtpConfig} {e : Env} {w w' : World} {α : Type}
  {S S' : StateChange → Prop}

/-! ### Types of messages -/

/-- Only messages of these types were sent. -/
def Informs (S : StateChange → Prop) (w w' : World) : Prop :=
  Extends (fun x ↦ ∀ m ∈ message? x, S m.type) w w'

theorem informs_guard : Guard (fun _ ↦ True) (Informs S) where
  refl w _ := .refl w
  trans _ h₁ h₂ := h₁.trans h₂
  keep _ _ := trivial

/-- A note informs nobody. -/
theorem informs_mark (n : Note) : Within (fun _ ↦ True) (Informs S) (mark n) :=
  within_mark fun _ _ ↦ .concat rfl nofun

theorem informs_modify (f : Process → Process) :
    Within (fun _ ↦ True) (Informs S) (Proc.modify f) :=
  within_modify fun _ _ ↦ .of_eq rfl

/-- Only `write` on the pipe does. -/
theorem informs_sys {c : Call} (hc : c.topic ≠ .process) :
    Within (fun _ ↦ True) (Informs S) (sys c) := by
  refine within_sys informs_guard fun w r _ ↦ .concat rfl fun m hm ↦ ?_
  have hnone : message? (.call c r) = none := congrArg (·.bind Message.ofBytes) (piped?_call hc r)
  rw [hnone] at hm
  cases hm

/-- So most actions send no messages at all. -/
theorem informs_steps : StepLogic (· ≠ .process) (fun _ ↦ True) (Informs S) where
  toCallLogic := .of_observe informs_guard (by decide) (by decide) (fun _ hc ↦ informs_sys hc)
    (fun _ ↦ informs_modify _) fun _ _ ↦ informs_mark _
  statePool h := absurd rfl h
  modifySession _ _ := informs_modify _
  undefined _ _ _ _ := informs_mark _

/-- And no handler without a transfer sends one by itself. -/
theorem informs_directories (config : FtpConfig) :
    DirectoryLogic (· ≠ .process) (fun _ ↦ True) config (fun _ ↦ True) (Informs S) :=
  .of_steps informs_steps (by decide) (fun _ _ _ ↦ informs_sys (by simp [Call.topic]))
    (fun _ ↦ informs_modify _) (fun _ ↦ informs_modify _) (informs_modify _)
    (informs_steps.trimArgument fun _ ↦ informs_modify _)
    (informs_steps.listArgument fun _ ↦ informs_modify _)

theorem informs_handleSignal (waiter : Waiter) :
    Within (fun _ ↦ True) (Informs S) (serverHandleSignal waiter) :=
  informs_steps.serverHandleSignal waiter (fun _ ↦ informs_modify _) (informs_mark _)

/-- The messages are those that were posted. -/
theorem Posts.informs {ms : List Message} (h : Posts ms w w') (hms : ∀ m ∈ ms, S m.type) :
    Informs S w w' := by
  obtain ⟨suffix, htrace, -⟩ := h.unmarked
  refine ⟨suffix, htrace, fun x hx m hm ↦ hms m ?_⟩
  have hmessages := h.messages
  rw [htrace, messagesOf, List.filterMap_append, messagesOf] at hmessages
  rw [← List.append_cancel_left hmessages]
  exact List.mem_filterMap.2 ⟨x, hx, hm⟩

/-- Whatever is sent for a change has its type. -/
theorem type_of_mem_outgoing {type : StateChange} {session : FtpSession} {pool : Bytes}
    {m : Message} (hm : m ∈ outgoing type session pool) : m.type = type := by
  rw [outgoing] at hm
  split at hm
  · rw [List.mem_singleton.1 hm]
  · cases hm

/-- `send_state` sends messages of this type, or none. -/
theorem informs_sendState {type : StateChange} (htype : S type) :
    Within (fun _ ↦ True) (Informs S) (sendState type) := by
  refine within_iff_wp.2 fun e w _ ↦ wp_mono (sendState_wp type) ?_ fun _ _ h ↦ h.informs nofun
  rintro ret w' ⟨pool, ms, -, -, h, -, rfl | rfl⟩
  · exact h.informs nofun
  · exact h.informs fun m hm ↦ type_of_mem_outgoing hm ▸ htype

/-! ### Transfers -/

/-- The messages of a transfer. -/
def OfTransfer (type : StateChange) : Prop := type = .xferStart ∨ type = .xfer ∨ type = .xferStop

/-- A note about the restart position. -/
theorem StepLogic.observeRestart (L : StepLogic A P R) (hrestart : A .restart) {o : Observation}
    (ho : o.topic = .restart) : Within P R (observe o) :=
  L.observe o (ho ▸ hrestart) (by rw [ho]; decide)

section Transfers

variable (L : StepLogic A P R)
  (hsend : ∀ type, OfTransfer type → Within P R (FtpServer.sendState type))
  (hA : A .reply ∧ A .data ∧ A .descriptor ∧ A .restart ∧ A .progress)
include L hsend hA

/-- The data phase of `RETR`, in terms of the three messages it sends. -/
theorem StepLogic.retrData (hsignal : Within P R (FtpServer.serverHandleSignal .transferFile))
    (data file : Stream) (offset filesize : ℤ) :
    Within P R (retrData config data file offset filesize) := by
  obtain ⟨hreply, hdata, hdesc, hrestart, hprogress⟩ := hA
  refine L.bind (L.announceTransfer hreply (hsend _ (.inl rfl)) hprogress) fun _ ↦ ?_
  refine L.bind (L.observeRestart hrestart rfl) fun _ ↦ L.bind (L.transferFile hdata hsignal
    (hsend _ (.inr (.inl rfl))) data file offset _ hprogress) fun ret ↦ ?_
  refine L.bind (L.transferReply hreply ret) fun _ ↦ ?_
  refine L.bind (L.modifySession _ fun _ ↦ ⟨rfl, rfl, rfl, .inr rfl, .inl hrestart,
    .inl hprogress, .inl rfl⟩) fun _ ↦ ?_
  refine L.bind (hsend _ (.inr (.inr rfl))) fun _ ↦ L.bind (L.vfsClose hdesc _) fun _ ↦ ?_
  refine L.bind L.getSession fun _ ↦ L.bind (L.close hdesc _) fun _ ↦ ?_
  exact L.bind L.getSession fun _ ↦ L.bind (L.observeRestart hrestart rfl) fun _ ↦ L.pure _

/-- The data phase of `STOR`. -/
theorem StepLogic.storData (hsignal : Within P R (FtpServer.serverHandleSignal .storeFile))
    (file data : Stream) : Within P R (storData config file data) := by
  obtain ⟨hreply, hdata, hdesc, hrestart, hprogress⟩ := hA
  refine L.bind (L.announceTransfer hreply (hsend _ (.inl rfl)) hprogress) fun _ ↦ ?_
  refine L.bind L.getSession fun _ ↦ L.bind (L.observeRestart hrestart rfl) fun _ ↦ ?_
  refine L.bind (L.storeFile hdata hsignal (hsend _ (.inr (.inl rfl))) file data hprogress)
    fun ret ↦ ?_
  refine L.bind (L.transferReply hreply ret) fun _ ↦ L.bind (L.modifyInfo _ hprogress) fun _ ↦ ?_
  refine L.bind (hsend _ (.inr (.inr rfl))) fun _ ↦ L.bind (L.vfsClose hdesc _) fun _ ↦ ?_
  refine L.bind (L.close hdesc _) fun _ ↦ ?_
  exact L.bind L.getSession fun _ ↦ L.bind (L.observeRestart hrestart rfl) fun _ ↦ L.pure _

end Transfers

/-- A command keeps what the transfer of its data keeps. -/
theorem HandlerLogic.doretr_keeps {Mid : World → Prop} (L : HandlerLogic A O config P R)
    (K : Keeps P R Inv Mid) (hA : A .reply ∧ A .descriptor ∧ A .name) (hop : O .open)
    (hsignal : Within P R (serverHandleSignal .acceptDataConn))
    (hretr : ∀ data file offset filesize w, Inv w →
      wp e (FtpServer.retrData config data file offset filesize) (fun _ ↦ Inv) (fun _ ↦ Mid) w)
    (hw : Inv w) : wp e (doretr config) (fun _ ↦ Inv) (fun _ ↦ Mid) w := by
  obtain ⟨hreply, hdesc, hname⟩ := hA
  have hkeep : ∀ {α : Type} {m : Program α} {w : World}, Within P R m → Inv w →
      wp e m (fun _ ↦ Inv) (fun _ ↦ Mid) w := fun hm hw ↦ K.wp hm hw fun _ _ h ↦ h
  have hclose : ∀ (fd sock : ℤ) (ret : FtpRet), Within P R
      (do FtpServer.setDataSock sock; FtpServer.vfsClose fd; return ret) := fun fd sock ret ↦
    L.bind (L.setDataSock hdesc _) fun _ ↦ L.bind (L.vfsClose hdesc fd) fun _ ↦ L.pure ret
  refine L.doretr_wp K (fun _ ↦ Inv) (fun _ _ ↦ Inv)
    (fun msg hmsg _ hw ↦ hkeep (L.replyMsg_pure hreply _ _ (completeReply_fileRefusal msg hmsg)) hw)
    (fun _ hw ↦ hkeep (L.failedVfsReply_pure hreply _) hw) (fun w hw path hpath ↦ ?_)
    (fun _ _ hw ↦ hkeep (L.acceptDataConn hreply (fun _ ↦ L.sys _ hdesc) hsignal) hw)
    (fun fd _ hw ↦ hkeep (hclose fd _ _) hw) (fun fd _ hw ↦ hkeep (hclose fd _ _) hw)
    (fun fd dataFd filesize w₀ w₁ hw₀ hw₁ ↦ ?_) hw hname
  · refine wp_mono (hkeep (L.vfsCall w (K.assume w hw) .open path hop hpath) hw) ?_ fun _ _ h ↦ h
    rintro (_ | fd) w' h <;> exact h
  · refine K.bind (L.setDataSock hdesc _) hw₁ fun _ w₂ hw₂ ↦ ?_
    rw [retrAccepted, wp_bind, wp_getSession]
    dsimp only
    split_ifs
    · refine hkeep (L.bind (L.vfsClose hdesc _) fun _ ↦ L.bind (L.close hdesc _) fun _ ↦ ?_) hw₂
      exact L.replyFormat_pure hreply hw₀ (fun harg _ ↦ completeReply_tooLarge harg _ _) _
    · exact hretr _ _ _ _ w₂ hw₂

/-- The same of `STOR`. -/
theorem HandlerLogic.dostor_keeps {Mid : World → Prop} (L : HandlerLogic A O config P R)
    (K : Keeps P R Inv Mid) (hA : A .reply ∧ A .descriptor ∧ A .name) (hop : O (.creat 0o777))
    (hsignal : Within P R (serverHandleSignal .acceptDataConn))
    (hstor : ∀ file data w, Inv w →
      wp e (FtpServer.storData config file data) (fun _ ↦ Inv) (fun _ ↦ Mid) w)
    (hw : Inv w) : wp e (dostor config) (fun _ ↦ Inv) (fun _ ↦ Mid) w := by
  obtain ⟨hreply, hdesc, hname⟩ := hA
  have hkeep : ∀ {α : Type} {m : Program α} {w : World}, Within P R m → Inv w →
      wp e m (fun _ ↦ Inv) (fun _ ↦ Mid) w := fun hm hw ↦ K.wp hm hw fun _ _ h ↦ h
  have hclose : ∀ (fd : ℤ) (ret : FtpRet), Within P R (do FtpServer.vfsClose fd; return ret) :=
    fun fd ret ↦ L.bind (L.vfsClose hdesc fd) fun _ ↦ L.pure ret
  refine L.toStepLogic.dostor_wp K (fun _ ↦ Inv) (fun _ _ ↦ Inv)
    (fun msg hmsg _ hw ↦ hkeep (L.replyMsg_pure hreply _ _ (completeReply_fileRefusal msg hmsg)) hw)
    (fun _ hw ↦ hkeep (L.failedVfsReply_pure hreply _) hw) (fun w hw path hpath ↦ ?_)
    (fun _ _ hw ↦ hkeep (L.acceptDataConn hreply (fun _ ↦ L.sys _ hdesc) hsignal) hw)
    (fun _ _ hw ↦ hkeep (hclose _ _) hw) (fun _ _ hw ↦ hkeep (hclose _ _) hw)
    (fun _ _ w hw ↦ hstor _ _ w hw) hw hname
  refine wp_mono (hkeep (L.vfsCall w (K.assume w hw) (.creat _) path hop hpath) hw) ?_ fun _ _ h ↦ h
  rintro (_ | fd) w' h <;> exact h

/-! ### The login -/

/-- `PASS`, in terms of what it does to the login and to the pool. -/
theorem StepLogic.dopass (L : StepLogic A P R) (hreply : A .reply)
    (hstate : ∀ pool, Within P R (Proc.modify fun s : Process ↦ { s with statePool := some pool }))
    (hvfs : ∀ rootDir, Within P R (FtpServer.initVfsPool rootDir))
    (hlogin : Within P R (FtpServer.sendState .login))
    (hlogIn : Within P R (modifyLogin ({ · with loggedIn := true })))
    (hnote : ∀ who, Within P R (mark (.loggedIn who))) : Within P R (dopass config) := by
  refine within_getSession_bind fun w hw ↦ ?_
  split_ifs
  · exact L.replyMsg_pure hreply _ _ (by decide)
  · exact L.bind (L.replyMsg hreply _ (by decide)) fun _ ↦ L.bind (hvfs _) fun _ ↦
      L.bind (L.initStatePool hstate) fun _ ↦ L.bind hlogIn fun _ ↦ L.bind (hnote _) fun _ ↦
        L.pure _
  split
  · exact L.badUser hw
  · exact L.replyMsg_pure hreply _ _ (by decide)
  · refine L.bind (L.loginUser hstate hvfs _ _) fun userId ↦ ?_
    split_ifs
    · exact L.replyMsg_pure hreply _ _ (by decide)
    refine L.bind (L.checked (L.sysOther rfl)) fun r ↦ ?_
    rcases r with - | -
    · exact L.pure _
    · exact L.bind hlogin fun _ ↦ L.bind hlogIn fun _ ↦ L.bind (hnote _) fun _ ↦
        L.replyMsg_pure hreply _ _ (by decide)

/-! ### What does not change -/

/-- This part of the session is as it was. -/
def Same {β : Type} (f : FtpSession → β) (w w' : World) : Prop :=
  f w'.st.session = f w.st.session

section Same

variable {β : Type} {f : FtpSession → β}

theorem same_guard : Guard (fun _ ↦ True) (Same f) where
  refl _ _ := rfl
  trans _ h₁ h₂ := h₂.trans h₁
  keep _ _ := trivial

theorem same_modify {g : Process → Process} (h : ∀ s, f (g s).session = f s.session) :
    Within (fun _ ↦ True) (Same f) (Proc.modify g) :=
  within_modify fun w _ ↦ h w.st

theorem same_mark (n : Note) : Within (fun _ ↦ True) (Same f) (mark n) :=
  within_mark fun _ _ ↦ rfl

theorem same_sys (c : Call) : Within (fun _ ↦ True) (Same f) (sys c) :=
  within_sys same_guard fun _ _ _ ↦ rfl

/-- An action that is not about a part of the session leaves it as it is. -/
theorem same_steps (hother : A .other) (hsend : A .send)
    (hf : ∀ s s', SessionStep A s s' → f s' = f s) : StepLogic A (fun _ ↦ True) (Same f) where
  toCallLogic := .of_observe same_guard hother (fun _ ↦ hsend) (fun _ _ ↦ same_sys _)
    (fun _ ↦ same_modify fun _ ↦ rfl) fun _ _ ↦ same_mark _
  statePool _ _ := same_modify fun _ ↦ rfl
  modifySession _ hg := same_modify fun s ↦ hf _ _ (hg s.session)
  undefined _ _ _ _ := same_mark _

/-- What the commands about directories leave alone, too. -/
theorem same_directories (hA : A .other ∧ A .data ∧ A .send ∧ A .listening)
    (hf : ∀ s s', SessionStep A s s' → f s' = f s)
    (hpath : ∀ (s : FtpSession) virtPath, f { s with virtPath } = f s)
    (hcommand : ∀ (s : FtpSession) command, f { s with command } = f s) :
    DirectoryLogic A (fun _ ↦ True) config (fun _ ↦ True) (Same f) := by
  have L := same_steps hA.1 hA.2.2.1 hf
  exact .of_steps L hA.2 (fun _ _ _ ↦ same_sys _) (fun _ ↦ same_modify fun _ ↦ rfl)
    (fun _ ↦ same_modify fun _ ↦ hpath _ _) (same_modify fun _ ↦ hcommand _ _)
    (L.trimArgument fun _ ↦ same_modify fun _ ↦ hcommand _ _)
    (L.listArgument fun _ ↦ same_modify fun _ ↦ hcommand _ _)

/-- Signals are no part of the session. -/
theorem same_handleSignal (hother : A .other) (hsend : A .send)
    (hf : ∀ s s', SessionStep A s s' → f s' = f s) (waiter : Waiter) :
    Within (fun _ ↦ True) (Same f) (serverHandleSignal waiter) :=
  (same_steps hother hsend hf).serverHandleSignal waiter (fun _ ↦ same_modify fun _ ↦ rfl)
    (same_mark _)

end Same

/-! ### The states of a control loop -/

/-- `do_cmd` keeps what its handlers keep. -/
theorem CallLogic.doCmd_keeps {Mid : World → Prop} (L : CallLogic A P R) (K : Keeps P R Inv Mid)
    (hreply : A .reply) (hdispatch : ∀ verb argument, Within P R (mark (.dispatch verb argument)))
    (hfinished : ∀ ret, Within P R (mark (.finished ret)))
    (hhandler : ∀ cmd ∈ coreCommandList config, ∀ w, Inv w →
      wp e cmd.handler (fun _ ↦ Inv) (fun _ ↦ Mid) w)
    (hw : Inv w) : wp e (FtpServer.doCmd config) (fun _ ↦ Inv) (fun _ ↦ Mid) w := by
  have hnoted : ∀ {w : World} (n : Note), Within P R (mark n) → Inv w → Inv (noted w n) :=
    fun {w} n hn hw ↦ K.keepInv w _ hw (hn e w (K.assume w hw))
  have hsay : ∀ msg : String, CompleteReply (ofString msg) → ∀ (ret : FtpRet) (w : World), Inv w →
      wp e (do FtpServer.replyMsg msg; return ret) (fun _ ↦ Inv) (fun _ ↦ Mid) w :=
    fun msg hmsg ret w hw ↦ K.wp (L.replyMsg_pure hreply msg ret hmsg) hw fun _ _ h ↦ h
  have hw₁ := hnoted _ (hdispatch (cstr w.st.session.command.line)
    w.st.session.command.argument) hw
  exact doCmd_wp rfl (hsay _ (by decide) _ _ hw₁)
    (fun msg hmsg ↦ hsay _ (completeReply_refusal msg hmsg) _ _ hw₁)
    (fun cmd hcmd _ ↦ hhandler cmd hcmd _ hw₁) fun ret w' h ↦ hnoted _ (hfinished ret) h

/-- A round of `read_cmd`, in terms of the signals it may handle and the reply it may send. -/
theorem CallLogic.readRound (L : CallLogic A P R) (hcontrol : A .control)
    (hsignal : ∀ waiter, Within P R (FtpServer.serverHandleSignal waiter))
    (hcommand : ∀ f, Within P R (modifyCommand f))
    (hlong : ∀ w : World, P w → Within P R
      (FtpServer.reply w.st.session.conn.sock (ofString "421 Command line too long\r\n"))) :
    Within P R (readRound config) := by
  refine within_getSession_bind fun w hw ↦ ?_
  dsimp only
  split_ifs
  · exact L.pure _
  refine L.bind (L.readPoll hcontrol hsignal _ _) fun r ↦ ?_
  rcases r with - | bs
  · refine L.bind (L.errnoIs _) fun b ↦ ?_
    split_ifs
    · refine L.bind (hsignal _) fun ret ↦ ?_
      split_ifs <;> exact L.pure _
    · exact L.pure _
  · by_cases hbs : bs = []
    · simpa only [if_pos hbs] using L.pure _
    simp only [if_neg hbs]
    split
    · exact L.fault
    · refine L.bind (hcommand _) fun _ ↦ ?_
      split_ifs
      · exact L.bind (hlong w hw) fun _ ↦ L.pure _
      · exact L.pure _

/-- **What the loop keeps holds in every state it reaches.** -/
theorem LoopRule.reaches {Mid : World → Prop} (L : LoopRule A P R config e Inv Mid) {w₀ : World}
    {phase : Phase} (h : Reaches config e w₀ phase w) (hw₀ : Inv w₀) : Inv w := by
  induction h with
  | start => exact hw₀
  | @step phase _ w _ _ hstage ih =>
    suffices hspec : wp e (stage config phase) (fun _ ↦ Inv) (fun _ ↦ Mid) w from
      wp_ret hspec hstage
    cases phase with
    | reading =>
      refine (wp_bind _ _).2 (wp_mono (L.keeps (L.readRound L.control L.signal L.command
        L.tooLong) ih) ?_ fun _ _ h ↦ h)
      rintro (⟨⟩ | ret) w' hw'
      · exact hw'
      · exact hw'
    | parsing =>
      exact (wp_bind _ _).2 (wp_mono (L.keeps (L.parseCmd L.command) ih) (fun _ _ h ↦ h)
        fun _ _ h ↦ h)
    | executing => exact (wp_bind _ _).2 (wp_mono (L.doCmd _ ih) (fun _ _ h ↦ h) fun _ _ h ↦ h)
    | removing =>
      exact (wp_bind _ _).2 (wp_mono (L.keeps (L.removeCmd L.command) ih) (fun _ _ h ↦ h)
        fun _ _ h ↦ h)
    | ended => exact ih

end FtpServer
