import FtpServer.Model.Server
import FtpServer.Proofs.Calls
import FtpServer.Proofs.CommandLine
import FtpServer.Proofs.ReplyTexts

/-!
# The actions of a session

An invariant of a session, or a bound on what its commands may do, has to survive every handler.
Rather than go through the handlers once for each of them, the handlers are gone through once for
all: this module lists the **actions** that they are made of, as the fields of a structure about a
relation between worlds, and the modules after it derive that every handler stays within any
relation that its actions stay within. A result about sessions then only looks at the actions.

* `CallLogic` has the calls, whose kinds are a parameter, and the replies.
* `StepLogic` adds the changes of the session that everything else is made of: what a `SessionStep`
  may do to it depends on the same kinds.

The programs that several handlers share are composed here of such actions: replies, the message to
the master, the throttle, the acceptance of a data connection, the lines of a listing. Where a
program is only allowed in one of its uses (`vfs_stat`, `server_handle_signal`), it is a hypothesis.
-/

namespace FtpServer

open CString Effect Effect.Proc

/-! ### Actions -/

variable {A : Topic → Prop} {O : PathOp → Prop} {P : World → Prop} {R : World → World → Prop}
  {α β τ : Type}

/-- Steps about the topics `A`, and the setting of `errno`. -/
structure CallLogic (A : Topic → Prop) (P : World → Prop) (R : World → World → Prop) : Prop
    extends Guard P R where
  other : A .other
  sys : ∀ c : Call, A c.topic → Within P R (sys c)
  setErrno : ∀ e, Within P R (setErrno e)
  observe : ∀ o : Observation, A o.topic → o.topic ≠ .reply → Within P R (observe o)
  reply : A .reply → ∀ sock msg, CompleteReply msg → Within P R (reply sock msg)
  replyFormat : A .reply → ∀ w : World, P w → ∀ text, Formatted w.st.session text →
    Within P R (replyFormat text)

/-- What a process is like that does something undefined. -/
def Observation.Undefined : Observation → Process → Prop
  | .unassigned, s => s.session.login.user = .indeterminate
  | .missingPool, s => s.vfsPool = none ∨ s.statePool = none
  | _, _ => False

/-- The session has changed in what `A` is about. -/
structure SessionStep (A : Topic → Prop) (s s' : FtpSession) : Prop where
  login : s'.login = s.login
  virtPath : s'.virtPath = s.virtPath
  command : s'.command = s.command
  conn : A .descriptor ∨ s'.conn = s.conn
  restartPos : A .restart ∨ s'.restartPos = s.restartPos
  info : A .progress ∨ s'.info = s.info
  filename : s'.filename = s.filename ∨ A .name ∧ ∃ basename,
    s'.filename = (strlcpy s.filename basename (ftpMaxName - 1)).1

theorem SessionStep.mono {A' : Topic → Prop} {s s' : FtpSession} (h : SessionStep A s s')
    (hA : ∀ t, A t → A' t) : SessionStep A' s s' where
  login := h.login
  virtPath := h.virtPath
  command := h.command
  conn := h.conn.imp_left (hA _)
  restartPos := h.restartPos.imp_left (hA _)
  info := h.info.imp_left (hA _)
  filename := h.filename.imp_right fun hname ↦ ⟨hA _ hname.1, hname.2⟩

/-- The actions all programs of a session are made of. -/
structure StepLogic (A : Topic → Prop) (P : World → Prop) (R : World → World → Prop) : Prop
    extends CallLogic A P R where
  statePool : A .process → ∀ pool,
    Within P R (Proc.modify fun s : Process ↦ { s with statePool := some pool })
  modifySession : ∀ f : FtpSession → FtpSession, (∀ s, SessionStep A s (f s)) →
    Within P R (modifySession f)
  undefined : ∀ w : World, P w → ∀ o : Observation, o.Undefined w.st → Within P R
    (FtpServer.observe o)

/-- What follows a read of the session may use what `P` says of it. -/
theorem within_getSession_bind {f : FtpSession → Program β}
    (hf : ∀ w : World, P w → Within P R (f w.st.session)) : Within P R (getSession >>= f) :=
  fun e w hw ↦ hf w hw e w hw

theorem within_sendall (G : Guard P R) {sockfd : ℤ}
    (hsend : ∀ buf, Within P R (sys (.send sockfd buf)))
    (herrno : ∀ e, Within P R (setErrno e)) (buf : Bytes) : Within P R (sendall sockfd buf) := by
  refine within_loop G (fun total ↦ ?_) 0
  split_ifs
  · have hcheck : Within P R (checked (sys (.send sockfd (buf.drop total)))) := by
      refine within_bind G (hsend _) fun r ↦ ?_
      rcases r with e | a
      · exact within_bind G (herrno e) fun _ ↦ within_pure G _
      · exact within_pure G _
    refine within_bind G hcheck fun r ↦ ?_
    rcases r with - | n
    · refine within_bind G (within_bind G (within_get G) fun _ ↦ within_pure G _) fun b ↦ ?_
      split_ifs <;> exact within_pure G _
    · exact within_pure G _
  · exact within_pure G _

/-- Where every observation is allowed, every reply is. -/
theorem CallLogic.of_observe (G : Guard P R) (hother : A .other) (hsend : A .reply → A .send)
    (hsys : ∀ c : Call, A c.topic → Within P R (FtpServer.sys c))
    (herrno : ∀ e, Within P R (FtpServer.setErrno e))
    (hobserve : ∀ o : Observation, A o.topic → Within P R (FtpServer.observe o)) :
    CallLogic A P R := by
  have hsendall (hreply : A .reply) sockfd buf : Within P R (sendall sockfd buf) :=
    within_sendall G (fun _ ↦ hsys (.send sockfd _) (hsend hreply)) herrno buf
  refine ⟨G, hother, hsys, herrno, fun o ho _ ↦ hobserve o ho, fun hreply sock msg _ ↦ ?_,
    fun hreply _ _ text _ ↦ ?_⟩
  · exact within_bind G (hobserve (.reply msg) hreply) fun _ ↦ hsendall hreply _ _
  · refine within_bind G (within_get G) fun s ↦ ?_
    split_ifs
    · refine within_bind G (hobserve (.expansion text) hreply) fun _ ↦ ?_
      refine within_bind G (within_bind G (within_get G) fun _ ↦ within_pure G _) fun session ↦ ?_
      exact within_bind G (within_bind G (hobserve (.reply _) hreply) fun _ ↦ hsendall hreply _ _)
        fun _ ↦ within_pure G _
    · exact within_fault G

namespace CallLogic

variable (L : CallLogic A P R)
include L

theorem pure (a : α) : Within P R (pure a : Program α) := within_pure L.toGuard a

theorem fault : Within P R (Proc.fault : Program α) := within_fault L.toGuard

theorem get : Within P R (Proc.get : Program Process) := within_get L.toGuard

theorem bind {m : Program α} {f : α → Program β} (hm : Within P R m)
    (hf : ∀ a, Within P R (f a)) : Within P R (m >>= f) :=
  within_bind L.toGuard hm hf

theorem loop {body : τ → Program (τ ⊕ α)} (h : ∀ t, Within P R (body t)) (t : τ) :
    Within P R (Proc.loop body t) :=
  within_loop L.toGuard h t

theorem getSession : Within P R getSession := L.bind L.get fun _ ↦ L.pure _

theorem errnoIs (e : Errno) : Within P R (errnoIs e) := L.bind L.get fun _ ↦ L.pure _

theorem checked {m : Program (Except Errno α)} (hm : Within P R m) : Within P R (checked m) := by
  refine L.bind hm fun r ↦ ?_
  rcases r with e | a
  · exact L.bind (L.setErrno e) fun _ ↦ L.pure _
  · exact L.pure _

theorem sysOther {c : Call} (hc : c.topic = .other) : Within P R (FtpServer.sys c) :=
  L.sys c (hc ▸ L.other)

theorem sendall (hsend : A .send) (sockfd : ℤ) (buf : Bytes) : Within P R (sendall sockfd buf) :=
  within_sendall L.toGuard (fun _ ↦ L.sys (.send sockfd _) hsend) L.setErrno buf

/-! ### Replies -/

section Replies

variable (hreply : A .reply)
include hreply

theorem replyMsg (msg : String) (hmsg : CompleteReply (ofString msg)) :
    Within P R (replyMsg msg) :=
  L.bind L.getSession fun _ ↦ L.bind (L.reply hreply _ _ hmsg) fun _ ↦ L.pure _

/-- The body of many handlers: a reply and a result. -/
theorem replyMsg_pure (msg : String) (ret : α)
    (hmsg : CompleteReply (ofString msg)) :
    Within P R (do FtpServer.replyMsg msg; return ret) :=
  L.bind (L.replyMsg hreply msg hmsg) fun _ ↦ L.pure ret

theorem dofeat : Within P R dofeat :=
  L.bind (L.replyMsg hreply _ (by decide)) fun _ ↦ L.bind (L.replyMsg hreply _ (by decide)) fun _ ↦
    L.bind (L.replyMsg hreply _ (by decide)) fun _ ↦ L.replyMsg_pure hreply _ _ (by decide)

theorem replyFormat_pure {w : World} (hw : P w) {text : Bytes}
    (htext : Formatted w.st.session text) (ret : α) :
    Within P R (do FtpServer.replyFormat text; return ret) :=
  L.bind (L.replyFormat hreply w hw text htext) fun _ ↦ L.pure ret

omit hreply in
/-- `failed_vfs_reply`, given that it may send one of its replies. -/
theorem failedVfsReply_of
    (hformat : ∀ err, CompleteReply (ofString "550 " ++ strerror err ++ [cr, lf]) →
      Within P R (FtpServer.replyFormat (ofString "550 " ++ strerror err ++ [cr, lf])))
    (hsay : Within P R (FtpServer.replyMsg "550 Server error\r\n")) :
    Within P R failedVfsReply := by
  refine within_get_bind fun w hw ↦ ?_
  split
  · split_ifs with herr
    · exact L.bind (hformat _ (completeReply_append (lf_not_mem_failure herr))) fun _ ↦ L.pure _
    · exact L.bind hsay fun _ ↦ L.pure _
  · exact L.bind hsay fun _ ↦ L.pure _

theorem failedVfsReply : Within P R failedVfsReply :=
  L.failedVfsReply_of (fun _ htext e w hw ↦ L.replyFormat hreply w hw _ (fun _ _ ↦ htext) e w hw)
    (L.replyMsg hreply _ (by decide))

/-- The branch of the handlers for a path operation that failed. -/
theorem failedVfsReply_pure (ret : α) :
    Within P R (do let _ ← FtpServer.failedVfsReply; return ret) :=
  L.bind (L.failedVfsReply hreply) fun _ ↦ L.pure ret

theorem transferReply (ret : FtpRet) : Within P R (transferReply ret) := by
  cases ret <;> exact L.replyMsg hreply _ (by decide)

end Replies

/-! ### Calls that move no file contents -/

theorem writevAll {pipe : ℤ} {head body : Bytes}
    (hwrite : Within P R (FtpServer.sys (.writev pipe head body))) :
    Within P R (writevAll pipe head body) := by
  refine L.loop (fun _ ↦ L.bind (L.checked hwrite) fun r ↦ ?_) ()
  rcases r with - | n
  · refine L.bind (L.errnoIs _) fun b ↦ ?_
    split_ifs <;> exact L.pure _
  · exact L.pure _

theorem close (hdesc : A .descriptor) (fd : ℤ) :
    Within P R (FtpServer.checked (FtpServer.sys (.close fd))) :=
  L.checked (L.sys (.close fd) hdesc)

theorem vfsClose (hdesc : A .descriptor) (fd : ℤ) : Within P R (vfsClose fd) :=
  L.bind (L.close hdesc fd) fun _ ↦ L.pure _

/-- `server_handle_signal`, where changes of the flag and its note are allowed. -/
theorem serverHandleSignal (waiter : Waiter)
    (hflag : ∀ f : SignalFlag → SignalFlag,
      Within P R (Proc.modify fun s : Process ↦ { s with signalFlag := f s.signalFlag }))
    (hmark : Within P R (mark (.quit waiter))) : Within P R (serverHandleSignal waiter) := by
  have htake : Within P R takeTerminating := by
    refine L.bind L.get fun s ↦ ?_
    split_ifs
    · exact L.bind (hflag fun _ ↦ 0) fun _ ↦ L.pure _
    · exact L.pure _
  refine L.bind (L.sysOther rfl) fun _ ↦ ?_
  refine L.bind (hflag fun flag ↦ flag &&& ~~~recvSigchld &&& ~~~recvSigpipe) fun _ ↦ ?_
  refine L.bind htake fun ret ↦ ?_
  dsimp only
  split_ifs
  · exact L.bind hmark fun _ ↦ L.bind (L.sysOther rfl) fun _ ↦ L.pure _
  · exact L.bind (L.sysOther rfl) fun _ ↦ L.pure _

/-- `init_vfs_pool`, given what it does once it has its memory. -/
theorem initVfsPool (hpool : ∀ rootDir (ret : FtpRet), nul ∉ rootDir → Within P R (do
      Proc.modify fun s : Process ↦ { s with vfsPool := some (newPool rootDir) }
      mark (.rooted rootDir)
      return ret)) (rootDir : Option Bytes) : Within P R (initVfsPool rootDir) := by
  rcases rootDir with - | rootDir
  · exact L.fault
  · refine L.bind (L.sysOther rfl) fun r ↦ ?_
    rcases r with - | block
    · exact L.pure _
    · exact hpool _ _ (zero_not_mem_cstr _)

section StatePool

variable (hstate : ∀ pool, Within P R
  (Proc.modify fun s : Process ↦ { s with statePool := some pool }))
include hstate

theorem initStatePool : Within P R initStatePool := by
  refine L.bind (L.sysOther rfl) fun r ↦ ?_
  rcases r with - | block
  · exact L.pure _
  · exact L.bind (hstate _) fun _ ↦ L.pure _

theorem loginUser (hinit : ∀ rootDir, Within P R (FtpServer.initVfsPool rootDir))
    (user password : Bytes) : Within P R (loginUser user password) := by
  refine L.bind (L.sysOther rfl) fun r ↦ ?_
  rcases r with - | pwd
  · exact L.pure _
  refine L.bind (L.sysOther rfl) fun r ↦ ?_
  rcases r with - | pwdp
  · exact L.pure _
  refine L.bind (L.sysOther rfl) fun r ↦ ?_
  rcases r with - | encryptPw
  · exact L.pure _
  dsimp only
  split_ifs
  · exact L.pure _
  refine L.bind (L.initStatePool hstate) fun r ↦ ?_
  split_ifs
  · exact L.pure _
  refine L.bind (hinit _) fun r ↦ ?_
  split_ifs <;> exact L.pure _

end StatePool

end CallLogic

namespace StepLogic

variable (L : StepLogic A P R)
include L

theorem modifyInfo (f : FtpXferInfo → FtpXferInfo)
    (hprogress : A .progress) : Within P R (modifyInfo f) :=
  L.modifySession _ fun _ ↦ ⟨rfl, rfl, rfl, .inr rfl, .inr rfl, .inl hprogress, .inl rfl⟩

theorem missingPool {w : World} (hw : P w) (hpool : w.st.vfsPool = none ∨ w.st.statePool = none) :
    Within P R (missingPool : Program α) :=
  L.bind (L.undefined w hw .missingPool hpool) fun _ ↦ L.fault

theorem badUser {w : World} (hw : P w) :
    Within P R (badUser w.st.session.login.user : Program α) := by
  rw [FtpServer.badUser]
  split_ifs with huser
  · exact L.bind (L.undefined w hw .unassigned huser) fun _ ↦ L.fault
  · exact L.fault

/-- `send_state`, where the state pool may change and its message may be written. -/
theorem sendState_of {type : StateChange}
    (hstate : ∀ pool, Within P R (Proc.modify fun s : Process ↦ { s with statePool := some pool }))
    (hwrite : ∀ pid pipe body, Within P R
      (FtpServer.sys (.writev pipe (FtpState.mk pid stateMagic type.code).image body))) :
    Within P R (sendState type) := by
  refine within_get_bind fun w hw ↦ ?_
  split
  · exact L.missingPool hw (.inr ‹_›)
  · exact L.pure _
  · split
    · exact L.badUser hw
    · refine L.bind (hstate _) fun _ ↦ ?_
      split_ifs
      · exact L.pure _
      · exact L.writevAll (hwrite _ _ _)

theorem sendState (hprocess : A .process) (type : StateChange) : Within P R (sendState type) :=
  L.sendState_of (L.statePool hprocess) fun _ _ _ ↦ L.sys _ hprocess

theorem resetProbe (hprogress : A .progress) : Within P R resetProbe :=
  L.bind (L.sysOther rfl) fun _ ↦ L.modifyInfo _ hprogress

theorem sleepFor (t : ℤ × ℤ) : Within P R (sleepFor t) := by
  refine L.loop (fun slp ↦ L.bind (L.sysOther rfl) fun r ↦ ?_) t
  rcases r with rem | - <;> exact L.pure _

/-- `throttle_pause`, given how it reports. -/
theorem throttlePause (hxfer : Within P R (FtpServer.sendState .xfer)) (config : FtpConfig)
    (hprogress : A .progress) :
    Within P R (throttlePause config) := by
  refine L.bind (L.sysOther rfl) fun now ↦ L.bind L.getSession fun session ↦ ?_
  extract_lets info transferSize diff
  by_cases hskew : diff < 0
  · rw [if_pos hskew]
    exact L.resetProbe hprogress
  · rw [if_neg hskew]
    have hreport : Within P R (reportProgress diff) := by
      rw [reportProgress]
      split_ifs
      · exact L.bind hxfer fun _ ↦ L.bind (L.resetProbe hprogress) fun _ ↦
          L.modifyInfo _ hprogress
      · exact L.pure _
    refine L.bind hreport fun _ ↦ ?_
    split_ifs
    · exact L.pure _
    · exact L.pure _
    · exact L.sleepFor _

theorem startTransfer (hprogress : A .progress) :
    Within P R startTransfer :=
  L.bind (L.sysOther rfl) fun _ ↦ L.modifyInfo _ hprogress

theorem announceTransfer (hreply : A .reply)
    (hstart : Within P R (FtpServer.sendState .xferStart))
    (hprogress : A .progress) :
    Within P R announceTransfer :=
  L.bind (L.replyMsg hreply _ (by decide)) fun _ ↦ L.bind (L.modifyInfo _ hprogress) fun _ ↦
    L.bind hstart fun _ ↦ L.pure _

/-! ### Compound actions -/

/-- `trim_whitespace` on the argument, where any change of the line is allowed. -/
theorem trimArgument (hline : ∀ line, Within P R (FtpServer.modifySession fun s ↦
    { s with command := { s.command with line } })) : Within P R trimArgument := by
  refine L.bind L.getSession fun session ↦ ?_
  dsimp only
  split
  · split
    · exact L.fault
    · exact L.bind (hline _) fun _ ↦ L.pure _
  · exact L.fault

/-- `parse_list_options` on the argument, where any change of the line is allowed. -/
theorem listArgument (hline : ∀ line, Within P R (FtpServer.modifySession fun s ↦
    { s with command := { s.command with line } })) : Within P R listArgument := by
  refine L.bind L.getSession fun session ↦ ?_
  dsimp only
  split
  · split
    · exact L.fault
    · exact L.bind (hline _) fun _ ↦ L.pure _
  · exact L.fault

/-- `errno == EINTR && server_handle_signal()`, where the latter is allowed. -/
theorem interruptedToQuit {waiter : Waiter}
    (hsignal : Within P R (FtpServer.serverHandleSignal waiter)) :
    Within P R (interruptedToQuit waiter) := by
  refine L.bind (L.errnoIs _) fun b ↦ ?_
  split_ifs
  · exact L.bind hsignal fun _ ↦ L.pure _
  · exact L.pure _

/-- `accept_data_conn`, given that it may say that it failed. -/
theorem acceptDataConn_of (hsay : Within P R
    (FtpServer.replyMsg "425 Cannot open data connection\r\n"))
    (haccept : ∀ fd, Within P R (FtpServer.sys (.accept fd)))
    (hsignal : Within P R (FtpServer.serverHandleSignal .acceptDataConn)) :
    Within P R acceptDataConn := by
  refine L.bind L.getSession fun session ↦ ?_
  refine L.bind (L.checked (haccept session.conn.pasvSock)) fun r ↦ ?_
  rcases r with - | ⟨fd, -⟩
  · refine L.bind (L.interruptedToQuit hsignal) fun b ↦ ?_
    split_ifs
    · exact L.pure _
    · refine L.bind (L.errnoIs _) fun b ↦ ?_
      split_ifs
      · exact L.pure _
      · exact L.bind hsay fun _ ↦ L.pure _
  · exact L.pure _

theorem acceptDataConn (hreply : A .reply)
    (haccept : ∀ fd, Within P R (FtpServer.sys (.accept fd)))
    (hsignal : Within P R (FtpServer.serverHandleSignal .acceptDataConn)) :
    Within P R acceptDataConn :=
  L.acceptDataConn_of (L.replyMsg hreply _ (by decide)) haccept hsignal

theorem setDataSock (hdesc : A .descriptor) (fd : ℤ) : Within P R (FtpServer.modifySession fun s ↦
    { s with conn := { s.conn with dataSock := fd } }) :=
  L.modifySession _ fun _ ↦ ⟨rfl, rfl, rfl, .inl hdesc, .inr rfl, .inr rfl, .inl rfl⟩

theorem setFilename (basename : Bytes)
    (hname : A .name) :
    Within P R (setFilename basename) :=
  L.bind (L.modifySession _ fun _ ↦ ⟨rfl, rfl, rfl, .inr rfl, .inr rfl, .inr rfl,
    .inr ⟨hname, basename, rfl⟩⟩) fun _ ↦ L.pure _

/-! ### Lines of a listing, given what `vfs_stat` does -/

section Lines

variable {config : FtpConfig} (hsend : A .send)
include hsend

theorem sendFilestat {cwd vpath : Bytes}
    (hstat : Within P R (vfsStat config cwd vpath)) (dataSock : ℤ) :
    Within P R (sendFilestat config cwd vpath dataSock) := by
  refine L.bind hstat fun r ↦ ?_
  rcases r with - | st
  · exact L.pure _
  · refine L.bind (L.sysOther rfl) fun indet ↦ ?_
    split
    · exact L.fault
    · dsimp only
      split_ifs
      · exact L.fault
      · refine L.bind (L.sendall hsend _ _) fun r ↦ ?_
        rcases r with - | n
        · refine L.bind (L.errnoIs _) fun b ↦ L.bind (L.errnoIs _) fun b' ↦ ?_
          split_ifs <;> exact L.pure _
        · exact L.pure _

variable (hstat : ∀ w : World, P w → ∀ path, nul ∉ path →
  Within P R (vfsStat config (cstr w.st.session.virtPath) path))
include hstat

theorem listFile {filepath : Bytes} (hpath : nul ∉ filepath) :
    Within P R (listFile config filepath) :=
  within_getSession_bind fun w hw ↦ L.sendFilestat hsend (hstat w hw _ hpath) _

theorem listEntries (hdata : A .data) (drv : ℕ) (optA : Bool) :
    Within P R (listEntries config drv optA) := by
  refine L.loop (fun _ ↦ L.bind (L.sys (.readdir drv) hdata) fun r ↦ ?_) ()
  rcases r with - | name
  · exact L.pure _
  · dsimp only
    split_ifs
    · exact L.pure _
    · refine within_getSession_bind fun w hw ↦ ?_
      refine L.bind (L.sendFilestat hsend (hstat w hw _ (zero_not_mem_cstr _)) _) fun ret ↦ ?_
      split_ifs <;> exact L.pure _

end Lines

end StepLogic

end FtpServer
