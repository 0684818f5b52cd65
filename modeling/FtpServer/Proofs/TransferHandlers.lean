import FtpServer.Proofs.Handlers

/-!
# Transfers, and the handlers with a data connection

`RETR`, `STOR` and `LIST` accept a data connection, and the first two move blocks from one
descriptor to another until there are no more, an error occurs or a signal is to end the session.

* `TransferLogic` adds the consultation of `server_handle_signal`; its parameter says which of the
  functions that consult it may do so.
* `listTarget` is what `LIST` is about to list: the rest of the argument behind its options. It has
  no bytes in it that the argument does not have (`mem_listTarget`).
-/

namespace FtpServer

open CString Effect Effect.Proc

variable {A : Topic → Prop} {O : PathOp → Prop} {P : World → Prop} {R : World → World → Prop}
  {α β τ : Type} {config : FtpConfig}

/-! ### Transfers -/

namespace StepLogic

variable (L : StepLogic A P R) (hdata : A .data)
include L hdata

/-- An offset is sought where there is one. -/
theorem seekTo (fd : ℤ) (offset : Option ℤ) : Within P R (seekTo fd offset) := by
  rcases offset with - | off
  · exact L.pure _
  · exact L.bind (L.checked (L.sys (.lseek fd off) hdata)) fun _ ↦ L.pure _

/-- Two descriptors, two seeks, and one `sendfile` or a `read` and a `write`. -/
theorem spliceStream (out : Stream) (outOffset : Option ℤ) (in_ : Stream) (inOffset : Option ℤ)
    (count : ℕ) : Within P R (spliceStream out outOffset in_ inOffset count) := by
  refine L.bind (L.seekTo hdata _ _) fun _ ↦ L.bind (L.seekTo hdata _ _) fun _ ↦ ?_
  split_ifs
  · refine L.bind (L.checked (L.sys (.sendfile _ _ _ _) hdata)) fun r ↦ ?_
    rcases r with - | n <;> exact L.pure _
  · refine L.bind (L.sysOther rfl) fun r ↦ ?_
    rcases r with - | block
    · exact L.bind (L.setErrno _) fun _ ↦ L.pure _
    · refine L.bind (L.checked (L.sys (.read in_.fd count) hdata)) fun r ↦ ?_
      rcases r with - | buf
      · exact L.pure _
      · dsimp only
        split_ifs
        · exact L.pure _
        · refine L.bind (L.checked (L.sys (.write out.fd buf.1) hdata)) fun r ↦ ?_
          rcases r with - | n <;> exact L.pure _

variable {waiter : Waiter} (hsignal : Within P R (FtpServer.serverHandleSignal waiter))
include hsignal

omit hdata in
/-- A block that failed is retried, or ends the transfer. -/
theorem spliceFailed : Within P R (spliceFailed waiter) := by
  refine L.bind L.get fun s ↦ ?_
  split
  · refine L.bind hsignal fun ret ↦ ?_
    split_ifs <;> exact L.pure _
  · exact L.pure _
  · exact L.pure _
  · exact L.pure _

omit hsignal in
/-- The rest behind the whole blocks. -/
theorem spliceBlock (hsignal : Within P R (FtpServer.serverHandleSignal .transferFile))
    (data file : Stream) (offset : ℤ) (count : ℕ) :
    Within P R (spliceBlock data file offset count) := by
  refine L.loop (fun _ ↦ ?_) ()
  refine L.bind (L.spliceStream hdata _ _ _ _ _) fun r ↦ ?_
  dsimp only
  split_ifs
  · refine L.bind (L.spliceFailed hsignal) fun r ↦ ?_
    rcases r with - | ret <;> exact L.pure _
  · exact L.pure _

omit hsignal in
/-- The blocks are sent one after the other, each with its report and its pause. -/
theorem sendBlocks (hsignal : Within P R (FtpServer.serverHandleSignal .transferFile))
    (hxfer : Within P R (FtpServer.sendState .xfer)) (hprogress : A .progress) (data file : Stream)
    (fileOffset blocks : ℤ) : Within P R (sendBlocks config data file fileOffset blocks) := by
  refine L.loop (fun i ↦ ?_) 0
  split_ifs
  · refine L.bind (L.spliceBlock hdata hsignal _ _ _ _) fun r ↦ ?_
    rcases r with ret | ret
    · exact L.pure _
    · dsimp only
      split_ifs
      · exact L.pure _
      · refine L.bind (L.modifyInfo _ hprogress) fun _ ↦
          L.bind (L.throttlePause hxfer _ hprogress) fun _ ↦ ?_
        refine L.bind hsignal fun ret ↦ ?_
        split_ifs <;> exact L.pure _
  · exact L.pure _

omit hsignal in
theorem transferFile (hsignal : Within P R (FtpServer.serverHandleSignal .transferFile))
    (hxfer : Within P R (FtpServer.sendState .xfer)) (data file : Stream)
    (fileOffset count : ℤ) (hprogress : A .progress) :
    Within P R (transferFile config data file fileOffset count) := by
  refine L.bind (L.startTransfer hprogress) fun _ ↦ ?_
  refine L.bind (L.sendBlocks hdata hsignal hxfer hprogress _ _ _ _) fun r ↦ ?_
  rcases r with - | ret
  · refine L.bind (L.spliceBlock hdata hsignal _ _ _ _) fun r ↦ ?_
    rcases r with ret | ret
    · exact L.pure _
    · exact L.bind (L.modifyInfo _ hprogress) fun _ ↦ L.pure _
  · exact L.pure _

omit hsignal in
theorem storeFile (hsignal : Within P R (FtpServer.serverHandleSignal .storeFile))
    (hxfer : Within P R (FtpServer.sendState .xfer)) (file data : Stream)
    (hprogress : A .progress) :
    Within P R (storeFile config file data) := by
  refine L.bind L.getSession fun session ↦ L.bind (L.startTransfer hprogress) fun _ ↦ ?_
  refine L.loop (fun offset ↦ ?_) _
  refine L.bind (L.spliceStream hdata _ _ _ _ _) fun r ↦ ?_
  dsimp only
  split_ifs
  · exact L.pure _
  · refine L.bind (L.spliceFailed hsignal) fun r ↦ ?_
    rcases r with - | ret <;> exact L.pure _
  · refine L.bind (L.modifyInfo _ hprogress) fun _ ↦
      L.bind (L.throttlePause hxfer _ hprogress) fun _ ↦ ?_
    refine L.bind L.get fun s ↦ ?_
    split_ifs
    · refine L.bind hsignal fun ret ↦ ?_
      split_ifs <;> exact L.pure _
    · exact L.pure _

end StepLogic

/-- What a transfer returns early is not `FTP_SUCCESS`. -/
theorem spliceFailed_returns (waiter : Waiter) :
    Returns (fun r ↦ r ≠ some .success) (spliceFailed waiter) := by
  refine returns_bind fun s ↦ ?_
  split
  · refine returns_bind fun ret ↦ ?_
    split_ifs <;> exact returns_pure (by simp)
  all_goals exact returns_pure (by simp)

/-! ### What `LIST` lists -/

/-- The path that `LIST` is given, and whether an `a` was among its options. An empty path means the
current directory. -/
def listTarget (command : FtpCommand) : Option (Bytes × Bool) :=
  match command.arg with
  | .line offset =>
    (parseListOptions command.line offset).map fun (line, offset, optA) ↦
      let argument := cstr (line.drop offset)
      (if argument = [] then [dot] else argument, optA)
  | _ => none

/-- What `LIST` makes of its argument is the target, or the current directory if there is none. -/
theorem listArgument_target (e : Env) (w : World) (r : Bytes × Bool) (w' : World)
    (h : listArgument e w = (.ret r, w')) :
    listTarget w.st.session.command = some (if r.1 = [] then [dot] else r.1, r.2) := by
  suffices hspec : wp e listArgument (fun r _ ↦ listTarget w.st.session.command =
      some (if r.1 = [] then [dot] else r.1, r.2)) (fun _ _ ↦ True) w from wp_ret hspec h
  rw [listArgument, wp_bind, wp_getSession]
  dsimp only
  split
  · rename_i offset harg
    split
    · trivial
    · rename_i line offset' optA hlist
      show listTarget w.st.session.command = _
      rw [listTarget, harg]
      dsimp only
      rw [hlist, Option.map_some]
  · trivial

section ListTarget

variable {command : FtpCommand} {argument : Bytes} {optA : Bool}
  (h : listTarget command = some (argument, optA))
include h

/-- No byte comes in, but for the dot of an empty target. -/
theorem mem_listTarget {x : UInt8} (hx : x ∈ argument) (hdot : x ≠ dot) :
    x ∈ command.argument := by
  rw [listTarget] at h
  split at h
  · rename_i offset harg
    obtain ⟨⟨line, offset', a⟩, hlist, heq⟩ := Option.map_eq_some_iff.1 h
    obtain ⟨rfl, -⟩ := Prod.mk.inj heq
    rw [FtpCommand.argument, harg]
    refine mem_cstr_of_parseListOptions hlist ?_
    split_ifs at hx
    · exact absurd (List.mem_singleton.1 hx) hdot
    · exact hx
  · cases h

/-- So a target is a C string. -/
theorem nul_not_mem_listTarget : nul ∉ argument :=
  fun hmem ↦ nul_not_mem_argument command (mem_listTarget h hmem (by decide))

/-- And one line. -/
theorem lf_not_mem_listTarget (hlf : lf ∉ command.argument) : lf ∉ argument :=
  fun hmem ↦ hlf (mem_listTarget h hmem (by decide))

end ListTarget

/-- `LIST`, where `accept_data_conn` may consult `server_handle_signal`. -/
theorem DirectoryLogic.dolist (L : DirectoryLogic A O config P R) (hreply : A .reply)
    (hdesc : A .descriptor) (hop : O .opendir)
    (hsignal : Within P R (serverHandleSignal .acceptDataConn)) : Within P R (dolist config) := by
  refine within_bind_returns L.toGuard L.listArgument listArgument_target ?_
  rintro w₀ ⟨argument, optA⟩ hw₀ htarget
  dsimp only at htarget ⊢
  have hpath := nul_not_mem_listTarget htarget
  have hpath_lf := lf_not_mem_listTarget htarget
  refine within_getSession_bind fun w hw ↦ L.bind (L.vfsStat w hw _ hpath) fun r ↦ ?_
  rcases r with - | statarg
  · exact L.failedVfsReply hreply
  · refine L.bind (L.toStepLogic.acceptDataConn hreply (fun _ ↦ L.sys _ hdesc) hsignal)
      fun dataSock ↦ L.bind (L.setDataSock hdesc _) fun _ ↦ ?_
    rcases dataSock with fd | - | -
    · exact L.listData hreply hdesc hop hw₀ _ hpath hpath_lf _
    · exact L.pure _
    · exact L.pure _

/-- The actions of the handlers that use a data connection: `server_handle_signal` is consulted by
the functions `W`. -/
structure TransferLogic (A : Topic → Prop) (O : PathOp → Prop) (W : Waiter → Prop)
    (config : FtpConfig) (P : World → Prop) (R : World → World → Prop) : Prop
    extends DirectoryLogic A O config P R where
  process : A .process
  name : A .name
  progress : A .progress
  serverHandleSignal : ∀ waiter, W waiter → Within P R (FtpServer.serverHandleSignal waiter)

namespace TransferLogic

variable {W : Waiter → Prop} (L : TransferLogic A O W config P R) (hreply : A .reply)
  (hdesc : A .descriptor)
include L

theorem interruptedToQuit {waiter : Waiter} (hW : W waiter) :
    Within P R (interruptedToQuit waiter) :=
  L.toStepLogic.interruptedToQuit (L.serverHandleSignal _ hW)

include hreply hdesc in
theorem acceptDataConn (hW : W .acceptDataConn) : Within P R acceptDataConn :=
  L.toStepLogic.acceptDataConn hreply (fun _ ↦ L.sys _ hdesc) (L.serverHandleSignal _ hW)

include hreply hdesc in
theorem dolist (hop : O .opendir) (hW : W .acceptDataConn) : Within P R (dolist config) :=
  L.toDirectoryLogic.dolist hreply hdesc hop (L.serverHandleSignal _ hW)

theorem transferFile (hW : W .transferFile) (data file : Stream) (fileOffset count : ℤ) :
    Within P R (transferFile config data file fileOffset count) :=
  L.toStepLogic.transferFile L.data (L.serverHandleSignal _ hW) (L.sendState L.process _) data file
    fileOffset count L.progress

theorem storeFile (hW : W .storeFile) (file data : Stream) :
    Within P R (storeFile config file data) :=
  L.toStepLogic.storeFile L.data (L.serverHandleSignal _ hW) (L.sendState L.process _) file data
    L.progress

include hreply in
theorem announceTransfer : Within P R announceTransfer :=
  L.toStepLogic.announceTransfer hreply (L.sendState L.process _) L.progress

variable (hrestart : A .restart)
include hreply hdesc hrestart

omit hreply hdesc in
/-- Where a transfer starts and stops is noted. -/
theorem observeOffset (o : FtpSession → Observation) (ho : ∀ s, (o s).topic = .restart)
    {f : Program α} (hf : Within P R f) :
    Within P R (do observe (o (← getSession)); f) :=
  L.bind L.getSession fun session ↦ L.bind (L.observeRestart hrestart (ho session)) fun _ ↦ hf

theorem retrData (hW : W .transferFile) (data file : Stream) (offset filesize : ℤ) :
    Within P R (retrData config data file offset filesize) := by
  refine L.bind (L.announceTransfer hreply) fun _ ↦ ?_
  refine L.bind (L.observeRestart hrestart rfl) fun _ ↦
    L.bind (L.transferFile hW _ _ _ _) fun ret ↦ ?_
  refine L.bind (L.transferReply hreply ret) fun _ ↦ ?_
  refine L.bind (L.modifySession _ fun _ ↦ ⟨rfl, rfl, rfl, .inr rfl, .inl hrestart,
    .inl L.progress, .inl rfl⟩) fun _ ↦ ?_
  refine L.bind (L.sendState L.process _) fun _ ↦ L.bind (L.vfsClose hdesc _) fun _ ↦ ?_
  refine L.bind L.getSession fun _ ↦ L.bind (L.close hdesc _) fun _ ↦ ?_
  exact L.observeOffset hrestart _ (fun _ ↦ rfl) (L.pure _)

theorem retrAccepted {w : World} (hw : P w) (hW : W .transferFile) (filesize : ℤ)
    (fd dataFd : ℕ) :
    Within P R (retrAccepted config (findBasename w.st.session.command.argument) filesize fd
      dataFd) := by
  refine L.bind L.getSession fun session ↦ ?_
  dsimp only
  split_ifs
  · exact L.bind (L.vfsClose hdesc _) fun _ ↦ L.bind (L.close hdesc _) fun _ ↦
      L.replyFormat_pure hreply hw (fun harg _ ↦ completeReply_tooLarge harg _ _) _
  · exact L.retrData hreply hdesc hrestart hW _ _ _ _

theorem storData (hW : W .storeFile) (file data : Stream) :
    Within P R (storData config file data) := by
  refine L.bind (L.announceTransfer hreply) fun _ ↦ ?_
  refine L.observeOffset hrestart _ (fun _ ↦ rfl) (L.bind (L.storeFile hW _ _) fun ret ↦ ?_)
  refine L.bind (L.transferReply hreply ret) fun _ ↦
    L.bind (L.modifyInfo _ L.progress) fun _ ↦ ?_
  refine L.bind (L.sendState L.process _) fun _ ↦ L.bind (L.vfsClose hdesc _) fun _ ↦ ?_
  refine L.bind (L.close hdesc _) fun _ ↦ L.observeOffset hrestart _ (fun _ ↦ rfl) (L.pure _)

theorem doretr (hop : O .open) (haccept : W .acceptDataConn) (hW : W .transferFile) :
    Within P R (doretr config) := by
  refine within_getSession_bind fun w₀ hw₀ ↦ L.bind (L.setFilename _ L.name) fun len ↦ ?_
  have hpath := nul_not_mem_argument w₀.st.session.command
  split_ifs
  · exact L.replyOnly hreply _ _ (by decide)
  refine within_getSession_bind fun w hw ↦ L.bind (L.vfsStat w hw _ hpath) fun r ↦ ?_
  rcases r with - | statfile
  · exact L.failedVfsReply_pure hreply _
  dsimp only
  split_ifs
  · exact L.replyOnly hreply _ _ (by decide)
  refine within_getSession_bind fun w hw ↦ L.bind (L.vfsCall w hw .open _ hop hpath) fun r ↦ ?_
  rcases r with - | fd
  · exact L.failedVfsReply_pure hreply _
  refine L.bind (L.acceptDataConn hreply hdesc haccept) fun dataSock ↦
    L.bind (L.setDataSock hdesc _) fun _ ↦ ?_
  rcases dataSock with dataFd | - | -
  · exact L.retrAccepted hreply hdesc hrestart hw₀ hW _ _ _
  · exact L.bind (L.vfsClose hdesc _) fun _ ↦ L.pure _
  · exact L.bind (L.vfsClose hdesc _) fun _ ↦ L.pure _

theorem dostor (hop : O (.creat 0o777)) (haccept : W .acceptDataConn) (hW : W .storeFile) :
    Within P R (dostor config) := by
  refine within_getSession_bind fun w₀ _ ↦ L.bind (L.setFilename _ L.name) fun len ↦ ?_
  have hpath := nul_not_mem_argument w₀.st.session.command
  split_ifs
  · exact L.replyOnly hreply _ _ (by decide)
  refine within_getSession_bind fun w hw ↦
    L.bind (L.vfsCall w hw (.creat 0o777) _ hop hpath) fun r ↦ ?_
  rcases r with - | fd
  · exact L.failedVfsReply_pure hreply _
  refine L.bind (L.acceptDataConn hreply hdesc haccept) fun dataSock ↦ ?_
  rcases dataSock with dataFd | - | -
  · exact L.storData hreply hdesc hrestart hW _ _
  · exact L.bind (L.vfsClose hdesc _) fun _ ↦ L.pure _
  · exact L.bind (L.vfsClose hdesc _) fun _ ↦ L.pure _

end TransferLogic

end FtpServer
