import FtpServer.Proofs.DataCommands
import FtpServer.Proofs.RestAnswer

/-!
# How long a formatted reply can be

`reply_format` cuts what its format expands to at the end of the reply buffer. Whether a reply
reaches the client as a whole is then a matter of the strings that go into it, and each format has
its own bound:

* a user name of up to 994 bytes (`fits_user_iff`), a directory of up to 990 (`fits_pwd_iff`), and
  the argument of `MKD` of up to 1007 (`fits_mkd_iff`); a command line allows for longer ones;
* the name of a file whose size `RETR` compares with the restart position is shorter than
  `FTP_MAX_NAME` by then, so this reply always fits (`fits_tooLarge`), and with it all that `RETR`
  formats, whatever its argument (`doretr_fits`).
-/

namespace FtpServer

open CString Effect Effect.Proc

/-- The reply buffer holds the text. -/
def Fits (text : Bytes) : Prop := text.length < responseBufferSize

/-! ### The formats -/

/-- The bound of `USER`. -/
theorem fits_user_iff (name : Bytes) :
    Fits (ofString "331 Pass required for user " ++ name ++ [cr, lf]) ↔ name.length ≤ 994 := by
  have htext : (ofString "331 Pass required for user ").length = 27 := by decide
  rw [Fits, responseBufferSize, List.length_append, List.length_append, htext]
  simp only [List.length_cons, List.length_nil]
  omega

/-- The bound of `PWD`. -/
theorem fits_pwd_iff (dir : Bytes) :
    Fits (ofString "257 \"" ++ dir ++ ofString "\" is your current location\r\n") ↔
      dir.length ≤ 990 := by
  have hfront : (ofString "257 \"").length = 5 := by decide
  have hend : (ofString "\" is your current location\r\n").length = 28 := by decide
  rw [Fits, responseBufferSize, List.length_append, List.length_append, hfront, hend]
  omega

/-- The bound of `MKD`. -/
theorem fits_mkd_iff (name : Bytes) :
    Fits (ofString "257 \"" ++ name ++ ofString "\" created\r\n") ↔ name.length ≤ 1007 := by
  have hfront : (ofString "257 \"").length = 5 := by decide
  have hend : (ofString "\" created\r\n").length = 11 := by decide
  rw [Fits, responseBufferSize, List.length_append, List.length_append, hfront, hend]
  omega

/-- The errors that `failed_vfs_reply` has a text for. -/
theorem fits_failure (err : Errno) : Fits (ofString "550 " ++ strerror err ++ [cr, lf]) := by
  have hcode : (ofString "550 ").length = 4 := by decide
  have herr : (strerror err).length ≤ 33 := by
    unfold strerror
    split <;> decide
  rw [Fits, responseBufferSize]
  simp only [List.length_append, List.length_cons, List.length_nil, hcode]
  omega

/-- A file name and two numbers of 64 bits. -/
theorem fits_tooLarge {basename : Bytes} (h : basename.length < ftpMaxName) (offset filesize : ℤ) :
    Fits (ofString "451 Restarting position " ++ fmtInt (offset % 2 ^ 64) ++
      ofString " too large for file " ++ basename ++ ofString " of size " ++
      fmtInt (filesize % 2 ^ 64) ++ [cr, lf]) := by
  have hnumber : ∀ i : ℤ, (fmtInt (i % 2 ^ 64)).length ≤ 21 := fun i ↦
    length_fmtInt_le (k := 20) (by decide) (by omega)
  have hoffset := hnumber offset
  have hsize := hnumber filesize
  have hfront : (ofString "451 Restarting position ").length = 24 := by decide
  have hfile : (ofString " too large for file ").length = 20 := by decide
  have hof : (ofString " of size ").length = 9 := by decide
  rw [ftpMaxName] at h
  rw [Fits, responseBufferSize]
  simp only [List.length_append, List.length_cons, List.length_nil, hfront, hfile, hof]
  omega

/-! ### All that `RETR` formats -/

/-- What `reply_format` expanded its format to. -/
def expansion? : Item kernel → Option Bytes
  | .note (.observe (.expansion text)) => some text
  | _ => none

/-- Nothing was formatted that the buffer cuts. -/
def KeepsFits (w w' : World) : Prop := Extends (fun x ↦ ∀ text ∈ expansion? x, Fits text) w w'

theorem keepsFits_guard : Guard (fun _ ↦ True) KeepsFits where
  refl w _ := .refl w
  trans _ h₁ h₂ := h₁.trans h₂
  keep _ _ := trivial

/-- A note is no text to be cut. -/
theorem keepsFits_mark {n : Note} (hn : ∀ text ∈ expansion? (.note n), Fits text) :
    Within (fun _ ↦ True) KeepsFits (mark n) :=
  within_mark fun _ _ ↦ .concat rfl hn

/-- Only `reply_format` formats, and the topic of its note is that of a reply. -/
theorem keepsFits_steps : StepLogic (· ≠ .reply) (fun _ ↦ True) KeepsFits where
  toCallLogic := .of_observe keepsFits_guard (by decide) (fun h ↦ absurd rfl h)
    (fun _ _ ↦ within_sys keepsFits_guard fun _ _ _ ↦ .concat rfl fun _ h ↦ by cases h)
    (fun _ ↦ within_setErrno fun _ _ ↦ .of_eq rfl)
    fun o ho ↦ keepsFits_mark fun text h ↦ by
      cases o
      case expansion => exact absurd rfl ho
      all_goals cases h
  statePool _ _ := within_modify fun _ _ ↦ .of_eq rfl
  modifySession _ _ := within_modify fun _ _ ↦ .of_eq rfl
  undefined _ _ o ho := keepsFits_mark fun text h ↦ by
    cases o
    case expansion => exact absurd ho id
    all_goals cases h

theorem keepsFits_reply (sock : ℤ) (msg : Bytes) :
    Within (fun _ ↦ True) KeepsFits (reply sock msg) :=
  keepsFits_steps.bind (keepsFits_mark fun _ h ↦ by cases h) fun _ ↦
    keepsFits_steps.sendall (by decide) _ _

/-- A fixed text is not formatted. -/
theorem keepsFits_replyMsg (msg : String) : Within (fun _ ↦ True) KeepsFits (replyMsg msg) := by
  have L := keepsFits_steps
  exact L.bind L.getSession fun _ ↦ L.bind (keepsFits_reply _ _) fun _ ↦ L.pure _

/-- The one function that formats. -/
theorem keepsFits_replyFormat {text : Bytes} (htext : Fits text) :
    Within (fun _ ↦ True) KeepsFits (replyFormat text) := by
  have L := keepsFits_steps
  have hnote : ∀ text' ∈ expansion? (.note (.observe (.expansion text))), Fits text' := by
    rintro _ ⟨⟩
    exact htext
  refine L.bind L.get fun s ↦ ?_
  split_ifs
  · exact L.bind (keepsFits_mark hnote) fun _ ↦ L.bind L.getSession fun _ ↦
      L.bind (keepsFits_reply _ _) fun _ ↦ L.pure _
  · exact L.fault

/-- The texts of the errors are short. -/
theorem keepsFits_failedVfsReply : Within (fun _ ↦ True) KeepsFits failedVfsReply :=
  keepsFits_steps.failedVfsReply_of (fun err _ ↦ keepsFits_replyFormat (fits_failure err))
    (keepsFits_replyMsg _)

theorem keepsFits_handleSignal (waiter : Waiter) :
    Within (fun _ ↦ True) KeepsFits (serverHandleSignal waiter) :=
  keepsFits_steps.serverHandleSignal waiter (fun _ ↦ within_modify fun _ _ ↦ .of_eq rfl)
    (keepsFits_mark fun _ h ↦ by cases h)

variable {config : FtpConfig}

theorem keepsFits_transferReply (ret : FtpRet) :
    Within (fun _ ↦ True) KeepsFits (transferReply ret) := by
  cases ret <;> exact keepsFits_replyMsg _

theorem keepsFits_announceTransfer : Within (fun _ ↦ True) KeepsFits announceTransfer := by
  have L := keepsFits_steps
  exact L.bind (keepsFits_replyMsg _) fun _ ↦ L.bind (L.modifyInfo _ (by decide)) fun _ ↦
    L.bind (L.sendState (by decide) _) fun _ ↦ L.pure _

/-- The data phase sends fixed texts only. -/
theorem keepsFits_retrData (data file : Stream) (offset filesize : ℤ) :
    Within (fun _ ↦ True) KeepsFits (retrData config data file offset filesize) := by
  have L := keepsFits_steps
  have hnote : ∀ o : Observation, o.topic ≠ .reply → Within (fun _ ↦ True) KeepsFits (observe o) :=
    fun o ho ↦ keepsFits_mark fun text h ↦ by
      cases o
      case expansion => exact absurd rfl ho
      all_goals cases h
  refine L.bind keepsFits_announceTransfer fun _ ↦ L.bind (hnote _ (by simp [Observation.topic]))
    fun _ ↦ ?_
  refine L.bind (L.transferFile (by decide) (keepsFits_handleSignal _) (L.sendState (by decide) _)
    _ _ _ _ (by decide)) fun ret ↦ ?_
  refine L.bind (keepsFits_transferReply ret) fun _ ↦ ?_
  refine L.bind (within_modify fun _ _ ↦ .of_eq rfl) fun _ ↦ L.bind (L.sendState (by decide) _)
    fun _ ↦ L.bind (L.vfsClose (by decide) _) fun _ ↦ ?_
  exact L.bind L.getSession fun _ ↦ L.bind (L.close (by decide) _) fun _ ↦
    L.bind L.getSession fun _ ↦ L.bind (hnote _ (by simp [Observation.topic])) fun _ ↦ L.pure _

/-- Before it, the restart position may be refused, which names the file. -/
theorem keepsFits_retrAccepted {basename : Bytes} (h : basename.length < ftpMaxName) (filesize : ℤ)
    (fd dataFd : ℕ) :
    Within (fun _ ↦ True) KeepsFits (retrAccepted config basename filesize fd dataFd) := by
  have L := keepsFits_steps
  refine L.bind L.getSession fun session ↦ ?_
  dsimp only
  split_ifs
  · exact L.bind (L.vfsClose (by decide) _) fun _ ↦ L.bind (L.close (by decide) _) fun _ ↦
      L.bind (keepsFits_replyFormat (fits_tooLarge h _ _)) fun _ ↦ L.pure _
  · exact keepsFits_retrData _ _ _ _

/-- What follows `strlcpy` sees the length of the name. -/
theorem keepsFits_setFilename {basename : Bytes} {f : ℕ → Program FtpRet}
    (hf : Within (fun _ ↦ True) KeepsFits (f basename.length)) :
    Within (fun _ ↦ True) KeepsFits (setFilename basename >>= f) :=
  fun e _ hw ↦ keepsFits_guard.trans hw (.of_eq rfl) (hf e _ trivial)

theorem keepsFits_vfsStat (cwd path : Bytes) :
    Within (fun _ ↦ True) KeepsFits (vfsStat config cwd path) := by
  have L := keepsFits_steps
  exact L.vfsStat (fun _ ↦ within_modify fun _ _ ↦ .of_eq rfl)
    (fun _ ↦ L.sys _ (by simp [Call.topic])) (fun _ ↦ L.sys _ (by simp [Call.topic])) _ _

theorem keepsFits_vfsCall (op : PathOp) (cwd path : Bytes) :
    Within (fun _ ↦ True) KeepsFits (vfsCall op cwd path) := by
  have L := keepsFits_steps
  exact L.vfsCall (fun _ ↦ within_modify fun _ _ ↦ .of_eq rfl)
    (fun _ ↦ L.sys _ (by simp [Call.topic])) _ _

/-- **All that `RETR` formats fits the reply buffer**, whatever its argument: where the length of
the name matters, it has been compared with `FTP_MAX_NAME`. -/
theorem doretr_fits : Within (fun _ ↦ True) KeepsFits (doretr config) := by
  have L := keepsFits_steps
  refine L.bind L.getSession fun session ↦ keepsFits_setFilename ?_
  split_ifs with hlong
  · exact L.bind (keepsFits_replyMsg _) fun _ ↦ L.pure _
  refine L.bind L.getSession fun _ ↦ L.bind (keepsFits_vfsStat _ _) fun r ↦ ?_
  rcases r with - | statfile
  · exact L.bind keepsFits_failedVfsReply fun _ ↦ L.pure _
  dsimp only
  split_ifs
  · exact L.bind (keepsFits_replyMsg _) fun _ ↦ L.pure _
  refine L.bind L.getSession fun _ ↦ L.bind (keepsFits_vfsCall _ _ _) fun r ↦ ?_
  rcases r with - | fd
  · exact L.bind keepsFits_failedVfsReply fun _ ↦ L.pure _
  refine L.bind (L.acceptDataConn_of (keepsFits_replyMsg _)
    (fun _ ↦ L.sys _ (by simp [Call.topic])) (keepsFits_handleSignal _)) fun dataSock ↦ ?_
  refine L.bind (L.setDataSock (by decide) _) fun _ ↦ ?_
  rcases dataSock with dataFd | - | -
  · exact keepsFits_retrAccepted (not_le.1 hlong) _ _ _
  · exact L.bind (L.vfsClose (by decide) _) fun _ ↦ L.pure _
  · exact L.bind (L.vfsClose (by decide) _) fun _ ↦ L.pure _

end FtpServer
