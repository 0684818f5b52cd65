import FtpServer.Proofs.Exchange

/-!
# One answer to every command

Every command that succeeds is answered with one completion reply, behind at most one preliminary
reply, except for a `LIST` of a directory that cannot be opened: `list_directory` reports it, and
`dolist` reports it again (`ftpMain_answers`).

* The commands without a data connection reply at one point each, and have a lemma each.
* The commands with a data connection are taken stage by stage, as each stage may be the one that
  replies; `AcceptedOr` is what the wait for the client may lead to.
* `ListedOr` is how a listing ends: a directory that could not be opened has been reported.
* `AnswersInv` holds between two commands. As `AnsweredSoFar` holds at every other point, the result
  covers runs that stop in the middle of a command, too.
-/

namespace FtpServer

open CString Effect Effect.Proc PathText

variable {config : FtpConfig} {e : Env} {w : World} {s : Exchange}

/-! ### The handlers -/

theorem ready_start : Exchange.start.Ready := by decide

theorem ready_begun : Exchange.begun.Ready := by decide

section Handlers

variable (hw : Talking .start w)
include hw

theorem dotype_replied : wp e dotype Replied (fun _ ↦ AnsweredSoFar) w := by
  rw [dotype, wp_bind, wp_getSession]
  extract_lets arg
  split
  · exact say_replied hw ready_start (by decide) _
  · exact say_replied hw ready_start (by decide) _
  · split_ifs
    · exact say_replied hw ready_start (by decide) _
    · refine (wp_bind _ _).2 (wp_mono (replyMsg_talking hw _) (fun _ w₁ hw₁ ↦ ?_) fun _ _ h ↦ h)
      exact replyMsg_replied hw₁ _ _ (by decide)
  · exact say_replied hw ready_start (by decide) _

theorem dopwd_replied : wp e dopwd Replied (fun _ ↦ AnsweredSoFar) w := by
  rw [dopwd, wp_bind, wp_getSession]
  refine sayFormat_replied hw ready_start ?_ _
  rw [List.append_assoc]
  exact final_append (by decide) (by decide) _

theorem dofeat_replied : wp e dofeat Replied (fun _ ↦ AnsweredSoFar) w := by
  refine (wp_bind _ _).2 (wp_mono (replyMsg_talking hw _) (fun _ w₁ hw₁ ↦ ?_) fun _ _ h ↦ h)
  refine (wp_bind _ _).2 (wp_mono (replyMsg_talking hw₁ _) (fun _ w₂ hw₂ ↦ ?_) fun _ _ h ↦ h)
  refine (wp_bind _ _).2 (wp_mono (replyMsg_talking hw₂ _) (fun _ w₃ hw₃ ↦ ?_) fun _ _ h ↦ h)
  exact replyMsg_replied hw₃ _ _ (by decide)

theorem docwd_replied : wp e (docwd config) Replied (fun _ ↦ AnsweredSoFar) w := by
  have L := silent_handlers config
  rw [docwd, wp_bind, wp_getSession]
  have hstat := L.vfsStat w ⟨hw.jail, trivial⟩ _ (nul_not_mem_argument w.st.session.command)
  refine (talking_keeps _).bind hstat hw fun r w₁ hw₁ ↦ ?_
  rcases r with - | statpath
  · exact failedVfsReply_replied hw₁ ready_start
  dsimp only
  by_cases hkind : statpath.kind ≠ .dir
  · rw [if_pos hkind]
    exact say_replied hw₁ ready_start (by decide) _
  rw [if_neg hkind]
  have hchdir := L.vfsChdir w ⟨hw.jail, trivial⟩ _ (nul_not_mem_argument _) id
  refine (talking_keeps _).bind hchdir hw₁ fun _ w₂ hw₂ ↦ ?_
  refine (talking_keeps _).bind (L.sendState L.process _) hw₂ fun _ w₃ hw₃ ↦ ?_
  exact say_replied hw₃ ready_start (by decide) _

theorem docdup_replied : wp e (docdup config) Replied (fun _ ↦ AnsweredSoFar) w :=
  (talking_keeps _).bind (silent_handlers config).parent hw fun _ _ hw₁ ↦ docwd_replied hw₁

/-- `SIZE` and `MDTM`, given what they do with the attributes. -/
theorem stat_replied {f : Stat → Program FtpRet}
    (hf : ∀ st w, Talking .start w → wp e (f st) Replied (fun _ ↦ AnsweredSoFar) w) :
    wp e (do
      let session ← getSession
      match ← vfsStat config (cstr session.virtPath) session.command.argument with
      | none =>
        let _ ← failedVfsReply
        return .success
      | some st => f st) Replied (fun _ ↦ AnsweredSoFar) w := by
  rw [wp_bind, wp_getSession]
  have hstat := (silent_handlers config).vfsStat w ⟨hw.jail, trivial⟩ _
    (nul_not_mem_argument w.st.session.command)
  refine (talking_keeps _).bind hstat hw fun r w₁ hw₁ ↦ ?_
  rcases r with - | st
  · exact failedVfsReply_pure_replied hw₁ ready_start _
  · exact hf st w₁ hw₁

theorem dosize_replied : wp e (dosize config) Replied (fun _ ↦ AnsweredSoFar) w := by
  refine stat_replied hw fun st w₁ hw₁ ↦ ?_
  by_cases hkind : st.kind ≠ .reg
  · rw [if_pos hkind]
    exact say_replied hw₁ ready_start (by decide) _
  · rw [if_neg hkind]
    refine sayFormat_replied hw₁ ready_start ?_ _
    rw [List.append_assoc]
    exact final_append (by decide) (by decide) _

theorem domdtm_replied : wp e (domdtm config) Replied (fun _ ↦ AnsweredSoFar) w := by
  refine stat_replied hw fun st w₁ hw₁ ↦ ?_
  by_cases hkind : st.kind ≠ .reg
  · rw [if_pos hkind]
    exact say_replied hw₁ ready_start (by decide) _
  rw [if_neg hkind]
  refine (talking_keeps _).bind ((silent_handlers config).sysOther rfl) hw₁ fun indet w₂ hw₂ ↦ ?_
  split
  · exact hw₂.answered
  · refine sayFormat_replied hw₂ ready_start ?_ _
    rw [List.append_assoc]
    exact final_append (by decide) (by decide) _

omit hw in
theorem vfsCall_silent (hw : Talking s w) {op : PathOp} (hop : op ≠ .opendir) :
    Within (fun w ↦ Jail w ∧ True) (fun w w' ↦ KeepsJail w w' ∧ KeepsSilence w w')
      (vfsCall op (cstr w.st.session.virtPath) w.st.session.command.argument) :=
  (silent_handlers loadDefaults).vfsCall w ⟨hw.jail, trivial⟩ op _ ⟨trivial, hop⟩
    (nul_not_mem_argument _)

theorem domkd_replied : wp e domkd Replied (fun _ ↦ AnsweredSoFar) w := by
  rw [domkd, wp_bind, wp_getSession]
  refine (talking_keeps _).bind (vfsCall_silent hw (by decide)) hw fun r w₁ hw₁ ↦ ?_
  rcases r with - | -
  · exact failedVfsReply_pure_replied hw₁ ready_start _
  · refine sayFormat_replied hw₁ ready_start ?_ _
    rw [List.append_assoc]
    exact final_append (by decide) (by decide) _

theorem dormd_replied : wp e dormd Replied (fun _ ↦ AnsweredSoFar) w := by
  rw [dormd, wp_bind, wp_getSession]
  refine (talking_keeps _).bind (vfsCall_silent hw (by decide)) hw fun r w₁ hw₁ ↦ ?_
  rcases r with - | -
  · exact failedVfsReply_pure_replied hw₁ ready_start _
  · exact say_replied hw₁ ready_start (by decide) _

theorem dodele_replied : wp e dodele Replied (fun _ ↦ AnsweredSoFar) w := by
  rw [dodele, wp_bind, wp_getSession]
  refine (talking_keeps _).bind (vfsCall_silent hw (by decide)) hw fun r w₁ hw₁ ↦ ?_
  rcases r with - | -
  · exact failedVfsReply_pure_replied hw₁ ready_start _
  · exact say_replied hw₁ ready_start (by decide) _

theorem dopasv_replied : wp e (dopasv config) Replied (fun _ ↦ AnsweredSoFar) w := by
  have L := silent_handlers config
  have hdesc : Topic.descriptor ≠ .path ∧ NoReply .descriptor := by decide
  refine (talking_keeps _).bind (L.closePasvSock hdesc) hw fun _ w₁ hw₁ ↦ ?_
  rw [wp_bind, wp_getSession]
  refine (talking_keeps _).bind (L.checked (L.sys .socket hdesc)) hw₁ fun r w₂ hw₂ ↦ ?_
  rcases r with - | pasvSock
  · exact say_replied hw₂ ready_start (by decide) _
  refine (talking_keeps _).bind (L.setPasvSock hdesc _) hw₂ fun _ w₃ hw₃ ↦ ?_
  refine (talking_keeps _).bind (L.pasvListen _) hw₃ fun r w₄ hw₄ ↦ ?_
  rcases r with - | ⟨port0, port1⟩
  · refine (talking_keeps _).bind (L.close hdesc _) hw₄ fun _ w₅ hw₅ ↦ ?_
    refine (talking_keeps _).bind (L.setPasvSock hdesc _) hw₅ fun _ w₆ hw₆ ↦ ?_
    exact say_replied hw₆ ready_start (by decide) _
  · refine sayFormat_replied hw₄ ready_start ?_ _
    rw [List.append_assoc]
    exact final_append (by decide) (by decide) _

theorem dorest_replied : wp e dorest Replied (fun _ ↦ AnsweredSoFar) w := by
  have L := silent_handlers loadDefaults
  have hrestart : Topic.restart ≠ .path ∧ NoReply .restart := by decide
  have hrest : ∀ (offset : ℤ) (w : World), Talking .start w → wp e (do
      if offset < 0 || offset = llongMax || (← errnoIs .erange) then
        replyMsg "501-Invalid seek argument\r\n"
        replyMsg "501 Seek reset to 0\r\n"
        setRestartPos 0
      else
        replyFormat (ofString "350 Restarting transfer at " ++ fmtInt offset ++ [cr, lf])
        setRestartPos offset
        observe (.rested offset)
      return FtpRet.success) Replied (fun _ ↦ AnsweredSoFar) w := by
    intro offset w hw
    rw [wp_bind, wp_errnoIs]
    split_ifs
    · refine (wp_bind _ _).2 (wp_mono (replyMsg_talking hw _) (fun _ w₁ hw₁ ↦ ?_) fun _ _ h ↦ h)
      refine (wp_bind _ _).2 (wp_mono (replyMsg_talking hw₁ _) (fun _ w₂ hw₂ ↦ ?_) fun _ _ h ↦ h)
      have hclosed : Closed w₂ := ⟨_, hw₂, by decide⟩
      exact hclosed.finish (L.bind (L.setRestartPos hrestart 0) fun _ ↦ L.pure FtpRet.success)
    · have hfinal : Final (ofString "350 Restarting transfer at " ++ fmtInt offset ++
          [cr, lf]) := by
        rw [List.append_assoc]
        exact final_append (by decide) (by decide) _
      refine (wp_bind _ _).2 (wp_mono (replyFormat_closed hw ready_start hfinal) (fun _ w₁ hw₁ ↦ ?_)
        fun _ _ h ↦ h)
      exact hw₁.finish (L.bind (L.setRestartPos hrestart offset) fun _ ↦
        L.bind (L.observeRestart hrestart rfl) fun _ ↦ L.pure FtpRet.success)
  refine (talking_keeps _).bind L.trimArgument hw fun strpos w₁ hw₁ ↦ ?_
  dsimp only
  split_ifs
  · exact (talking_keeps _).bind (L.setErrno _) hw₁ fun _ w₂ hw₂ ↦ hrest _ w₂ hw₂
  · exact hrest _ w₁ hw₁

theorem douser_replied : wp e (douser config) Replied (fun _ ↦ AnsweredSoFar) w := by
  have L := silent_login
  rw [douser, wp_bind, wp_getSession]
  dsimp only
  by_cases hin : w.st.session.login.loggedIn = true
  · rw [if_pos hin]
    exact say_replied hw ready_start (by decide) _
  rw [if_neg hin]
  have hnull := L.rename ({ · with user := .null }) ⟨fun _ ↦ rfl, fun _ h ↦ by cases h⟩
  refine (talking_keeps _).bind hnull hw fun _ w₁ hw₁ ↦ ?_
  split_ifs
  · exact say_replied hw₁ ready_start (by decide) _
  · refine (wp_bind _ _).2 (wp_mono (replyMsg_closed hw₁ ready_start (by decide))
      (fun _ w₂ hw₂ ↦ ?_) fun _ _ h ↦ h)
    exact hw₂.finish (L.bind (L.named _) fun _ ↦
      L.bind (L.rename _ ⟨fun _ ↦ rfl, fun _ h ↦ h⟩) fun _ ↦ L.pure FtpRet.success)
  · refine (talking_keeps _).bind (L.sysOther rfl) hw₁ fun r w₂ hw₂ ↦ ?_
    rcases r with - | block
    · exact hw₂.replied (by decide)
    refine (talking_keeps _).bind (L.rename _ ⟨fun _ ↦ rfl, fun _ h ↦ by cases h⟩) hw₂
      fun _ w₃ hw₃ ↦ ?_
    have hfinal : Final (ofString "331 Pass required for user " ++
        w.st.session.command.argument ++ [cr, lf]) := by
      rw [List.append_assoc]
      exact final_append (by decide) (by decide) _
    refine (wp_bind _ _).2 (wp_mono (replyFormat_closed hw₃ ready_start hfinal) (fun _ w₄ hw₄ ↦ ?_)
      fun _ _ h ↦ h)
    exact hw₄.finish (L.bind (L.named _) fun _ ↦ L.pure FtpRet.success)

theorem dopass_replied : wp e (dopass config) Replied (fun _ ↦ AnsweredSoFar) w := by
  have L := silent_login
  rw [dopass, wp_bind, wp_getSession]
  by_cases hin : w.st.session.login.loggedIn = true
  · rw [if_pos hin]
    exact say_replied hw ready_start (by decide) _
  rw [if_neg hin]
  by_cases hanon : w.st.session.login.anonymous = true
  · rw [if_pos hanon]
    refine (wp_bind _ _).2 (wp_mono (replyMsg_closed hw ready_start (by decide)) (fun _ w₁ hw₁ ↦ ?_)
      fun _ _ h ↦ h)
    exact hw₁.finish (L.bind (L.initVfsPool _) fun _ ↦
      L.bind (L.initStatePool (L.statePool L.process)) fun _ ↦
      L.bind L.logIn fun _ ↦ L.bind (L.loggedIn _) fun _ ↦ L.pure FtpRet.success)
  rw [if_neg hanon]
  split
  -- reading a name that was never assigned is the end of the run
  · rename_i huser
    rw [huser, badUser, if_pos rfl]
    exact (hw.noted (n := .observe .unassigned) rfl trivial).answered
  · exact say_replied hw ready_start (by decide) _
  · refine (talking_keeps _).bind (L.loginUser (L.statePool L.process) L.initVfsPool _ _) hw
      fun userId w₁ hw₁ ↦ ?_
    split_ifs
    · exact say_replied hw₁ ready_start (by decide) _
    refine (talking_keeps _).bind (L.checked (L.sysOther rfl)) hw₁ fun r w₂ hw₂ ↦ ?_
    rcases r with - | -
    · exact hw₂.replied (by decide)
    refine (talking_keeps _).bind (L.sendState L.process _) hw₂ fun _ w₃ hw₃ ↦ ?_
    refine (talking_keeps _).bind L.logIn hw₃ fun _ w₄ hw₄ ↦ ?_
    refine (talking_keeps _).bind (L.loggedIn _) hw₄ fun _ w₅ hw₅ ↦ ?_
    exact say_replied hw₅ ready_start (by decide) _

end Handlers

/-! ### Commands with a data connection -/

/-- What `accept_data_conn` may lead to. -/
def AcceptedOr : DataConn → World → Prop
  | .failed => Closed
  | .sock _ | .quit => Talking .start

theorem acceptDataConn_answers (hw : Talking .start w) :
    wp e acceptDataConn AcceptedOr (fun _ ↦ AnsweredSoFar) w := by
  have L := silent_handlers loadDefaults
  have hdesc : Topic.descriptor ≠ .path ∧ NoReply .descriptor := by decide
  rw [acceptDataConn, wp_bind, wp_getSession]
  have haccept := L.checked (L.sys (.accept w.st.session.conn.pasvSock) hdesc)
  refine (talking_keeps _).bind haccept hw fun r w₁ hw₁ ↦ ?_
  rcases r with - | ⟨fd, client⟩
  · refine (talking_keeps _).bind (L.interruptedToQuit ⟨trivial, trivial⟩) hw₁ fun b w₂ hw₂ ↦ ?_
    split_ifs
    · exact hw₂
    rw [wp_bind, wp_errnoIs]
    split_ifs
    · exact hw₂
    · exact (wp_bind _ _).2 (replyMsg_closed hw₂ ready_start (by decide))
  · exact hw₁

section Transfers

variable (hw : Talking .start w)
include hw

theorem announceTransfer_answers :
    wp e announceTransfer (fun _ ↦ Talking .begun) (fun _ ↦ AnsweredSoFar) w := by
  have L := silent_handlers loadDefaults
  refine (wp_bind _ _).2 (wp_mono (replyMsg_talking hw _) (fun _ w₁ hw₁ ↦ ?_) fun _ _ h ↦ h)
  exact (talking_keeps _).wp (L.bind (L.modifyInfo _ (by decide)) fun _ ↦
    L.bind (L.sendState L.process _) fun _ ↦ L.pure ()) hw₁ fun _ _ h ↦ h

omit hw in
theorem transferReply_answers (hw : Talking .begun w) (ret : FtpRet) :
    wp e (transferReply ret) (fun _ ↦ Closed) (fun _ ↦ AnsweredSoFar) w := by
  cases ret <;> exact replyMsg_closed hw ready_begun (by decide)

theorem retrData_replied (data file : Stream) (offset filesize : ℤ) :
    wp e (retrData config data file offset filesize) Replied (fun _ ↦ AnsweredSoFar) w := by
  have L := silent_handlers config
  have hdesc : Topic.descriptor ≠ .path ∧ NoReply .descriptor := by decide
  have hrestart : Topic.restart ≠ .path ∧ NoReply .restart := by decide
  refine (wp_bind _ _).2 (wp_mono (announceTransfer_answers hw) (fun _ w₁ hw₁ ↦ ?_) fun _ _ h ↦ h)
  refine (talking_keeps _).bind (L.observeRestart hrestart rfl) hw₁ fun _ w₂ hw₂ ↦ ?_
  refine (talking_keeps _).bind (L.transferFile ⟨trivial, trivial⟩ _ _ _ _) hw₂ fun ret w₃ hw₃ ↦ ?_
  refine (wp_bind _ _).2 (wp_mono (transferReply_answers hw₃ ret) (fun _ w₄ hw₄ ↦ ?_) fun _ _ h ↦ h)
  refine hw₄.finish (L.bind (L.modifySession _ fun _ ↦ ⟨rfl, rfl, rfl, .inr rfl, .inl hrestart,
    .inl L.progress, .inl rfl⟩)
    fun _ ↦ L.bind (L.sendState L.process _) fun _ ↦ L.bind (L.vfsClose hdesc _) fun _ ↦ ?_)
  exact L.bind L.getSession fun _ ↦ L.bind (L.close hdesc _) fun _ ↦
    L.observeOffset hrestart _ (fun _ ↦ rfl) (L.pure _)

theorem retrAccepted_replied (basename : Bytes) (filesize : ℤ) (fd dataFd : ℕ) :
    wp e (retrAccepted config basename filesize fd dataFd) Replied (fun _ ↦ AnsweredSoFar) w := by
  have L := silent_handlers config
  have hdesc : Topic.descriptor ≠ .path ∧ NoReply .descriptor := by decide
  rw [retrAccepted, wp_bind, wp_getSession]
  dsimp only
  by_cases hlarge : w.st.session.restartPos > filesize
  · rw [if_pos hlarge]
    refine (talking_keeps _).bind (L.vfsClose hdesc _) hw fun _ w₁ hw₁ ↦ ?_
    refine (talking_keeps _).bind (L.close hdesc _) hw₁ fun _ w₂ hw₂ ↦ ?_
    refine sayFormat_replied hw₂ ready_start ?_ _
    simp only [List.append_assoc]
    exact final_append (by decide) (by decide) _
  · rw [if_neg hlarge]
    exact retrData_replied hw _ _ _ _

theorem storData_replied (file data : Stream) :
    wp e (storData config file data) Replied (fun _ ↦ AnsweredSoFar) w := by
  have L := silent_handlers config
  have hdesc : Topic.descriptor ≠ .path ∧ NoReply .descriptor := by decide
  have hrestart : Topic.restart ≠ .path ∧ NoReply .restart := by decide
  refine (wp_bind _ _).2 (wp_mono (announceTransfer_answers hw) (fun _ w₁ hw₁ ↦ ?_) fun _ _ h ↦ h)
  rw [wp_bind, wp_getSession]
  refine (talking_keeps _).bind (L.observeRestart hrestart rfl) hw₁ fun _ w₂ hw₂ ↦ ?_
  refine (talking_keeps _).bind (L.storeFile ⟨trivial, trivial⟩ _ _) hw₂ fun ret w₃ hw₃ ↦ ?_
  refine (wp_bind _ _).2 (wp_mono (transferReply_answers hw₃ ret) (fun _ w₄ hw₄ ↦ ?_) fun _ _ h ↦ h)
  refine hw₄.finish (L.bind (L.modifyInfo _ (by decide)) fun _ ↦
    L.bind (L.sendState L.process _) fun _ ↦
    L.bind (L.vfsClose hdesc _) fun _ ↦ L.bind (L.close hdesc _) fun _ ↦ ?_)
  exact L.observeOffset hrestart _ (fun _ ↦ rfl) (L.pure _)

theorem doretr_replied : wp e (doretr config) Replied (fun _ ↦ AnsweredSoFar) w := by
  have L := silent_handlers config
  have hdesc : Topic.descriptor ≠ .path ∧ NoReply .descriptor := by decide
  have hclose : ∀ (fd sock : ℤ) (ret : FtpRet), Within (fun w ↦ Jail w ∧ True)
      (fun w w' ↦ KeepsJail w w' ∧ KeepsSilence w w')
      (do setDataSock sock; vfsClose fd; return ret) := fun fd sock ret ↦
    L.bind (L.setDataSock hdesc _) fun _ ↦ L.bind (L.vfsClose hdesc fd) fun _ ↦ L.pure ret
  refine L.doretr_wp (talking_keeps _) (fun _ ↦ Talking .start) (fun _ ↦ AcceptedOr)
    (fun msg hmsg _ hw ↦ ?_) (fun _ hw ↦ failedVfsReply_pure_replied hw ready_start _)
    (fun w hw path hpath ↦ ?_) (fun _ _ hw ↦ acceptDataConn_answers hw)
    (fun _ _ hw ↦ Closed.finish hw (hclose _ _ _)) (fun fd w hw ↦ ?_)
    (fun fd dataFd filesize w₀ w _ hw ↦ ?_) hw (by decide)
  · simp only [fileRefusals, List.mem_cons, List.not_mem_nil, or_false] at hmsg
    rcases hmsg with rfl | rfl <;> exact say_replied hw ready_start (by decide) _
  · have hopen := L.vfsCall w ⟨hw.jail, trivial⟩ .open path ⟨trivial, by decide⟩ hpath
    refine (talking_keeps _).wp hopen hw fun r _ h ↦ ?_
    rcases r with - | fd <;> exact h
  · refine (talking_keeps _).bind (L.setDataSock hdesc _) hw fun _ w₁ hw₁ ↦ ?_
    exact (talking_keeps _).bind (L.vfsClose hdesc _) hw₁ fun _ _ h ↦ h.replied (by decide)
  · exact (talking_keeps _).bind (L.setDataSock hdesc _) hw fun _ _ h ↦
      retrAccepted_replied h _ _ _ _

theorem dostor_replied : wp e (dostor config) Replied (fun _ ↦ AnsweredSoFar) w := by
  have L := silent_handlers config
  have hdesc : Topic.descriptor ≠ .path ∧ NoReply .descriptor := by decide
  refine L.dostor_wp (talking_keeps _) (fun _ ↦ Talking .start) (fun _ ↦ AcceptedOr)
    (fun msg hmsg _ hw ↦ ?_) (fun _ hw ↦ failedVfsReply_pure_replied hw ready_start _)
    (fun w hw path hpath ↦ ?_) (fun _ _ hw ↦ acceptDataConn_answers hw) (fun _ _ hw ↦ ?_)
    (fun _ _ hw ↦ ?_) (fun _ _ _ hw ↦ storData_replied hw _ _) hw (by decide)
  · simp only [fileRefusals, List.mem_cons, List.not_mem_nil, or_false] at hmsg
    rcases hmsg with rfl | rfl <;> exact say_replied hw ready_start (by decide) _
  · have hcreat := L.vfsCall w ⟨hw.jail, trivial⟩ (.creat 0o777) path ⟨trivial, by decide⟩ hpath
    refine (talking_keeps _).wp hcreat hw fun r _ h ↦ ?_
    rcases r with - | fd <;> exact h
  · exact Closed.finish hw (L.bind (L.vfsClose hdesc _) fun _ ↦ L.pure FtpRet.success)
  · exact (talking_keeps _).bind (L.vfsClose hdesc _) hw fun _ _ h ↦ h.replied (by decide)

end Transfers

/-! ### `LIST` -/

/-- An `opendir` failed. -/
def Exchange.dirRefused (s : Exchange) : Exchange := { s with refused := true }

/-- The current directory itself always fits the buffer. -/
theorem vfsRealpath_dot (hw : Jail w) {cwd : Bytes} (hcwd : Canonical cwd) (hnul : nul ∉ cwd) :
    wp e (vfsRealpath cwd [dot]) (fun ok _ ↦ ok = true) (fun _ _ ↦ True) w := by
  have hnorm : normalizeWithin slash dot ftpMaxPath (baseOf cwd [dot]) [dot] =
      some (baseOf cwd [dot]) := by
    rw [normalizeWithin, List.splitOn_eq_singleton (by decide), List.foldlM_cons]
    simp [stepWithin]
  refine wp_mono (vfsRealpath_jail hw hcwd hnul (by decide)) ?_ fun _ _ _ ↦ trivial
  rintro (_ | _) w' ⟨-, -, hlocated⟩
  · rw [if_neg Bool.false_ne_true, hnorm] at hlocated
    cases hlocated
  · rfl

/-- The call of `opendir`. -/
theorem sys_opendir_answers (hw : Talking s w) {path : Bytes} (hbelow : BelowRoot w.trace path) :
    wp e (checked (sys (.path .opendir path)))
      (fun r ↦ if r.isSome then Talking s else Talking s.dirRefused) (fun _ ↦ AnsweredSoFar) w := by
  refine wp_checked.2 (wp_sys (fun r _ ↦ ?_) hw.answered)
  have hjail : Jail (answered w (.path .opendir path) r) :=
    hw.jail.append (x := .call (.path .opendir path) r) rfl hbelow rfl rfl rfl
  have hanswered : AnsweredSoFar (answered w (.path .opendir path) r) :=
    atEach_concat.2 ⟨hw.answered, trivial⟩
  have hstep : exchange (answered w (.path .opendir path) r).trace =
      s.step (.call (.path .opendir path) r) := by
    rw [answered_trace, exchange, List.foldl_concat]
    exact congrArg (fun s : Exchange ↦ s.step (.call (.path .opendir path) r)) hw.exchange
  obtain ⟨async, err | dir⟩ := r
  · exact ⟨hjail.of_eq rfl rfl rfl, hstep, hanswered⟩
  · exact ⟨hjail, hstep, hanswered⟩

/-- `opendir` of the current directory fails only if the call does. -/
theorem opendir_answers (hw : Talking s w) :
    wp e (vfsOpendir (cstr w.st.session.virtPath) [dot])
      (fun r ↦ if r.isSome then Talking s else Talking s.dirRefused) (fun _ ↦ AnsweredSoFar) w := by
  have hcwd := hw.jail.canonical
  have hnul := zero_not_mem_cstr w.st.session.virtPath
  have hdot : nul ∉ [dot] := by decide
  have hsilent := keepsSilence_steps.vfsRealpath (fun _ ↦ keepsSilence_modify _)
    (cstr w.st.session.virtPath) [dot]
  have hresolve := wp_and (vfsRealpath_wp (e := e) hw.jail hcwd hnul hdot)
    (wp_and (vfsRealpath_dot hw.jail hcwd hnul) (hsilent.wp trivial))
  refine (wp_bind _ _).2 (wp_mono hresolve (fun ok w₁ h₁ ↦ ?_) fun _ w₁ h₁ ↦ ?_)
  · obtain ⟨⟨hjail, hres⟩, rfl, hk⟩ := h₁
    rw [Bool.not_true, if_neg Bool.false_ne_true, wp_bind]
    exact realPath_wp hjail (hres rfl) fun path hbelow ↦
      sys_opendir_answers (hw.keep hjail hk) hbelow
  · exact (hw.keep h₁.1 h₁.2.2).answered

/-- What holds when the listing is over: a directory that could not be opened has been reported. -/
def ListedOr (ret : FtpRet) (w : World) : Prop :=
  Talking .begun w ∨ ret = .error ∧ Completed Exchange.begun.dirRefused w

theorem listDirectory_answers (hw : Talking .begun w) {w₀ : World} (hw₀ : Jail w₀ ∧ True)
    {dirname : Bytes} (hpath : nul ∉ dirname)
    (hlf : lf ∉ w₀.st.session.command.argument → lf ∉ dirname) (optA : Bool) :
    wp e (listDirectory config dirname optA) ListedOr (fun _ ↦ AnsweredSoFar) w := by
  have L := silent_handlers config
  have hdesc : Topic.descriptor ≠ .path ∧ NoReply .descriptor := by decide
  rw [listDirectory, wp_bind, wp_getSession]
  refine (talking_keeps _).bind (L.vfsChdir w₀ hw₀ _ hpath hlf) hw fun _ w₁ hw₁ ↦ ?_
  rw [wp_bind, wp_getSession]
  refine (wp_bind _ _).2 (wp_mono (opendir_answers hw₁) (fun r w₂ hw₂ ↦ ?_) fun _ _ h ↦ h)
  rcases r with - | drv
  · exact (wp_bind _ _).2 (wp_mono (failedVfsReply_completed hw₂ rfl) (fun _ _ h ↦ .inr ⟨rfl, h⟩)
      fun _ _ h ↦ h)
  · refine (talking_keeps _).bind (L.listEntries _ _) hw₂ fun _ w₃ hw₃ ↦ ?_
    have hclose := L.bind (L.checked (L.sys (.closedir drv) hdesc)) fun _ ↦ L.pure ()
    refine (talking_keeps _).bind hclose hw₃ fun _ w₄ hw₄ ↦ ?_
    exact (talking_keeps _).bind (L.restore w ⟨hw.jail, trivial⟩) hw₄ fun _ _ h ↦ .inl h

theorem listReply_answers {ret : FtpRet} (hw : ListedOr ret w) :
    wp e (listReply ret) (fun _ ↦ Closed) (fun _ ↦ AnsweredSoFar) w := by
  rcases hw with hw | ⟨rfl, d, -, hw⟩
  · cases ret <;> exact replyMsg_closed hw ready_begun (by decide)
  · refine wp_mono (replyMsg_completed hw rfl (by decide)) (fun _ w₁ h ↦ ?_) fun _ _ h ↦ h
    -- three replies
    obtain ⟨d', -, hw₁⟩ := h
    refine ⟨_, hw₁, iff_of_false (fun hanswered ↦ ?_) Bool.noConfusion⟩
    obtain ⟨-, d'', -, h | h⟩ := hanswered <;> cases h

theorem listData_replied (hw : Talking .start w) (statarg : Stat) {w₀ : World}
    (hw₀ : Jail w₀ ∧ True) {argument : Bytes} (hpath : nul ∉ argument)
    (hlf : lf ∉ w₀.st.session.command.argument → lf ∉ argument) (optA : Bool) :
    wp e (listData config statarg argument optA) Replied (fun _ ↦ AnsweredSoFar) w := by
  have L := silent_handlers config
  have hdesc : Topic.descriptor ≠ .path ∧ NoReply .descriptor := by decide
  have hreply : ∀ ret w, ListedOr ret w → wp e (do
      listReply ret
      let _ ← checked (sys (.close (← getSession).conn.dataSock))
      return FtpRet.success) Replied (fun _ ↦ AnsweredSoFar) w := by
    intro ret w hw
    refine (wp_bind _ _).2 (wp_mono (listReply_answers hw) (fun _ w₁ hw₁ ↦ ?_) fun _ _ h ↦ h)
    exact hw₁.finish (L.bind L.getSession fun _ ↦ L.bind (L.close hdesc _) fun _ ↦
      L.pure FtpRet.success)
  refine (wp_bind _ _).2 (wp_mono (replyMsg_talking hw _) (fun _ w₁ hw₁ ↦ ?_) fun _ _ h ↦ h)
  split_ifs
  · exact (wp_bind _ _).2 (wp_mono (listDirectory_answers hw₁ hw₀ hpath hlf optA)
      (fun ret w₂ hw₂ ↦ hreply ret w₂ hw₂) fun _ _ h ↦ h)
  · exact (talking_keeps _).bind (L.listFile hpath) hw₁ fun ret w₂ hw₂ ↦ hreply ret w₂ (.inl hw₂)

theorem dolist_replied (hw : Talking .start w) :
    wp e (dolist config) Replied (fun _ ↦ AnsweredSoFar) w := by
  have L := silent_handlers config
  have hdesc : Topic.descriptor ≠ .path ∧ NoReply .descriptor := by decide
  refine L.dolist_wp (talking_keeps _) AcceptedOr (fun _ hw ↦ failedVfsReply_replied hw ready_start)
    (fun _ hw ↦ acceptDataConn_answers hw) (fun _ hw ↦ ?_) (fun _ hw ↦ ?_)
    (fun dataFd statarg argument optA w₀ _ hw₀ hpath hlf hw ↦ ?_) hw
  · exact Closed.finish hw (L.bind (L.setDataSock hdesc _) fun _ ↦ L.pure FtpRet.success)
  · exact (talking_keeps _).bind (L.setDataSock hdesc _) hw fun _ _ h ↦ h.replied (by decide)
  · exact (talking_keeps _).bind (L.setDataSock hdesc _) hw fun _ _ h ↦
      listData_replied h statarg hw₀ hpath hlf optA

/-! ### Sessions -/

theorem handler_replied {cmd : CmdHandler} (hcmd : cmd ∈ coreCommandList config)
    (hw : Talking .start w) : wp e cmd.handler Replied (fun _ ↦ AnsweredSoFar) w := by
  have hsay : ∀ msg : String, Final (ofString msg) → ∀ ret : FtpRet,
      wp e (do replyMsg msg; return ret) Replied (fun _ ↦ AnsweredSoFar) w :=
    fun _ hmsg ret ↦ say_replied hw ready_start hmsg ret
  refine (forall_handler (Q := fun _ h ↦ wp e h Replied (fun _ ↦ AnsweredSoFar) w)).2
    ⟨?abor, ?acct, ?allo, docdup_replied hw, ?clnt, docwd_replied hw, dofeat_replied hw,
      dolist_replied hw, domdtm_replied hw, domkd_replied hw, ?noop, ?opts, dopass_replied hw,
      dopasv_replied hw, dopwd_replied hw, ?quit, dorest_replied hw, dodele_replied hw,
      doretr_replied hw, dormd_replied hw, dosize_replied hw, ?syst, dotype_replied hw,
      douser_replied hw, dostor_replied hw⟩ cmd hcmd
  all_goals exact hsay _ (by decide) _

/-- The invariant of the main loop. -/
structure AnswersInv (w : World) : Prop where
  jail : Jail w
  answered : AnsweredSoFar w

theorem AnswersInv.dispatch (hw : AnswersInv w) (verb argument : Bytes) :
    Talking .start (noted w (.dispatch verb argument)) where
  jail := hw.jail.noted rfl
  exchange := by rw [noted_trace, FtpServer.exchange, List.foldl_concat]; rfl
  answered := atEach_concat.2 ⟨hw.answered, trivial⟩

theorem Replied.finished {ret : FtpRet} (hw : Replied ret w) :
    AnswersInv (noted w (.finished ret)) := by
  obtain ⟨s, hs, hret⟩ := hw
  refine ⟨hs.jail.noted rfl, atEach_concat.2 ⟨hs.answered, ?_⟩⟩
  cases ret with
  | success =>
    rw [SuccessAnswered, hs.exchange]
    exact hret rfl
  | _ => trivial

theorem doCmd_answers (hw : AnswersInv w) :
    wp e (doCmd config) (fun _ ↦ AnswersInv) (fun _ ↦ AnsweredSoFar) w := by
  have hw₁ := hw.dispatch (cstr w.st.session.command.line) w.st.session.command.argument
  refine doCmd_wp rfl (say_replied hw₁ ready_start (by decide) _) (fun msg hmsg ↦ ?_)
    (fun cmd hcmd _ ↦ handler_replied hcmd hw₁) fun ret w₂ hw₂ ↦ hw₂.finished
  simp only [refusals, List.mem_cons, List.not_mem_nil, or_false] at hmsg
  rcases hmsg with rfl | rfl | rfl <;> exact say_replied hw₁ ready_start (by decide) _

/-- Outside of commands, no entry ends a command. -/
theorem answered_steps :
    StepLogic (fun _ ↦ True) AnsweredSoFar fun _ ↦ AnsweredSoFar where
  toCallLogic := .of_observe (guard_inv _) trivial (fun _ ↦ trivial)
    (fun _ _ ↦ within_sys (guard_inv _) fun _ _ hw ↦ atEach_concat.2 ⟨hw, trivial⟩)
    (fun _ ↦ within_setErrno fun _ hw ↦ hw)
    fun _ _ ↦ within_mark fun _ hw ↦ atEach_concat.2 ⟨hw, trivial⟩
  statePool _ _ := within_modify fun _ hw ↦ hw
  modifySession _ _ := within_modify fun _ hw ↦ hw
  undefined _ _ _ _ := within_mark fun _ hw ↦ atEach_concat.2 ⟨hw, trivial⟩

theorem answers_session (config : FtpConfig) (sock : ℤ) (e : Env) :
    SessionRule (fun t ↦ t ≠ .path ∧ True) (fun w ↦ Jail w ∧ AnsweredSoFar w)
      (fun w w' ↦ KeepsJail w w' ∧ AnsweredSoFar w') config sock e AnswersInv AnsweredSoFar where
  toCallLogic := (jail_steps.prod answered_steps).toCallLogic
  assume _ hw := ⟨hw.jail, hw.answered⟩
  keepInv _ _ _ hk := ⟨hk.1, hk.2⟩
  mid _ hw := hw.answered
  control := by decide
  welcome := (jail_steps.prod answered_steps).reply (by decide) _ _ (by decide)
  tooLong _ _ := (jail_steps.prod answered_steps).reply (by decide) _ _ (by decide)
  signal waiter := ((jail_handlers config).serverHandleSignal waiter trivial).prod
    (answered_steps.serverHandleSignal waiter (fun _ ↦ within_modify fun _ hw ↦ hw)
      (within_mark fun _ hw ↦ atEach_concat.2 ⟨hw, trivial⟩))
  command _ := (within_modify fun _ hw ↦ hw.of_eq rfl rfl rfl).prod (within_modify fun _ hw ↦ hw)
  doCmd _ hw := doCmd_answers hw
  endSession w hw := by
    have hbye := answered_steps.reply trivial sock (ofString "421 Goodbye!\r\n") (by decide)
    have hend := answered_steps.endSession ⟨trivial, trivial⟩
      (fun _ _ ↦ within_modify fun _ hw ↦ hw) sock hbye
    exact wp_always.2 (hend e w hw.answered)

theorem unanswered_calls (s : Process) :
    CallLogic (· = .other) (fun w ↦ NoSession s w ∧ AnsweredSoFar w) fun _ w' ↦
      NoSession s w' ∧ AnsweredSoFar w' :=
  ((noSession_calls s).prod answered_steps.toCallLogic).mono (fun _ h ↦ ⟨h, trivial⟩) rfl

/-- **Every command that succeeds is answered once.** Whatever the client sends and the calls
return, a command whose handler returns `FTP_SUCCESS` was answered with one completion reply, behind
at most one preliminary reply, if and only if no `opendir` failed since it was dispatched. -/
theorem ftpMain_answers (config : FtpConfig) (sock writePipe : ℤ) (e : Env) (s : Process)
    (hs : s.vfsPool = none) :
    AtEach SuccessAnswered (ftpMain config sock writePipe e (World.start s)).2.trace := by
  refine wp_always.1 (ftpMain_wp (unanswered_calls s) sock writePipe AnswersInv (T := AnsweredSoFar)
    ?_ ?_ ?_ ?_ ?_)
  · exact fun _ _ hw ↦ ⟨⟨hw.1.session, hw.1.vfsPool, hw.1.jailed⟩, hw.2⟩
  · exact fun _ _ _ _ _ hw _ hvirt ↦ ⟨hw.1.fresh _ _ hvirt, hw.2⟩
  · exact fun _ hw ↦ (answers_session config sock e).serveSession hw
  · exact fun _ hw ↦ hw.2
  · exact ⟨⟨rfl, hs, atEach_nil _⟩, atEach_nil _⟩

/-- A client that lists its directory. -/
def listingClient (script : List Call → (c : Call) → Option (Answer c)) : Env :=
  clientEnvWith script [ofString "USER anonymous\r\nPASS x\r\nPASV\r\nLIST\r\n"]

/-- The directory is one, but cannot be opened. -/
def unreadableDirectory (_ : List Call) : (c : Call) → Option (Answer c)
  | .path .lstat _ => some ⟨[], .ok ⟨.dir, 2, 0, 0, 4096, 0⟩⟩
  | .path .stat _ => some ⟨[], .ok ⟨.dir, 2, 0, 0, 4096, 0⟩⟩
  | .path .opendir _ => some ⟨[], .error .eacces⟩
  | _ => none

theorem listingClient_answers :
    AtEach SuccessAnswered (ftpMain { loadDefaults with anonRootDir := some (ofString "/srv") } 4 5
      (listingClient unreadableDirectory) (World.start (Process.initial 1))).2.trace :=
  ftpMain_answers _ 4 5 _ (Process.initial 1) rfl

/-- Then `LIST` succeeds, and is answered 125, 550 and 450. -/
theorem listingClient_twice :
    ¬AtEach AnsweredOnce
      (ftpMain { loadDefaults with anonRootDir := some (ofString "/srv") } 4 5
        (listingClient unreadableDirectory) (World.start (Process.initial 1))).2.trace := by
  decide +kernel

end FtpServer
