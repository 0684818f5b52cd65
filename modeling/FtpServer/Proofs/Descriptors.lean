import FtpServer.Proofs.Handles

/-!
# The descriptors of a command

A command closes what it opens, and nothing else: `PASV` trades the old listening socket for the new
one, the others leave what they found. The exception is a `STOR` that has created its file and gets
no data connection: the variable that held the descriptor was overwritten, and the file stays open
(`handler_descriptors`).

* `Released` and `Lost` are the two ways for a command to end, and `PasvTraded` a third one that
  only `PASV` has.
* `LIST`, `RETR` and `STOR` are taken stage by stage. Both transfers end with the same two calls
  (`closeBoth_handles`).
* A command that opens and closes nothing has released everything (`Holding.wp_released`).
-/

namespace FtpServer

open CString Effect Effect.Proc Ledger

variable {config : FtpConfig} {e : Env} {w : World} {α : Type} {start held : List Handle}
  {conn : FtpConn} {created refused : Bool} {Q : FtpRet → World → Prop}

/-! ### `LIST`, `RETR` and `STOR` -/

/-- Everything that was opened is closed, and the listening socket is what it was. -/
structure Released (pasvSock : ℤ) (w : World) : Prop where
  handles : handlesAfter [] w.trace = some []
  pasvSock : w.st.session.conn.pasvSock = pasvSock
  kept : ¬LosesFile w.trace

/-- The file that was created is open. -/
structure Lost (w : World) : Prop where
  handles : handlesAfter [] w.trace ≠ some []
  loses : LosesFile w.trace

theorem Holding.released (h : Holding [] [] conn created refused w) {pasvSock : ℤ}
    (hpasv : conn.pasvSock = pasvSock) (hkept : created = true → refused = false) :
    Released pasvSock w where
  handles := h.handles
  pasvSock := (congrArg FtpConn.pasvSock h.conn).trans hpasv
  kept hlost := by
    have hrefused := h.refused.symm.trans hlost.2
    rw [hkept (h.created.symm.trans hlost.1)] at hrefused
    cases hrefused

/-- A program that opens and closes nothing, at the end of a command. -/
theorem Holding.wp_released {m : Program α} (hm : Within (fun _ ↦ True) KeepsHandles m)
    (h : Holding [] [] conn created refused w) {pasvSock : ℤ}
    (hpasv : conn.pasvSock = pasvSock) (hkept : created = true → refused = false) :
    wp e m (fun _ ↦ Released pasvSock) (fun _ _ ↦ True) w :=
  holding_keeps.wp hm h fun _ _ h ↦ h.released hpasv hkept

theorem Holding.setDataSock (h : Holding start held conn created refused w) (fd : ℤ)
    {f : Program α} {T : α → World → Prop}
    (hf : ∀ w, Holding start held { conn with dataSock := fd } created refused w →
      wp e f T (fun _ _ ↦ True) w) : wp e (do setDataSock fd; f) T (fun _ _ ↦ True) w := by
  obtain ⟨hhandles, rfl, hcreated, hrefused⟩ := h
  exact hf _ ⟨hhandles, rfl, hcreated, hrefused⟩

theorem erase_pair (a b : Handle) : [a, b].erase b = [a] := by
  by_cases h : a = b
  · simp [h]
  · simp [h]

/-- The close of a directory that is held. -/
theorem Holding.vfsClosedir (h : Holding start held conn created refused w) {dir : ℕ}
    (hmem : .dir dir ∈ held) :
    wp e (vfsClosedir dir) (fun _ ↦ Holding start (held.erase (.dir dir)) conn created refused)
      (fun _ _ ↦ True) w := by
  refine (wp_bind _ _).2 (wp_checked.2 (wp_sys (fun r _ ↦ ?_) trivial))
  have h₁ : Holding start (held.erase (.dir dir)) conn created refused
      (answered w (.closedir dir) r) := by
    simpa [creates, refuses] using h.release (c := .closedir dir) (r := r) rfl hmem
  obtain ⟨async, err | u⟩ := r
  · exact h₁.errno err
  · exact h₁

section Listing

variable {dataFd : ℕ} {w₀ : World} {path : Bytes} (hpath : nul ∉ path)
  (hlf : lf ∉ w₀.st.session.command.argument → lf ∉ path)
include hpath hlf

/-- `list_directory` closes the directory. -/
theorem listDirectory_handles (h : Holding start held conn created refused w) (optA : Bool) :
    wp e (listDirectory config path optA) (fun _ ↦ Holding start held conn created refused)
      (fun _ _ ↦ True) w := by
  have L := keepsHandles_handlers config
  rw [FtpServer.listDirectory, wp_bind, wp_getSession]
  refine holding_keeps.bind (L.vfsChdir w₀ trivial path hpath hlf) h fun _ w₁ h₁ ↦ ?_
  rw [wp_bind, wp_getSession]
  refine (wp_bind _ _).2 (wp_mono (h₁.vfsOpendir _ _) (fun r w₂ h₂ ↦ ?_) fun _ _ h ↦ h)
  rcases r with - | drv
  · exact holding_keeps.wp (L.failedVfsReply_pure (by decide) _) h₂ fun _ _ h ↦ h
  refine holding_keeps.bind (L.listEntries drv optA) h₂ fun _ w₃ h₃ ↦ ?_
  refine (wp_bind _ _).2 (wp_mono (h₃.vfsClosedir List.mem_cons_self) (fun _ w₄ h₄ ↦ ?_)
    fun _ _ h ↦ h)
  rw [List.erase_cons_head] at h₄
  exact holding_keeps.bind (L.restore w trivial) h₄ fun _ _ h ↦ h

/-- `LIST` closes the data connection. -/
theorem listData_handles (h : Holding [] [.fd dataFd] conn false false w)
    (hsock : conn.dataSock = dataFd) (statarg : Stat) (optA : Bool) :
    wp e (listData config statarg path optA) (fun _ ↦ Released conn.pasvSock)
      (fun _ _ ↦ True) w := by
  have L := keepsHandles_handlers config
  have hend : ∀ (ret : FtpRet) (w : World), Holding [] [.fd dataFd] conn false false w →
      wp e (do
        listReply ret
        let _ ← checked (sys (.close (← getSession).conn.dataSock))
        return FtpRet.success) (fun _ ↦ Released conn.pasvSock) (fun _ _ ↦ True) w := by
    intro ret w h
    refine holding_keeps.bind (L.listReply (by decide) ret) h fun _ w₁ h₁ ↦ ?_
    rw [wp_bind, wp_getSession, h₁.conn, hsock]
    refine (wp_bind _ _).2 (wp_mono (h₁.close (Int.natCast_nonneg _) List.mem_cons_self)
      (fun _ w₂ h₂ ↦ ?_) fun _ _ h ↦ h)
    rw [List.erase_cons_head] at h₂
    exact h₂.released rfl (by simp)
  refine holding_keeps.bind (L.replyMsg (by decide) _ (by decide)) h fun _ w₁ h₁ ↦ ?_
  dsimp only
  by_cases hkind : statarg.kind = .dir
  · simp only [if_pos hkind]
    exact (wp_bind _ _).2 (wp_mono (listDirectory_handles hpath hlf h₁ optA)
      (fun ret w₂ h₂ ↦ hend ret w₂ h₂) fun _ _ h ↦ h)
  · simp only [if_neg hkind]
    exact holding_keeps.bind (L.listFile hpath) h₁ fun ret w₂ h₂ ↦ hend ret w₂ h₂

end Listing

theorem dolist_handles (h : Holding [] [] conn false false w) :
    wp e (dolist config) (fun _ ↦ Released conn.pasvSock) (fun _ _ ↦ True) w := by
  have L := keepsHandles_handlers config
  refine DirectoryLogic.dolist_wp L.toDirectoryLogic holding_keeps (AcceptedWith [] [] conn false)
    (fun _ h ↦ h.wp_released (L.failedVfsReply (by decide)) rfl (by simp))
    (fun _ h ↦ h.acceptDataConn)
    (fun _ h ↦ h.setDataSock _ fun _ h ↦ h.wp_released (L.pure _) rfl (by simp))
    (fun _ h ↦ h.setDataSock _ fun _ h ↦ h.wp_released (L.pure _) rfl (by simp))
    (fun dataFd statarg argument optA w₀ _ _ hpath hlf h ↦ ?_) h
  exact h.setDataSock _ fun _ h ↦ listData_handles hpath hlf h rfl statarg optA

section Retrieving

variable {fd dataFd : ℕ}

/-- Both transfers end by closing the file and the data connection. -/
theorem closeBoth_handles {f : Program FtpRet} {T : FtpRet → World → Prop}
    (h : Holding [] [.fd dataFd, .fd fd] conn created refused w)
    (hf : ∀ w, Holding [] [] conn created refused w → wp e f T (fun _ _ ↦ True) w) :
    wp e (do vfsClose fd; let _ ← checked (sys (.close dataFd)); f) T (fun _ _ ↦ True) w := by
  have hfd : Handle.fd fd ∈ [Handle.fd dataFd, .fd fd] := List.mem_cons_of_mem _ List.mem_cons_self
  refine (wp_bind _ _).2 (wp_mono (h.vfsClose (Int.natCast_nonneg _) hfd) (fun _ w₁ h₁ ↦ ?_)
    fun _ _ h ↦ h)
  rw [erase_pair] at h₁
  refine (wp_bind _ _).2 (wp_mono (h₁.close (Int.natCast_nonneg _) List.mem_cons_self)
    (fun _ w₂ h₂ ↦ ?_) fun _ _ h ↦ h)
  rw [List.erase_cons_head] at h₂
  exact hf w₂ h₂

theorem retrData_handles (h : Holding [] [.fd dataFd, .fd fd] conn false false w)
    (hsock : conn.dataSock = dataFd) (offset filesize : ℤ) :
    wp e (retrData config ⟨dataFd, .socket⟩ ⟨fd, .file⟩ offset filesize)
      (fun _ ↦ Released conn.pasvSock) (fun _ _ ↦ True) w := by
  have L := keepsHandles_handlers config
  have hreply : NoHandle .reply := by decide
  have hrestart : NoHandle .restart := by decide
  refine holding_keeps.bind (L.announceTransfer hreply) h fun _ w₁ h₁ ↦ ?_
  refine holding_keeps.bind (L.observeRestart hrestart rfl) h₁ fun _ w₂ h₂ ↦ ?_
  refine holding_keeps.bind (L.transferFile trivial _ _ _ _) h₂ fun ret w₃ h₃ ↦ ?_
  refine holding_keeps.bind (L.transferReply hreply ret) h₃ fun _ w₄ h₄ ↦ ?_
  have hreset := keepsHandles_session (f := fun s ↦
    { s with info := { s.info with totalDown := s.info.totalDown + s.info.xferLen
                                   xferStatus := ret.code }
             restartPos := 0 }) fun _ ↦ rfl
  refine holding_keeps.bind hreset h₄ fun _ w₅ h₅ ↦ ?_
  refine holding_keeps.bind (L.sendState L.process _) h₅ fun _ w₆ h₆ ↦ ?_
  have hfd : Handle.fd fd ∈ [Handle.fd dataFd, .fd fd] := List.mem_cons_of_mem _ List.mem_cons_self
  refine (wp_bind _ _).2 (wp_mono (h₆.vfsClose (Int.natCast_nonneg _) hfd) (fun _ w₇ h₇ ↦ ?_)
    fun _ _ h ↦ h)
  rw [erase_pair] at h₇
  rw [wp_bind, wp_getSession, h₇.conn, hsock]
  refine (wp_bind _ _).2 (wp_mono (h₇.close (Int.natCast_nonneg _) List.mem_cons_self)
    (fun _ w₈ h₈ ↦ ?_) fun _ _ h ↦ h)
  rw [List.erase_cons_head] at h₈
  exact h₈.wp_released (L.observeOffset hrestart _ (fun _ ↦ rfl) (L.pure _)) rfl (by simp)

theorem retrAccepted_handles (h : Holding [] [.fd dataFd, .fd fd] conn false false w)
    (hsock : conn.dataSock = dataFd) (w₀ : World) (filesize : ℤ) :
    wp e (retrAccepted config (findBasename w₀.st.session.command.argument) filesize fd dataFd)
      (fun _ ↦ Released conn.pasvSock) (fun _ _ ↦ True) w := by
  have L := keepsHandles_handlers config
  rw [retrAccepted, wp_bind, wp_getSession]
  dsimp only
  by_cases hlarge : w.st.session.restartPos > filesize
  · rw [if_pos hlarge]
    refine closeBoth_handles h fun w h ↦ h.wp_released ?_ rfl (by simp)
    exact L.replyFormat_pure (by decide) (w := w₀) trivial
      (fun harg _ ↦ completeReply_tooLarge harg _ _) _
  · rw [if_neg hlarge]
    exact retrData_handles h hsock _ _

theorem storData_handles (h : Holding [] [.fd dataFd, .fd fd] conn true false w) :
    wp e (storData config ⟨fd, .file⟩ ⟨dataFd, .socket⟩) (fun _ ↦ Released conn.pasvSock)
      (fun _ _ ↦ True) w := by
  have L := keepsHandles_handlers config
  have hreply : NoHandle .reply := by decide
  have hrestart : NoHandle .restart := by decide
  refine holding_keeps.bind (L.announceTransfer hreply) h fun _ w₁ h₁ ↦ ?_
  refine holding_keeps.bind L.getSession h₁ fun _ w₂ h₂ ↦ ?_
  refine holding_keeps.bind (L.observeRestart hrestart rfl) h₂ fun _ w₃ h₃ ↦ ?_
  refine holding_keeps.bind (L.storeFile trivial _ _) h₃ fun ret w₄ h₄ ↦ ?_
  refine holding_keeps.bind (L.transferReply hreply ret) h₄ fun _ w₅ h₅ ↦ ?_
  refine holding_keeps.bind (L.modifyInfo _ (by decide)) h₅ fun _ w₆ h₆ ↦ ?_
  refine holding_keeps.bind (L.sendState L.process _) h₆ fun _ w₇ h₇ ↦ ?_
  refine closeBoth_handles h₇ fun w h ↦ h.wp_released ?_ rfl (by simp)
  exact L.observeOffset hrestart _ (fun _ ↦ rfl) (L.pure _)

end Retrieving

theorem doretr_handles (h : Holding [] [] conn false false w) :
    wp e (doretr config) (fun _ ↦ Released conn.pasvSock) (fun _ _ ↦ True) w := by
  have L := keepsHandles_handlers config
  have hclose : ∀ (fd : ℕ) (sock : ℤ) (ret : FtpRet) (w : World),
      Holding [] [.fd fd] conn false true w →
      wp e (do setDataSock sock; vfsClose fd; return ret) (fun _ ↦ Released conn.pasvSock)
        (fun _ _ ↦ True) w := by
    intro fd sock ret w h
    refine h.setDataSock _ fun w h ↦ (wp_bind _ _).2 (wp_mono
      (h.vfsClose (Int.natCast_nonneg _) List.mem_cons_self) (fun _ w₁ h₁ ↦ ?_) fun _ _ h ↦ h)
    rw [List.erase_cons_head] at h₁
    exact h₁.released rfl (by simp)
  refine HandlerLogic.doretr_wp L.toHandlerLogic holding_keeps
    (fun fd ↦ Holding [] [.fd fd] conn false false)
    (fun fd ↦ AcceptedWith [] [.fd fd] conn false) (fun msg hmsg _ h ↦ ?_)
    (fun _ h ↦ h.wp_released (L.failedVfsReply_pure (by decide) _) rfl (by simp))
    (fun _ h _ _ ↦ h.vfsOpen _ _) (fun _ _ h ↦ h.acceptDataConn) (fun fd _ h ↦ hclose fd _ _ _ h)
    (fun fd _ h ↦ hclose fd _ _ _ h) (fun fd dataFd filesize w₀ _ _ h ↦ ?_) h (by decide)
  · exact h.wp_released (L.replyMsg_pure (by decide) _ _ (completeReply_fileRefusal msg hmsg)) rfl
      (by simp)
  · exact h.setDataSock _ fun w h ↦ retrAccepted_handles h rfl w₀ filesize

/-- `STOR` closes what it has opened, unless it gets no data connection. -/
theorem dostor_handles (h : Holding [] [] conn false false w) :
    wp e (dostor config) (fun _ w ↦ Released conn.pasvSock w ∨ Lost w) (fun _ _ ↦ True) w := by
  have L := keepsHandles_handlers config
  have hkeep : ∀ {m : Program FtpRet} (w : World), Within (fun _ ↦ True) KeepsHandles m →
      Holding [] [] conn false false w →
      wp e m (fun _ w ↦ Released conn.pasvSock w ∨ Lost w) (fun _ _ ↦ True) w :=
    fun w hm h ↦ wp_mono (h.wp_released hm rfl (by simp)) (fun _ _ h ↦ .inl h) fun _ _ h ↦ h
  have hlost : ∀ (fd : ℕ) (closed : ℤ) (ret : FtpRet) (w : World), closed < 0 →
      Holding [] [.fd fd] conn true true w →
      wp e (do vfsClose closed; return ret) (fun _ w ↦ Released conn.pasvSock w ∨ Lost w)
        (fun _ _ ↦ True) w := by
    intro fd closed ret w hclosed h
    have hclose : Within (fun _ ↦ True) KeepsHandles (vfsClose closed) :=
      L.bind (keepsHandles_close hclosed) fun _ ↦ L.pure _
    exact holding_keeps.bind hclose h fun _ w h ↦
      .inr ⟨by rw [h.handles]; simp, h.created, h.refused⟩
  refine StepLogic.dostor_wp L.toStepLogic holding_keeps
    (fun fd ↦ Holding [] [.fd fd] conn true false)
    (fun fd ↦ AcceptedWith [] [.fd fd] conn true) (fun msg hmsg w h ↦ ?_)
    (fun w h ↦ hkeep w (L.failedVfsReply_pure (by decide) _) h)
    (fun _ h _ _ ↦ h.vfsCreat _ _ _) (fun _ _ h ↦ h.acceptDataConn)
    (fun fd w h ↦ hlost fd _ _ w (by decide) h) (fun fd w h ↦ hlost fd _ _ w (by decide) h)
    (fun fd dataFd w h ↦ ?_) h (by decide)
  · exact hkeep w (L.replyMsg_pure (by decide) _ _ (completeReply_fileRefusal msg hmsg)) h
  · exact wp_mono (storData_handles h) (fun _ _ h ↦ .inl h) fun _ _ h ↦ h

/-! ### `PASV` -/

theorem Holding.setPasvSock (h : Holding start held conn created refused w) (fd : ℤ)
    {f : Program α} {T : α → World → Prop}
    (hf : ∀ w, Holding start held { conn with pasvSock := fd } created refused w →
      wp e f T (fun _ _ ↦ True) w) : wp e (do setPasvSock fd; f) T (fun _ _ ↦ True) w := by
  obtain ⟨hhandles, rfl, hcreated, hrefused⟩ := h
  exact hf _ ⟨hhandles, rfl, hcreated, hrefused⟩

/-- `PASV` closes the listening socket it finds. -/
theorem closePasvSock_handles (h : Holding start (pasvHandles w.st) conn created refused w) :
    wp e closePasvSock
      (fun _ ↦ Holding start [] { conn with pasvSock := -1 } created refused)
      (fun _ _ ↦ True) w := by
  obtain ⟨hhandles, rfl, hcreated, hrefused⟩ := h
  have h : Holding start (pasvHandles w.st) w.st.session.conn created refused w :=
    ⟨hhandles, rfl, hcreated, hrefused⟩
  rw [closePasvSock, wp_bind, wp_getSession]
  dsimp only
  rw [pasvHandles] at h
  by_cases hsock : w.st.session.conn.pasvSock = -1
  · have hconn : { w.st.session.conn with pasvSock := -1 } = w.st.session.conn := by rw [← hsock]
    rw [if_neg (not_not.2 hsock), hconn]
    rwa [hsock] at h
  rw [if_pos hsock]
  by_cases hopen : 0 ≤ w.st.session.conn.pasvSock
  · rw [if_pos hopen] at h
    refine (wp_bind _ _).2 (wp_mono (h.close hopen List.mem_cons_self) (fun _ w₁ h₁ ↦ ?_)
      fun _ _ h ↦ h)
    rw [List.erase_cons_head] at h₁
    exact h₁.setPasvSock (-1) (f := pure ()) fun _ h ↦ h
  · rw [if_neg hopen] at h
    exact holding_keeps.bind (keepsHandles_close (not_le.1 hopen)) h fun _ w₁ h₁ ↦
      h₁.setPasvSock (-1) (f := pure ()) fun _ h ↦ h

/-- What `PASV` does with descriptors. -/
def PasvTraded (start : List Handle) (w : World) : Prop :=
  handlesAfter start w.trace = some (pasvHandles w.st) ∧ ¬LosesFile w.trace

theorem Holding.pasvTraded (h : Holding start held conn false refused w)
    (hheld : held = if 0 ≤ conn.pasvSock then [.fd conn.pasvSock] else []) :
    PasvTraded start w := by
  refine ⟨?_, fun hlost ↦ ?_⟩
  · rw [h.handles, pasvHandles, h.conn, hheld]
  · exact absurd (h.created.symm.trans hlost.1) (by simp)

theorem dopasv_handles (h : Holding start (pasvHandles w.st) conn false refused w) :
    wp e (dopasv config) (fun _ ↦ PasvTraded start) (fun _ _ ↦ True) w := by
  have L := keepsHandles_handlers config
  refine (wp_bind _ _).2 (wp_mono (closePasvSock_handles h) (fun _ w₁ h₁ ↦ ?_) fun _ _ h ↦ h)
  rw [wp_bind, wp_getSession]
  refine (wp_bind _ _).2 (wp_checked.2 (wp_sys (fun r _ ↦ ?_) trivial))
  obtain ⟨async, err | pasvSock⟩ := r
  · have h₂ := h₁.keep (show KeepsHandles w₁ (answered w₁ .socket ⟨async, .error err⟩) from
      ⟨rfl, .concat rfl ⟨rfl, rfl, rfl⟩⟩)
    exact holding_keeps.wp (L.replyMsg_pure (by decide) _ _ (by decide)) (h₂.errno err) fun _ _ h ↦
      h.pasvTraded rfl
  have h₂ := h₁.acquire (c := .socket) (r := ⟨async, .ok pasvSock⟩) rfl
  simp only [creates, refuses, Bool.or_false] at h₂
  refine h₂.setPasvSock pasvSock fun w₃ h₃ ↦ ?_
  refine holding_keeps.bind (L.pasvListen _) h₃ fun r w₄ h₄ ↦ ?_
  rcases r with - | ⟨port0, port1⟩
  · refine (wp_bind _ _).2 (wp_mono (h₄.close (Int.natCast_nonneg _) List.mem_cons_self)
      (fun _ w₅ h₅ ↦ ?_) fun _ _ h ↦ h)
    rw [List.erase_cons_head] at h₅
    exact h₅.setPasvSock (-1) fun w₆ h₆ ↦
      holding_keeps.wp (L.replyMsg_pure (by decide) _ _ (by decide)) h₆ fun _ _ h ↦ h.pasvTraded rfl
  · refine holding_keeps.wp (L.replyFormat_pure (by decide) (w := w₁) trivial
      (fun _ _ ↦ completeReply_pasv _) _) h₄ fun _ _ h ↦ h.pasvTraded ?_
    simp

/-! ### Every command -/

/-- What a command other than `PASV` does with descriptors. -/
theorem handler_released {cmd : CmdHandler} (hcmd : cmd ∈ coreCommandList config)
    (hpasv : cmd.name ≠ "PASV") (h : Holding [] [] conn false false w) :
    wp e cmd.handler (fun _ w ↦ Released conn.pasvSock w ∨ Lost w) (fun _ _ ↦ True) w := by
  have L := keepsHandles_handlers config
  have hreply : NoHandle .reply := by decide
  have hreleased : ∀ {m : Program FtpRet}, wp e m (fun _ ↦ Released conn.pasvSock)
      (fun _ _ ↦ True) w →
      wp e m (fun _ w ↦ Released conn.pasvSock w ∨ Lost w) (fun _ _ ↦ True) w :=
    fun hm ↦ wp_mono hm (fun _ _ h ↦ .inl h) fun _ _ h ↦ h
  have hkeep : ∀ {m : Program FtpRet}, Within (fun _ ↦ True) KeepsHandles m →
      wp e m (fun _ w ↦ Released conn.pasvSock w ∨ Lost w) (fun _ _ ↦ True) w :=
    fun hm ↦ hreleased (h.wp_released hm rfl (by simp))
  refine L.forall_command hreply trivial trivial trivial (Q := fun name handler ↦ name ≠ "PASV" →
    wp e handler (fun _ w ↦ Released conn.pasvSock w ∨ Lost w) (fun _ _ ↦ True) w)
    (fun _ _ hm _ ↦ hkeep hm) (fun _ ↦ ?_) (fun _ ↦ ?_) (fun hne ↦ absurd rfl hne) (fun _ ↦ ?_)
    (fun _ ↦ hreleased (dolist_handles h)) (fun _ ↦ hreleased (doretr_handles h))
    (fun _ ↦ dostor_handles h) hcmd hpasv
  · exact hkeep (keepsHandles_login.douser hreply)
  · exact hkeep (keepsHandles_login.dopass hreply)
  · exact hkeep (L.dorest hreply (by decide))

theorem holding_start (s : Process) (start : List Handle) :
    Holding start start s.session.conn false false (World.start s) :=
  ⟨rfl, rfl, rfl, rfl⟩

theorem handler_of_pasv {cmd : CmdHandler} (hcmd : cmd ∈ coreCommandList config)
    (hpasv : cmd.name = "PASV") : cmd.handler = dopasv config :=
  forall_handler (Q := fun name handler ↦ name = "PASV" → handler = dopasv config)
    |>.2 (by simp) cmd hcmd hpasv

/-- **A command closes what it opens**, and nothing else, unless a `STOR` has created its file and
is refused the data connection. -/
theorem handler_descriptors (config : FtpConfig) (cmd : CmdHandler)
    (hcmd : cmd ∈ coreCommandList config) (e : Env) (s : Process) (ret : FtpRet) (w : World)
    (h : cmd.handler e (World.start s) = (.ret ret, w)) :
    KeepsDescriptors cmd s w ↔ ¬LosesFile w.trace := by
  rw [KeepsDescriptors]
  split_ifs with hpasv
  · have hspec : wp e cmd.handler (fun _ ↦ PasvTraded (pasvHandles s)) (fun _ _ ↦ True)
        (World.start s) := by
      rw [handler_of_pasv hcmd hpasv]
      exact dopasv_handles (holding_start s (pasvHandles s))
    obtain ⟨hhandles, hkept⟩ := wp_ret hspec h
    exact iff_of_true hhandles hkept
  · rcases wp_ret (handler_released hcmd hpasv (holding_start s [])) h with hw | hw
    · exact iff_of_true ⟨hw.handles, hw.pasvSock⟩ hw.kept
    · exact iff_of_false (fun h ↦ hw.handles h.1) (not_not.2 hw.loses)

/-- A session that is logged in and listens on 6, with this verb and argument. -/
def sessionWith (verb argument : Bytes) : Process :=
  let session := freshSession { newConn 4 5 ⟨127, 0, 0, 1⟩ ⟨127, 0, 0, 1⟩ with pasvSock := 6 }
    (verb ++ nul :: argument ++ List.replicate
      (commandBufferSize - verb.length - argument.length) nul)
    (List.replicate ftpMaxPath nul)
  { Process.initial 1 with
    replyPool := true
    vfsPool := some (newPool (ofString "/srv"))
    statePool := some (List.replicate statePoolSize nul)
    session := { session with
      command := { session.command with arg := .line (verb.length + 1) }
      login := { loggedIn := true, anonymous := true, user := .null } } }

theorem dopasv_descriptors :
    KeepsDescriptors ⟨"PASV", dopasv loadDefaults, true, false, false⟩
        (sessionWith (ofString "PASV") [])
        (dopasv loadDefaults (clientEnv []) (World.start (sessionWith (ofString "PASV") []))).2 ↔
      ¬LosesFile
        (dopasv loadDefaults (clientEnv [])
          (World.start (sessionWith (ofString "PASV") []))).2.trace :=
  handler_descriptors loadDefaults ⟨"PASV", dopasv loadDefaults, true, false, false⟩
    (by simp [coreCommandList]) (clientEnv []) (sessionWith (ofString "PASV") []) .success
    (dopasv loadDefaults (clientEnv []) (World.start (sessionWith (ofString "PASV") []))).2
    (run_eq (by decide +kernel))

/-- A `STOR` whose data connection is refused returns with the file open. -/
theorem dostor_loses :
    let cmd : CmdHandler := ⟨"STOR", dostor loadDefaults, true, true, true⟩
    let s := sessionWith (ofString "STOR") (ofString "f")
    let run := dostor loadDefaults (clientEnvWith (fun _ c ↦
      match c with
      | .accept _ => some ⟨[], .error (.other 24)⟩
      | _ => none) []) (World.start s)
    run.1 = .ret .success ∧ ¬KeepsDescriptors cmd s run.2 := by
  decide +kernel

end FtpServer
