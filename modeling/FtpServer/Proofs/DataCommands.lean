import FtpServer.Proofs.TransferHandlers

/-!
# `LIST`, `RETR` and `STOR`, stage by stage

The three commands with a data connection name a file, open it, accept the connection and use both.
Their rules ask for a specification of each stage that matters to an invariant, and take the rest
from the actions that keep it.

* `doretr_stages` and `dostor_stages` are the rules of the two transfers. They differ in what is
  closed when there is no data connection, and each has the source's own variable there.
* `StepLogic.vfsCall_wp` is the rule for the operations that hand the resolved path to one call.
-/

namespace FtpServer

open CString Effect Effect.Proc

variable {A : Topic → Prop} {O : PathOp → Prop} {P : World → Prop} {R : World → World → Prop}
  {Inv Mid : World → Prop} {config : FtpConfig} {e : Env} {w : World} {Q : FtpRet → World → Prop}

/-- The replies of `doretr` and `dostor` to a name they do not open. -/
def fileRefusals : List String :=
  ["550 Filename too long\r\n", "550 Can only retrieve regular files\r\n"]

/-- The refusals are complete lines. -/
theorem completeReply_fileRefusal : ∀ msg ∈ fileRefusals, CompleteReply (ofString msg) := by decide

/-- What holds after a file was opened, or could not be. -/
def OpenedOr {α : Type} (Inv : World → Prop) (Opened : α → World → Prop) :
    Option α → World → Prop
  | none => Inv
  | some fd => Opened fd

/-- `conn->data_sock = fd`. -/
def setDataSock (fd : ℤ) : Program Unit :=
  modifySession fun s ↦ { s with conn := { s.conn with dataSock := fd } }

/-- The rule for the operations that hand the resolved path to one system call. -/
theorem StepLogic.vfsCall_wp (L : StepLogic A P R) (K : Keeps P R Inv Mid)
    (hpool : ∀ f : VfsPool → VfsPool,
      Within P R (Proc.modify fun s : Process ↦ { s with vfsPool := s.vfsPool.map f }))
    {op : PathOp} {T : Option op.Result → World → Prop} (hnone : ∀ w, Inv w → T none w)
    (hcall : ∀ path w, Inv w → wp e (checked (sys (.path op path))) T (fun _ ↦ Mid) w)
    (hw : Inv w) (cwd path : Bytes) : wp e (FtpServer.vfsCall op cwd path) T (fun _ ↦ Mid) w := by
  refine K.bind (L.vfsRealpath hpool cwd path) hw fun ok w₁ hw₁ ↦ ?_
  rcases ok with - | -
  · exact hnone w₁ hw₁
  · exact K.bind L.realPath hw₁ fun p w₂ hw₂ ↦ hcall p w₂ hw₂

/-! ### `STOR` -/

/-- The rule for `STOR`, given what its first action does. It closes -1 and -2 where it gives up. -/
theorem dostor_stages (Opened : ℕ → World → Prop) (Accepted : ℕ → DataConn → World → Prop)
    (hset : wp e (setFilename (findBasename w.st.session.command.argument)) (fun _ ↦ Inv)
      (fun _ ↦ Mid) w)
    (hsay : ∀ msg ∈ fileRefusals, ∀ w, Inv w →
      wp e (do replyMsg msg; return FtpRet.success) Q (fun _ ↦ Mid) w)
    (hfailed : ∀ w, Inv w →
      wp e (do let _ ← failedVfsReply; return FtpRet.success) Q (fun _ ↦ Mid) w)
    (hcreat : ∀ w, Inv w → ∀ path, nul ∉ path →
      wp e (vfsCreat (cstr w.st.session.virtPath) path 0o777) (OpenedOr Inv Opened)
        (fun _ ↦ Mid) w)
    (haccept : ∀ fd w, Opened fd w → wp e acceptDataConn (Accepted fd) (fun _ ↦ Mid) w)
    (hgiveUp : ∀ fd w, Accepted fd .failed w →
      wp e (do vfsClose (-1); return FtpRet.success) Q (fun _ ↦ Mid) w)
    (hquit : ∀ fd w, Accepted fd .quit w →
      wp e (do vfsClose (-2); return FtpRet.quit) Q (fun _ ↦ Mid) w)
    (hsock : ∀ (fd dataFd : ℕ) w, Accepted fd (.sock dataFd) w →
      wp e (storData config ⟨fd, .file⟩ ⟨dataFd, .socket⟩) Q (fun _ ↦ Mid) w) :
    wp e (dostor config) Q (fun _ ↦ Mid) w := by
  rw [dostor, wp_bind, wp_getSession]
  refine (wp_bind _ _).2 (wp_mono hset (fun len w₁ hw₁ ↦ ?_) fun _ _ h ↦ h)
  have hpath := nul_not_mem_argument w.st.session.command
  by_cases hlen : len ≥ ftpMaxName
  · rw [if_pos hlen]
    exact hsay _ (by simp [fileRefusals]) w₁ hw₁
  rw [if_neg hlen, wp_bind, wp_getSession]
  refine (wp_bind _ _).2 (wp_mono (hcreat w₁ hw₁ _ hpath) (fun r w₂ hw₂ ↦ ?_) fun _ _ h ↦ h)
  rcases r with - | fd
  · exact hfailed w₂ hw₂
  refine (wp_bind _ _).2 (wp_mono (haccept fd w₂ hw₂) (fun dataSock w₃ hw₃ ↦ ?_) fun _ _ h ↦ h)
  rcases dataSock with dataFd | - | -
  · exact hsock fd dataFd w₃ hw₃
  · exact hgiveUp fd w₃ hw₃
  · exact hquit fd w₃ hw₃

/-- The rule for `STOR`. -/
theorem StepLogic.dostor_wp (L : StepLogic A P R) (K : Keeps P R Inv Mid)
    (Opened : ℕ → World → Prop) (Accepted : ℕ → DataConn → World → Prop)
    (hsay : ∀ msg ∈ fileRefusals, ∀ w, Inv w →
      wp e (do replyMsg msg; return FtpRet.success) Q (fun _ ↦ Mid) w)
    (hfailed : ∀ w, Inv w →
      wp e (do let _ ← failedVfsReply; return FtpRet.success) Q (fun _ ↦ Mid) w)
    (hcreat : ∀ w, Inv w → ∀ path, nul ∉ path →
      wp e (vfsCreat (cstr w.st.session.virtPath) path 0o777) (OpenedOr Inv Opened)
        (fun _ ↦ Mid) w)
    (haccept : ∀ fd w, Opened fd w → wp e FtpServer.acceptDataConn (Accepted fd) (fun _ ↦ Mid) w)
    (hgiveUp : ∀ fd w, Accepted fd .failed w →
      wp e (do vfsClose (-1); return FtpRet.success) Q (fun _ ↦ Mid) w)
    (hquit : ∀ fd w, Accepted fd .quit w →
      wp e (do vfsClose (-2); return FtpRet.quit) Q (fun _ ↦ Mid) w)
    (hsock : ∀ (fd dataFd : ℕ) w, Accepted fd (.sock dataFd) w →
      wp e (storData config ⟨fd, .file⟩ ⟨dataFd, .socket⟩) Q (fun _ ↦ Mid) w)
    (hw : Inv w) (hname : A .name) :
    wp e (dostor config) Q (fun _ ↦ Mid) w :=
  dostor_stages Opened Accepted (K.wp (L.setFilename _ hname) hw fun _ _ h ↦ h) hsay hfailed hcreat
    haccept hgiveUp hquit hsock

/-! ### `RETR` -/

/-- The rule for `RETR`, given what its first actions do. -/
theorem doretr_stages (K : Keeps P R Inv Mid) (Opened : ℕ → World → Prop)
    (Accepted : ℕ → DataConn → World → Prop)
    (hset : wp e (setFilename (findBasename w.st.session.command.argument)) (fun _ ↦ Inv)
      (fun _ ↦ Mid) w)
    (hstat : ∀ w : World, P w → ∀ path, nul ∉ path →
      Within P R (vfsStat config (cstr w.st.session.virtPath) path))
    (hsay : ∀ msg ∈ fileRefusals, ∀ w, Inv w →
      wp e (do replyMsg msg; return FtpRet.success) Q (fun _ ↦ Mid) w)
    (hfailed : ∀ w, Inv w →
      wp e (do let _ ← failedVfsReply; return FtpRet.success) Q (fun _ ↦ Mid) w)
    (hopen : ∀ w, Inv w → ∀ path, nul ∉ path →
      wp e (vfsOpen (cstr w.st.session.virtPath) path) (OpenedOr Inv Opened) (fun _ ↦ Mid) w)
    (haccept : ∀ fd w, Opened fd w → wp e acceptDataConn (Accepted fd) (fun _ ↦ Mid) w)
    (hgiveUp : ∀ fd w, Accepted fd .failed w →
      wp e (do setDataSock (-1); vfsClose fd; return FtpRet.success) Q (fun _ ↦ Mid) w)
    (hquit : ∀ fd w, Accepted fd .quit w →
      wp e (do setDataSock (-2); vfsClose fd; return FtpRet.quit) Q (fun _ ↦ Mid) w)
    (hsock : ∀ fd dataFd filesize w', Accepted fd (.sock dataFd) w' →
      wp e (do
        setDataSock dataFd
        retrAccepted config (findBasename w.st.session.command.argument) filesize fd dataFd)
        Q (fun _ ↦ Mid) w') :
    wp e (doretr config) Q (fun _ ↦ Mid) w := by
  rw [doretr, wp_bind, wp_getSession]
  refine (wp_bind _ _).2 (wp_mono hset (fun len w₁ hw₁ ↦ ?_) fun _ _ h ↦ h)
  have hpath := nul_not_mem_argument w.st.session.command
  -- each refusal of the source has its hypothesis; what is left is the stage behind it
  by_cases hlen : len ≥ ftpMaxName
  · rw [if_pos hlen]
    exact hsay _ (by simp [fileRefusals]) w₁ hw₁
  rw [if_neg hlen, wp_bind, wp_getSession]
  refine K.bind (hstat w₁ (K.assume w₁ hw₁) _ hpath) hw₁ fun r w₂ hw₂ ↦ ?_
  rcases r with - | statfile
  · exact hfailed w₂ hw₂
  dsimp only
  by_cases hkind : statfile.kind ≠ .reg
  · rw [if_pos hkind]
    exact hsay _ (by simp [fileRefusals]) w₂ hw₂
  rw [if_neg hkind, wp_bind, wp_getSession]
  refine (wp_bind _ _).2 (wp_mono (hopen w₂ hw₂ _ hpath) (fun r w₃ hw₃ ↦ ?_) fun _ _ h ↦ h)
  rcases r with - | fd
  · exact hfailed w₃ hw₃
  refine (wp_bind _ _).2 (wp_mono (haccept fd w₃ hw₃) (fun dataSock w₄ hw₄ ↦ ?_) fun _ _ h ↦ h)
  rcases dataSock with dataFd | - | -
  · exact hsock fd dataFd statfile.size w₄ hw₄
  · exact hgiveUp fd w₄ hw₄
  · exact hquit fd w₄ hw₄

/-! ### `LIST` -/

/-- The rule for `LIST`, given what its first actions do. -/
theorem dolist_stages (K : Keeps P R Inv Mid) (hlist : Within P R listArgument)
    (hstat : ∀ w : World, P w → ∀ path, nul ∉ path →
      Within P R (vfsStat config (cstr w.st.session.virtPath) path))
    (Accepted : DataConn → World → Prop)
    (hfailed : ∀ w, Inv w → wp e failedVfsReply Q (fun _ ↦ Mid) w)
    (haccept : ∀ w, Inv w → wp e acceptDataConn Accepted (fun _ ↦ Mid) w)
    (hgiveUp : ∀ w, Accepted .failed w →
      wp e (do setDataSock (-1); return FtpRet.success) Q (fun _ ↦ Mid) w)
    (hquit : ∀ w, Accepted .quit w →
      wp e (do setDataSock (-2); return FtpRet.quit) Q (fun _ ↦ Mid) w)
    (hsock : ∀ (dataFd : ℕ) statarg argument optA w',
      listTarget w.st.session.command = some (argument, optA) → Accepted (.sock dataFd) w' →
      wp e (do setDataSock dataFd; listData config statarg argument optA) Q (fun _ ↦ Mid) w')
    (hw : Inv w) : wp e (dolist config) Q (fun _ ↦ Mid) w := by
  have hlist' := K.wp (e := e) (Q := fun _ ↦ Inv) hlist hw fun _ _ h ↦ h
  refine (wp_bind _ _).2 (wp_mono (wp_and_result hlist' fun r w' hr ↦
    listArgument_target e w r w' hr) ?_ fun _ _ h ↦ h)
  rintro ⟨argument, optA⟩ w₁ ⟨htarget, hw₁⟩
  dsimp only at htarget ⊢
  generalize (if argument = [] then [dot] else argument) = argument at htarget ⊢
  rw [wp_bind, wp_getSession]
  refine K.bind (hstat w₁ (K.assume w₁ hw₁) _ (nul_not_mem_listTarget htarget)) hw₁
    fun r w₂ hw₂ ↦ ?_
  rcases r with - | statarg
  · exact hfailed w₂ hw₂
  refine (wp_bind _ _).2 (wp_mono (haccept w₂ hw₂) (fun dataSock w₃ hw₃ ↦ ?_) fun _ _ h ↦ h)
  rcases dataSock with dataFd | - | -
  · exact hsock dataFd statarg argument optA w₃ htarget hw₃
  · exact hgiveUp w₃ hw₃
  · exact hquit w₃ hw₃

/-! ### The rules, from the actions of the handlers -/

namespace HandlerLogic

variable (L : HandlerLogic A O config P R) (K : Keeps P R Inv Mid)
include L K

/-- The rule for `RETR`. -/
theorem doretr_wp (Opened : ℕ → World → Prop) (Accepted : ℕ → DataConn → World → Prop)
    (hsay : ∀ msg ∈ fileRefusals, ∀ w, Inv w →
      wp e (do replyMsg msg; return FtpRet.success) Q (fun _ ↦ Mid) w)
    (hfailed : ∀ w, Inv w →
      wp e (do let _ ← failedVfsReply; return FtpRet.success) Q (fun _ ↦ Mid) w)
    (hopen : ∀ w, Inv w → ∀ path, nul ∉ path →
      wp e (vfsOpen (cstr w.st.session.virtPath) path) (OpenedOr Inv Opened) (fun _ ↦ Mid) w)
    (haccept : ∀ fd w, Opened fd w → wp e acceptDataConn (Accepted fd) (fun _ ↦ Mid) w)
    (hgiveUp : ∀ fd w, Accepted fd .failed w →
      wp e (do setDataSock (-1); vfsClose fd; return FtpRet.success) Q (fun _ ↦ Mid) w)
    (hquit : ∀ fd w, Accepted fd .quit w →
      wp e (do setDataSock (-2); vfsClose fd; return FtpRet.quit) Q (fun _ ↦ Mid) w)
    (hsock : ∀ fd dataFd filesize w₀ w, P w₀ → Accepted fd (.sock dataFd) w →
      wp e (do
        setDataSock dataFd
        retrAccepted config (findBasename w₀.st.session.command.argument) filesize fd dataFd)
        Q (fun _ ↦ Mid) w)
    (hw : Inv w) (hname : A .name) :
    wp e (doretr config) Q (fun _ ↦ Mid) w :=
  doretr_stages K Opened Accepted (K.wp (L.setFilename _ hname) hw fun _ _ h ↦ h) L.vfsStat hsay
    hfailed hopen haccept hgiveUp hquit fun fd dataFd filesize w' ↦
      hsock fd dataFd filesize w w' (K.assume w hw)

end HandlerLogic

/-- The rule for `LIST`. -/
theorem DirectoryLogic.dolist_wp (L : DirectoryLogic A O config P R) (K : Keeps P R Inv Mid)
    (Accepted : DataConn → World → Prop)
    (hfailed : ∀ w, Inv w → wp e failedVfsReply Q (fun _ ↦ Mid) w)
    (haccept : ∀ w, Inv w → wp e acceptDataConn Accepted (fun _ ↦ Mid) w)
    (hgiveUp : ∀ w, Accepted .failed w →
      wp e (do setDataSock (-1); return FtpRet.success) Q (fun _ ↦ Mid) w)
    (hquit : ∀ w, Accepted .quit w →
      wp e (do setDataSock (-2); return FtpRet.quit) Q (fun _ ↦ Mid) w)
    (hsock : ∀ (dataFd : ℕ) statarg argument optA w₀ w, P w₀ → nul ∉ argument →
      (lf ∉ w₀.st.session.command.argument → lf ∉ argument) → Accepted (.sock dataFd) w →
      wp e (do setDataSock dataFd; FtpServer.listData config statarg argument optA) Q
        (fun _ ↦ Mid) w)
    (hw : Inv w) : wp e (FtpServer.dolist config) Q (fun _ ↦ Mid) w :=
  dolist_stages K L.listArgument L.vfsStat Accepted hfailed haccept hgiveUp hquit
    (fun dataFd statarg argument optA w' htarget hw' ↦ hsock dataFd statarg argument optA w w'
      (K.assume w hw) (nul_not_mem_listTarget htarget) (lf_not_mem_listTarget htarget) hw') hw

end FtpServer
