import FtpServer.Proofs.Actions

/-!
# The handlers without a data connection

What the handlers do that neither log in nor transfer a file, given the actions of a session.

* `HandlerLogic` adds the path operations to the actions, and the editing of the argument. They are
  fields and not derived, for a bound on the names in the calls (that they are below the root, say)
  is not one of `vfs_realpath` alone; where the names do not matter, they are derived from smaller
  actions (`HandlerLogic.of_steps`).
* `DirectoryLogic` adds those of `CWD`, `CDUP` and `LIST`, which change the directory.

Both have a parameter for the path operations that may happen besides `stat` and `lstat`.
-/

namespace FtpServer

open CString Effect Effect.Proc

variable {A : Topic → Prop} {O : PathOp → Prop} {P : World → Prop} {R : World → World → Prop}
  {α β τ : Type} {config : FtpConfig}

/-! ### The handlers without a data connection -/

/-- The argument is a C string. -/
theorem nul_not_mem_argument (c : FtpCommand) : nul ∉ c.argument := by
  rw [FtpCommand.argument]
  split
  · exact List.not_mem_nil
  · exact zero_not_mem_cstr _
  · decide

/-- The actions of the handlers that neither log in, nor change the directory, nor consult
`server_handle_signal`. The path operations are those in `O`. -/
structure HandlerLogic (A : Topic → Prop) (O : PathOp → Prop) (config : FtpConfig)
    (P : World → Prop) (R : World → World → Prop) : Prop extends StepLogic A P R where
  data : A .data
  send : A .send
  listening : A .listening
  vfsStat : ∀ w : World, P w → ∀ path, nul ∉ path →
    Within P R (vfsStat config (cstr w.st.session.virtPath) path)
  vfsCall : ∀ w : World, P w → ∀ op path, O op → nul ∉ path →
    Within P R (vfsCall op (cstr w.st.session.virtPath) path)
  trimArgument : Within P R trimArgument

/-- The actions of the handlers that change the directory, too. -/
structure DirectoryLogic (A : Topic → Prop) (O : PathOp → Prop) (config : FtpConfig)
    (P : World → Prop) (R : World → World → Prop) : Prop extends HandlerLogic A O config P R where
  /-- A path the client chose has no LF in it if the argument has none. -/
  vfsChdir : ∀ w : World, P w → ∀ path, nul ∉ path →
    (lf ∉ w.st.session.command.argument → lf ∉ path) → Within P R (vfsChdir path)
  /-- How `list_directory` puts the directory back. -/
  restore : ∀ w : World, P w → Within P R (FtpServer.modifySession fun s ↦
    { s with virtPath := (strlcpy s.virtPath (cstr w.st.session.virtPath) ftpMaxPath).1 })
  /-- The argument of `docdup`. -/
  parent : Within P R (FtpServer.modifySession fun s ↦
    { s with command := { s.command with arg := .parent } })
  listArgument : Within P R listArgument

namespace StepLogic

variable (L : StepLogic A P R)
  (hpool : ∀ f : VfsPool → VfsPool,
    Within P R (Proc.modify fun s : Process ↦ { s with vfsPool := s.vfsPool.map f }))
include L

include hpool in
/-- A path is resolved in the pool, which is asserted to be there. -/
theorem vfsRealpath (cwd path : Bytes) : Within P R (vfsRealpath cwd path) := by
  refine within_get_bind fun w hw ↦ ?_
  split
  · exact L.missingPool hw (.inl ‹_›)
  split
  · exact L.fault
  · refine L.bind (hpool _) fun _ ↦ ?_
    dsimp only
    split_ifs
    · exact L.bind (L.setErrno _) fun _ ↦ L.pure _
    · exact L.pure _

/-- Reading the resolved path changes nothing. -/
theorem realPath : Within P R realPath := by
  refine within_get_bind fun w hw ↦ ?_
  split
  · exact L.missingPool hw (.inl ‹_›)
  · exact L.pure _

include hpool in
/-- `vfs_stat` makes two calls with the path, and looks at the first answer for links. -/
theorem vfsStat (hstat : ∀ path, Within P R (FtpServer.sys (.path .stat path)))
    (hlstat : ∀ path, Within P R (FtpServer.sys (.path .lstat path))) (cwd path : Bytes) :
    Within P R (vfsStat config cwd path) := by
  refine L.bind (L.vfsRealpath hpool _ _) fun ok ↦ ?_
  split_ifs
  · exact L.pure _
  refine L.bind L.realPath fun p ↦ L.bind (L.checked (hlstat p)) fun r ↦ ?_
  rcases r with - | tmp
  · exact L.pure _
  dsimp only
  split_ifs
  · exact L.bind (L.setErrno _) fun _ ↦ L.pure _
  · exact L.bind L.realPath fun p ↦ L.checked (hstat p)

include hpool in
/-- The other operations make one call. -/
theorem vfsCall {op : PathOp} (hop : ∀ path, Within P R (FtpServer.sys (.path op path)))
    (cwd path : Bytes) : Within P R (vfsCall op cwd path) := by
  refine L.bind (L.vfsRealpath hpool _ _) fun ok ↦ ?_
  split_ifs
  · exact L.pure _
  · exact L.bind L.realPath fun p ↦ L.checked (hop p)

include hpool in
/-- `vfs_chdir` keeps to the session, apart from the directory. -/
theorem vfsChdir (hvirtPath : ∀ f : Bytes → Bytes, Within P R (FtpServer.modifySession fun s ↦
    { s with virtPath := f s.virtPath })) (path : Bytes) : Within P R (vfsChdir path) := by
  refine L.bind L.getSession fun session ↦ L.bind (L.vfsRealpath hpool _ _) fun ok ↦ ?_
  split_ifs
  · exact L.pure _
  refine within_get_bind fun w hw ↦ ?_
  split
  · exact L.missingPool hw (.inl ‹_›)
  · exact L.bind (hvirtPath fun p ↦ (strlcpy p _ ftpMaxPath).1) fun _ ↦ L.pure _

end StepLogic

/-- Where the names in the calls do not matter, the path operations are made of smaller actions. -/
theorem HandlerLogic.of_steps (L : StepLogic A P R)
    (htopics : A .data ∧ A .send ∧ A .listening)
    (hpath : ∀ op path, op = .lstat ∨ op = .stat ∨ O op → Within P R (sys (.path op path)))
    (hpool : ∀ f : VfsPool → VfsPool,
      Within P R (Proc.modify fun s : Process ↦ { s with vfsPool := s.vfsPool.map f }))
    (htrim : Within P R FtpServer.trimArgument) : HandlerLogic A O config P R where
  toStepLogic := L
  data := htopics.1
  send := htopics.2.1
  listening := htopics.2.2
  vfsStat _ _ path _ := L.vfsStat hpool (fun _ ↦ hpath _ _ (.inr (.inl rfl)))
    (fun _ ↦ hpath _ _ (.inl rfl)) _ path
  vfsCall _ _ _ path hop _ := L.vfsCall hpool (fun _ ↦ hpath _ _ (.inr (.inr hop))) _ path
  trimArgument := htrim

/-- A logic of actions is one of handlers, once the calls with paths, the pool, the directory and
the argument are looked after. -/
theorem DirectoryLogic.of_steps (L : StepLogic A P R)
    (htopics : A .data ∧ A .send ∧ A .listening)
    (hpath : ∀ op path, op = .lstat ∨ op = .stat ∨ O op → Within P R (sys (.path op path)))
    (hpool : ∀ f : VfsPool → VfsPool,
      Within P R (Proc.modify fun s : Process ↦ { s with vfsPool := s.vfsPool.map f }))
    (hvirtPath : ∀ f : Bytes → Bytes, Within P R (modifySession fun s ↦
      { s with virtPath := f s.virtPath }))
    (hparent : Within P R (modifySession fun s ↦
      { s with command := { s.command with arg := .parent } }))
    (htrim : Within P R FtpServer.trimArgument) (hlist : Within P R FtpServer.listArgument) :
    DirectoryLogic A O config P R where
  toHandlerLogic := .of_steps L htopics hpath hpool htrim
  vfsChdir _ _ path _ _ := L.vfsChdir hpool hvirtPath path
  restore w _ := hvirtPath fun p ↦ (strlcpy p (cstr w.st.session.virtPath) ftpMaxPath).1
  parent := hparent
  listArgument := hlist

namespace HandlerLogic

variable (L : HandlerLogic A O config P R) (hreply : A .reply) (hdesc : A .descriptor)
include L

section Replying

include hreply

/-- Many branches of the handlers send a fixed line and return. -/
theorem replyOnly (msg : String) (ret : α) (hmsg : CompleteReply (ofString msg)) :
    Within P R (do replyMsg msg; return ret) :=
  L.replyMsg_pure hreply msg ret hmsg

/-- `TYPE` replies, whatever the type. -/
theorem dotype : Within P R dotype := by
  refine L.bind L.getSession fun session ↦ ?_
  extract_lets arg
  split
  · exact L.replyOnly hreply _ _ (by decide)
  · exact L.replyOnly hreply _ _ (by decide)
  · split_ifs
    · exact L.replyOnly hreply _ _ (by decide)
    · exact L.bind (L.replyMsg hreply _ (by decide)) fun _ ↦ L.replyOnly hreply _ _ (by decide)
  · exact L.replyOnly hreply _ _ (by decide)

/-- `PWD` replies with the current directory. -/
theorem dopwd : Within P R dopwd :=
  within_getSession_bind fun _ hw ↦ L.replyFormat_pure hreply hw
    (fun _ hpath ↦ completeReply_pwd hpath) _

/-- `SIZE` asks for the attributes of a file, and replies. -/
theorem dosize : Within P R (dosize config) := by
  refine within_getSession_bind fun w hw ↦ ?_
  refine L.bind (L.vfsStat w hw _ (nul_not_mem_argument _)) fun r ↦ ?_
  rcases r with - | st
  · exact L.failedVfsReply_pure hreply _
  · dsimp only
    split_ifs
    · exact L.replyOnly hreply _ _ (by decide)
    · exact L.replyFormat_pure hreply hw (fun _ _ ↦ completeReply_number _) _

/-- `MDTM` does the same, and converts a time. -/
theorem domdtm : Within P R (domdtm config) := by
  refine within_getSession_bind fun w hw ↦ ?_
  refine L.bind (L.vfsStat w hw _ (nul_not_mem_argument _)) fun r ↦ ?_
  rcases r with - | st
  · exact L.failedVfsReply_pure hreply _
  · dsimp only
    split_ifs
    · exact L.replyOnly hreply _ _ (by decide)
    · refine L.bind (L.sysOther rfl) fun indet ↦ ?_
      split
      · exact L.fault
      · exact L.replyFormat_pure hreply hw (fun _ _ ↦ completeReply_date _) _

/-- `MKD` makes a directory, and names its argument in the reply. -/
theorem domkd (hop : O (.mkdir 0o777)) : Within P R domkd := by
  refine within_getSession_bind fun w hw ↦ ?_
  refine L.bind (L.vfsCall w hw (.mkdir 0o777) _ hop (nul_not_mem_argument _)) fun r ↦ ?_
  rcases r with - | -
  · exact L.failedVfsReply_pure hreply _
  · exact L.replyFormat_pure hreply hw (fun harg _ ↦ completeReply_mkd harg) _

/-- `RMD` removes one. -/
theorem dormd (hop : O .rmdir) : Within P R dormd := by
  refine within_getSession_bind fun w hw ↦ ?_
  refine L.bind (L.vfsCall w hw .rmdir _ hop (nul_not_mem_argument _)) fun r ↦ ?_
  rcases r with - | -
  · exact L.failedVfsReply_pure hreply _
  · exact L.replyOnly hreply _ _ (by decide)

/-- `DELE` removes a file. -/
theorem dodele (hop : O .unlink) : Within P R dodele := by
  refine within_getSession_bind fun w hw ↦ ?_
  refine L.bind (L.vfsCall w hw .unlink _ hop (nul_not_mem_argument _)) fun r ↦ ?_
  rcases r with - | -
  · exact L.failedVfsReply_pure hreply _
  · exact L.replyOnly hreply _ _ (by decide)

end Replying

/-! ### `PASV` and `REST` -/

/-- The search for a free port makes calls on one socket. -/
theorem bindLoop (pasvSock : ℤ) (fuel : ℕ) (listenPort : ℤ) :
    Within P R (bindLoop pasvSock fuel listenPort) := by
  induction fuel generalizing listenPort with
  | zero => exact L.pure _
  | succ fuel ih =>
    refine L.bind (L.checked (L.sys (.bind _ _) L.listening)) fun r ↦ ?_
    rcases r with - | -
    · refine L.bind (L.errnoIs _) fun b ↦ ?_
      split_ifs
      · exact ih _
      · exact L.pure _
    · exact L.pure _

/-- `pasv_listen` opens no descriptor of its own. -/
theorem pasvListen (pasvSock : ℤ) : Within P R (pasvListen config pasvSock) := by
  refine L.bind (L.checked (L.sys (.setsockopt _) L.listening)) fun _ ↦ ?_
  refine L.bind (L.bindLoop _ _ _) fun r ↦ ?_
  rcases r with - | listenPort
  · exact L.pure _
  · dsimp only
    split_ifs
    · exact L.pure _
    · refine L.bind (L.checked (L.sys (.listen _) L.listening)) fun r ↦ ?_
      rcases r with - | -
      · exact L.pure _
      · exact L.checked (L.sysOther rfl)

include hdesc in
/-- Only the connection changes. -/
theorem setPasvSock (fd : ℤ) : Within P R (setPasvSock fd) :=
  L.modifySession _ fun _ ↦ ⟨rfl, rfl, rfl, .inl hdesc, .inr rfl, .inr rfl, .inl rfl⟩

include hdesc in
/-- The socket of an earlier `PASV` is closed. -/
theorem closePasvSock : Within P R closePasvSock := by
  refine L.bind L.getSession fun session ↦ ?_
  dsimp only
  split_ifs
  · exact L.bind (L.close hdesc _) fun _ ↦ L.setPasvSock hdesc _
  · exact L.pure _

include hreply hdesc in
/-- `PASV` works on sockets and replies. -/
theorem dopasv : Within P R (dopasv config) := by
  refine L.bind (L.closePasvSock hdesc) fun _ ↦ within_getSession_bind fun w hw ↦ ?_
  refine L.bind (L.checked (L.sys .socket hdesc)) fun r ↦ ?_
  rcases r with - | pasvSock
  · exact L.replyOnly hreply _ _ (by decide)
  · refine L.bind (L.setPasvSock hdesc _) fun _ ↦ L.bind (L.pasvListen _) fun r ↦ ?_
    rcases r with - | ⟨port0, port1⟩
    · exact L.bind (L.close hdesc _) fun _ ↦ L.bind (L.setPasvSock hdesc _) fun _ ↦
        L.replyOnly hreply _ _ (by decide)
    · exact L.replyFormat_pure hreply hw (fun _ _ ↦ completeReply_pasv _) _

/-- The restart position is what some logics are about. -/
theorem setRestartPos (hrestart : A .restart) (offset : ℤ) : Within P R (setRestartPos offset) :=
  L.modifySession _ fun _ ↦ ⟨rfl, rfl, rfl, .inr rfl, .inl hrestart, .inr rfl, .inl rfl⟩

/-- And so are the notes about it. -/
theorem observeRestart (hrestart : A .restart) {o : Observation} (ho : o.topic = .restart) :
    Within P R (observe o) :=
  L.observe o (ho ▸ hrestart) (by simp [ho])

include hreply in
/-- `REST` sets the restart position, or refuses. -/
theorem dorest (hrestart : A .restart) : Within P R dorest := by
  refine L.bind L.trimArgument fun strpos ↦ ?_
  dsimp only
  have hrest : ∀ offset : ℤ, Within P R (do
      if offset < 0 || offset = llongMax || (← errnoIs .erange) then
        replyMsg "501-Invalid seek argument\r\n"
        replyMsg "501 Seek reset to 0\r\n"
        FtpServer.setRestartPos 0
      else
        replyFormat (ofString "350 Restarting transfer at " ++ fmtInt offset ++ [cr, lf])
        FtpServer.setRestartPos offset
        FtpServer.observe (.rested offset)
      return FtpRet.success) := by
    intro offset
    have hset := L.setRestartPos hrestart
    refine L.bind (L.errnoIs _) fun b ↦ ?_
    split_ifs
    · exact L.bind (L.replyMsg hreply _ (by decide)) fun _ ↦
        L.bind (L.replyMsg hreply _ (by decide)) fun _ ↦ L.bind (hset _) fun _ ↦ L.pure _
    · refine L.bind (fun e w hw ↦ ?_) fun _ ↦
        L.bind (hset _) fun _ ↦ L.bind (L.observeRestart hrestart rfl) fun _ ↦ L.pure _
      exact L.replyFormat hreply w hw _ (fun _ _ ↦ completeReply_rest _) e w hw
  split_ifs
  · exact L.bind (L.setErrno _) fun _ ↦ hrest _
  · exact hrest _

/-! ### `LIST`, less the data connection -/

/-- A line of a listing is sent on the data connection. -/
theorem listFile {filepath : Bytes} (hpath : nul ∉ filepath) :
    Within P R (listFile config filepath) :=
  L.toStepLogic.listFile L.send L.vfsStat hpath

/-- And so are those of a directory, one for each entry. -/
theorem listEntries (drv : ℕ) (optA : Bool) : Within P R (listEntries config drv optA) :=
  L.toStepLogic.listEntries L.send L.vfsStat L.data drv optA

end HandlerLogic

namespace DirectoryLogic

variable (L : DirectoryLogic A O config P R) (hreply : A .reply) (hdesc : A .descriptor)
include L hreply

/-- `CWD` tells the master where the session went. -/
theorem docwd (hchdir : Within P R (sendState .chdir)) : Within P R (docwd config) := by
  refine within_getSession_bind fun w hw ↦ ?_
  refine L.bind (L.vfsStat w hw _ (nul_not_mem_argument _)) fun r ↦ ?_
  rcases r with - | statpath
  · exact L.failedVfsReply hreply
  · dsimp only
    split_ifs
    · exact L.replyOnly hreply _ _ (by decide)
    · exact L.bind (L.vfsChdir w hw _ (nul_not_mem_argument _) id) fun _ ↦
        L.bind hchdir fun _ ↦ L.replyOnly hreply _ _ (by decide)

/-- `CDUP` is `CWD` to the parent. -/
theorem docdup (hchdir : Within P R (sendState .chdir)) : Within P R (docdup config) :=
  L.bind L.parent fun _ ↦ L.docwd hreply hchdir

include hdesc

/-- A directory is entered to be listed, and left again. -/
theorem listDirectory (hop : O .opendir) {w₀ : World} (hw₀ : P w₀) {dirname : Bytes}
    (hpath : nul ∉ dirname) (hlf : lf ∉ w₀.st.session.command.argument → lf ∉ dirname)
    (optA : Bool) : Within P R (listDirectory config dirname optA) := by
  refine within_getSession_bind fun w hw ↦ L.bind (L.vfsChdir w₀ hw₀ _ hpath hlf) fun _ ↦ ?_
  refine within_getSession_bind fun w' hw' ↦ ?_
  refine L.bind (L.vfsCall w' hw' .opendir _ hop (by decide)) fun r ↦ ?_
  rcases r with - | drv
  · exact L.failedVfsReply_pure hreply _
  · exact L.bind (L.listEntries _ _) fun _ ↦
      L.bind (L.bind (L.checked (L.sys (.closedir drv) hdesc)) fun _ ↦ L.pure _) fun _ ↦
        L.bind (L.restore w hw) fun _ ↦ L.pure _

omit hdesc in
/-- The reply that ends a listing. -/
theorem listReply (ret : FtpRet) : Within P R (listReply ret) := by
  cases ret <;> exact L.replyMsg hreply _ (by decide)

/-- What `dolist` does once it has its data connection. -/
theorem listData (hop : O .opendir) {w₀ : World} (hw₀ : P w₀) (statarg : Stat) {argument : Bytes}
    (hpath : nul ∉ argument) (hlf : lf ∉ w₀.st.session.command.argument → lf ∉ argument)
    (optA : Bool) : Within P R (listData config statarg argument optA) := by
  refine L.bind (L.replyMsg hreply _ (by decide)) fun _ ↦ ?_
  split_ifs
  · exact L.bind (L.listDirectory hreply hdesc hop hw₀ hpath hlf _) fun ret ↦
      L.bind (L.listReply hreply ret) fun _ ↦
      L.bind L.getSession fun _ ↦ L.bind (L.close hdesc _) fun _ ↦ L.pure _
  · exact L.bind (L.listFile hpath) fun ret ↦ L.bind (L.listReply hreply ret) fun _ ↦
      L.bind L.getSession fun _ ↦ L.bind (L.close hdesc _) fun _ ↦ L.pure _

end DirectoryLogic

end FtpServer
