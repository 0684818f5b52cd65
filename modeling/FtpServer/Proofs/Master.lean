import FtpServer.Proofs.MasterTrace

/-!
# The master

The main loop of the master keeps what `Mastering` says of the client list and the signal flags
(`daemonLoop_left`), and so leaves it to whoever looks at the end of a run, or at a point where the
run was stopped.

* Calls that are not about children, and what the master shares with its sessions, keep it anyway
  (`mastering_calls`).
* `Receiver` is anything that the master may do for one client in its list, and the receive
  functions of the table are such programs (`recvState_wp`).
* `daemonHandleSignal_wp` and `handleClient_wp` are the two functions that change who is a child.
-/

namespace FtpServer

open CString Effect Effect.Proc

/-! ### What the master shares with its sessions -/

section Calls

variable {config : FtpConfig} {flag₀ : SignalFlag}

theorem mastering_calls (config : FtpConfig) (flag₀ : SignalFlag) :
    CallLogic (· ≠ .master) (Mastering config flag₀) fun _ ↦ Mastering config flag₀ := by
  refine .of_observe (guard_inv _) (by decide) (by decide)
    (fun c hc ↦ within_sys (guard_inv _) fun w r hw ↦ ?_)
    (fun err ↦ within_setErrno fun w hw ↦ hw.withErrno err)
    fun o _ ↦ within_mark fun w hw ↦ hw.observed o
  refine hw.answered ?_ ?_ ?_
  · rintro rfl
    exact hc rfl
  · rintro rfl
    exact hc rfl
  · rintro pid rfl
    exact hc rfl

/-- The first part of a program is one that the master shares with its sessions. -/
theorem Mastering.bind {α β : Type} {m : Program α} {f : α → Program β} {e : Env} {w : World}
    {Q : β → World → Prop} (hw : Mastering config flag₀ w)
    (hm : Within (Mastering config flag₀) (fun _ ↦ Mastering config flag₀) m) (hf : Faultless m)
    (hrest : ∀ a w', Mastering config flag₀ w' → wp e (f a) Q (Stopped config flag₀) w') :
    wp e (m >>= f) Q (Stopped config flag₀) w := by
  refine (wp_bind _ _).2 (wp_mono (hm.wp_faultless hf hw) hrest ?_)
  rintro _ w' ⟨rfl, h⟩
  exact .working h.toTracking

/-! ### `recv_state` -/

theorem readInto_within (pipe : ℤ) (old : Bytes) :
    Within (Mastering config flag₀) (fun _ ↦ Mastering config flag₀) (readInto pipe old) := by
  have L := mastering_calls config flag₀
  refine L.bind (L.checked (L.sys _ (by simp [Call.topic]))) fun r ↦ ?_
  rcases r with - | bs <;> exact L.pure _

theorem faultless_readInto (pipe : ℤ) (old : Bytes) : Faultless (readInto pipe old) := by
  refine faultless_bind (faultless_checked (faultless_sys _)) fun r ↦ ?_
  rcases r with - | bs <;> exact faultless_pure _

theorem seekPipe_within (pipe : ℤ) (offset : ℕ) :
    Within (Mastering config flag₀) (fun _ ↦ Mastering config flag₀) (seekPipe pipe offset) := by
  have L := mastering_calls config flag₀
  have hread : ∀ n, Within (Mastering config flag₀) (fun _ ↦ Mastering config flag₀)
      (checked (sys (.read pipe n))) := fun n ↦ L.checked (L.sys _ (by simp [Call.topic]))
  have hblocks : ∀ n, Within (Mastering config flag₀) (fun _ ↦ Mastering config flag₀)
      (seekBlocks pipe n) := by
    intro n
    induction n with
    | zero => exact L.pure _
    | succ n ih =>
      refine L.bind (hread _) fun r ↦ ?_
      rcases r with - | bs
      · exact L.pure _
      · exact ih
  rw [seekPipe]
  split_ifs
  · exact L.pure _
  · refine L.bind (hblocks _) fun ret ↦ ?_
    split_ifs
    · exact L.pure _
    · refine L.bind (hread _) fun r ↦ ?_
      rcases r with - | bs <;> exact L.pure _

theorem faultless_seekPipe (pipe : ℤ) (offset : ℕ) : Faultless (seekPipe pipe offset) := by
  have hread : ∀ n, Faultless (checked (sys (.read pipe n))) := fun n ↦
    faultless_checked (faultless_sys _)
  have hblocks : ∀ n, Faultless (seekBlocks pipe n) := by
    intro n
    induction n with
    | zero => exact faultless_pure _
    | succ n ih =>
      refine faultless_bind (hread _) fun r ↦ ?_
      rcases r with - | bs
      · exact faultless_pure _
      · exact ih
  rw [seekPipe]
  split_ifs
  · exact faultless_pure _
  · refine faultless_bind (hblocks _) fun ret ↦ ?_
    split_ifs
    · exact faultless_pure _
    · refine faultless_bind (hread _) fun r ↦ ?_
      rcases r with - | bs <;> exact faultless_pure _

/-- What a receive function returns: no order to quit, and the entry of the same client. -/
def ReceivesFor (child : FtpChild) (r : FtpRet × FtpChild) : Prop :=
  r.1 ≠ .quit ∧ r.2.pid = child.pid

/-- What the master may run between two of its calls for a client in its list. -/
structure Receiver (config : FtpConfig) (flag₀ : SignalFlag) (child : FtpChild)
    (m : Program (FtpRet × FtpChild)) : Prop where
  within : Within (Mastering config flag₀) (fun _ ↦ Mastering config flag₀) m
  returns : Returns (ReceivesFor child) m
  faultless : Faultless m

theorem receiver_recvFun {op : StateOp} (hop : op ∈ stateOps) (pipe : ℤ) (child : FtpChild) :
    Receiver config flag₀ child (op.recvFun pipe child) := by
  have L := mastering_calls config flag₀
  have hfailed : ReceivesFor child (.error, child) := ⟨(by decide : FtpRet.error ≠ .quit), rfl⟩
  have hsuccess : ∀ child', child'.pid = child.pid → ReceivesFor child (.success, child') :=
    fun _ hpid ↦ ⟨(by decide : FtpRet.success ≠ .quit), hpid⟩
  -- four of the five functions only read a body into a field; the last one asks for the time, too
  have hread : ∀ {old : Bytes} {k : Option Bytes → Program (FtpRet × FtpChild)}
      {f : Bytes → FtpChild}, k none = pure (.error, child) →
      (∀ bs, k (some bs) = pure (.success, f bs)) → (∀ bs, (f bs).pid = child.pid) →
      Receiver config flag₀ child (readInto pipe old >>= k) := by
    intro old k f hnone hsome hf
    refine ⟨L.bind (readInto_within _ _) fun r ↦ ?_, returns_bind fun r ↦ ?_,
      faultless_bind (faultless_readInto _ _) fun r ↦ ?_⟩
    · rcases r with - | bs
      · exact hnone ▸ L.pure _
      · exact hsome bs ▸ L.pure _
    · rcases r with - | bs
      · exact hnone ▸ returns_pure hfailed
      · exact hsome bs ▸ returns_pure (hsuccess _ (hf bs))
    · rcases r with - | bs
      · exact hnone ▸ faultless_pure _
      · exact hsome bs ▸ faultless_pure _
  rcases List.mem_cons.1 hop with rfl | hop
  · exact hread rfl (fun _ ↦ rfl) fun _ ↦ rfl
  rcases List.mem_cons.1 hop with rfl | hop
  · exact hread rfl (fun _ ↦ rfl) fun _ ↦ rfl
  rcases List.mem_cons.1 hop with rfl | hop
  · exact hread rfl (fun _ ↦ rfl) fun _ ↦ rfl
  rcases List.mem_cons.1 hop with rfl | hop
  · exact hread rfl (fun _ ↦ rfl) fun _ ↦ rfl
  obtain rfl := List.mem_singleton.1 hop
  refine ⟨L.bind (readInto_within _ _) fun r ↦ ?_, returns_bind fun r ↦ ?_,
    faultless_bind (faultless_readInto _ _) fun r ↦ ?_⟩
  · rcases r with - | bs
    · exact L.pure _
    · exact L.bind (L.sysOther rfl) fun _ ↦ L.pure _
  · rcases r with - | bs
    · exact returns_pure hfailed
    · exact returns_bind fun _ ↦ returns_pure (hsuccess _ rfl)
  · rcases r with - | bs
    · exact faultless_pure _
    · exact faultless_bind (faultless_sys _) fun _ ↦ faultless_pure _

theorem pidsOf_updateClient {clients : List FtpChild} {pid : Int32} {new : FtpChild}
    (hnew : new.pid = pid) : pidsOf (updateClient clients pid new) = pidsOf clients := by
  induction clients with
  | nil => rfl
  | cons child clients ih =>
    rw [updateClient]
    split_ifs with hpid
    · simp only [pidsOf, List.map_cons, hnew, hpid]
    · simp only [pidsOf, List.map_cons] at ih ⊢
      rw [ih]

theorem seekPipe_ne_quit (pipe : ℤ) (offset : ℕ) :
    Returns (· ≠ FtpRet.quit) (seekPipe pipe offset) := by
  rw [seekPipe]
  split_ifs
  · exact returns_pure (by decide)
  · refine returns_bind fun ret ↦ ?_
    split_ifs
    · exact returns_pure (by decide)
    · refine returns_bind fun r ↦ ?_
      rcases r with - | bs <;> exact returns_pure (by decide)

theorem faultless_recvState (readPipe : ℤ) : Faultless (recvState readPipe) := by
  refine faultless_bind (faultless_sys _) fun garbage ↦
    faultless_bind (faultless_readInto _ _) fun r ↦ ?_
  rcases r with - | image
  · exact faultless_pure _
  dsimp only
  split_ifs
  · exact faultless_pure _
  split
  · exact faultless_pure _
  · next op hop =>
    refine faultless_bind faultless_get fun s ↦ ?_
    rcases findClient s.clients (FtpState.ofImage image).pid with - | child
    · exact faultless_seekPipe _ _
    · have hrecv := @receiver_recvFun loadDefaults 0 _ (List.mem_of_find?_eq_some hop)
        readPipe child
      exact faultless_bind hrecv.faultless fun _ ↦ faultless_bind (faultless_modify _) fun _ ↦
        faultless_pure _

/-- `recv_state` changes no more than what the master knows of one client. -/
theorem recvState_wp {e : Env} {w : World} (readPipe : ℤ) (hw : Mastering config flag₀ w) :
    wp e (recvState readPipe) (fun ret w' ↦ ret ≠ .quit ∧ Mastering config flag₀ w')
      (Stopped config flag₀) w := by
  have L := mastering_calls config flag₀
  refine hw.bind (L.sysOther rfl) (faultless_sys _) fun garbage w₁ hw₁ ↦ ?_
  refine hw₁.bind (readInto_within _ _) (faultless_readInto _ _) fun r w₂ hw₂ ↦ ?_
  rcases r with - | image
  · exact ⟨by decide, hw₂⟩
  dsimp only
  split_ifs
  · exact ⟨by decide, hw₂⟩
  split
  · exact ⟨by decide, hw₂⟩
  rename_i op hop
  rw [wp_bind, wp_get]
  rcases hclient : findClient w₂.st.clients (FtpState.ofImage image).pid with - | child
  · refine wp_mono ((seekPipe_ne_quit _ _).wp
      ((seekPipe_within _ _).wp_faultless (faultless_seekPipe _ _) hw₂)) (fun _ _ h ↦ h) ?_
    rintro _ w₃ ⟨rfl, h⟩
    exact .working h.toTracking
  · have hpid : child.pid = (FtpState.ofImage image).pid := by
      simpa using List.find?_some hclient
    have hrecv := @receiver_recvFun config flag₀ _ (List.mem_of_find?_eq_some hop) readPipe child
    rw [wp_bind]
    refine wp_mono (hrecv.returns.wp (hrecv.within.wp_faultless hrecv.faultless hw₂)) ?_ ?_
    · rintro ⟨ret, new⟩ w₃ ⟨⟨hret, hnew⟩, hw₃⟩
      exact ⟨hret, hw₃.withClients (pidsOf_updateClient (hnew.trans hpid))⟩
    · rintro _ w₃ ⟨rfl, h⟩
      exact .working h.toTracking

end Calls

/-! ### `daemon_handle_signal` -/

section

variable {config : FtpConfig} {flag₀ : SignalFlag} {w : World}

/-- The note of `daemon_handle_signal` takes all signals. -/
theorem Tracking.handled (h : Tracking config flag₀ w) (hflag : w.st.signalFlag = 0)
    (howed : (exitsOf flag₀ w.trace).owed = false) {ret : FtpRet}
    (hret : ret = if flagLeft (flagOf flag₀ w.trace) ≠ 0 then .quit else .success) :
    Mastering config flag₀ (noted w (.handled ret)) where
  listed := by
    rw [noted_st, h.listed, noted_trace, unreaped_concat]
    rfl
  unserved := by
    rw [noted_trace, served_concat, h.unserved]
    rfl
  mild := by
    rw [noted_trace, killsOf_concat, h.mild]
    rfl
  directed := atEach_concat.2 ⟨h.directed, nofun, nofun, fun _ hx ↦ by
    cases hx
    exact ⟨howed, hret⟩⟩
  flag := by
    rw [noted_st, hflag, noted_trace, flagOf_concat]
    rfl
  owed := by
    rw [noted_trace, exitsOf_concat, flagOf_concat]
    exact howed.trans (decide_eq_false (not_not.2 (BitVec.zero_and (x := recvSigchld)))).symm

/-- Waiting for a child, and removing it from the list. -/
theorem reapChild_wp {e : Env} (hw : Mastering config flag₀ w)
    (hchild : w.st.signalFlag &&& recvSigchld ≠ 0) :
    wp e reapChild (fun _ w' ↦ Tracking config flag₀ w' ∧ w'.st.signalFlag = 0 ∧
      flagOf flag₀ w'.trace = flagOf flag₀ w.trace ∧ (exitsOf flag₀ w'.trace).owed = false)
      (Stopped config flag₀) w := by
  have howed : (exitsOf flag₀ w.trace).owed = true := by
    rw [hw.owed, ← hw.flag]
    exact decide_eq_true hchild
  rw [reapChild, wp_bind, wp_modify, wp_bind]
  refine wp_sysBlocked (fun r _ ↦ ?_) (.working ⟨hw.listed, hw.unserved, hw.mild, hw.directed⟩)
  have hunserved : served (w.trace ++ [.call .waitpid r]) = false := by
    rw [served_concat, hw.unserved]
    rfl
  have hdirected : AtEach (Directed config flag₀) (w.trace ++ [.call .waitpid r]) :=
    atEach_concat.2 ⟨hw.directed, fun _ _ ↦ howed, nofun, nofun⟩
  rw [wp_bind]
  simp only [wp, removeClient_run]
  split_ifs with hmem
  · refine ⟨⟨?_, hunserved, ?_, hdirected⟩, ?_, ?_, ?_⟩
    · rw [unreaped_concat, ← hw.listed, pidsOf_eraseP]
      rfl
    · rw [killsOf_concat, hw.mild]
      rfl
    · simp
    · rw [flagOf_concat]
      rfl
    · rw [exitsOf_concat]
      rfl
  · refine .misled ⟨⟨w.trace, r, rfl, ?_⟩, hunserved, hdirected⟩
    rwa [← hw.listed]

/-- `daemon_handle_signal` leaves no signal behind, and says what it found. -/
theorem daemonHandleSignal_wp {e : Env} (hw : Mastering config flag₀ w) :
    wp e daemonHandleSignal
      (fun ret w' ↦ ret ∈ [FtpRet.success, .quit] ∧ Mastering config flag₀ w')
      (Stopped config flag₀) w := by
  have L := mastering_calls config flag₀
  rw [daemonHandleSignal]
  refine hw.bind (L.sysOther rfl) (faultless_sys _) fun _ w₁ hw₁ ↦ ?_
  -- what follows, given that the flags are those that `flagLeft` says
  have hrest : ∀ w₂, Tracking config flag₀ w₂ →
      w₂.st.signalFlag = flagLeft (flagOf flag₀ w₂.trace) → (exitsOf flag₀ w₂.trace).owed = false →
      wp e (do
          let ret ← takeTerminating
          mark (.handled ret)
          sys .sigprocmask
          return ret)
        (fun ret w' ↦ ret ∈ [FtpRet.success, .quit] ∧ Mastering config flag₀ w')
        (Stopped config flag₀) w₂ := by
    intro w₂ hw₂ hflag howed
    have hunblock : ∀ {w₃ : World} (ret : FtpRet), ret ∈ [FtpRet.success, .quit] →
        Mastering config flag₀ w₃ → wp e (do sys .sigprocmask; return ret)
          (fun ret w' ↦ ret ∈ [FtpRet.success, .quit] ∧ Mastering config flag₀ w')
          (Stopped config flag₀) w₃ :=
      fun ret hret hw₃ ↦ hw₃.bind (L.sysOther rfl) (faultless_sys _) fun _ _ h ↦ ⟨hret, h⟩
    simp only [takeTerminating, wp_bind, wp_get]
    split_ifs with hzero
    · simp only [wp_bind, wp_modify, wp_pure, wp_mark]
      have htaken : Tracking config flag₀ { w₂ with st := { w₂.st with signalFlag := 0 } } :=
        ⟨hw₂.listed, hw₂.unserved, hw₂.mild, hw₂.directed⟩
      refine (wp_bind _ _).1 (hunblock _ (by decide) (htaken.handled rfl howed ?_))
      rw [if_pos (hflag ▸ hzero)]
    · simp only [wp_pure, wp_mark]
      have hnone : w₂.st.signalFlag = 0 := not_not.1 hzero
      refine (wp_bind _ _).1 (hunblock _ (by decide) (hw₂.handled hnone howed ?_))
      rw [if_neg (hflag ▸ hzero)]
  rw [wp_bind, wp_get]
  by_cases hchild : w₁.st.signalFlag &&& recvSigchld ≠ 0
  · rw [if_pos hchild, wp_bind]
    refine wp_mono (reapChild_wp hw₁ hchild) (fun _ w₂ h ↦ ?_) fun _ _ h ↦ h
    obtain ⟨hw₂, hzero, hflag, howed⟩ := h
    refine hrest w₂ hw₂ ?_ howed
    rw [hzero, hflag, ← hw₁.flag, flagLeft, if_pos hchild]
  · rw [if_neg hchild]
    refine hrest w₁ hw₁.toTracking ?_ ?_
    · rw [← hw₁.flag, flagLeft, if_neg hchild]
    · rw [hw₁.owed, ← hw₁.flag]
      exact decide_eq_false hchild

end

/-! ### `handle_client` -/

theorem serving_concat {config : FtpConfig} {flag₀ : SignalFlag} (trace : List (Item kernel))
    (x : Item kernel) (hx : OfSession x) (h : Serving config flag₀ trace) :
    Serving config flag₀ (trace ++ [x]) where
  served := by
    rw [served_concat, h.served]
    rfl
  mild := by
    rw [killsOf_concat, h.mild, hx.killed?_eq]
    rfl
  directed := atEach_concat.2 ⟨h.directed, hx.directed⟩

section HandleClient

variable {config : FtpConfig} {flag₀ : SignalFlag} {w : World} {e : Env} {pid : Int32}

theorem Mastering.left (h : Mastering config flag₀ w) {ret : FtpRet} (hret : ret ≠ .quit) :
    Left config flag₀ ret w where
  mild := h.mild
  served := by simp [h.unserved, hret]
  listed _ := .inl h.listed
  directed := h.directed

namespace Pending

theorem answered (h : Pending config flag₀ pid w) {c : Call} {r : Answer c} (hwait : c ≠ .waitpid)
    (hfork : c ≠ .fork) (hkill : ∀ pid, c ≠ .kill pid) :
    Pending config flag₀ pid (answered w c r) :=
  fun child hchild ↦ (h child hchild).answered hwait hfork hkill

theorem withErrno (h : Pending config flag₀ pid w) (err : Errno) :
    Pending config flag₀ pid (withErrno w err) :=
  fun child hchild ↦ (h child hchild).withErrno err

/-- Without memory for an entry, the master leaves. -/
theorem left (h : Pending config flag₀ pid w) (hstarved : starved w.trace = true) :
    Left config flag₀ .error w := by
  have hadded := h (newChild pid ⟨0, 0, 0, 0⟩) rfl
  refine ⟨hadded.mild, by simpa using hadded.unserved, fun _ ↦ .inr ⟨hstarved, ?_⟩, hadded.directed⟩
  rw [← hadded.listed]
  exact (List.sublist_append_left _ _).map _

end Pending

/-- Before a client is served, there is room for it. -/
theorem preServer_wp (socket : ℤ) (hw : Mastering config flag₀ w) :
    wp e (preServer config socket)
      (fun ret w' ↦ Mastering config flag₀ w' ∧ (ret = .success → config.maxClients = -1 ∨
        ((unreaped w'.trace).length : ℤ) < config.maxClients))
      (Stopped config flag₀) w := by
  have L := mastering_calls config flag₀
  rw [preServer, wp_bind, wp_get]
  dsimp only
  split_ifs with hfull
  · exact hw.bind (L.reply (by decide) _ _ (by decide)) (faultless_reply _ _) fun _ _ h ↦ ⟨h, nofun⟩
  · refine ⟨hw, fun _ ↦ ?_⟩
    rw [← hw.listed, pidsOf, List.length_map]
    by_cases hmax : config.maxClients = -1
    · exact .inl hmax
    · simpa [hmax, countClients] using hfull

/-- What `fork` leads to. -/
theorem Mastering.forked (h : Mastering config flag₀ w) (hbelow : config.maxClients = -1 ∨
      ((unreaped w.trace).length : ℤ) < config.maxClients) (r : Answer .fork) :
    match r.val with
    | .error _ => Mastering config flag₀ (FtpServer.answered w .fork r)
    | .ok (.child _) => Serving config flag₀ (FtpServer.answered w .fork r).trace
    | .ok (.parent pid) => Pending config flag₀ pid (FtpServer.answered w .fork r) := by
  have hdirected : AtEach (Directed config flag₀) (FtpServer.answered w .fork r).trace :=
    atEach_concat.2 ⟨h.directed, nofun, fun _ _ ↦ hbelow, nofun⟩
  have hflag : (FtpServer.answered w .fork r).st.signalFlag =
      flagOf flag₀ (FtpServer.answered w .fork r).trace := by
    rw [answered_signalFlag, answered_trace, flagOf_concat, h.flag]
    rfl
  have howed : (exitsOf flag₀ (FtpServer.answered w .fork r).trace).owed =
      decide (flagOf flag₀ (FtpServer.answered w .fork r).trace &&& recvSigchld ≠ 0) := by
    rw [answered_trace, exitsOf_call (c := .fork) nofun, flagOf_concat,
      signalled_call (c := .fork) nofun]
    exact owed_events _ h.owed
  have hmild : killsOf (FtpServer.answered w .fork r).trace = [] := by
    rw [answered_trace, killsOf_concat, h.mild]
    rfl
  rcases r with ⟨async, err | pid | self⟩
  -- no child: the list and the children are as before
  · refine ⟨⟨?_, ?_, hmild, hdirected⟩, hflag, howed⟩
    · rw [answered_clients, h.listed, answered_trace, unreaped_concat]
      rfl
    · rw [answered_trace, served_concat, h.unserved]
      rfl
  -- the parent has one more child, which the list will have once its entry is added
  · refine fun child hchild ↦ ⟨⟨?_, ?_, hmild, hdirected⟩, hflag, howed⟩
    · have hpids : pidsOf (w.st.clients ++ [child]) = pidsOf w.st.clients ++ [pid] := by
        simp [pidsOf, hchild]
      rw [answered_clients, hpids, h.listed, answered_trace, unreaped_concat]
      rfl
    · rw [answered_trace, served_concat, h.unserved]
      rfl
  -- the child is no master any more
  · refine ⟨?_, hmild, hdirected⟩
    rw [answered_trace, served_concat]
    exact Bool.or_true _

/-- The branch of the new process. -/
theorem serveClient_wp (self : Int32) (serverSock clientSock : ℤ) (pipefds : ℤ × ℤ)
    (hw : Serving config flag₀ w.trace) :
    wp e (serveClient config self serverSock clientSock pipefds)
      (fun ret w' ↦ ret = .quit ∧ Serving config flag₀ w'.trace) (Stopped config flag₀) w := by
  have L := persists_steps (T := Serving config flag₀) serving_concat
  have K : Keeps (fun w : World ↦ Serving config flag₀ w.trace)
      (fun _ w' ↦ Serving config flag₀ w'.trace) (fun w ↦ Serving config flag₀ w.trace)
      fun w ↦ ∀ k, Stopped config flag₀ k w :=
        ⟨fun _ h ↦ h, fun _ _ _ h ↦ h, fun _ h _ ↦ .serving h⟩
  refine wp_mono (H := fun _ w' ↦ ∀ k, Stopped config flag₀ k w') ?_ (fun _ _ h ↦ h) fun k _ h ↦ h k
  refine K.bind (persists_modify _) hw fun _ w₁ hw₁ ↦ ?_
  refine K.bind (L.close (by decide) _) hw₁ fun _ w₂ hw₂ ↦ ?_
  refine K.bind (L.close (by decide) _) hw₂ fun _ w₃ hw₃ ↦ ?_
  refine K.bind (persists_ftpMain serving_concat _ _) hw₃ fun _ w₄ hw₄ ↦ ?_
  refine K.bind (L.close (by decide) _) hw₄ fun _ w₅ hw₅ ↦ ?_
  exact ⟨rfl, hw₅⟩

/-- How `handle_client` ends. -/
def ClientHandled (config : FtpConfig) (flag₀ : SignalFlag) (ret : FtpRet) (w : World) : Prop :=
  ret = .success ∧ Mastering config flag₀ w ∨ ret ≠ .success ∧ Left config flag₀ ret w

/-- The branch of the master, behind its `fork`. -/
theorem addClient_wp (clientSock : ℤ) (clientAddr : InAddr) (hw : Pending config flag₀ pid w)
    (hfork : ∃ before r, w.trace = before ++ [.call .fork r]) :
    wp e (do
        let _ ← checked (sys (.close clientSock))
        match ← newClient pid clientAddr with
        | none => return FtpRet.error
        | some client => addClient client)
      (ClientHandled config flag₀) (Stopped config flag₀) w := by
  obtain ⟨before, r₀, htrace⟩ := hfork
  have hclosed : ∀ w₁, Pending config flag₀ pid w₁ → Forking w₁.trace → wp e (do
        match ← newClient pid clientAddr with
        | none => return FtpRet.error
        | some client => addClient client)
      (ClientHandled config flag₀) (Stopped config flag₀) w₁ := by
    intro w₁ hw₁ hfork₁
    rw [wp_bind, newClient, wp_bind]
    refine wp_sys (fun r _ ↦ ?_) (.adding hw₁ hfork₁)
    have hw₂ := hw₁.answered (c := .malloc ftpChildSize) (r := r) nofun nofun nofun
    rcases hr : r.val with - | block
    · refine .inr ⟨by decide, hw₂.left ?_⟩
      simp [starved, starves, hr]
    · exact .inl ⟨rfl, hw₂ (newChild pid clientAddr) rfl⟩
  rw [wp_bind, wp_checked]
  refine wp_sys (fun r _ ↦ ?_) (.adding hw ⟨before, r₀, .inl htrace⟩)
  have hw₁ := hw.answered (c := .close clientSock) (r := r) nofun nofun nofun
  have hfork₁ : Forking (answered w (.close clientSock) r).trace :=
    ⟨before, r₀, .inr ⟨clientSock, r, by simp [htrace]⟩⟩
  rcases r.val with err | -
  · exact hclosed _ (hw₁.withErrno err) hfork₁
  · exact hclosed _ hw₁ hfork₁

/-- **What `handle_client` does with a connection.** -/
theorem handleClient_wp (serverSock : ℤ) (pipefds : ℤ × ℤ) (hw : Mastering config flag₀ w) :
    wp e (handleClient config serverSock pipefds) (ClientHandled config flag₀)
      (Stopped config flag₀) w := by
  have L := mastering_calls config flag₀
  have hclose : ∀ w₁, Mastering config flag₀ w₁ → ∀ fd, wp e (do
        let _ ← checked (sys (.close fd))
        return FtpRet.success) (ClientHandled config flag₀) (Stopped config flag₀) w₁ :=
    fun w₁ hw₁ fd ↦ hw₁.bind (L.close (by decide) _) (faultless_checked (faultless_sys _))
      fun _ _ h ↦ .inl ⟨rfl, h⟩
  refine hw.bind (L.checked (L.sys (.accept serverSock) nofun))
    (faultless_checked (faultless_sys _)) fun r w₁ hw₁ ↦ ?_
  rcases r with - | ⟨clientSock, clientAddr⟩
  · dsimp only
    rw [wp_bind, wp_errnoIs]
    split_ifs
    · exact .inl ⟨rfl, hw₁⟩
    · exact .inr ⟨by decide, hw₁.left (by decide)⟩
  dsimp only
  rw [wp_bind]
  refine wp_mono (preServer_wp _ hw₁) (fun ret w₂ h ↦ ?_) fun _ _ h ↦ h
  obtain ⟨hw₂, hbelow⟩ := h
  split_ifs with hret
  · exact hclose w₂ hw₂ _
  rw [wp_bind, wp_checked]
  refine wp_sys (fun r _ ↦ ?_) (.working hw₂.toTracking)
  have hforked := hw₂.forked (hbelow (not_not.1 hret)) r
  rcases hval : r.val with err | pid | self
  · rw [hval] at hforked
    exact hclose _ (hforked.withErrno err) _
  · rw [hval] at hforked
    exact addClient_wp clientSock clientAddr hforked ⟨w₂.trace, r, rfl⟩
  · rw [hval] at hforked
    refine wp_mono (serveClient_wp self serverSock clientSock pipefds hforked) ?_ fun _ _ h ↦ h
    rintro ret w₃ ⟨rfl, h⟩
    exact .inr ⟨by decide, h.mild, by simp [h.served], fun h ↦ absurd rfl h, h.directed⟩

end HandleClient

/-! ### The main loop -/

section Loop

variable {config : FtpConfig} {flag₀ : SignalFlag} {w : World} {e : Env}

theorem serveReady_wp (serverSock : ℤ) (pipefds : ℤ × ℤ) (sockReady pipeReady : Bool)
    (hw : Mastering config flag₀ w) :
    wp e (serveReady config serverSock pipefds sockReady pipeReady)
      (fun r w' ↦ r.elim (Mastering config flag₀ w') fun ret ↦ Left config flag₀ ret w')
      (Stopped config flag₀) w := by
  have hpipe : ∀ w₁, Mastering config flag₀ w₁ → wp e (do
        if pipeReady then
          let ret ← recvState pipefds.1
          if ret ≠ .success then
            return some ret
        return none)
      (fun r w' ↦ r.elim (Mastering config flag₀ w') fun ret ↦ Left config flag₀ ret w')
      (Stopped config flag₀) w₁ := by
    intro w₁ hw₁
    split_ifs
    · rw [wp_bind]
      refine wp_mono (recvState_wp _ hw₁) (fun ret w₂ h ↦ ?_) fun _ _ h ↦ h
      split_ifs
      · exact h.2.left h.1
      · exact h.2
    · exact hw₁
  rw [serveReady]
  by_cases hsock : sockReady = true
  · rw [if_pos hsock, wp_bind]
    refine wp_mono (handleClient_wp serverSock pipefds hw) ?_ fun _ _ h ↦ h
    rintro ret w₁ (⟨rfl, hw₁⟩ | ⟨hret, hleft⟩)
    · rw [if_neg (by decide)]
      exact hpipe w₁ hw₁
    · rw [if_pos hret]
      exact hleft
  · rw [if_neg hsock]
    exact hpipe w hw

/-- **The invariant of the master**: its main loop keeps it, is stopped as `Stopped` says, and left
as `Left` says. -/
theorem daemonLoop_left (serverSock : ℤ) (pipefds : ℤ × ℤ) (hw : Mastering config flag₀ w) :
    wp e (daemonLoop config serverSock pipefds) (Left config flag₀) (Stopped config flag₀) w := by
  refine wp_loop (fun _ ↦ Mastering config flag₀) (fun _ w hw ↦ ?_)
    (fun _ _ h ↦ .working h.toTracking) hw
  rw [wp_bind]
  refine wp_mono (daemonHandleSignal_wp hw) (fun ret w₁ h ↦ ?_) fun _ _ h ↦ h
  obtain ⟨-, hw₁⟩ := h
  split_ifs
  · exact hw₁.left (by decide)
  rw [wp_bind, wp_checked]
  refine wp_sys (fun r _ ↦ ?_) (.working hw₁.toTracking)
  have hw₂ := hw₁.answered (c := .pollBoth serverSock pipefds.1) (r := r) nofun nofun nofun
  rcases r.val with err | - | ⟨sockReady, pipeReady⟩
  · dsimp only
    rw [wp_bind, wp_errnoIs]
    split_ifs
    · exact hw₂.withErrno err
    · exact (hw₂.withErrno err).left (by decide)
  · exact hw₂
  · dsimp only
    rw [wp_bind]
    refine wp_mono (serveReady_wp serverSock pipefds sockReady pipeReady hw₂) ?_ fun _ _ h ↦ h
    rintro (_ | ret) w₃ h
    · exact h
    · exact h

/-- The main loop begins without clients. -/
theorem mastering_start (config : FtpConfig) (s : Process) (hclients : s.clients = []) :
    Mastering config s.signalFlag (World.start s) :=
  ⟨⟨by simp [hclients, pidsOf, unreaped], rfl, rfl, atEach_nil _⟩, rfl, rfl⟩

end Loop

end FtpServer
