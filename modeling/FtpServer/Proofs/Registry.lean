import FtpServer.Proofs.Seen

/-!
# The client list as a roster

The client list of the master is the roster of what it has seen: the entry of a session has the
address of its connection, and every message that was read since its fork, in order
(`daemonLoop_roster`).

* `handleClient_registered` and `recvState_registered` are the two ways in which an entry changes,
  and `daemonRound_registered` is a whole round.
* `Joining` is the one time at which the list is not the roster: a child was forked and has no entry
  yet.
* `Unlisted` is everything that tells the master of no connection and no child.
-/

namespace FtpServer

open CString Effect Effect.Proc Roster

section

variable {config : FtpConfig} {fd : ℤ} {msgs rest : List (Int32 × Message)} {addr : InAddr}
  {e : Env} {w w' : World}

/-! ### The parts of a round -/

theorem reapChild_registered (hw : Registered fd msgs rest addr w) :
    wp e reapChild (fun _ w' ↦ Registered fd msgs rest addr w') (fun _ _ ↦ True) w := by
  rw [reapChild, wp_bind, wp_modify, wp_bind]
  refine wp_sysBlocked (fun r _ ↦ ?_) trivial
  rw [wp_bind]
  simp only [Proc.wp, removeClient_run]
  split_ifs
  · exact hw.step (x := .call .waitpid r) rfl rfl rfl fun child hchild ↦
      hw.sized child (List.mem_of_mem_eraseP hchild)
  · trivial

theorem daemonHandleSignal_registered (hw : Registered fd msgs rest addr w) :
    wp e daemonHandleSignal (fun _ w' ↦ Registered fd msgs rest addr w') (fun _ _ ↦ True) w := by
  have L := registered_calls fd msgs rest addr
  have hrest : ∀ w₁, Registered fd msgs rest addr w₁ → wp e (do
      let ret ← takeTerminating
      mark (.handled ret)
      sys .sigprocmask
      return ret) (fun _ w' ↦ Registered fd msgs rest addr w') (fun _ _ ↦ True) w₁ := by
    intro w₁ hw₁
    have htake : Within (Registered fd msgs rest addr) (fun _ ↦ Registered fd msgs rest addr)
        takeTerminating := by
      refine L.bind L.get fun s ↦ ?_
      split_ifs
      · exact L.bind (within_modify fun _ hw ↦
          ⟨hw.clients, hw.sized, hw.addr, hw.read, hw.later, hw.unread⟩) fun _ ↦ L.pure _
      · exact L.pure _
    refine hw₁.bind htake fun ret w₂ hw₂ ↦ ?_
    refine hw₂.bind (within_mark fun _ hw ↦ hw.call rfl rfl rfl rfl rfl) fun _ w₃ hw₃ ↦ ?_
    exact hw₃.bind (L.sysOther rfl) fun _ _ h ↦ h
  refine hw.bind (L.sysOther rfl) fun _ w₁ hw₁ ↦ ?_
  rw [wp_bind, wp_get]
  split_ifs
  · rw [wp_bind]
    exact wp_mono (reapChild_registered hw₁) (fun _ w₂ hw₂ ↦ hrest w₂ hw₂) fun _ _ h ↦ h
  · exact hrest w₁ hw₁

theorem preServer_registered (config : FtpConfig) (socket : ℤ) :
    Within (Registered fd msgs rest addr) (fun _ ↦ Registered fd msgs rest addr)
      (preServer config socket) := by
  have L := registered_calls fd msgs rest addr
  refine L.bind L.get fun s ↦ ?_
  dsimp only
  split_ifs
  · exact L.bind (L.reply (by decide) _ _ (by decide)) fun _ ↦ L.pure _
  · exact L.pure _

/-- The list will have what the master has seen when this child is in it. -/
def Joining (fd : ℤ) (msgs rest : List (Int32 × Message)) (addr : InAddr) (pid : Int32)
    (w : World) : Prop :=
  Registered fd msgs rest addr { w with st.clients := w.st.clients ++ [newChild pid addr] }

/-- The branch of the master, behind its `fork`. -/
theorem addClient_registered (clientSock : ℤ) {pid : Int32} (hw : Joining fd msgs rest addr pid w) :
    wp e (do
        let _ ← checked (sys (.close clientSock))
        match ← newClient pid addr with
        | none => return FtpRet.error
        | some client => addClient client)
      (fun ret w' ↦ ret = .success → ∃ addr', Registered fd msgs rest addr' w')
      (fun _ _ ↦ True) w := by
  have hclosed : ∀ w₁, Joining fd msgs rest addr pid w₁ → wp e (do
        match ← newClient pid addr with
        | none => return FtpRet.error
        | some client => addClient client)
      (fun ret w' ↦ ret = .success → ∃ addr', Registered fd msgs rest addr' w') (fun _ _ ↦ True)
      w₁ := by
    intro w₁ hw₁
    rw [wp_bind, newClient, wp_bind]
    refine wp_sys (fun r _ ↦ ?_) trivial
    rcases hr : r.val with - | block
    · exact fun h ↦ absurd h (by decide)
    · exact fun _ ↦ ⟨addr, hw₁.call rfl rfl rfl rfl rfl⟩
  rw [wp_bind, wp_checked]
  refine wp_sys (fun r _ ↦ ?_) trivial
  have hw₁ : Joining fd msgs rest addr pid (answered w (.close clientSock) r) :=
    hw.call rfl rfl rfl rfl rfl
  rcases r.val with err | -
  · exact hclosed _ ⟨hw₁.clients, hw₁.sized, hw₁.addr, hw₁.read, hw₁.later, hw₁.unread⟩
  · exact hclosed _ hw₁

/-- A new process does not come back to the main loop. -/
theorem serveClient_quit (config : FtpConfig) (self : Int32) (serverSock clientSock : ℤ)
    (pipefds : ℤ × ℤ) :
    Returns (· = FtpRet.quit) (serveClient config self serverSock clientSock pipefds) :=
  returns_bind fun _ ↦ returns_bind fun _ ↦ returns_bind fun _ ↦ returns_bind fun _ ↦
    returns_bind fun _ ↦ returns_pure rfl

/-- **A connection makes an entry** with its address, unless the main loop is left. -/
theorem handleClient_registered (serverSock : ℤ) (pipefds : ℤ × ℤ)
    (hw : Registered fd msgs rest addr w) :
    wp e (handleClient config serverSock pipefds)
      (fun ret w' ↦ ret = .success → ∃ addr', Registered fd msgs rest addr' w')
      (fun _ _ ↦ True) w := by
  have hclose : ∀ addr₁ w₁, Registered fd msgs rest addr₁ w₁ → ∀ sock, wp e (do
        let _ ← checked (sys (.close sock))
        return FtpRet.success)
      (fun ret w' ↦ ret = .success → ∃ addr', Registered fd msgs rest addr' w')
      (fun _ _ ↦ True) w₁ :=
    fun addr₁ w₁ hw₁ sock ↦ hw₁.bind (registered_close _) fun _ _ h _ ↦ ⟨addr₁, h⟩
  rw [handleClient, wp_bind, wp_checked]
  refine wp_sys (fun r _ ↦ ?_) trivial
  -- the address is remembered for the entry that the child is going to have
  have hw₁ : Registered fd msgs rest ((accepted? (.call (.accept serverSock) r)).getD addr)
      (answered w (.accept serverSock) r) := hw.step rfl rfl rfl hw.sized
  rcases hr : r.val with err | ⟨clientSock, clientAddr⟩
  · dsimp only
    rw [wp_bind, wp_errnoIs]
    split_ifs
    · exact fun _ ↦ ⟨_, hw₁.clients, hw₁.sized, rfl, hw₁.read, hw₁.later, hw₁.unread⟩
    · exact fun h ↦ absurd h (by decide)
  have haccepted : accepted? (.call (.accept serverSock) r) = some clientAddr := by
    simp only [accepted?, hr]
  rw [haccepted, Option.getD_some] at hw₁
  dsimp only
  refine hw₁.bind (preServer_registered config _) fun ret w₂ hw₂ ↦ ?_
  split_ifs
  · exact hclose _ w₂ hw₂ _
  rw [wp_bind, wp_checked]
  refine wp_sys (fun r _ ↦ ?_) trivial
  rcases hval : r.val with err | pid | self
  -- without a child there is nothing to enter
  · have hw₃ : Registered fd msgs rest clientAddr (answered w₂ .fork r) :=
      hw₂.call rfl rfl (by simp only [membership?, hval]) rfl rfl
    exact hclose clientAddr (withErrno (answered w₂ .fork r) err)
      ⟨hw₃.clients, hw₃.sized, hw₃.addr, hw₃.read, hw₃.later, hw₃.unread⟩ _
  · have hjoining : Joining fd msgs rest clientAddr pid (answered w₂ .fork r) := by
      refine hw₂.step (x := .call .fork r) rfl ?_ rfl ?_
      · simp [membership?, hval, Event.applyList]
      · simpa [or_imp, forall_and] using ⟨hw₂.sized, sized_newChild pid clientAddr⟩
    exact addClient_registered clientSock hjoining
  -- in the new process `handle_client` never returns `FTP_SUCCESS`
  · dsimp only
    simp only [Proc.wp]
    rcases hrun : serveClient config self serverSock clientSock pipefds e (answered w₂ .fork r)
      with ⟨ret | k, w₃⟩
    · exact fun h ↦ absurd (h.symm.trans (serveClient_quit _ _ _ _ _ _ _ _ _ hrun)) (by decide)
    · trivial

/-! ### Messages -/

/-- What tells the master of no connection and no child. -/
def Unlisted (x : Item kernel) : Prop :=
  accepted? x = none ∧ ∀ addr, membership? addr x = none

theorem unlisted_of_topic {c : Call} (hdescriptor : c.topic ≠ .descriptor)
    (hmaster : c.topic ≠ .master) (r : Answer c) : Unlisted (.call c r) := by
  cases c with
  | accept => exact absurd rfl hdescriptor
  | fork | waitpid => exact absurd rfl hmaster
  | _ => exact ⟨rfl, fun _ ↦ rfl⟩

theorem unlisted_guard : Guard (fun _ ↦ True) (Extends (σ := Process) Unlisted) where
  refl w _ := .refl w
  trans _ h₁ h₂ := h₁.trans h₂
  keep _ _ := trivial

theorem unlisted_calls :
    CallLogic (fun t ↦ t ≠ .descriptor ∧ t ≠ .master) (fun _ ↦ True) (Extends Unlisted) :=
  .of_observe unlisted_guard (by decide) (by decide)
    (fun _ hc ↦ within_sys unlisted_guard fun _ r _ ↦
      .concat rfl (unlisted_of_topic hc.1 hc.2 r))
    (fun _ ↦ within_setErrno fun _ _ ↦ .of_eq rfl)
    fun _ _ ↦ within_mark fun _ _ ↦ .concat rfl ⟨rfl, fun _ ↦ rfl⟩

/-- `recv_state` reads, and changes the client list. -/
theorem CallLogic.recvState {A : Topic → Prop} {P : World → Prop} {R : World → World → Prop}
    (L : CallLogic A P R) (hdata : A .data)
    (hclients : ∀ f : List FtpChild → List FtpChild, Within P R
      (Proc.modify fun s : Process ↦ { s with clients := f s.clients })) (fd : ℤ) :
    Within P R (recvState fd) := by
  have hread : ∀ n, Within P R (FtpServer.checked (FtpServer.sys (.read fd n))) := fun n ↦
    L.checked (L.sys _ hdata)
  have hinto : ∀ old, Within P R (readInto fd old) := by
    refine fun old ↦ L.bind (hread _) fun r ↦ ?_
    rcases r with - | bs <;> exact L.pure _
  have hblocks : ∀ n, Within P R (seekBlocks fd n) := by
    intro n
    induction n with
    | zero => exact L.pure _
    | succ n ih =>
      refine L.bind (hread _) fun r ↦ ?_
      rcases r with - | bs
      · exact L.pure _
      · exact ih
  have hseek : ∀ offset, Within P R (seekPipe fd offset) := by
    intro offset
    rw [seekPipe]
    split_ifs
    · exact L.pure _
    · refine L.bind (hblocks _) fun ret ↦ ?_
      split_ifs
      · exact L.pure _
      · refine L.bind (hread _) fun r ↦ ?_
        rcases r with - | bs <;> exact L.pure _
  have hrecv : ∀ op ∈ stateOps, ∀ child, Within P R (op.recvFun fd child) := by
    simp only [stateOps, List.forall_mem_cons]
    refine ⟨?_, ?_, ?_, ?_, ?_, fun _ hop ↦ absurd hop List.not_mem_nil⟩
    all_goals
      refine fun child ↦ L.bind (hinto _) fun r ↦ ?_
      rcases r with - | bs
      · exact L.pure _
    · exact L.pure _
    · exact L.pure _
    · exact L.pure _
    · exact L.pure _
    · exact L.bind (L.sysOther rfl) fun _ ↦ L.pure _
  refine L.bind (L.sysOther rfl) fun garbage ↦ L.bind (hinto _) fun r ↦ ?_
  rcases r with - | image
  · exact L.pure _
  dsimp only
  split_ifs
  · exact L.pure _
  split
  · exact L.pure _
  · next op hop =>
    refine L.bind L.get fun s ↦ ?_
    rcases findClient s.clients (FtpState.ofImage image).pid with - | child
    · exact hseek _
    · exact L.bind (hrecv op (List.mem_of_find?_eq_some hop) child) fun r ↦
        L.bind (hclients fun clients ↦ updateClient clients _ r.2) fun _ ↦ L.pure _

theorem Seen.step_unlisted {seen : Seen} {x : Item kernel} (hx : Unlisted x) :
    seen.step fd x = seen.advance (readLength fd x) := by
  rw [Seen.step, Seen.enroll, hx.1, hx.2]
  simp

theorem Seen.advance_cons {seen : Seen} {pid : Int32} {m : Message}
    {rest : List (Int32 × Message)} (hrest : seen.rest = (pid, m) :: rest) (n : ℕ) :
    seen.advance n = if (m.bytes pid).length ≤ seen.read + n then
        { seen with events := seen.events ++ [.sent pid m], read := 0, rest }
      else { seen with read := seen.read + n } := by
  obtain ⟨addr, events, read, _⟩ := seen
  obtain rfl : _ = (pid, m) :: rest := hrest
  rfl

/-- When there are no more messages, or no more of them is read, nothing happens. -/
theorem Seen.foldl_still {seen : Seen} {suffix : List (Item kernel)}
    (hsuffix : ∀ x ∈ suffix, Unlisted x)
    (hstill : seen.rest = [] ∨ seen.read = 0 ∧ (suffix.map (readLength fd)).sum = 0) :
    suffix.foldl (Seen.step fd) seen = seen := by
  induction suffix with
  | nil => rfl
  | cons x suffix ih =>
    obtain ⟨hx, hsuffix⟩ := List.forall_mem_cons.1 hsuffix
    rw [List.map_cons, List.sum_cons] at hstill
    have hstep : seen.step fd x = seen := by
      rw [Seen.step_unlisted hx]
      rcases hstill with hrest | ⟨hread, hsum⟩
      · rw [Seen.advance, hrest]
      · rw [show readLength fd x = 0 by omega]
        exact Seen.advance_zero hread
    rw [List.foldl_cons, hstep]
    exact ih hsuffix (hstill.imp_right fun h ↦ ⟨h.1, by omega⟩)

/-- A message is read in any number of parts. -/
theorem Seen.foldl_message {seen : Seen} {suffix : List (Item kernel)} {pid : Int32}
    {m : Message} {rest : List (Int32 × Message)} (hsuffix : ∀ x ∈ suffix, Unlisted x)
    (hrest : seen.rest = (pid, m) :: rest) (hpart : seen.read < (m.bytes pid).length)
    (hwhole : (m.bytes pid).length ≤ seen.read + (suffix.map (readLength fd)).sum)
    (hexact : rest = [] ∨
      (m.bytes pid).length = seen.read + (suffix.map (readLength fd)).sum) :
    suffix.foldl (Seen.step fd) seen =
      { seen with events := seen.events ++ [.sent pid m], read := 0, rest } := by
  induction suffix generalizing seen with
  | nil =>
    rw [List.map_nil, List.sum_nil] at hwhole
    omega
  | cons x suffix ih =>
    obtain ⟨hx, hsuffix⟩ := List.forall_mem_cons.1 hsuffix
    rw [List.map_cons, List.sum_cons] at hwhole hexact
    rw [List.foldl_cons, Seen.step_unlisted hx, Seen.advance_cons hrest]
    split_ifs with hlength
    · exact Seen.foldl_still hsuffix (hexact.imp_right fun h ↦ ⟨rfl, by omega⟩)
    · refine ih hsuffix hrest (by dsimp only; omega) (by dsimp only; omega)
        (hexact.imp_right fun h ↦ by dsimp only; omega)

theorem deliverTo_eq_change (pid : Int32) (m : Message) (clients : List FtpChild) :
    deliverTo pid m clients = change FtpChild.pid pid m.applyTo clients := by
  rw [deliverTo, findClient]
  induction clients with
  | nil => rfl
  | cons child clients ih =>
    rw [List.find?_cons, change]
    by_cases hpid : child.pid = pid
    · simp [hpid, updateClient]
    · rw [if_neg hpid, ← ih]
      simp only [hpid, decide_false]
      generalize List.find? _ clients = found
      rcases found with - | found
      · rfl
      · dsimp only
        rw [updateClient, if_neg hpid]

theorem length_streamOf_pos {x : Int32 × Message} {rest : List (Int32 × Message)} :
    0 < (streamOf (x :: rest)).length := by
  have hpos := length_bytes_pos x.1 x.2
  rw [streamOf, List.flatMap_cons, List.length_append]
  omega

/-- **A message is received** for its sender. -/
theorem recvState_registered (hpipe : Pipe fd (streamOf msgs) e)
    (hsized : ∀ x ∈ msgs, x.2.Sized) {pid : Int32} {m : Message}
    (hw : Registered fd msgs ((pid, m) :: rest) addr w) :
    wp e (recvState fd) (fun ret w' ↦ ret = .success ∧ Registered fd msgs rest addr w')
      (fun _ _ ↦ True) w := by
  have hmem : (pid, m) ∈ msgs := by
    rw [← sent_append_rest fd msgs w.trace, hw.later]
    simp
  have hunread : unread fd (streamOf msgs) w.trace = m.bytes pid ++ streamOf rest := by
    rw [hw.unread, streamOf, List.flatMap_cons]
    rfl
  have hextends : Within (fun _ ↦ True) (Extends Unlisted) (recvState fd) :=
    unlisted_calls.recvState (by decide) (fun _ ↦ within_modify fun _ _ ↦ .of_eq rfl) fd
  refine wp_mono (wp_and (recvState_boundary hpipe (hsized _ hmem) hunread hw.sized)
    (hextends.wp trivial)) ?_ fun _ _ _ ↦ trivial
  rintro ret w' ⟨⟨rfl, hunread', hclients'⟩, suffix, htrace, hsuffix⟩
  refine ⟨rfl, ?_⟩
  -- as many bytes were read as the message has, at least
  have hpos := length_bytes_pos pid m
  have hconsumed : consumed fd w'.trace =
      consumed fd w.trace + (suffix.map (readLength fd)).sum := by
    rw [consumed, htrace, List.map_append, List.sum_append]
    rfl
  have hlength := congrArg List.length hunread
  have hlength' := congrArg List.length hunread'
  rw [unread, List.length_drop, List.length_append] at hlength
  rw [unread, List.length_drop, hconsumed] at hlength'
  have hseen : seenOf fd msgs w'.trace = { seenOf fd msgs w.trace with
      events := (seenOf fd msgs w.trace).events ++ [.sent pid m], read := 0, rest } := by
    have hfold : seenOf fd msgs w'.trace =
        suffix.foldl (Seen.step fd) (seenOf fd msgs w.trace) := by
      rw [htrace]
      exact List.foldl_append
    have hread := hw.read
    rw [hfold]
    refine Seen.foldl_message hsuffix hw.later (by omega) (by omega) ?_
    rcases rest with - | ⟨x, rest⟩
    · exact .inl rfl
    · have hpos' := @length_streamOf_pos x rest
      exact .inr (by omega)
  refine ⟨?_, ?_, ?_, ?_, ?_, hunread'⟩
  · rw [hclients', hseen, replayList_append, ← hw.clients, deliverTo_eq_change]
    rfl
  · rw [hclients']
    exact sized_deliverTo hw.sized (hsized _ hmem)
  · rw [hseen]
    exact hw.addr
  · rw [hseen]
  · rw [hseen]

/-- At the start of a round, the list has what the master has seen. -/
def AtRound (fd : ℤ) (msgs : List (Int32 × Message)) (w : World) : Prop :=
  ∃ rest addr, Registered fd msgs rest addr w

theorem serveReady_registered (serverSock : ℤ) {pipefds : ℤ × ℤ}
    (hpipe : Pipe pipefds.1 (streamOf msgs) e) (hsized : ∀ x ∈ msgs, x.2.Sized)
    (sockReady pipeReady : Bool) (hready : pipeReady = true → rest ≠ [])
    (hw : Registered pipefds.1 msgs rest addr w) :
    wp e (serveReady config serverSock pipefds sockReady pipeReady)
      (fun r w' ↦ r = none → AtRound pipefds.1 msgs w') (fun _ _ ↦ True) w := by
  have hreceive : ∀ addr₁ w₁, Registered pipefds.1 msgs rest addr₁ w₁ → wp e (do
        if pipeReady then
          let ret ← recvState pipefds.1
          if ret ≠ .success then
            return some ret
        return none)
      (fun (r : Option FtpRet) w' ↦ r = none → AtRound pipefds.1 msgs w') (fun _ _ ↦ True)
      w₁ := by
    intro addr₁ w₁ hw₁
    by_cases hpipeReady : pipeReady = true
    · obtain ⟨⟨pid, m⟩, rest, rfl⟩ : ∃ x rest', rest = x :: rest' :=
        List.exists_cons_of_ne_nil (hready hpipeReady)
      rw [if_pos hpipeReady, wp_bind]
      refine wp_mono (recvState_registered hpipe hsized hw₁) ?_ fun _ _ h ↦ h
      rintro _ w₂ ⟨rfl, hw₂⟩
      exact fun _ ↦ ⟨_, _, hw₂⟩
    · rw [if_neg hpipeReady]
      exact fun _ ↦ ⟨_, _, hw₁⟩
  rw [serveReady]
  by_cases hsock : sockReady = true
  · rw [if_pos hsock, wp_bind]
    refine wp_mono (handleClient_registered serverSock pipefds hw) (fun ret w₁ h ↦ ?_)
      fun _ _ h ↦ h
    by_cases hret : ret = .success
    · obtain ⟨addr₁, hw₁⟩ := h hret
      rw [if_neg (not_not.2 hret)]
      exact hreceive addr₁ w₁ hw₁
    · rw [if_pos hret]
      intro hnone
      cases hnone
  · rw [if_neg hsock]
    exact hreceive addr w hw

/-- **A round of the main loop** keeps the list up with what the master has seen. -/
theorem daemonRound_registered (serverSock : ℤ) {pipefds : ℤ × ℤ}
    (hpipe : Pipe pipefds.1 (streamOf msgs) e) (hpolls : PollsPipe pipefds.1 (streamOf msgs) e)
    (hsized : ∀ x ∈ msgs, x.2.Sized) (hw : AtRound pipefds.1 msgs w) :
    wp e (daemonRound config serverSock pipefds)
      (fun r w' ↦ r = .inl () → AtRound pipefds.1 msgs w') (fun _ _ ↦ True) w := by
  obtain ⟨rest, addr, hw⟩ := hw
  rw [daemonRound, wp_bind]
  refine wp_mono (daemonHandleSignal_registered hw) (fun ret w₁ hw₁ ↦ ?_) fun _ _ h ↦ h
  split_ifs
  · exact nofun
  rw [wp_bind, wp_checked]
  refine wp_sys (fun r hr ↦ ?_) trivial
  have hw₂ : Registered pipefds.1 msgs rest addr
      (answered w₁ (.pollBoth serverSock pipefds.1) r) := hw₁.call rfl rfl rfl rfl rfl
  rcases hval : r.val with err | - | ⟨sockReady, pipeReady⟩
  · dsimp only
    rw [wp_bind, wp_errnoIs]
    split_ifs
    · exact fun _ ↦ ⟨_, _, hw₂.clients, hw₂.sized, hw₂.addr, hw₂.read, hw₂.later, hw₂.unread⟩
    · exact nofun
  · exact fun _ ↦ ⟨_, _, hw₂⟩
  · dsimp only
    -- `poll` reports the pipe only if there is something in it
    have hready : pipeReady = true → rest ≠ [] := by
      rintro rfl rfl
      exact hpolls w₁.trace serverSock r hr sockReady hval hw₁.unread
    rw [wp_bind]
    refine wp_mono (serveReady_registered serverSock hpipe hsized sockReady pipeReady hready hw₂)
      (fun r w₃ h ↦ ?_) fun _ _ h ↦ h
    rcases r with - | ret
    · exact fun _ ↦ h rfl
    · exact nofun

end

/-! ### The roster -/

/-- The list has an entry for each session that was forked and not waited for. It says where the
session's connection came from, and everything that was read from the session since its fork. -/
structure KeepsRoster (fd : ℤ) (msgs : List (Int32 × Message)) (w : World) : Prop where
  members : pidsOf w.st.clients = unreaped w.trace
  entries : ∀ pid, findClient w.st.clients pid =
    (career pid (seenOf fd msgs w.trace).events).map fun (child, ms) ↦
      receiveAll Message.applyTo child ms
  unread : unread fd (streamOf msgs) w.trace = streamOf (seenOf fd msgs w.trace).rest

/-- **The client list is the roster of the sessions**, at the start of every round of the main loop,
whatever the sessions send, and in whatever order. -/
theorem daemonLoop_roster (config : FtpConfig) (serverSock : ℤ) (pipefds : ℤ × ℤ) (e : Env)
    (msgs : List (Int32 × Message)) (hsized : ∀ x ∈ msgs, x.2.Sized)
    (hpipe : Pipe pipefds.1 (streamOf msgs) e) (hpolls : PollsPipe pipefds.1 (streamOf msgs) e)
    (s : Process) (hclients : s.clients = []) {w : World}
    (hbegins : Begins config serverSock pipefds e (World.start s) w)
    (hfresh : AtEach FreshFork w.trace) : KeepsRoster pipefds.1 msgs w := by
  have hround : AtRound pipefds.1 msgs w := by
    clear hfresh
    induction hbegins with
    | start =>
      exact ⟨msgs, _, hclients, by simp [World.start, hclients], rfl, rfl, rfl, rfl⟩
    | round _ hround ih =>
      exact wp_ret (daemonRound_registered serverSock hpipe hpolls hsized ih) hround rfl
  obtain ⟨rest, addr, hw⟩ := hround
  refine ⟨?_, fun pid ↦ ?_, hw.later ▸ hw.unread⟩
  · rw [hw.clients]
    exact pidsOf_replayList _ _ _
  · rw [hw.clients, ← replay_eq_career]
    exact (represents_seenOf hfresh).find?_eq pid

instance (m : Message) : Decidable m.Sized :=
  inferInstanceAs (Decidable (m.body.length = (opOf m.type).bufSize))

/-- A session changes its directory and begins a transfer. Something comes from another one in
between, which the master does not know. -/
def threeMessages : List (Int32 × Message) :=
  [(10, ⟨.chdir, ofString "/a" ++ List.replicate (ftpMaxPath - 2) nul⟩),
    (11, ⟨.login, List.replicate maxLoginName nul⟩),
    (10, ⟨.xferStart, ofString "b" ++ List.replicate (ftpMaxName - 1) nul⟩)]

/-- There is one session, from whose pipe these messages come. -/
def oneSession (msgs : List (Int32 × Message)) : Env :=
  pipedMaster (streamOf msgs) [] fun _ c ↦
    match c with
    | .accept _ => some ⟨[], .ok (6, ⟨127, 0, 0, 1⟩)⟩
    | .fork => some ⟨[], .ok (.parent 10)⟩
    | _ => none

theorem pipe_oneSession (msgs : List (Int32 × Message)) :
    Pipe 4 (streamOf msgs) (oneSession msgs) := pipe_pipedMaster 4

theorem pollsPipe_oneSession (msgs : List (Int32 × Message)) :
    PollsPipe 4 (streamOf msgs) (oneSession msgs) := pollsPipe_pipedMaster 4

def threeRounds : Env := oneSession threeMessages

/-- The state after so many rounds. -/
def afterRounds (e : Env) : ℕ → World
  | 0 => World.start (Process.initial 1)
  | n + 1 => (daemonRound loadDefaults 3 (4, 5) e (afterRounds e n)).2

def endsRound : Outcome (Unit ⊕ FtpRet) → Bool
  | .ret (.inl ()) => true
  | _ => false

theorem begins_afterRounds {e : Env} {n : ℕ}
    (h : ∀ k < n, endsRound (daemonRound loadDefaults 3 (4, 5) e (afterRounds e k)).1 = true) :
    Begins loadDefaults 3 (4, 5) e (World.start (Process.initial 1)) (afterRounds e n) := by
  induction n with
  | zero => exact .start
  | succ n ih =>
    have hround := h n (Nat.lt_succ_self n)
    refine (ih fun k hk ↦ h k (Nat.lt_succ_of_lt hk)).round (run_eq ?_)
    rcases hrun : (daemonRound loadDefaults 3 (4, 5) e (afterRounds e n)).1 with (⟨⟩ | ret) | k
    · rfl
    · rw [hrun] at hround
      cases hround
    · rw [hrun] at hround
      cases hround

theorem daemonLoop_roster_three :
    KeepsRoster 4 threeMessages (afterRounds threeRounds 3) ∧
      (findClient (afterRounds threeRounds 3).st.clients 10).map (fun child ↦
        (child.clientAddr, cstr child.path, cstr child.filename, child.xferInProgress)) =
        some (⟨127, 0, 0, 1⟩, ofString "/a", ofString "b", true) :=
  ⟨daemonLoop_roster loadDefaults 3 (4, 5) threeRounds threeMessages (by decide +kernel)
    (pipe_oneSession _) (pollsPipe_oneSession _) (Process.initial 1) rfl
    (begins_afterRounds (by decide +kernel)) (by decide +kernel), by decide +kernel⟩

end FtpServer
