import FtpServer.Proofs.Pipe
import FtpServer.Proofs.Reaping

/-!
# Leaving the main loop

The master leaves its main loop for a call that fails, for a signal, or because it has become a
session (`daemonLoop_released`). Of these, a client can bring about two: a connection that is gone
before it is accepted, and one that is gone before it is refused (`daemonLoop_leaves`). Without them
the master serves forever (`daemonLoop_serves`).

* `releases` is a call after which the loop may be left. `troubles` and `Unharmed` divide these
  calls among the system and the clients.
* `Attending` is what the master knows of the pipe in the middle of a round, and `AtMessage` between
  two: whole messages are in it, so `recv_state` never waits for the rest of one.
* `daemonLoop_released` is the case analysis of a round, and the other results follow from it.
-/

namespace FtpServer

open CString Effect Effect.Proc

/-! ### What the trace says -/

/-- It fails, and not because of a signal. -/
def pollFails : Item kernel → Bool
  | .call (.pollBoth _ _) r =>
    match r.val with
    | .error err => err ≠ .eintr
    | .ok _ => false
  | _ => false

def acceptFails : Item kernel → Bool
  | .call (.accept _) r =>
    match r.val with
    | .error err => err ≠ .eintr
    | .ok _ => false
  | _ => false

/-- `daemon_handle_signal` returns something else than `FTP_SUCCESS`. -/
def handlesOtherwise : Item kernel → Bool
  | .note (.handled ret) => ret ≠ .success
  | _ => false

/-- The main loop may be left because of this. -/
def releases (x : Item kernel) : Bool :=
  pollFails x || acceptFails x || starves x || handlesOtherwise x || forksChild x

/-- The signals that are delivered with a call. -/
def signalsOf : Item kernel → List Signal
  | .call _ r => (Answer.async r).filterMap Async.signal?
  | .note _ => []

/-- A resource is exhausted, or a signal is delivered that is to end the master. -/
def troubles (x : Item kernel) : Bool :=
  pollFails x || starves x || (signalsOf x).any Signal.terminates

/-- What clients may do without ending the master: every connection that is to be accepted is there,
and when a reply has raised a `SIGPIPE`, a child has exited before it is looked at. -/
def Unharmed (before : List (Item kernel)) : Item kernel → Prop
  | .note (.handled _) => .sigpipe ∈ unheeded [] before → .sigchld ∈ unheeded [] before
  | x => acceptFails x = false

instance (before : List (Item kernel)) (x : Item kernel) : Decidable (Unharmed before x) := by
  rcases x with ⟨c, r⟩ | n
  · exact (inferInstance : Decidable (acceptFails (.call c r) = false))
  rcases n with ⟨⟩
  case note.handled =>
    exact (inferInstance :
      Decidable (.sigpipe ∈ unheeded [] before → .sigchld ∈ unheeded [] before))
  all_goals exact (inferInstance : Decidable (acceptFails (.note _) = false))

/-- The pipe is said to be ready only if there is something in it. -/
def PollsPipe (fd : ℤ) (stream : Bytes) (e : Env) : Prop :=
  ∀ trace sock, ∀ r : Answer (.pollBoth sock fd), e.answer trace (.pollBoth sock fd) = r →
    ∀ sockReady, r.val = .ok (some (sockReady, true)) → unread fd stream trace ≠ []

/-- What was released stays so. -/
theorem any_releases_append {trace : List (Item kernel)} (h : trace.any releases = true)
    (x : Item kernel) : (trace ++ [x]).any releases = true := by
  rw [List.any_append, h, Bool.true_or]

/-- The last entry may release. -/
theorem any_releases_concat {trace : List (Item kernel)} {x : Item kernel}
    (h : releases x = true) : (trace ++ [x]).any releases = true := by
  simp [h]

/-! ### Between two messages -/

/-- The entries have their sizes, and this is in the pipe. -/
structure Attending (fd : ℤ) (stream rest : Bytes) (w : World) : Prop where
  sized : ∀ child ∈ w.st.clients, Sized child
  unread : unread fd stream w.trace = rest

section

variable {config : FtpConfig} {fd : ℤ} {stream rest : Bytes} {e : Env} {w : World}

/-- A step that reads nothing from the pipe. -/
theorem Attending.step (h : Attending fd stream rest w) {w' : World} {x : Item kernel}
    (htrace : w'.trace = w.trace ++ [x]) (hclients : w'.st.clients = w.st.clients)
    (hx : readLength fd x = 0) : Attending fd stream rest w' where
  sized := hclients ▸ h.sized
  unread := by rw [htrace, unread_concat, hx, List.drop_zero, h.unread]

/-- Only reads take bytes from the pipe. -/
theorem readLength_of_topic {c : Call} (hc : c.topic ≠ .data) (r : Answer c) :
    readLength fd (.call c r) = 0 := by
  cases c with
  | read => exact absurd rfl hc
  | _ => rfl

/-- So the other calls leave the master attending to the same rest of the stream. -/
theorem attending_calls (fd : ℤ) (stream rest : Bytes) :
    CallLogic (· ≠ .data) (Attending fd stream rest) fun _ ↦ Attending fd stream rest :=
  .of_observe (guard_inv _) (by decide) (by decide)
    (fun _ hc ↦ within_sys (guard_inv _) fun _ r hw ↦ hw.step rfl rfl (readLength_of_topic hc r))
    (fun _ ↦ within_setErrno fun _ hw ↦ ⟨hw.sized, hw.unread⟩)
    fun _ _ ↦ within_mark fun _ hw ↦ hw.step rfl rfl rfl

/-- The first part of a program is none that reads from the pipe. -/
theorem Attending.bind {α β : Type} {m : Program α} {f : α → Program β}
    {Q : β → World → Prop} (hw : Attending fd stream rest w)
    (hm : Within (Attending fd stream rest) (fun _ ↦ Attending fd stream rest) m)
    (hrest : ∀ a w', Attending fd stream rest w' → wp e (f a) Q (fun _ _ ↦ True) w') :
    wp e (m >>= f) Q (fun _ _ ↦ True) w :=
  (wp_bind _ _).2 (wp_mono (hm.wp hw) hrest fun _ _ _ ↦ trivial)

/-- A result other than `FTP_SUCCESS` has its reason. -/
structure Answers (fd : ℤ) (stream rest : Bytes) (ret : FtpRet) (w : World) : Prop where
  attending : ret = .success → Attending fd stream rest w
  released : ret ≠ .success → w.trace.any releases = true

/-- As long as it attends, it may succeed. -/
theorem answers_success (h : Attending fd stream rest w) : Answers fd stream rest .success w :=
  ⟨fun _ ↦ h, fun hne ↦ absurd rfl hne⟩

/-- If it does not, something has released it. -/
theorem answers_released {ret : FtpRet} (hret : ret ≠ .success)
    (h : w.trace.any releases = true) : Answers fd stream rest ret w :=
  ⟨fun heq ↦ absurd heq hret, fun _ ↦ h⟩

/-! ### The parts of the main loop -/

/-- Reaping is no reason to leave. -/
theorem reapChild_attending :
    Within (Attending fd stream rest) (fun _ ↦ Attending fd stream rest) reapChild := by
  have G := guard_inv (Attending fd stream rest)
  refine within_bind G (within_modify fun _ hw ↦ ⟨hw.sized, hw.unread⟩) fun _ ↦ ?_
  refine within_bind G (within_sysBlocked G fun _ _ hw ↦ hw.step rfl rfl rfl) fun pid ↦ ?_
  refine within_bind G ?_ fun _ ↦ within_pure G _
  intro e w hw
  rw [removeClient_run]
  split_ifs
  · exact ⟨fun child hchild ↦ hw.sized child (List.mem_of_mem_eraseP hchild), hw.unread⟩
  · exact hw

/-- `daemon_handle_signal` fails only for a signal that terminates. -/
theorem daemonHandleSignal_answers (hw : Attending fd stream rest w) :
    wp e daemonHandleSignal (Answers fd stream rest) (fun _ _ ↦ True) w := by
  have L := attending_calls fd stream rest
  have hrest : ∀ w₁, Attending fd stream rest w₁ → wp e (do
      let ret ← takeTerminating
      mark (.handled ret)
      sys .sigprocmask
      return ret) (Answers fd stream rest) (fun _ _ ↦ True) w₁ := by
    intro w₁ hw₁
    have htake : Within (Attending fd stream rest) (fun _ ↦ Attending fd stream rest)
        takeTerminating := by
      refine L.bind L.get fun s ↦ ?_
      split_ifs
      · exact L.bind (within_modify fun _ hw ↦ ⟨hw.sized, hw.unread⟩) fun _ ↦ L.pure _
      · exact L.pure _
    refine hw₁.bind htake fun ret w₂ hw₂ ↦ ?_
    rw [wp_bind, wp_mark, wp_bind]
    refine wp_sys (fun r _ ↦ ?_) trivial
    have hnoted : Attending fd stream rest (noted w₂ (.handled ret)) := hw₂.step rfl rfl rfl
    have hw₃ : Attending fd stream rest (answered (noted w₂ (.handled ret)) .sigprocmask r) :=
      hnoted.step rfl rfl rfl
    by_cases hret : ret = .success
    · subst hret
      exact answers_success hw₃
    · exact answers_released hret (any_releases_append (any_releases_concat
        (by simp [releases, handlesOtherwise, hret])) _)
  refine hw.bind (L.sysOther rfl) fun _ w₁ hw₁ ↦ ?_
  rw [wp_bind, wp_get]
  split_ifs
  · exact hw₁.bind reapChild_attending fun _ w₂ hw₂ ↦ hrest w₂ hw₂
  · exact hrest w₁ hw₁

/-- Making a session's process ready is no reason to leave. -/
theorem preServer_attending (config : FtpConfig) (socket : ℤ) :
    Within (Attending fd stream rest) (fun _ ↦ Attending fd stream rest)
      (preServer config socket) := by
  have L := attending_calls fd stream rest
  refine L.bind L.get fun s ↦ ?_
  dsimp only
  split_ifs
  · exact L.bind (L.reply (by decide) _ _ (by decide)) fun _ ↦ L.pure _
  · exact L.pure _

/-- A new process is no master any more, and returns when its client is served. -/
theorem serveClient_answers (self : Int32) (serverSock clientSock : ℤ) (pipefds : ℤ × ℤ)
    (hw : w.trace.any releases = true) :
    wp e (serveClient config self serverSock clientSock pipefds) (Answers fd stream rest)
      (fun _ _ ↦ True) w := by
  have hT : ∀ trace x, OfSession x → trace.any releases = true →
      (trace ++ [x]).any releases = true := fun _ x _ h ↦ any_releases_append h x
  have L := persists_steps hT
  have K : Keeps (fun w : World ↦ w.trace.any releases = true)
      (fun _ w' ↦ w'.trace.any releases = true) (fun w ↦ w.trace.any releases = true)
      fun _ ↦ True := ⟨fun _ h ↦ h, fun _ _ _ h ↦ h, fun _ _ ↦ trivial⟩
  refine K.bind (persists_modify (T := fun trace ↦ trace.any releases = true) _) hw
    fun _ w₁ hw₁ ↦ ?_
  refine K.bind (L.close (by decide) _) hw₁ fun _ w₂ hw₂ ↦ ?_
  refine K.bind (L.close (by decide) _) hw₂ fun _ w₃ hw₃ ↦ ?_
  refine K.bind (persists_ftpMain hT _ _) hw₃ fun _ w₄ hw₄ ↦ ?_
  refine K.bind (L.close (by decide) _) hw₄ fun _ w₅ hw₅ ↦ ?_
  exact answers_released (by decide) hw₅

/-- Accepting a client fails for the reasons that are listed. -/
theorem handleClient_answers (serverSock : ℤ) (pipefds : ℤ × ℤ) (hw : Attending fd stream rest w) :
    wp e (handleClient config serverSock pipefds) (Answers fd stream rest) (fun _ _ ↦ True) w := by
  have L := attending_calls fd stream rest
  have hclose : ∀ w₁, Attending fd stream rest w₁ → ∀ sock, wp e (do
        let _ ← checked (sys (.close sock))
        return FtpRet.success) (Answers fd stream rest) (fun _ _ ↦ True) w₁ :=
    fun w₁ hw₁ sock ↦ hw₁.bind (L.close (by decide) _) fun _ _ h ↦ answers_success h
  rw [handleClient, wp_bind, wp_checked]
  refine wp_sys (fun r _ ↦ ?_) trivial
  have hw₁ : Attending fd stream rest (answered w (.accept serverSock) r) := hw.step rfl rfl rfl
  rcases hr : r.val with err | ⟨clientSock, clientAddr⟩
  · dsimp only
    rw [wp_bind, wp_errnoIs]
    split_ifs with herr
    · exact answers_success ⟨hw₁.sized, hw₁.unread⟩
    · refine answers_released (by decide) (any_releases_concat ?_)
      have hne : err ≠ .eintr := by
        rintro rfl
        exact herr (decide_eq_true rfl)
      simp [releases, acceptFails, hr, hne]
  dsimp only
  refine hw₁.bind (preServer_attending config _) fun ret w₂ hw₂ ↦ ?_
  split_ifs
  · exact hclose w₂ hw₂ _
  rw [wp_bind, wp_checked]
  refine wp_sys (fun r _ ↦ ?_) trivial
  have hw₃ : Attending fd stream rest (answered w₂ .fork r) := hw₂.step rfl rfl rfl
  rcases hval : r.val with err | pid | self
  · exact hclose (withErrno (answered w₂ .fork r) err) ⟨hw₃.sized, hw₃.unread⟩ _
  · refine hw₃.bind (L.close (by decide) _) fun _ w₄ hw₄ ↦ ?_
    rw [wp_bind, newClient, wp_bind]
    refine wp_sys (fun r _ ↦ ?_) trivial
    have hw₅ : Attending fd stream rest (answered w₄ (.malloc ftpChildSize) r) :=
      hw₄.step rfl rfl rfl
    rcases hr : r.val with - | block
    · refine answers_released (by decide) (any_releases_concat ?_)
      simp [releases, starves, hr]
    · refine answers_success ⟨fun child hchild ↦ ?_, hw₅.unread⟩
      rcases List.mem_append.1 hchild with hchild | hchild
      · exact hw₅.sized child hchild
      · obtain rfl := List.mem_singleton.1 hchild
        exact sized_newChild pid clientAddr
  · have hforked : (answered w₂ .fork r).trace.any releases = true := by
      refine any_releases_concat ?_
      simp [releases, forksChild, hval]
    exact serveClient_answers self serverSock clientSock pipefds hforked

/-- What the master reads from the pipe is a message. -/
theorem recvState_attending (hpipe : Pipe fd stream e) {pid : Int32} {chunk : Bytes}
    (hchunk : IsMessage pid chunk) (hw : Attending fd stream (chunk ++ rest) w) :
    wp e (recvState fd) (fun ret w' ↦ ret = .success ∧ Attending fd stream rest w')
      (fun _ _ ↦ True) w := by
  obtain ⟨m, hm, rfl⟩ := hchunk
  refine wp_mono (recvState_boundary hpipe hm hw.unread hw.sized) ?_ fun _ _ _ ↦ trivial
  rintro ret w' ⟨rfl, hunread, hclients⟩
  refine ⟨rfl, ?_, hunread⟩
  rw [hclients]
  exact sized_deliverTo hw.sized hm

/-- At the start of a round, whole messages are in the pipe. -/
def AtMessage (fd : ℤ) (stream : Bytes) (w : World) : Prop :=
  ∃ chunks : List Bytes, Attending fd stream chunks.flatten w ∧
    ∀ chunk ∈ chunks, ∃ pid, IsMessage pid chunk

/-- A round in which the pipe is ready takes a message from it. -/
theorem serveReady_atMessage (serverSock : ℤ) {pipefds : ℤ × ℤ} (hpipe : Pipe pipefds.1 stream e)
    (sockReady pipeReady : Bool) {chunks : List Bytes}
    (hchunks : ∀ chunk ∈ chunks, ∃ pid, IsMessage pid chunk)
    (hready : pipeReady = true → chunks.flatten ≠ [])
    (hw : Attending pipefds.1 stream chunks.flatten w) :
    wp e (serveReady config serverSock pipefds sockReady pipeReady)
      (fun r w' ↦ r.elim (AtMessage pipefds.1 stream w') fun _ ↦ w'.trace.any releases = true)
      (fun _ _ ↦ True) w := by
  have hreceive : ∀ w₁, Attending pipefds.1 stream chunks.flatten w₁ → wp e (do
        if pipeReady then
          let ret ← recvState pipefds.1
          if ret ≠ .success then
            return some ret
        return none)
      (fun (r : Option FtpRet) w' ↦
        r.elim (AtMessage pipefds.1 stream w') fun _ ↦ w'.trace.any releases = true)
      (fun _ _ ↦ True) w₁ := by
    intro w₁ hw₁
    by_cases hpipeReady : pipeReady = true
    · rw [if_pos hpipeReady, wp_bind]
      obtain ⟨chunk, chunks, rfl⟩ : ∃ chunk chunks', chunks = chunk :: chunks' :=
        List.exists_cons_of_ne_nil (by rintro rfl; exact hready hpipeReady rfl)
      obtain ⟨⟨pid, hchunk⟩, hrest⟩ := List.forall_mem_cons.1 hchunks
      refine wp_mono (recvState_attending hpipe hchunk hw₁) ?_ fun _ _ h ↦ h
      rintro _ w₂ ⟨rfl, hw₂⟩
      exact ⟨chunks, hw₂, hrest⟩
    · rw [if_neg hpipeReady]
      exact ⟨chunks, hw₁, hchunks⟩
  rw [serveReady]
  by_cases hsock : sockReady = true
  · rw [if_pos hsock, wp_bind]
    refine wp_mono (handleClient_answers serverSock pipefds hw) (fun ret w₁ h ↦ ?_) fun _ _ h ↦ h
    by_cases hret : ret = .success
    · rw [if_neg (not_not.2 hret)]
      exact hreceive w₁ (h.attending hret)
    · rw [if_pos hret]
      exact h.released hret
  · rw [if_neg hsock]
    exact hreceive w hw

/-- **Why the master leaves its main loop**, if the pipe has what the sessions have written. -/
theorem daemonLoop_released (serverSock : ℤ) {pipefds : ℤ × ℤ} (hpipe : Pipe pipefds.1 stream e)
    (hpolls : PollsPipe pipefds.1 stream e) (hw : AtMessage pipefds.1 stream w) :
    wp e (daemonLoop config serverSock pipefds) (fun _ w' ↦ w'.trace.any releases = true)
      (fun _ _ ↦ True) w := by
  refine wp_loop (fun _ ↦ AtMessage pipefds.1 stream) (fun _ w hw ↦ ?_) (fun _ _ _ ↦ trivial) hw
  obtain ⟨chunks, hw, hchunks⟩ := hw
  rw [wp_bind]
  refine wp_mono (daemonHandleSignal_answers hw) (fun ret w₁ h ↦ ?_) fun _ _ h ↦ h
  split_ifs with hret
  · exact h.released hret
  have hw₁ := h.attending (not_not.1 hret)
  rw [wp_bind, wp_checked]
  refine wp_sys (fun r hr ↦ ?_) trivial
  have hw₂ : Attending pipefds.1 stream chunks.flatten
      (answered w₁ (.pollBoth serverSock pipefds.1) r) := hw₁.step rfl rfl rfl
  -- an interrupted `poll` begins a new round, and any other failure is a reason to stop
  rcases hval : r.val with err | - | ⟨sockReady, pipeReady⟩
  · dsimp only
    rw [wp_bind, wp_errnoIs]
    split_ifs with herr
    · exact ⟨chunks, ⟨hw₂.sized, hw₂.unread⟩, hchunks⟩
    · have hne : err ≠ .eintr := by
        rintro rfl
        exact herr (decide_eq_true rfl)
      refine any_releases_concat ?_
      simp [releases, pollFails, hval, hne]
  · exact ⟨chunks, hw₂, hchunks⟩
  · dsimp only
    rw [wp_bind]
    -- `poll` says so only of a pipe with something in it, so a whole message is there to be read
    have hready : pipeReady = true → chunks.flatten ≠ [] := by
      rintro rfl
      rw [← hw₁.unread]
      exact hpolls w₁.trace serverSock r hr sockReady hval
    refine wp_mono (serveReady_atMessage serverSock hpipe sockReady pipeReady hchunks hready hw₂) ?_
      fun _ _ h ↦ h
    rintro (_ | ret) w₃ h
    · exact h
    · exact h

end

/-! ### Serving -/

/-- A signal that waits was there at first, or came with a call. -/
theorem mem_unheeded {sigs₀ : List Signal} {trace : List (Item kernel)} {sig : Signal}
    (h : sig ∈ unheeded sigs₀ trace) : sig ∈ sigs₀ ∨ ∃ x ∈ trace, sig ∈ signalsOf x := by
  induction trace using List.reverseRecOn with
  | nil => exact .inl h
  | append_singleton trace x ih =>
    have hunheeded : unheeded sigs₀ (trace ++ [x]) = heard (unheeded sigs₀ trace) x := by
      rw [unheeded, List.foldl_append]
      rfl
    rw [hunheeded] at h
    have hstep : sig ∈ unheeded sigs₀ trace ∨ sig ∈ signalsOf x := by
      rcases x with ⟨c, r⟩ | n
      · cases c with
        | waitpid => exact .inl h
        | _ => exact List.mem_append.1 h
      · cases n with
        | handled => cases h
        | _ => exact .inl h
    rcases hstep with hold | hnew
    · rcases ih hold with hfirst | ⟨y, hy, hsig⟩
      · exact .inl hfirst
      · exact .inr ⟨y, List.mem_append_left _ hy, hsig⟩
    · exact .inr ⟨x, by simp, hnew⟩

/-- Nothing that may end the main loop has happened. -/
theorem releases_eq_false {config : FtpConfig} {trace before post : List (Item kernel)}
    {x : Item kernel} (htrace : trace = before ++ x :: post)
    (hcalm : trace.any troubles = false) (hmaster : served trace = false)
    (hdirected : AtEach (Directed config 0) trace) (hunharmed : AtEach Unharmed trace) :
    releases x = false := by
  have hmem : x ∈ trace := by simp [htrace]
  have hcalm' : ∀ y ∈ trace, troubles y = false := by simpa using hcalm
  have hx := hcalm' x hmem
  simp only [troubles, Bool.or_eq_false_iff] at hx
  obtain ⟨⟨hpoll, hstarved⟩, -⟩ := hx
  have hfork : forksChild x = false := by
    simp only [served, List.any_eq_false] at hmaster
    simpa using hmaster x hmem
  have hsafe := hunharmed before x post htrace
  have haccept : acceptFails x = false := by
    rcases x with ⟨c, r⟩ | n
    · exact hsafe
    · cases n <;> rfl
  have hhandled : handlesOtherwise x = false := by
    rcases x with ⟨c, r⟩ | n
    · rfl
    cases n with
    | handled ret =>
      have hret := ((hdirected before _ post htrace).handles ret rfl).2
      have hflag : flagOf 0 before = (unheeded [] before).foldl signalHandler 0 :=
        flagOf_eq [] before
      rw [hflag] at hret
      -- only a `SIGPIPE` can be left, and then the `SIGCHLD` clears it
      have hleft : ¬flagLeft ((unheeded [] before).foldl signalHandler 0) ≠ 0 := by
        rw [flagLeft_ne_zero]
        rintro ⟨hchld, hne⟩
        obtain ⟨sig, hsig⟩ := List.exists_mem_of_ne_nil _ hne
        obtain hstart | ⟨y, hy, hdelivered⟩ := mem_unheeded hsig
        · cases hstart
        have hy' := hcalm' y (by simp [htrace, hy])
        simp only [troubles, Bool.or_eq_false_iff, List.any_eq_false] at hy'
        have hmild : ¬sig.terminates = true := hy'.2 sig hdelivered
        cases sig with
        | sigpipe => exact hchld (hsafe hsig)
        | sigchld => exact hchld hsig
        | _ => exact hmild rfl
      rw [if_neg hleft] at hret
      simp [handlesOtherwise, hret]
    | _ => rfl
  simp [releases, hpoll, haccept, hstarved, hhandled, hfork]

/-- **When the master keeps serving**, in a run that is stopped at any call, whatever its clients
and its children do: if no `accept` fails, and `daemon_handle_signal` finds no `SIGPIPE` without a
`SIGCHLD` beside it. -/
theorem daemonLoop_serves {ι : Type} [DecidableEq ι] (clients : ι → Client)
    (log : List (ι × Bytes))
    (hlog : ∀ i, (log.filter fun x ↦ x.1 = i).map Prod.snd = (clients i).written)
    (config : FtpConfig) (serverSock : ℤ) (pipefds : ℤ × ℤ) (e : Env)
    (hpipe : Pipe pipefds.1 (log.map Prod.snd).flatten e)
    (hpolls : PollsPipe pipefds.1 (log.map Prod.snd).flatten e)
    (s : Process) (hclients : s.clients = []) (hflag : s.signalFlag = 0)
    {run : Outcome FtpRet × World}
    (hrun : daemonLoop config serverSock pipefds e (World.start s) = run)
    (hlawful : AtEach (Lawful 0) run.2.trace) (hcalm : run.2.trace.any troubles = false)
    (hmaster : served run.2.trace = false) (hunharmed : AtEach Unharmed run.2.trace) :
    run.1 = .halt .blocked := by
  have hdirected : AtEach (Directed config 0) run.2.trace := by
    rw [← hflag]
    exact hrun ▸ daemonLoop_directed hclients
  -- every reason to stop is a trouble, or something that no client does
  have hnone : run.2.trace.any releases = false := by
    rw [List.any_eq_false]
    intro x hx
    obtain ⟨before, post, htrace⟩ := List.append_of_mem hx
    simp [releases_eq_false htrace hcalm hmaster hdirected hunharmed]
  have hstarved : starved run.2.trace = false := by
    simp only [List.any_eq_false, troubles, Bool.or_eq_true] at hcalm
    simp only [starved, List.any_eq_false]
    exact fun x hx h ↦ hcalm x hx (.inl (.inr h))
  have hsafe := (daemonLoop_listsChildren hclients (by rw [hflag]; rfl) hrun (hflag ▸ hlawful)
    hstarved hmaster).1
  -- at the start the whole stream is to be read, and all of it is messages
  have hmessage : AtMessage pipefds.1 (log.map Prod.snd).flatten (World.start s) := by
    refine ⟨log.map Prod.snd, ⟨by simp [hclients], ?_⟩, fun chunk hchunk ↦ ?_⟩
    · rw [unread]
      rfl
    · obtain ⟨⟨i, chunk⟩, hx, rfl⟩ := List.mem_map.1 hchunk
      refine ⟨_, (clients i).isMessage_written chunk ?_⟩
      rw [← hlog i]
      exact List.mem_map.2 ⟨(i, chunk), List.mem_filter.2 ⟨hx, by simp⟩, rfl⟩
  have hleft : wp e (daemonLoop config serverSock pipefds) _ _ (World.start s) :=
    daemonLoop_released serverSock hpipe hpolls hmessage
  simp only [wp, hrun] at hleft
  obtain ⟨ret | k, w⟩ := run
  · exact absurd (hnone.symm.trans hleft) (by decide)
  · cases k with
    | blocked => rfl
    | fault => exact absurd rfl hsafe

/-- The environment of a master in which this is written to the pipe. A client connects until a
session is forked; when all messages are read, this happens, until a child is waited for. -/
def pipedMaster (stream : Bytes) (async : List Async)
    (script : List Call → (c : Call) → Option (Answer c)) : Env where
  answer trace c :=
    match c with
    | .read fd count =>
      ⟨[], .ok ⟨(unread fd stream trace).take count, length_take_unread fd stream trace count⟩⟩
    | .pollBoth _ fd =>
      ⟨if .fork ∈ callsOf trace ∧ .waitpid ∉ callsOf trace ∧ unread fd stream trace = [] then async
        else [],
        .ok (some (decide (.fork ∉ callsOf trace), decide (unread fd stream trace ≠ [])))⟩
    | c => (script (callsOf trace) c).getD ⟨[], Val.default c⟩
  limit := 60

section

variable {stream : Bytes} {async : List Async}
  {script : List Call → (c : Call) → Option (Answer c)}

/-- The pipe of this environment holds the stream. -/
theorem pipe_pipedMaster (fd : ℤ) : Pipe fd stream (pipedMaster stream async script) := by
  rintro trace count - r rfl
  exact ⟨_, rfl, rfl⟩

/-- And is polled as one. -/
theorem pollsPipe_pipedMaster (fd : ℤ) : PollsPipe fd stream (pipedMaster stream async script) := by
  rintro trace sock r rfl sockReady hready
  simp only [pipedMaster, Except.ok.injEq, Option.some.injEq, Prod.mk.injEq] at hready
  exact of_decide_eq_true hready.2

end

/-- The session that was forked sends its messages and exits. -/
def servingMaster : Env :=
  pipedMaster (mixedLog.map Prod.snd).flatten [.exit 10, .deliver .sigchld] fun _ c ↦
    match c with
    | .fork => some ⟨[], .ok (.parent 10)⟩
    | .waitpid => some ⟨[], (10 : Int32)⟩
    | _ => none

/-- A master with a client, a child that exits and the messages of two sessions goes on. -/
theorem daemonLoop_serves_mixed :
    (daemonLoop loadDefaults 3 (4, 5) servingMaster (World.start (Process.initial 1))).1 =
      .halt .blocked :=
  daemonLoop_serves twoClients mixedLog (by decide +kernel) loadDefaults 3 (4, 5) servingMaster
    (pipe_pipedMaster 4) (pollsPipe_pipedMaster 4) (Process.initial 1) rfl rfl rfl
    (by decide +kernel) (by decide +kernel) (by decide +kernel) (by decide +kernel)

/-- A client is gone before its connection is accepted. -/
def abortingMaster : Env :=
  pipedMaster [] [] fun _ c ↦
    match c with
    | .accept _ => some ⟨[], .error .econnaborted⟩
    | _ => none

/-- A client is gone before it is told that there are too many of them. -/
def refusingMaster : Env :=
  pipedMaster [] [] fun _ c ↦
    match c with
    | .send _ _ => some ⟨[.deliver .sigpipe], .error .epipe⟩
    | _ => none

/-- Both make the master leave. -/
theorem daemonLoop_leaves :
    let aborted := daemonLoop loadDefaults 3 (4, 5) abortingMaster (World.start (Process.initial 1))
    let refused := daemonLoop { loadDefaults with maxClients := 0 } 3 (4, 5) refusingMaster
      (World.start (Process.initial 1))
    (aborted.1 = .ret .error ∧ AtEach (Lawful 0) aborted.2.trace ∧
        aborted.2.trace.any troubles = false ∧ served aborted.2.trace = false) ∧
      refused.1 = .ret .success ∧ AtEach (Lawful 0) refused.2.trace ∧
        refused.2.trace.any troubles = false ∧ served refused.2.trace = false := by
  decide +kernel

end FtpServer
