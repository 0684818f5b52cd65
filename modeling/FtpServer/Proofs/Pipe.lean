import FtpServer.Proofs.Master
import FtpServer.Proofs.StatePipe

/-!
# What the master reads from the pipe

The messages of all sessions come through one pipe, and nothing but their own sizes separates them.
Every message is read or skipped whole, so that the next one begins where the master reads on
(`recvState_boundary`), however the messages of the sessions are interleaved
(`receiveEach_delivers`).

* `Pipe` ties the results of the reads to what the sessions have written, and `unread` is what is
  left at a point of the run.
* `recvFun_wp` says that a receive function reads the body of its message, and no more.
* `sendStates` is a session as far as the pipe is concerned. Its messages are whole whatever its
  calls return (`WritesMessages`), and all that the pipe does is to put them in some order.
* Between two calls of `recv_state` the master may do anything that leaves the pipe alone
  (`LeavesPipe`).
-/

namespace FtpServer

open CString Effect Effect.Proc

/-! ### The pipe -/

/-- How many bytes a call read from the pipe. -/
def readLength (fd : ℤ) : Item kernel → ℕ
  | .call (.read fd' _) r =>
    match r.val with
    | .ok bs => if fd' = fd then bs.1.length else 0
    | .error _ => 0
  | _ => 0

def consumed (fd : ℤ) (trace : List (Item kernel)) : ℕ := (trace.map (readLength fd)).sum

/-- What was written to the pipe and not read. -/
def unread (fd : ℤ) (stream : Bytes) (trace : List (Item kernel)) : Bytes :=
  stream.drop (consumed fd trace)

/-- What is written to the pipe in a run is `stream`, and a read of what is there returns it. -/
def Pipe (fd : ℤ) (stream : Bytes) (e : Env) : Prop :=
  ∀ trace count, count ≤ (unread fd stream trace).length →
    ∀ r : Answer (.read fd count), e.answer trace (.read fd count) = r →
      ∃ bs, r.val = .ok bs ∧ bs.1 = (unread fd stream trace).take count

/-! ### The entries -/

/-- The arrays of an entry have their sizes. -/
structure Sized (child : FtpChild) : Prop where
  loginName : child.loginName.length = maxLoginName
  path : child.path.length = ftpMaxPath
  filename : child.filename.length = ftpMaxName

/-- A message as `send_state` sends them. -/
def Message.Sized (m : Message) : Prop := m.body.length = (opOf m.type).bufSize

/-- An entry to which a message was applied. -/
def Message.applyTo (m : Message) (child : FtpChild) : FtpChild :=
  match m.type with
  | .login => { child with loginName := m.body }
  | .chdir => { child with path := m.body }
  | .xferStart =>
    { child with filename := m.body.set (ftpMaxName - 1) nul, xferInProgress := true }
  | .xfer => { child with xferInfo := .ofImage m.body }
  | .xferStop => { child with xferInfo := .ofImage m.body, xferInProgress := false }

/-- The client list to which a message was delivered. -/
def deliverTo (pid : Int32) (m : Message) (clients : List FtpChild) : List FtpChild :=
  match findClient clients pid with
  | none => clients
  | some child => updateClient clients pid (m.applyTo child)

/-- The master makes the buffers of a new client. -/
theorem sized_newChild (pid : Int32) (address : InAddr) : Sized (newChild pid address) :=
  ⟨List.length_replicate, List.length_replicate, List.length_replicate⟩

/-- A message writes inside the fields it is for. -/
theorem Sized.applyTo {m : Message} {child : FtpChild} (h : Sized child) (hm : m.Sized) :
    Sized (m.applyTo child) := by
  obtain ⟨type, body⟩ := m
  cases type with
  | login => exact ⟨hm, h.path, h.filename⟩
  | chdir => exact ⟨h.loginName, hm, h.filename⟩
  | xferStart => exact ⟨h.loginName, h.path, by rw [Message.applyTo, List.length_set]; exact hm⟩
  | xfer | xferStop => exact ⟨h.loginName, h.path, h.filename⟩

/-- A list with one entry changed has that one, and the others. -/
theorem mem_updateClient {clients : List FtpChild} {pid : Int32} {new child : FtpChild}
    (h : child ∈ updateClient clients pid new) : child = new ∨ child ∈ clients := by
  induction clients with
  | nil => cases h
  | cons first clients ih =>
    rw [updateClient] at h
    split_ifs at h
    · rcases List.mem_cons.1 h with rfl | h
      · exact .inl rfl
      · exact .inr (List.mem_cons_of_mem _ h)
    · rcases List.mem_cons.1 h with rfl | h
      · exact .inr List.mem_cons_self
      · exact (ih h).imp_right (List.mem_cons_of_mem _)

/-- So all entries keep their size when a message is delivered. -/
theorem sized_deliverTo {pid : Int32} {m : Message} {clients : List FtpChild}
    (h : ∀ child ∈ clients, Sized child) (hm : m.Sized) :
    ∀ child ∈ deliverTo pid m clients, Sized child := by
  intro child hchild
  rw [deliverTo] at hchild
  rcases hfind : findClient clients pid with - | old
  · rw [hfind] at hchild
    exact h child hchild
  · rw [hfind] at hchild
    rcases mem_updateClient hchild with rfl | hchild
    · exact (h old (List.mem_of_find?_eq_some hfind)).applyTo hm
    · exact h child hchild

/-! ### Reading -/

section Read

variable {fd : ℤ} {stream : Bytes} {e : Env} {w w' w'' : World}

/-- `n` bytes were read from the pipe, and the list of clients is as before. -/
structure Took (fd : ℤ) (stream : Bytes) (n : ℕ) (w w' : World) : Prop where
  unread : unread fd stream w'.trace = (unread fd stream w.trace).drop n
  clients : w'.st.clients = w.st.clients

theorem Took.refl (w : World) : Took fd stream 0 w w := ⟨rfl, rfl⟩

/-- What is read first is taken off the front. -/
theorem Took.trans {n n' : ℕ} (h : Took fd stream n w w') (h' : Took fd stream n' w' w'') :
    Took fd stream (n + n') w w'' where
  unread := by rw [h'.unread, h.unread, List.drop_drop]
  clients := h'.clients.trans h.clients

/-- No read gets more than there is, or than it asked for. -/
theorem length_take_unread (fd : ℤ) (stream : Bytes) (trace : List (Item kernel)) (count : ℕ) :
    ((unread fd stream trace).take count).length ≤ count :=
  List.length_take_le _ _

/-- Each entry takes what it read. -/
theorem unread_concat (trace : List (Item kernel)) (x : Item kernel) :
    unread fd stream (trace ++ [x]) = (unread fd stream trace).drop (readLength fd x) := by
  rw [unread, unread, List.drop_drop, consumed, List.map_append, List.sum_append]
  simp [consumed]

/-- A call that does not read from the pipe. -/
theorem took_answered {c : Call} {r : Answer c} (h : readLength fd (.call c r) = 0) :
    Took fd stream 0 w (answered w c r) where
  unread := by rw [answered_trace, unread_concat, h]
  clients := rfl

/-- A pipe that holds enough gives what is asked for. -/
theorem read_wp (hpipe : Pipe fd stream e) {count : ℕ}
    (hcount : count ≤ (unread fd stream w.trace).length) :
    wp e (checked (sys (.read fd count)))
      (fun r w' ↦ (∃ bs, r = some bs ∧ bs.1 = (unread fd stream w.trace).take count) ∧
        Took fd stream count w w') (fun k _ ↦ k = .blocked) w := by
  refine wp_checked.2 (wp_sys (fun r hr ↦ ?_) rfl)
  obtain ⟨bs, hval, hbs⟩ := hpipe w.trace count hcount r hr
  have hlength : readLength fd (.call (.read fd count) r) = count := by
    simp [readLength, hval, hbs, hcount]
  rw [hval]
  refine ⟨⟨bs, rfl, hbs⟩, ?_, rfl⟩
  rw [answered_trace, unread_concat, hlength]

/-- `recv_*` reads as many bytes as the field has. -/
theorem readInto_wp (hpipe : Pipe fd stream e) {old : Bytes}
    (hold : old.length ≤ (unread fd stream w.trace).length) :
    wp e (readInto fd old)
      (fun r w' ↦ r = some ((unread fd stream w.trace).take old.length) ∧
        Took fd stream old.length w w') (fun k _ ↦ k = .blocked) w := by
  rw [readInto, wp_bind]
  refine wp_mono (read_wp hpipe hold) ?_ fun _ _ h ↦ h
  rintro _ w' ⟨⟨bs, rfl, hbs⟩, htook⟩
  refine ⟨?_, htook⟩
  have hlength : bs.1.length = old.length := by rw [hbs, List.length_take, min_eq_left hold]
  rw [hlength, List.drop_length, List.append_nil, hbs]

/-- Whole blocks, and what is left: all of it is skipped. -/
theorem seekPipe_wp (hpipe : Pipe fd stream e) {offset : ℕ}
    (hoffset : offset ≤ (unread fd stream w.trace).length) :
    wp e (seekPipe fd offset) (fun ret w' ↦ ret = .success ∧ Took fd stream offset w w')
      (fun k _ ↦ k = .blocked) w := by
  -- the blocks are skipped one by one, and the rest after them
  have hblocks : ∀ n w, n * seekBufferSize ≤ (unread fd stream w.trace).length →
      wp e (seekBlocks fd n)
        (fun ret w' ↦ ret = .success ∧ Took fd stream (n * seekBufferSize) w w')
        (fun k _ ↦ k = .blocked) w := by
    intro n
    induction n with
    | zero => exact fun w _ ↦ ⟨rfl, by simpa using Took.refl w⟩
    | succ n ih =>
      intro w hn
      rw [Nat.succ_mul] at hn
      rw [seekBlocks, wp_bind]
      refine wp_mono (read_wp hpipe (by omega)) ?_ fun _ _ h ↦ h
      rintro _ w₁ ⟨⟨bs, rfl, -⟩, h₁⟩
      refine wp_mono (ih w₁ ?_) ?_ fun _ _ h ↦ h
      · rw [h₁.unread, List.length_drop]
        omega
      · rintro ret w₂ ⟨rfl, h₂⟩
        refine ⟨rfl, ?_⟩
        rw [Nat.succ_mul, Nat.add_comm]
        exact h₁.trans h₂
  rw [seekPipe]
  split_ifs with hzero
  · rw [hzero]
    exact ⟨rfl, .refl w⟩
  · have hsplit : offset / seekBufferSize * seekBufferSize + offset % seekBufferSize = offset :=
      Nat.div_add_mod' offset seekBufferSize
    rw [wp_bind]
    refine wp_mono (hblocks _ w (by omega)) ?_ fun _ _ h ↦ h
    rintro _ w₁ ⟨rfl, h₁⟩
    rw [if_neg (by decide), wp_bind]
    refine wp_mono (read_wp hpipe ?_) ?_ fun _ _ h ↦ h
    · rw [h₁.unread, List.length_drop]
      omega
    · rintro _ w₂ ⟨⟨bs, rfl, -⟩, h₂⟩
      have htook := h₁.trans h₂
      rw [hsplit] at htook
      exact ⟨rfl, htook⟩

/-! ### Receiving -/

/-- The body of a message that was written as a whole is there as a whole. -/
theorem length_body_le {m : Message} {rest : Bytes}
    (h : unread fd stream w.trace = m.body ++ rest) :
    m.body.length ≤ (unread fd stream w.trace).length := by
  rw [h, List.length_append]
  omega

/-- A receive function reads the body of its message, and applies it. -/
theorem recvFun_wp (hpipe : Pipe fd stream e) {m : Message} (hm : m.Sized) {child : FtpChild}
    (hchild : Sized child) {rest : Bytes} (hunread : unread fd stream w.trace = m.body ++ rest) :
    wp e ((opOf m.type).recvFun fd child)
      (fun r w' ↦ r = (.success, m.applyTo child) ∧ Took fd stream m.body.length w w')
      (fun k _ ↦ k = .blocked) w := by
  have hread : ∀ {old : Bytes}, old.length = m.body.length →
      wp e (readInto fd old) (fun r w' ↦ r = some m.body ∧ Took fd stream m.body.length w w')
        (fun k _ ↦ k = .blocked) w := by
    intro old hold
    refine wp_mono (readInto_wp hpipe (hold ▸ length_body_le hunread)) ?_ fun _ _ h ↦ h
    rintro r w' ⟨rfl, htook⟩
    refine ⟨?_, hold ▸ htook⟩
    rw [hunread, hold, List.take_left]
  obtain ⟨type, body⟩ := m
  cases type with
  | login =>
    refine (wp_bind _ _).2 (wp_mono (hread (hchild.loginName.trans hm.symm)) ?_ fun _ _ h ↦ h)
    rintro _ w' ⟨rfl, htook⟩
    exact ⟨rfl, htook⟩
  | chdir =>
    refine (wp_bind _ _).2 (wp_mono (hread (hchild.path.trans hm.symm)) ?_ fun _ _ h ↦ h)
    rintro _ w' ⟨rfl, htook⟩
    exact ⟨rfl, htook⟩
  | xferStart =>
    refine (wp_bind _ _).2 (wp_mono (hread (hchild.filename.trans hm.symm)) ?_ fun _ _ h ↦ h)
    rintro _ w' ⟨rfl, htook⟩
    exact ⟨rfl, htook⟩
  | xfer =>
    refine (wp_bind _ _).2
      (wp_mono (hread (child.xferInfo.length_image.trans hm.symm)) ?_ fun _ _ h ↦ h)
    rintro _ w' ⟨rfl, htook⟩
    exact ⟨rfl, htook⟩
  | xferStop =>
    refine (wp_bind _ _).2
      (wp_mono (hread (child.xferInfo.length_image.trans hm.symm)) ?_ fun _ _ h ↦ h)
    rintro _ w' ⟨rfl, htook⟩
    refine (wp_bind _ _).2 (wp_sys (fun r _ ↦ ⟨rfl, ?_⟩) rfl)
    exact htook.trans (took_answered rfl)

/-- **One message is received whole**: where a message begins, `recv_state` reads it to its end and
delivers it. -/
theorem recvState_boundary (hpipe : Pipe fd stream e) {m : Message} (hm : m.Sized) {pid : Int32}
    {rest : Bytes} (hunread : unread fd stream w.trace = m.bytes pid ++ rest)
    (hsized : ∀ child ∈ w.st.clients, Sized child) :
    wp e (recvState fd)
      (fun ret w' ↦ ret = .success ∧ unread fd stream w'.trace = rest ∧
        w'.st.clients = deliverTo pid m w.st.clients)
      (fun k _ ↦ k = .blocked) w := by
  rw [recvState, wp_bind]
  refine wp_sys (fun garbage _ ↦ ?_) rfl
  have h₁ : Took fd stream 0 w (answered w .indeterminate garbage) := took_answered rfl
  generalize answered w .indeterminate garbage = w₁ at h₁
  -- first the header, by which the body behind it has its length
  have hunread₁ : unread fd stream w₁.trace =
      (FtpState.mk pid stateMagic m.type.code).image ++ (m.body ++ rest) := by
    rw [h₁.unread, List.drop_zero, hunread, Message.bytes, List.append_assoc]
  have hheader : ((List.range ftpStateSize).map garbage.val).length =
      (FtpState.mk pid stateMagic m.type.code).image.length := by
    rw [List.length_map, List.length_range, length_image]
  rw [wp_bind]
  refine wp_mono (readInto_wp hpipe (by rw [hunread₁, hheader, List.length_append]; omega)) ?_
    fun _ _ h ↦ h
  rintro _ w₂ ⟨rfl, h₂⟩
  have hunread₂ : unread fd stream w₂.trace = m.body ++ rest := by
    rw [h₂.unread, hunread₁, hheader, List.drop_left]
  have hclients₂ : w₂.st.clients = w.st.clients := (h₁.trans h₂).clients
  dsimp only
  rw [hunread₁, hheader, List.take_left, FtpState.ofImage_image_self, if_neg (by simp),
    find?_code]
  dsimp only
  rw [wp_bind, wp_get, hclients₂]
  -- for a client that is not in the list, the body is skipped; otherwise it is read
  rcases hfind : findClient w.st.clients pid with - | child
  · refine wp_mono (seekPipe_wp hpipe (hm ▸ length_body_le hunread₂)) ?_ fun _ _ h ↦ h
    rintro _ w₃ ⟨rfl, h₃⟩
    refine ⟨rfl, ?_, ?_⟩
    · rw [h₃.unread, hunread₂, ← hm, List.drop_left]
    · rw [h₃.clients, hclients₂, deliverTo, hfind]
  · rw [wp_bind]
    refine wp_mono (recvFun_wp hpipe hm (hsized child (List.mem_of_find?_eq_some hfind)) hunread₂)
      ?_ fun _ _ h ↦ h
    rintro _ w₃ ⟨rfl, h₃⟩
    refine ⟨rfl, ?_, ?_⟩
    · exact (h₃.unread.trans (by rw [hunread₂, List.drop_left]))
    · show updateClient w₃.st.clients pid (m.applyTo child) = deliverTo pid m w.st.clients
      rw [h₃.clients, hclients₂, deliverTo, hfind]

end Read

/-! ### The sessions -/

/-- A session's process as far as the pipe is concerned: it sends messages about whatever has become
of the session, in an environment of its own. -/
structure Client where
  env : Env
  start : Process
  sends : List (FtpSession × StateChange)
  whole : PoolWhole start

/-- What such a process does. -/
def sendStates : List (FtpSession × StateChange) → Program Unit
  | [] => return
  | (session, type) :: sends => do
    modifySession fun _ ↦ session
    let _ ← sendState type
    sendStates sends

/-- What it writes to the pipe, one message with each write. -/
def Client.written (client : Client) : List Bytes :=
  pipedOf (sendStates client.sends client.env (World.start client.start)).2.trace

/-- The chunk is a message of the process. -/
def IsMessage (pid : Int32) (chunk : Bytes) : Prop := ∃ m : Message, m.Sized ∧ chunk = m.bytes pid

/-- Only whole messages are written. -/
structure WritesMessages (w w' : World) : Prop where
  pid : w'.st.pid = w.st.pid
  whole : PoolWhole w'.st
  written : ∃ chunks, pipedOf w'.trace = pipedOf w.trace ++ chunks ∧
    ∀ chunk ∈ chunks, IsMessage w.st.pid chunk

theorem writesMessages_guard : Guard (fun w ↦ PoolWhole w.st) WritesMessages where
  refl _ hw := ⟨rfl, hw, [], by simp, by simp⟩
  trans _ h₁ h₂ := by
    obtain ⟨chunks₁, heq₁, hchunks₁⟩ := h₁.written
    obtain ⟨chunks₂, heq₂, hchunks₂⟩ := h₂.written
    refine ⟨h₂.pid.trans h₁.pid, h₂.whole, chunks₁ ++ chunks₂, ?_, ?_⟩
    · rw [heq₂, heq₁, List.append_assoc]
    · rw [h₁.pid] at hchunks₂
      exact List.forall_mem_append.2 ⟨hchunks₁, hchunks₂⟩
  keep _ h := h.whole

/-- What a send function composes has the size of its type. -/
theorem sized_of_mem_outgoing {type : StateChange} {session : FtpSession} {pool : Bytes}
    (hpool : pool.length = statePoolSize) {m : Message} (hm : m ∈ outgoing type session pool) :
    m.Sized := by
  rw [outgoing] at hm
  split at hm
  · next pool' hsend =>
    obtain rfl := List.mem_singleton.1 hm
    have hbuf : (opOf type).bufSize ≤ statePoolSize := by cases type <;> decide
    rw [Message.Sized, List.length_take, sendFun_length hpool hsend, min_eq_left hbuf]
  · cases hm

/-- `send_state` writes whole messages of the session's pid. -/
theorem sendState_writes (type : StateChange) :
    Within (fun w ↦ PoolWhole w.st) WritesMessages (sendState type) := by
  have hposts : ∀ {w w' : World} {ms : List Message}, PoolWhole w.st → Posts ms w w' →
      (∀ m ∈ ms, m.Sized) → WritesMessages w w' := fun hw h hms ↦
    ⟨h.pid, h.whole hw, _, h.written, fun chunk hchunk ↦ by
      obtain ⟨m, hm, rfl⟩ := List.mem_map.1 hchunk
      exact ⟨m, hms m hm, rfl⟩⟩
  refine within_iff_wp.2 fun e w hw ↦ wp_mono (sendState_wp type) ?_ fun _ _ h ↦ hposts hw h nofun
  rintro ret w' ⟨pool, ms, hpool, -, h, -, rfl | rfl⟩
  · exact hposts hw h nofun
  · exact hposts hw h fun m hm ↦ sized_of_mem_outgoing (hw pool hpool) hm

/-- And so do several calls of it. -/
theorem sendStates_writes (sends : List (FtpSession × StateChange)) :
    Within (fun w ↦ PoolWhole w.st) WritesMessages (sendStates sends) := by
  induction sends with
  | nil => exact within_pure writesMessages_guard _
  | cons send sends ih =>
    exact within_bind writesMessages_guard (within_modify fun w hw ↦
      ⟨rfl, hw, [], by simp, by simp⟩)
      fun _ ↦ within_bind writesMessages_guard (sendState_writes send.2) fun _ ↦ ih

/-- All a client writes are messages. -/
theorem Client.isMessage_written (client : Client) :
    ∀ chunk ∈ client.written, IsMessage client.start.pid chunk := by
  obtain ⟨-, -, chunks, hwritten, hchunks⟩ :=
    sendStates_writes client.sends client.env (World.start client.start) client.whole
  rw [Client.written, hwritten]
  simpa [pipedOf] using hchunks

/-! ### The master -/

/-- What is seen of a call of `recv_state`: the client list before and after, and its result. -/
structure Receipt where
  before : List FtpChild
  ret : FtpRet
  after : List FtpChild

/-- The master calls `recv_state` after each of these actions. -/
def receiveEach (fd : ℤ) : List (Program Unit) → Program (List Receipt)
  | [] => return []
  | act :: acts => do
    act
    let before := (← Proc.get).clients
    let ret ← recvState fd
    let after := (← Proc.get).clients
    return ⟨before, ret, after⟩ :: (← receiveEach fd acts)

/-- The list may change meanwhile, but nothing is read from the pipe. -/
structure LeavesPipe (fd : ℤ) (w w' : World) : Prop where
  consumed : consumed fd w'.trace = consumed fd w.trace
  sized : ∀ child ∈ w'.st.clients, Sized child

/-- The chunk, which is a message of the process, was received whole. -/
structure Receives (pid : Int32) (chunk : Bytes) (receipt : Receipt) : Prop where
  success : receipt.ret = .success
  delivers : ∃ m : Message, chunk = m.bytes pid ∧ receipt.after = deliverTo pid m receipt.before

section

variable {ι : Type} {fd : ℤ} {e : Env} {w : World}

/-- As long as messages are left, `recv_state` reads one, and the actions between the calls leave
the pipe alone. -/
theorem receiveEach_wp (pidOf : ι → Int32) {stream : Bytes} (hpipe : Pipe fd stream e)
    {acts : List (Program Unit)}
    (hacts : ∀ act ∈ acts, Within (fun w ↦ ∀ child ∈ w.st.clients, Sized child) (LeavesPipe fd) act)
    {log : List (ι × Bytes)} (hlog : ∀ x ∈ log, IsMessage (pidOf x.1) x.2)
    (hlength : acts.length ≤ log.length) (hsized : ∀ child ∈ w.st.clients, Sized child)
    (hunread : unread fd stream w.trace = (log.map Prod.snd).flatten) :
    wp e (receiveEach fd acts)
      (fun receipts w' ↦ List.Forall₂ (fun x receipt ↦ Receives (pidOf x.1) x.2 receipt)
        (log.take acts.length) receipts ∧
        unread fd stream w'.trace = ((log.drop acts.length).map Prod.snd).flatten)
      (fun _ _ ↦ True) w := by
  induction acts generalizing log w with
  | nil => exact ⟨.nil, hunread⟩
  | cons act acts ih =>
    obtain ⟨⟨i, chunk⟩, log, rfl⟩ : ∃ x log', log = x :: log' :=
      List.exists_cons_of_length_pos (by simp at hlength; omega)
    obtain ⟨⟨m, hm, hchunk⟩, htail⟩ := List.forall_mem_cons.1 hlog
    obtain rfl : chunk = m.bytes (pidOf i) := hchunk
    obtain ⟨hact, hacts⟩ := List.forall_mem_cons.1 hacts
    rw [receiveEach, wp_bind]
    refine wp_mono (hact.wp hsized) (fun _ w₁ h₁ ↦ ?_) fun _ _ _ ↦ trivial
    have hunread₁ : unread fd stream w₁.trace = m.bytes (pidOf i) ++
        (log.map Prod.snd).flatten := by
      rw [unread, h₁.consumed, ← unread, hunread]
      rfl
    simp only [wp_bind, wp_get]
    refine wp_mono (recvState_boundary hpipe hm hunread₁ h₁.sized) ?_ fun _ _ _ ↦ trivial
    rintro _ w₂ ⟨rfl, hunread₂, hclients₂⟩
    refine wp_mono (ih hacts htail (by simpa using hlength) ?_ hunread₂) ?_ fun _ _ h ↦ h
    · rw [hclients₂]
      exact sized_deliverTo h₁.sized hm
    · rintro receipts w₃ ⟨hreceipts, hunread₃⟩
      exact ⟨.cons ⟨rfl, m, rfl, hclients₂⟩ hreceipts, hunread₃⟩

end

/-- **Messages arrive whole and in order.** Any processes write their messages to the pipe, in any
order (`log`), and the master calls `recv_state` any number of times, whatever it does meanwhile
with its list: each call receives the next message, for its own entry if there is one, and the bytes
that are left are those of the messages that are left; and it does nothing undefined. -/
theorem receiveEach_delivers {ι : Type} [DecidableEq ι] (clients : ι → Client)
    (log : List (ι × Bytes))
    (hlog : ∀ i, (log.filter fun x ↦ x.1 = i).map Prod.snd = (clients i).written)
    (fd : ℤ) (e : Env) (hpipe : Pipe fd (log.map Prod.snd).flatten e)
    (w : World) (hstart : consumed fd w.trace = 0) (hsized : ∀ child ∈ w.st.clients, Sized child)
    (acts : List (Program Unit))
    (hacts : ∀ act ∈ acts, Within (fun w ↦ ∀ child ∈ w.st.clients, Sized child) (LeavesPipe fd) act)
    (hlength : acts.length ≤ log.length) {receipts : List Receipt} {w' : World}
    (hrun : receiveEach fd acts e w = (.ret receipts, w')) :
    List.Forall₂ (fun x receipt ↦ Receives (clients x.1).start.pid x.2 receipt)
        (log.take acts.length) receipts ∧
      unread fd (log.map Prod.snd).flatten w'.trace =
        ((log.drop acts.length).map Prod.snd).flatten ∧
      Faultless (recvState fd) := by
  have hmessages : ∀ x ∈ log, IsMessage (clients x.1).start.pid x.2 := by
    intro x hx
    refine (clients x.1).isMessage_written x.2 ?_
    rw [← hlog x.1]
    exact List.mem_map.2 ⟨x, List.mem_filter.2 ⟨hx, by simp⟩, rfl⟩
  obtain ⟨hreceipts, hunread⟩ := wp_ret (receiveEach_wp (fun i ↦ (clients i).start.pid) hpipe hacts
    hmessages hlength hsized (by rw [unread, hstart, List.drop_zero])) hrun
  exact ⟨hreceipts, hunread, faultless_recvState fd⟩

/-- An environment in which this is written to every pipe. -/
def pipeEnv (stream : Bytes) : Env where
  answer trace c :=
    match c with
    | .read fd count =>
      ⟨[], .ok ⟨(unread fd stream trace).take count, length_take_unread fd stream trace count⟩⟩
    | c => ⟨[], Val.default c⟩
  limit := 100

/-- This environment is a pipe. -/
theorem pipe_pipeEnv (fd : ℤ) (stream : Bytes) : Pipe fd stream (pipeEnv stream) := by
  rintro trace count - r rfl
  exact ⟨_, rfl, rfl⟩

/-- A session that sends these messages, with an anonymous login in the directory `/a`. -/
def sendingClient (pid : Int32) (types : List StateChange) : Client where
  env := clientEnv []
  start := { Process.initial pid with statePool := some (List.replicate statePoolSize nul) }
  sends := types.map fun type ↦ ({ noSession with
    login := { noSession.login with anonymous := true }, virtPath := ofString "/a" }, type)
  whole := by
    rintro pool ⟨⟩
    exact List.length_replicate

/-- Two sessions: the first one is in the list and the second one is not. -/
def twoClients (first : Bool) : Client :=
  if first then sendingClient 10 [.login, .xfer] else sendingClient 11 [.chdir]

/-- The message of the second one arrives between those of the first. -/
def mixedLog : List (Bool × Bytes) :=
  [(true, (twoClients true).written.getD 0 []), (false, (twoClients false).written.getD 0 []),
    (true, (twoClients true).written.getD 1 [])]

def mixedRun : Outcome (List Receipt) × World :=
  receiveEach 4 [return (), return (), return ()] (pipeEnv (mixedLog.map Prod.snd).flatten)
    (World.start { Process.initial 1 with clients := [newChild 10 ⟨127, 0, 0, 1⟩] })

/-- Two sessions take turns, and each is recorded under its own pid. -/
theorem receiveEach_delivers_mixed :
    ∃ receipts, mixedRun.1 = .ret receipts ∧
      List.Forall₂ (fun x receipt ↦ Receives (twoClients x.1).start.pid x.2 receipt)
        mixedLog receipts := by
  have hreturns : (match mixedRun.1 with | .ret _ => true | .halt _ => false) = true := by
    decide +kernel
  rcases hrun : mixedRun with ⟨receipts | k, w'⟩
  · refine ⟨receipts, rfl, ?_⟩
    have hsized : ∀ child ∈ [newChild 10 ⟨127, 0, 0, 1⟩], Sized child := by
      simpa using sized_newChild 10 ⟨127, 0, 0, 1⟩
    have hskip : Within (fun w ↦ ∀ child ∈ w.st.clients, Sized child) (LeavesPipe 4)
        (pure () : Program Unit) := fun _ _ hw ↦ ⟨rfl, hw⟩
    have hacts : ∀ act ∈ ([return (), return (), return ()] : List (Program Unit)),
        Within (fun w ↦ ∀ child ∈ w.st.clients, Sized child) (LeavesPipe 4) act := by
      simpa using hskip
    exact (receiveEach_delivers twoClients mixedLog (by decide +kernel) 4
      (pipeEnv (mixedLog.map Prod.snd).flatten) (pipe_pipeEnv 4 _) _ rfl hsized
      [return (), return (), return ()] hacts le_rfl hrun).1
  · rw [hrun] at hreturns
    cases hreturns

end FtpServer
