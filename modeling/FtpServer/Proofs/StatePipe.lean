import FtpServer.Proofs.Actions

/-!
# What `send_state` puts on the pipe

A message is read off the bytes that a `writev` wrote: the header says its type. `sendState_wp` is
all that the results about messages need to know of `send_state`: it writes the one message that its
table entry composes (`outgoing`), or it was refused one, or the pipe failed.

* `Message` and `Message.ofBytes` are the two sides of a message: what a session sends, and what is
  read off the bytes.
* `PipeWorks` is what is asked of the pipe, and `PoolWhole` of the pool.
* `Posts ms` is what `send_state` does to a world: it adds a write for each message of `ms`, and
  entries that no other session sees.
-/

namespace FtpServer

open CString Effect Effect.Proc LittleEndian

/-! ### The layout -/

/-- A number is read back from its bytes, whatever is behind them. -/
theorem decode_take {w n : ℕ} (h : n < 256 ^ w) (rest : Bytes) :
    decode ((encode w n ++ rest).take w) = n := by
  rw [List.take_left' (length_encode w n), decode_encode_of_lt h]

/-- The header can be read back from memory. -/
theorem FtpState.ofImage_image (s : FtpState) (rest : Bytes) : .ofImage (s.image ++ rest) = s := by
  have hpid : s.pid.toUInt32.toNat < 256 ^ 4 := by simpa using s.pid.toUInt32.toNat_lt
  have hmagic : s.magic.toNat < 256 ^ 4 := by simpa using s.magic.toNat_lt
  have htype : s.type.toUInt32.toNat < 256 ^ 4 := by simpa using s.type.toUInt32.toNat_lt
  have hlen : ∀ n, (encode 4 n).length = 4 := length_encode 4
  have hdrop : ∀ bs : Bytes, bs.drop 8 = (bs.drop 4).drop 4 := fun bs ↦
    (List.drop_drop (i := 4) (j := 4) (l := bs)).symm
  simp only [FtpState.ofImage, FtpState.image, List.append_assoc, hdrop, decode_take hpid,
    List.drop_left' (hlen _), decode_take hmagic, decode_take htype, UInt32.ofNat_toNat,
    Int32.toInt32_toUInt32]

/-- The same without anything behind. -/
theorem FtpState.ofImage_image_self (s : FtpState) : .ofImage s.image = s := by
  simpa using s.ofImage_image []

/-! ### The table -/

/-- The entry of `state_ops` for a type. -/
def opOf : StateChange → StateOp
  | .login => ⟨.login, recvLogin, sendLogin, 64⟩
  | .chdir => ⟨.chdir, recvChdir, sendChdir, ftpMaxPath⟩
  | .xferStart => ⟨.xferStart, recvXferStart, sendXferStart, ftpMaxName⟩
  | .xfer => ⟨.xfer, recvXfer, sendXfer, ftpXferInfoSize⟩
  | .xferStop => ⟨.xferStop, recvXferStop, sendXferStop, ftpXferInfoSize⟩

/-- Each change has its row in the table. -/
theorem find?_type (type : StateChange) : stateOps.find? (·.type = type) = some (opOf type) := by
  cases type <;> rfl

/-- And is found by its code. -/
theorem find?_code (type : StateChange) :
    stateOps.find? (·.type.code = type.code) = some (opOf type) := by
  cases type <;> rfl

/-- The row is that of the change. -/
@[simp] theorem opOf_type (type : StateChange) : (opOf type).type = type := by cases type <;> rfl

/-! ### Messages -/

/-- A message to the master, less its header. -/
structure Message where
  type : StateChange
  body : Bytes
  deriving DecidableEq, Repr

/-- The message as it goes over the pipe. -/
def Message.bytes (pid : Int32) (m : Message) : Bytes :=
  (FtpState.mk pid stateMagic m.type.code).image ++ m.body

/-- The type that a header says. -/
def typeOf (head : Bytes) : Option StateChange :=
  (stateOps.find? (·.type.code = (FtpState.ofImage head).type)).map StateOp.type

/-- The message in the bytes of one write. -/
def Message.ofBytes (chunk : Bytes) : Option Message :=
  (typeOf chunk).map (⟨·, chunk.drop ftpStateSize⟩)

/-- The head of a message has a fixed size. -/
theorem length_image (s : FtpState) : s.image.length = ftpStateSize := by
  simp [FtpState.image, ftpStateSize]

/-- A message is read back from its bytes. -/
theorem Message.ofBytes_bytes (pid : Int32) (m : Message) :
    Message.ofBytes (m.bytes pid) = some m := by
  rw [ofBytes, bytes, typeOf, FtpState.ofImage_image, find?_code, Option.map_some, opOf_type,
    Option.map_some, List.drop_left' (length_image _)]

/-- What a `writev` wrote. -/
def piped? : Item kernel → Option Bytes
  | .call (.writev _ head body) r =>
    match r.val with
    | .ok () => some (head ++ body)
    | .error _ => none
  | _ => none

def pipedOf (trace : List (Item kernel)) : List Bytes := trace.filterMap piped?

/-- Only calls of one kind write to the pipe. -/
theorem piped?_call {c : Call} (hc : c.topic ≠ .process) (r : Answer c) :
    piped? (.call c r) = none := by
  cases c with
  | writev => exact absurd rfl hc
  | _ => rfl

/-- A message that was written. -/
def message? (x : Item kernel) : Option Message := (piped? x).bind Message.ofBytes

def messagesOf (trace : List (Item kernel)) : List Message := trace.filterMap message?

def typesOf (trace : List (Item kernel)) : List StateChange := (messagesOf trace).map Message.type

/-- A write to the pipe that failed for good. -/
def pipeFails : Item kernel → Bool
  | .call (.writev _ _ _) r =>
    match r.val with
    | .ok () => false
    | .error err => err ≠ .eintr
  | _ => false

/-- Pipe writes succeed, perhaps only when they are repeated. -/
def PipeWorks (trace : List (Item kernel)) : Prop := ∀ x ∈ trace, pipeFails x = false

instance (trace : List (Item kernel)) : Decidable (PipeWorks trace) :=
  inferInstanceAs (Decidable (∀ x ∈ trace, pipeFails x = false))

/-- The pipe has worked if it did before and since. -/
theorem pipeWorks_append {trace suffix : List (Item kernel)} :
    PipeWorks (trace ++ suffix) ↔ PipeWorks trace ∧ ∀ x ∈ suffix, pipeFails x = false :=
  List.forall_mem_append

/-- The trace is a beginning of what it will be. -/
theorem PipeWorks.of_extends {Q : Item kernel → Prop} {w w' : World} (h : PipeWorks w'.trace)
    (hext : Extends Q w w') : PipeWorks w.trace := by
  obtain ⟨suffix, ht, -⟩ := hext
  exact (pipeWorks_append.1 (ht ▸ h)).1

/-! ### Sending one -/

/-- The messages of a call of `send_state`: one, unless its send function refuses or fails. -/
def outgoing (type : StateChange) (session : FtpSession) (pool : Bytes) : List Message :=
  match (opOf type).sendFun session pool with
  | some (pool, .success) => [⟨type, pool.take (opOf type).bufSize⟩]
  | _ => []

/-- The state pool has its size. -/
def PoolWhole (s : Process) : Prop := ∀ pool ∈ s.statePool, pool.length = statePoolSize

/-- A call, or an observation. -/
def Unmarked (x : Item kernel) : Prop := ∀ n, x = .note n → ∃ o, n = .observe o

/-- `w` has become `w'` by writing the messages `ms`, and by what goes with it. -/
structure Posts (ms : List Message) (w w' : World) : Prop where
  session : w'.st.session = w.st.session
  vfsPool : w'.st.vfsPool = w.st.vfsPool
  pid : w'.st.pid = w.st.pid
  statePool : w.st.statePool ≠ none → w'.st.statePool ≠ none
  whole : PoolWhole w.st → PoolWhole w'.st
  written : pipedOf w'.trace = pipedOf w.trace ++ ms.map (Message.bytes w.st.pid)
  unmarked : Extends Unmarked w w'

theorem Posts.refl (w : World) : Posts [] w w := ⟨rfl, rfl, rfl, id, id, by simp, .refl w⟩

/-- Messages are posted in order. -/
theorem Posts.trans {ms ms' : List Message} {w₁ w₂ w₃ : World} (h₁ : Posts ms w₁ w₂)
    (h₂ : Posts ms' w₂ w₃) : Posts (ms ++ ms') w₁ w₃ where
  session := h₂.session.trans h₁.session
  vfsPool := h₂.vfsPool.trans h₁.vfsPool
  pid := h₂.pid.trans h₁.pid
  statePool h := h₂.statePool (h₁.statePool h)
  whole h := h₂.whole (h₁.whole h)
  written := by rw [h₂.written, h₁.written, h₁.pid, List.map_append, List.append_assoc]
  unmarked := h₁.unmarked.trans h₂.unmarked

/-- Messages are what the chunks in the pipe stand for. -/
theorem messagesOf_eq (trace : List (Item kernel)) :
    messagesOf trace = (pipedOf trace).filterMap Message.ofBytes :=
  List.filterMap_filterMap.symm

/-- What is posted is in the trace. -/
theorem Posts.messages {ms : List Message} {w w' : World} (h : Posts ms w w') :
    messagesOf w'.trace = messagesOf w.trace ++ ms := by
  have hms : (ms.map (Message.bytes w.st.pid)).filterMap Message.ofBytes = ms := by
    simp [List.filterMap_map, Message.ofBytes_bytes]
  rw [messagesOf_eq, messagesOf_eq, h.written, List.filterMap_append, hms]

/-- A call that is answered writes what it writes. -/
theorem posts_answered (ms : List Message) {w : World} {c : Call} {r : Answer c}
    (h : (piped? (.call c r)).toList = ms.map (Message.bytes w.st.pid)) :
    Posts ms w (answered w c r) where
  session := rfl
  vfsPool := rfl
  pid := rfl
  statePool := id
  whole := id
  written := by
    rw [← h, pipedOf, answered_trace, List.filterMap_append, List.filterMap_cons]
    rcases piped? (.call c r) <;> rfl
  unmarked := .concat rfl fun _ h ↦ by cases h

theorem posts_withErrno (w : World) (err : Errno) : Posts [] w (withErrno w err) :=
  ⟨rfl, rfl, rfl, id, id, by simp, .of_eq rfl⟩

/-- An observation posts nothing. -/
theorem posts_observed (w : World) (o : Observation) : Posts [] w (noted w (.observe o)) :=
  ⟨rfl, rfl, rfl, id, id, by simp [pipedOf, piped?],
    .concat rfl fun _ h ↦ ⟨o, by cases h; rfl⟩⟩

/-- The buffer keeps its size. -/
theorem strlcpy_length {dst src : Bytes} {size : ℕ} (hsize : 0 < size) (hdst : size ≤ dst.length) :
    (strlcpy dst src size).1.length = dst.length := by
  rw [strlcpy]
  dsimp only
  split_ifs <;> simp <;> omega

/-- The result is the length of the source. -/
theorem strlcpy_snd (dst src : Bytes) (size : ℕ) : (strlcpy dst src size).2 = src.length := by
  rw [strlcpy]
  dsimp only
  split_ifs <;> rfl

/-- A directory that is too long is copied, and refused. -/
theorem sendChdir_eq (session : FtpSession) (pool : Bytes) : sendChdir session pool =
    some ((strlcpy pool (cstr session.virtPath) ftpMaxPath).1,
      if (cstr session.virtPath).length ≥ ftpMaxPath then .error else .success) := by
  rw [← strlcpy_snd pool _ ftpMaxPath]
  rfl

/-- A name of just the size of the buffer is not. -/
theorem sendXferStart_eq (session : FtpSession) (pool : Bytes) : sendXferStart session pool =
    some ((strlcpy pool (cstr session.filename) ftpMaxName).1,
      if (cstr session.filename).length > ftpMaxName then .error else .success) := by
  rw [← strlcpy_snd pool _ ftpMaxName]
  rfl

/-- The image of the record has its size. -/
theorem FtpXferInfo.length_image (i : FtpXferInfo) : i.image.length = ftpXferInfoSize := by
  simp [FtpXferInfo.image, Timeval.image, ftpXferInfoSize]

/-- Composing a message keeps the size of the pool. -/
theorem sendFun_length {type : StateChange} {session : FtpSession} {pool pool' : Bytes}
    {ret : FtpRet} (hpool : pool.length = statePoolSize)
    (h : (opOf type).sendFun session pool = some (pool', ret)) : pool'.length = statePoolSize := by
  have hsize : statePoolSize = 1024 := by decide
  rw [hsize] at hpool ⊢
  cases type with
  | login =>
    simp only [opOf, sendLogin] at h
    have hlen : (List.replicate maxLoginName nul ++ pool.drop maxLoginName).length = 1024 := by
      simp [maxLoginName, hpool]
    split at h
    · cases h
      rw [strlcpy_length (by decide) (by rw [hlen]; decide), hlen]
    · split at h
      · cases h
        rw [strlcpy_length (by decide) (by rw [hlen]; decide), hlen]
      · cases h
  | chdir =>
    obtain ⟨rfl, -⟩ := Prod.mk.inj (Option.some.inj ((sendChdir_eq session pool).symm.trans h))
    rw [strlcpy_length (by decide) (by rw [hpool]; decide), hpool]
  | xferStart =>
    obtain ⟨rfl, -⟩ := Prod.mk.inj (Option.some.inj ((sendXferStart_eq session pool).symm.trans h))
    rw [strlcpy_length (by decide) (by rw [hpool]; decide), hpool]
  | xfer | xferStop =>
    cases h
    simp [FtpXferInfo.length_image, ftpXferInfoSize, hpool]

/-- The loop around `writev` writes its message, or the pipe fails. -/
theorem writevAll_wp {e : Env} {w : World} (pipe : ℤ) (m : Message) :
    wp e (writevAll pipe (FtpState.mk w.st.pid stateMagic m.type.code).image m.body)
      (fun _ w' ↦ ∃ ms, Posts ms w w' ∧ (PipeWorks w'.trace → ms = [m]) ∧ (ms = [] ∨ ms = [m]))
      (fun _ ↦ Posts [] w) w := by
  generalize hhead : (FtpState.mk w.st.pid stateMagic m.type.code).image = head
  refine wp_loop (fun _ ↦ Posts [] w) (fun _ w₁ hw₁ ↦ ?_) (fun _ _ h ↦ h) (.refl w)
  refine (wp_bind _ _).2 (wp_checked.2 (wp_sys (fun r _ ↦ ?_) hw₁))
  rcases hr : r.val with err | ⟨⟩
  · have herr := (hw₁.trans (posts_answered [] (c := .writev pipe head m.body) (r := r)
      (by simp [piped?, hr]))).trans (posts_withErrno _ err)
    simp only [wp_bind, wp_errnoIs, withErrno_errno, Option.some.injEq, decide_eq_true_eq]
    split_ifs with heintr
    · exact herr
    · refine ⟨[], herr, fun hworks ↦ ?_, .inl rfl⟩
      have hfails : pipeFails (.call (.writev pipe head m.body) r) = false :=
        (pipeWorks_append.1 hworks).2 _ List.mem_cons_self
      simp [pipeFails, hr, heintr] at hfails
  · have hpiped : (piped? (.call (.writev pipe head m.body) r)).toList =
        [m].map (Message.bytes w₁.st.pid) := by
      simp [piped?, hr, Message.bytes, hw₁.pid, hhead]
    exact ⟨_, hw₁.trans (posts_answered _ hpiped), fun _ ↦ rfl, .inr rfl⟩

/-- **What `send_state` does**: it writes what its table entry composes, unless the pipe fails. -/
theorem sendState_wp {e : Env} {w : World} (type : StateChange) :
    wp e (sendState type)
      (fun _ w' ↦ ∃ pool ms, w.st.statePool = some pool ∧
        (opOf type).sendFun w.st.session pool ≠ none ∧ Posts ms w w' ∧
        (PipeWorks w'.trace → ms = outgoing type w.st.session pool) ∧
        (ms = [] ∨ ms = outgoing type w.st.session pool))
      (fun _ ↦ Posts [] w) w := by
  rw [sendState, wp_bind, wp_get, find?_type]
  rcases hpool : w.st.statePool with - | pool
  · exact posts_observed w _
  dsimp only
  rcases hsend : (opOf type).sendFun w.st.session pool with - | ⟨pool', ret⟩
  · dsimp only
    rw [badUser]
    split_ifs
    · exact posts_observed w _
    · exact .refl w
  dsimp only
  rw [wp_bind, wp_modify]
  -- what the send function has composed stays in the pool, whether or not it is sent
  have hstored : Posts [] w { w with st := { w.st with statePool := some pool' } } :=
    ⟨rfl, rfl, rfl, fun _ ↦ Option.some_ne_none _, fun h ↦ by
      rintro _ ⟨⟩
      exact sendFun_length (h pool hpool) hsend, by simp, .of_eq rfl⟩
  split_ifs with hret
  -- a change about which there is nothing to say sends no message
  · have hout : outgoing type w.st.session pool = [] := by
      rw [outgoing, hsend]
      cases ret with
      | success => exact absurd rfl hret
      | _ => rfl
    exact ⟨pool, [], rfl, by simp [hsend], hstored, fun _ ↦ hout.symm, .inl rfl⟩
  · have hout : outgoing type w.st.session pool = [⟨type, pool'.take (opOf type).bufSize⟩] := by
      rw [outgoing, hsend, not_not.1 hret]
    refine wp_mono (writevAll_wp (w := { w with st := { w.st with statePool := some pool' } }) _
      ⟨type, pool'.take (opOf type).bufSize⟩) ?_ fun _ _ h ↦ hstored.trans h
    rintro ret' w' ⟨ms, hposts, hworks, hms⟩
    exact ⟨pool, ms, rfl, by simp [hsend], hstored.trans hposts, hout ▸ hworks, hout ▸ hms⟩

end FtpServer
