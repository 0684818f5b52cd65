import FtpServer.Library.Decimal
import FtpServer.Proofs.Descriptors
import FtpServer.Proofs.Replies

/-!
# The port that PASV listens on

`pasv_listen` tries the ports of the configured range in turn. So `PASV` listens on the lowest one
that is free, and its reply says which; it refuses only if none is (`dopasv_port`).

* `sockOf` follows a descriptor through the calls on sockets, and `PortsInUse` says how the kernel
  answers them, given which ports are in use.
* `Searched` is the invariant of the loop over the ports: all below the next one are in use
  (`bindLoop_wp`).
* `pasvNumbers` reads a reply, and `pasvNumbers_reply` says that it finds what was printed.
* `PasvDone` puts both ends together: the session listens and says where, or refuses.
-/

namespace FtpServer

open CString Effect Effect.Proc

/-! ### Sockets, as the trace changes them -/

/-- A descriptor, as far as it is a socket that listens. -/
structure Sock where
  isOpen : Bool
  port : Option ℤ
  listening : Bool
  deriving DecidableEq, Repr

def Sock.closed : Sock := ⟨false, none, false⟩

/-- What a call means for the descriptor `fd`. -/
def sockStep (fd : ℤ) (s : Sock) : Item kernel → Sock
  | .call .socket r =>
    match r.val with
    | .ok new => if (new : ℤ) = fd then ⟨true, none, false⟩ else s
    | .error _ => s
  | .call (.bind fd' port) r =>
    match r.val with
    | .ok () => if fd' = fd then { s with port := some port } else s
    | .error _ => s
  | .call (.listen fd') r =>
    match r.val with
    | .ok () => if fd' = fd then { s with listening := true } else s
    | .error _ => s
  | .call (.close fd') _ => if fd' = fd then .closed else s
  | _ => s

section

variable {fd : ℤ} {s : Sock}

/-- A new socket has no port and does not listen. -/
theorem sockStep_socket {r : Answer .socket} {new : ℕ} (hr : r.val = .ok new) :
    sockStep new s (.call .socket r) = ⟨true, none, false⟩ := by
  simp only [sockStep, hr, if_true]

theorem sockStep_setsockopt (r : Answer (.setsockopt fd)) :
    sockStep fd s (.call (.setsockopt fd) r) = s := rfl

/-- A refused port is not taken. -/
theorem sockStep_bind_error {port : ℤ} {r : Answer (.bind fd port)} {err : Errno}
    (hr : r.val = .error err) : sockStep fd s (.call (.bind fd port) r) = s := by
  simp only [sockStep, hr]

/-- A port that was granted is. -/
theorem sockStep_bind_ok {port : ℤ} {r : Answer (.bind fd port)} (hr : r.val = .ok ()) :
    sockStep fd s (.call (.bind fd port) r) = { s with port := some port } := by
  simp only [sockStep, hr, if_true]

/-- A socket that listens. -/
theorem sockStep_listen {r : Answer (.listen fd)} (hr : r.val = .ok ()) :
    sockStep fd s (.call (.listen fd) r) = { s with listening := true } := by
  simp only [sockStep, hr, if_true]

theorem sockStep_getsockport (r : Answer (.getsockport fd)) :
    sockStep fd s (.call (.getsockport fd) r) = s := rfl

/-- A closed one. -/
theorem sockStep_close (r : Answer (.close fd)) :
    sockStep fd s (.call (.close fd) r) = .closed := if_pos rfl

theorem sockStep_note (n : Note) : sockStep fd s (.note n) = s := rfl

end

/-- The descriptor after a trace. -/
def sockOf (fd : ℤ) (trace : List (Item kernel)) : Sock := trace.foldl (sockStep fd) .closed

/-- Each entry of the trace is one step of the socket. -/
theorem sockOf_concat (fd : ℤ) (trace : List (Item kernel)) (x : Item kernel) :
    sockOf fd (trace ++ [x]) = sockStep fd (sockOf fd trace) x := by
  rw [sockOf, List.foldl_append]
  rfl

/-! ### The ports of the machine -/

/-- The calls on sockets succeed, but for a `bind` to a port in use; and the port that the kernel
names is the one that the socket is bound to. -/
structure PortsInUse (used : Set ℤ) (e : Env) : Prop where
  socket : ∀ trace, ∃ fd, (e.answer trace .socket).val = .ok fd
  bind : ∀ trace fd port, sockOf fd trace = ⟨true, none, false⟩ →
    (e.answer trace (.bind fd port)).val =
      open Classical in if port ∈ used then .error .eaddrinuse else .ok ()
  listen : ∀ trace fd port, sockOf fd trace = ⟨true, some port, false⟩ →
    (e.answer trace (.listen fd)).val = .ok ()
  getsockport : ∀ trace fd port, (sockOf fd trace).port = some port → 0 ≤ port → port < 65536 →
    (e.answer trace (.getsockport fd)).val =
      .ok (UInt8.ofNat (port.toNat / 256), UInt8.ofNat (port.toNat % 256))

/-- The ports of the range that are free. -/
def freePorts (config : FtpConfig) (used : Set ℤ) : Set ℤ :=
  {p | config.pasvPortStart ≤ p ∧ p ≤ config.pasvPortEnd ∧ p ∉ used}

/-! ### The reply -/

/-- The numbers between the parentheses of a reply. -/
def pasvNumbers (msg : Bytes) : List ℕ :=
  ((((msg.dropWhile (· ≠ 40)).drop 1).takeWhile (· ≠ 41)).splitOn 44).map Decimal.value

/-- The reply of `dopasv`. -/
def pasvReply (bytes : List UInt8) : Bytes :=
  ofString "227 Entering Passive Mode (" ++ List.intercalate [44] (bytes.map fmtByte) ++
    ofString ")\r\n"

/-- The reply starts with its code. -/
theorem prefix_pasvReply (bytes : List UInt8) : ofString "227 " <+: pasvReply bytes :=
  List.IsPrefix.trans (by decide) ((List.prefix_append _ _).trans (List.prefix_append _ _))

/-- The six numbers are made of digits. -/
theorem isDigit_fmtByte {b c : UInt8} (h : c ∈ fmtByte b) : Decimal.IsDigit c := by
  rw [fmtByte, fmtInt, if_neg (by omega)] at h
  exact Decimal.isDigit_of_mem_repr h

/-- Each says its byte. -/
theorem value_fmtByte (b : UInt8) : Decimal.value (fmtByte b) = b.toNat := by
  rw [fmtByte, fmtInt, if_neg (by omega)]
  exact Decimal.value_repr _

/-- Between them there are commas only. -/
theorem mem_intercalate {sep : UInt8} {ls : List Bytes} {c : UInt8}
    (h : c ∈ List.intercalate [sep] ls) : c = sep ∨ ∃ l ∈ ls, c ∈ l := by
  induction ls with
  | nil => simp at h
  | cons l ls ih =>
    rcases ls with - | ⟨l', ls⟩
    · exact .inr ⟨l, List.mem_cons_self, by simpa using h⟩
    · rw [List.intercalate_cons_cons, List.mem_append, List.mem_append] at h
      rcases h with (h | h) | h
      · exact .inr ⟨l, List.mem_cons_self, h⟩
      · exact .inl (List.mem_singleton.1 h)
      · exact (ih h).imp_right fun ⟨l, hl, hc⟩ ↦ ⟨l, List.mem_cons_of_mem _ hl, hc⟩

/-- **The numbers can be read back.** -/
theorem pasvNumbers_reply {bytes : List UInt8} (hne : bytes ≠ []) :
    pasvNumbers (pasvReply bytes) = bytes.map UInt8.toNat := by
  have hdigit : ∀ {c : UInt8}, Decimal.IsDigit c → c ≠ 44 ∧ c ≠ 41 := by
    rintro c hc
    constructor
    · rintro rfl
      exact absurd hc (by decide)
    · rintro rfl
      exact absurd hc (by decide)
  have hnumbers : ∀ c ∈ List.intercalate [44] (bytes.map fmtByte), decide (c ≠ 41) = true := by
    intro c hc
    rcases mem_intercalate hc with rfl | ⟨l, hl, hc⟩
    · decide
    · obtain ⟨b, -, rfl⟩ := List.mem_map.1 hl
      exact decide_eq_true (hdigit (isDigit_fmtByte hc)).2
  have hsplit : (List.intercalate [44] (bytes.map fmtByte)).splitOn 44 = bytes.map fmtByte := by
    refine List.splitOn_intercalate 44 (fun l hl hc ↦ ?_) (by simpa using hne)
    obtain ⟨b, -, rfl⟩ := List.mem_map.1 hl
    exact (hdigit (isDigit_fmtByte hc)).1 rfl
  have hfront : ofString "227 Entering Passive Mode (" =
      ofString "227 Entering Passive Mode " ++ [40] := rfl
  have hdrop : (pasvReply bytes).dropWhile (· ≠ 40) =
      40 :: (List.intercalate [44] (bytes.map fmtByte) ++ ofString ")\r\n") := by
    rw [pasvReply, hfront, List.append_assoc, List.append_assoc,
      List.dropWhile_append_of_pos (by decide +kernel)]
    exact List.dropWhile_cons_of_neg (by decide)
  have hend : ofString ")\r\n" = 41 :: ofString "\r\n" := by decide
  rw [pasvNumbers, hdrop, List.drop_one, List.tail_cons, hend,
    List.takeWhile_append_of_pos hnumbers,
    List.takeWhile_cons_of_neg (by decide), List.append_nil, hsplit, List.map_map]
  exact List.map_congr_left fun b _ ↦ value_fmtByte b

/-! ### The search for a port -/

variable {e : Env} {config : FtpConfig} {used : Set ℤ} {w w' : World} {H : Halt → World → Prop}

/-- The ports from `start` up to `p` are in use, and the descriptor is bound to `p`, unless there
were no more ports. -/
structure Searched (used : Set ℤ) (fd start stop p : ℤ) (w : World) : Prop where
  lower : start ≤ p
  upper : p ≤ stop
  tried : ∀ q, start ≤ q → q < p → q ∈ used
  bound : p < stop → p ∉ used ∧ sockOf fd w.trace = ⟨true, some p, false⟩

/-- The loop tries one port after the other, and stops at the first that is free. -/
theorem bindLoop_wp (hused : PortsInUse used e) (fd : ℤ) (fuel : ℕ) (port : ℤ)
    (hsock : sockOf fd w.trace = ⟨true, none, false⟩) (hlimit : w.trace.length + fuel ≤ e.limit) :
    wp e (bindLoop fd fuel port)
      (fun r w' ↦ Replies [] w w' ∧ w'.trace.length ≤ w.trace.length + fuel ∧
        ∃ p, r = some p ∧ Searched used fd port (port + fuel) p w') H w := by
  induction fuel generalizing port w with
  | zero =>
    exact ⟨.refl w, le_rfl, port, rfl, le_rfl, by simp, fun q hq hlt ↦ absurd hq (not_le.2 hlt),
      fun h ↦ absurd h (by simp)⟩
  | succ fuel ih =>
    rw [bindLoop, wp_bind]
    refine wp_checked.2 (wp_sys_of_lt (by omega) fun r hr ↦ ?_)
    have hval : r.val = _ := hr ▸ hused.bind w.trace fd port hsock
    -- a port that is in use is passed by, and the invariant has one more
    by_cases hport : port ∈ used
    · rw [if_pos hport] at hval
      rw [hval]
      have htried : Replies [] w (withErrno (answered w (.bind fd port) r) .eaddrinuse) :=
        (replies_answered w _ r).trans (replies_withErrno _ _)
      have hkept : sockOf fd (w.trace ++ [.call (.bind fd port) r]) = ⟨true, none, false⟩ := by
        rw [sockOf_concat, hsock, sockStep_bind_error hval]
      simp only [wp_bind, wp_errnoIs, withErrno_errno, decide_true, if_true]
      refine wp_mono (ih (port + 1) hkept ?_) ?_ fun _ _ h ↦ h
      · simp only [withErrno_trace, answered_trace, List.length_append, List.length_singleton]
        omega
      rintro _ w' ⟨hreplies, hcalls, p, rfl, hlower, hupper, hall, hbound⟩
      simp only [withErrno_trace, answered_trace, List.length_append,
        List.length_singleton] at hcalls
      refine ⟨htried.trans hreplies, by omega, p, rfl, by omega, by push_cast; omega,
        fun q hq hlt ↦ ?_, fun h ↦ hbound (by push_cast at h; omega)⟩
      rcases hq.eq_or_lt with rfl | hq
      · exact hport
      · exact hall q hq hlt
    · rw [if_neg hport] at hval
      rw [hval]
      refine ⟨replies_answered w _ r, by simp, port, rfl, le_rfl, by push_cast; omega,
        fun q hq hlt ↦ absurd hq (not_le.2 hlt), fun _ ↦ ⟨hport, ?_⟩⟩
      rw [answered_trace, sockOf_concat, hsock, sockStep_bind_ok hval]

/-- What `pasv_listen` found. -/
def Found (config : FtpConfig) (used : Set ℤ) (fd : ℤ) (r : Option (UInt8 × UInt8)) (w : World) :
    Prop :=
  (r = none ∧ freePorts config used = ∅) ∨
  ∃ p, IsLeast (freePorts config used) p ∧ sockOf fd w.trace = ⟨true, some p, true⟩ ∧
    r = some (UInt8.ofNat (p.toNat / 256), UInt8.ofNat (p.toNat % 256))

/-- The range is one that `check_config` accepts, without the port 0. -/
structure PortRange (config : FtpConfig) : Prop where
  start : 1 ≤ config.pasvPortStart
  nonempty : config.pasvPortStart ≤ config.pasvPortEnd
  stop : config.pasvPortEnd ≤ 65535

/-- How many ports there are in the range. -/
def portCount (config : FtpConfig) : ℕ := (config.pasvPortEnd + 1 - config.pasvPortStart).toNat

/-- `listen` and `getsockname`, once there is a port or not. -/
theorem listen_wp (hused : PortsInUse used e) (hrange : PortRange config) {fd p : ℤ}
    (hp : Searched used fd config.pasvPortStart (config.pasvPortEnd + 1) p w)
    (hlimit : w.trace.length + 2 ≤ e.limit) :
    wp e (if p = config.pasvPortEnd + 1 then return none
      else do
        match ← checked (sys (.listen fd)) with
        | none => return none
        | some () => checked (sys (.getsockport fd)))
      (fun r w' ↦ Replies [] w w' ∧ w'.trace.length ≤ w.trace.length + 2 ∧
        Found config used fd r w') H w := by
  obtain ⟨hlower, hupper, htried, hbound⟩ := hp
  have hstart := hrange.start
  have hstop := hrange.stop
  by_cases hp : p = config.pasvPortEnd + 1
  · rw [if_pos hp]
    refine ⟨.refl w, Nat.le_add_right _ _, .inl ⟨rfl, Set.eq_empty_of_forall_notMem fun q hq ↦ ?_⟩⟩
    exact hq.2.2 (htried q hq.1 (hp ▸ Int.lt_add_one_of_le hq.2.1))
  obtain ⟨hfree, hsock⟩ := hbound (lt_of_le_of_ne hupper hp)
  have hleast : IsLeast (freePorts config used) p := by
    refine ⟨⟨hlower, by omega, hfree⟩, fun q hq ↦ not_lt.1 fun hlt ↦ ?_⟩
    exact hq.2.2 (htried q hq.1 hlt)
  rw [if_neg hp, wp_bind]
  refine wp_checked.2 (wp_sys_of_lt (by omega) fun r hr ↦ ?_)
  have hlisten : r.val = .ok () := hr ▸ hused.listen _ _ p hsock
  rw [hlisten]
  have hsock₁ : sockOf fd (answered w (.listen fd) r).trace = ⟨true, some p, true⟩ := by
    rw [answered_trace, sockOf_concat, hsock, sockStep_listen hlisten]
  refine wp_checked.2 (wp_sys_of_lt (by simp; omega) fun r' hr' ↦ ?_)
  have hport : r'.val = .ok (UInt8.ofNat (p.toNat / 256), UInt8.ofNat (p.toNat % 256)) :=
    hr' ▸ hused.getsockport _ _ p (by rw [hsock₁]) (by omega) (by omega)
  rw [hport]
  refine ⟨(replies_answered w _ r).trans (replies_answered _ _ r'), by simp,
    .inr ⟨p, hleast, ?_, rfl⟩⟩
  rw [answered_trace, sockOf_concat, hsock₁, sockStep_getsockport]

/-- `pasv_listen` looks for it in the configured range. -/
theorem pasvListen_wp (hused : PortsInUse used e) (hrange : PortRange config) (fd : ℤ)
    (hsock : sockOf fd w.trace = ⟨true, none, false⟩)
    (hlimit : w.trace.length + portCount config + 3 ≤ e.limit) :
    wp e (pasvListen config fd)
      (fun r w' ↦ Replies [] w w' ∧ w'.trace.length ≤ w.trace.length + portCount config + 3 ∧
        Found config used fd r w') H w := by
  have hcount : config.pasvPortStart + portCount config = config.pasvPortEnd + 1 := by
    have hle := hrange.nonempty
    rw [portCount]
    omega
  have hoption : wp e (checked (sys (.setsockopt fd))) (fun _ w₁ ↦ Replies [] w w₁ ∧
      w₁.trace.length = w.trace.length + 1 ∧ sockOf fd w₁.trace = ⟨true, none, false⟩) H w := by
    refine wp_checked.2 (wp_sys_of_lt (by omega) fun r hr ↦ ?_)
    have hkept : sockOf fd (w.trace ++ [.call (.setsockopt fd) r]) = ⟨true, none, false⟩ := by
      rw [sockOf_concat, hsock, sockStep_setsockopt]
    obtain ⟨async, err | ⟨⟩⟩ := r
    · exact ⟨(replies_answered w _ _).trans (replies_withErrno _ err), by simp, hkept⟩
    · exact ⟨replies_answered w _ _, by simp, hkept⟩
  rw [pasvListen, wp_bind]
  refine wp_mono hoption ?_ fun _ _ h ↦ h
  rintro _ w₁ ⟨h₁, hlen, hsock₁⟩
  rw [wp_bind]
  refine wp_mono (bindLoop_wp hused fd (portCount config) config.pasvPortStart hsock₁ (by omega)) ?_
    fun _ _ h ↦ h
  rintro _ w₂ ⟨h₂, hcalls, p, rfl, hp⟩
  rw [hcount] at hp
  refine wp_mono (listen_wp hused hrange hp (by omega)) ?_ fun _ _ h ↦ h
  rintro r w₃ ⟨h₃, hcalls', hfound⟩
  exact ⟨(h₁.trans h₂).trans h₃, by omega, hfound⟩

/-! ### `PASV` -/

/-- The descriptors are as they were. -/
def SameSocks (w w' : World) : Prop := ∀ fd, sockOf fd w'.trace = sockOf fd w.trace

/-- Sockets that nothing is done to. -/
theorem sameSocks_guard : Guard (fun _ ↦ True) SameSocks where
  refl _ _ _ := rfl
  trans _ h h' fd := (h' fd).trans (h fd)
  keep _ _ := trivial

/-- A reply does nothing to them. -/
theorem within_reply_sameSocks (sock : ℤ) (msg : Bytes) :
    Within (fun _ ↦ True) SameSocks (reply sock msg) := by
  have hnote : Within (fun _ ↦ True) SameSocks (observe (.reply msg)) :=
    within_mark fun w _ fd ↦ by rw [noted_trace, sockOf_concat, sockStep_note]
  refine within_bind sameSocks_guard hnote fun _ ↦ ?_
  refine within_sendall sameSocks_guard (fun buf ↦ ?_) (fun _ ↦ ?_) msg
  · exact within_sys sameSocks_guard fun w r _ fd ↦ by rw [answered_trace, sockOf_concat]; rfl
  · exact within_setErrno fun _ _ _ ↦ rfl

theorem within_replyMsg_sameSocks (msg : String) :
    Within (fun _ ↦ True) SameSocks (replyMsg msg) :=
  within_bind sameSocks_guard (within_get sameSocks_guard) fun _ ↦
    within_bind sameSocks_guard (within_reply_sameSocks _ _) fun _ ↦ within_pure sameSocks_guard _

theorem within_replyFormat_sameSocks (text : Bytes) :
    Within (fun _ ↦ True) SameSocks (replyFormat text) := by
  refine within_bind sameSocks_guard (within_get sameSocks_guard) fun s ↦ ?_
  have hobserve : Within (fun _ ↦ True) SameSocks (observe (.expansion text)) :=
    within_mark fun w _ fd ↦ by rw [noted_trace, sockOf_concat, sockStep_note]
  split_ifs
  · exact within_bind sameSocks_guard hobserve fun _ ↦
      within_bind sameSocks_guard (within_get sameSocks_guard) fun _ ↦
        within_bind sameSocks_guard (within_reply_sameSocks _ _) fun _ ↦
          within_pure sameSocks_guard _
  · exact within_fault sameSocks_guard

/-- The earlier listening socket is closed before anything else. -/
def ClosesFirst (old : ℤ) (run : List (Item kernel)) : Prop :=
  old ≠ -1 → ∃ (r : Answer (.close old)) (rest : List (Item kernel)),
    run = .call (.close old) r :: rest

/-- What was done first stays first. -/
theorem ClosesFirst.append {old : ℤ} {run : List (Item kernel)} (h : ClosesFirst old run)
    (run' : List (Item kernel)) : ClosesFirst old (run ++ run') := by
  intro hold
  obtain ⟨r, rest, rfl⟩ := h hold
  exact ⟨r, rest ++ run', rfl⟩

/-- The session has `fd` for its listening socket, and has sent these replies. -/
structure Passive (msgs : List Bytes) (fd : ℤ) (w w' : World) : Prop where
  conn : w'.st.session.conn = { w.st.session.conn with pasvSock := fd }
  replyPool : w'.st.replyPool = w.st.replyPool
  grown : ∃ run, w'.trace = w.trace ++ run ∧ repliesOf run = msgs ∧
    ClosesFirst w.st.session.conn.pasvSock run

/-- A reply at the end. -/
theorem Passive.replies {fd : ℤ} {w'' : World} {msgs : List Bytes} (h : Passive [] fd w w')
    (h' : Replies msgs w' w'') : Passive msgs fd w w'' := by
  obtain ⟨run, ht, hr, hclosed⟩ := h.grown
  obtain ⟨run', ht', hr'⟩ := h'.grown
  refine ⟨h'.session ▸ h.conn, h'.replyPool.trans h.replyPool, run ++ run',
    by rw [ht', ht, List.append_assoc], ?_, hclosed.append run'⟩
  rw [repliesOf, List.filterMap_append, ← repliesOf, ← repliesOf, hr, hr', List.nil_append]

/-- The session changes its listening socket. -/
theorem Passive.setPasvSock {fd new : ℤ} {msgs : List Bytes} (h : Passive msgs fd w w')
    {f : Program α} {Q : α → World → Prop}
    (hf : ∀ w₁ : World, w₁.trace = w'.trace → Passive msgs new w w₁ → wp e f Q H w₁) :
    wp e (do setPasvSock new; f) Q H w' := by
  refine hf _ rfl ⟨?_, h.replyPool, h.grown⟩
  show { w'.st.session.conn with pasvSock := new } = _
  rw [h.conn]

/-- The socket of an earlier `PASV` is closed, if there is one. -/
theorem closePasvSock_wp (hlimit : w.trace.length < e.limit) :
    wp e closePasvSock
      (fun _ w' ↦ Passive [] (-1) w w' ∧ w'.trace.length ≤ w.trace.length + 1) H w := by
  rw [closePasvSock, wp_bind, wp_getSession]
  dsimp only
  by_cases hsock : w.st.session.conn.pasvSock = -1
  · rw [if_neg (not_not.2 hsock)]
    exact ⟨⟨by rw [← hsock], rfl, [], by simp, rfl, fun h ↦ absurd hsock h⟩, Nat.le_succ _⟩
  rw [if_pos hsock, wp_bind]
  refine wp_checked.2 (wp_sys_of_lt hlimit fun r _ ↦ ?_)
  have hgrown : ∃ run, (answered w (.close w.st.session.conn.pasvSock) r).trace = w.trace ++ run ∧
      repliesOf run = [] ∧ ClosesFirst w.st.session.conn.pasvSock run :=
    ⟨_, rfl, rfl, fun _ ↦ ⟨r, [], rfl⟩⟩
  have hcalls : (answered w (.close w.st.session.conn.pasvSock) r).trace.length ≤
      w.trace.length + 1 := by simp
  obtain ⟨async, err | ⟨⟩⟩ := r
  · exact ⟨⟨rfl, rfl, hgrown⟩, hcalls⟩
  · exact ⟨⟨rfl, rfl, hgrown⟩, hcalls⟩

/-- Six numbers of three digits fit. -/
theorem length_pasvReply_lt (ip : InAddr) (port0 port1 : UInt8) :
    (pasvReply [ip.b0, ip.b1, ip.b2, ip.b3, port0, port1]).length < responseBufferSize := by
  have hbyte : ∀ b : UInt8, (fmtByte b).length ≤ 3 := by
    intro b
    rw [fmtByte, fmtInt, if_neg (by omega)]
    exact Decimal.length_repr_le (by decide) (b.toNat_lt.trans_le (by decide))
  have h0 := hbyte ip.b0
  have h1 := hbyte ip.b1
  have h2 := hbyte ip.b2
  have h3 := hbyte ip.b3
  have h4 := hbyte port0
  have h5 := hbyte port1
  have hfront : (ofString "227 Entering Passive Mode (").length = 27 := by decide
  have hend : (ofString ")\r\n").length = 3 := by decide
  simp only [pasvReply, List.map_cons, List.map_nil, List.intercalate_cons_cons,
    List.intercalate_singleton, List.length_append, List.length_singleton, hfront, hend,
    responseBufferSize]
  omega

/-- The session listens on the lowest free port, and the reply says where. -/
def Listens (config : FtpConfig) (used : Set ℤ) (w w' : World) (run : List (Item kernel)) : Prop :=
  ∃ (p : ℤ) (fd p1 p2 : ℕ) (msg : Bytes), IsLeast (freePorts config used) p ∧
    w'.st.session.conn.pasvSock = fd ∧ sockOf fd w'.trace = ⟨true, some p, true⟩ ∧
    repliesOf run = [msg] ∧ ofString "227 " <+: msg ∧ (p1 * 256 + p2 : ℤ) = p ∧
    let ip := w.st.session.conn.hostAddr
    pasvNumbers msg = [ip.b0.toNat, ip.b1.toNat, ip.b2.toNat, ip.b3.toNat, p1, p2]

/-- The client is refused, and the new socket is closed. -/
def Refuses (w' : World) (run : List (Item kernel)) : Prop :=
  w'.st.session.conn.pasvSock = -1 ∧
    (∃ (fd : ℕ) (r : Answer .socket), .call .socket r ∈ run ∧ r.val = .ok fd ∧
      sockOf fd w'.trace = .closed) ∧
    repliesOf run = [ofString "425 Can't open data connection\r\n"]

/-- What `PASV` does. -/
def PasvDone (config : FtpConfig) (used : Set ℤ) (w w' : World) : Prop :=
  ∃ run, w'.trace = w.trace ++ run ∧ ClosesFirst w.st.session.conn.pasvSock run ∧
    ((freePorts config used).Nonempty → Listens config used w w' run) ∧
    (freePorts config used = ∅ → Refuses w' run)

/-- The run stops because a call is not answered. -/
abbrev BlockedWith (T : World → Prop) (k : Halt) (w : World) : Prop := k = .blocked ∧ T w

/-- `PASV` gives up, with the socket it has opened. -/
theorem refuse_wp {fd : ℤ} (h : Passive [] fd w w') (hlimit : w'.trace.length < e.limit) :
    let T := fun w'' : World ↦ Passive [ofString "425 Can't open data connection\r\n"] (-1) w w'' ∧
      sockOf fd w''.trace = .closed ∧ w'.trace <+: w''.trace
    wp e (do
      let _ ← checked (sys (.close fd))
      setPasvSock (-1)
      replyMsg "425 Can't open data connection\r\n"
      return FtpRet.success)
      (fun ret w'' ↦ ret = .success ∧ T w'') (BlockedWith T) w' := by
  intro T
  have hrest : ∀ w₁, Replies [] w' w₁ → sockOf fd w₁.trace = .closed →
      wp e (do
        setPasvSock (-1)
        replyMsg "425 Can't open data connection\r\n"
        return FtpRet.success) (fun ret w'' ↦ ret = .success ∧ T w'') (BlockedWith T) w₁ := by
    intro w₁ h₁ hclosed
    refine (h.replies h₁).setPasvSock fun w₂ ht₂ h₂ ↦ ?_
    have hT : ∀ w₃, Replies [ofString "425 Can't open data connection\r\n"] w₂ w₃ →
        SameSocks w₂ w₃ → T w₃ := by
      intro w₃ h₃ hsame
      obtain ⟨run₁, ht₁, -⟩ := h₁.grown
      obtain ⟨run₃, ht₃, -⟩ := h₃.grown
      refine ⟨h₂.replies h₃, by rw [hsame, ht₂, hclosed], run₁ ++ run₃, ?_⟩
      rw [ht₃, ht₂, ht₁, List.append_assoc]
    rw [wp_bind]
    exact wp_mono (wp_and (replyMsg_wp _) ((within_replyMsg_sameSocks _).wp trivial))
      (fun _ w₃ h₃ ↦ ⟨rfl, hT w₃ h₃.1 h₃.2⟩) fun _ w₃ h₃ ↦ ⟨h₃.1.1, hT w₃ h₃.1.2 h₃.2⟩
  rw [wp_bind]
  refine wp_checked.2 (wp_sys_of_lt hlimit fun r _ ↦ ?_)
  have hclosed : sockOf fd (w'.trace ++ [.call (.close fd) r]) = .closed := by
    rw [sockOf_concat, sockStep_close]
  obtain ⟨async, err | ⟨⟩⟩ := r
  · exact hrest _ ((replies_answered w' _ _).trans (replies_withErrno _ err)) hclosed
  · exact hrest _ (replies_answered w' _ _) hclosed

/-- What is said to a client that may connect. -/
theorem announce_wp {fd : ℤ} (h : Passive [] fd w w') (hpool : w.st.replyPool = true)
    (bytes : List UInt8) (hlen : (pasvReply bytes).length < responseBufferSize) :
    let T := fun w'' : World ↦ Passive [pasvReply bytes] fd w w'' ∧ SameSocks w' w''
    wp e (do
      replyFormat (pasvReply bytes)
      return FtpRet.success) (fun ret w'' ↦ ret = .success ∧ T w'') (BlockedWith T) w' := by
  intro T
  rw [wp_bind]
  refine wp_mono (wp_and (replyFormat_wp hlen) ((within_replyFormat_sameSocks _).wp trivial))
    (fun _ w'' h' ↦ ⟨rfl, h.replies h'.1, h'.2⟩) fun _ w'' h' ↦ ?_
  obtain ⟨hblocked, hreplies⟩ := h'.1 (h.replyPool.trans hpool)
  exact ⟨hblocked, h.replies hreplies, h'.2⟩

/-- All of `PASV`, with a bound on the calls it makes. -/
theorem dopasv_wp (hused : PortsInUse used e) (hrange : PortRange config)
    (hpool : w.st.replyPool = true) (hlimit : w.trace.length + portCount config + 6 ≤ e.limit) :
    wp e (dopasv config) (fun ret w' ↦ ret = .success ∧ PasvDone config used w w')
      (BlockedWith (PasvDone config used w)) w := by
  rw [dopasv, wp_bind]
  refine wp_mono (closePasvSock_wp (by omega)) ?_ fun _ _ h ↦ h
  rintro _ w₁ ⟨h₁, hcalls₁⟩
  rw [wp_bind, wp_getSession, wp_bind]
  refine wp_checked.2 (wp_sys_of_lt (by omega) fun r hr ↦ ?_)
  obtain ⟨fd, hfd⟩ := hused.socket w₁.trace
  have hval : r.val = .ok fd := hr ▸ hfd
  rw [hval]
  have h₂ := h₁.replies (replies_answered w₁ _ r)
  refine h₂.setPasvSock fun w₃ ht₃ h₃ ↦ ?_
  have hsock₃ : sockOf fd w₃.trace = ⟨true, none, false⟩ := by
    rw [ht₃, answered_trace, sockOf_concat, sockStep_socket hval]
  have hcalls₃ : w₃.trace.length = w₁.trace.length + 1 := by rw [ht₃]; simp
  rw [wp_bind]
  -- the port that is bound is the one in the reply, so both are taken from `pasv_listen`
  refine wp_mono (pasvListen_wp hused hrange fd hsock₃ (by omega)) ?_ fun _ _ h ↦ h
  rintro port w₄ ⟨hreplies₄, hcalls₄, hfound⟩
  have h₄ := h₃.replies hreplies₄
  obtain ⟨rfl, hempty⟩ | ⟨p, hleast, hsock₄, rfl⟩ := hfound
  -- all ports are in use: the new socket is closed and the client refused
  · have hdone : ∀ w₅, Passive [ofString "425 Can't open data connection\r\n"] (-1) w w₅ ∧
        sockOf fd w₅.trace = .closed ∧ w₄.trace <+: w₅.trace → PasvDone config used w w₅ := by
      rintro w₅ ⟨h₅, hclosed, ⟨run₅, ht₅⟩⟩
      obtain ⟨run, ht, hr, hfirst⟩ := h₅.grown
      refine ⟨run, ht, hfirst, fun hfree ↦ absurd hempty hfree.ne_empty, fun _ ↦
        ⟨by rw [h₅.conn], ⟨fd, r, ?_, hval, hclosed⟩, hr⟩⟩
      obtain ⟨run₁, ht₁, -⟩ := h₁.grown
      obtain ⟨run₄, ht₄, -⟩ := hreplies₄.grown
      have hrun : run = run₁ ++ ([.call .socket r] ++ (run₄ ++ run₅)) := by
        refine (List.append_right_inj w.trace).1 ?_
        rw [← ht, ← ht₅, ht₄, ht₃, answered_trace, ht₁]
        simp only [List.append_assoc]
      rw [hrun]
      simp
    exact wp_mono (refuse_wp h₄ (by omega)) (fun _ w₅ h ↦ ⟨h.1, hdone w₅ h.2⟩)
      fun _ w₅ h ↦ ⟨h.1, hdone w₅ h.2⟩
  · have hdone : ∀ w₅, Passive [pasvReply [w₁.st.session.conn.hostAddr.b0,
          w₁.st.session.conn.hostAddr.b1, w₁.st.session.conn.hostAddr.b2,
          w₁.st.session.conn.hostAddr.b3, UInt8.ofNat (p.toNat / 256),
          UInt8.ofNat (p.toNat % 256)]] fd w w₅ ∧ SameSocks w₄ w₅ →
        PasvDone config used w w₅ := by
      rintro w₅ ⟨h₅, hsame⟩
      obtain ⟨run, ht, hr, hfirst⟩ := h₅.grown
      have hp : 1 ≤ p := hrange.start.trans hleast.1.1
      have hp' : p ≤ 65535 := hleast.1.2.1.trans hrange.stop
      refine ⟨run, ht, hfirst, fun _ ↦ ?_, fun hempty ↦
        absurd hleast.1 (hempty ▸ Set.notMem_empty p)⟩
      refine ⟨p, fd, p.toNat / 256, p.toNat % 256, _, hleast, by rw [h₅.conn],
        by rw [hsame, hsock₄], hr, prefix_pasvReply _, by omega, ?_⟩
      rw [pasvNumbers_reply (by simp), h₁.conn]
      -- the two numbers of the port are bytes, as the port has 16 bits
      have h0 : (UInt8.ofNat (p.toNat / 256)).toNat = p.toNat / 256 := by
        rw [UInt8.toNat_ofNat']
        omega
      have h1 : (UInt8.ofNat (p.toNat % 256)).toNat = p.toNat % 256 := by
        rw [UInt8.toNat_ofNat']
        omega
      simp only [List.map_cons, List.map_nil, h0, h1]
    exact wp_mono (announce_wp h₄ hpool _ (length_pasvReply_lt _ _ _))
      (fun _ w₅ h ↦ ⟨h.1, hdone w₅ h.2⟩) fun _ w₅ h ↦ ⟨h.1, hdone w₅ h.2⟩

/-- **`PASV` listens on the lowest free port**, and says on which; it refuses only if there is
none. That is so from the reply on, whether or not the client takes it. -/
theorem dopasv_port (config : FtpConfig) (e : Env) (used : Set ℤ) (hused : PortsInUse used e)
    (hrange : PortRange config) (w : World) (hpool : w.st.replyPool = true)
    (hlimit : w.trace.length + portCount config + 6 ≤ e.limit) :
    PasvDone config used w (dopasv config e w).2 ∧
      ((dopasv config e w).1 = .ret .success ∨ (dopasv config e w).1 = .halt .blocked) := by
  have hdone := dopasv_wp hused hrange hpool hlimit
  rcases hrun : dopasv config e w with ⟨ret | k, w'⟩
  · obtain ⟨rfl, h⟩ := wp_ret hdone hrun
    exact ⟨h, .inl rfl⟩
  · obtain ⟨rfl, h⟩ := wp_halt hdone hrun
    exact ⟨h, .inr rfl⟩

/-- A machine on which these ports are in use. -/
def portsEnv (busy : List ℤ) : Env where
  answer trace c :=
    match c with
    | .bind _ port => ⟨[], if port ∈ busy then .error .eaddrinuse else .ok ()⟩
    | .getsockport fd =>
      let port := ((sockOf fd trace).port.getD 0).toNat
      ⟨[], .ok (UInt8.ofNat (port / 256), UInt8.ofNat (port % 256))⟩
    | c => ⟨[], Val.default c⟩
  limit := 1000

/-- In this environment the given ports are taken. -/
theorem portsEnv_portsInUse (busy : List ℤ) : PortsInUse {p | p ∈ busy} (portsEnv busy) where
  socket _ := ⟨6, rfl⟩
  bind _ _ port _ := by
    by_cases h : port ∈ busy
    · simp [portsEnv, h]
    · simp [portsEnv, h]
  listen _ _ _ _ := rfl
  getsockport _ _ _ h _ _ := by simp only [portsEnv, h, Option.getD_some]

/-- The first port is taken, so it is the second. -/
theorem dopasv_port_second :
    let used := {p | p ∈ [(1024 : ℤ)]}
    let config := { loadDefaults with pasvPortStart := 1024, pasvPortEnd := 1025 }
    let run := dopasv config (portsEnv [1024]) (World.start (sessionWith (ofString "PASV") []))
    PasvDone config used (World.start (sessionWith (ofString "PASV") [])) run.2 ∧
      (run.1 = .ret .success ∨ run.1 = .halt .blocked) :=
  dopasv_port { loadDefaults with pasvPortStart := 1024, pasvPortEnd := 1025 } (portsEnv [1024])
    {p | p ∈ [(1024 : ℤ)]} (portsEnv_portsInUse [1024]) ⟨by decide, by decide, by decide⟩
    (World.start (sessionWith (ofString "PASV") [])) rfl (by decide)

end FtpServer
