import FtpServer.Library.Roster
import FtpServer.Proofs.Leaving

/-!
# What the master is told about its sessions

What the master is told about its sessions comes on three ways: `fork` says that there is a new one,
`waitpid` that one has ended, and the pipe what they have sent. `seenOf` puts this in order, as far
as the calls of the master show it.

* `Begins` are the states in which a round of the main loop begins; what each round keeps holds in
  all of them.
* `Seen` is what the calls show so far: the events of the roster, the message that is being read,
  and the connection that was accepted last.
* `represents_seenOf` says that the list is the roster of these events, as long as a new child has
  none of the process ids of the others.
* `Registered` is the invariant between two calls: the list is the roster of what was seen, and no
  message is being read.
-/

namespace FtpServer

open CString Effect Effect.Proc Roster

/-! ### The rounds of the main loop -/

/-- The body of the main loop. -/
def daemonRound (config : FtpConfig) (serverSock : ℤ) (pipefds : ℤ × ℤ) :
    Program (Unit ⊕ FtpRet) := do
  if (← daemonHandleSignal) ≠ .success then
    return .inr .success
  match ← checked (sys (.pollBoth serverSock pipefds.1)) with
  | some none => return .inl ()
  | none =>
    if ← errnoIs .eintr then return .inl ()
    else return .inr .success
  | some (some (sockReady, pipeReady)) =>
    match ← serveReady config serverSock pipefds sockReady pipeReady with
    | some ret => return .inr ret
    | none => return .inl ()

theorem daemonLoop_eq (config : FtpConfig) (serverSock : ℤ) (pipefds : ℤ × ℤ) :
    daemonLoop config serverSock pipefds =
      Proc.loop (fun _ ↦ daemonRound config serverSock pipefds) () := rfl

/-- The states in which a round of the main loop begins. -/
inductive Begins (config : FtpConfig) (serverSock : ℤ) (pipefds : ℤ × ℤ) (e : Env) (w₀ : World) :
    World → Prop
  | start : Begins config serverSock pipefds e w₀ w₀
  | round {w w' : World} (h : Begins config serverSock pipefds e w₀ w)
      (hround : daemonRound config serverSock pipefds e w = (.ret (.inl ()), w')) :
      Begins config serverSock pipefds e w₀ w'

/-- The main loop goes through these states. -/
theorem daemonLoop_begins {config : FtpConfig} {serverSock : ℤ} {pipefds : ℤ × ℤ} {e : Env}
    {w₀ : World} :
    wp e (daemonLoop config serverSock pipefds)
      (fun ret w' ↦ ∃ w, Begins config serverSock pipefds e w₀ w ∧
        daemonRound config serverSock pipefds e w = (.ret (.inr ret), w'))
      (fun k w' ↦ ∃ w, Begins config serverSock pipefds e w₀ w ∧
        (daemonRound config serverSock pipefds e w = (.halt k, w') ∨ k = .blocked ∧ w' = w))
          w₀ := by
  rw [daemonLoop_eq]
  refine wp_loop (fun _ ↦ Begins config serverSock pipefds e w₀) (fun _ w hw ↦ ?_)
    (fun _ w hw ↦ ⟨w, hw, .inr ⟨rfl, rfl⟩⟩) .start
  simp only [Proc.wp]
  rcases hround : daemonRound config serverSock pipefds e w with ⟨(⟨⟩ | ret) | k, w'⟩
  · exact hw.round hround
  · exact ⟨w, hw, hround⟩
  · exact ⟨w, hw, .inl hround⟩

/-! ### What the master has seen -/

/-- The messages as they go through the pipe. -/
def streamOf (msgs : List (Int32 × Message)) : Bytes := msgs.flatMap fun x ↦ x.2.bytes x.1

/-- What has happened to the roster of the sessions. -/
structure Seen where
  /-- The address of the last connection. -/
  addr : InAddr
  events : List (Event Int32 FtpChild Message)
  /-- How much was read of a message that was not read whole. -/
  read : ℕ
  /-- The messages that were not read whole. -/
  rest : List (Int32 × Message)

/-- The address of a connection that is accepted. -/
def accepted? : Item kernel → Option InAddr
  | .call (.accept _) r =>
    match r.val with
    | .ok (_, addr) => some addr
    | .error _ => none
  | _ => none

/-- A session that was forked for a connection from this address, or one that has ended. -/
def membership? (addr : InAddr) : Item kernel → Option (Event Int32 FtpChild Message)
  | .call .fork r =>
    match r.val with
    | .ok (.parent pid) => some (.joined pid (newChild pid addr))
    | _ => none
  | .call .waitpid r => some (.left r.val)
  | _ => none

def Seen.enroll (seen : Seen) (x : Item kernel) : Seen :=
  { seen with
    addr := (accepted? x).getD seen.addr
    events := seen.events ++ (membership? seen.addr x).toList }

/-- The messages after so many bytes were read. -/
def Seen.advance (n : ℕ) (seen : Seen) : Seen :=
  match seen.rest with
  | [] => seen
  | (pid, m) :: rest =>
    if (m.bytes pid).length ≤ seen.read + n then
      { seen with events := seen.events ++ [.sent pid m], read := 0, rest }
    else { seen with read := seen.read + n }

def Seen.step (fd : ℤ) (seen : Seen) (x : Item kernel) : Seen :=
  (seen.enroll x).advance (readLength fd x)

/-- What the master has seen, if these messages are written to the pipe. -/
def seenOf (fd : ℤ) (msgs : List (Int32 × Message)) (trace : List (Item kernel)) : Seen :=
  trace.foldl (Seen.step fd) ⟨⟨0, 0, 0, 0⟩, [], 0, msgs⟩

theorem seenOf_concat (fd : ℤ) (msgs : List (Int32 × Message)) (trace : List (Item kernel))
    (x : Item kernel) : seenOf fd msgs (trace ++ [x]) = (seenOf fd msgs trace).step fd x := by
  rw [seenOf, List.foldl_append]
  rfl

theorem length_bytes_pos (pid : Int32) (m : Message) : 0 < (m.bytes pid).length := by
  rw [Message.bytes, List.length_append, length_image]
  exact Nat.add_pos_left (by decide) _

theorem sent?_membership (addr : InAddr) (x : Item kernel) :
    (membership? addr x).toList.filterMap Event.sent? = [] := by
  rcases x with ⟨c, r⟩ | n
  · cases c with
    | fork => rcases r with ⟨async, err | pid | self⟩ <;> rfl
    | _ => rfl
  · rfl

/-- **No message is lost, and none is read twice.** -/
theorem sent_append_rest (fd : ℤ) (msgs : List (Int32 × Message)) (trace : List (Item kernel)) :
    (seenOf fd msgs trace).events.filterMap Event.sent? ++ (seenOf fd msgs trace).rest = msgs := by
  induction trace using List.reverseRecOn with
  | nil => rfl
  | append_singleton trace x ih =>
    have henrolled : ((seenOf fd msgs trace).enroll x).events.filterMap Event.sent? ++
        ((seenOf fd msgs trace).enroll x).rest = msgs := by
      rw [Seen.enroll, List.filterMap_append, sent?_membership, List.append_nil]
      exact ih
    rw [seenOf_concat, Seen.step, Seen.advance]
    split
    · exact henrolled
    · next hrest =>
      rw [hrest] at henrolled
      split_ifs
      · simpa [Event.sent?] using henrolled
      · simpa [hrest] using henrolled

theorem pid_applyTo (m : Message) (child : FtpChild) : (m.applyTo child).pid = child.pid := by
  rw [Message.applyTo]
  split <;> rfl

theorem pidsOf_advance (seen : Seen) (n : ℕ) :
    pidsOf (replayList FtpChild.pid Message.applyTo (seen.advance n).events) =
      pidsOf (replayList FtpChild.pid Message.applyTo seen.events) := by
  rw [Seen.advance]
  split
  · rfl
  · split_ifs
    · rw [replayList_append]
      exact map_key_change (pid_applyTo _) _ _
    · rfl

/-- Those whose last event is not that they left are the children that were not waited for. -/
theorem pidsOf_replayList (fd : ℤ) (msgs : List (Int32 × Message)) (trace : List (Item kernel)) :
    pidsOf (replayList FtpChild.pid Message.applyTo (seenOf fd msgs trace).events) =
      unreaped trace := by
  induction trace using List.reverseRecOn with
  | nil => rfl
  | append_singleton trace x ih =>
    rw [seenOf_concat, unreaped_concat, ← ih, Seen.step, pidsOf_advance]
    generalize seenOf fd msgs trace = seen
    rw [Seen.enroll, replayList_append]
    rcases x with ⟨c, r⟩ | n
    · cases c with
      | fork =>
        rcases r with ⟨async, err | pid | self⟩
        · rfl
        · exact List.map_append
        · rfl
      | waitpid => exact pidsOf_eraseP _ _
      | _ => rfl
    · rfl

section

variable {fd : ℤ} {msgs : List (Int32 × Message)} {trace : List (Item kernel)}

theorem Represents.advance {seen : Seen} (n : ℕ)
    (h : Represents FtpChild.pid (replayList FtpChild.pid Message.applyTo seen.events)
      (replay Message.applyTo seen.events)) :
    Represents FtpChild.pid (replayList FtpChild.pid Message.applyTo (seen.advance n).events)
      (replay Message.applyTo (seen.advance n).events) := by
  rw [Seen.advance]
  split
  · exact h
  · split_ifs
    · rw [replayList_append, replay_append]
      exact h.sent (pid_applyTo _) _
    · exact h

/-- As long as a new child has none of the process ids of the others, the list is the roster. -/
theorem represents_seenOf (hfresh : AtEach FreshFork trace) :
    Represents FtpChild.pid (replayList FtpChild.pid Message.applyTo (seenOf fd msgs trace).events)
      (replay Message.applyTo (seenOf fd msgs trace).events) := by
  induction trace using List.reverseRecOn with
  | nil => exact represents_nil
  | append_singleton trace x ih =>
    obtain ⟨hfresh, hx⟩ := atEach_concat.1 hfresh
    have hpids := pidsOf_replayList fd msgs trace
    have hseen := ih hfresh
    rw [seenOf_concat, Seen.step]
    refine Represents.advance _ ?_
    generalize seenOf fd msgs trace = seen at hpids hseen
    rw [Seen.enroll, replayList_append, replay_append]
    rcases x with ⟨c, r⟩ | n
    · cases c with
      | fork =>
        rcases r with ⟨async, err | pid | self⟩
        · exact hseen
        · have hnew : pid ∉ unreaped trace := hx
          refine hseen.joined Message.applyTo (v := newChild pid seen.addr) ?_
          rw [Option.eq_none_iff_forall_ne_some]
          intro child hchild
          obtain ⟨hmem, rfl⟩ := (hseen.eq_some_iff _ _).1 hchild
          exact hnew (hpids ▸ List.mem_map_of_mem hmem)
        · exact hseen
      | waitpid => exact hseen.left Message.applyTo _
      | _ => exact hseen
    · exact hseen

end

/-! ### Between two calls -/

/-- The list has what the master has seen, up to the end of a message, and the last connection came
from this address. -/
structure Registered (fd : ℤ) (msgs rest : List (Int32 × Message)) (addr : InAddr) (w : World) :
    Prop where
  clients : w.st.clients =
    replayList FtpChild.pid Message.applyTo (seenOf fd msgs w.trace).events
  sized : ∀ child ∈ w.st.clients, Sized child
  addr : (seenOf fd msgs w.trace).addr = addr
  read : (seenOf fd msgs w.trace).read = 0
  later : (seenOf fd msgs w.trace).rest = rest
  unread : unread fd (streamOf msgs) w.trace = streamOf rest

section

variable {config : FtpConfig} {fd : ℤ} {msgs rest : List (Int32 × Message)} {addr : InAddr}
  {e : Env} {w w' : World}

theorem Seen.advance_zero {seen : Seen} (h : seen.read = 0) : seen.advance 0 = seen := by
  rw [Seen.advance]
  split
  · rfl
  · next pid m rest _ =>
    have hpos := length_bytes_pos pid m
    rw [if_neg (by omega), Nat.add_zero]

theorem Registered.step (h : Registered fd msgs rest addr w) {x : Item kernel}
    (htrace : w'.trace = w.trace ++ [x])
    (hclients : w'.st.clients = ((membership? addr x).toList.foldl
      (Event.applyList FtpChild.pid Message.applyTo) w.st.clients))
    (hread : readLength fd x = 0) (hsized : ∀ child ∈ w'.st.clients, Sized child) :
    Registered fd msgs rest ((accepted? x).getD addr) w' := by
  have hseen : seenOf fd msgs w'.trace = (seenOf fd msgs w.trace).enroll x := by
    rw [htrace, seenOf_concat, Seen.step, hread]
    exact Seen.advance_zero h.read
  refine ⟨?_, hsized, ?_, ?_, ?_, ?_⟩
  · rw [hseen, Seen.enroll, replayList_append, ← h.clients, h.addr, hclients]
  · rw [hseen, ← h.addr]
    rfl
  · rw [hseen]
    exact h.read
  · rw [hseen]
    exact h.later
  · rw [htrace, unread_concat, hread, List.drop_zero]
    exact h.unread

/-- A call that is about something else. -/
theorem Registered.call (h : Registered fd msgs rest addr w) {x : Item kernel}
    (htrace : w'.trace = w.trace ++ [x]) (hclients : w'.st.clients = w.st.clients)
    (hmember : membership? addr x = none) (haccept : accepted? x = none)
    (hread : readLength fd x = 0) : Registered fd msgs rest addr w' := by
  have hstep := h.step htrace (by rw [hmember]; exact hclients) hread (hclients ▸ h.sized)
  rwa [haccept] at hstep

theorem registered_calls (fd : ℤ) (msgs rest : List (Int32 × Message)) (addr : InAddr) :
    CallLogic (fun t ↦ t ≠ .data ∧ t ≠ .descriptor ∧ t ≠ .master) (Registered fd msgs rest addr)
      fun _ ↦ Registered fd msgs rest addr :=
  .of_observe (guard_inv _) (by decide) (by decide)
    (fun c hc ↦ within_sys (guard_inv _) fun w r hw ↦ by
      refine hw.call rfl rfl ?_ ?_ (readLength_of_topic hc.1 r)
      · cases c with
        | fork | waitpid => exact absurd rfl hc.2.2
        | _ => rfl
      · cases c with
        | accept => exact absurd rfl hc.2.1
        | _ => rfl)
    (fun _ ↦ within_setErrno fun _ hw ↦
      ⟨hw.clients, hw.sized, hw.addr, hw.read, hw.later, hw.unread⟩)
    fun _ _ ↦ within_mark fun _ hw ↦ hw.call rfl rfl rfl rfl rfl

theorem registered_close (fd' : ℤ) :
    Within (Registered fd msgs rest addr) (fun _ ↦ Registered fd msgs rest addr)
      (checked (sys (.close fd'))) :=
  (registered_calls fd msgs rest addr).checked
    (within_sys (guard_inv _) fun _ _ hw ↦ hw.call rfl rfl rfl rfl rfl)

/-- The first part of a program is none that tells the master anything. -/
theorem Registered.bind {α β : Type} {m : Program α} {f : α → Program β}
    {Q : β → World → Prop} (hw : Registered fd msgs rest addr w)
    (hm : Within (Registered fd msgs rest addr) (fun _ ↦ Registered fd msgs rest addr) m)
    (hrest : ∀ a w', Registered fd msgs rest addr w' → wp e (f a) Q (fun _ _ ↦ True) w') :
    wp e (m >>= f) Q (fun _ _ ↦ True) w :=
  (wp_bind _ _).2 (wp_mono (hm.wp hw) hrest fun _ _ _ ↦ trivial)

end

end FtpServer
