import FtpServer.Proofs.DataCommands
import FtpServer.Proofs.Jail
import FtpServer.Proofs.Products

/-!
# What a client reads

A client reads the replies to a command as one completion reply, which may have several lines,
behind at most one preliminary reply. What it has read since its command is an `Exchange`, a fold
over the replies and the notes of the trace; it is `Answered` if that is all there is to be read.

The proof that every command is answered follows the exchange through a command, and this module has
what all commands share:

* `Talking` holds in the middle of a command, `Completed` behind its completion reply;
* `Replied` is what a handler may end with, by its result, and `AnsweredSoFar` what holds at every
  point;
* actions that reply nothing leave the exchange alone (`KeepsSilence`), and `Talking.noted` and the
  lemmas behind it are about those that reply.
-/

namespace FtpServer

open CString Effect Effect.Proc PathText

/-! ### Replies, as a client reads them -/

/-- What a client has read since its command: the code of a reply of several lines that goes on, and
the first digits of the replies that are over. Besides, whether an `opendir` failed since then. -/
structure Exchange where
  pending : Option Bytes
  digits : List UInt8
  refused : Bool
  deriving DecidableEq, Repr

namespace Exchange

/-- Nothing was read. -/
def start : Exchange := ⟨none, [], false⟩

/-- A preliminary reply was read. -/
def begun : Exchange := ⟨none, [49], false⟩

/-- The client reads a line. -/
def read (s : Exchange) (msg : Bytes) : Exchange :=
  match s.pending with
  | some code =>
    if msg.take 4 = code ++ [space] then
      { s with pending := none, digits := s.digits ++ code.take 1 }
    else s
  | none =>
    if (msg.drop 3).head? = some minus then { s with pending := some (msg.take 3) }
    else { s with digits := s.digits ++ msg.take 1 }

def step (s : Exchange) : Item kernel → Exchange
  | .note (.dispatch _ _) => start
  | .note (.observe (.reply msg)) => s.read msg
  | .call (.path .opendir _) r =>
    match r.val with
    | .ok _ => s
    | .error _ => { s with refused := true }
  | _ => s

/-- The first digits of completion replies. -/
def completions : List UInt8 := [50, 51, 52, 53]

/-- There was one completion reply, behind at most one preliminary reply. -/
def Answered (s : Exchange) : Prop :=
  s.pending = none ∧ ∃ d ∈ completions, s.digits = [d] ∨ s.digits = [49, d]

instance : DecidablePred Answered := fun _ ↦ inferInstanceAs (Decidable (_ ∧ _))

/-- The answer may be completed with one reply. -/
def Ready (s : Exchange) : Prop :=
  s.pending = none ∧ s.refused = false ∧ (s.digits = [] ∨ s.digits = [49])

instance : DecidablePred Ready := fun _ ↦ inferInstanceAs (Decidable (_ ∧ _))

end Exchange

/-- The exchange since the last command. -/
def exchange (trace : List (Item kernel)) : Exchange := trace.foldl Exchange.step .start

/-- A command that succeeds was answered. -/
def AnsweredOnce (before : List (Item kernel)) : Item kernel → Prop
  | .note (.finished .success) => (exchange before).Answered
  | _ => True

instance (before : List (Item kernel)) (x : Item kernel) : Decidable (AnsweredOnce before x) := by
  unfold AnsweredOnce
  split <;> infer_instance

/-- A command that succeeds was answered, unless an `opendir` failed. -/
def SuccessAnswered (before : List (Item kernel)) : Item kernel → Prop
  | .note (.finished .success) => (exchange before).Answered ↔ (exchange before).refused = false
  | _ => True

instance (before : List (Item kernel)) (x : Item kernel) :
    Decidable (SuccessAnswered before x) := by
  unfold SuccessAnswered
  split <;> infer_instance

/-- The text is a completion reply of one line. -/
def Final (msg : Bytes) : Prop :=
  (∃ d ∈ Exchange.completions, msg.head? = some d) ∧ (msg.drop 3).head? ≠ some minus

instance : DecidablePred Final := fun _ ↦ inferInstanceAs (Decidable (_ ∧ _))

theorem final_take {msg : Bytes} {n : ℕ} (hn : 4 ≤ n) : Final (msg.take n) ↔ Final msg := by
  have hhead : (msg.take n).head? = msg.head? := by simp [List.head?_take, show n ≠ 0 by omega]
  have hdrop : ((msg.take n).drop 3).head? = (msg.drop 3).head? := by
    simp [List.drop_take, List.head?_take, show n - 3 ≠ 0 by omega]
  rw [Final, Final, hhead, hdrop]

theorem final_append {pre : Bytes} (h : Final pre) (hlen : 4 ≤ pre.length) (rest : Bytes) :
    Final (pre ++ rest) := by
  rw [← final_take hlen, List.take_left' rfl]
  exact h

/-- A completion reply was read. -/
def Exchange.complete (s : Exchange) (d : UInt8) : Exchange := { s with digits := s.digits ++ [d] }

theorem Exchange.read_final {s : Exchange} (hs : s.pending = none) {msg : Bytes}
    (hmsg : Final msg) : ∃ d ∈ completions, s.read msg = s.complete d := by
  obtain ⟨⟨d, hd, hhead⟩, hdash⟩ := hmsg
  obtain ⟨rest, rfl⟩ := List.head?_eq_some_iff.1 hhead
  refine ⟨d, hd, ?_⟩
  simp only [read, complete, hs, if_neg hdash, List.take_succ_cons, List.take_zero]

/-- A completion reply completes the answer. -/
theorem Exchange.Ready.answered {s : Exchange} (hs : s.Ready) {d : UInt8} (hd : d ∈ completions) :
    (s.complete d).Answered ↔ (s.complete d).refused = false := by
  obtain ⟨hpending, hrefused, hdigits⟩ := hs
  refine iff_of_true ⟨hpending, d, hd, hdigits.imp (fun h ↦ ?_) fun h ↦ ?_⟩ hrefused
  · rw [complete, h, List.nil_append]
  · rw [complete, h, List.singleton_append]

/-! ### The invariant -/

/-- An entry that the exchange does not depend on. -/
structure Silent (x : Item kernel) : Prop where
  step : ∀ s : Exchange, s.step x = s
  answered : ∀ before, SuccessAnswered before x

/-- In an exchange. -/
structure Talking (s : Exchange) (w : World) : Prop where
  jail : Jail w
  exchange : exchange w.trace = s
  answered : AtEach SuccessAnswered w.trace

/-- There was a completion reply after `s`. -/
def Completed (s : Exchange) (w : World) : Prop :=
  ∃ d ∈ Exchange.completions, Talking (s.complete d) w

/-- The answer is complete, unless an `opendir` failed. -/
def Closed (w : World) : Prop := ∃ s, Talking s w ∧ (s.Answered ↔ s.refused = false)

/-- What holds when a command ends. -/
def Replied (ret : FtpRet) (w : World) : Prop :=
  ∃ s, Talking s w ∧ (ret = .success → (s.Answered ↔ s.refused = false))

/-- What holds at every point of a run. -/
def AnsweredSoFar (w : World) : Prop := AtEach SuccessAnswered w.trace

theorem Closed.replied {w : World} (h : Closed w) (ret : FtpRet) : Replied ret w := by
  obtain ⟨s, hs, hanswered⟩ := h
  exact ⟨s, hs, fun _ ↦ hanswered⟩

theorem Talking.replied {s : Exchange} {w : World} (h : Talking s w) {ret : FtpRet}
    (hret : ret ≠ .success) : Replied ret w :=
  ⟨s, h, fun hsuccess ↦ absurd hsuccess hret⟩

/-! ### Actions that reply nothing -/

def KeepsSilence (w w' : World) : Prop := Extends Silent w w'

theorem keepsSilence_guard : Guard (fun _ ↦ True) KeepsSilence where
  refl w _ := .refl w
  trans _ h₁ h₂ := h₁.trans h₂
  keep _ _ := trivial

theorem keepsSilence_modify (f : Process → Process) :
    Within (fun _ ↦ True) KeepsSilence (Proc.modify f) :=
  within_modify fun _ _ ↦ .of_eq rfl

theorem keepsSilence_mark {n : Note} (hn : Silent (.note n : Item kernel)) :
    Within (fun _ ↦ True) KeepsSilence (mark n) :=
  within_mark fun _ _ ↦ .concat rfl hn

theorem keepsSilence_observe {o : Observation} (ho : o.topic ≠ .reply) :
    Within (fun _ ↦ True) KeepsSilence (observe o) := by
  refine keepsSilence_mark ?_
  cases o with
  | reply | expansion => exact absurd rfl ho
  | _ => exact ⟨fun _ ↦ rfl, fun _ ↦ trivial⟩

theorem keepsSilence_sys {c : Call} (hc : ∀ path, c ≠ .path .opendir path) :
    Within (fun _ ↦ True) KeepsSilence (sys c) := by
  refine within_sys keepsSilence_guard fun w r _ ↦ .concat rfl ⟨fun s ↦ ?_, fun _ ↦ trivial⟩
  rcases c with ⟨op, path⟩ | _ <;> try rfl
  cases op with
  | opendir => exact absurd rfl (hc path)
  | _ => rfl

/-- The topics of what replies nothing. -/
abbrev NoReply (t : Topic) : Prop := t ≠ .reply ∧ t ≠ .path

theorem keepsSilence_steps : StepLogic NoReply (fun _ ↦ True) KeepsSilence where
  toCallLogic := .of_observe keepsSilence_guard (by decide) (by decide)
    (fun _ hc ↦ keepsSilence_sys fun _ h ↦ absurd (h ▸ rfl) hc.2)
    (fun _ ↦ keepsSilence_modify _) fun _ ho ↦ keepsSilence_observe ho.1
  statePool _ _ := keepsSilence_modify _
  modifySession _ _ := keepsSilence_modify _
  undefined _ _ o ho := by
    refine keepsSilence_observe fun htopic ↦ ?_
    cases o <;> first | exact ho | cases htopic

theorem keepsSilence_handlers (config : FtpConfig) :
    TransferLogic NoReply (· ≠ .opendir) (fun _ ↦ True) config (fun _ ↦ True) KeepsSilence where
  toDirectoryLogic := .of_steps keepsSilence_steps (by decide)
    (fun op path hop ↦ keepsSilence_sys fun _ h ↦ by
      cases h
      simp at hop)
    (fun _ ↦ keepsSilence_modify _) (fun _ ↦ keepsSilence_modify _) (keepsSilence_modify _)
    (keepsSilence_steps.trimArgument fun _ ↦ keepsSilence_modify _)
    (keepsSilence_steps.listArgument fun _ ↦ keepsSilence_modify _)
  process := by decide
  name := by decide
  progress := by decide
  serverHandleSignal waiter _ := keepsSilence_steps.serverHandleSignal waiter
    (fun _ ↦ keepsSilence_modify _) (keepsSilence_mark ⟨fun _ ↦ rfl, fun _ ↦ trivial⟩)

theorem keepsSilence_login : LoginLogic NoReply (fun _ ↦ True) KeepsSilence where
  toStepLogic := keepsSilence_steps
  process := by decide
  rename _ _ := keepsSilence_modify _
  logIn := keepsSilence_modify _
  named _ := keepsSilence_mark ⟨fun _ ↦ rfl, fun _ ↦ trivial⟩
  loggedIn _ := keepsSilence_mark ⟨fun _ ↦ rfl, fun _ ↦ trivial⟩
  initVfsPool := keepsSilence_steps.initVfsPool fun _ _ _ _ _ _ ↦
    .concat rfl ⟨fun _ ↦ rfl, fun _ ↦ trivial⟩

/-! ### Both at once -/

/-- Actions that reply nothing keep the session below its root. -/
theorem silent_handlers (config : FtpConfig) :
    TransferLogic (fun t ↦ t ≠ .path ∧ NoReply t) (fun op ↦ True ∧ op ≠ .opendir)
      (fun _ ↦ True ∧ True) config (fun w ↦ Jail w ∧ True)
      fun w w' ↦ KeepsJail w w' ∧ KeepsSilence w w' :=
  (jail_handlers config).prod (keepsSilence_handlers config)

theorem silent_login :
    LoginLogic (fun t ↦ t ≠ .path ∧ NoReply t) (fun w ↦ Jail w ∧ True)
      fun w w' ↦ KeepsJail w w' ∧ KeepsSilence w w' :=
  jail_login.prod keepsSilence_login

section Keep

variable {s : Exchange} {w w' : World}

theorem Talking.keep (h : Talking s w) (hjail : Jail w') (hk : KeepsSilence w w') :
    Talking s w' := by
  refine ⟨hjail, ?_, hk.atEach (fun _ hx pre ↦ hx.answered pre) h.answered⟩
  rw [FtpServer.exchange, hk.foldl fun _ hx ↦ hx.step]
  exact h.exchange

theorem talking_keeps (s : Exchange) :
    Keeps (fun w ↦ Jail w ∧ True) (fun w w' ↦ KeepsJail w w' ∧ KeepsSilence w w') (Talking s)
      AnsweredSoFar where
  assume _ h := ⟨h.jail, trivial⟩
  keepInv _ _ h hk := h.keep hk.1 hk.2
  mid _ h := h.answered

theorem closed_keeps :
    Keeps (fun w ↦ Jail w ∧ True) (fun w w' ↦ KeepsJail w w' ∧ KeepsSilence w w') Closed
      AnsweredSoFar where
  assume _ := fun ⟨_, h, _⟩ ↦ ⟨h.jail, trivial⟩
  keepInv _ _ := fun ⟨s, h, hs⟩ hk ↦ ⟨s, h.keep hk.1 hk.2, hs⟩
  mid _ := fun ⟨_, h, _⟩ ↦ h.answered

end Keep

/-! ### Replying -/

variable {config : FtpConfig} {e : Env} {w : World} {s : Exchange}

/-- A note that ends no command takes the exchange one step further. -/
theorem Talking.noted (hw : Talking s w) {n : Note} (hroot : rooted? (.note n) = none)
    (hn : SuccessAnswered w.trace (.note n)) : Talking (s.step (.note n)) (noted w n) where
  jail := hw.jail.noted hroot
  exchange := by
    rw [noted_trace, FtpServer.exchange, List.foldl_concat]
    exact congrArg (fun s : Exchange ↦ s.step (.note n)) hw.exchange
  answered := atEach_concat.2 ⟨hw.answered, hn⟩

theorem reply_talking (hw : Talking s w) (sock : ℤ) (msg : Bytes) :
    wp e (reply sock msg) (fun _ ↦ Talking (s.read msg)) (fun _ ↦ AnsweredSoFar) w := by
  have hw₁ : Talking (s.read msg) (noted w (.observe (.reply msg))) :=
    hw.noted (n := .observe (.reply msg)) rfl trivial
  rw [reply, observe, wp_bind, wp_mark]
  have hsend := (silent_handlers loadDefaults).sendall (silent_handlers loadDefaults).send sock msg
  exact (talking_keeps _).wp hsend hw₁ fun _ _ h ↦ h

theorem replyMsg_talking (hw : Talking s w) (msg : String) :
    wp e (replyMsg msg) (fun _ ↦ Talking (s.read (ofString msg))) (fun _ ↦ AnsweredSoFar) w := by
  rw [replyMsg, wp_bind, wp_getSession, wp_bind]
  exact reply_talking hw _ _

theorem replyFormat_talking (hw : Talking s w) (text : Bytes) :
    wp e (replyFormat text) (fun _ ↦ Talking (s.read (text.take (responseBufferSize - 1))))
      (fun _ ↦ AnsweredSoFar) w := by
  rw [replyFormat, wp_bind, wp_get]
  by_cases hpool : w.st.replyPool = true
  · rw [if_pos hpool, observe, wp_bind, wp_mark, wp_bind, wp_getSession, wp_bind]
    exact reply_talking (hw.noted (n := .observe (.expansion text)) rfl trivial) _ _
  · rw [if_neg hpool]
    exact hw.answered

theorem Completed.closed (hw : Completed s w) (hs : s.Ready) : Closed w := by
  obtain ⟨d, hd, hw⟩ := hw
  exact ⟨_, hw, hs.answered hd⟩

theorem replyMsg_completed (hw : Talking s w) (hs : s.pending = none) {msg : String}
    (hmsg : Final (ofString msg)) :
    wp e (replyMsg msg) (fun _ ↦ Completed s) (fun _ ↦ AnsweredSoFar) w := by
  obtain ⟨d, hd, hread⟩ := s.read_final hs hmsg
  exact wp_mono (replyMsg_talking hw msg) (fun _ _ h ↦ ⟨d, hd, hread ▸ h⟩) fun _ _ h ↦ h

theorem replyFormat_completed (hw : Talking s w) (hs : s.pending = none) {text : Bytes}
    (htext : Final text) :
    wp e (replyFormat text) (fun _ ↦ Completed s) (fun _ ↦ AnsweredSoFar) w := by
  have hcut : Final (text.take (responseBufferSize - 1)) := (final_take (by decide)).2 htext
  obtain ⟨d, hd, hread⟩ := s.read_final hs hcut
  exact wp_mono (replyFormat_talking hw text) (fun _ _ h ↦ ⟨d, hd, hread ▸ h⟩) fun _ _ h ↦ h

theorem replyMsg_closed (hw : Talking s w) (hs : s.Ready) {msg : String}
    (hmsg : Final (ofString msg)) :
    wp e (replyMsg msg) (fun _ ↦ Closed) (fun _ ↦ AnsweredSoFar) w :=
  wp_mono (replyMsg_completed hw hs.1 hmsg) (fun _ _ h ↦ h.closed hs) fun _ _ h ↦ h

theorem replyFormat_closed (hw : Talking s w) (hs : s.Ready) {text : Bytes} (htext : Final text) :
    wp e (replyFormat text) (fun _ ↦ Closed) (fun _ ↦ AnsweredSoFar) w :=
  wp_mono (replyFormat_completed hw hs.1 htext) (fun _ _ h ↦ h.closed hs) fun _ _ h ↦ h

/-- A reply of several lines. -/
theorem replyMsg_replied (hw : Talking s w) (msg : String) (ret : FtpRet)
    (hs : (s.read (ofString msg)).Answered ↔ (s.read (ofString msg)).refused = false) :
    wp e (do replyMsg msg; return ret) Replied (fun _ ↦ AnsweredSoFar) w :=
  (wp_bind _ _).2 (wp_mono (replyMsg_talking hw msg) (fun _ _ h ↦ Closed.replied ⟨_, h, hs⟩ ret)
    fun _ _ h ↦ h)

/-- The body of many handlers: one completion reply. -/
theorem say_replied (hw : Talking s w) (hs : s.Ready) {msg : String} (hmsg : Final (ofString msg))
    (ret : FtpRet) : wp e (do replyMsg msg; return ret) Replied (fun _ ↦ AnsweredSoFar) w :=
  (wp_bind _ _).2 (wp_mono (replyMsg_closed hw hs hmsg) (fun _ _ h ↦ h.replied ret) fun _ _ h ↦ h)

theorem sayFormat_replied (hw : Talking s w) (hs : s.Ready) {text : Bytes} (htext : Final text)
    (ret : FtpRet) : wp e (do replyFormat text; return ret) Replied (fun _ ↦ AnsweredSoFar) w :=
  (wp_bind _ _).2 (wp_mono (replyFormat_closed hw hs htext) (fun _ _ h ↦ h.replied ret)
    fun _ _ h ↦ h)

/-- What follows a completion reply and replies nothing. -/
theorem Closed.finish (hw : Closed w) {m : Program FtpRet}
    (hm : Within (fun w ↦ Jail w ∧ True) (fun w w' ↦ KeepsJail w w' ∧ KeepsSilence w w') m) :
    wp e m Replied (fun _ ↦ AnsweredSoFar) w :=
  closed_keeps.wp hm hw fun ret _ h ↦ h.replied ret

/-- What `failed_vfs_reply` formats is a completion reply. -/
theorem final_failure (err : Errno) : Final (ofString "550 " ++ strerror err ++ [cr, lf]) := by
  rw [List.append_assoc]
  exact final_append (by decide) (by decide) _

theorem failedVfsReply_completed (hw : Talking s w) (hs : s.pending = none) :
    wp e failedVfsReply (fun _ ↦ Completed s) (fun _ ↦ AnsweredSoFar) w := by
  have hsay : wp e (do replyMsg "550 Server error\r\n"; return FtpRet.success)
      (fun _ ↦ Completed s) (fun _ ↦ AnsweredSoFar) w :=
    (wp_bind _ _).2 (replyMsg_completed hw hs (by decide))
  rw [failedVfsReply, wp_bind, wp_get]
  split
  · split_ifs
    · exact (wp_bind _ _).2 (replyFormat_completed hw hs (final_failure _))
    · exact hsay
  · exact hsay

theorem failedVfsReply_replied (hw : Talking s w) (hs : s.Ready) :
    wp e failedVfsReply Replied (fun _ ↦ AnsweredSoFar) w :=
  wp_mono (failedVfsReply_completed hw hs.1) (fun ret _ h ↦ (h.closed hs).replied ret) fun _ _ h ↦ h

theorem failedVfsReply_pure_replied (hw : Talking s w) (hs : s.Ready) (ret : FtpRet) :
    wp e (do let _ ← failedVfsReply; return ret) Replied (fun _ ↦ AnsweredSoFar) w :=
  (wp_bind _ _).2 (wp_mono (failedVfsReply_completed hw hs.1)
    (fun _ _ h ↦ (h.closed hs).replied ret) fun _ _ h ↦ h)

end FtpServer
