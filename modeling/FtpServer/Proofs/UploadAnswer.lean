import FtpServer.Proofs.DataCommands
import FtpServer.Proofs.Replies
import FtpServer.Proofs.Store

/-!
# What 226 says of an upload

`STOR` has several replies, and only the last of them is positive, after `store_file` has returned
`FTP_SUCCESS`. All others that it may send before that, or instead of it, begin with another digit
than 2. So where the client was told that the transfer was successful, everything was received up to
the end of the stream, unless a `write` took less than it was given (`dostor_ends`).

* `Positive` is a reply that says that something was completed, and `Unanswered` a client that has
  read none.
* `StreamEnded` is what is known when `store_file` has succeeded; what comes between that and the
  reply is not about the data (`KeepsEnd`).
-/

namespace FtpServer

open CString Effect Effect.Proc

/-- The reply at the end of a transfer that was successful. -/
def transferDone : Bytes := ofString "226 File transfer successful\r\n"

/-- A reply that says that something was completed. -/
def Positive (msg : Bytes) : Prop := msg.head? = some 50

instance : DecidablePred Positive := fun _ ↦ inferInstanceAs (Decidable (_ = _))

/-- The client was not told that something was completed. -/
def Unanswered (w : World) : Prop := ∀ msg ∈ repliesOf w.trace, ¬Positive msg

/-- An entry that does not tell it. -/
def Reserved (x : Item kernel) : Prop := ∀ msg, reply? x = some msg → ¬Positive msg

def KeepsUnanswered (w w' : World) : Prop := Extends Reserved w w'

theorem keepsUnanswered_guard : Guard (fun _ ↦ True) KeepsUnanswered where
  refl w _ := .refl w
  trans _ h₁ h₂ := h₁.trans h₂
  keep _ _ := trivial

/-- What says nothing positive leaves the client without an answer. -/
theorem unanswered_keeps : Keeps (fun _ ↦ True) KeepsUnanswered Unanswered fun _ ↦ True where
  assume _ _ := trivial
  keepInv w w' h hk := by
    obtain ⟨suffix, ht, hs⟩ := hk
    intro msg hmsg
    rw [ht, repliesOf, List.filterMap_append, List.mem_append] at hmsg
    rcases hmsg with hmsg | hmsg
    · exact h msg hmsg
    · obtain ⟨x, hx, hxmsg⟩ := List.mem_filterMap.1 hmsg
      exact hs x hx msg hxmsg
  mid _ _ := trivial

theorem keepsUnanswered_modify (f : Process → Process) :
    Within (fun _ ↦ True) KeepsUnanswered (Proc.modify f) :=
  within_modify fun _ _ ↦ .of_eq rfl

theorem keepsUnanswered_mark {n : Note} (hn : Reserved (.note n)) :
    Within (fun _ ↦ True) KeepsUnanswered (mark n) :=
  within_mark fun _ _ ↦ .concat rfl hn

/-- Only `reply` tells the client anything. -/
theorem keepsUnanswered_steps : StepLogic (· ≠ .reply) (fun _ ↦ True) KeepsUnanswered where
  toCallLogic := .of_observe keepsUnanswered_guard (by decide) (fun h ↦ absurd rfl h)
    (fun _ _ ↦ within_sys keepsUnanswered_guard fun _ _ _ ↦ .concat rfl fun _ h ↦ by cases h)
    (fun _ ↦ within_setErrno fun _ _ ↦ .of_eq rfl)
    fun o ho ↦ keepsUnanswered_mark fun msg h ↦ by
      cases o
      case reply => exact absurd rfl ho
      all_goals cases h
  statePool _ _ := keepsUnanswered_modify _
  modifySession _ _ := keepsUnanswered_modify _
  undefined _ _ o ho := keepsUnanswered_mark fun msg h ↦ by
    cases o
    case reply => exact absurd ho id
    all_goals cases h

theorem keepsUnanswered_handleSignal (waiter : Waiter) :
    Within (fun _ ↦ True) KeepsUnanswered (serverHandleSignal waiter) :=
  keepsUnanswered_steps.serverHandleSignal waiter (fun _ ↦ keepsUnanswered_modify _)
    (keepsUnanswered_mark fun _ h ↦ by cases h)

/-- A reply that is no 2xx is no promise. -/
theorem keepsUnanswered_reply (sock : ℤ) {msg : Bytes} (hmsg : ¬Positive msg) :
    Within (fun _ ↦ True) KeepsUnanswered (reply sock msg) := by
  have L := keepsUnanswered_steps
  refine L.bind (keepsUnanswered_mark fun msg' h ↦ ?_) fun _ ↦ L.sendall (by decide) _ _
  obtain rfl : msg = msg' := Option.some.inj h
  exact hmsg

theorem keepsUnanswered_replyMsg {msg : String} (hmsg : ¬Positive (ofString msg)) :
    Within (fun _ ↦ True) KeepsUnanswered (replyMsg msg) := by
  have L := keepsUnanswered_steps
  exact L.bind L.getSession fun _ ↦ L.bind (keepsUnanswered_reply _ hmsg) fun _ ↦ L.pure _

/-- A formatted reply is cut at its end only. -/
theorem keepsUnanswered_replyFormat {text : Bytes} (htext : ¬Positive text) :
    Within (fun _ ↦ True) KeepsUnanswered (replyFormat text) := by
  have L := keepsUnanswered_steps
  have hcut : ¬Positive (text.take (responseBufferSize - 1)) := by
    rwa [Positive, List.head?_take, if_neg (by decide)]
  refine L.bind L.get fun s ↦ ?_
  split_ifs
  · refine L.bind (keepsUnanswered_mark fun _ h ↦ by cases h) fun _ ↦ L.bind L.getSession fun _ ↦ ?_
    exact L.bind (keepsUnanswered_reply _ hcut) fun _ ↦ L.pure _
  · exact L.fault

/-- An error is one. -/
theorem keepsUnanswered_failedVfsReply :
    Within (fun _ ↦ True) KeepsUnanswered failedVfsReply := by
  refine keepsUnanswered_steps.failedVfsReply_of (fun err _ ↦ keepsUnanswered_replyFormat ?_)
    (keepsUnanswered_replyMsg (by decide))
  have hcode : (ofString "550 ").head? = some 53 := by decide
  rw [List.append_assoc, Positive, List.head?_append, hcode]
  exact fun h ↦ absurd (Option.some.inj h) (by decide)

variable {config : FtpConfig} {e : Env} {w : World}

/-- A client that reads 226 has sent everything, unless a `write` took less. -/
def ToldTheEnd (w : World) : Prop :=
  transferDone ∈ repliesOf w.trace → Whole w.trace → EndOfStream w.trace

/-- Who has not been told anything has not been told that the transfer is over. -/
theorem Unanswered.toldTheEnd (h : Unanswered w) : ToldTheEnd w :=
  fun hmem ↦ absurd (by decide) (h _ hmem)

/-- The stream has ended, unless a `write` took less. -/
def StreamEnded (w : World) : Prop := Whole w.trace → EndOfStream w.trace

/-- An entry that is not about the data. -/
structure Aside (x : Item kernel) : Prop extends Neutral x where
  read : readAnswer? x = none

def KeepsEnd (w w' : World) : Prop := Extends Aside w w'

theorem keepsEnd_guard : Guard (fun _ ↦ True) KeepsEnd where
  refl w _ := .refl w
  trans _ h₁ h₂ := h₁.trans h₂
  keep _ _ := trivial

/-- Outside the transfer nothing is read or written. -/
theorem keepsEnd_steps : StepLogic (· ≠ .data) (fun _ ↦ True) KeepsEnd where
  toCallLogic := .of_observe keepsEnd_guard (by decide) (by decide)
    (fun c hc ↦ within_sys keepsEnd_guard fun _ r _ ↦ .concat rfl
      ⟨neutral_call hc r, by cases c <;> first | rfl | exact absurd rfl hc⟩)
    (fun _ ↦ within_setErrno fun _ _ ↦ .of_eq rfl)
    fun _ _ ↦ within_mark fun _ _ ↦ .concat rfl ⟨neutral_note _, rfl⟩
  statePool _ _ := within_modify fun _ _ ↦ .of_eq rfl
  modifySession _ _ := within_modify fun _ _ ↦ .of_eq rfl
  undefined _ _ _ _ := within_mark fun _ _ ↦ .concat rfl ⟨neutral_note _, rfl⟩

/-- So what was true of the data when the loop ended stays true. -/
theorem streamEnded_keeps : Keeps (fun _ ↦ True) KeepsEnd StreamEnded fun _ ↦ True where
  assume _ _ := trivial
  keepInv w w' h hk := by
    have hreads : w'.trace.filterMap readAnswer? = w.trace.filterMap readAnswer? :=
      hk.filterMap fun _ hx ↦ hx.read
    obtain ⟨suffix, ht, hs⟩ := hk
    intro hall
    rw [ht, whole_neutral fun x hx ↦ (hs x hx).toNeutral] at hall
    rw [EndOfStream, hreads]
    exact h hall
  mid _ _ := trivial

/-- The data phase: the reply behind it is positive only if `store_file` was successful. -/
theorem storData_toldTheEnd (hw : Unanswered w) (fd dataFd : ℤ) :
    wp e (storData config ⟨fd, .file⟩ ⟨dataFd, .socket⟩) (fun _ ↦ ToldTheEnd)
      (fun _ _ ↦ True) w := by
  have L := keepsUnanswered_steps
  have E := keepsEnd_steps
  have hannounce : Within (fun _ ↦ True) KeepsUnanswered announceTransfer :=
    L.bind (keepsUnanswered_replyMsg (by decide)) fun _ ↦
      L.bind (L.modifyInfo _ (by decide)) fun _ ↦
      L.bind (L.sendState (by decide) _) fun _ ↦ L.pure _
  refine unanswered_keeps.bind hannounce hw fun _ w₁ hw₁ ↦ ?_
  rw [wp_bind, wp_getSession]
  refine unanswered_keeps.bind (keepsUnanswered_mark fun _ h ↦ by cases h) hw₁ fun _ w₂ hw₂ ↦ ?_
  have hstore : Within (fun _ ↦ True) KeepsUnanswered
      (storeFile config ⟨fd, .file⟩ ⟨dataFd, .socket⟩) :=
    L.storeFile (by decide) (keepsUnanswered_handleSignal _) (L.sendState (by decide) _) _ _
      (by decide)
  refine (wp_bind _ _).2 (wp_mono (wp_and (unanswered_keeps.wp hstore hw₂ fun _ _ h ↦ h)
    (storeFile_ends fd dataFd)) ?_ fun _ _ _ ↦ trivial)
  rintro ret w₃ ⟨hw₃, hends⟩
  by_cases hret : ret = .success
  · -- whatever the client is told now is true
    refine streamEnded_keeps.wp ?_ (hends hret) fun _ _ h _ ↦ h
    exact E.bind (E.transferReply (by decide) _) fun _ ↦ E.bind (E.modifyInfo _ (by decide)) fun _ ↦
      E.bind (E.sendState (by decide) _) fun _ ↦ E.bind (E.vfsClose (by decide) _) fun _ ↦
      E.bind (E.close (by decide) _) fun _ ↦ E.bind E.getSession fun _ ↦
      E.bind (E.observe _ (by simp [Observation.topic]) (by simp [Observation.topic])) fun _ ↦
        E.pure _
  · have hother : Within (fun _ ↦ True) KeepsUnanswered (transferReply ret) := by
      cases ret
      case success => exact absurd rfl hret
      all_goals exact keepsUnanswered_replyMsg (by decide)
    refine unanswered_keeps.wp ?_ hw₃ fun _ _ h ↦ h.toldTheEnd
    exact L.bind hother fun _ ↦ L.bind (L.modifyInfo _ (by decide)) fun _ ↦
      L.bind (L.sendState (by decide) _) fun _ ↦ L.bind (L.vfsClose (by decide) _) fun _ ↦
      L.bind (L.close (by decide) _) fun _ ↦ L.bind L.getSession fun _ ↦
      L.bind (keepsUnanswered_mark fun _ h ↦ by cases h) fun _ ↦ L.pure _

/-- **A client that reads 226 after its `STOR` has sent everything**, as long as every `write` took
all it was given. -/
theorem dostor_ends (hw : Unanswered w) :
    wp e (dostor config) (fun _ ↦ ToldTheEnd) (fun _ _ ↦ True) w := by
  have L := keepsUnanswered_steps
  have K := unanswered_keeps
  refine L.dostor_wp K (fun _ ↦ Unanswered) (fun _ _ ↦ Unanswered) (fun msg hmsg w h ↦ ?_)
    (fun w h ↦ ?_) (fun w h path _ ↦ ?_) (fun fd w h ↦ ?_) (fun fd w h ↦ ?_) (fun fd w h ↦ ?_)
    (fun fd dataFd w h ↦ storData_toldTheEnd h fd dataFd) hw (by decide)
  · have hrefusal : ∀ msg ∈ fileRefusals, ¬Positive (ofString msg) := by decide
    exact K.wp (L.bind (keepsUnanswered_replyMsg (hrefusal msg hmsg)) fun _ ↦ L.pure _) h
      fun _ _ h ↦ h.toldTheEnd
  · exact K.wp (L.bind keepsUnanswered_failedVfsReply fun _ ↦ L.pure _) h
      fun _ _ h ↦ h.toldTheEnd
  · refine K.wp (L.vfsCall (fun _ ↦ keepsUnanswered_modify _)
      (fun _ ↦ L.sys _ (by simp [Call.topic])) _ _) h fun r _ h ↦ ?_
    cases r <;> exact h
  · exact K.wp (L.acceptDataConn_of (keepsUnanswered_replyMsg (by decide))
      (fun _ ↦ L.sys _ (by simp [Call.topic])) (keepsUnanswered_handleSignal _)) h fun _ _ h ↦ h
  · exact K.wp (L.bind (L.vfsClose (by decide) _) fun _ ↦ L.pure _) h fun _ _ h ↦ h.toldTheEnd
  · exact K.wp (L.bind (L.vfsClose (by decide) _) fun _ ↦ L.pure _) h fun _ _ h ↦ h.toldTheEnd

end FtpServer
