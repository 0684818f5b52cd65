import FtpServer.Proofs.Actions

/-!
# The replies of a command

The replies that a command sent, in order, as its trace shows them. Sending one changes nothing else
that the commands look at, so a program that returned has sent exactly the replies on its way.
-/

namespace FtpServer

open CString Effect Effect.Proc

/-- What `reply` was called with. -/
def reply? : Item kernel → Option Bytes
  | .note (.observe (.reply msg)) => some msg
  | _ => none

/-- The messages the client was sent. -/
def repliesOf (trace : List (Item kernel)) : List Bytes := trace.filterMap reply?

variable {e : Env} {w w' w'' : World} {H : Halt → World → Prop}

/-- These replies were sent, and the session and the pools are as they were. -/
structure Replies (msgs : List Bytes) (w w' : World) : Prop where
  session : w'.st.session = w.st.session
  vfsPool : w'.st.vfsPool = w.st.vfsPool
  replyPool : w'.st.replyPool = w.st.replyPool
  grown : ∃ run, w'.trace = w.trace ++ run ∧ repliesOf run = msgs

theorem Replies.refl (w : World) : Replies [] w w := ⟨rfl, rfl, rfl, [], by simp, rfl⟩

/-- What two actions reply one after the other is replied by both. -/
theorem Replies.trans {ms ms' : List Bytes} (h : Replies ms w w') (h' : Replies ms' w' w'') :
    Replies (ms ++ ms') w w'' := by
  obtain ⟨run, ht, hr⟩ := h.grown
  obtain ⟨run', ht', hr'⟩ := h'.grown
  refine ⟨h'.session.trans h.session, h'.vfsPool.trans h.vfsPool, h'.replyPool.trans h.replyPool,
    run ++ run', by rw [ht', ht, List.append_assoc], ?_⟩
  rw [repliesOf, List.filterMap_append, ← repliesOf, ← repliesOf, hr, hr']

theorem replies_guard : Guard (fun _ ↦ True) (Replies []) where
  refl w _ := .refl w
  trans _ h h' := h.trans h'
  keep _ _ := trivial

/-- A call is no reply. -/
theorem replies_answered (w : World) (c : Call) (r : Answer c) : Replies [] w (answered w c r) :=
  ⟨rfl, rfl, rfl, [.call c r], rfl, rfl⟩

/-- `errno` is not replied. -/
theorem replies_withErrno (w : World) (err : Errno) : Replies [] w (withErrno w err) :=
  ⟨rfl, rfl, rfl, [], by simp, rfl⟩

theorem replies_noted (w : World) {n : Note} (hn : reply? (.note n) = none) :
    Replies [] w (noted w n) :=
  ⟨rfl, rfl, rfl, [.note n], rfl, by simp [repliesOf, hn]⟩

/-- A call of the kernel is no reply. -/
theorem within_sys_replies (c : Call) : Within (fun _ ↦ True) (Replies []) (sys c) :=
  within_sys replies_guard fun w r _ ↦ replies_answered w c r

/-- Neither is the sending of one: the note in front of it counts. -/
theorem within_sendall_replies (sock : ℤ) (buf : Bytes) :
    Within (fun _ ↦ True) (Replies []) (sendall sock buf) :=
  within_sendall replies_guard (fun _ ↦ within_sys_replies _)
    (fun _ ↦ within_setErrno fun w _ ↦ replies_withErrno w _) buf

/-- A reply. Where it stops early, a call is not answered. -/
theorem reply_wp (sock : ℤ) (msg : Bytes) :
    wp e (reply sock msg) (fun _ ↦ Replies [msg] w)
      (fun k w' ↦ k = .blocked ∧ Replies [msg] w w') w := by
  have hnote : Replies [msg] w (noted w (.observe (.reply msg))) :=
    ⟨rfl, rfl, rfl, [.note (.observe (.reply msg))], rfl, rfl⟩
  rw [reply, observe, wp_bind, wp_mark]
  exact wp_mono ((within_sendall_replies sock msg).wp_faultless
    (faultless_sendall sock msg) trivial)
    (fun _ _ h ↦ hnote.trans h) fun _ _ h ↦ ⟨h.1, hnote.trans h.2⟩

/-- A fixed text is replied as it is. -/
theorem replyMsg_wp (msg : String) :
    wp e (replyMsg msg) (fun _ ↦ Replies [ofString msg] w)
      (fun k w' ↦ k = .blocked ∧ Replies [ofString msg] w w') w := by
  rw [replyMsg, wp_bind, wp_getSession, wp_bind]
  exact wp_mono (reply_wp _ _) (fun _ _ h ↦ h) fun _ _ h ↦ h

/-- A formatted reply, if it fits. -/
theorem replyFormat_wp {text : Bytes} (hlen : text.length < responseBufferSize) :
    wp e (replyFormat text) (fun _ ↦ Replies [text] w)
      (fun k w' ↦ w.st.replyPool = true → k = .blocked ∧ Replies [text] w w') w := by
  rw [replyFormat, wp_bind, wp_get]
  split_ifs with hpool
  · rw [wp_bind, observe, wp_mark, wp_bind, wp_getSession, wp_bind]
    rw [List.take_of_length_le (Nat.le_sub_one_of_lt hlen)]
    have hnote := replies_noted w (n := .observe (.expansion text)) rfl
    exact wp_mono (reply_wp _ _) (fun _ w' h ↦ hnote.trans h) fun _ _ h _ ↦ ⟨h.1, hnote.trans h.2⟩
  · exact fun h ↦ absurd h hpool

end FtpServer
