import FtpServer.Proofs.Calls

/-!
# `sendall`

The calls of `sendall` hand the kernel what it has not accepted yet, so what it has accepted is at
every moment the start of the buffer (`sendall_sends`). A `send` that a signal interrupts is made
again; any other error ends the function.

* `acceptedOf` are the bytes that the kernel has taken, and `HandsRest` says what each call offers
  it.
* `Sent total` is the invariant of the loop, and `SendsAll` what holds at its end.
* With a kernel that takes at least one byte in each call that succeeds, there are not more such
  calls than bytes (`Accepting`).
-/

namespace FtpServer

open Effect Effect.Proc

variable {e : Env} {w : World} {sockfd : ℤ} {buf : Bytes} {run : List (Item kernel)}

/-! ### What the kernel has accepted -/

/-- The bytes that a call gave to the kernel. -/
def acceptedBytes : Item kernel → Bytes
  | .call (.send _ buf) r =>
    match r.val with
    | .ok n => buf.take n.1
    | .error _ => []
  | _ => []

/-- The bytes that the calls of a run gave to the kernel, one piece after the other. -/
def acceptedOf (run : List (Item kernel)) : Bytes := run.flatMap acceptedBytes

/-- A `send` that a signal interrupted. -/
def isInterrupted : Item kernel → Bool
  | .call (.send _ _) r =>
    match r.val with
    | .error .eintr => true
    | _ => false
  | _ => false

/-- Each entry adds what it accepted. -/
theorem acceptedOf_concat (run : List (Item kernel)) (x : Item kernel) :
    acceptedOf (run ++ [x]) = acceptedOf run ++ acceptedBytes x := by
  simp [acceptedOf]

/-- One `send` of what is left of the buffer, of which something is left. -/
def HandsRest (sockfd : ℤ) (buf : Bytes) (pre : List (Item kernel)) (x : Item kernel) : Prop :=
  acceptedOf pre <+: buf ∧ (acceptedOf pre).length < buf.length ∧
    ∃ r, x = .call (.send sockfd (buf.drop (acceptedOf pre).length)) r

/-- The last `send` failed, and not because of a signal. -/
def EndsInError (run : List (Item kernel)) : Prop :=
  ∃ pre sockfd buf r, ∃ err : Errno, run = pre ++ [.call (.send sockfd buf) r] ∧
    r.val = .error err ∧ err ≠ .eintr

/-- Every `send` that succeeds accepts something. -/
def Accepting (e : Env) (sockfd : ℤ) : Prop :=
  ∀ trace buf n, (e.answer trace (Call.send sockfd buf)).val = .ok n → buf ≠ [] → 0 < n.1

/-! ### The loop -/

/-- `total` bytes of the buffer have been sent. -/
structure Sent (sockfd : ℤ) (buf : Bytes) (w : World) (total : ℕ) (w' : World)
    (run : List (Item kernel)) : Prop where
  trace : w'.trace = w.trace ++ run
  hands : AtEach (HandsRest sockfd buf) run
  accepted : acceptedOf run = buf.take total
  le : total ≤ buf.length
  calls : run.length ≤ total + run.countP isInterrupted

/-- Nothing is sent yet. -/
theorem Sent.start (w : World) : Sent sockfd buf w 0 w [] where
  trace := (List.append_nil _).symm
  hands := atEach_nil _
  accepted := rfl
  le := Nat.zero_le _
  calls := le_rfl

/-- `total` counts the bytes the kernel took. -/
theorem Sent.length_accepted {total : ℕ} {w' : World} (h : Sent sockfd buf w total w' run) :
    (acceptedOf run).length = total := by
  rw [h.accepted, List.length_take, Nat.min_eq_left h.le]

/-- The next call is handed exactly what is left. -/
theorem Sent.handsRest {total : ℕ} {w' : World} (h : Sent sockfd buf w total w' run)
    (hlt : total < buf.length) (r : Answer (.send sockfd (buf.drop total))) :
    HandsRest sockfd buf run (.call (.send sockfd (buf.drop total)) r) := by
  refine ⟨h.accepted ▸ List.take_prefix _ _, by rwa [h.length_accepted], ?_⟩
  rw [h.length_accepted]
  exact ⟨r, rfl⟩

/-- A piece is sent. -/
theorem Sent.piece {total : ℕ} {w' : World} (h : Sent sockfd buf w total w' run)
    (hlt : total < buf.length) {r : Answer (.send sockfd (buf.drop total))}
    {n : { n : ℕ // n ≤ (buf.drop total).length }} (hr : r.val = .ok n) (hpos : 0 < n.1) :
    Sent sockfd buf w (total + n.1) (answered w' _ r)
      (run ++ [.call (.send sockfd (buf.drop total)) r]) where
  trace := by rw [answered_trace, h.trace, List.append_assoc]
  hands := atEach_concat.2 ⟨h.hands, h.handsRest hlt r⟩
  accepted := by
    have hpiece : acceptedBytes (.call (.send sockfd (buf.drop total)) r) =
        (buf.drop total).take n.1 := by simp only [acceptedBytes, hr]
    rw [acceptedOf_concat, h.accepted, hpiece, List.take_add]
  le := by
    have hn : n.1 ≤ buf.length - total := n.2.trans_eq List.length_drop
    omega
  calls := by
    have := h.calls
    rw [List.length_append, List.countP_append]
    simp only [List.length_singleton]
    omega

/-- A signal comes first. -/
theorem Sent.interrupted {total : ℕ} {w' : World} (h : Sent sockfd buf w total w' run)
    (hlt : total < buf.length) {r : Answer (.send sockfd (buf.drop total))}
    (hr : r.val = .error .eintr) :
    Sent sockfd buf w total (withErrno (answered w' _ r) .eintr)
      (run ++ [.call (.send sockfd (buf.drop total)) r]) where
  trace := by rw [withErrno_trace, answered_trace, h.trace, List.append_assoc]
  hands := atEach_concat.2 ⟨h.hands, h.handsRest hlt r⟩
  accepted := by
    have hpiece : acceptedBytes (.call (.send sockfd (buf.drop total)) r) = [] := by
      simp only [acceptedBytes, hr]
    rw [acceptedOf_concat, h.accepted, hpiece, List.append_nil]
  le := h.le
  calls := by
    have := h.calls
    have hcount : isInterrupted (.call (.send sockfd (buf.drop total)) r) = true := by
      simp only [isInterrupted, hr]
    rw [List.length_append, List.countP_append, List.countP_singleton, if_pos hcount]
    simp only [List.length_singleton]
    omega

/-- What `sendall` has done when it ends. -/
def SendsAll (sockfd : ℤ) (buf : Bytes) (e : Env) (w : World) (r : Outcome (Option ℕ))
    (w' : World) : Prop :=
  ∃ run, w'.trace = w.trace ++ run ∧ AtEach (HandsRest sockfd buf) run ∧ acceptedOf run <+: buf ∧
    match r with
    | .ret (some n) => n = buf.length ∧ acceptedOf run = buf
    | .ret none => acceptedOf run ≠ buf ∧ EndsInError run
    | .halt k => k = .blocked ∧ e.limit ≤ w'.trace.length ∧
        run.length < buf.length + run.countP isInterrupted

/-- As long as `total` is short of the length, something is missing. -/
theorem Sent.ne {total : ℕ} {w' : World} (h : Sent sockfd buf w total w' run)
    (hlt : total < buf.length) : acceptedOf run ≠ buf := by
  intro heq
  have hlen := h.length_accepted
  rw [heq] at hlen
  omega

/-- The loop keeps `Sent`, and every call accepts at least one byte or ends it. -/
theorem sendall_wp (hsends : Accepting e sockfd) :
    wp e (sendall sockfd buf) (fun r ↦ SendsAll sockfd buf e w (.ret r))
      (fun k ↦ SendsAll sockfd buf e w (.halt k)) w := by
  refine wp_loop_of_answered (fun total w' ↦ ∃ run, Sent sockfd buf w total w' run) ?_
    ⟨[], .start w⟩
  rintro total w₁ ⟨run, h⟩
  by_cases hlt : total < buf.length
  · rw [if_pos hlt, wp_bind, wp_checked]
    refine wp_sys_cases (fun hlim r hr ↦ ?_) fun hge ↦ ?_
    · have hgrows : w₁.trace.length < (answered w₁ _ r).trace.length := by simp
      -- an interrupted call has accepted nothing and is made again, any other error ends the loop
      rcases hval : r.val with err | n
      · simp only [wp_bind, wp_errnoIs, withErrno_errno, Option.some.injEq, decide_eq_true_eq]
        by_cases heintr : err = .eintr
        · subst heintr
          rw [if_pos rfl]
          exact ⟨hlim, hgrows, _, h.interrupted hlt hval⟩
        · rw [if_neg heintr]
          have hpiece : acceptedBytes (.call (.send sockfd (buf.drop total)) r) = [] := by
            simp only [acceptedBytes, hval]
          have haccepted : acceptedOf (run ++ [.call (.send sockfd (buf.drop total)) r]) =
              acceptedOf run := by rw [acceptedOf_concat, hpiece, List.append_nil]
          refine ⟨run ++ [.call (.send sockfd (buf.drop total)) r], ?_,
            atEach_concat.2 ⟨h.hands, h.handsRest hlt r⟩, ?_, ?_, _, _, _, r, err,
              rfl, hval, heintr⟩
          · rw [withErrno_trace, answered_trace, h.trace, List.append_assoc]
          · rw [haccepted, h.accepted]
            exact List.take_prefix _ _
          · rw [haccepted]
            exact h.ne hlt
      -- something is left to be sent, so the call accepts at least a byte of it
      · have hpos : 0 < n.1 := by
          refine hsends w₁.trace (buf.drop total) n (hr ▸ hval) ?_
          exact fun hnil ↦ absurd (List.drop_eq_nil_iff.1 hnil) (by omega)
        exact ⟨hlim, hgrows, _, h.piece hlt hval hpos⟩
    · refine ⟨run, h.trace, h.hands, h.accepted ▸ List.take_prefix _ _, rfl, hge, ?_⟩
      have := h.calls
      omega
  · rw [if_neg hlt]
    have hall : buf.take total = buf := List.take_of_length_le (by omega)
    exact ⟨run, h.trace, h.hands, h.accepted ▸ List.take_prefix _ _,
      le_antisymm h.le (by omega), h.accepted.trans hall⟩

/-- **What `sendall` sends.** Every call hands over what is left of the buffer, of which something
is left, and what has been accepted is the start of the buffer at every moment. The function
returns the length if all of the buffer was accepted and -1 otherwise, and it has ended before its
calls outnumber the bytes of the buffer and the interruptions. -/
theorem sendall_sends (e : Env) (w : World) (sockfd : ℤ) (buf : Bytes)
    (hsends : Accepting e sockfd) :
    SendsAll sockfd buf e w (sendall sockfd buf e w).1 (sendall sockfd buf e w).2 := by
  have h : wp e (sendall sockfd buf) _ _ w := sendall_wp hsends
  revert h
  simp only [wp]
  rcases sendall sockfd buf e w with ⟨r | k, w'⟩ <;> exact id

/-- Every other `send` accepts two bytes at most, and the others are interrupted. -/
def haltingSend (turn : ℕ) (sockfd : ℤ) (buf : Bytes) : Answer (.send sockfd buf) :=
  if turn % 2 = 0 then ⟨[], .ok ⟨min 2 buf.length, Nat.min_le_right _ _⟩⟩
  else ⟨[.deliver .sigchld], .error .eintr⟩

def haltingEnv : Env where
  answer trace c :=
    match c with
    | .send sockfd buf => haltingSend trace.length sockfd buf
    | c => ⟨[], Val.default c⟩
  limit := 10

/-- This kernel takes one byte at a time. -/
theorem accepting_haltingEnv (sockfd : ℤ) : Accepting haltingEnv sockfd := by
  intro trace buf n hn hne
  have hsend : (haltingSend trace.length sockfd buf).val = .ok n := hn
  rw [haltingSend] at hsend
  split at hsend
  · obtain rfl := Except.ok.inj hsend
    exact Nat.lt_min.2 ⟨Nat.zero_lt_two, List.length_pos_iff.2 hne⟩
  · cases hsend

/-- Five bytes in three pieces. -/
theorem sendall_sends_pieces :
    SendsAll 4 [1, 2, 3, 4, 5] haltingEnv (World.start (Process.initial 1))
      (sendall 4 [1, 2, 3, 4, 5] haltingEnv (World.start (Process.initial 1))).1
      (sendall 4 [1, 2, 3, 4, 5] haltingEnv (World.start (Process.initial 1))).2 :=
  sendall_sends haltingEnv (World.start (Process.initial 1)) 4 [1, 2, 3, 4, 5]
    (accepting_haltingEnv 4)

end FtpServer
