import FtpServer.Library.Blocks
import FtpServer.Proofs.TransferHandlers

/-!
# What `transfer_file` sends

`transfer_file` requests a file block by block, each at its own offset, and takes every result but
-1 for a whole block. So what it places on the data socket are the pieces that the kernel grants of
these requests, and the theory of `Blocks` says when they are the file (`transferFile_sends`).

* `sentOf` is what a run has placed on the socket: the piece that was granted of each request.
* `Sends` is the invariant of both loops, and `sendBlocks_rule` the rule for the loop over the
  blocks, whatever is to be kept.
* `Transferred` says how a transfer ends. As the requests do not depend on what was granted, the
  result is about all files of one size.
-/

namespace FtpServer

open CString Effect Effect.Proc Blocks

/-! ### What the trace says -/

/-- A `sendfile` that did not fail: from where, how much was requested, and how much was sent. -/
def sent? : Item kernel → Option (ℤ × Piece)
  | .call (.sendfile _ _ offset count) r =>
    match r.val with
    | .ok n => some (offset, ⟨count, n.1, n.2⟩)
    | .error _ => none
  | _ => none

def sendsOf (trace : List (Item kernel)) : List (ℤ × Piece) := trace.filterMap sent?

/-- The answers of the kernel to the requests that did not fail. -/
def answersOf (trace : List (Item kernel)) : List Piece := (sendsOf trace).map (·.2)

/-- What was placed on the data socket, when the file has these contents. -/
def sentOf (contents : Bytes) (trace : List (Item kernel)) : Bytes :=
  (sendsOf trace).flatMap fun x ↦ (contents.drop x.1.toNat).take x.2.granted

/-! ### Actions that send nothing -/

/-- Nothing was sent. -/
def KeepsSent (w w' : World) : Prop := Extends (fun x ↦ sent? x = none) w w'

theorem keepsSent_guard : Guard (fun _ ↦ True) KeepsSent where
  refl w _ := .refl w
  trans _ h₁ h₂ := h₁.trans h₂
  keep _ _ := trivial

/-- What sends nothing leaves the pieces as they are. -/
theorem KeepsSent.sendsOf_eq {w w' : World} (h : KeepsSent w w') :
    sendsOf w'.trace = sendsOf w.trace := h.filterMap fun _ hx ↦ hx

/-- Only the transfer of data does. -/
theorem keepsSent_steps : StepLogic (· ≠ .data) (fun _ ↦ True) KeepsSent where
  toCallLogic := .of_observe keepsSent_guard (by decide) (by decide)
    (fun c hc ↦ within_sys keepsSent_guard fun _ r _ ↦ .concat rfl (by
      cases c
      case sendfile => exact absurd rfl hc
      all_goals rfl))
    (fun _ ↦ within_setErrno fun _ _ ↦ .of_eq rfl)
    fun _ _ ↦ within_mark fun _ _ ↦ .concat rfl rfl
  statePool _ _ := within_modify fun _ _ ↦ .of_eq rfl
  modifySession _ _ := within_modify fun _ _ ↦ .of_eq rfl
  undefined _ _ _ _ := within_mark fun _ _ ↦ .concat rfl rfl

theorem keepsSent_handleSignal (waiter : Waiter) :
    Within (fun _ ↦ True) KeepsSent (serverHandleSignal waiter) :=
  keepsSent_steps.serverHandleSignal waiter (fun _ ↦ within_modify fun _ _ ↦ .of_eq rfl)
    (within_mark fun _ _ ↦ .concat rfl rfl)

/-- A block that failed was not sent. -/
theorem keepsSent_spliceFailed (waiter : Waiter) :
    Within (fun _ ↦ True) KeepsSent (spliceFailed waiter) :=
  keepsSent_steps.spliceFailed (keepsSent_handleSignal waiter)

/-! ### One request -/

variable {config : FtpConfig} {e : Env} {w : World} {α : Type} {xs : List (ℤ × Piece)}

/-- The requests `xs` were answered so far. -/
def Sends (xs : List (ℤ × Piece)) (w : World) : Prop := sendsOf w.trace = xs

/-- What sends nothing leads to the same pieces. -/
theorem wp_keepsSent {m : Program α} {Q : α → World → Prop} (hm : Within (fun _ ↦ True) KeepsSent m)
    (hw : Sends xs w) (hQ : ∀ a w', Sends xs w' → Q a w') : wp e m Q (fun _ ↦ Sends xs) w :=
  wp_mono (hm.wp trivial) (fun a w' h ↦ hQ a w' (h.sendsOf_eq.trans hw)) fun _ _ h ↦
    h.sendsOf_eq.trans hw

/-- What one `splice_stream` from a file to a socket does. -/
theorem spliceStream_wp (hw : Sends xs w) (fd dataFd offset : ℤ) (count : ℕ) :
    wp e (spliceStream ⟨dataFd, .socket⟩ none ⟨fd, .file⟩ (some offset) count)
      (fun r w' ↦ (r.1 = -1 ∧ Sends xs w') ∨
        ∃ p : Piece, p.requested = count ∧ r.1 = p.granted ∧ Sends (xs ++ [(offset, p)]) w')
      (fun _ ↦ Sends xs) w := by
  have L := keepsSent_steps
  have hseek : Within (fun _ ↦ True) KeepsSent (seekTo fd (some offset)) :=
    L.bind (L.checked (within_sys keepsSent_guard fun _ _ _ ↦ .concat rfl rfl)) fun _ ↦ L.pure _
  refine (wp_bind _ _).2 ((wp_bind _ _).2 (wp_keepsSent hseek hw fun _ w₁ hw₁ ↦ ?_))
  simp only [Bool.and_self, decide_true, if_true, wp_bind, wp_checked, Option.getD_some]
  refine wp_sys (fun r _ ↦ ?_) hw₁
  rcases hr : r.val with err | n
  · have hnone : sent? (.call (.sendfile dataFd fd offset count) r) = none := by simp [sent?, hr]
    refine .inl ⟨rfl, ?_⟩
    show sendsOf (w₁.trace ++ [.call (.sendfile dataFd fd offset count) r]) = xs
    rw [sendsOf, List.filterMap_append, List.filterMap_cons_none hnone, List.filterMap_nil,
      List.append_nil]
    exact hw₁
  · have hsome : sent? (.call (.sendfile dataFd fd offset count) r) =
        some (offset, ⟨count, n.1, n.2⟩) := by simp [sent?, hr]
    refine .inr ⟨⟨count, n.1, n.2⟩, rfl, rfl, ?_⟩
    show sendsOf (w₁.trace ++ [.call (.sendfile dataFd fd offset count) r]) = _
    rw [sendsOf, List.filterMap_append, List.filterMap_cons_some hsome, List.filterMap_nil]
    exact congrArg (· ++ _) hw₁

/-- A block is requested until the request is answered, or the transfer is given up. -/
theorem spliceBlock_wp (hw : Sends xs w) (fd dataFd offset : ℤ) (count : ℕ) :
    wp e (spliceBlock ⟨dataFd, .socket⟩ ⟨fd, .file⟩ offset count)
      (fun r w' ↦ match r with
        | .error ret => ret ≠ .success ∧ Sends xs w'
        | .ok ret => ∃ p : Piece, p.requested = count ∧ ret = p.granted ∧
            Sends (xs ++ [(offset, p)]) w')
      (fun _ ↦ Sends xs) w := by
  refine wp_loop (fun _ ↦ Sends xs) (fun _ w hw ↦ ?_) (fun _ _ h ↦ h) hw
  refine (wp_bind _ _).2 (wp_mono (spliceStream_wp hw fd dataFd offset count) ?_ fun _ _ h ↦ h)
  rintro ⟨ret, off⟩ w₁ (⟨hret, hw₁⟩ | ⟨p, hcount, hret, hw₁⟩)
  · obtain rfl : ret = -1 := hret
    simp only [if_true]
    have hfailed : wp e (spliceFailed .transferFile) (fun _ ↦ Sends xs) (fun _ ↦ Sends xs) w₁ :=
      wp_keepsSent (keepsSent_spliceFailed _) hw₁ fun _ _ h ↦ h
    refine (wp_bind _ _).2 (wp_mono ((spliceFailed_returns _).wp hfailed) ?_ fun _ _ h ↦ h)
    rintro (_ | ret) w₂ ⟨hne, hw₂⟩
    · exact hw₂
    · exact ⟨fun h ↦ hne (by rw [h]), hw₂⟩
  · have hne : ret ≠ -1 := by
      rw [show ret = (p.granted : ℤ) from hret]
      omega
    simp only [if_neg hne]
    exact ⟨p, hcount, hret, hw₁⟩

/-! ### The transfer -/

/-- A number of blocks that an `int` holds. -/
theorem toInt_natCast {n : ℕ} (h : n < 2 ^ 31) : toInt n = n :=
  Int.bmod_eq_of_le_mul_two (by omega) (by omega)

/-- So many requests were answered, each for what follows the last one; `total` was requested. -/
structure Sending (offset k total : ℕ) (w : World) : Prop where
  moved : ∀ contents, sentOf contents w.trace = moved contents offset (answersOf w.trace)
  length : (answersOf w.trace).length = k
  requested : totalRequested (answersOf w.trace) = total

section Sending

variable {offset k total blocks remainder : ℕ} {w' : World}

/-- What is sent so far. -/
theorem Sending.keep (h : Sending offset k total w) (hw : Sends (sendsOf w.trace) w') :
    Sending offset k total w' := by
  have hsends : sendsOf w'.trace = sendsOf w.trace := hw
  refine ⟨fun contents ↦ ?_, ?_, ?_⟩
  · rw [sentOf, answersOf, hsends]
    exact h.moved contents
  · rw [answersOf, hsends]
    exact h.length
  · rw [answersOf, hsends]
    exact h.requested

/-- One more request, from where the last one ended. -/
theorem Sending.step (h : Sending offset k total w) {p : Piece}
    (hw : Sends (sendsOf w.trace ++ [(((offset + total : ℕ) : ℤ), p)]) w') :
    Sending offset (k + 1) (total + p.requested) w' := by
  have hsends : sendsOf w'.trace = sendsOf w.trace ++ [(((offset + total : ℕ) : ℤ), p)] := hw
  have hanswers : answersOf w'.trace = answersOf w.trace ++ [p] := by
    rw [answersOf, hsends, List.map_append, ← answersOf]
    rfl
  refine ⟨fun contents ↦ ?_, ?_, ?_⟩
  · rw [hanswers, moved_concat, h.requested, ← h.moved contents, sentOf, hsends,
      List.flatMap_append, List.flatMap_singleton, Int.toNat_natCast, ← sentOf]
  · rw [hanswers, List.length_append, h.length, List.length_singleton]
  · rw [hanswers, totalRequested_concat, h.requested]

/-- The same as a rule. -/
theorem Sending.wp_keeps {m : Program α} {Q : α → World → Prop} (h : Sending offset k total w)
    (hm : Within (fun _ ↦ True) KeepsSent m) (hQ : ∀ a w', Sending offset k total w' → Q a w') :
    wp e m Q (fun _ ↦ Sending offset k total) w :=
  wp_mono (wp_keepsSent hm rfl fun _ _ hw ↦ hw) (fun a w' hw ↦ hQ a w' (h.keep hw)) fun _ _ hw ↦
    h.keep hw

end Sending

/-- The rule for the loop over the blocks: `I k` is kept by what sends nothing, and one more block
leads on to the next. -/
theorem sendBlocks_rule {I : ℕ → World → Prop} {offset : ℕ} {blocks : ℤ}
    (hkeep : ∀ k w w', I k w → Sends (sendsOf w.trace) w' → I k w')
    (hstep : ∀ k w w' (p : Piece), I k w → p.requested = xferBlockSize →
      Sends (sendsOf w.trace ++ [(((offset + k * xferBlockSize : ℕ) : ℤ), p)]) w' → I (k + 1) w')
    (hw : I 0 w) (fd dataFd : ℤ) :
    wp e (sendBlocks config ⟨dataFd, .socket⟩ ⟨fd, .file⟩ offset blocks)
      (fun r w' ↦ match r with
        | some ret => ret ≠ .success ∧ ∃ k ≤ blocks.toNat, I k w'
        | none => I blocks.toNat w')
      (fun _ w' ↦ ∃ k ≤ blocks.toNat, I k w') w := by
  have L := keepsSent_steps
  have hkeeps : ∀ {α : Type} {m : Program α} {k : ℕ} {w : World} {Q : α → World → Prop},
      Within (fun _ ↦ True) KeepsSent m → I k w → (∀ a w', I k w' → Q a w') →
        wp e m Q (fun _ ↦ I k) w := fun hm hw hQ ↦
    wp_mono (wp_keepsSent hm rfl fun _ _ hs ↦ hs) (fun a _ hs ↦ hQ a _ (hkeep _ _ _ hw hs))
      fun _ _ hs ↦ hkeep _ _ _ hw hs
  -- the loop has asked for `k` blocks, and their answers are in the trace
  refine wp_loop (fun (i : ℤ) w ↦ ∃ k : ℕ, i = k ∧ k ≤ blocks.toNat ∧ I k w) ?_ ?_
    ⟨0, rfl, Nat.zero_le _, hw⟩
  · rintro i w ⟨k, rfl, hk, hw⟩
    by_cases hlt : (k : ℤ) < blocks
    · rw [if_pos hlt]
      have hlt' : k < blocks.toNat := by omega
      have hoffset : (offset : ℤ) + k * xferBlockSize = (offset + k * xferBlockSize : ℕ) := by
        push_cast
        rfl
      simp only [hoffset]
      refine (wp_bind _ _).2 (wp_mono (spliceBlock_wp rfl fd dataFd _ xferBlockSize) ?_
        fun _ w' hs ↦ ⟨k, hk, hkeep k w w' hw hs⟩)
      rintro (ret | ret) w₁ hpost
      · exact ⟨hpost.1, k, hk, hkeep k w w₁ hw hpost.2⟩
      obtain ⟨p, hp, -, hs⟩ := hpost
      have hw₁ := hstep k w w₁ p hw hp hs
      dsimp only
      -- a block of which nothing was sent ends the transfer
      split_ifs with hzero
      · exact ⟨by simp, k + 1, hlt', hw₁⟩
      refine wp_mono ?_ (fun _ _ h ↦ h) fun _ w' h ↦ ⟨k + 1, hlt', h⟩
      refine (wp_bind _ _).2 (hkeeps (L.modifyInfo _ (by decide)) hw₁ fun _ w₂ hw₂ ↦ ?_)
      refine (wp_bind _ _).2 (hkeeps (L.throttlePause (L.sendState (by decide) _) _
        (by decide)) hw₂ fun _ w₃ hw₃ ↦ ?_)
      refine (wp_bind _ _).2 (hkeeps (keepsSent_handleSignal _) hw₃ fun ret w₄ hw₄ ↦ ?_)
      split_ifs
      · exact ⟨by simp, k + 1, hlt', hw₄⟩
      · exact ⟨k + 1, by push_cast; rfl, hlt', hw₄⟩
    · obtain rfl : k = blocks.toNat := by omega
      rw [if_neg hlt]
      exact hw
  · rintro _ w ⟨k, -, hk, hw⟩
    exact ⟨k, hk, hw⟩

section Sending

variable {offset k total blocks remainder : ℕ} {w' : World}

/-- A request that is repeated until it is answered. -/
theorem Sending.spliceBlock (h : Sending offset k total w) (fd dataFd : ℤ) (count : ℕ) :
    wp e (spliceBlock ⟨dataFd, .socket⟩ ⟨fd, .file⟩ (offset + total : ℕ) count)
      (fun r w' ↦ match r with
        | .error ret => ret ≠ .success ∧ Sending offset k total w'
        | .ok _ => Sending offset (k + 1) (total + count) w')
      (fun _ ↦ Sending offset k total) w := by
  refine wp_mono (spliceBlock_wp rfl fd dataFd _ count) ?_ fun _ _ hw ↦ h.keep hw
  rintro (ret | ret) w' hpost
  · exact ⟨hpost.1, h.keep hpost.2⟩
  · obtain ⟨p, rfl, -, hw⟩ := hpost
    exact h.step hw

/-- A transfer that was given up. -/
def GivenUp (offset blocks : ℕ) (w : World) : Prop :=
  ∃ k ≤ blocks, Sending offset k (k * xferBlockSize) w

/-- The loop sends one block after the other, or gives up. -/
theorem sendBlocks_wp (h : Sending offset 0 0 w) (fd dataFd : ℤ) :
    wp e (sendBlocks config ⟨dataFd, .socket⟩ ⟨fd, .file⟩ offset blocks)
      (fun r w' ↦ match r with
        | some ret => ret ≠ .success ∧ GivenUp offset blocks w'
        | none => Sending offset blocks (blocks * xferBlockSize) w')
      (fun _ ↦ GivenUp offset blocks) w := by
  refine sendBlocks_rule (I := fun k ↦ Sending offset k (k * xferBlockSize))
    (fun _ _ _ hw hs ↦ hw.keep hs) (fun k w w' p hw hp hs ↦ ?_) (by simpa using h) fd dataFd
  have hw' := hw.step hs
  rwa [hp, ← Nat.succ_mul] at hw'

/-- How a transfer of `size - offset` bytes ends. -/
structure Transferred (offset size : ℕ) (complete : Prop) (w : World) : Prop where
  moved : ∀ contents, sentOf contents w.trace = Blocks.moved contents offset (answersOf w.trace)
  requested_le : offset + totalRequested (answersOf w.trace) ≤ size
  complete_iff : complete ↔ (answersOf w.trace).length = (size - offset) / xferBlockSize + 1
  requested : complete → offset + totalRequested (answersOf w.trace) = size

variable {size : ℕ}

/-- A transfer that was given up has sent a prefix. -/
theorem GivenUp.transferred (hoffset : offset ≤ size)
    (h : GivenUp offset ((size - offset) / xferBlockSize) w) :
    Transferred offset size False w := by
  obtain ⟨k, hk, hmoved, hlength, hrequested⟩ := h
  refine ⟨hmoved, ?_, ?_, fun h ↦ h.elim⟩
  · have hle : k * xferBlockSize ≤ size - offset :=
      (Nat.mul_le_mul_right _ hk).trans (Nat.div_mul_le_self _ _)
    rw [hrequested]
    exact Nat.add_le_of_le_sub' hoffset hle
  · rw [hlength]
    exact iff_of_false id (Nat.lt_succ_of_le hk).ne

/-- The blocks and the rest behind them, without a gap. -/
theorem transferFile_wp (h : Sending offset 0 0 w) (hoffset : offset ≤ size)
    (hblocks : (size - offset) / xferBlockSize < 2 ^ 31) (fd dataFd : ℤ) :
    wp e (transferFile config ⟨dataFd, .socket⟩ ⟨fd, .file⟩ offset (size - offset : ℕ))
      (fun ret ↦ Transferred offset size (ret = .success))
      (fun _ ↦ Transferred offset size False) w := by
  have L := keepsSent_steps
  have hblocks' : toInt (((size - offset : ℕ) : ℤ).tdiv xferBlockSize) =
      ((size - offset) / xferBlockSize : ℕ) := by
    exact toInt_natCast hblocks
  have hremainder : (((size - offset : ℕ) : ℤ).tmod xferBlockSize) =
      ((size - offset) % xferBlockSize : ℕ) := rfl
  have hlast : (offset : ℤ) + ((size - offset : ℕ) : ℤ) - ((size - offset) % xferBlockSize : ℕ) =
      (offset + (size - offset) / xferBlockSize * xferBlockSize : ℕ) := by
    have := Nat.div_add_mod' (size - offset) xferBlockSize
    omega
  refine (wp_bind _ _).2 (wp_mono (h.wp_keeps (L.startTransfer (by decide)) fun _ _ h ↦ h)
    (fun _ w₁ hw₁ ↦ ?_) fun _ w' hw' ↦ ?_)
  · simp only [hblocks', hremainder, hlast]
    refine (wp_bind _ _).2 (wp_mono (sendBlocks_wp hw₁ fd dataFd) ?_
      fun _ _ h ↦ h.transferred hoffset)
    rintro (_ | ret) w₂ hpost
    · refine (wp_bind _ _).2 (wp_mono (hpost.spliceBlock fd dataFd _) ?_
        fun _ w' h ↦ GivenUp.transferred hoffset ⟨_, le_rfl, h⟩)
      rintro (ret | ret) w₃ hpost₃
      · have hgiven := GivenUp.transferred hoffset ⟨_, le_rfl, hpost₃.2⟩
        show Transferred offset size (ret = .success) w₃
        rwa [eq_false hpost₃.1]
      · have hdivmod := Nat.div_add_mod' (size - offset) xferBlockSize
        have hrequested : offset + totalRequested (answersOf w₃.trace) = size := by
          rw [hpost₃.requested, Int.toNat_natCast]
          omega
        exact ⟨hpost₃.moved, hrequested.le, iff_of_true rfl hpost₃.length, fun _ ↦ hrequested⟩
    · have hgiven := hpost.2.transferred hoffset
      show Transferred offset size (ret = .success) w₂
      rwa [eq_false hpost.1]
  · exact GivenUp.transferred hoffset ⟨0, Nat.zero_le _, by simpa using hw'⟩

end Sending

/-- A run of `transfer_file` on what follows `offset` in a file of this size, as `doretr` has it. -/
def retrieval (config : FtpConfig) (fd dataFd : ℤ) (e : Env) (st : Process) (offset size : ℕ) :
    Outcome FtpRet × World :=
  transferFile config ⟨dataFd, .socket⟩ ⟨fd, .file⟩ offset (size - offset) e (World.start st)

/-- **When a retrieval sends the file.** Over all files of this size, what `transfer_file` places
on the data socket is a prefix of what follows the offset, and all of it when it returns
`FTP_SUCCESS`, if and only if nothing was sent behind a request of which the kernel sent only a
part, and all was sent of each if none was left unanswered. -/
theorem transferFile_sends (config : FtpConfig) (fd dataFd : ℤ) (e : Env) (st : Process)
    (offset size : ℕ) (hoffset : offset ≤ size)
    (hblocks : (size - offset) / xferBlockSize < 2 ^ 31) :
    let run := retrieval config fd dataFd e st offset size
    (∀ contents : Bytes, contents.length = size →
        sentOf contents run.2.trace <+: contents.drop offset ∧
          (run.1 = .ret .success → sentOf contents run.2.trace = contents.drop offset)) ↔
      (answersOf run.2.trace).Pairwise (fun p q ↦ p.granted < p.requested → q.granted = 0) ∧
        ((answersOf run.2.trace).length = (size - offset) / xferBlockSize + 1 →
          ∀ p ∈ answersOf run.2.trace, p.granted = p.requested) := by
  intro run
  have hstart : Sending offset 0 0 (World.start st) := ⟨fun _ ↦ rfl, rfl, rfl⟩
  have hwp : wp e (transferFile config ⟨dataFd, .socket⟩ ⟨fd, .file⟩ offset (size - offset))
      (fun ret ↦ Transferred offset size (ret = .success))
      (fun _ ↦ Transferred offset size False) (World.start st) := by
    rw [← Int.ofNat_sub hoffset]
    exact transferFile_wp hstart hoffset hblocks fd dataFd
  have hrun : Transferred offset size (run.1 = .ret .success) run.2 := by
    rcases hr : run with ⟨ret | halt, w'⟩
    · simpa using wp_ret hwp hr
    · simpa using wp_halt hwp hr
  have : Nontrivial UInt8 := ⟨0, 1, by decide⟩
  simp only [hrun.moved]
  constructor
  · intro h
    refine ⟨(moved_isPrefix_iff hrun.requested_le).1 fun s hs ↦ (h s hs).1, fun hlength ↦ ?_⟩
    -- a file of zeros has the right length, and stands for all of them
    have hcomplete := hrun.complete_iff.2 hlength
    have hzeros : (List.replicate size (0 : UInt8)).length = size := List.length_replicate
    refine (moved_eq_drop_iff ?_).1 ((h _ hzeros).2 hcomplete)
    rw [hzeros, hrun.requested hcomplete]
  · rintro ⟨hpairwise, hfull⟩ s hs
    refine ⟨(moved_isPrefix_iff hrun.requested_le).2 hpairwise s hs, fun hcomplete ↦ ?_⟩
    refine (moved_eq_drop_iff ?_).2 (hfull (hrun.complete_iff.1 hcomplete))
    rw [hs, hrun.requested hcomplete]

/-- A kernel that sends at most one byte at a time. -/
def shortSender : Env :=
  scriptedEnv (fun _ c ↦
    match c with
    | .sendfile _ _ _ count => some ⟨[], .ok ⟨min 1 count, Nat.min_le_right ..⟩⟩
    | _ => none) 1000

/-- A restart behind the first byte of a file of two. -/
theorem transferFile_sends_two :
    let run := retrieval loadDefaults 7 8 shortSender (Process.initial 1) 1 2
    (∀ contents : Bytes, contents.length = 2 →
        sentOf contents run.2.trace <+: contents.drop 1 ∧
          (run.1 = .ret .success → sentOf contents run.2.trace = contents.drop 1)) ↔
      (answersOf run.2.trace).Pairwise (fun p q ↦ p.granted < p.requested → q.granted = 0) ∧
        ((answersOf run.2.trace).length = (2 - 1) / xferBlockSize + 1 →
          ∀ p ∈ answersOf run.2.trace, p.granted = p.requested) :=
  transferFile_sends loadDefaults 7 8 shortSender (Process.initial 1) 1 2 (by decide) (by decide)

/-- Of a file of one block and one byte, the first byte and the last are sent, and the client is
told that the transfer was successful. -/
theorem shortSender_hole :
    let contents := List.replicate xferBlockSize (0 : UInt8) ++ [1]
    let run := retrieval loadDefaults 7 8 shortSender (Process.initial 1) 0 contents.length
    run.1 = .ret .success ∧ sentOf contents run.2.trace = [0, 1] ∧
      ¬sentOf contents run.2.trace <+: contents.drop 0 := by
  decide +kernel

end FtpServer
