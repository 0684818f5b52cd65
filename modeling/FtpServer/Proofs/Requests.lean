import FtpServer.Library.Tiling
import FtpServer.Proofs.Retrieve

/-!
# Which parts of a file `transfer_file` requests

The blocks and the remainder tile the range that is to be sent, as long as the number of blocks fits
the `int` that counts them (`transferFile_requests`).

* `requestsOf` are the requests that did not fail.
* `Asked k` is the invariant of the loop over the blocks.
* `blockCount` is the number of blocks as the `int` has it: for 2 ^ 31 of them it is negative, and
  nothing is requested.
-/

namespace FtpServer

open CString Effect Effect.Proc Blocks Tiling

/-- The requests that did not fail: from where, and how much. -/
def requestsOf (trace : List (Item kernel)) : List (ℤ × ℕ) :=
  (sendsOf trace).map fun x ↦ (x.1, x.2.requested)

/-- What is sent, if everything that was requested is. -/
theorem sentOf_full {trace : List (Item kernel)} (contents : Bytes)
    (h : ∀ p ∈ answersOf trace, p.granted = p.requested) :
    sentOf contents trace =
      (requestsOf trace).flatMap fun x ↦ (contents.drop x.1.toNat).take x.2 := by
  rw [sentOf, requestsOf, List.flatMap_map]
  refine List.flatMap_congr fun x hx ↦ ?_
  rw [h x.2 (List.mem_map_of_mem hx)]

section

variable {config : FtpConfig} {e : Env} {w w' : World} {offset count k : ℕ}

/-- The first `k` blocks were requested. -/
def Asked (offset k : ℕ) (w : World) : Prop :=
  requestsOf w.trace =
    (List.range k).map fun i ↦ ((offset : ℤ) + (i * xferBlockSize : ℕ), xferBlockSize)

/-- The requests are those of the pieces. -/
theorem requestsOf_sends {xs : List (ℤ × Piece)} {p : Piece} {position : ℤ}
    (h : Sends (xs ++ [(position, p)]) w) :
    requestsOf w.trace = (xs.map fun x ↦ (x.1, x.2.requested)) ++ [(position, p.requested)] := by
  rw [requestsOf, show sendsOf w.trace = _ from h, List.map_append]
  rfl

/-- One block more is asked for behind the ones before. -/
theorem Asked.step (h : Asked offset k w) {p : Piece} (hp : p.requested = xferBlockSize)
    (hs : Sends (sendsOf w.trace ++ [(((offset + k * xferBlockSize : ℕ) : ℤ), p)]) w') :
    Asked offset (k + 1) w' := by
  have hw : (sendsOf w.trace).map (fun x ↦ (x.1, x.2.requested)) = _ := h
  rw [Asked, requestsOf_sends hs, hw, hp, List.range_succ, List.map_append]
  push_cast
  rfl

/-- Other calls ask for nothing. -/
theorem Asked.of_sendsOf (hw : Asked offset k w) (hs : Sends (sendsOf w.trace) w') :
    Asked offset k w' := by
  rw [Asked, requestsOf, show sendsOf w'.trace = _ from hs]
  exact hw

/-- What the loop over the blocks has requested when it succeeds. -/
theorem sendBlocks_asks (hw : Asked offset 0 w) (fd dataFd blocks : ℤ) :
    wp e (sendBlocks config ⟨dataFd, .socket⟩ ⟨fd, .file⟩ offset blocks)
      (fun r w' ↦ match r with
        | some ret => ret ≠ .success
        | none => Asked offset blocks.toNat w')
      (fun _ _ ↦ True) w := by
  have hkeep : ∀ k w w', Asked offset k w → Sends (sendsOf w.trace) w' → Asked offset k w' :=
    fun _ _ _ hw hs ↦ hw.of_sendsOf hs
  have hstep : ∀ k w w' (p : Piece), Asked offset k w → p.requested = xferBlockSize →
      Sends (sendsOf w.trace ++ [(((offset + k * xferBlockSize : ℕ) : ℤ), p)]) w' →
        Asked offset (k + 1) w' :=
    fun _ _ _ _ hw hp hs ↦ hw.step hp hs
  refine wp_mono (sendBlocks_rule hkeep hstep hw fd dataFd) ?_ fun _ _ _ ↦ trivial
  rintro (- | ret) w' hpost
  · exact hpost
  · exact hpost.1

/-- The number of whole blocks that are requested. -/
def blockCount (count : ℕ) : ℕ := (toInt ((count / xferBlockSize : ℕ) : ℤ)).toNat

/-- What a transfer of `count` bytes has requested when it succeeds. -/
theorem transferFile_asks (hw : Asked offset 0 w) (fd dataFd : ℤ) :
    wp e (transferFile config ⟨dataFd, .socket⟩ ⟨fd, .file⟩ offset count)
      (fun ret w' ↦ ret = .success → requestsOf w'.trace =
        ((List.range (blockCount count)).map fun i ↦
            ((offset : ℤ) + (i * xferBlockSize : ℕ), xferBlockSize)) ++
          [((offset : ℤ) + (count / xferBlockSize * xferBlockSize : ℕ), count % xferBlockSize)])
      (fun _ _ ↦ True) w := by
  have L := keepsSent_steps
  have hlast : (offset : ℤ) + count - ((count : ℤ).tmod xferBlockSize) =
      offset + (count / xferBlockSize * xferBlockSize : ℕ) := by
    have hmod : (count : ℤ).tmod xferBlockSize = (count % xferBlockSize : ℕ) := rfl
    have := Nat.div_add_mod' count xferBlockSize
    rw [hmod]
    omega
  rw [blockCount, ← show (count : ℤ).tdiv xferBlockSize = (count / xferBlockSize : ℕ) from rfl,
    transferFile]
  generalize toInt ((count : ℤ).tdiv xferBlockSize) = blocks
  refine (wp_bind _ _).2 (wp_mono (wp_keepsSent (L.startTransfer (by decide)) rfl fun _ _ h ↦ h)
    (fun _ w₁ hs₁ ↦ ?_) fun _ _ _ ↦ trivial)
  refine (wp_bind _ _).2 (wp_mono (sendBlocks_asks (hw.of_sendsOf hs₁) fd dataFd _) ?_
    fun _ _ _ ↦ trivial)
  rintro (- | ret) w₂ hpost
  · rw [hlast]
    refine (wp_bind _ _).2 (wp_mono (spliceBlock_wp rfl fd dataFd _ _) ?_ fun _ _ _ ↦ trivial)
    rintro (ret | ret) w₃ hpost₃
    · exact fun h ↦ absurd h hpost₃.1
    · obtain ⟨p, hp, -, hs⟩ := hpost₃
      intro _
      have hw₂ : (sendsOf w₂.trace).map (fun x ↦ (x.1, x.2.requested)) = _ := hpost
      show requestsOf w₃.trace = _
      rw [requestsOf_sends hs, hw₂, hp]
      rfl
  · exact fun h ↦ absurd h hpost

end

/-- The block count is right if it fits an `int`. -/
theorem blockCount_eq_iff {count : ℕ} :
    blockCount count = count / xferBlockSize ↔ count / xferBlockSize < 2 ^ 31 := by
  rw [blockCount]
  generalize count / xferBlockSize = n
  constructor
  · intro h
    have hlt : toInt (n : ℤ) < 2 ^ 31 := Int.bmod_lt (by decide)
    omega
  · intro h
    rw [toInt_natCast h, Int.toNat_natCast]

/-- **What is requested of a file is what is to be sent.** When `transfer_file` succeeds and every
`sendfile` sent all it was asked to, the requests tile the range of `count` bytes behind the offset,
and what was sent of any contents is that range of them, if and only if the number of whole blocks
fits an `int`. -/
theorem transferFile_requests (config : FtpConfig) (fd dataFd : ℤ) (e : Env) (st : Process)
    (offset count : ℕ) {w : World}
    (hrun : transferFile config ⟨dataFd, .socket⟩ ⟨fd, .file⟩ offset count e (World.start st) =
      (.ret .success, w))
    (hfull : ∀ p ∈ answersOf w.trace, p.granted = p.requested) :
    (Tiles offset (offset + count) (requestsOf w.trace) ∧ ∀ contents : Bytes,
        contents.length = offset + count → sentOf contents w.trace = contents.drop offset) ↔
      count / xferBlockSize < 2 ^ 31 := by
  have hasked : Asked offset 0 (World.start st) := rfl
  have hreqs := wp_ret (transferFile_asks hasked fd dataFd) hrun rfl
  have hdivmod := Nat.div_add_mod' count xferBlockSize
  rw [← blockCount_eq_iff]
  generalize blockCount count = blocks at hreqs
  constructor
  -- the intervals of a tiling are as long together as the range, so no block was left out
  · rintro ⟨htiles, -⟩
    have htotal := htiles.hi_eq
    have hblocks : total ((List.range blocks).map fun i ↦
        ((offset : ℤ) + (i * xferBlockSize : ℕ), xferBlockSize)) = blocks * xferBlockSize := by
      have := (tiles_blocks offset xferBlockSize blocks).hi_eq
      omega
    rw [hreqs, total_append, hblocks, total_cons, total_nil] at htotal
    have hmul : blocks * xferBlockSize = count / xferBlockSize * xferBlockSize := by omega
    exact Nat.eq_of_mul_eq_mul_right (by decide) hmul
  · intro hcount
    have htiles : Tiles offset (offset + count) (requestsOf w.trace) := by
      rw [hreqs, hcount]
      have hlast := (tiles_blocks offset xferBlockSize (count / xferBlockSize)).concat
        (count % xferBlockSize)
      rwa [Int.add_assoc, ← Int.natCast_add, hdivmod] at hlast
    refine ⟨htiles, fun contents hlength ↦ ?_⟩
    have htotal : total (requestsOf w.trace) = count := by
      have := htiles.hi_eq
      omega
    rw [sentOf_full contents hfull, htiles.flatMap contents, htotal, List.take_of_length_le]
    rw [List.length_drop]
    omega

/-- Two blocks and a remainder. -/
theorem transferFile_requests_small :
    let w := (transferFile loadDefaults ⟨8, .socket⟩ ⟨7, .file⟩ (5 : ℕ) (8200 : ℕ) (clientEnv [])
      (World.start (Process.initial 1))).2
    (Tiles (5 : ℕ) ((5 : ℕ) + (8200 : ℕ)) (requestsOf w.trace) ∧ ∀ contents : Bytes,
        contents.length = 5 + 8200 → sentOf contents w.trace = contents.drop 5) ↔
      8200 / xferBlockSize < 2 ^ 31 :=
  transferFile_requests loadDefaults 7 8 (clientEnv []) (Process.initial 1) 5 8200
    (run_eq (by decide +kernel)) (by decide +kernel)

/-- Of a file of 8 TiB, nothing is requested, and the transfer succeeds. -/
theorem transferFile_requests_huge :
    let run := transferFile loadDefaults ⟨8, .socket⟩ ⟨7, .file⟩ 0 (2 ^ 43 : ℕ) (clientEnv [])
      (World.start (Process.initial 1))
    run.1 = .ret .success ∧ (∀ p ∈ answersOf run.2.trace, p.granted = p.requested) ∧
      requestsOf run.2.trace = [(2 ^ 43, 0)] ∧ ¬Tiles 0 (2 ^ 43 : ℕ) (requestsOf run.2.trace) := by
  decide +kernel

end FtpServer
