import FtpServer.Proofs.LoopEnd

/-!
# Reading a command into the buffer

Between two commands, what the session has received are the lines whose commands it has dispatched,
followed by what lies in its buffer (`Buffered`). `read_poll` and `read_cmd` keep this up while they
wait for the rest of a line (`buffered_readPoll`, `buffered_readRound`, `buffered_readCmd`).

A `recv` that takes all the space it is offered ends the session, although it may have completed a
line. `LoopEnded` says what this means for the commands when the loop has ended: none of them is
missing if and only if no `recv` did so.
-/

namespace FtpServer

open CString Effect Effect.Proc Lines

/-! ### Reading -/

/-- The bytes in the buffer. -/
def dirtyPart (c : FtpCommand) : Bytes := c.line.take c.dirtyLen

/-- Between two commands. -/
structure Buffered (ls : List Bytes) (w : World) : Prop where
  progress : Progress w ls (dirtyPart w.st.session.command)
  roomy : Roomy w
  idle : Executing 0 w
  length : w.st.session.command.line.length = commandBufferSize
  dirty : w.st.session.command.dirtyLen < commandBufferSize

variable {α : Type} {config : FtpConfig} {e : Env} {w w' : World} {ls : List Bytes} {rest : Bytes}

/-- A session that waits for good has done nothing undefined. -/
theorem Progress.halted (h : Progress w ls rest) : Halted .blocked w :=
    ⟨h.sound, fun h ↦ by cases h⟩

/-- An entry that is not a command takes a session that has caught up one step further. -/
theorem Progress.wait (h : Progress w ls rest) (hrest : lf ∉ rest) {x : Item kernel}
    (ht : w'.trace = w.trace ++ [x]) (hx : dispatched? x = none) :
    Progress w' ls (rest ++ (received? x).getD []) where
  lines := h.lines
  received := by
    rw [receivedOf, ht, List.filterMap_append, List.flatten_append, ← receivedOf, h.received,
      List.append_assoc]
    congr 2
    rcases hr : received? x with - | bs <;> simp [hr]
  dispatched := by
    rw [dispatchedOf, ht, List.filterMap_append, List.filterMap_cons_none hx, List.filterMap_nil,
      List.append_nil]
    exact h.dispatched
  inStep := by
    rw [ht]
    exact atEach_concat.2 ⟨h.inStep, fun _ ↦ h.caughtUp hrest⟩

/-- Quiet actions between two commands. -/
theorem Buffered.keep (h : Buffered ls w) (hk : KeepsCommand w w') : Buffered ls w' where
  progress := by
    rw [hk.1]
    exact h.progress.keep hk.2
  roomy := h.roomy.keep hk.2
  idle := h.idle.keep hk.2
  length := by rw [hk.1, h.length]
  dirty := by
    rw [hk.1]
    exact h.dirty

/-- A call is neither the start nor the end of a command. -/
theorem Executing.answered {n : ℕ} (h : Executing n w) (c : Call) (r : Answer c) :
    Executing n (answered w c r) := by
  have hfinished : finishedOf (FtpServer.answered w c r).trace = finishedOf w.trace := by
    rw [finishedOf, answered_trace, List.filterMap_append]
    exact List.append_nil _
  have hdispatched : dispatchedOf (FtpServer.answered w c r).trace = dispatchedOf w.trace := by
    rw [dispatchedOf, answered_trace, List.filterMap_append]
    exact List.append_nil _
  rw [Executing, hfinished, hdispatched]
  exact h

/-- A call that filled nothing. -/
theorem Roomy.answered (h : Roomy w) {c : Call} {r : Answer c}
    (hr : fillsBuffer (.call c r) = false) : Roomy (answered w c r) := by
  intro x hx
  rcases List.mem_append.1 hx with hx | hx
  · exact h x hx
  · obtain rfl := List.mem_singleton.1 hx
    exact hr

/-- A call that brought nothing. -/
theorem Buffered.answered (h : Buffered ls w) (hrest : lf ∉ dirtyPart w.st.session.command)
    {c : Call} {r : Answer c} (hempty : (received? (.call c r)).getD [] = [])
    (hroom : fillsBuffer (.call c r) = false) : Buffered ls (answered w c r) where
  progress := by
    have hprogress : Progress (FtpServer.answered w c r) ls _ := h.progress.wait hrest rfl rfl
    rwa [hempty, List.append_nil] at hprogress
  roomy := h.roomy.answered hroom
  idle := h.idle.answered c r
  length := h.length
  dirty := h.dirty

/-- A `recv` that was offered `max` bytes of space brought `bs`. -/
structure Arrived (ls : List Bytes) (c : FtpCommand) (max : ℕ) (bs : Bytes) (w : World) : Prop where
  command : w.st.session.command = c
  progress : Progress w ls (dirtyPart c ++ bs)
  idle : Executing 0 w
  le : bs.length ≤ max
  roomy : bs.length < max → Roomy w
  full : bs.length = max → ¬Roomy w

/-- What `read_poll` leaves. -/
def ReadPollPost (ls : List Bytes) (c : FtpCommand) (max : ℕ) (r : Option Bytes) (w : World) :
    Prop :=
  if r.getD [] = [] then Buffered ls w ∧ w.st.session.command = c
  else Arrived ls c max (r.getD []) w

/-- A quiet action between two commands. -/
theorem Buffered.wp_quiet (h : Buffered ls w) {m : Program α} {Q : α → World → Prop}
    (hm : Within (fun _ ↦ True) KeepsCommand m) (hfault : Faultless m)
    (hQ : ∀ a w', Buffered ls w' → w'.st.session.command = w.st.session.command → Q a w') :
    wp e m Q Halted w := by
  refine wp_mono (hm.wp_faultless hfault trivial) (fun a w' hk ↦ hQ a w' (h.keep hk) hk.1) ?_
  rintro _ w' ⟨rfl, hk⟩
  exact (h.keep hk).progress.halted

/-- An interrupted call is quiet, whatever the signal. -/
theorem keepsCommand_interruptedToQuit (waiter : Waiter) :
    Within (fun _ ↦ True) KeepsCommand (interruptedToQuit waiter) := by
  have L := keepsCommand_steps
  refine L.bind (L.errnoIs _) fun b ↦ ?_
  split_ifs
  · exact L.bind (keepsCommand_handleSignal _) fun _ ↦ L.pure _
  · exact L.pure _

/-- `read_poll` hands up the bytes of one `recv`, or nothing. -/
theorem buffered_readPoll (h : Buffered ls w)
    (hrest : lf ∉ dirtyPart w.st.session.command) (sock : ℤ) {max : ℕ} (hmax : 0 < max) :
    wp e (readPoll config sock max) (ReadPollPost ls w.st.session.command max) Halted w := by
  -- a call that failed is not retried here, and no byte of the stream was lost
  have hfailed : ∀ {w' : World} {f : Bool → Program (Option Bytes)}, Buffered ls w' →
      w'.st.session.command = w.st.session.command →
      (∀ b w₁, Buffered ls w₁ → w₁.st.session.command = w.st.session.command →
        wp e (f b) (ReadPollPost ls w.st.session.command max) Halted w₁) →
      wp e (interruptedToQuit .readPoll >>= f) (ReadPollPost ls w.st.session.command max) Halted
        w' := by
    intro w' f hw' hcommand hf
    refine (wp_bind _ _).2 (hw'.wp_quiet (keepsCommand_interruptedToQuit _)
      (faultless_interruptedToQuit _) fun b w₁ h₁ hc ↦ hf b w₁ h₁ (hc.trans hcommand))
  have hnothing : ∀ {r : Option Bytes} {w' : World}, r.getD [] = [] → Buffered ls w' →
      w'.st.session.command = w.st.session.command →
      ReadPollPost ls w.st.session.command max r w' := by
    intro r w' hr hw' hcommand
    rw [ReadPollPost, if_pos hr]
    exact ⟨hw', hcommand⟩
  rw [readPoll, wp_bind, wp_checked]
  refine wp_sys (fun r _ ↦ ?_) h.progress.halted
  have h₁ := h.answered hrest (c := .poll sock config.idleTimeout) (r := r) rfl rfl
  rcases r.val with err | (_ | _)
  · refine hfailed (h₁.keep ⟨rfl, .of_eq rfl⟩) rfl fun b w' hw' hcommand ↦ ?_
    split_ifs <;> exact hnothing rfl hw' hcommand
  · exact hnothing rfl h₁ rfl
  dsimp only
  rw [wp_bind, wp_checked]
  refine wp_sys (fun r _ ↦ ?_) h₁.progress.halted
  rcases hr : r.val with err | bs
  · have h₂ := h₁.answered hrest (c := .recv sock max) (r := r) (by simp [received?, hr])
      (by simp [fillsBuffer, hr])
    refine hfailed (h₂.keep ⟨rfl, .of_eq rfl⟩) rfl fun b w' hw' hcommand ↦ ?_
    split_ifs
    · exact hnothing rfl hw' hcommand
    · refine (wp_bind _ _).2 ?_
      rw [wp_errnoIs]
      split_ifs <;> exact hnothing rfl hw' hcommand
  by_cases hbs : bs.1 = []
  · refine hnothing (by simpa using hbs) (h₁.answered hrest ?_ ?_) rfl
    · simpa [received?, hr] using hbs
    · simp [fillsBuffer, hr, hbs, hmax.ne]
  · have hreceived : received? (.call (.recv sock max) r) = some bs.1 := by simp [received?, hr]
    show ReadPollPost ls w.st.session.command max (some bs.1) _
    rw [ReadPollPost, if_neg (by simpa using hbs)]
    refine ⟨rfl, ?_, h₁.idle.answered _ _, bs.2, fun hlt ↦ ?_, fun hfull hroomy ↦ ?_⟩
    · have := h₁.progress.wait (x := .call (.recv sock max) r) hrest (answered_trace _ _ _) rfl
      rwa [hreceived] at this
    · exact h₁.roomy.answered (by simpa [fillsBuffer, hr] using Nat.ne_of_lt hlt)
    · have := hroomy (.call (.recv sock max) r) (by simp)
      simp [fillsBuffer, hr] at this
      exact this hfull

/-! ### The main loop -/

/-- What holds when the loop has ended: it fell behind if and only if a `recv` took all the space
it was offered. -/
def LoopEnded (w : World) : Prop :=
  Sound w ∧ ((∀ ret ∈ finishedOf w.trace, ret = .success) →
    (unfinished lf (receivedOf w.trace)).length < commandBufferSize →
      (dispatchedOf w.trace = commandsOf (receivedOf w.trace) ↔ Roomy w))

/-- The loop may end between two commands, when all lines were dispatched. -/
theorem Buffered.loopEnded (h : Buffered ls w) (hrest : lf ∉ dirtyPart w.st.session.command) :
    LoopEnded w :=
  ⟨h.progress.sound, fun _ _ ↦ iff_of_true (h.progress.caughtUp hrest) h.roomy⟩

/-- A buffer that is full shows a line that was not dispatched, unless a line is too long. -/
theorem Progress.loopEnded_full (h : Progress w ls rest) (hfull : rest.length = commandBufferSize)
    (hroomy : ¬Roomy w) : LoopEnded w := by
  refine ⟨h.sound, fun _ hshort ↦ iff_of_false (h.behind ?_) hroomy⟩
  by_contra hrest
  rw [h.unfinished, unfinished_of_not_mem hrest, hfull] at hshort
  exact lt_irrefl _ hshort

/-- What was received is put behind what was there. -/
theorem dirtyPart_storeAll {c : FtpCommand} {bs line : Bytes} (hlen : c.dirtyLen ≤ c.line.length)
    (h : storeAll c.line c.dirtyLen bs = some line) :
    line.take (c.dirtyLen + bs.length) = dirtyPart c ++ bs := by
  obtain ⟨-, rfl⟩ := storeAll_eq_some.1 h
  have hpart : (c.line.take c.dirtyLen ++ bs).length = c.dirtyLen + bs.length := by
    rw [List.length_append, List.length_take, min_eq_left hlen]
  rw [← hpart, List.take_left, dirtyPart]

/-- `read_cmd` gave up: what was received is still in the buffer. -/
structure ReadOver (ls : List Bytes) (w : World) : Prop where
  loopEnded : LoopEnded w
  progress : Progress w ls (dirtyPart w.st.session.command)
  dirty_le : w.st.session.command.dirtyLen ≤ w.st.session.command.lineLen

/-- `read_cmd` may give up before it has a line. -/
theorem Buffered.readOver (h : Buffered ls w) (hrest : lf ∉ dirtyPart w.st.session.command) :
    ReadOver ls w :=
  ⟨h.loopEnded hrest, h.progress, by rw [FtpCommand.lineLen, h.length]; exact h.dirty.le⟩

/-- One round of `read_cmd` finds a line, receives bytes, or gives up. -/
theorem buffered_readRound (h : Buffered ls w) :
    wp e (readRound config) (fun r w' ↦ r.elim (fun _ ↦ Buffered ls w') fun ret ↦
      if ret = .success then Buffered ls w' ∧ lf ∈ dirtyPart w'.st.session.command
      else ReadOver ls w') Halted w := by
  rw [readRound, wp_bind, wp_getSession]
  dsimp only
  by_cases hrest : lf ∈ w.st.session.command.line.take w.st.session.command.dirtyLen
  · rw [if_pos hrest]
    exact ⟨h, hrest⟩
  rw [if_neg hrest]
  have hlength := h.length
  have hdirty := h.dirty
  have hmax : 0 < w.st.session.command.lineLen - w.st.session.command.dirtyLen := by
    rw [FtpCommand.lineLen]
    omega
  refine (wp_bind _ _).2 (wp_mono (buffered_readPoll h hrest _ hmax) ?_ fun _ _ h ↦ h)
  rintro (_ | bs) w₁ hpost
  · obtain ⟨h₁, hcommand⟩ := hpost
    rw [wp_bind, wp_errnoIs]
    split_ifs
    · refine (wp_bind _ _).2 (h₁.wp_quiet (keepsCommand_handleSignal _)
        (faultless_serverHandleSignal _) fun ret w₂ h₂ hc ↦ ?_)
      split_ifs
      · exact h₂.readOver (by rw [hc, hcommand]; exact hrest)
      · exact h₂
    · exact h₁.readOver (by rw [hcommand]; exact hrest)
  by_cases hbs : bs = []
  · rw [ReadPollPost, if_pos (by simpa using hbs)] at hpost
    obtain ⟨h₁, hcommand⟩ := hpost
    simp only [if_pos hbs]
    exact h₁.readOver (by rw [hcommand]; exact hrest)
  rw [ReadPollPost, if_neg (by simpa using hbs)] at hpost
  simp only [if_neg hbs]
  obtain ⟨hcommand, hprogress, hidle, hle, hroomy, hfull⟩ := hpost
  simp only [Option.getD_some, FtpCommand.lineLen] at hprogress hle hroomy hfull
  rcases hstore : storeAll w.st.session.command.line w.st.session.command.dirtyLen bs
    with - | line
  · -- there was room for what was received
    rw [storeAll, if_pos (by omega)] at hstore
    cases hstore
  have hpart := dirtyPart_storeAll (by omega) hstore
  have hline := length_of_storeAll hstore
  simp only [wp_bind, modifyCommand, modifySession, wp_modify]
  by_cases hge : w.st.session.command.dirtyLen + bs.length ≥ w.st.session.command.lineLen
  · rw [if_pos hge]
    rw [FtpCommand.lineLen] at hge
    have hreply := keepsCommand_steps.reply (by decide) w.st.session.conn.sock
      (ofString "421 Command line too long\r\n") (by decide)
    have hrest_length : (dirtyPart w.st.session.command ++ bs).length = commandBufferSize := by
      rw [← hpart, List.length_take, hline]
      omega
    rw [wp_bind]
    refine wp_mono (hreply.wp_faultless (faultless_reply _ _) trivial) (fun _ w' hk ↦ ?_) ?_
    · have hprogress' : Progress w' ls (dirtyPart w.st.session.command ++ bs) :=
        (hprogress.keep (.of_eq rfl)).keep hk.2
      refine ⟨hprogress'.loopEnded_full hrest_length fun h ↦ hfull (by omega) (h.of_keep hk.2),
        ?_, ?_⟩
      · rw [hk.1]
        show Progress w' ls (line.take (w.st.session.command.dirtyLen + bs.length))
        rwa [hpart]
      · rw [hk.1]
        show w.st.session.command.dirtyLen + bs.length ≤ line.length
        omega
    · rintro _ w' ⟨rfl, hk⟩
      exact ((hprogress.keep (.of_eq rfl)).keep hk.2).halted
  · rw [if_neg hge]
    rw [FtpCommand.lineLen] at hge
    refine ⟨?_, ?_, hidle, ?_, ?_⟩
    · show Progress _ ls (line.take (w.st.session.command.dirtyLen + bs.length))
      rw [hpart]
      exact hprogress.keep (.of_eq rfl)
    · exact hroomy (by omega)
    · exact hline.trans hlength
    · dsimp only
      omega

/-- So `read_cmd` succeeds with a line in the buffer. -/
theorem buffered_readCmd (h : Buffered ls w) :
    wp e (readCmd config) (fun ret w' ↦ if ret = .success then
        Buffered ls w' ∧ lf ∈ dirtyPart w'.st.session.command else LoopEnded w') Halted w := by
  rw [readCmd_eq]
  refine wp_loop (fun _ ↦ Buffered ls) (fun _ w h ↦ ?_) (fun _ _ h ↦ h.progress.halted) h
  refine wp_mono (buffered_readRound h) ?_ fun _ _ h ↦ h
  rintro (⟨⟩ | ret) w' hround
  · exact hround
  · simp only [Sum.elim_inr] at hround ⊢
    split_ifs at hround ⊢
    · exact hround
    · exact hround.loopEnded

end FtpServer
