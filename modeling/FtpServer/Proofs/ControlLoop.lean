import FtpServer.Proofs.Commands

/-!
# The states of the control loop

`read_cmd`, `parse_cmd`, `do_cmd` and `remove_cmd` share one buffer and two lengths. In every state
the loop reaches, the bytes received are the lines that were consumed, followed by the first
`dirty_len` bytes of the buffer, or, while a line is being executed, by those of them behind the
line (`controlLoop_intact`).

* `Phase` has the four functions, and `Reaches` the states of the loop, with a state for each round
  of `read_cmd`, so that nothing that happens between two `recv`s is left out.
* `Unparsed` and `Behind` are the two forms of the invariant: no line is being executed, or the one
  at the front of the buffer is.
* `Between` says the same in the terms of the proofs about single functions, and `between_stage`
  leads from each phase to the next.
* `readRound_offers` is about the space that a `recv` is offered.
-/

namespace FtpServer

open CString Effect Effect.Proc Lines

/-- What the loop is about to do. -/
inductive Phase where
  | reading
  | parsing
  | executing
  | removing
  | ended
  deriving DecidableEq, Repr

/-- What the loop does in a phase, with `read_cmd` taken one round at a time. -/
def stage (config : FtpConfig) : Phase → Program Phase
  | .reading => do
    match ← readRound config with
    | .inl () => return .reading
    | .inr ret => return if ret = .success then .parsing else .ended
  | .parsing => do return if (← parseCmd) = .success then .executing else .ended
  | .executing => do return if (← doCmd config) = .success then .removing else .ended
  | .removing => do return if (← removeCmd) = .success then .reading else .ended
  | .ended => return .ended

/-- The states of the loop that starts in `w₀`. -/
inductive Reaches (config : FtpConfig) (e : Env) (w₀ : World) : Phase → World → Prop
  | start : Reaches config e w₀ .reading w₀
  | step {phase phase' : Phase} {w w' : World} (h : Reaches config e w₀ phase w)
      (hstage : stage config phase e w = (.ret phase', w')) : Reaches config e w₀ phase' w'

variable {config : FtpConfig} {e : Env} {w₀ w : World} {phase : Phase}

/-! ### The loop goes through these states -/

/-- The loop stopped in the middle of a phase. -/
def StoppedIn (config : FtpConfig) (e : Env) (w₀ : World) (k : Halt) (w' : World) : Prop :=
  ∃ phase w, Reaches config e w₀ phase w ∧
    (stage config phase e w = (.halt k, w') ∨ k = .blocked ∧ w' = w)

/-- What one phase leads to. -/
theorem Reaches.wp_stage (h : Reaches config e w₀ phase w) :
    wp e (stage config phase) (fun phase' w' ↦ Reaches config e w₀ phase' w')
      (StoppedIn config e w₀) w := by
  simp only [Proc.wp]
  rcases hrun : stage config phase e w with ⟨phase' | k, w'⟩
  · exact h.step hrun
  · exact ⟨phase, w, h, .inl hrun⟩

/-- A phase whose function succeeds leads to the next one, and otherwise to the end. -/
theorem Reaches.wp_call {m : Program FtpRet} {next : Phase} (h : Reaches config e w₀ phase w)
    (hm : stage config phase = do return if (← m) = .success then next else .ended) :
    wp e m (fun ret w' ↦ if ret = .success then Reaches config e w₀ next w'
      else Reaches config e w₀ .ended w') (StoppedIn config e w₀) w := by
  have hstage := h.wp_stage
  rw [hm, wp_bind] at hstage
  refine wp_mono hstage (fun ret w' hret ↦ ?_) fun _ _ h ↦ h
  rw [wp_pure] at hret
  split_ifs at hret ⊢
  · exact hret
  · exact hret

/-- The same of `read_cmd`, each round of which is a point to be looked at. -/
theorem Reaches.wp_readCmd (h : Reaches config e w₀ .reading w) :
    wp e (readCmd config) (fun ret w' ↦ if ret = .success then Reaches config e w₀ .parsing w'
      else Reaches config e w₀ .ended w') (StoppedIn config e w₀) w := by
  rw [readCmd_eq]
  refine wp_loop (fun _ w ↦ Reaches config e w₀ .reading w) (fun _ w h ↦ ?_)
    (fun _ w h ↦ ⟨_, w, h, .inr ⟨rfl, rfl⟩⟩) h
  have hstage := h.wp_stage
  rw [stage, wp_bind] at hstage
  refine wp_mono hstage ?_ fun _ _ h ↦ h
  rintro (⟨⟩ | ret) w' hround
  · exact hround
  · rw [wp_pure] at hround
    rw [Sum.elim_inr]
    split_ifs at hround ⊢
    · exact hround
    · exact hround

/-- The loop runs through states it reaches. -/
theorem commandLoop_reaches :
    wp e (commandLoop config) (fun _ w' ↦ Reaches config e w₀ .ended w') (StoppedIn config e w₀)
      w₀ :=
  commandLoop_wp (Reaches config e w₀ .reading) (Reaches config e w₀ .parsing)
    (Reaches config e w₀ .executing) (Reaches config e w₀ .removing)
    (fun w h ↦ ⟨_, w, h, .inr ⟨rfl, rfl⟩⟩) (fun _ h ↦ h.wp_readCmd) (fun _ h ↦ h.wp_call rfl)
    (fun _ h ↦ h.wp_call rfl) (fun _ h ↦ h.wp_call rfl) .start

/-! ### What holds in them -/

/-- The lines `ls` were consumed: `do_cmd` was called with what each of them says. -/
structure Consumed (ls : List Bytes) (w : World) : Prop where
  lines : ∀ l ∈ ls, lf ∉ l
  dispatched : dispatchedOf w.trace = ls.map splitCommand

/-- What was received are the lines `ls`, and what the buffer holds. -/
def Unparsed (ls : List Bytes) (w : World) : Prop :=
  receivedOf w.trace = unlines lf ls ++
    w.st.session.command.line.take w.st.session.command.dirtyLen

/-- What was received are the lines `ls`, the last of which is at the front of the buffer, and what
the buffer holds behind it. -/
def Behind (ls : List Bytes) (w : World) : Prop :=
  receivedOf w.trace = unlines lf ls ++
    (w.st.session.command.line.take w.st.session.command.dirtyLen).drop w.st.session.command.len

/-- What holds in a state of the control loop. -/
def Intact (phase : Phase) (w : World) : Prop :=
  let c := w.st.session.command
  match phase with
  | .reading | .parsing => ∃ ls, Consumed ls w ∧ Unparsed ls w ∧ c.dirtyLen < c.lineLen
  | .executing => ∃ ls l, Consumed ls w ∧ lf ∉ l ∧ Behind (ls ++ [l]) w ∧
      (cstr c.line, c.argument) = splitCommand l ∧ 1 ≤ c.len ∧ c.len ≤ c.dirtyLen ∧
      c.dirtyLen < c.lineLen
  | .removing => ∃ ls, Consumed ls w ∧ Behind ls w ∧ 1 ≤ c.len ∧ c.len ≤ c.dirtyLen ∧
      c.dirtyLen < c.lineLen
  | .ended => ∃ ls, Consumed ls w ∧ (Unparsed ls w ∨ Behind ls w) ∧ c.dirtyLen ≤ c.lineLen

/-- A `recv` is offered so much space. -/
def Offered (max : ℕ) (x : Item kernel) : Prop :=
  ∀ sock n (r : Answer (.recv sock n)), x = .call (.recv sock n) r → n = max

/-- The lines that were dispatched are gone from the stream. -/
theorem Progress.consumed {ls : List Bytes} {rest : Bytes} (h : Progress w ls rest) :
    Consumed ls w := ⟨h.lines, h.dispatched⟩

/-- What each phase leaves, in the terms of the proofs about single functions. -/
def Between (phase : Phase) (w : World) : Prop :=
  match phase with
  | .reading => ∃ ls, Buffered ls w
  | .parsing => ∃ ls, Buffered ls w ∧ lf ∈ dirtyPart w.st.session.command
  | .executing => ∃ ls l post, Ready ls l post w
  | .removing => ∃ ls n post, Executed ls n post w
  | .ended => ∃ ls, ReadOver ls w ∨ ∃ n post, Executed ls n post w

/-- Each phase leads from what holds before it to what holds before the next. -/
theorem between_stage (h : Between phase w) :
    wp e (stage config phase) Between (fun _ _ ↦ True) w := by
  cases phase with
  | reading =>
    obtain ⟨ls, h⟩ := h
    refine (wp_bind _ _).2 (wp_mono (buffered_readRound h) ?_ fun _ _ _ ↦ trivial)
    rintro (⟨⟩ | ret) w' hround
    · exact ⟨ls, hround⟩
    -- a round that ends `read_cmd` has found a line, or the loop is left with the buffer as it is
    · rw [Sum.elim_inr] at hround
      rw [wp_pure]
      split_ifs at hround ⊢
      · exact ⟨ls, hround⟩
      · exact ⟨ls, .inl hround⟩
  | parsing =>
    obtain ⟨ls, h, hlf⟩ := h
    refine (wp_bind _ _).2 (wp_mono (buffered_parseCmd h hlf) ?_ fun _ _ _ ↦ trivial)
    rintro _ w' ⟨rfl, hready⟩
    exact ⟨ls, hready⟩
  | executing =>
    obtain ⟨ls, l, post, h⟩ := h
    refine (wp_bind _ _).2 (wp_mono (ready_doCmd h) (fun ret w' hdone ↦ ?_) fun _ _ _ ↦ trivial)
    rw [wp_pure]
    -- either way the line is still in front, now executed
    split_ifs
    · exact ⟨_, _, _, hdone.1⟩
    · exact ⟨_, .inr ⟨_, _, hdone.1⟩⟩
  | removing =>
    obtain ⟨ls, n, post, h⟩ := h
    refine (wp_bind _ _).2 (wp_mono (executed_removeCmd h) ?_ fun _ _ _ ↦ trivial)
    rintro _ w' ⟨rfl, hbuffered⟩
    exact ⟨ls, hbuffered⟩
  | ended => exact h

/-- What is behind the line is the rest of the dirty part. -/
theorem Cut.behindPart_eq {n : ℕ} {post : Bytes} (h : Cut n post w) :
    behindPart post w.st.session.command =
      (w.st.session.command.line.take w.st.session.command.dirtyLen).drop
        w.st.session.command.len := by
  rw [behindPart, ← h.parsed.ends.behind, ← h.parsed.len, List.drop_take]

/-- The line is not empty, and all in the dirty part, which is shorter than the buffer. -/
theorem Cut.lengths {n : ℕ} {post : Bytes} (h : Cut n post w) :
    1 ≤ w.st.session.command.len ∧ w.st.session.command.len ≤ w.st.session.command.dirtyLen ∧
      w.st.session.command.dirtyLen < w.st.session.command.lineLen := by
  refine ⟨?_, h.len_le, ?_⟩
  · rw [h.parsed.len]
    exact Nat.le_add_left 1 n
  · rw [FtpCommand.lineLen, h.length]
    exact h.dirty

/-- There is always space for `recv` to fill. -/
theorem Buffered.dirty_lt {ls : List Bytes} (h : Buffered ls w) :
    w.st.session.command.dirtyLen < w.st.session.command.lineLen := by
  rw [FtpCommand.lineLen, h.length]
  exact h.dirty

/-- After the command, the rest of the stream is behind its line. -/
theorem Executed.behind {ls : List Bytes} {n : ℕ} {post : Bytes} (h : Executed ls n post w) :
    Behind ls w := by
  rw [Behind, ← h.behindPart_eq]
  exact h.progress.received

/-- All of this, read off the session. -/
theorem Between.intact (h : Between phase w) : Intact phase w := by
  cases phase with
  | reading =>
    obtain ⟨ls, h⟩ := h
    exact ⟨ls, h.progress.consumed, h.progress.received, h.dirty_lt⟩
  | parsing =>
    obtain ⟨ls, h, -⟩ := h
    exact ⟨ls, h.progress.consumed, h.progress.received, h.dirty_lt⟩
  | executing =>
    obtain ⟨ls, l, post, h⟩ := h
    refine ⟨ls, l, h.progress.consumed, h.noLf, ?_, h.command, h.lengths⟩
    rw [Behind, ← h.behindPart_eq, h.progress.received, unlines_concat]
    simp
  | removing =>
    obtain ⟨ls, n, post, h⟩ := h
    exact ⟨ls, h.progress.consumed, h.behind, h.lengths⟩
  | ended =>
    obtain ⟨ls, h | ⟨n, post, h⟩⟩ := h
    · exact ⟨ls, h.progress.consumed, .inl h.progress.received, h.dirty_le⟩
    · exact ⟨ls, h.progress.consumed, .inr h.behind, h.lengths.2.2.le⟩

/-- So it holds in every phase that is reached. -/
theorem Reaches.between (h : Reaches config e w₀ phase w) (hstart : Between .reading w₀) :
    Between phase w := by
  induction h with
  | start => exact hstart
  | step _ hstage ih => exact wp_ret (between_stage ih) hstage

/-! ### What `recv` is offered -/

section Offered

variable {max : ℕ}

theorem offered_guard : Guard (fun _ ↦ True) (Extends (σ := Process) (Offered max)) where
  refl w _ := .refl w
  trans _ h₁ h₂ := h₁.trans h₂
  keep _ _ := trivial

/-- Only a `recv` offers space. -/
theorem offered_sys {c : Call} (hc : ∀ sock n, c = .recv sock n → n = max) :
    Within (fun _ ↦ True) (Extends (Offered max)) (sys c) := by
  refine within_sys offered_guard fun w r _ ↦ .concat rfl fun sock n r' heq ↦ ?_
  obtain ⟨rfl, -⟩ := Item.call.inj heq
  exact hc sock n rfl

theorem offered_mark (n : Note) : Within (fun _ ↦ True) (Extends (Offered max)) (mark n) :=
  within_mark fun _ _ ↦ .concat rfl fun _ _ _ heq ↦ by cases heq

/-- Nothing else in the session does. -/
theorem offered_steps :
    StepLogic (· ≠ .control) (fun _ ↦ True) (Extends (Offered max)) where
  toCallLogic := .of_observe offered_guard (by decide) (by decide)
    (fun c hc ↦ offered_sys fun _ _ heq ↦ absurd (heq ▸ rfl) hc)
    (fun _ ↦ within_setErrno fun _ _ ↦ .of_eq rfl) fun _ _ ↦ offered_mark _
  statePool _ _ := within_modify fun _ _ ↦ .of_eq rfl
  modifySession _ _ := within_modify fun _ _ ↦ .of_eq rfl
  undefined _ _ _ _ := offered_mark _

theorem offered_handleSignal (waiter : Waiter) :
    Within (fun _ ↦ True) (Extends (Offered max)) (serverHandleSignal waiter) :=
  offered_steps.serverHandleSignal waiter (fun _ ↦ within_modify fun _ _ ↦ .of_eq rfl)
    (offered_mark _)

/-- `read_poll` offers what it was given, once. -/
theorem offered_readPoll (sock : ℤ) :
    Within (fun _ ↦ True) (Extends (Offered max)) (readPoll config sock max) := by
  have L := @offered_steps max
  have hpoll : Within (fun _ ↦ True) (Extends (Offered max))
      (sys (.poll sock config.idleTimeout)) :=
    offered_sys fun _ _ heq ↦ by cases heq
  have hrecv : Within (fun _ ↦ True) (Extends (Offered max)) (sys (.recv sock max)) :=
    offered_sys fun _ _ heq ↦ by cases heq; rfl
  have hinterrupted := L.interruptedToQuit (offered_handleSignal .readPoll)
  refine L.bind (L.checked hpoll) fun r ↦ ?_
  rcases r with - | _ | _
  · refine L.bind hinterrupted fun b ↦ ?_
    split_ifs <;> exact L.pure _
  · exact L.pure _
  · refine L.bind (L.checked hrecv) fun r ↦ ?_
    rcases r with - | bs
    · refine L.bind hinterrupted fun b ↦ ?_
      split_ifs
      · exact L.pure _
      · refine L.bind (L.errnoIs _) fun b ↦ ?_
        split_ifs <;> exact L.pure _
    · exact L.pure _

end Offered

/-- A round of `read_cmd` offers `recv` the space that is left in the buffer. -/
theorem readRound_offers (config : FtpConfig) (e : Env) (w : World) :
    Extends (Offered (w.st.session.command.lineLen - w.st.session.command.dirtyLen)) w
      (readRound config e w).2 := by
  generalize hmax : w.st.session.command.lineLen - w.st.session.command.dirtyLen = max
  have L := @offered_steps max
  refine within_getSession_bind (P := fun w' ↦ w'.st.session = w.st.session)
    (fun w' hw' ↦ ?_) e w rfl
  dsimp only
  rw [hw', hmax]
  refine Within.mono (P := fun _ ↦ True) (R := Extends (Offered max)) ?_ (fun _ _ ↦ trivial)
    fun _ _ _ h ↦ h
  split_ifs
  · exact L.pure _
  refine L.bind (offered_readPoll _) fun r ↦ ?_
  rcases r with - | bs
  · refine L.bind (L.errnoIs _) fun b ↦ ?_
    split_ifs
    · refine L.bind (offered_handleSignal _) fun ret ↦ ?_
      split_ifs <;> exact L.pure _
    · exact L.pure _
  · by_cases hbs : bs = []
    · simp only [if_pos hbs]
      exact L.pure _
    simp only [if_neg hbs]
    split
    · exact L.fault
    · refine L.bind (within_modify fun _ _ ↦ .of_eq rfl) fun _ ↦ ?_
      split_ifs
      · exact L.bind (L.reply (by decide) _ _ (by decide)) fun _ ↦ L.pure _
      · exact L.pure _

/-- **No byte is lost, duplicated or altered before it is parsed.** In every state that the control
loop of a new session reaches, what was received is what was consumed, followed by what is in the
buffer; `read_cmd` offers `recv` the space that is left, which is some, and `remove_cmd` removes a
line that is there. -/
theorem controlLoop_intact (config : FtpConfig) (e : Env) (s : Process) (conn : FtpConn)
    (line virtPath : Bytes) (hline : line.length = commandBufferSize) (phase : Phase) (w : World)
    (h : Reaches config e (World.start { s with session := freshSession conn line virtPath })
      phase w) :
    Intact phase w ∧ (phase = .reading →
      Extends (Offered (w.st.session.command.lineLen - w.st.session.command.dirtyLen)) w
        (readRound config e w).2) := by
  refine ⟨(h.between ⟨[], ?_⟩).intact, fun _ ↦ readRound_offers config e w⟩
  exact buffered_start s conn line virtPath hline

/-- After `NO` and `OP\r\nNOOP` were received, `NOOP` is executed and the rest of the stream waits
behind it. -/
theorem controlLoop_intact_behind :
    let w₀ := World.start { Process.initial 1 with
      session := freshSession noSession.conn (List.replicate commandBufferSize 0) [] }
    let e := clientEnv [ofString "NO", ofString "OP\r\nNOOP"]
    let w₁ := (stage loadDefaults .reading e w₀).2
    let w₂ := (stage loadDefaults .reading e w₁).2
    let w₃ := (stage loadDefaults .reading e w₂).2
    let w₄ := (stage loadDefaults .parsing e w₃).2
    Intact .executing w₄ := by
  intro w₀ e w₁ w₂ w₃ w₄
  have h₁ : Reaches loadDefaults e w₀ .reading w₁ := .step .start (run_eq (by decide +kernel))
  have h₂ : Reaches loadDefaults e w₀ .reading w₂ := .step h₁ (run_eq (by decide +kernel))
  have h₃ : Reaches loadDefaults e w₀ .parsing w₃ := .step h₂ (run_eq (by decide +kernel))
  have h₄ : Reaches loadDefaults e w₀ .executing w₄ := .step h₃ (run_eq (by decide +kernel))
  exact (controlLoop_intact loadDefaults e (Process.initial 1) noSession.conn
    (List.replicate commandBufferSize 0) [] List.length_replicate .executing w₄ h₄).1

end FtpServer
