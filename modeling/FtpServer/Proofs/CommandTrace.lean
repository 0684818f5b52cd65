import FtpServer.Proofs.CommandLine
import FtpServer.Proofs.SessionLoop

/-!
# Commands in the trace

What the main loop of a session does is read off its trace.

* `receivedOf` is the stream, as far as it was received, and `commandsOf` cuts a stream into the
  commands of its terminated lines.
* `dispatchedOf` are the commands that `do_cmd` was called with, and `finishedOf` what it returned.
* `fillsBuffer` is a `recv` that took all the space it was offered.

`Progress w ls rest` says that the lines `ls` were received and dispatched, and that `rest` was
received behind them. An action that neither reads nor is about a command is `Quiet`, and keeps all
of this (`Progress.keep`); so do all actions but those of the loop itself (`keepsCommand_steps`).

One round of `read_cmd` has a definition of its own here, `readRound`, since it is looked at twice:
for what it does to the stream, and for why it gives up.
-/

namespace FtpServer

open CString Effect Effect.Proc Lines

/-! ### What the trace says -/

/-- What a `recv` returned. -/
def received? : Item kernel → Option Bytes
  | .call (.recv _ _) r =>
    match r.val with
    | .ok bs => some bs.1
    | .error _ => none
  | _ => none

/-- The stream, as far as it was received. -/
def receivedOf (trace : List (Item kernel)) : Bytes := (trace.filterMap received?).flatten

/-- The command that `do_cmd` was called with. -/
def dispatched? : Item kernel → Option (Bytes × Bytes)
  | .note (.dispatch verb argument) => some (verb, argument)
  | _ => none

def dispatchedOf (trace : List (Item kernel)) : List (Bytes × Bytes) := trace.filterMap dispatched?

/-- What `do_cmd` returned. -/
def finished? : Item kernel → Option FtpRet
  | .note (.finished ret) => some ret
  | _ => none

def finishedOf (trace : List (Item kernel)) : List FtpRet := trace.filterMap finished?

/-- The session waits for input or reads it. -/
def waits : Item kernel → Bool
  | .call c _ => (c : Call).topic = .control
  | _ => false

/-- A `recv` took all the space it was offered. -/
def fillsBuffer : Item kernel → Bool
  | .call (.recv _ max) r =>
    match r.val with
    | .ok bs => bs.1.length = max
    | .error _ => false
  | _ => false

/-- The commands of a stream: one for each terminated line. -/
def commandsOf (s : Bytes) : List (Bytes × Bytes) := (terminated lf s).map splitCommand

/-- When the session waits, it has dispatched exactly the commands it received. -/
def InStep (before : List (Item kernel)) (x : Item kernel) : Prop :=
  waits x = true → dispatchedOf before = commandsOf (receivedOf before)

/-- What holds at every point of a run. -/
structure Sound (w : World) : Prop where
  inStep : AtEach InStep w.trace
  dispatched : dispatchedOf w.trace <+: commandsOf (receivedOf w.trace)

/-! ### Progress -/

/-- The lines `ls` were received and dispatched, and `rest` was received behind them. -/
structure Progress (w : World) (ls : List Bytes) (rest : Bytes) : Prop where
  lines : ∀ l ∈ ls, lf ∉ l
  received : receivedOf w.trace = unlines lf ls ++ rest
  dispatched : dispatchedOf w.trace = ls.map splitCommand
  inStep : AtEach InStep w.trace

namespace Progress

variable {w w' : World} {ls : List Bytes} {rest : Bytes} (h : Progress w ls rest)
include h

/-- The stream holds what was dispatched and the lines still in the buffer. -/
theorem commandsOf : commandsOf (receivedOf w.trace) =
    dispatchedOf w.trace ++ (terminated lf rest).map splitCommand := by
  rw [FtpServer.commandsOf, h.received, terminated_unlines_append h.lines, List.map_append,
    h.dispatched]

/-- At any moment the commands dispatched are the first ones of the stream. -/
theorem sound : Sound w := ⟨h.inStep, h.commandsOf ▸ List.prefix_append _ _⟩

/-- Without a line in the buffer, everything was dispatched. -/
theorem caughtUp (hrest : lf ∉ rest) :
    dispatchedOf w.trace = FtpServer.commandsOf (receivedOf w.trace) := by
  rw [h.commandsOf, terminated_of_not_mem hrest, List.map_nil, List.append_nil]

/-- With one, something was not. -/
theorem behind (hrest : lf ∈ rest) :
    dispatchedOf w.trace ≠ FtpServer.commandsOf (receivedOf w.trace) := by
  rw [h.commandsOf]
  intro heq
  have hnil : (terminated lf rest).map splitCommand = [] := List.self_eq_append_right.1 heq
  exact terminated_ne_nil hrest (List.map_eq_nil_iff.1 hnil)

/-- The unterminated end of the stream is that of the buffer. -/
theorem unfinished : unfinished lf (receivedOf w.trace) = Lines.unfinished lf rest := by
  rw [h.received, unfinished_unlines_append h.lines]

end Progress

/-! ### Actions that are not about commands -/

/-- An entry that neither reads nor is about a command. -/
def Quiet (x : Item kernel) : Prop :=
  waits x = false ∧ received? x = none ∧ dispatched? x = none ∧ finished? x = none ∧
    fillsBuffer x = false

/-- Of all calls, only `poll` and `recv` on the control connection are about the stream. -/
theorem quiet_call {c : Call} (hc : c.topic ≠ .control) (r : Answer c) :
    Quiet (.call c r : Item kernel) := by
  have hwaits : waits (.call c r) = false := decide_eq_false hc
  cases c
  case recv => exact absurd rfl hc
  all_goals exact ⟨hwaits, rfl, rfl, rfl, rfl⟩

/-- Nothing was read or done about a command. -/
def KeepsQuiet (w w' : World) : Prop := Extends Quiet w w'

/-- Quiet actions change nothing of it. -/
theorem Progress.keep {w w' : World} {ls : List Bytes} {rest : Bytes} (h : Progress w ls rest)
    (hk : KeepsQuiet w w') : Progress w' ls rest where
  lines := h.lines
  received := by
    rw [receivedOf, hk.filterMap fun _ hx ↦ hx.2.1]
    exact h.received
  dispatched := (hk.filterMap fun _ hx ↦ hx.2.2.1).trans h.dispatched
  inStep := hk.atEach (fun _ hx _ hwaits ↦ absurd (hx.1.symm.trans hwaits) (by simp)) h.inStep

/-- No `recv` took all the space it was offered. -/
def Roomy (w : World) : Prop := ∀ x ∈ w.trace, fillsBuffer x = false

/-- A quiet action is no `recv` at all. -/
theorem Roomy.keep {w w' : World} (h : Roomy w) (hk : KeepsQuiet w w') : Roomy w' := by
  obtain ⟨suffix, ht, hs⟩ := hk
  intro x hx
  rw [ht, List.mem_append] at hx
  rcases hx with hx | hx
  · exact h x hx
  · exact (hs x hx).2.2.2.2

/-- Nor does it make up for one that filled the buffer. -/
theorem Roomy.of_keep {w w' : World} (h : Roomy w') (hk : KeepsQuiet w w') : Roomy w := by
  obtain ⟨suffix, ht, -⟩ := hk
  exact fun x hx ↦ h x (by rw [ht]; exact List.mem_append_left _ hx)

/-- So many commands were dispatched and have not returned. -/
def Executing (n : ℕ) (w : World) : Prop :=
  (finishedOf w.trace).length + n = (dispatchedOf w.trace).length

/-- Quiet actions are no ends of commands. -/
theorem Executing.keep {n : ℕ} {w w' : World} (h : Executing n w) (hk : KeepsQuiet w w') :
    Executing n w' := by
  have hdispatched : dispatchedOf w'.trace = dispatchedOf w.trace :=
    hk.filterMap fun _ hx ↦ hx.2.2.1
  have hfinished : finishedOf w'.trace = finishedOf w.trace :=
    hk.filterMap fun _ hx ↦ hx.2.2.2.1
  rw [Executing, hdispatched, hfinished]
  exact h

/-- An early end: only a command that is being executed can go wrong. -/
def Halted (halt : Halt) (w : World) : Prop := Sound w ∧ (halt = .fault → Executing 1 w)

/-- Quiet actions that leave the command alone. -/
def KeepsCommand (w w' : World) : Prop :=
  w'.st.session.command = w.st.session.command ∧ KeepsQuiet w w'

theorem keepsCommand_guard : Guard (fun _ ↦ True) KeepsCommand where
  refl w _ := ⟨rfl, .refl w⟩
  trans _ h₁ h₂ := ⟨h₂.1.trans h₁.1, h₁.2.trans h₂.2⟩
  keep _ _ := trivial

/-- Observations say nothing about commands. -/
theorem keepsCommand_observe (o : Observation) :
    Within (fun _ ↦ True) KeepsCommand (observe o) :=
  within_mark fun _ _ ↦ ⟨rfl, .concat rfl ⟨rfl, rfl, rfl, rfl, rfl⟩⟩

/-- What a session does besides reading leaves its command buffer alone. -/
theorem keepsCommand_steps : StepLogic (· ≠ .control) (fun _ ↦ True) KeepsCommand where
  toCallLogic := .of_observe keepsCommand_guard (by decide) (by decide)
    (fun _ hc ↦ within_sys keepsCommand_guard fun _ r _ ↦ ⟨rfl, .concat rfl (quiet_call hc r)⟩)
    (fun _ ↦ within_setErrno fun _ _ ↦ ⟨rfl, .of_eq rfl⟩) fun o _ ↦ keepsCommand_observe o
  statePool _ _ := within_modify fun _ _ ↦ ⟨rfl, .of_eq rfl⟩
  modifySession _ hf := within_modify fun w _ ↦ ⟨(hf w.st.session).command, .of_eq rfl⟩
  undefined _ _ o _ := keepsCommand_observe o

/-- A signal that terminates the session is noted, but not as a command. -/
theorem keepsCommand_handleSignal (waiter : Waiter) :
    Within (fun _ ↦ True) KeepsCommand (serverHandleSignal waiter) :=
  keepsCommand_steps.serverHandleSignal waiter
    (fun _ ↦ within_modify fun _ _ ↦ ⟨rfl, .of_eq rfl⟩)
    (within_mark fun _ _ ↦ ⟨rfl, .concat rfl ⟨rfl, rfl, rfl, rfl, rfl⟩⟩)

/-! ### One round of reading -/

/-- One round of `read_cmd`. -/
def readRound (config : FtpConfig) : Program (Unit ⊕ FtpRet) := do
  let session ← getSession
  let command := session.command
  if lf ∈ command.line.take command.dirtyLen then
    return .inr .success
  match ← readPoll config session.conn.sock (command.lineLen - command.dirtyLen) with
  | none =>
    if ← errnoIs .eintr then
      if (← serverHandleSignal .readCmd) = .quit then return .inr .quit
      else return .inl ()
    else return .inr .error
  | some bs =>
    if bs = [] then
      return .inr .quit
    match storeAll command.line command.dirtyLen bs with
    | none => Proc.fault
    | some line =>
      let dirtyLen := command.dirtyLen + bs.length
      modifyCommand fun c ↦ { c with line, dirtyLen }
      if dirtyLen ≥ command.lineLen then
        let _ ← reply session.conn.sock (ofString "421 Command line too long\r\n")
        return .inr .quit
      return .inl ()

/-- `read_cmd` repeats this round until it returns. -/
theorem readCmd_eq (config : FtpConfig) :
    readCmd config = Proc.loop (fun _ ↦ readRound config) () := rfl

end FtpServer
