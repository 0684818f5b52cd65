import FtpServer.Proofs.CommandBuffer

/-!
# The commands a session executes are the lines it received

The bytes a session has received are, at every point of a run, the lines whose commands it has
dispatched, followed by what lies in its buffer (`Progress`). So the commands are a function of the
stream alone, however `recv` cut it up; the loop only falls behind when a `recv` fills the buffer to
its end, which it takes for a line that is too long.

* `Ready` holds once `parse_cmd` has cut the line, and `Executed` once `do_cmd` is done with it;
  while a command is executed, the bytes behind its line stay where they are (`KeepsCut`).
* `buffered_commandLoop` goes round once, and `commandLoop_commands` is the result about whole runs.

Why the loop may end is another matter, and shown in a module before this one.
-/

namespace FtpServer

open CString Effect Effect.Proc Lines

variable {α : Type} {config : FtpConfig} {e : Env} {w w' : World} {ls : List Bytes} {rest : Bytes}

/-! ### Executing a command -/

/-- The line in the buffer was cut at index `n`, behind which `post` follows. -/
structure Parsed (n : ℕ) (post : Bytes) (c : FtpCommand) : Prop where
  ends : LineEnds c.line n post
  len : c.len = n + 1
  arg : ∀ i, c.arg = .line i → i ≤ n

/-- While the line at the front of the buffer is being worked on. -/
structure Cut (n : ℕ) (post : Bytes) (w : World) : Prop where
  parsed : Parsed n post w.st.session.command
  roomy : Roomy w
  length : w.st.session.command.line.length = commandBufferSize
  len_le : w.st.session.command.len ≤ w.st.session.command.dirtyLen
  dirty : w.st.session.command.dirtyLen < commandBufferSize

/-- What was received behind the line. -/
def behindPart (post : Bytes) (c : FtpCommand) : Bytes := post.take (c.dirtyLen - c.len)

/-- Quiet actions that leave alone what is behind the line. -/
structure KeepsCut (n : ℕ) (post : Bytes) (w w' : World) : Prop where
  parsed : Parsed n post w'.st.session.command
  dirtyLen : w'.st.session.command.dirtyLen = w.st.session.command.dirtyLen
  quiet : KeepsQuiet w w'

section Handlers

variable {n : ℕ} {post : Bytes}

theorem keepsCut_guard : Guard (fun w ↦ Parsed n post w.st.session.command) (KeepsCut n post) where
  refl w hw := ⟨hw, rfl, .refl w⟩
  trans _ h₁ h₂ := ⟨h₂.parsed, h₂.dirtyLen.trans h₁.dirtyLen, h₁.quiet.trans h₂.quiet⟩
  keep _ h := h.parsed

/-- What leaves the command alone leaves the line alone. -/
theorem KeepsCommand.keepsCut (hw : Parsed n post w.st.session.command) (h : KeepsCommand w w') :
    KeepsCut n post w w' :=
  ⟨by rw [h.1]; exact hw, by rw [h.1], h.2⟩

/-- The same of actions. -/
theorem keepsCut_of_command {m : Program α} (hm : Within (fun _ ↦ True) KeepsCommand m) :
    Within (fun w ↦ Parsed n post w.st.session.command) (KeepsCut n post) m :=
  hm.mono (fun _ _ ↦ trivial) fun _ _ hw h ↦ h.keepsCut hw

/-- So most actions do. -/
theorem keepsCut_steps :
    StepLogic (· ≠ .control) (fun w ↦ Parsed n post w.st.session.command) (KeepsCut n post) where
  toCallLogic := .of_observe keepsCut_guard (by decide) (by decide)
    (fun c hc ↦ keepsCut_of_command (keepsCommand_steps.sys c hc))
    (fun err ↦ keepsCut_of_command (keepsCommand_steps.setErrno err))
    fun o _ ↦ keepsCut_of_command (keepsCommand_observe o)
  undefined _ _ o _ := keepsCut_of_command (keepsCommand_observe o)
  statePool h pool := keepsCut_of_command (keepsCommand_steps.statePool h pool)
  modifySession f hf := keepsCut_of_command (keepsCommand_steps.modifySession f hf)

/-- An edit of the line, in front of its terminator. -/
theorem Parsed.edit {c : FtpCommand} (h : Parsed n post c) {line : Bytes}
    (hline : LineEnds line n post) : Parsed n post { c with line } :=
  ⟨hline, h.len, h.arg⟩

/-- The argument is trimmed in place, in front of the terminator. -/
theorem keepsCut_trimArgument :
    Within (fun w ↦ Parsed n post w.st.session.command) (KeepsCut n post) trimArgument := by
  refine within_getSession_bind fun w hw ↦ ?_
  dsimp only
  split
  · rename_i i harg
    split
    · exact keepsCut_steps.fault
    · rename_i line j htrim
      have hline := hw.ends.trimWhitespace (hw.arg i harg) htrim
      refine keepsCut_steps.bind (within_modify fun w' hw' ↦ ?_) fun _ ↦ keepsCut_steps.pure _
      exact ⟨hw'.edit hline, rfl, .of_eq rfl⟩
  · exact keepsCut_steps.fault

/-- And so are its options cut off. -/
theorem keepsCut_listArgument :
    Within (fun w ↦ Parsed n post w.st.session.command) (KeepsCut n post) listArgument := by
  refine within_getSession_bind fun w hw ↦ ?_
  dsimp only
  split
  · rename_i i harg
    split
    · exact keepsCut_steps.fault
    · rename_i line j optA hlist
      have hline := hw.ends.parseListOptions (hw.arg i harg) hlist
      refine keepsCut_steps.bind (within_modify fun w' hw' ↦ ?_) fun _ ↦ keepsCut_steps.pure _
      exact ⟨hw'.edit hline, rfl, .of_eq rfl⟩
  · exact keepsCut_steps.fault

/-- No handler touches what is behind the line. -/
theorem keepsCut_handlers (config : FtpConfig) :
    TransferLogic (· ≠ .control) (fun _ ↦ True) (fun _ ↦ True) config
      (fun w ↦ Parsed n post w.st.session.command) (KeepsCut n post) where
  toDirectoryLogic := by
    refine .of_steps keepsCut_steps (by decide)
      (fun _ _ _ ↦ keepsCut_steps.sys _ (by simp [Call.topic])) (fun f ↦ keepsCut_of_command ?_)
      (fun f ↦ keepsCut_of_command ?_) ?_ keepsCut_trimArgument keepsCut_listArgument
    · exact within_modify fun _ _ ↦ ⟨rfl, .of_eq rfl⟩
    · exact within_modify fun _ _ ↦ ⟨rfl, .of_eq rfl⟩
    · exact within_modify fun w hw ↦ ⟨⟨hw.ends, hw.len, fun i h ↦ by cases h⟩, rfl, .of_eq rfl⟩
  process := by decide
  name := by decide
  progress := by decide
  serverHandleSignal waiter _ := keepsCut_of_command (keepsCommand_handleSignal waiter)

/-- Nor does a login. -/
theorem keepsCut_login :
    LoginLogic (· ≠ .control) (fun w ↦ Parsed n post w.st.session.command) (KeepsCut n post) where
  toStepLogic := keepsCut_steps
  process := by decide
  rename _ _ := keepsCut_of_command (within_modify fun _ _ ↦ ⟨rfl, .of_eq rfl⟩)
  logIn := keepsCut_of_command (within_modify fun _ _ ↦ ⟨rfl, .of_eq rfl⟩)
  named _ := keepsCut_of_command
    (within_mark fun _ _ ↦ ⟨rfl, .concat rfl ⟨rfl, rfl, rfl, rfl, rfl⟩⟩)
  loggedIn _ := keepsCut_of_command
    (within_mark fun _ _ ↦ ⟨rfl, .concat rfl ⟨rfl, rfl, rfl, rfl, rfl⟩⟩)
  initVfsPool rootDir := keepsCut_of_command (keepsCommand_steps.initVfsPool
    (fun _ _ _ _ _ _ ↦ ⟨rfl, .concat rfl ⟨rfl, rfl, rfl, rfl, rfl⟩⟩) rootDir)

end Handlers

/-- `parse_cmd` has cut the line `l`, and what it made of it is the command the line stands for. -/
structure Ready (ls : List Bytes) (l post : Bytes) (w : World) : Prop extends
    Cut l.length post w where
  idle : Executing 0 w
  command : (cstr w.st.session.command.line, w.st.session.command.argument) = splitCommand l
  noLf : lf ∉ l
  progress : Progress w ls (l ++ lf :: behindPart post w.st.session.command)

/-- `do_cmd` has executed the last of the lines `ls`. -/
structure Executed (ls : List Bytes) (n : ℕ) (post : Bytes) (w : World) : Prop extends
    Cut n post w where
  idle : Executing 0 w
  progress : Progress w ls (behindPart post w.st.session.command)

/-- `parse_cmd` cuts the first line off, and the rest stays behind it. -/
theorem buffered_parseCmd (h : Buffered ls w) (hlf : lf ∈ dirtyPart w.st.session.command) :
    wp e parseCmd (fun ret w' ↦ ret = .success ∧ ∃ l post, Ready ls l post w') Halted w := by
  obtain ⟨l, behind, hpart, hl⟩ := List.eq_append_cons_of_mem hlf
  -- the buffer is the line, its LF, and what is behind it, of which only a part is dirty
  have hline : w.st.session.command.line =
      l ++ lf :: (behind ++ w.st.session.command.line.drop w.st.session.command.dirtyLen) := by
    calc w.st.session.command.line
        = dirtyPart w.st.session.command ++
            w.st.session.command.line.drop w.st.session.command.dirtyLen :=
          (List.take_append_drop _ _).symm
      _ = _ := by rw [hpart, List.append_assoc, List.cons_append]
  have hdirty : w.st.session.command.dirtyLen = l.length + 1 + behind.length := by
    have hlength := congrArg List.length hpart
    have hlt := h.dirty
    rw [dirtyPart, List.length_take, h.length, min_eq_left hlt.le, List.length_append,
      List.length_cons] at hlength
    omega
  have hfind : w.st.session.command.line.findIdx? (· = lf) = some l.length := by
    rw [hline]
    exact findIdx?_eq_length hl
  obtain ⟨buf, j, hparse, hends, hj, hcommand⟩ := parseLine_spec l
    (behind ++ w.st.session.command.line.drop w.st.session.command.dirtyLen)
  rw [← hline] at hparse
  rw [parseCmd, wp_bind, wp_getSession]
  simp only [hfind, hparse]
  -- the fields of `Ready` that speak of indices come down to the lengths of these parts
  refine ⟨rfl, l, _, ⟨⟨hends, rfl, fun i hi ↦ ?_⟩, h.roomy, ?_, ?_, h.dirty⟩, h.idle, hcommand, hl,
    ?_⟩
  · obtain rfl : j = i := by simpa using hi
    exact hj
  · have hlength := congrArg List.length hline
    rw [h.length, List.length_append, List.length_cons] at hlength
    show buf.length = commandBufferSize
    rw [hends.length, hlength]
    omega
  · show l.length + 1 ≤ w.st.session.command.dirtyLen
    omega
  · have hbehind : dirtyPart w.st.session.command = l ++ lf :: (behind ++
        w.st.session.command.line.drop w.st.session.command.dirtyLen).take
          (w.st.session.command.dirtyLen - (l.length + 1)) := by
      rw [hdirty, Nat.add_sub_cancel_left, List.take_left, ← hpart]
    exact (hbehind ▸ h.progress).keep (.of_eq rfl)

/-- `do_cmd` is entered with the command that the line stands for. -/
theorem Ready.dispatch {l post : Bytes} (h : Ready ls l post w) :
    Progress (noted w (.dispatch (cstr w.st.session.command.line) w.st.session.command.argument))
      (ls ++ [l]) (behindPart post w.st.session.command) where
  lines l' hl' := by
    rcases List.mem_append.1 hl' with hl' | hl'
    · exact h.progress.lines l' hl'
    · rw [List.mem_singleton.1 hl']
      exact h.noLf
  received := by
    have hnone : receivedOf (noted w (.dispatch (cstr w.st.session.command.line)
        w.st.session.command.argument)).trace = receivedOf w.trace := by
      rw [receivedOf, noted_trace, List.filterMap_append]
      exact congrArg List.flatten (List.append_nil _)
    rw [hnone, h.progress.received, unlines_concat]
    simp
  dispatched := by
    rw [dispatchedOf, noted_trace, List.filterMap_append, ← dispatchedOf, h.progress.dispatched,
      List.map_append, List.map_singleton, ← h.command]
    rfl
  inStep := atEach_concat.2 ⟨h.progress.inStep, fun hwaits ↦ by cases hwaits⟩

/-- While the command is executed, the rest of the stream is not touched. -/
theorem Cut.keep {n : ℕ} {post : Bytes} (h : Cut n post w) (hk : KeepsCut n post w w') :
    Cut n post w' := by
  have hlen : w'.st.session.command.len = w.st.session.command.len := by
    rw [hk.parsed.len, h.parsed.len]
  have hlength : w'.st.session.command.line.length = w.st.session.command.line.length := by
    rw [hk.parsed.ends.length, h.parsed.ends.length]
  refine ⟨hk.parsed, h.roomy.keep hk.quiet, by rw [hlength, h.length], ?_, ?_⟩
  · rw [hlen, hk.dirtyLen]
    exact h.len_le
  · rw [hk.dirtyLen]
    exact h.dirty

/-- A command that returned. -/
theorem Executing.finish {n : ℕ} (h : Executing (n + 1) w) (ret : FtpRet) :
    Executing n (noted w (.finished ret)) := by
  have hfinished : finishedOf (noted w (.finished ret)).trace = finishedOf w.trace ++ [ret] := by
    rw [finishedOf, noted_trace, List.filterMap_append]
    rfl
  have hdispatched : dispatchedOf (noted w (.finished ret)).trace = dispatchedOf w.trace := by
    rw [dispatchedOf, noted_trace, List.filterMap_append]
    exact List.append_nil _
  rw [Executing, hfinished, hdispatched, List.length_append, List.length_singleton, ← h]
  omega

/-- That a command has returned changes nothing about the stream. -/
theorem Progress.finish (h : Progress w ls rest) (ret : FtpRet) :
    Progress (noted w (.finished ret)) ls rest where
  lines := h.lines
  received := by
    rw [receivedOf, noted_trace, List.filterMap_append]
    exact (congrArg List.flatten (List.append_nil _)).trans h.received
  dispatched := by
    rw [dispatchedOf, noted_trace, List.filterMap_append]
    exact (List.append_nil _).trans h.dispatched
  inStep := atEach_concat.2 ⟨h.inStep, fun hwaits ↦ by cases hwaits⟩

/-- Nor about how it was received. -/
theorem Roomy.noted (h : Roomy w) (n : Note) : Roomy (noted w n) := by
  intro x hx
  rcases List.mem_append.1 hx with hx | hx
  · exact h x hx
  · obtain rfl := List.mem_singleton.1 hx
    rfl

/-- A note leaves the buffer alone. -/
theorem Cut.noted {n : ℕ} {post : Bytes} (h : Cut n post w) (note : Note) :
    Cut n post (noted w note) :=
  ⟨h.parsed, h.roomy.noted note, h.length, h.len_le, h.dirty⟩

/-- A command that is dispatched. -/
theorem Executing.dispatch {n : ℕ} (h : Executing n w) (verb argument : Bytes) :
    Executing (n + 1) (FtpServer.noted w (.dispatch verb argument)) := by
  have hfinished : finishedOf (FtpServer.noted w (.dispatch verb argument)).trace =
      finishedOf w.trace := by
    rw [finishedOf, noted_trace, List.filterMap_append]
    exact List.append_nil _
  have hdispatched : dispatchedOf (FtpServer.noted w (.dispatch verb argument)).trace =
      dispatchedOf w.trace ++ [(verb, argument)] := by
    rw [dispatchedOf, noted_trace, List.filterMap_append]
    rfl
  rw [Executing, hfinished, hdispatched, List.length_append, List.length_singleton, ← h]
  omega

/-- `do_cmd` executes the command, whatever it returns. -/
theorem ready_doCmd {l post : Bytes} (h : Ready ls l post w) :
    wp e (doCmd config) (fun ret w' ↦ Executed (ls ++ [l]) l.length post w' ∧
      (ret ≠ .success → LoopEnded w')) Halted w := by
  rw [doCmd, wp_bind, wp_getSession, wp_bind, wp_mark]
  set w₁ := noted w (.dispatch (cstr w.st.session.command.line) w.st.session.command.argument)
    with hw₁
  have hprogress : Progress w₁ (ls ++ [l]) (behindPart post w.st.session.command) := h.dispatch
  have hexec : Executing 1 w₁ := h.idle.dispatch _ _
  have hcut : Cut l.length post w₁ := h.toCut.noted _
  have hwithin : Within (fun w ↦ Parsed l.length post w.st.session.command)
      (KeepsCut l.length post) (execCmd config (cstr w.st.session.command.line)) :=
    keepsCut_steps.execCmd (by decide) (fun cmd hcmd ↦
      handler_within (keepsCut_handlers config) keepsCut_login (by decide) hcmd) _
  refine (wp_bind _ _).2 (wp_mono (hwithin.wp h.parsed) (fun ret w₂ hk ↦ ?_) fun halt w₂ hk ↦ ?_)
  · have hcut₂ := hcut.keep hk
    have hprogress₂ := (hprogress.keep hk.quiet).finish ret
    rw [wp_bind, wp_mark, wp_pure]
    refine ⟨⟨hcut₂.noted _, (hexec.keep hk.quiet).finish ret, ?_⟩, fun hret ↦ ?_⟩
    · have hbehind : behindPart post w₂.st.session.command =
          behindPart post w.st.session.command := by
        rw [behindPart, hk.dirtyLen, hk.parsed.len, ← h.parsed.len]
        rfl
      rw [noted_st, hbehind]
      exact hprogress₂
    · refine ⟨hprogress₂.sound, fun hall ↦ absurd (hall ret ?_) hret⟩
      rw [finishedOf, noted_trace, List.filterMap_append]
      exact List.mem_append_right _ List.mem_cons_self
  · exact ⟨(hprogress.keep hk.quiet).sound, fun _ ↦ hexec.keep hk.quiet⟩

/-- `remove_cmd` moves the rest to the front. -/
theorem executed_removeCmd {n : ℕ} {post : Bytes} (h : Executed ls n post w) :
    wp e removeCmd (fun ret w' ↦ ret = .success ∧ Buffered ls w') Halted w := by
  obtain ⟨hlength, hdirty, hpart⟩ := removeLine_spec h.parsed.ends h.parsed.len h.len_le
    (by rw [h.length]; exact h.dirty.le)
  refine ⟨rfl, ?_, h.roomy, h.idle, hlength.trans h.length, ?_⟩
  · show Progress _ ls (dirtyPart (removeLine w.st.session.command))
    rw [dirtyPart, hpart]
    exact h.progress.keep (.of_eq rfl)
  · show (removeLine w.st.session.command).dirtyLen < commandBufferSize
    have := h.dirty
    omega

/-! ### Runs -/

/-- The four stages, one after the other. -/
theorem buffered_commandLoop (h : Buffered ls w) :
    wp e (commandLoop config) (fun _ ↦ LoopEnded) Halted w := by
  refine commandLoop_wp (fun w ↦ ∃ ls, Buffered ls w)
    (fun w ↦ ∃ ls, Buffered ls w ∧ lf ∈ dirtyPart w.st.session.command)
    (fun w ↦ ∃ ls l post, Ready ls l post w) (fun w ↦ ∃ ls n post, Executed ls n post w)
    ?_ ?_ ?_ ?_ ?_ ⟨ls, h⟩
  · rintro w ⟨ls, hw⟩
    exact hw.progress.halted
  · rintro w ⟨ls, hw⟩
    refine wp_mono (buffered_readCmd hw) (fun ret w' h ↦ ?_) fun _ _ h ↦ h
    split_ifs at h ⊢
    · exact ⟨ls, h⟩
    · exact h
  · rintro w ⟨ls, hw, hlf⟩
    refine wp_mono (buffered_parseCmd hw hlf) (fun ret w' h ↦ ?_) fun _ _ h ↦ h
    rw [if_pos h.1]
    exact ⟨ls, h.2⟩
  · rintro w ⟨ls, l, post, hw⟩
    refine wp_mono (ready_doCmd hw) (fun ret w' h ↦ ?_) fun _ _ h ↦ h
    split_ifs with hret
    · exact ⟨_, _, _, h.1⟩
    · exact h.2 hret
  · rintro w ⟨ls, n, post, hw⟩
    refine wp_mono (executed_removeCmd hw) (fun ret w' h ↦ ?_) fun _ _ h ↦ h
    rw [if_pos h.1]
    exact ⟨ls, h.2⟩

/-- A new session has received nothing. -/
theorem buffered_start (s : Process) (conn : FtpConn) (line virtPath : Bytes)
    (hline : line.length = commandBufferSize) :
    Buffered [] (World.start { s with session := freshSession conn line virtPath }) := by
  refine ⟨⟨by simp, rfl, rfl, atEach_nil _⟩, fun x hx ↦ by simp at hx, rfl, hline, ?_⟩
  show 0 < commandBufferSize
  decide

/-- A run of the main loop on a session that `new_session` has made. -/
def loopRun (config : FtpConfig) (e : Env) (s : Process) (conn : FtpConn) (line virtPath : Bytes) :
    Outcome Unit × World :=
  commandLoop config e (World.start { s with session := freshSession conn line virtPath })

/-- **A session executes the lines it received, in order.** In every run of the main loop of a new
session:

* whenever it waits for input, it has dispatched exactly the terminated lines of the stream it
  received so far, each cut into verb and argument;
* at every point it has dispatched a prefix of them, and an unterminated line never;
* only a command that is being executed can do something undefined;
* the loop returns only if a command failed or the trace shows a reason: the client is silent or
  gone, a call failed, a signal terminates the session, or the buffer is full;
* if the loop returned although every command succeeded, and the unterminated end of the stream is
  shorter than the buffer, it has dispatched all of them if and only if no `recv` took all the space
  it was offered.

None of this looks at how the stream was cut into chunks otherwise. -/
theorem commandLoop_commands (config : FtpConfig) (e : Env) (s : Process) (conn : FtpConn)
    (line virtPath : Bytes) (hline : line.length = commandBufferSize) :
    let run := loopRun config e s conn line virtPath
    AtEach (fun before x ↦ waits x = true →
        dispatchedOf before = commandsOf (receivedOf before)) run.2.trace ∧
      dispatchedOf run.2.trace <+: commandsOf (receivedOf run.2.trace) ∧
      (run.1 = .halt .fault →
        (finishedOf run.2.trace).length + 1 = (dispatchedOf run.2.trace).length) ∧
      (run.1 = .ret () → (∀ ret ∈ finishedOf run.2.trace, ret = .success) →
        ∃ x ∈ run.2.trace, stopsReading x = true) ∧
      (run.1 = .ret () → (∀ ret ∈ finishedOf run.2.trace, ret = .success) →
        (unfinished lf (receivedOf run.2.trace)).length < commandBufferSize →
          (dispatchedOf run.2.trace = commandsOf (receivedOf run.2.trace) ↔
            ∀ x ∈ run.2.trace, fillsBuffer x = false)) := by
  intro run
  have hfresh := buffered_start s conn line virtPath hline
  have hwp : wp e (commandLoop config) (fun _ ↦ LoopEnded) Halted
      (World.start { s with session := freshSession conn line virtPath }) :=
    buffered_commandLoop hfresh
  rcases hrun : run with ⟨_ | halt, w'⟩
  · obtain ⟨hsound, hended⟩ := wp_ret hwp hrun
    have hends : MayEnd w' := wp_ret commandLoop_stops hrun
    exact ⟨hsound.inStep, hsound.dispatched, by simp, fun _ ↦ hends, fun _ ↦ hended⟩
  · obtain ⟨hsound, hfault⟩ := wp_halt hwp hrun
    refine ⟨hsound.inStep, hsound.dispatched, fun h ↦ hfault ?_, fun h ↦ (by cases h),
      fun h ↦ by cases h⟩
    simpa using h

/-- A client that sends a command in two pieces, the start of another one, and nothing more. -/
def hesitantClient : Env := clientEnv [ofString "NO", ofString "OP\r\nNOOP"]

/-- The loop ends with the stream, and has executed the one command that is complete. (The buffer of
a session may hold anything at first, here zeros.) -/
theorem commandLoop_commands_zeros :
    let run := loopRun loadDefaults hesitantClient (Process.initial 1) noSession.conn
      (List.replicate commandBufferSize 0) []
    dispatchedOf run.2.trace = [(ofString "NOOP", [])] ∧
      (∃ x ∈ run.2.trace, stopsReading x = true) ∧
      (dispatchedOf run.2.trace = commandsOf (receivedOf run.2.trace) ↔
        ∀ x ∈ run.2.trace, fillsBuffer x = false) := by
  have hrun :
      let run := loopRun loadDefaults hesitantClient (Process.initial 1) noSession.conn
        (List.replicate commandBufferSize 0) []
      dispatchedOf run.2.trace = [(ofString "NOOP", [])] ∧ run.1 = .ret () ∧
        (∀ ret ∈ finishedOf run.2.trace, ret = .success) ∧
        (unfinished lf (receivedOf run.2.trace)).length < commandBufferSize := by
    decide +kernel
  obtain ⟨hdispatched, hret, hall, hshort⟩ := hrun
  obtain ⟨-, -, -, hends, hiff⟩ := commandLoop_commands loadDefaults hesitantClient
    (Process.initial 1) noSession.conn (List.replicate commandBufferSize 0) []
    List.length_replicate
  exact ⟨hdispatched, hends hret hall, hiff hret hall hshort⟩

/-- A client that sends 170 commands and the start of one more in one piece, exactly as much as the
buffer holds. -/
def pipeliningClient : Env := clientEnv
  [(List.replicate 170 (ofString "NOOP\r\n")).flatten ++ ofString "NOOP"]

/-- None of its commands is executed: the session ends, saying that the line was too long. -/
theorem pipeliningClient_refused :
    let run := loopRun loadDefaults pipeliningClient (Process.initial 1) noSession.conn
      (List.replicate commandBufferSize 0) (List.replicate ftpMaxPath 0)
    run.1 = .ret () ∧ (∀ ret ∈ finishedOf run.2.trace, ret = .success) ∧
      (∀ l ∈ (receivedOf run.2.trace).splitOn lf, l.length + 1 < commandBufferSize) ∧
      dispatchedOf run.2.trace = [] ∧ (commandsOf (receivedOf run.2.trace)).length = 170 := by
  decide +kernel

end FtpServer
