import FtpServer.Proofs.Jail
import FtpServer.Proofs.Replies

/-!
# Every reply is one line

What is replied is a fixed text of the source or what a format expands to, cut to the reply buffer.
The strings that the client chose never have an LF in them: an argument ends where its line does,
and the current directory is made of arguments (`Clean`). So a reply is a complete line except where
the buffer is too short for it (`ftpMain_replyLines`).

* `CompleteIfFits` is asked of each reply, where `lastExpansion` has the text that was cut.
* `Tidy` holds between two commands and `Clean` in one, where the argument has no LF in it either;
  it is there from `parse_cmd` on (`parseCmd_clean`).
* The relation of the actions is proved together with that of the jail, since a change of directory
  takes its LFs from a path (`lf_not_mem_resolved`).
-/

namespace FtpServer

open CString Effect Effect.Proc PathText

/-! ### What the trace says -/

/-- What `reply_format` has just expanded its format to. -/
def lastExpansion (trace : List (Item kernel)) : Option Bytes :=
  match trace.getLast? with
  | some (.note (.observe (.expansion text))) => some text
  | _ => none

/-- A reply is complete, unless it was formatted and is too long for the buffer. -/
def CompleteIfFits (before : List (Item kernel)) (x : Item kernel) : Prop :=
  ∀ msg ∈ reply? x,
    (CompleteReply msg ↔ ∀ text ∈ lastExpansion before, text.length < responseBufferSize)

/-- A complete line that is cut is no longer one. -/
theorem completeReply_take {text : Bytes} (h : CompleteReply text) :
    CompleteReply (text.take (responseBufferSize - 1)) ↔ text.length < responseBufferSize := by
  constructor
  · rintro ⟨⟨body, hbody⟩, -⟩
    by_contra hlen
    have hmem : lf ∈ text.take (responseBufferSize - 1) := by
      rw [← hbody]
      simp
    -- what is cut off is not empty, so the LF is in front of the last byte
    have hpre : text.take (responseBufferSize - 1) <+: text.dropLast := by
      rw [List.dropLast_eq_take]
      exact List.take_prefix_take_left (by omega)
    exact h.2 (hpre.subset hmem)
  · intro hlen
    rwa [List.take_of_length_le (by omega)]

/-! ### The invariant -/

/-- Between two commands. -/
structure Tidy (w : World) : Prop where
  jail : Jail w
  dir : lf ∉ cstr w.st.session.virtPath
  replies : AtEach CompleteIfFits w.trace
  ready : lastExpansion w.trace = none

/-- While a command is executed. -/
structure Clean (w : World) : Prop extends Tidy w where
  argument : lf ∉ w.st.session.command.argument

/-- An entry that has nothing to do with replies. -/
def Plain (x : Item kernel) : Prop := reply? x = none ∧ lastExpansion [x] = none

/-- Nothing is replied, and the strings that the client chose stay as they are. -/
structure KeepsTexts (w w' : World) : Prop where
  virtPath : w'.st.session.virtPath = w.st.session.virtPath
  command : w'.st.session.command = w.st.session.command
  plain : Extends Plain w w'

/-- Only the last entry counts. -/
theorem lastExpansion_concat (trace : List (Item kernel)) (x : Item kernel) :
    lastExpansion (trace ++ [x]) = lastExpansion [x] := by
  simp [lastExpansion]

/-- Plain entries leave no expansion behind. -/
theorem ready_of_plain {w w' : World} (h : Extends Plain w w') (hw : lastExpansion w.trace = none) :
    lastExpansion w'.trace = none := by
  obtain ⟨suffix, ht, hs⟩ := h
  rcases List.eq_nil_or_concat' suffix with rfl | ⟨suffix, x, rfl⟩
  · rwa [ht, List.append_nil]
  · rw [ht, ← List.append_assoc, lastExpansion_concat]
    exact (hs x (by simp)).2

/-- And no reply. -/
theorem replies_of_plain {w w' : World} (h : Extends Plain w w')
    (hw : AtEach CompleteIfFits w.trace) : AtEach CompleteIfFits w'.trace :=
  h.atEach (fun _ hx _ _ hmsg ↦ absurd (hx.1.symm.trans hmsg) (by simp)) hw

/-- So a clean world stays clean. -/
theorem Clean.keep {w w' : World} (h : Clean w) (hj : Jail w') (hk : KeepsTexts w w') :
    Clean w' where
  jail := hj
  dir := hk.virtPath ▸ h.dir
  replies := replies_of_plain hk.plain h.replies
  ready := ready_of_plain hk.plain h.ready
  argument := hk.command ▸ h.argument

theorem keepsTexts_guard : Guard (fun _ ↦ True) KeepsTexts where
  refl w _ := ⟨rfl, rfl, .refl w⟩
  trans _ h₁ h₂ := ⟨h₂.virtPath.trans h₁.virtPath, h₂.command.trans h₁.command,
    h₁.plain.trans h₂.plain⟩
  keep _ _ := trivial

theorem keepsTexts_mark {n : Note} (hn : Plain (.note n : Item kernel)) :
    Within (fun _ ↦ True) KeepsTexts (mark n) :=
  within_mark fun _ _ ↦ ⟨rfl, rfl, .concat rfl hn⟩

/-- Observations that are not about replies. -/
theorem keepsTexts_observe {o : Observation} (ho : o.topic ≠ .reply) :
    Within (fun _ ↦ True) KeepsTexts (observe o) := by
  refine keepsTexts_mark ?_
  cases o <;> first | exact ⟨rfl, rfl⟩ | exact absurd rfl ho

/-- Actions that reply nothing. -/
theorem keepsTexts_steps : StepLogic (· ≠ .reply) (fun _ ↦ True) KeepsTexts where
  toCallLogic := .of_observe keepsTexts_guard (by decide) (by decide)
    (fun _ _ ↦ within_sys keepsTexts_guard fun _ _ _ ↦ ⟨rfl, rfl, .concat rfl ⟨rfl, rfl⟩⟩)
    (fun _ ↦ within_setErrno fun _ _ ↦ ⟨rfl, rfl, .of_eq rfl⟩) fun _ ho ↦ keepsTexts_observe ho
  statePool _ _ := within_modify fun _ _ ↦ ⟨rfl, rfl, .of_eq rfl⟩
  modifySession _ hf := within_modify fun w _ ↦
    ⟨(hf w.st.session).virtPath, (hf w.st.session).command, .of_eq rfl⟩
  undefined _ _ o ho := by
    refine keepsTexts_observe fun htopic ↦ ?_
    cases o <;> first | exact ho | cases htopic

/-- The pool holds no text of a reply. -/
theorem keepsTexts_pool (f : VfsPool → VfsPool) : Within (fun _ ↦ True) KeepsTexts
    (Proc.modify fun s : Process ↦ { s with vfsPool := s.vfsPool.map f }) :=
  within_modify fun _ _ ↦ ⟨rfl, rfl, .of_eq rfl⟩

/-! ### Actions that reply nothing -/

variable {α : Type} {config : FtpConfig} {e : Env} {w : World}

/-- The relation of the actions. -/
def KeepsClean (_ w' : World) : Prop := Clean w'

theorem keepsClean_guard : Guard Clean KeepsClean := guard_inv _

/-- A jailed action that leaves the texts alone. -/
theorem keepsClean_of {m : Program α} (hj : Within Jail KeepsJail m)
    (ht : Within (fun _ ↦ True) KeepsTexts m) : Within Clean KeepsClean m :=
  fun e w hw ↦ hw.keep (hj e w hw.jail) (ht e w trivial)

/-! ### Replies -/

/-- The reply is noted before it is sent. -/
theorem keepsClean_sendall (sockfd : ℤ) (buf : Bytes) :
    Within Clean KeepsClean (sendall sockfd buf) :=
  keepsClean_of (jail_steps.sendall (by decide) _ _) (keepsTexts_steps.sendall (by decide) _ _)

/-- A reply that is complete if it fits leaves the trace in order. -/
theorem Tidy.reply {w : World} (h : Tidy w) {msg : Bytes} (hmsg : CompleteReply msg) :
    Tidy (noted w (.observe (.reply msg))) where
  jail := h.jail.noted rfl
  dir := h.dir
  replies := by
    refine atEach_concat.2 ⟨h.replies, ?_⟩
    rintro _ ⟨⟩
    simp [hmsg, h.ready]
  ready := lastExpansion_concat _ _

/-- A text that is complete, and cut. -/
theorem Tidy.format {w : World} (h : Tidy w) {text : Bytes} (htext : CompleteReply text) :
    Tidy (noted (noted w (.observe (.expansion text)))
      (.observe (.reply (text.take (responseBufferSize - 1))))) where
  jail := (h.jail.noted rfl).noted rfl
  dir := h.dir
  replies := by
    refine atEach_concat.2 ⟨atEach_concat.2 ⟨h.replies, ?_⟩, ?_⟩
    · rintro _ ⟨⟩
    · rintro _ ⟨⟩
      rw [noted_trace, lastExpansion_concat, completeReply_take htext]
      simp [lastExpansion]
  ready := lastExpansion_concat _ _

/-- With an argument of one line, all replies of a command are as they should be. -/
theorem keepsClean_calls : CallLogic (· ≠ .path) Clean KeepsClean where
  toGuard := keepsClean_guard
  other := by decide
  sys c hc := keepsClean_of (jail_steps.sys c hc) (within_sys keepsTexts_guard fun _ _ _ ↦
    ⟨rfl, rfl, .concat rfl ⟨rfl, rfl⟩⟩)
  setErrno err := keepsClean_of (jail_steps.setErrno err) (keepsTexts_steps.setErrno err)
  observe o _ ho := keepsClean_of (jail_observe o) (keepsTexts_observe ho)
  reply _ sock msg hmsg := by
    refine within_iff_wp.2 fun e w hw ↦ ?_
    rw [reply, observe, wp_bind, wp_mark]
    exact (keepsClean_sendall sock msg).wp ⟨hw.toTidy.reply hmsg, hw.argument⟩
  replyFormat _ w₀ hw₀ text htext := by
    refine within_iff_wp.2 fun e w hw ↦ ?_
    have hcomplete : CompleteReply text := htext hw₀.argument hw₀.dir
    rw [replyFormat, wp_bind, wp_get]
    split_ifs
    · simp only [observe, reply, wp_bind, wp_mark, wp_getSession]
      exact wp_mono ((keepsClean_sendall _ _).wp ⟨hw.toTidy.format hcomplete, hw.argument⟩)
        (fun _ _ h ↦ h) fun _ _ h ↦ h
    · exact hw

/-- And all its actions. -/
theorem keepsClean_steps : StepLogic (· ≠ .path) Clean KeepsClean where
  toCallLogic := keepsClean_calls
  statePool h pool := keepsClean_of (jail_steps.statePool h pool)
    (keepsTexts_steps.statePool (by decide) pool)
  modifySession f hf := keepsClean_of (jail_steps.modifySession f hf)
    (within_modify fun w _ ↦ ⟨(hf w.st.session).virtPath, (hf w.st.session).command, .of_eq rfl⟩)
  undefined w _ o ho := keepsClean_of (jail_observe o) (keepsTexts_steps.undefined w trivial o ho)

/-! ### Paths -/

/-- A call with a path replies nothing. -/
theorem keepsTexts_path (op : PathOp) (path : Bytes) :
    Within (fun _ ↦ True) KeepsTexts (sys (.path op path)) :=
  keepsTexts_steps.sys _ (by simp [Call.topic])

/-- Neither does resolving one. -/
theorem keepsTexts_resolve (cwd path : Bytes) :
    Within (fun _ ↦ True) KeepsTexts (vfsRealpath cwd path) :=
  keepsTexts_steps.vfsRealpath keepsTexts_pool cwd path

/-- What a path resolves to holds no LF, if neither the directory nor the path does. -/
theorem lf_not_mem_resolved {cwd path : Bytes} (hcwd : Canonical cwd) (hcwd_lf : lf ∉ cwd)
    (hpath : lf ∉ path) {dir : List Bytes}
    (h : normalizeWithin slash dot ftpMaxPath (baseOf cwd path) path = some dir) :
    lf ∉ render slash dir := by
  refine not_mem_render (by decide) (not_mem_of_normalizeWithin (fun c hc hmem ↦ ?_) hpath h)
  rw [baseOf] at hc
  split_ifs at hc
  · simp at hc
  · have hne : stackOf cwd ≠ [] := List.ne_nil_of_mem hc
    rw [← render_stackOf hcwd, render_of_ne_nil hne] at hcwd_lf
    exact hcwd_lf (List.mem_flatMap.2 ⟨c, hc, List.mem_cons_of_mem _ hmem⟩)

/-- Copying a path without an LF into the session's buffer. -/
theorem Clean.copy (hw : Clean w) {p : Bytes} (hp : Canonical p) (hnul : nul ∉ p) (hlf : lf ∉ p) :
    Clean { w with st := { w.st with session :=
      { w.st.session with virtPath := (strlcpy w.st.session.virtPath p ftpMaxPath).1 } } } where
  jail := hw.jail.copy hp hnul
  dir := by simpa only [cstr_strlcpy_canonical hw.jail.length hp hnul] using hlf
  replies := hw.replies
  ready := hw.ready
  argument := hw.argument

/-- A directory is made of arguments. -/
theorem keepsClean_vfsChdir {path : Bytes} (hpath : nul ∉ path) (hlf : lf ∉ path) :
    Within Clean KeepsClean (vfsChdir path) := by
  refine within_iff_wp.2 fun e w hw ↦ ?_
  have hcanonical := hw.jail.canonical
  have hnul := zero_not_mem_cstr w.st.session.virtPath
  rw [vfsChdir, wp_bind, wp_getSession, wp_bind]
  refine wp_mono (wp_and ((keepsTexts_resolve _ _).wp trivial)
    (vfsRealpath_jail hw.jail hcanonical hnul hpath)) ?_ fun _ w' h ↦ hw.keep h.2 h.1
  rintro (_ | _) w₁ ⟨hk, hw₁, -, hlocated⟩
  · exact hw.keep hw₁ hk
  obtain ⟨pool, dir, hp, hdir, hrender, hpcanonical⟩ := hlocated
  simp only [Bool.not_true, if_neg Bool.false_ne_true, wp_bind, wp_get, hp]
  exact (hw.keep hw₁ hk).copy hpcanonical (zero_not_mem_cstr _)
    (hrender ▸ lf_not_mem_resolved hcanonical hw.dir hlf hdir)

/-! ### Edits of the argument -/

/-- Such an edit of the line keeps the invariant. -/
theorem Clean.edit (hw : Clean w) {line : Bytes}
    (hline : line = w.st.session.command.line ∨ ∃ k, line = w.st.session.command.line.set k nul) :
    Clean { w with st := { w.st with session := { w.st.session with command :=
      { w.st.session.command with line } } } } where
  jail := hw.jail.of_eq rfl rfl rfl
  dir := hw.dir
  replies := hw.replies
  ready := hw.ready
  argument := by
    have harg := hw.argument
    rw [FtpCommand.argument] at harg ⊢
    rcases harg' : w.st.session.command.arg with - | i | -
    · simp
    · rw [harg'] at harg
      rcases hline with rfl | ⟨k, rfl⟩
      · exact harg
      · exact not_mem_cstr_set harg
    · show lf ∉ [dot, dot]
      decide

/-- Trimming adds no line end. -/
theorem keepsClean_trimArgument : Within Clean KeepsClean trimArgument := by
  refine within_iff_wp.2 fun e w hw ↦ ?_
  rw [trimArgument, wp_bind, wp_getSession]
  dsimp only
  split
  · split
    · exact hw
    · rename_i htrim
      exact hw.edit (trimWhitespace_line htrim)
  · exact hw

/-- Nor does cutting off the options. -/
theorem keepsClean_listArgument : Within Clean KeepsClean listArgument := by
  refine within_iff_wp.2 fun e w hw ↦ ?_
  rw [listArgument, wp_bind, wp_getSession]
  dsimp only
  split
  · split
    · exact hw
    · rename_i hlist
      exact hw.edit (parseListOptions_line hlist)
  · exact hw

/-! ### The handlers -/

/-- Nor a signal. -/
theorem keepsTexts_handleSignal (waiter : Waiter) :
    Within (fun _ ↦ True) KeepsTexts (serverHandleSignal waiter) :=
  keepsTexts_steps.serverHandleSignal waiter
    (fun _ ↦ within_modify fun _ _ ↦ ⟨rfl, rfl, .of_eq rfl⟩) (keepsTexts_mark ⟨rfl, rfl⟩)

/-- So all handlers reply complete lines, as far as they fit. -/
theorem keepsClean_handlers (config : FtpConfig) :
    TransferLogic (· ≠ .path) (fun _ ↦ True) (fun _ ↦ True) config Clean KeepsClean where
  toStepLogic := keepsClean_steps
  data := by decide
  send := by decide
  listening := by decide
  process := by decide
  name := by decide
  progress := by decide
  vfsStat w₀ hw₀ path hpath := fun e w hw ↦ by
    have hj := (jail_handlers config).vfsStat w₀ hw₀.jail path hpath e w hw.jail
    exact hw.keep hj (keepsTexts_steps.vfsStat keepsTexts_pool (keepsTexts_path .stat)
      (keepsTexts_path .lstat) _ _ e w trivial)
  vfsCall w₀ hw₀ op path _ hpath := fun e w hw ↦ by
    have hj := (jail_handlers config).vfsCall w₀ hw₀.jail op path trivial hpath e w hw.jail
    exact hw.keep hj (keepsTexts_steps.vfsCall keepsTexts_pool (keepsTexts_path op) _ _ e w trivial)
  vfsChdir w₀ hw₀ path hpath hlf := keepsClean_vfsChdir hpath (hlf hw₀.argument)
  restore w₀ hw₀ := within_modify fun w hw ↦
    hw.copy hw₀.jail.canonical (zero_not_mem_cstr _) hw₀.dir
  parent := within_modify fun w hw ↦ ⟨⟨hw.jail.of_eq rfl rfl rfl, hw.dir, hw.replies, hw.ready⟩, by
    show lf ∉ [dot, dot]
    decide⟩
  trimArgument := keepsClean_trimArgument
  listArgument := keepsClean_listArgument
  serverHandleSignal waiter _ :=
    keepsClean_of ((jail_handlers config).serverHandleSignal waiter trivial)
      (keepsTexts_handleSignal waiter)

/-- And so do those that log in. -/
theorem keepsClean_login : LoginLogic (· ≠ .path) Clean KeepsClean where
  toStepLogic := keepsClean_steps
  process := by decide
  rename f hf := keepsClean_of (jail_login.rename f hf)
    (within_modify fun _ _ ↦ ⟨rfl, rfl, .of_eq rfl⟩)
  logIn := keepsClean_of jail_login.logIn (within_modify fun _ _ ↦ ⟨rfl, rfl, .of_eq rfl⟩)
  named who := keepsClean_of (jail_login.named who) (keepsTexts_mark ⟨rfl, rfl⟩)
  loggedIn who := keepsClean_of (jail_login.loggedIn who) (keepsTexts_mark ⟨rfl, rfl⟩)
  initVfsPool rootDir := keepsClean_of (jail_login.initVfsPool rootDir)
    (keepsTexts_steps.initVfsPool (fun _ _ _ _ _ _ ↦ ⟨rfl, rfl, .concat rfl ⟨rfl, rfl⟩⟩) rootDir)

/-- And so does `do_cmd`. -/
theorem keepsClean_doCmd (config : FtpConfig) : Within Clean KeepsClean (doCmd config) := by
  refine keepsClean_steps.doCmd (by decide) (fun verb argument ↦ ?_) (fun ret ↦ ?_)
    fun cmd hcmd ↦ handler_within (keepsClean_handlers config) keepsClean_login (by decide) hcmd
  · exact keepsClean_of (within_mark fun _ hw ↦ hw.noted rfl) (keepsTexts_mark ⟨rfl, rfl⟩)
  · exact keepsClean_of (within_mark fun _ hw ↦ hw.noted rfl) (keepsTexts_mark ⟨rfl, rfl⟩)

/-! ### The main loop -/

/-- The relation of the actions between two commands. -/
def KeepsTidy (_ w' : World) : Prop := Tidy w'

/-- Between two commands. -/
theorem Tidy.keep {w w' : World} (h : Tidy w) (hj : Jail w') (hk : KeepsTexts w w') : Tidy w' where
  jail := hj
  dir := hk.virtPath ▸ h.dir
  replies := replies_of_plain hk.plain h.replies
  ready := ready_of_plain hk.plain h.ready

/-- The same as a rule. -/
theorem keepsTidy_of {m : Program α} (hj : Within Jail KeepsJail m)
    (ht : Within (fun _ ↦ True) KeepsTexts m) : Within Tidy KeepsTidy m :=
  fun e w hw ↦ hw.keep (hj e w hw.jail) (ht e w trivial)

/-- Actions that reply nothing keep it tidy. -/
theorem keepsTidy_steps : StepLogic (fun t ↦ t ≠ .path ∧ t ≠ .reply) Tidy KeepsTidy where
  refl _ h := h
  trans _ _ h := h
  keep _ h := h
  other := by decide
  sys c hc := keepsTidy_of (jail_steps.sys c hc.1) (keepsTexts_steps.sys c hc.2)
  setErrno err := keepsTidy_of (jail_steps.setErrno err) (keepsTexts_steps.setErrno err)
  observe o _ ho := keepsTidy_of (jail_observe o) (keepsTexts_observe ho)
  reply h := absurd rfl h.2
  replyFormat h := absurd rfl h.2
  statePool h pool := keepsTidy_of (jail_steps.statePool h.1 pool)
    (keepsTexts_steps.statePool (by decide) pool)
  modifySession f hf := keepsTidy_of
    (jail_steps.modifySession f fun s ↦ (hf s).mono fun _ h ↦ h.1)
    (within_modify fun w _ ↦ ⟨(hf w.st.session).virtPath, (hf w.st.session).command, .of_eq rfl⟩)
  undefined w _ o ho := keepsTidy_of (jail_observe o) (keepsTexts_steps.undefined w trivial o ho)

/-- A fixed text is complete. -/
theorem keepsTidy_reply (sock : ℤ) {msg : Bytes} (hmsg : CompleteReply msg) :
    Within Tidy KeepsTidy (reply sock msg) := by
  refine within_iff_wp.2 fun e w hw ↦ ?_
  rw [reply, observe, wp_bind, wp_mark]
  exact (keepsTidy_of (jail_steps.sendall (by decide) _ _)
    (keepsTexts_steps.sendall (by decide) _ _)).wp (hw.reply hmsg)

/-- The buffer may hold anything between two commands. -/
theorem keepsTidy_modifyCommand (f : FtpCommand → FtpCommand) :
    Within Tidy KeepsTidy (modifyCommand f) :=
  within_modify fun _ hw ↦ ⟨hw.jail.of_eq rfl rfl rfl, hw.dir, hw.replies, hw.ready⟩

/-- `read_cmd` replies one fixed line. -/
theorem keepsTidy_readCmd (config : FtpConfig) : Within Tidy KeepsTidy (readCmd config) :=
  keepsTidy_steps.readCmd (by decide)
    (fun waiter ↦ keepsTidy_of ((jail_handlers config).serverHandleSignal waiter trivial)
      (keepsTexts_handleSignal waiter))
    keepsTidy_modifyCommand fun _ _ ↦ keepsTidy_reply _ (by decide)

/-- The argument ends where the line does. -/
theorem lf_not_mem_splitCommand {l : Bytes} (h : lf ∉ l) : lf ∉ (splitCommand l).2 := by
  have hstrip : (stripCr l).Sublist l := by
    rw [stripCr]
    split_ifs
    · exact List.dropLast_sublist l
    · exact .refl l
  intro hmem
  have hcstr : lf ∈ cstr (stripCr l) := (List.dropWhile_sublist _).subset
    (List.mem_of_mem_drop ((List.dropWhile_sublist _).subset hmem))
  exact h (hstrip.subset ((List.takeWhile_sublist _).subset hcstr))

/-- `parse_cmd` leaves an argument that ends where its line does. -/
theorem parseCmd_clean (hw : Tidy w) :
    wp e parseCmd (fun ret w' ↦ if ret = .success then Clean w' else Tidy w') (fun _ ↦ Tidy) w := by
  rw [parseCmd, wp_bind, wp_getSession]
  by_cases hlf : lf ∈ w.st.session.command.line
  · obtain ⟨l, post, hline, hl⟩ := List.eq_append_cons_of_mem hlf
    have hbufend : w.st.session.command.line.findIdx? (· = lf) = some l.length := by
      rw [hline, findIdx?_eq_length hl]
    obtain ⟨buf, j, hparse, -, -, hcommand⟩ := parseLine_spec l post
    simp only [hbufend]
    rw [hline, hparse]
    refine ⟨⟨hw.jail.of_eq rfl rfl rfl, hw.dir, hw.replies, hw.ready⟩, ?_⟩
    have hargument : cstr (buf.drop j) = (splitCommand l).2 := congrArg Prod.snd hcommand
    show lf ∉ cstr (buf.drop j)
    rw [hargument]
    exact lf_not_mem_splitCommand hl
  · have hnone : w.st.session.command.line.findIdx? (· = lf) = none := by
      rw [List.findIdx?_eq_none_iff]
      exact fun c hc ↦ decide_eq_false fun heq ↦ hlf (heq ▸ hc)
    simp only [hnone]
    exact hw

/-- So each command finds an argument of one line. -/
theorem tidy_commandLoop (hw : Tidy w) :
    wp e (commandLoop config) (fun _ ↦ Tidy) (fun _ ↦ Tidy) w := by
  have hkeep : ∀ {m : Program FtpRet} {w : World}, Within Tidy KeepsTidy m → Tidy w →
      wp e m (fun ret w' ↦ if ret = .success then Tidy w' else Tidy w') (fun _ ↦ Tidy) w :=
    fun hm hw ↦ wp_mono (hm.wp hw) (fun _ _ h ↦ by rwa [ite_self]) fun _ _ h ↦ h
  refine commandLoop_wp Tidy Tidy Clean Tidy (fun _ h ↦ h)
    (fun _ hw ↦ hkeep (keepsTidy_readCmd config) hw) (fun _ hw ↦ parseCmd_clean hw)
    (fun _ hw ↦ ?_) (fun _ hw ↦ hkeep (keepsTidy_steps.removeCmd keepsTidy_modifyCommand) hw) hw
  exact wp_mono ((keepsClean_doCmd config).wp hw) (fun _ _ h ↦ by rw [ite_self]; exact h.toTidy)
    fun _ _ h ↦ h.toTidy

/-- From the welcome to the end. -/
theorem tidy_serveSession (sock : ℤ) (hw : Tidy w) :
    wp e (serveSession config sock) (fun _ ↦ Tidy) (fun _ ↦ Tidy) w := by
  refine (wp_bind _ _).2 (wp_mono ((keepsTidy_reply sock (by decide)).wp hw) ?_ fun _ _ h ↦ h)
  refine fun _ w₁ hw₁ ↦ (wp_bind _ _).2 (wp_mono (tidy_commandLoop hw₁) ?_ fun _ _ h ↦ h)
  intro _ w₂ hw₂
  have hend : Within Tidy KeepsTidy (endSession sock) := by
    refine keepsTidy_steps.endSession (by decide) (fun f hf ↦ within_modify fun w hw ↦ ?_) sock
      (keepsTidy_reply sock (by decide))
    obtain ⟨hsession, hpool⟩ := hf w.st
    refine ⟨hw.jail.withoutPool (congrArg _ hsession) hpool, ?_, hw.replies, hw.ready⟩
    show lf ∉ cstr (f w.st).session.virtPath
    rw [hsession]
    exact hw.dir
  exact hend.wp hw₂

/-! ### Whole sessions -/

/-- What holds before there is a session. -/
structure Untold (s : Process) (w : World) : Prop extends NoSession s w where
  replies : AtEach CompleteIfFits w.trace
  ready : lastExpansion w.trace = none

/-- Before there is a session, nothing is replied. -/
theorem untold_calls (s : Process) : CallLogic (· = .other) (Untold s) fun _ ↦ Untold s := by
  have hguard : Guard (Untold s) fun _ ↦ Untold s := ⟨fun _ h ↦ h, fun _ _ h ↦ h, fun _ h ↦ h⟩
  have hkeep : ∀ {w w' : World}, Untold s w → NoSession s w' → Extends Plain w w' → Untold s w' :=
    fun hw hs hx ↦ ⟨hs, replies_of_plain hx hw.replies, ready_of_plain hx hw.ready⟩
  have L := noSession_calls s
  refine .of_observe hguard rfl (by decide) (fun c hc e w hw ↦ ?_) (fun err e w hw ↦ ?_)
    fun o ho e w hw ↦ ?_
  · exact hkeep hw (L.sys c hc e w hw.toNoSession)
      (keepsTexts_steps.sys c (by rw [hc]; decide) e w trivial).plain
  · exact hkeep hw (L.setErrno err e w hw.toNoSession) (.of_eq rfl)
  · exact hkeep hw (L.observe o ho (by rw [ho]; decide) e w hw.toNoSession)
      (keepsTexts_observe (by rw [ho]; decide) e w trivial).plain

/-- **Every reply is one complete line, unless the reply buffer cuts it.** In every run, each reply
ends with CR LF and has no other LF in it, if and only if it is a fixed text or what its format
expands to fits the buffer. -/
theorem ftpMain_replyLines (config : FtpConfig) (sock writePipe : ℤ) (e : Env) (s : Process)
    (hs : s.vfsPool = none) :
    AtEach (fun before x ↦ ∀ msg ∈ reply? x, (CompleteReply msg ↔
        ∀ text ∈ lastExpansion before, text.length < responseBufferSize))
      (ftpMain config sock writePipe e (World.start s)).2.trace := by
  refine wp_always.1 (ftpMain_wp (untold_calls s) sock writePipe Tidy
    (T := fun w ↦ AtEach CompleteIfFits w.trace) ?_ ?_ ?_ ?_ ?_)
  · exact fun w _ hw ↦ ⟨⟨hw.session, hw.vfsPool, hw.jailed⟩, hw.replies, hw.ready⟩
  · intro w host client line virtPath hw _ hvirt
    refine ⟨hw.toNoSession.fresh _ line hvirt, ?_, hw.replies, hw.ready⟩
    show lf ∉ cstr (freshSession _ line virtPath).virtPath
    rw [cstr_freshSession _ line hvirt]
    decide
  · exact fun w hw ↦ wp_mono (tidy_serveSession sock hw) (fun _ _ h ↦ h.replies)
      fun _ _ h ↦ h.replies
  · exact fun w hw ↦ hw.replies
  · exact ⟨⟨rfl, hs, atEach_nil _⟩, atEach_nil _, rfl⟩

/-- A client that names a user whose name is as long as a command line allows. -/
def longNameClient : Env := clientEnv [ofString "USER " ++ List.replicate 1010 97 ++ [cr, lf]]

/-- Its run is in order, -/
theorem longNameClient_replyLines :
    AtEach (fun before x ↦ ∀ msg ∈ reply? x, (CompleteReply msg ↔
        ∀ text ∈ lastExpansion before, text.length < responseBufferSize))
      (ftpMain loadDefaults 4 5 longNameClient (World.start (Process.initial 1))).2.trace :=
  ftpMain_replyLines loadDefaults 4 5 longNameClient (Process.initial 1) rfl

/-- but a reply has no line end. -/
theorem longNameClient_cut :
    ¬∀ msg ∈ (ftpMain loadDefaults 4 5 longNameClient
      (World.start (Process.initial 1))).2.trace.filterMap reply?, CompleteReply msg := by
  decide +kernel

end FtpServer
