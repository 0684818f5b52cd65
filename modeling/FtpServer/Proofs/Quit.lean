import FtpServer.Proofs.SessionLoop
import FtpServer.Proofs.DataCommands

/-!
# What a session does after a terminating signal

`server_handle_signal` clears the flag when it takes a terminating signal, so whoever called it has
to hand `FTP_QUIT` up to the main loop. Four of its callers have theirs handed on; `doretr` and
`dostor` drop what `transfer_file` and `store_file` return. The result about runs (`ftpMain_quit`)
is that a session goes on after a signal was taken only if one of these two took it.

* `quit?` says who took a signal, and `Dropped` which of them have a caller that does not look.
* `Running` holds in a session in which all signals so far were dropped, and `Settled` once it is
  known whether the session went on behind another one.
* `RunningUnless P` is the postcondition of everything that may take a signal: it is running, unless
  its result says `P`. The commands have `RunsOrQuits`, by which `FTP_QUIT` is among those.
-/

namespace FtpServer

open CString Effect Effect.Proc

/-! ### What the trace says -/

/-- Who took a terminating signal. -/
def quit? : Item kernel → Option Waiter
  | .note (.quit waiter) => some waiter
  | _ => none

/-- The session goes on: it executes a command, or waits for one. -/
def movesOn : Item kernel → Bool
  | .note (.dispatch _ _) => true
  | .call c _ => (c : Call).topic = .control
  | _ => false

/-- The functions whose `FTP_QUIT` is dropped by their caller. -/
def Dropped (waiter : Waiter) : Prop := waiter = .transferFile ∨ waiter = .storeFile

instance : DecidablePred Dropped := fun _ ↦ inferInstanceAs (Decidable (_ ∨ _))

/-- The session goes on only if nobody took a terminating signal whose return value counts. -/
def GoesOnUnquit (before : List (Item kernel)) (x : Item kernel) : Prop :=
  movesOn x = true → ∀ waiter ∈ before.filterMap quit?, Dropped waiter

def Settled (w : World) : Prop := AtEach GoesOnUnquit w.trace

/-- The session is running: all terminating signals were dropped. -/
structure Running (w : World) : Prop where
  settled : Settled w
  dropped : ∀ waiter ∈ w.trace.filterMap quit?, Dropped waiter

/-! ### Actions of a running session -/

/-- An entry after which a running session is still running, and a settled one settled. -/
def Harmless (x : Item kernel) : Prop := movesOn x = false ∧ ∀ waiter ∈ quit? x, Dropped waiter

def KeepsRunning (w w' : World) : Prop := Extends Harmless w w'

theorem keepsRunning_guard : Guard (fun _ ↦ True) KeepsRunning where
  refl w _ := .refl w
  trans _ h₁ h₂ := h₁.trans h₂
  keep _ _ := trivial

/-- What does not go on leaves a settled session settled, -/
theorem Settled.keep {w w' : World} (h : Settled w) (hk : KeepsRunning w w') : Settled w' :=
  hk.atEach (fun _ hx _ hmoves ↦ absurd (hx.1.symm.trans hmoves) (by simp)) h

/-- and a running one running, since it takes no signal whose result counts. -/
theorem Running.keep {w w' : World} (h : Running w) (hk : KeepsRunning w w') : Running w' := by
  refine ⟨h.settled.keep hk, fun waiter hmem ↦ ?_⟩
  obtain ⟨suffix, ht, hs⟩ := hk
  rw [ht, List.filterMap_append, List.mem_append] at hmem
  rcases hmem with hmem | hmem
  · exact h.dropped waiter hmem
  · obtain ⟨x, hx, hq⟩ := List.mem_filterMap.1 hmem
    exact (hs x hx).2 waiter hq

/-- A running session may go on. -/
theorem Running.goOn {w w' : World} (h : Running w) {x : Item kernel} (hx : quit? x = none)
    (ht : w'.trace = w.trace ++ [x]) : Running w' := by
  refine ⟨?_, fun waiter hmem ↦ ?_⟩
  · rw [Settled, ht]
    exact atEach_concat.2 ⟨h.settled, fun _ ↦ h.dropped⟩
  · rw [ht, List.filterMap_append, List.filterMap_cons_none hx] at hmem
    exact h.dropped waiter (by simpa using hmem)

/-- Observations are harmless. -/
theorem keepsRunning_observe (o : Observation) :
    Within (fun _ ↦ True) KeepsRunning (observe o) :=
  within_mark fun _ _ ↦ .concat rfl ⟨rfl, fun _ h ↦ by cases h⟩

/-- No action goes on but the reading of commands. -/
theorem keepsRunning_steps : StepLogic (· ≠ .control) (fun _ ↦ True) KeepsRunning where
  toCallLogic := .of_observe keepsRunning_guard (by decide) (by decide)
    (fun _ hc ↦ within_sys keepsRunning_guard fun _ r _ ↦
      .concat rfl ⟨decide_eq_false hc, fun _ h ↦ by cases h⟩)
    (fun _ ↦ within_setErrno fun _ _ ↦ .of_eq rfl) fun o _ ↦ keepsRunning_observe o
  statePool _ _ := within_modify fun _ _ ↦ .of_eq rfl
  modifySession _ _ := within_modify fun _ _ ↦ .of_eq rfl
  undefined _ _ o _ := keepsRunning_observe o

/-- In the handlers, `transfer_file` and `store_file` may take a signal, and their result is
dropped. -/
theorem keepsRunning_handlers (config : FtpConfig) :
    TransferLogic (· ≠ .control) (fun _ ↦ True) Dropped config (fun _ ↦ True) KeepsRunning where
  toDirectoryLogic := by
    have hsession : ∀ f, Within (fun _ ↦ True) KeepsRunning (modifySession f) := fun f ↦
      within_modify fun _ _ ↦ .of_eq rfl
    refine .of_steps keepsRunning_steps (by decide)
      (fun _ _ _ ↦ keepsRunning_steps.sys _ (by simp [Call.topic]))
      (fun _ ↦ within_modify fun _ _ ↦ .of_eq rfl) (fun _ ↦ hsession _) (hsession _) ?_ ?_
    · exact keepsRunning_steps.trimArgument fun _ ↦ hsession _
    · exact keepsRunning_steps.listArgument fun _ ↦ hsession _
  process := by decide
  name := by decide
  progress := by decide
  serverHandleSignal waiter hW := keepsRunning_steps.serverHandleSignal waiter
    (fun _ ↦ within_modify fun _ _ ↦ .of_eq rfl)
    (within_mark fun _ _ ↦ .concat rfl ⟨rfl, by rintro _ ⟨⟩; exact hW⟩)

/-- A login is harmless. -/
theorem keepsRunning_login : LoginLogic (· ≠ .control) (fun _ ↦ True) KeepsRunning where
  toStepLogic := keepsRunning_steps
  process := by decide
  rename _ _ := within_modify fun _ _ ↦ .of_eq rfl
  logIn := within_modify fun _ _ ↦ .of_eq rfl
  named _ := within_mark fun _ _ ↦ .concat rfl ⟨rfl, fun _ h ↦ by cases h⟩
  loggedIn _ := within_mark fun _ _ ↦ .concat rfl ⟨rfl, fun _ h ↦ by cases h⟩
  initVfsPool := keepsRunning_steps.initVfsPool fun _ _ _ _ _ _ ↦
    .concat rfl ⟨rfl, fun _ h ↦ by cases h⟩

/-! ### Taking a signal -/

variable {config : FtpConfig} {e : Env} {w : World} {α : Type} {waiter : Waiter}

/-- What is harmless is followed by a session that runs. -/
theorem wp_keepsRunning {m : Program α} {Q : α → World → Prop}
    (hm : Within (fun _ ↦ True) KeepsRunning m) (hw : Running w)
    (hQ : ∀ a w', Running w' → Q a w') : wp e m Q (fun _ ↦ Settled) w :=
  wp_mono (hm.wp trivial) (fun a w' h ↦ hQ a w' (hw.keep h)) fun _ _ h ↦ hw.settled.keep h

/-- A run that ends with `r` has left the session running, unless `r` says otherwise. -/
def RunningUnless (stop : α → Prop) (r : α) (w : World) : Prop :=
  Settled w ∧ (¬stop r → Running w)

/-- A session that runs, whatever the result. -/
theorem Running.runningUnless {stop : α → Prop} {r : α} (h : Running w) :
    RunningUnless stop r w :=
  ⟨h.settled, fun _ ↦ h⟩

/-- Whoever takes a signal that counts is told to stop. -/
theorem serverHandleSignal_wp (hw : Running w) :
    wp e (serverHandleSignal waiter) (RunningUnless (· = .quit)) (fun _ ↦ Settled) w := by
  have L := keepsRunning_steps
  have hsys : Within (fun _ ↦ True) KeepsRunning (sys .sigprocmask) := L.sysOther rfl
  have hend : ∀ ret : FtpRet, Within (fun _ ↦ True) KeepsRunning
      (do sys .sigprocmask; return ret) :=
    fun ret ↦ L.bind hsys fun _ ↦ L.pure ret
  refine (wp_bind _ _).2 (wp_keepsRunning hsys hw fun _ w₁ hw₁ ↦ (wp_bind _ _).2 ?_)
  have hw₂ : Running { w₁ with st := { w₁.st with signalFlag :=
      w₁.st.signalFlag &&& ~~~recvSigchld &&& ~~~recvSigpipe } } := hw₁.keep (.of_eq rfl)
  rw [wp_modify, takeTerminating]
  simp only [wp_bind, wp_get]
  split_ifs with hflag
  · -- the signal is taken, and the result says so
    simp only [wp_bind, wp_modify, wp_pure, if_true, wp_mark]
    have hsettled : ∀ w', w'.trace = w₁.trace ++ [.note (.quit waiter)] → Settled w' := by
      intro w' ht
      rw [Settled, ht]
      exact atEach_concat.2 ⟨hw₁.settled, fun h ↦ by cases h⟩
    refine wp_mono (hsys.wp trivial) (fun _ w' h ↦ ?_) fun _ w' h ↦ ?_
    · exact ⟨(hsettled _ rfl).keep h, fun h ↦ absurd rfl h⟩
    · exact (hsettled _ rfl).keep h
  · simp only [wp_pure, reduceCtorEq, if_false]
    exact wp_keepsRunning (hend _) hw₂ fun _ _ h ↦ h.runningUnless

/-- And passes it on. -/
theorem interruptedToQuit_wp (hw : Running w) :
    wp e (interruptedToQuit waiter) (RunningUnless (· = true)) (fun _ ↦ Settled) w := by
  rw [interruptedToQuit, wp_bind, wp_errnoIs]
  split_ifs
  · rw [wp_bind]
    refine wp_mono (serverHandleSignal_wp hw) (fun ret w' h ↦ ?_) fun _ _ h ↦ h
    exact ⟨h.1, fun hne ↦ h.2 (by simpa using hne)⟩
  · exact hw.runningUnless

/-- `accept_data_conn` hands on that it took a signal. -/
theorem acceptDataConn_wp (hw : Running w) :
    wp e acceptDataConn (RunningUnless (· = .quit)) (fun _ ↦ Settled) w := by
  have L := keepsRunning_steps
  rw [acceptDataConn, wp_bind, wp_getSession, wp_bind]
  refine wp_keepsRunning (L.checked (L.sys (.accept _) (by simp [Call.topic]))) hw fun r w₁ hw₁ ↦ ?_
  rcases r with - | ⟨fd, -⟩
  · refine (wp_bind _ _).2 (wp_mono (interruptedToQuit_wp hw₁) ?_ fun _ _ h ↦ h)
    rintro (_ | _) w₂ ⟨hsettled, hrun⟩
    · have hw₂ := hrun (by simp)
      simp only [Bool.false_eq_true, if_false, wp_bind, wp_errnoIs]
      split_ifs
      · exact hw₂.runningUnless
      · exact wp_keepsRunning (L.replyMsg_pure (by decide) _ _ (by decide)) hw₂ fun _ _ h ↦
          h.runningUnless
    · exact ⟨hsettled, fun h ↦ absurd rfl h⟩
  · exact hw₁.runningUnless

/-! ### Commands with a data connection -/

/-- A command hands on that it was quit. -/
abbrev RunsOrQuits (ret : FtpRet) (w : World) : Prop := RunningUnless (· = .quit) ret w

/-- A command that takes no signal. -/
theorem wp_runsOrQuits {m : Program FtpRet} (hm : Within (fun _ ↦ True) KeepsRunning m)
    (hw : Running w) : wp e m RunsOrQuits (fun _ ↦ Settled) w :=
  wp_keepsRunning hm hw fun _ _ h ↦ h.runningUnless

/-- A session that runs keeps running. -/
theorem keepsRunning_keeps : Keeps (fun _ ↦ True) KeepsRunning Running Settled where
  assume _ _ := trivial
  keepInv _ _ h hk := h.keep hk
  mid _ h := h.settled

/-- What follows a result that is handed on. -/
theorem wp_handedOn {m : Program FtpRet} (hm : Within (fun _ ↦ True) KeepsRunning m)
    (hquit : Returns (· = .quit) m) (hw : Settled w) :
    wp e m RunsOrQuits (fun _ ↦ Settled) w := by
  refine wp_mono (hquit.wp (hm.wp trivial)) ?_ fun _ _ h ↦ hw.keep h
  rintro _ w' ⟨rfl, h⟩
  exact ⟨hw.keep h, fun hne ↦ absurd rfl hne⟩

/-- `LIST` hands a signal on that it took while it waited for the client. -/
theorem dolist_wp (hw : Running w) : wp e (dolist config) RunsOrQuits (fun _ ↦ Settled) w := by
  have L := keepsRunning_handlers config
  have hreply : Topic.reply ≠ .control := by decide
  have hdesc : Topic.descriptor ≠ .control := by decide
  refine DirectoryLogic.dolist_wp L.toDirectoryLogic keepsRunning_keeps (RunningUnless (· = .quit))
    (fun _ hw ↦ wp_runsOrQuits (L.failedVfsReply hreply) hw) (fun _ hw ↦ acceptDataConn_wp hw)
    (fun _ hw ↦ ?_) (fun _ hw ↦ ?_) (fun _ statarg argument optA w₀ _ hw₀ hpath hlf hw ↦ ?_) hw
  · exact wp_runsOrQuits (L.bind (L.setDataSock hdesc _) fun _ ↦ L.pure _) (hw.2 (by simp))
  · exact wp_handedOn (L.bind (L.setDataSock hdesc _) fun _ ↦ L.pure _)
      (returns_bind fun _ ↦ returns_pure rfl) hw.1
  · have hdata := L.listData hreply hdesc trivial hw₀ statarg hpath hlf optA
    exact wp_runsOrQuits (L.bind (L.setDataSock hdesc _) fun _ ↦ hdata) (hw.2 (by simp))

/-- `RETR` hands on the signal of its wait; that of its transfer is dropped. -/
theorem doretr_wp (hw : Running w) : wp e (doretr config) RunsOrQuits (fun _ ↦ Settled) w := by
  have L := keepsRunning_handlers config
  have hreply : Topic.reply ≠ .control := by decide
  have hdesc : Topic.descriptor ≠ .control := by decide
  have hclose : ∀ (fd sock : ℤ) (ret : FtpRet), Within (fun _ ↦ True) KeepsRunning
      (do setDataSock sock; vfsClose fd; return ret) := fun fd sock ret ↦
    L.bind (L.setDataSock hdesc _) fun _ ↦ L.bind (L.vfsClose hdesc fd) fun _ ↦ L.pure ret
  refine HandlerLogic.doretr_wp L.toHandlerLogic keepsRunning_keeps (fun _ ↦ Running)
    (fun _ ↦ RunningUnless (· = .quit)) (fun msg hmsg _ hw ↦ ?_)
    (fun _ hw ↦ wp_runsOrQuits (L.failedVfsReply_pure hreply _) hw) (fun w hw path hpath ↦ ?_)
    (fun _ _ hw ↦ acceptDataConn_wp hw)
    (fun fd _ hw ↦ wp_runsOrQuits (hclose fd _ _) (hw.2 (by simp)))
    (fun fd _ hw ↦ ?_) (fun fd dataFd filesize w₀ _ hw₀ hw ↦ ?_) hw (by decide)
  · exact wp_runsOrQuits (L.replyMsg_pure hreply _ _ (completeReply_fileRefusal msg hmsg)) hw
  · refine wp_keepsRunning (L.vfsCall w trivial .open path trivial hpath) hw fun r _ hw ↦ ?_
    rcases r with - | fd <;> exact hw
  · exact wp_handedOn (hclose fd _ _)
      (returns_bind fun _ ↦ returns_bind fun _ ↦ returns_pure rfl) hw.1
  · refine wp_runsOrQuits (L.bind (L.setDataSock hdesc _) fun _ ↦ ?_) (hw.2 (by simp))
    exact L.retrAccepted hreply hdesc (by decide) hw₀ (.inl rfl) _ _ _

/-- `STOR` does the same. -/
theorem dostor_wp (hw : Running w) : wp e (dostor config) RunsOrQuits (fun _ ↦ Settled) w := by
  have L := keepsRunning_handlers config
  have hreply : Topic.reply ≠ .control := by decide
  have hdesc : Topic.descriptor ≠ .control := by decide
  have hclose : ∀ (fd : ℤ) (ret : FtpRet), Within (fun _ ↦ True) KeepsRunning
      (do vfsClose fd; return ret) := fun fd ret ↦ L.bind (L.vfsClose hdesc fd) fun _ ↦ L.pure ret
  refine StepLogic.dostor_wp L.toStepLogic keepsRunning_keeps (fun _ ↦ Running)
    (fun _ ↦ RunningUnless (· = .quit)) (fun msg hmsg _ hw ↦ ?_)
    (fun _ hw ↦ wp_runsOrQuits (L.failedVfsReply_pure hreply _) hw) (fun w hw path hpath ↦ ?_)
    (fun _ _ hw ↦ acceptDataConn_wp hw) (fun _ _ hw ↦ wp_runsOrQuits (hclose _ _) (hw.2 (by simp)))
    (fun _ _ hw ↦ ?_) (fun _ _ _ hw ↦ ?_) hw (by decide)
  · exact wp_runsOrQuits (L.replyMsg_pure hreply _ _ (completeReply_fileRefusal msg hmsg)) hw
  · refine wp_keepsRunning (L.vfsCall w trivial (.creat _) path trivial hpath) hw fun r _ hw ↦ ?_
    rcases r with - | fd <;> exact hw
  · exact wp_handedOn (hclose _ _) (returns_bind fun _ ↦ returns_pure rfl) hw.1
  · exact wp_runsOrQuits (L.storData hreply hdesc (by decide) (.inr rfl) _ _) (hw.2 (by simp))

/-- The other commands take no signal. -/
theorem runsOrQuits_handler {cmd : CmdHandler} (hcmd : cmd ∈ coreCommandList config)
    (hw : Running w) : wp e cmd.handler RunsOrQuits (fun _ ↦ Settled) w := by
  have L := keepsRunning_handlers config
  have hreply : Topic.reply ≠ .control := by decide
  refine L.forall_handler (Q := fun h ↦ ∀ w, Running w → wp e h RunsOrQuits (fun _ ↦ Settled) w)
    hreply trivial trivial trivial (fun _ h _ hw ↦ wp_runsOrQuits h hw) ?_ ?_ ?_ ?_
    (fun _ hw ↦ dolist_wp hw) (fun _ hw ↦ doretr_wp hw) (fun _ hw ↦ dostor_wp hw) hcmd w hw
  · exact fun _ hw ↦ wp_runsOrQuits (keepsRunning_login.douser hreply) hw
  · exact fun _ hw ↦ wp_runsOrQuits (keepsRunning_login.dopass hreply) hw
  · exact fun _ hw ↦ wp_runsOrQuits (L.dopasv hreply (by decide)) hw
  · exact fun _ hw ↦ wp_runsOrQuits (L.dorest hreply (by decide)) hw

/-! ### The main loop -/

/-- So each command either runs on, quits, or has lost a signal in a transfer. -/
theorem runsOrQuits_execCmd (hw : Running w) (verb : Bytes) :
    wp e (execCmd config verb) RunsOrQuits (fun _ ↦ Settled) w := by
  have L := keepsRunning_steps
  rw [execCmd]
  rcases hcmd : searchCommand (commandPool config) verb with - | cmd
  · exact wp_runsOrQuits (L.replyMsg_pure (by decide) _ _ (by decide)) hw
  refine (wp_bind _ _).2 (wp_keepsRunning (L.preCommand (by decide) cmd) hw fun ret w₁ hw₁ ↦ ?_)
  split_ifs
  · exact hw₁.runningUnless
  · exact runsOrQuits_handler (mem_of_searchCommand hcmd) hw₁

/-- And `do_cmd` returns what the command does. -/
theorem runsOrQuits_doCmd (hw : Running w) :
    wp e (doCmd config) RunsOrQuits (fun _ ↦ Settled) w := by
  rw [doCmd, wp_bind, wp_getSession, wp_bind, wp_mark]
  have hw₁ : Running (noted w (.dispatch (cstr w.st.session.command.line)
      w.st.session.command.argument)) :=
    hw.goOn (x := .note (.dispatch (cstr w.st.session.command.line)
      w.st.session.command.argument)) rfl rfl
  refine (wp_bind _ _).2 (wp_mono (runsOrQuits_execCmd hw₁ _) (fun ret w₂ h ↦ ?_) fun _ _ h ↦ h)
  have hk : KeepsRunning w₂ (noted w₂ (.finished ret)) :=
    .concat rfl ⟨rfl, fun _ h ↦ by cases h⟩
  exact ⟨h.1.keep hk, fun hne ↦ (h.2 hne).keep hk⟩

/-- A result of `read_poll` other than 0 leaves the session running. -/
theorem readPoll_wp (hw : Running w) (sock : ℤ) (max : ℕ) :
    wp e (readPoll config sock max) (RunningUnless (· = some [])) (fun _ ↦ Settled) w := by
  have hquit : ∀ {w : World} {f : Bool → Program (Option Bytes)}, Running w →
      (∀ w', Running w' → wp e (f false) (RunningUnless (· = some [])) (fun _ ↦ Settled) w') →
      f true = pure (some []) →
      wp e (interruptedToQuit .readPoll >>= f) (RunningUnless (· = some []))
        (fun _ ↦ Settled) w := by
    intro w f hw hf htrue
    refine (wp_bind _ _).2 (wp_mono (interruptedToQuit_wp hw) ?_ fun _ _ h ↦ h)
    rintro (_ | _) w₁ ⟨hsettled, hrun⟩
    · exact hf w₁ (hrun (by simp))
    · rw [htrue]
      exact ⟨hsettled, fun h ↦ absurd rfl h⟩
  rw [readPoll, wp_bind, wp_checked]
  refine wp_sys (fun r _ ↦ ?_) hw.settled
  have hw₁ : Running (answered w _ r) := hw.goOn (x := .call _ r) rfl rfl
  rcases r.val with err | (_ | _)
  · exact hquit (hw₁.keep (.of_eq rfl)) (fun w' hw' ↦ hw'.runningUnless) rfl
  · exact hw₁.runningUnless
  dsimp only
  rw [wp_bind, wp_checked]
  refine wp_sys (fun r _ ↦ ?_) hw₁.settled
  have hw₂ : Running (answered _ _ r) := hw₁.goOn (x := .call _ r) rfl rfl
  rcases r.val with err | bs
  · refine hquit (hw₂.keep (.of_eq rfl)) (fun w' hw' ↦ ?_) rfl
    rw [if_neg Bool.false_ne_true, wp_bind, wp_errnoIs]
    split_ifs <;> exact hw'.runningUnless
  · exact hw₂.runningUnless

/-- `read_cmd` quits with the signal it took. -/
theorem readCmd_wp (hw : Running w) :
    wp e (readCmd config) (RunningUnless (· = .quit)) (fun _ ↦ Settled) w := by
  have L := keepsRunning_steps
  refine wp_loop (fun _ ↦ Running) (fun _ w hw ↦ ?_) (fun _ _ h ↦ h.settled) hw
  rw [wp_bind, wp_getSession]
  dsimp only
  split_ifs
  · exact hw.runningUnless
  refine (wp_bind _ _).2 (wp_mono (readPoll_wp hw _ _) ?_ fun _ _ h ↦ h)
  rintro (_ | bs) w₁ ⟨hsettled, hrun⟩
  -- only a signal that was handled here counts; an interruption alone is no reason to stop
  · have hw₁ := hrun (by simp)
    rw [wp_bind, wp_errnoIs]
    split_ifs
    · refine (wp_bind _ _).2 (wp_mono (serverHandleSignal_wp hw₁) (fun ret w₂ h ↦ ?_) fun _ _ h ↦ h)
      split_ifs with hret
      · exact ⟨h.1, fun h ↦ absurd rfl h⟩
      · exact h.2 hret
    · exact hw₁.runningUnless
  -- no bytes mean that `read_poll` was told to quit
  by_cases hbs : bs = []
  · simp only [if_pos hbs]
    exact ⟨hsettled, fun h ↦ absurd rfl h⟩
  have hw₁ := hrun (by simpa using hbs)
  simp only [if_neg hbs]
  split
  · exact hsettled
  · have hcommand : ∀ f, Within (fun _ ↦ True) KeepsRunning (modifyCommand f) := fun _ ↦
      within_modify fun _ _ ↦ .of_eq rfl
    refine (wp_bind _ _).2 (wp_keepsRunning (hcommand _) hw₁ fun _ w₂ hw₂ ↦ ?_)
    split_ifs
    · exact (wp_bind _ _).2 (wp_keepsRunning (L.reply (by decide) _ _ (by decide)) hw₂
        fun _ _ h ↦ h.runningUnless)
    · exact hw₂

/-- So the loop does not go on behind a signal that it was told of. -/
theorem running_commandLoop (hw : Running w) :
    wp e (commandLoop config) (fun _ ↦ Settled) (fun _ ↦ Settled) w := by
  have L := keepsRunning_steps
  have hcommand : ∀ f, Within (fun _ ↦ True) KeepsRunning (modifyCommand f) := fun _ ↦
    within_modify fun _ _ ↦ .of_eq rfl
  have hstage : ∀ {m : Program FtpRet} {w : World}, wp e m RunsOrQuits (fun _ ↦ Settled) w →
      wp e m (fun ret w' ↦ if ret = .success then Running w' else Settled w')
        (fun _ ↦ Settled) w := by
    refine fun h ↦ wp_mono h (fun ret w' h ↦ ?_) fun _ _ h ↦ h
    split_ifs with hret
    · exact h.2 (by simp [hret])
    · exact h.1
  refine commandLoop_wp Running Running Running Running (fun _ h ↦ h.settled)
    (fun w hw ↦ hstage (readCmd_wp hw)) (fun w hw ↦ hstage ?_)
    (fun w hw ↦ hstage (runsOrQuits_doCmd hw)) (fun w hw ↦ hstage ?_) hw
  · exact wp_runsOrQuits (L.parseCmd hcommand) hw
  · exact wp_runsOrQuits (L.removeCmd hcommand) hw

/-- And neither does the session. -/
theorem running_serveSession (hw : Running w) (sock : ℤ) :
    wp e (serveSession config sock) (fun _ ↦ Settled) (fun _ ↦ Settled) w := by
  have L := keepsRunning_steps
  refine (wp_bind _ _).2 (wp_keepsRunning (L.reply (by decide) _ _ (by decide)) hw
    fun _ w₁ hw₁ ↦ ?_)
  refine (wp_bind _ _).2 (wp_mono (running_commandLoop hw₁) (fun _ w₂ hw₂ ↦ ?_) fun _ _ h ↦ h)
  have hend : Within (fun _ ↦ True) KeepsRunning (endSession sock) :=
    L.endSession (by decide) (fun _ _ ↦ within_modify fun _ _ ↦ .of_eq rfl) sock
      (L.reply (by decide) _ _ (by decide))
  exact wp_mono (hend.wp trivial) (fun _ _ h ↦ hw₂.keep h) fun _ _ h ↦ hw₂.keep h

/-- Before it starts, nothing goes on. -/
theorem running_calls : CallLogic (· = .other) Running fun _ ↦ Running :=
  startup_calls (fun _ c r _ hw ↦ hw.goOn (x := .call c r) rfl rfl)
    fun _ _ hw ↦ hw.keep (.of_eq rfl)

/-- **A terminating signal ends the session, unless a transfer took it.** In every run, whenever the
session executes a command or waits for one, every terminating signal that `server_handle_signal`
took before was taken by `transfer_file` or `store_file`. -/
theorem ftpMain_quit (config : FtpConfig) (sock writePipe : ℤ) (e : Env) (s : Process) :
    AtEach (fun before x ↦ movesOn x = true → ∀ waiter ∈ before.filterMap quit?,
        waiter = .transferFile ∨ waiter = .storeFile)
      (ftpMain config sock writePipe e (World.start s)).2.trace := by
  refine wp_always.1 (ftpMain_wp running_calls sock writePipe Running (T := Settled)
    ?_ ?_ ?_ ?_ ?_)
  · exact fun _ _ hw ↦ hw.keep (.of_eq rfl)
  · exact fun _ _ _ _ _ hw _ _ ↦ hw.keep (.of_eq rfl)
  · exact fun _ hw ↦ running_serveSession hw sock
  · exact fun _ hw ↦ hw.settled
  · exact ⟨atEach_nil _, by simp⟩

/-- A client that retrieves a file and sends one more command, while `SIGTERM` arrives during the
transfer. -/
def retrievingClient : Env :=
  clientEnvWith (fun _ c ↦
      match c with
      | .sendfile _ _ _ _ => some ⟨[.deliver .sigterm], .error .eintr⟩
      | _ => none)
    [ofString "USER anonymous\r\nPASS x\r\nPASV\r\nRETR f\r\nNOOP\r\n"]

/-- The session took the signal, and executes the next command all the same. -/
theorem retrievingClient_goes_on :
    ¬AtEach (fun before x ↦ movesOn x = true → before.filterMap quit? = [])
      (ftpMain { loadDefaults with anonRootDir := some (ofString "/srv") } 4 5 retrievingClient
        (World.start (Process.initial 1))).2.trace := by
  decide +kernel

end FtpServer
