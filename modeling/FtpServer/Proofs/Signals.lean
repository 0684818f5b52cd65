import FtpServer.Proofs.Master

/-!
# Telling the master to end

`daemon_handle_signal` clears a flag with `signal_flag &= !RECV_SIGCHLD`, which clears all of them.
So a terminating signal ends the master unless a child has exited at about the same time
(`daemonMain_heeds`).

* `unheeded` are the signals that were delivered since the master last decided.
* `Heeds` is what is asked of a decision, and `Apart` the condition: no `SIGCHLD` is there together
  with a signal that is to end the master.
* The results hold at every point of a run, so they also cover a master that never returns.
-/

namespace FtpServer

open CString Effect Effect.Proc

/-! ### What the trace says -/

/-- The signals that are to end the master. -/
def Signal.terminates : Signal → Bool
  | .sigint | .sigterm | .sighup | .sigusr1 => true
  | .sigpipe | .sigchld => false

/-- The signals that were delivered and not decided on, given those before an entry. -/
def heard (sigs : List Signal) : Item kernel → List Signal
  | .call .waitpid _ => sigs
  | .call _ r => sigs ++ (Answer.async r).filterMap Async.signal?
  | .note (.handled _) => []
  | .note _ => sigs

/-- The signals that were delivered since `daemon_handle_signal` last decided. -/
def unheeded (sigs₀ : List Signal) (trace : List (Item kernel)) : List Signal :=
  trace.foldl heard sigs₀

/-- A decision of `daemon_handle_signal` is to quit if it was told to. -/
def Heeds (sigs₀ : List Signal) (before : List (Item kernel)) : Item kernel → Prop
  | .note (.handled ret) => (∃ sig ∈ unheeded sigs₀ before, sig.terminates) → ret = .quit
  | _ => True

/-- It does not find a `SIGCHLD` together with a terminating signal. -/
def Apart (sigs₀ : List Signal) (before : List (Item kernel)) : Item kernel → Prop
  | .note (.handled _) =>
    (∃ sig ∈ unheeded sigs₀ before, sig.terminates) → .sigchld ∉ unheeded sigs₀ before
  | _ => True

instance (sigs₀ : List Signal) (before : List (Item kernel)) (x : Item kernel) :
    Decidable (Heeds sigs₀ before x) := by
  rcases x with - | n
  · exact (inferInstance : Decidable True)
  rcases n with ⟨⟩
  case note.handled ret =>
    exact (inferInstance :
      Decidable ((∃ sig ∈ unheeded sigs₀ before, sig.terminates) → ret = .quit))
  all_goals exact (inferInstance : Decidable True)

instance (sigs₀ : List Signal) (before : List (Item kernel)) (x : Item kernel) :
    Decidable (Apart sigs₀ before x) := by
  rcases x with - | n
  · exact (inferInstance : Decidable True)
  rcases n with ⟨⟩
  case note.handled =>
    exact (inferInstance : Decidable
      ((∃ sig ∈ unheeded sigs₀ before, sig.terminates) → .sigchld ∉ unheeded sigs₀ before))
  all_goals exact (inferInstance : Decidable True)

/-! ### Flags and signals -/

variable {sigs : List Signal} {flag : SignalFlag}

/-- The flag of `SIGCHLD` is set if one was delivered. -/
theorem foldl_signalHandler_sigchld :
    sigs.foldl signalHandler flag &&& recvSigchld ≠ 0 ↔
      .sigchld ∈ sigs ∨ flag &&& recvSigchld ≠ 0 := by
  induction sigs generalizing flag with
  | nil => simp
  | cons sig sigs ih =>
    rw [List.foldl_cons, ih, signalHandler_sigchld, List.mem_cons, eq_comm (a := Signal.sigchld)]
    tauto

/-- No flag is set if no signal was. -/
theorem foldl_signalHandler_eq_zero : sigs.foldl signalHandler flag = 0 ↔ sigs = [] ∧ flag = 0 := by
  induction sigs generalizing flag with
  | nil => simp
  | cons sig sigs ih =>
    have hbit : sig.bit ≠ 0#32 := by cases sig <;> decide
    rw [List.foldl_cons, ih, signalHandler]
    simp [BitVec.or_eq_zero_iff, hbit]

/-- The flag is that of the signals delivered. -/
theorem flagOf_eq (sigs₀ : List Signal) (trace : List (Item kernel)) :
    flagOf (sigs₀.foldl signalHandler 0) trace = (unheeded sigs₀ trace).foldl signalHandler 0 := by
  induction trace using List.reverseRecOn with
  | nil => rfl
  | append_singleton trace x ih =>
    have hunheeded : unheeded sigs₀ (trace ++ [x]) = heard (unheeded sigs₀ trace) x := by
      rw [unheeded, List.foldl_append]
      rfl
    rw [flagOf_concat, hunheeded, ih]
    rcases x with ⟨c, r⟩ | n
    · by_cases hc : c = .waitpid
      · subst hc
        rfl
      · have hheard : heard (unheeded sigs₀ trace) (.call c r) =
            unheeded sigs₀ trace ++ r.async.filterMap Async.signal? := by
          cases c with
          | waitpid => exact absurd rfl hc
          | _ => rfl
        refine (signalled_call (c := c) (r := r) hc _).trans ?_
        rw [hheard, List.foldl_append]
        rfl
    · cases n <;> rfl

/-- What is left of the flags decides. -/
theorem flagLeft_ne_zero (sigs : List Signal) :
    flagLeft (sigs.foldl signalHandler 0) ≠ 0 ↔ .sigchld ∉ sigs ∧ sigs ≠ [] := by
  have hchld : sigs.foldl signalHandler 0 &&& recvSigchld ≠ 0 ↔ .sigchld ∈ sigs := by
    rw [foldl_signalHandler_sigchld]
    simp
  rw [flagLeft]
  split_ifs with h
  · simp [hchld.1 h]
  · rw [Ne, foldl_signalHandler_eq_zero]
    simp [mt hchld.2 h]

/-! ### `daemon_main` -/

section

variable {config : FtpConfig} {flag₀ : SignalFlag} {k : Halt} {w : World} {e : Env}

/-- An early end is no call of `daemon_handle_signal`. -/
theorem Stopped.directed (h : Stopped config flag₀ k w) :
    AtEach (Directed config flag₀) w.trace := by
  cases h with
  | working h => exact h.directed
  | adding h _ => exact (h (newChild _ ⟨0, 0, 0, 0⟩) rfl).directed
  | misled h => exact h.directed
  | serving h => exact h.directed

/-- Neither is the end of the master. -/
theorem within_removeAllClients (killClients : Bool) :
    Within (fun w : World ↦ AtEach (Directed config flag₀) w.trace)
      (fun _ w' ↦ AtEach (Directed config flag₀) w'.trace) (removeAllClients killClients) := by
  have G := guard_inv fun w : World ↦ AtEach (Directed config flag₀) w.trace
  have hkill : ∀ clients, Within (fun w : World ↦ AtEach (Directed config flag₀) w.trace)
      (fun _ w' ↦ AtEach (Directed config flag₀) w'.trace) (killAll clients) := by
    intro clients
    induction clients with
    | nil => exact within_pure G _
    | cons child clients ih =>
      refine within_bind G ?_ fun _ ↦ ih
      refine within_bind G (within_sys G fun w r hw ↦
        atEach_concat.2 ⟨hw, directed_call nofun nofun⟩) fun r ↦ ?_
      rcases r with err | -
      · exact within_bind G (within_setErrno fun _ hw ↦ hw) fun _ ↦ within_pure G _
      · exact within_pure G _
  rw [removeAllClients]
  split_ifs
  · exact within_bind G (within_get G) fun _ ↦ within_bind G (hkill _) fun _ ↦
      within_modify fun _ hw ↦ hw
  · exact within_modify fun _ hw ↦ hw

/-- What the master does in a run, and how it decides. -/
theorem daemonMain_directed (config : FtpConfig) (serverSock : ℤ) (pipefds : ℤ × ℤ) (e : Env)
    (s : Process) : AtEach (Directed config s.signalFlag)
      (daemonMain config serverSock pipefds e (World.start s)).2.trace := by
  rw [← wp_always (e := e) (T := fun w : World ↦ AtEach (Directed config s.signalFlag) w.trace)]
  rw [daemonMain, wp_bind]
  refine wp_sys (fun r _ ↦ ?_) (atEach_nil _)
  have hempty := (mastering_start config { s with clients := [] } rfl).answered
    (c := .malloc ftpChildSize) (r := r) nofun nofun nofun
  rcases r.val with - | block
  · exact hempty.directed
  · simp only [wp_bind, wp_modify]
    refine wp_mono (daemonLoop_left serverSock pipefds hempty) (fun ret w hw ↦ ?_) fun _ _ h ↦
      h.directed
    exact wp_mono ((within_removeAllClients _).wp hw.directed) (fun _ _ h ↦ h) fun _ _ h ↦ h

end

/-- **When the master heeds a terminating signal**, in a run that may be stopped at any call: if
`daemon_handle_signal` finds no `SIGCHLD` beside it. -/
theorem daemonMain_heeds (config : FtpConfig) (serverSock : ℤ) (pipefds : ℤ × ℤ) (e : Env)
    (s : Process) (sigs₀ : List Signal) (hflag : s.signalFlag = sigs₀.foldl signalHandler 0) :
    AtEach (Heeds sigs₀) (daemonMain config serverSock pipefds e (World.start s)).2.trace ↔
      AtEach (Apart sigs₀) (daemonMain config serverSock pipefds e (World.start s)).2.trace := by
  have hdirected := daemonMain_directed config serverSock pipefds e s
  generalize (daemonMain config serverSock pipefds e (World.start s)).2.trace = trace at hdirected
  have hpoint : ∀ before x, Directed config s.signalFlag before x →
      (Heeds sigs₀ before x ↔ Apart sigs₀ before x) := by
    rintro before (⟨c, r⟩ | n) hx
    · exact Iff.rfl
    cases n with
    | handled ret =>
      have hret := (hx.handles ret rfl).2
      rw [hflag, flagOf_eq] at hret
      refine forall_congr' fun htold ↦ ?_
      have hne : unheeded sigs₀ before ≠ [] := by
        obtain ⟨sig, hsig, -⟩ := htold
        exact List.ne_nil_of_mem hsig
      rw [hret]
      by_cases hchld : .sigchld ∈ unheeded sigs₀ before
      · rw [if_neg fun h ↦ ((flagLeft_ne_zero _).1 h).1 hchld]
        simp [hchld]
      · rw [if_pos ((flagLeft_ne_zero _).2 ⟨hchld, hne⟩)]
        simp [hchld]
    | _ => exact Iff.rfl
  exact forall₄_congr fun before x post heq ↦ hpoint before x (hdirected before x post heq)

/-- While the master waits behind its first connection, this happens. -/
def interruptedMaster (async : List Async) : Env :=
  scriptedEnv (fun before c ↦
    match c with
    | .fork => some ⟨[], .ok (.parent 10)⟩
    | .waitpid => some ⟨[], (10 : Int32)⟩
    | .pollBoth _ _ =>
      match before.count (.pollBoth 3 4) with
      | 0 => none
      | 1 => some ⟨async, .error .eintr⟩
      | _ => some ⟨[], .ok none⟩
    | _ => none) 100

/-- A `SIGTERM` and a `SIGHUP` are heeded. -/
theorem daemonMain_heeds_twice :
    let run := daemonMain loadDefaults 3 (4, 5)
      (interruptedMaster [.deliver .sigterm, .deliver .sighup]) (World.start (Process.initial 1))
    AtEach (Apart []) run.2.trace ∧ (AtEach (Heeds []) run.2.trace ↔
      AtEach (Apart []) run.2.trace) :=
  ⟨by decide +kernel, daemonMain_heeds loadDefaults 3 (4, 5) _ (Process.initial 1) [] rfl⟩

/-- A `SIGTERM` is lost if the child exits before the master has seen it. -/
theorem daemonMain_deaf :
    let run := daemonMain loadDefaults 3 (4, 5)
      (interruptedMaster [.exit 10, .deliver .sigchld, .deliver .sigterm])
      (World.start (Process.initial 1))
    run.1 = .halt .blocked ∧ ¬AtEach (Heeds []) run.2.trace := by
  decide +kernel

end FtpServer
