import FtpServer.Proofs.Shutdown
import FtpServer.Proofs.Signals

/-!
# The client list and the processes

For every child that has exited and was not waited for, a `SIGCHLD` is pending, or was delivered and
is owed, or has merged with another one (`Counted`). So the master, which waits when it owes one,
never waits in vain, and its list has exactly its children (`daemonLoop_lists`). But it waits for
one child at a time, so that a child whose signal has merged stays in the list (`daemonLoop_reaps`).

* `Lawful` has the assumptions on the kernel, about `fork`, `waitpid` and the delivery of signals.
* `Counted` is a balance of exits and signals, and holds along every run of a lawful kernel
  (`counted_of_lawful`), whatever the master does.
* `KeepsList` says what the end of a run looks like: the list has the children, each of them once,
  and not more than are allowed.
* `JustHandled` are the moments at which the list could be one of live sessions, and
  `countsLive_iff` when it is.
-/

namespace FtpServer

open CString Effect Effect.Proc

/-! ### What the kernel promises -/

/-- A child exits once, and a `SIGCHLD` that is delivered was pending. -/
def Exits.Allows (children : List Int32) (k : Exits) : Async → Prop
  | .exit pid => pid ∈ children ∧ pid ∉ k.zombies
  | .deliver .sigchld => k.raised
  | .deliver _ => True

/-- The events may happen in this order. -/
def Exits.Sound (children : List Int32) : Exits → List Async → Prop
  | _, [] => True
  | k, a :: async => k.Allows children a ∧ Sound children (k.event a) async

instance (children : List Int32) (k : Exits) (a : Async) : Decidable (k.Allows children a) := by
  unfold Exits.Allows
  split <;> infer_instance

instance Exits.Sound.decidable (children : List Int32) :
    (k : Exits) → (async : List Async) → Decidable (k.Sound children async)
  | _, [] => .isTrue trivial
  | k, a :: async =>
    have := Sound.decidable children (k.event a) async
    inferInstanceAs (Decidable (k.Allows children a ∧ (k.event a).Sound children async))

/-- The answers of a kernel to what is about children: `fork` returns a process id that no child
has, and `waitpid`, during which nothing is delivered, returns one that has exited, if there is one.
-/
def Lawful (flag₀ : SignalFlag) (before : List (Item kernel)) : Item kernel → Prop
  | .call .fork r =>
    FreshFork before (.call .fork r) ∧
      (exitsOf flag₀ before).Sound (tracked (unreaped before) (.call .fork r)) (Answer.async r)
  | .call .waitpid r =>
    (∀ a ∈ Answer.async r, a.signal? = none) ∧
      (exitsOf flag₀ before).Sound (unreaped before) (Answer.async r) ∧
      ((exitsOf flag₀ before).zombies ≠ [] →
        r.val ∈ ((exitsOf flag₀ before).events (Answer.async r)).zombies)
  | .call _ r => (exitsOf flag₀ before).Sound (unreaped before) (Answer.async r)
  | .note _ => True

instance (flag₀ : SignalFlag) (before : List (Item kernel)) (x : Item kernel) :
    Decidable (Lawful flag₀ before x) := by
  rcases x with ⟨c, r⟩ | -
  · rcases c with ⟨⟩
    case call.fork =>
      exact (inferInstance : Decidable (FreshFork before (.call .fork r) ∧
        (exitsOf flag₀ before).Sound (tracked (unreaped before) (.call .fork r)) (Answer.async r)))
    case call.waitpid =>
      exact (inferInstance : Decidable ((∀ a ∈ Answer.async r, a.signal? = none) ∧
        (exitsOf flag₀ before).Sound (unreaped before) (Answer.async r) ∧
        ((exitsOf flag₀ before).zombies ≠ [] →
          r.val ∈ ((exitsOf flag₀ before).events (Answer.async r)).zombies)))
    all_goals
      exact (inferInstance :
        Decidable ((exitsOf flag₀ before).Sound (unreaped before) (Answer.async r)))
  · exact (inferInstance : Decidable True)

/-! ### Exits and signals -/

/-- Every child that has exited is accounted for. -/
structure Counted (children : List Int32) (k : Exits) : Prop where
  nodup : children.Nodup
  zombies_nodup : k.zombies.Nodup
  subset : k.zombies ⊆ children
  count : k.zombies.length = k.raised.toNat + k.owed.toNat + k.merged

section Counted

variable {children : List Int32} {k : Exits} {flag₀ : SignalFlag} {trace : List (Item kernel)}
  {x : Item kernel}

/-- Signals and exits between two calls. -/
theorem Counted.events (h : Counted children k) {async : List Async}
    (hsound : k.Sound children async) : Counted children (k.events async) := by
  induction async generalizing k with
  | nil => exact h
  | cons a async ih =>
    obtain ⟨ha, hsound⟩ := hsound
    refine ih ?_ hsound
    rcases a with sig | pid
    · cases sig with
      | sigchld =>
        refine ⟨h.nodup, h.zombies_nodup, h.subset, ?_⟩
        have hcount := h.count
        rw [show k.raised = true from ha] at hcount
        simp only [Exits.event, Bool.toNat_true, Bool.toNat_false] at hcount ⊢
        omega
      | _ => exact h
    · refine ⟨h.nodup, ?_, ?_, ?_⟩
      · simpa [Exits.event, ← List.concat_eq_append] using h.zombies_nodup.concat ha.2
      · simpa [Exits.event] using ⟨h.subset, ha.1⟩
      · simp only [Exits.event, List.length_append, List.length_singleton, h.count,
          Bool.toNat_true]
        omega

/-- While signals are blocked, none comes in. -/
theorem owed_events_of_blocked {async : List Async} (h : ∀ a ∈ async, a.signal? = none) :
    (k.events async).owed = k.owed := by
  induction async generalizing k with
  | nil => rfl
  | cons a async ih =>
    obtain ⟨ha, hasync⟩ := List.forall_mem_cons.1 h
    rcases a with sig | pid
    · cases ha
    · exact ih hasync

/-- Waiting for a child that has exited. -/
theorem Counted.reap (h : Counted children k) (howed : k.owed = true) {pid : Int32}
    (hpid : pid ∈ k.zombies) :
    Counted (children.erase pid) { k with zombies := k.zombies.erase pid, owed := false } where
  nodup := h.nodup.erase _
  zombies_nodup := h.zombies_nodup.erase _
  subset p hp := by
    obtain ⟨hne, hp⟩ := h.zombies_nodup.mem_erase_iff.1 hp
    exact h.nodup.mem_erase_iff.2 ⟨hne, h.subset hp⟩
  count := by
    have hcount := h.count
    rw [howed] at hcount
    simp only [List.length_erase_of_mem hpid, Bool.toNat_true, Bool.toNat_false] at hcount ⊢
    omega

/-- A signal that is owed stands for a child that has exited. -/
theorem Counted.zombies_ne_nil (h : Counted children k) (howed : k.owed = true) :
    k.zombies ≠ [] := by
  have hcount := h.count
  rw [howed, Bool.toNat_true] at hcount
  rintro hnil
  rw [hnil, List.length_nil] at hcount
  omega

/-- Each entry of the trace keeps the count. -/
theorem Counted.step {config : FtpConfig} (h : Counted (unreaped trace) (exitsOf flag₀ trace))
    (hlawful : Lawful flag₀ trace x) (hdirected : Directed config flag₀ trace x) :
    Counted (unreaped (trace ++ [x])) (exitsOf flag₀ (trace ++ [x])) := by
  rw [unreaped_concat, exitsOf_concat]
  rcases x with ⟨c, r⟩ | n
  · cases c with
    | fork =>
      obtain ⟨hfresh, hsound⟩ := hlawful
      refine Counted.events ⟨tracked_nodup hfresh h.nodup, h.zombies_nodup, ?_, h.count⟩ hsound
      rcases r with ⟨async, err | pid | self⟩
      · exact h.subset
      · exact fun p hp ↦ List.mem_append_left _ (h.subset hp)
      · exact h.subset
    | waitpid =>
      obtain ⟨hblocked, hsound, hwaits⟩ := hlawful
      have howed := hdirected.waits r rfl
      exact (h.events hsound).reap ((owed_events_of_blocked hblocked).trans howed)
        (hwaits (h.zombies_ne_nil howed))
    | _ =>
      exact h.events (show (exitsOf flag₀ trace).Sound (unreaped trace)
        (Answer.async r) from hlawful)
  · exact h

/-- **Every exit is accounted for**, along every run. -/
theorem counted_of_lawful {config : FtpConfig} (hflag : flag₀ &&& recvSigchld = 0)
    (hlawful : AtEach (Lawful flag₀) trace) (hdirected : AtEach (Directed config flag₀) trace) :
    Counted (unreaped trace) (exitsOf flag₀ trace) := by
  induction trace using List.reverseRecOn with
  | nil =>
    exact ⟨List.nodup_nil, List.nodup_nil, List.nil_subset _, by simp [exitsOf, hflag]⟩
  | append_singleton trace x ih =>
    obtain ⟨hlawful, hx⟩ := atEach_concat.1 hlawful
    obtain ⟨hdirected, hdx⟩ := atEach_concat.1 hdirected
    exact (ih hlawful hdirected).step hx hdx

/-- No more children are forked than `max_clients` allows. -/
theorem length_unreaped_le {config : FtpConfig} {m : ℕ} (hmax : config.maxClients = m)
    (hdirected : AtEach (Directed config flag₀) trace) : (unreaped trace).length ≤ m := by
  induction trace using List.reverseRecOn with
  | nil => exact Nat.zero_le _
  | append_singleton trace x ih =>
    obtain ⟨hdirected, hx⟩ := atEach_concat.1 hdirected
    have hle := ih hdirected
    rw [unreaped_concat]
    rcases x with ⟨c, r⟩ | n
    · cases c with
      | fork =>
        have hroom := hx.forks r rfl
        rcases r with ⟨async, err | pid | self⟩
        · exact hle
        · simp only [tracked, List.length_append, List.length_singleton]
          omega
        · exact hle
      | waitpid => exact (List.length_erase_le ..).trans hle
      | _ => exact hle
    · exact hle

end Counted

/-! ### The main loop -/

/-- The client list has the children of the master and nothing else; while it forks one, the last
one may be missing. -/
def ListsChildren (w : World) : Prop :=
  pidsOf w.st.clients = unreaped w.trace ∨
    Forking w.trace ∧ ∃ pid, pidsOf w.st.clients ++ [pid] = unreaped w.trace

/-- What is known of the master at the end of a run: it has not looked for a child that it does not
have, and knows all that it has, which are not more than it may have. -/
structure KeepsList (config : FtpConfig) (run : Outcome FtpRet × World) : Prop where
  safe : run.1 ≠ .halt .fault
  nodup : (unreaped run.2.trace).Nodup
  lists : ListsChildren run.2
  limit : ∀ m : ℕ, config.maxClients = m → (unreaped run.2.trace).length ≤ m

section

variable {config : FtpConfig} {serverSock : ℤ} {pipefds : ℤ × ℤ} {e : Env} {s : Process}

/-- The calls that the loop makes are those of its functions. -/
theorem daemonLoop_directed (hclients : s.clients = []) :
    AtEach (Directed config s.signalFlag)
      (daemonLoop config serverSock pipefds e (World.start s)).2.trace := by
  rw [← wp_always (e := e) (T := fun w : World ↦ AtEach (Directed config s.signalFlag) w.trace)]
  exact wp_mono (daemonLoop_left serverSock pipefds (mastering_start config s hclients))
    (fun _ _ h ↦ h.directed) fun _ _ h ↦ h.directed

/-- Who is in the list, wherever the run of the master is stopped. -/
theorem daemonLoop_listsChildren (hclients : s.clients = [])
    (hflag : s.signalFlag &&& recvSigchld = 0) {run : Outcome FtpRet × World}
    (hrun : daemonLoop config serverSock pipefds e (World.start s) = run)
    (hlawful : AtEach (Lawful s.signalFlag) run.2.trace) (halloc : starved run.2.trace = false)
    (hmaster : served run.2.trace = false) : run.1 ≠ .halt .fault ∧ ListsChildren run.2 := by
  have hleft := daemonLoop_left (e := e) serverSock pipefds (mastering_start config s hclients)
  simp only [wp, hrun] at hleft
  obtain ⟨ret | k, w⟩ := run
  · have hret : ret ≠ .quit := fun h ↦ by simp [hleft.served.2 h] at hmaster
    refine ⟨nofun, .inl ?_⟩
    rcases hleft.listed hret with hlisted | ⟨hstarved, -⟩
    · exact hlisted
    · simp [hstarved] at halloc
  · cases hleft with
    | working h => exact ⟨nofun, .inl h.listed⟩
    | @adding _ pid h hfork =>
      have hlisted := (h (newChild pid ⟨0, 0, 0, 0⟩) rfl).listed
      refine ⟨nofun, .inr ⟨hfork, pid, ?_⟩⟩
      simpa [pidsOf, newChild] using hlisted
    | misled h =>
      -- there is a child to wait for whenever the master waits
      obtain ⟨before, r, htrace, hunknown⟩ := h.waited
      have hdirected := h.directed
      rw [htrace] at hdirected hlawful
      obtain ⟨hdirected, hwaits⟩ := atEach_concat.1 hdirected
      obtain ⟨hlawful, -, hsound, hreaps⟩ := atEach_concat.1 hlawful
      have hcounted := counted_of_lawful hflag hlawful hdirected
      have hexited := hreaps (hcounted.zombies_ne_nil (hwaits.waits r rfl))
      exact absurd ((hcounted.events hsound).subset hexited) hunknown
    | serving h => simp [h.served] at hmaster

end

/-- **The client list of the master** has the children that were not waited for, each once, at every
call of every run of the main loop; so there are no more than `max_clients`. -/
theorem daemonLoop_lists (config : FtpConfig) (serverSock : ℤ) (pipefds : ℤ × ℤ) (e : Env)
    (s : Process) (hclients : s.clients = []) (hflag : s.signalFlag &&& recvSigchld = 0)
    {run : Outcome FtpRet × World}
    (hrun : daemonLoop config serverSock pipefds e (World.start s) = run)
    (hlawful : AtEach (Lawful s.signalFlag) run.2.trace) (halloc : starved run.2.trace = false)
    (hmaster : served run.2.trace = false) : KeepsList config run := by
  have hdirected : AtEach (Directed config s.signalFlag) run.2.trace :=
    hrun ▸ daemonLoop_directed hclients
  obtain ⟨hsafe, hlists⟩ := daemonLoop_listsChildren hclients hflag hrun hlawful halloc hmaster
  exact ⟨hsafe, (counted_of_lawful hflag hlawful hdirected).nodup, hlists,
    fun m hm ↦ length_unreaped_le hm hdirected⟩

/-- The master takes two connections, and then these things happen while it waits. It is stopped
before it waits once more. -/
def exitingMaster (async : List Async) : Env :=
  scriptedEnv (fun before c ↦
    match c with
    | .fork => some ⟨[], .ok (.parent (if .fork ∈ before then 11 else 10))⟩
    | .waitpid => some ⟨[], (10 : Int32)⟩
    | .pollBoth _ _ => if before.count .fork = 2 then some ⟨async, .error .eintr⟩ else none
    | _ => none) 24

/-- The run of such a master. -/
def exitingRun (async : List Async) : Outcome FtpRet × World :=
  daemonLoop loadDefaults 3 (4, 5) (exitingMaster async) (World.start (Process.initial 1))

/-- A child exits, and leaves the list. -/
theorem daemonLoop_lists_exit :
    let run := exitingRun [.exit 10, .deliver .sigchld]
    KeepsList loadDefaults run ∧ pidsOf run.2.st.clients = [11] :=
  ⟨daemonLoop_lists loadDefaults 3 (4, 5) (exitingMaster [.exit 10, .deliver .sigchld])
    (Process.initial 1) rfl rfl rfl (by decide +kernel) (by decide +kernel) (by decide +kernel),
    by decide +kernel⟩

/-! ### Exited children -/

/-- The children that have not exited. -/
def alive (flag₀ : SignalFlag) (trace : List (Item kernel)) : List Int32 :=
  (unreaped trace).filter (· ∉ (exitsOf flag₀ trace).zombies)

/-- Only sessions that are alive count. -/
structure CountsLive (config : FtpConfig) (flag₀ : SignalFlag) (w : World) : Prop where
  reaped : ∀ child ∈ w.st.clients, child.pid ∉ (exitsOf flag₀ w.trace).zombies
  count : countClients w.st.clients = (alive flag₀ w.trace).length
  refuses : config.maxClients ≤ countClients w.st.clients →
    config.maxClients ≤ (alive flag₀ w.trace).length

/-- The trace ends where `daemon_handle_signal` returns. -/
def endsHandled (trace : List (Item kernel)) : Bool :=
  match trace.reverse with
  | .call .sigprocmask _ :: .note (.handled _) :: _ => true
  | _ => false

/-- `daemon_handle_signal` has just returned, and no `SIGCHLD` is left to be looked at. -/
structure JustHandled (flag₀ : SignalFlag) (trace : List (Item kernel)) : Prop where
  handled : endsHandled trace = true
  raised : (exitsOf flag₀ trace).raised = false
  owed : (exitsOf flag₀ trace).owed = false

/-- Signals are not handled in the middle of a fork. -/
theorem not_forking_of_endsHandled {trace : List (Item kernel)} (h : endsHandled trace = true) :
    ¬Forking trace := by
  rintro ⟨before, r, rfl | ⟨fd, r', rfl⟩⟩ <;> simp [endsHandled] at h

/-- Only if no child has exited, the list is one of live sessions. -/
theorem countsLive_iff {config : FtpConfig} {flag₀ : SignalFlag} {w : World}
    (hlisted : pidsOf w.st.clients = unreaped w.trace)
    (hcounted : Counted (unreaped w.trace) (exitsOf flag₀ w.trace)) :
    CountsLive config flag₀ w ↔ (exitsOf flag₀ w.trace).zombies = [] := by
  constructor
  · intro h
    rw [List.eq_nil_iff_forall_not_mem]
    intro pid hpid
    have hmem : pid ∈ pidsOf w.st.clients := hlisted ▸ hcounted.subset hpid
    obtain ⟨child, hchild, rfl⟩ := List.mem_map.1 hmem
    exact h.reaped child hchild hpid
  · intro hnone
    have hcount : countClients w.st.clients = (alive flag₀ w.trace).length := by
      have hall : alive flag₀ w.trace = unreaped w.trace := by simp [alive, hnone]
      rw [hall, ← hlisted, pidsOf, List.length_map, countClients]
    exact ⟨by simp [hnone], hcount, fun h ↦ hcount ▸ h⟩

/-- **When the list is one of live sessions**, whenever `daemon_handle_signal` has returned: if no
`SIGCHLD` has merged with another. -/
theorem daemonLoop_reaps (config : FtpConfig) (serverSock : ℤ) (pipefds : ℤ × ℤ) (e : Env)
    (s : Process) (hclients : s.clients = []) (hflag : s.signalFlag &&& recvSigchld = 0)
    {run : Outcome FtpRet × World}
    (hrun : daemonLoop config serverSock pipefds e (World.start s) = run)
    (hlawful : AtEach (Lawful s.signalFlag) run.2.trace) (halloc : starved run.2.trace = false)
    (hmaster : served run.2.trace = false) (hhandled : JustHandled s.signalFlag run.2.trace) :
    CountsLive config s.signalFlag run.2 ↔ (exitsOf s.signalFlag run.2.trace).merged = 0 := by
  have hdirected : AtEach (Directed config s.signalFlag) run.2.trace :=
    hrun ▸ daemonLoop_directed hclients
  have hcounted := counted_of_lawful hflag hlawful hdirected
  have hlists := (daemonLoop_listsChildren hclients hflag hrun hlawful halloc hmaster).2
  rw [countsLive_iff (hlists.resolve_right fun h ↦ not_forking_of_endsHandled hhandled.handled h.1)
    hcounted, ← List.length_eq_zero_iff, hcounted.count, hhandled.raised, hhandled.owed]
  simp

/-- A child that has exited does not count any more. -/
theorem daemonLoop_reaps_exit :
    let run := exitingRun [.exit 10, .deliver .sigchld]
    (exitsOf 0 run.2.trace).merged = 0 ∧
      (CountsLive loadDefaults 0 run.2 ↔ (exitsOf 0 run.2.trace).merged = 0) :=
  ⟨by decide +kernel, daemonLoop_reaps loadDefaults 3 (4, 5)
    (exitingMaster [.exit 10, .deliver .sigchld]) (Process.initial 1) rfl rfl rfl
      (by decide +kernel)
    (by decide +kernel) (by decide +kernel)
    ⟨by decide +kernel, by decide +kernel, by decide +kernel⟩⟩

/-- Of two children that exit before the signal is delivered, one stays in the list. -/
theorem daemonLoop_leaves_exited :
    let run := exitingRun [.exit 10, .exit 11, .deliver .sigchld]
    JustHandled 0 run.2.trace ∧ AtEach (Lawful 0) run.2.trace ∧
      ¬CountsLive loadDefaults 0 run.2 := by
  refine ⟨⟨by decide +kernel, by decide +kernel, by decide +kernel⟩, by decide +kernel, fun h ↦ ?_⟩
  have hcount : countClients (exitingRun [.exit 10, .exit 11, .deliver .sigchld]).2.st.clients ≠
      (alive 0 (exitingRun [.exit 10, .exit 11, .deliver .sigchld]).2.trace).length := by
    decide +kernel
  exact hcount h.count

end FtpServer
