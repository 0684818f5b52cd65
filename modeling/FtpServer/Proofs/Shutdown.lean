import FtpServer.Proofs.Master

/-!
# Leaving `daemon_main`

The master and the processes that serve its clients leave `daemon_main` through the same code, which
tells them apart by the last value of `ret`. Only the master sends signals, one to each process in
its client list (`daemonMain_kills`).

* `FreshFork` is all that is assumed: a new process id is not that of a child which was not waited
  for. So nobody is in the list twice (`tracked_nodup`).
* `Kills` is what the loop of `remove_all_clients` adds to a trace, and `clientsLeft` for whom.
* `LeavesWell` has a field for each of the two kinds of processes. Which one a process is shows in
  its trace (`served`).
-/

namespace FtpServer

open CString Effect Effect.Proc

variable {config : FtpConfig} {e : Env} {w : World}

/-! ### The children of the master -/

/-- A process id that `fork` returns is not that of a child which was not waited for. -/
def FreshFork (before : List (Item kernel)) : Item kernel → Prop
  | .call .fork r =>
    match r.val with
    | .ok (.parent pid) => pid ∉ unreaped before
    | _ => True
  | _ => True

instance (before : List (Item kernel)) (x : Item kernel) : Decidable (FreshFork before x) := by
  rcases x with ⟨c, r⟩ | -
  · cases c with
    | fork =>
      obtain ⟨-, - | pid | -⟩ := r
      · exact (inferInstance : Decidable True)
      · exact (inferInstance : Decidable (pid ∉ unreaped before))
      · exact (inferInstance : Decidable True)
    | _ => exact (inferInstance : Decidable True)
  · exact (inferInstance : Decidable True)

/-- A fork yields a pid that no unreaped child has, so no pid comes in twice. -/
theorem tracked_nodup {before : List (Item kernel)} {x : Item kernel} (hx : FreshFork before x)
    (h : (unreaped before).Nodup) : (tracked (unreaped before) x).Nodup := by
  rcases x with ⟨c, r⟩ | n
  · cases c with
    | fork =>
      rcases r with ⟨async, err | pid | self⟩
      · exact h
      · show (unreaped before ++ [pid]).Nodup
        rw [← List.concat_eq_append]
        exact h.concat hx
      · exact h
    | waitpid => exact h.erase _
    | _ => exact h
  · exact h

/-- The children that have not been waited for are distinct in any trace. -/
theorem unreaped_nodup {trace : List (Item kernel)} (h : AtEach FreshFork trace) :
    (unreaped trace).Nodup := by
  induction trace using List.reverseRecOn with
  | nil => exact List.nodup_nil
  | append_singleton trace x ih =>
    obtain ⟨htrace, hx⟩ := atEach_concat.1 h
    rw [unreaped_concat]
    exact tracked_nodup hx (ih htrace)

/-! ### `remove_all_clients` -/

/-- What the loop of `remove_all_clients` adds to a trace. -/
structure Kills (pids : List Int32) (w w' : World) : Prop where
  kills : killsOf w'.trace = killsOf w.trace ++ pids
  served : served w'.trace = served w.trace
  suffix : ∃ suffix, w'.trace = w.trace ++ suffix

/-- One after the other, two functions kill what both of them kill. -/
theorem Kills.trans {pids pids' : List Int32} {w₁ w₂ w₃ : World} (h₁ : Kills pids w₁ w₂)
    (h₂ : Kills pids' w₂ w₃) : Kills (pids ++ pids') w₁ w₃ where
  kills := by rw [h₂.kills, h₁.kills, List.append_assoc]
  served := h₂.served.trans h₁.served
  suffix := by
    obtain ⟨s₁, h₁⟩ := h₁.suffix
    obtain ⟨s₂, h₂⟩ := h₂.suffix
    exact ⟨s₁ ++ s₂, by rw [h₂, h₁, List.append_assoc]⟩

/-- A `kill` is one, whatever it returns. -/
theorem kills_answered (w : World) (pid : Int32) (r : Answer (.kill pid)) :
    Kills [pid] w (answered w (.kill pid) r) where
  kills := killsOf_concat
  served := by
    rw [answered_trace, served_concat]
    exact Bool.or_false _
  suffix := ⟨_, rfl⟩

/-- The loop over the list kills each member once, in order. -/
theorem killAll_wp (clients : List FtpChild) :
    wp e (killAll clients) (fun _ ↦ Kills (pidsOf clients) w) (fun _ _ ↦ True) w := by
  induction clients generalizing w with
  | nil => exact ⟨by simp [pidsOf], rfl, [], by simp⟩
  | cons child clients ih =>
    rw [killAll, wp_bind, wp_checked]
    refine wp_sys (fun r _ ↦ ?_) trivial
    have hkill := kills_answered w child.pid r
    rcases r.val with err | -
    · exact wp_mono ih (fun _ _ h ↦ hkill.trans ⟨h.kills, h.served, h.suffix⟩) fun _ _ h ↦ h
    · exact wp_mono ih (fun _ _ h ↦ hkill.trans h) fun _ _ h ↦ h

/-- `remove_all_clients` kills the members only if it is asked to. -/
theorem removeAllClients_wp (killClients : Bool) :
    wp e (removeAllClients killClients)
      (fun _ ↦ Kills (if killClients then pidsOf w.st.clients else []) w) (fun _ _ ↦ True) w := by
  rw [removeAllClients]
  cases killClients with
  | true =>
    rw [if_pos rfl, wp_bind, wp_get, wp_bind]
    exact wp_mono (killAll_wp _) (fun _ _ h ↦ ⟨h.kills, h.served, h.suffix⟩) fun _ _ h ↦ h
  | false =>
    rw [if_neg Bool.false_ne_true]
    exact ⟨by simp, rfl, [], by simp⟩

/-! ### `daemon_main` -/

/-- The client list when the main loop is left; without memory for its head there is none. -/
def clientsLeft (config : FtpConfig) (serverSock : ℤ) (pipefds : ℤ × ℤ) (e : Env) (w : World) :
    List FtpChild :=
  let r : Answer (.malloc ftpChildSize) := e.answer w.trace (.malloc ftpChildSize)
  match r.val with
  | none => []
  | some _ =>
    let w₁ := answered w (.malloc ftpChildSize) r
    (daemonLoop config serverSock pipefds e
      { w₁ with st := { w₁.st with clients := [] } }).2.st.clients

/-- How `daemon_main` is left: a process that has served a client kills nobody, and the master kills
every process in its client list once and nobody else. -/
structure LeavesWell (clients : List FtpChild) (trace : List (Item kernel)) : Prop where
  session : served trace = true → killsOf trace = []
  master : served trace = false → killsOf trace = pidsOf clients ∧ (pidsOf clients).Nodup

/-- **Who is killed when `daemon_main` is left**, if `fork` returns a process id that no child has.
-/
theorem daemonMain_kills (config : FtpConfig) (serverSock : ℤ) (pipefds : ℤ × ℤ) (e : Env)
    (s : Process) {n : ℕ} {w' : World}
    (hrun : daemonMain config serverSock pipefds e (World.start s) = (.ret n, w'))
    (hfresh : AtEach FreshFork w'.trace) :
    LeavesWell (clientsLeft config serverSock pipefds e (World.start s)) w'.trace := by
  suffices h : wp e (daemonMain config serverSock pipefds)
      (fun _ w' ↦ AtEach FreshFork w'.trace →
        LeavesWell (clientsLeft config serverSock pipefds e (World.start s)) w'.trace)
      (fun _ _ ↦ True) (World.start s) from wp_ret h hrun hfresh
  rw [daemonMain, wp_bind]
  refine wp_sys (fun r hr ↦ ?_) trivial
  rw [clientsLeft, hr]
  rcases r.val with - | block
  · exact fun _ ↦ ⟨fun _ ↦ rfl, fun _ ↦ ⟨rfl, List.nodup_nil⟩⟩
  dsimp only
  rw [wp_bind, wp_modify, wp_bind]
  -- an empty list is a list of all children, of which there are none yet
  have hstart : Mastering config s.signalFlag
      { answered (World.start s) (.malloc ftpChildSize) r with
        st := { (answered (World.start s) (.malloc ftpChildSize) r).st with clients := [] } } := by
    have hempty := (mastering_start config { s with clients := [] } rfl).answered
      (c := .malloc ftpChildSize) (r := r) nofun nofun nofun
    exact ⟨⟨hempty.listed, hempty.unserved, hempty.mild, hempty.directed⟩, hempty.flag, hempty.owed⟩
  rcases hloop : daemonLoop config serverSock pipefds e
    { answered (World.start s) (.malloc ftpChildSize) r with
      st := { (answered (World.start s) (.malloc ftpChildSize) r).st with clients := [] } }
    with ⟨ret | k, w₁⟩
  · have hleft := wp_ret (daemonLoop_left (e := e) serverSock pipefds hstart) hloop
    refine (wp_iff_ret hloop).2 ?_
    rw [wp_bind]
    refine wp_mono (removeAllClients_wp _) (fun _ w₂ hkills hfresh ↦ ?_) fun _ _ h ↦ h
    obtain ⟨suffix, hsuffix⟩ := hkills.suffix
    rw [hsuffix] at hfresh
    have hkilled : killsOf w₂.trace = if ret ≠ .quit then pidsOf w₁.st.clients else [] := by
      simpa [hleft.mild] using hkills.kills
    constructor
    -- whoever has served a client returns `FTP_QUIT`, and skips the loop that kills
    · intro hserved
      rw [hkills.served] at hserved
      rw [hkilled, if_neg (not_not.2 (hleft.served.1 hserved))]
    · intro hserved
      rw [hkills.served] at hserved
      have hret : ret ≠ .quit := fun h ↦ by simp [hleft.served.2 h] at hserved
      refine ⟨by rw [hkilled, if_pos hret], ?_⟩
      -- without memory for an entry some children are missing, but nobody is in it twice
      have hsub : (pidsOf w₁.st.clients).Sublist (unreaped w₁.trace) := by
        rcases hleft.listed hret with hlisted | ⟨-, hsub⟩
        · exact hlisted ▸ List.Sublist.refl _
        · exact hsub
      exact hsub.nodup (unreaped_nodup hfresh.of_append)
  · simp only [wp, hloop]

/-- The master takes two connections, and then a `SIGTERM`. -/
def terminatedMaster : Env :=
  scriptedEnv (fun before c ↦
    match c with
    | .fork => some ⟨[], .ok (.parent (if .fork ∈ before then 11 else 10))⟩
    | .pollBoth _ _ =>
      if before.count .fork = 2 then some ⟨[.deliver .sigterm], .error .eintr⟩ else none
    | _ => none) 100

/-- Both are killed. -/
theorem daemonMain_kills_two :
    LeavesWell (clientsLeft loadDefaults 3 (4, 5) terminatedMaster
      (World.start (Process.initial 1)))
      (daemonMain loadDefaults 3 (4, 5) terminatedMaster
        (World.start (Process.initial 1))).2.trace :=
  daemonMain_kills loadDefaults 3 (4, 5) terminatedMaster (Process.initial 1) (n := 0)
    (run_eq (by decide +kernel)) (by decide +kernel)

end FtpServer
