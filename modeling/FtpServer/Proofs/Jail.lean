import FtpServer.Proofs.SessionLoop
import FtpServer.Proofs.Realpath

/-!
# A session stays below its root directory

The invariant `Jail`: the current directory of the session is canonical, and every path that was
handed to the kernel is the root directory then in force followed by a canonical path. All actions
of the handlers keep it, so all commands do, and so does a whole session (`ftpMain_jail`).

* `rootOf` is the root directory in force, read off the notes that announce one, so that a path of
  the trace can be compared with it (`BelowRoot`).
* `vfsRealpath_jail` is where paths come from: the canonicalizer succeeds only with one that is
  below the root, and what it leaves in the pool is `Resolved` until the next call of it.
* `jail_steps` and the instances behind it are the actions that keep the invariant, from which the
  modules about handlers derive the rest.

Other invariants of a session are proved together with this one, as what they say about paths holds
of canonical ones.
-/

namespace FtpServer

open CString Effect Effect.Proc PathText

/-! ### The invariant -/

/-- The root directory a `rooted` note announces. -/
def rooted? : Item kernel → Option Bytes
  | .note (.rooted rootDir) => some rootDir
  | _ => none

/-- The root directory in force after a trace: the last one announced. -/
def rootOf (trace : List (Item kernel)) : Option Bytes := (trace.filterMap rooted?).getLast?

theorem rootOf_concat {trace : List (Item kernel)} {x : Item kernel} (h : rooted? x = none) :
    rootOf (trace ++ [x]) = rootOf trace := by
  rw [rootOf, List.filterMap_append, List.filterMap_cons_none h, List.filterMap_nil,
    List.append_nil, rootOf]

theorem rootOf_concat_rooted (trace : List (Item kernel)) (rootDir : Bytes) :
    rootOf (trace ++ [.note (.rooted rootDir)]) = some rootDir := by
  rw [rootOf, List.filterMap_append]
  exact List.getLast?_concat

/-- The root directory in force, followed by a canonical path. -/
def BelowRoot (trace : List (Item kernel)) (path : Bytes) : Prop :=
  ∃ root p, rootOf trace = some root ∧ Canonical p ∧ path = root ++ p

/-- A call that names a path names one below the root. -/
def PathBelowRoot (trace : List (Item kernel)) : Item kernel → Prop
  | .call (.path _ path) _ => BelowRoot trace path
  | _ => True

/-- Every path handed to the kernel was below the root. -/
def Jailed : List (Item kernel) → Prop := AtEach PathBelowRoot

/-- The invariant of a session. -/
structure Jail (w : World) : Prop where
  length : w.st.session.virtPath.length = ftpMaxPath
  canonical : Canonical (cstr w.st.session.virtPath)
  pool : ∀ pool, w.st.vfsPool = some pool →
    pool.virtPath.length = ftpMaxPath ∧ nul ∉ pool.rootDir ∧ rootOf w.trace = some pool.rootDir
  jailed : Jailed w.trace

/-- `vfs_realpath` has just succeeded: what is at `real_path` is below the root. -/
def Resolved (w : World) : Prop :=
  ∃ pool, w.st.vfsPool = some pool ∧ Canonical (cstr pool.virtPath)

/-- The invariant looks at two fields of the state and at the trace. -/
theorem Jail.of_eq {w w' : World} (h : Jail w) (hsession : w'.st.session.virtPath =
    w.st.session.virtPath) (hpool : w'.st.vfsPool = w.st.vfsPool) (htrace : w'.trace = w.trace) :
    Jail w' where
  length := hsession ▸ h.length
  canonical := hsession ▸ h.canonical
  pool := hpool ▸ htrace ▸ h.pool
  jailed := htrace ▸ h.jailed

/-- The invariant survives the end of the pool. -/
theorem Jail.withoutPool {w : World} {s : Process} (h : Jail w)
    (hsession : s.session.virtPath = w.st.session.virtPath)
    (hpool : s.vfsPool = w.st.vfsPool ∨ s.vfsPool = none) : Jail { w with st := s } := by
  rcases hpool with hpool | hpool
  · exact h.of_eq hsession hpool rfl
  · refine ⟨hsession ▸ h.length, hsession ▸ h.canonical, fun pool hp ↦ ?_, h.jailed⟩
    exact absurd (hpool.symm.trans hp) (by simp)

/-- An entry of the trace that announces no root directory keeps the invariant, if the path it may
name is below the root. -/
theorem Jail.append {w w' : World} (h : Jail w) {x : Item kernel} (hroot : rooted? x = none)
    (hpath : PathBelowRoot w.trace x) (hsession : w'.st.session.virtPath = w.st.session.virtPath)
    (hpool : w'.st.vfsPool = w.st.vfsPool) (htrace : w'.trace = w.trace ++ [x]) : Jail w' where
  length := hsession ▸ h.length
  canonical := hsession ▸ h.canonical
  pool pool hp := by
    rw [htrace, rootOf_concat hroot]
    exact h.pool pool (hpool ▸ hp)
  jailed := htrace ▸ atEach_concat.2 ⟨h.jailed, hpath⟩

/-- A note that announces no root directory keeps the invariant. -/
theorem Jail.noted {w : World} (h : Jail w) {n : Note} (hroot : rooted? (.note n) = none) :
    Jail (noted w n) :=
  h.append (x := .note n) hroot trivial rfl rfl rfl

/-- The relation of the actions: they keep the invariant. -/
def KeepsJail (_ w' : World) : Prop := Jail w'

theorem keepsJail_guard : Guard Jail KeepsJail := guard_inv _

/-! ### Actions that name no path -/

theorem pathBelowRoot_of_topic {trace : List (Item kernel)} {c : Call} (hc : c.topic ≠ .path)
    (r : Answer c) : PathBelowRoot trace (.call c r : Item kernel) := by
  cases c with
  | path => exact absurd rfl hc
  | _ => trivial

theorem jail_observe (o : Observation) : Within Jail KeepsJail (observe o) :=
  within_mark fun _ hw ↦ hw.noted rfl

theorem jail_steps : StepLogic (· ≠ .path) Jail KeepsJail where
  toCallLogic := .of_observe keepsJail_guard (by decide) (by decide)
    (fun _ hc ↦ within_sys keepsJail_guard fun _ r hw ↦
      hw.append rfl (pathBelowRoot_of_topic hc r) rfl rfl rfl)
    (fun _ ↦ within_setErrno fun _ hw ↦ hw.of_eq rfl rfl rfl) fun o _ ↦ jail_observe o
  statePool _ _ := within_modify fun _ hw ↦ hw.of_eq rfl rfl rfl
  modifySession _ hf := within_modify fun w hw ↦ hw.of_eq (hf w.st.session).virtPath rfl rfl
  undefined _ _ o _ := jail_observe o

/-! ### Resolving a path -/

variable {e : Env} {w : World} {cwd path : Bytes} {α : Type}

/-- The pool holds the text of the directory that a path leads to. -/
def Located (cwd path : Bytes) (w : World) : Prop :=
  ∃ pool dir, w.st.vfsPool = some pool ∧
    normalizeWithin slash dot ftpMaxPath (baseOf cwd path) path = some dir ∧
    cstr pool.virtPath = render slash dir ∧ Canonical (cstr pool.virtPath)

theorem Located.resolved (h : Located cwd path w) : Resolved w := by
  obtain ⟨pool, -, hpool, -, -, hcanonical⟩ := h
  exact ⟨pool, hpool, hcanonical⟩

/-- `vfs_realpath` succeeds exactly if the path fits, and then locates it. -/
theorem vfsRealpath_jail (hw : Jail w) (hcwd : Canonical cwd) (hcwd_nul : nul ∉ cwd)
    (hpath : nul ∉ path) :
    wp e (vfsRealpath cwd path)
      (fun ok w' ↦ Jail w' ∧ w'.st.session = w.st.session ∧
        if ok then Located cwd path w'
        else normalizeWithin slash dot ftpMaxPath (baseOf cwd path) path = none)
      (fun _ w' ↦ Jail w') w := by
  rcases hp : w.st.vfsPool with - | pool
  · rw [vfsRealpath, wp_bind, wp_get, hp]
    exact hw.noted rfl
  obtain ⟨hlen, hnul, hroot⟩ := hw.pool pool hp
  refine wp_mono (vfsRealpath_spec hp hlen hcwd hcwd_nul hpath) ?_ fun _ _ h ↦ h.elim
  rintro ok _ ⟨virtPath, errno, hlen', rfl, hmatch⟩
  refine ⟨⟨hw.length, hw.canonical, ?_, hw.jailed⟩, rfl, ?_⟩
  · rintro _ ⟨⟩
    exact ⟨hlen', hnul, hroot⟩
  · rcases hnorm : normalizeWithin slash dot ftpMaxPath (baseOf cwd path) path with - | dir
    · rw [hnorm] at hmatch
      obtain ⟨rfl, -⟩ := hmatch
      rfl
    · rw [hnorm] at hmatch
      obtain ⟨rfl, -, hrender, hcanonical⟩ := hmatch
      exact ⟨_, dir, rfl, hnorm, hrender, hcanonical⟩

/-- `vfs_realpath` keeps the invariant, and a path that it resolves is canonical. -/
theorem vfsRealpath_wp (hw : Jail w) (hcwd : Canonical cwd) (hcwd_nul : nul ∉ cwd)
    (hpath : nul ∉ path) :
    wp e (vfsRealpath cwd path) (fun ok w' ↦ Jail w' ∧ (ok = true → Resolved w'))
      (fun _ w' ↦ Jail w') w := by
  refine wp_mono (vfsRealpath_jail hw hcwd hcwd_nul hpath) ?_ fun _ _ h ↦ h
  rintro (_ | _) w' ⟨hjail, -, hlocated⟩
  · exact ⟨hjail, fun hok ↦ absurd hok Bool.false_ne_true⟩
  · exact ⟨hjail, fun _ ↦ hlocated.resolved⟩

/-- What is at `real_path` then is below the root. -/
theorem realPath_wp {Q : Bytes → World → Prop} {H : Halt → World → Prop} (hw : Jail w)
    (hres : Resolved w) (hQ : ∀ path, BelowRoot w.trace path → Q path w) :
    wp e realPath Q H w := by
  obtain ⟨pool, hp, hcanonical⟩ := hres
  obtain ⟨-, hnul, hroot⟩ := hw.pool pool hp
  simp only [realPath, wp_bind, wp_get, hp, wp_pure]
  refine hQ _ ⟨pool.rootDir, cstr pool.virtPath, hroot, hcanonical, ?_⟩
  rw [VfsPool.realPath, cstr_append hnul]

/-- A call with such a path, after which the path is still resolved. -/
theorem sys_path_wp (op : PathOp) (hw : Jail w) (hres : Resolved w)
    (hbelow : BelowRoot w.trace path) :
    wp e (checked (sys (.path op path))) (fun _ w' ↦ Jail w' ∧ Resolved w')
      (fun _ w' ↦ Jail w' ∧ Resolved w') w := by
  refine wp_checked_of ?_ fun w' err h ↦ ⟨h.1.of_eq rfl rfl rfl, h.2⟩
  exact wp_sys (fun r _ ↦ ⟨hw.append (x := .call (.path op path) r) rfl hbelow rfl rfl rfl, hres⟩)
    ⟨hw, hres⟩

/-- `vfs_stat` makes its two calls on the resolved path. -/
theorem vfsStat_wp (config : FtpConfig) (hw : Jail w) (hcwd : Canonical cwd) (hcwd_nul : nul ∉ cwd)
    (hpath : nul ∉ path) :
    wp e (vfsStat config cwd path) (fun _ w' ↦ Jail w') (fun _ w' ↦ Jail w') w := by
  rw [vfsStat, wp_bind]
  refine wp_mono (vfsRealpath_wp hw hcwd hcwd_nul hpath) ?_ fun _ _ h ↦ h
  rintro (_ | _) w₁ ⟨hw₁, hres₁⟩
  · exact hw₁
  rw [Bool.not_true, if_neg Bool.false_ne_true, wp_bind]
  refine realPath_wp hw₁ (hres₁ rfl) fun p hp ↦ ?_
  rw [wp_bind]
  refine wp_mono (sys_path_wp .lstat hw₁ (hres₁ rfl) hp) ?_ fun _ _ h ↦ h.1
  rintro (_ | tmp) w₂ ⟨hw₂, hres₂⟩
  · exact hw₂
  dsimp only
  split_ifs
  · exact hw₂.of_eq rfl rfl rfl
  · rw [wp_bind]
    refine realPath_wp hw₂ hres₂ fun p hp ↦ ?_
    exact wp_mono (sys_path_wp .stat hw₂ hres₂ hp) (fun _ _ h ↦ h.1) fun _ _ h ↦ h.1

/-- The other operations make one call on the resolved path. -/
theorem vfsCall_wp (op : PathOp) (hw : Jail w) (hcwd : Canonical cwd) (hcwd_nul : nul ∉ cwd)
    (hpath : nul ∉ path) :
    wp e (vfsCall op cwd path) (fun _ w' ↦ Jail w') (fun _ w' ↦ Jail w') w := by
  rw [vfsCall, wp_bind]
  refine wp_mono (vfsRealpath_wp hw hcwd hcwd_nul hpath) ?_ fun _ _ h ↦ h
  rintro (_ | _) w₁ ⟨hw₁, hres₁⟩
  · exact hw₁
  rw [Bool.not_true, if_neg Bool.false_ne_true, wp_bind]
  refine realPath_wp hw₁ (hres₁ rfl) fun p hp ↦ ?_
  exact wp_mono (sys_path_wp op hw₁ (hres₁ rfl) hp) (fun _ _ h ↦ h.1) fun _ _ h ↦ h.1

/-- Copying a canonical path into a path buffer, as a string. -/
theorem cstr_strlcpy_canonical {buf p : Bytes} (hbuf : buf.length = ftpMaxPath) (hp : Canonical p)
    (hnul : nul ∉ p) : cstr (strlcpy buf p ftpMaxPath).1 = p := by
  rw [(strlcpy_canonical hbuf hp).1]
  exact cstr_append_zero hnul _

/-- Copying a canonical path into the session's buffer. -/
theorem Jail.copy (hw : Jail w) {p : Bytes} (hp : Canonical p) (hnul : nul ∉ p) :
    Jail { w with st := { w.st with session :=
      { w.st.session with virtPath := (strlcpy w.st.session.virtPath p ftpMaxPath).1 } } } := by
  obtain ⟨hcpy, hlen⟩ := strlcpy_canonical hw.length hp
  refine ⟨?_, ?_, hw.pool, hw.jailed⟩
  · simpa only [hcpy] using hlen
  · simpa only [cstr_strlcpy_canonical hw.length hp hnul] using hp

/-- Changing the directory. -/
theorem vfsChdir_wp (hw : Jail w) (hpath : nul ∉ path) :
    wp e (vfsChdir path) (fun _ w' ↦ Jail w') (fun _ w' ↦ Jail w') w := by
  rw [vfsChdir, wp_bind, wp_getSession, wp_bind]
  refine wp_mono (vfsRealpath_wp hw hw.canonical (zero_not_mem_cstr _) hpath) ?_ fun _ _ h ↦ h
  rintro (_ | _) w₁ ⟨hw₁, hres₁⟩
  · exact hw₁
  obtain ⟨pool, hp, hcanonical⟩ := hres₁ rfl
  simp only [Bool.not_true, if_neg Bool.false_ne_true, wp_bind, wp_get, hp]
  exact hw₁.copy hcanonical (zero_not_mem_cstr _)

/-! ### The handlers -/

theorem jail_handlers (config : FtpConfig) :
    TransferLogic (· ≠ .path) (fun _ ↦ True) (fun _ ↦ True) config Jail KeepsJail where
  toStepLogic := jail_steps
  data := by decide
  send := by decide
  listening := by decide
  process := by decide
  name := by decide
  progress := by decide
  vfsStat w hw path hpath := within_iff_wp.2 fun e w' hw' ↦
    vfsStat_wp config hw' hw.canonical (zero_not_mem_cstr _) hpath
  vfsCall w hw op path _ hpath := within_iff_wp.2 fun e w' hw' ↦
    vfsCall_wp op hw' hw.canonical (zero_not_mem_cstr _) hpath
  vfsChdir _ _ path hpath _ := within_iff_wp.2 fun e w' hw' ↦ vfsChdir_wp hw' hpath
  restore w hw := within_modify fun w' hw' ↦ hw'.copy hw.canonical (zero_not_mem_cstr _)
  parent := within_modify fun _ hw ↦ hw.of_eq rfl rfl rfl
  trimArgument := jail_steps.trimArgument fun _ ↦ within_modify fun _ hw ↦ hw.of_eq rfl rfl rfl
  listArgument := jail_steps.listArgument fun _ ↦ within_modify fun _ hw ↦ hw.of_eq rfl rfl rfl
  serverHandleSignal waiter _ := jail_steps.serverHandleSignal waiter
    (fun _ ↦ within_modify fun _ hw ↦ hw.of_eq rfl rfl rfl)
    (within_mark fun _ hw ↦ hw.noted rfl)

theorem jail_login : LoginLogic (· ≠ .path) Jail KeepsJail where
  toStepLogic := jail_steps
  process := by decide
  rename _ _ := within_modify fun _ hw ↦ hw.of_eq rfl rfl rfl
  logIn := within_modify fun _ hw ↦ hw.of_eq rfl rfl rfl
  named _ := within_mark fun _ hw ↦ hw.noted rfl
  loggedIn _ := within_mark fun _ hw ↦ hw.noted rfl
  initVfsPool := jail_steps.initVfsPool fun rootDir ret hnul ↦ fun _ w hw ↦ by
    refine ⟨hw.length, hw.canonical, ?_, atEach_concat.2 ⟨hw.jailed, trivial⟩⟩
    rintro _ ⟨⟩
    exact ⟨by rw [newPool, List.length_cons, List.length_replicate]; rfl, hnul,
      rootOf_concat_rooted _ _⟩

/-! ### Sessions -/

theorem jail_commandLoop (config : FtpConfig) : Within Jail KeepsJail (commandLoop config) := by
  have L := jail_steps
  have hcommand : ∀ f, Within Jail KeepsJail (modifyCommand f) := fun f ↦
    within_modify fun _ hw ↦ hw.of_eq rfl rfl rfl
  have hreply : Topic.reply ≠ .path := by decide
  refine L.commandLoop hreply (by decide) (fun waiter ↦
    (jail_handlers config).serverHandleSignal waiter trivial) hcommand ?_
  refine L.doCmd hreply (fun _ _ ↦ within_mark fun _ hw ↦ hw.noted rfl)
    (fun _ ↦ within_mark fun _ hw ↦ hw.noted rfl) fun cmd hcmd ↦ ?_
  exact handler_within (jail_handlers config) jail_login (by decide) hcmd

theorem jail_serveSession (config : FtpConfig) (sock : ℤ) :
    Within Jail KeepsJail (serveSession config sock) := by
  have L := jail_steps
  refine L.bind (L.reply (by decide) _ _ (by decide)) fun _ ↦
    L.bind (jail_commandLoop config) fun _ ↦ ?_
  refine L.endSession (by decide) (fun f hf ↦ within_modify fun w hw ↦ ?_) sock
    (L.reply (by decide) _ _ (by decide))
  obtain ⟨hsession, hpool⟩ := hf w.st
  exact hw.withoutPool (congrArg _ hsession) hpool

/-- The directory of a fresh session is the root. -/
theorem cstr_freshSession (conn : FtpConn) (line : Bytes) {virtPath : Bytes}
    (h : virtPath.length = ftpMaxPath) :
    cstr (freshSession conn line virtPath).virtPath = [slash] := by
  obtain ⟨a, rest, rfl⟩ := List.exists_cons_of_length_eq_add_one h
  obtain ⟨b, rest, rfl⟩ := List.exists_cons_of_length_eq_add_one (Nat.succ.inj h)
  exact cstr_append_zero (s := [slash]) (by decide) rest

/-- What holds before there is a session. -/
structure NoSession (s : Process) (w : World) : Prop where
  session : w.st.session = s.session
  vfsPool : w.st.vfsPool = none
  jailed : Jailed w.trace

theorem noSession_calls (s : Process) :
    CallLogic (· = .other) (NoSession s) fun _ ↦ NoSession s := by
  have hguard : Guard (NoSession s) fun _ ↦ NoSession s :=
    ⟨fun _ h ↦ h, fun _ _ h ↦ h, fun _ h ↦ h⟩
  refine .of_observe hguard rfl (by decide) (fun c hc ↦ within_sys hguard fun w r hw ↦ ?_)
    (fun _ ↦ within_setErrno fun _ hw ↦ ⟨hw.session, hw.vfsPool, hw.jailed⟩)
    fun o _ ↦ within_mark fun w hw ↦ ?_
  · exact ⟨hw.session, hw.vfsPool,
      atEach_concat.2 ⟨hw.jailed, pathBelowRoot_of_topic (by rw [hc]; decide) r⟩⟩
  · exact ⟨hw.session, hw.vfsPool, atEach_concat.2 ⟨hw.jailed, trivial⟩⟩

/-- A fresh session is in the root directory. -/
theorem NoSession.fresh {s : Process} {w : World} (hw : NoSession s w) (conn : FtpConn)
    (line : Bytes) {virtPath : Bytes} (hvirt : virtPath.length = ftpMaxPath) :
    Jail { w with st := { w.st with session := freshSession conn line virtPath } } := by
  refine ⟨by simpa [freshSession] using hvirt, ?_, fun pool hp ↦ ?_, hw.jailed⟩
  · rw [cstr_freshSession conn line hvirt]
    decide
  · exact absurd (hw.vfsPool.symm.trans hp) (by simp)

/-- **A session stays below its root directory.** Whatever the client sends and however the calls
fail, in every state that a session reaches its directory is canonical, and every path handed to
the kernel is the root directory followed by a canonical path. (Until `new_session` has succeeded,
the session record is the one the process started with.) -/
theorem ftpMain_jail (config : FtpConfig) (sock writePipe : ℤ) (e : Env) (s : Process)
    (hs : s.vfsPool = none) :
    let w := (ftpMain config sock writePipe e (World.start s)).2
    (w.st.session = s.session ∨ Canonical (cstr w.st.session.virtPath)) ∧ Jailed w.trace := by
  refine wp_always.1 (ftpMain_wp (noSession_calls s) sock writePipe Jail (T := fun w ↦
    (w.st.session = s.session ∨ Canonical (cstr w.st.session.virtPath)) ∧ Jailed w.trace)
    ?_ ?_ ?_ ?_ ?_)
  · exact fun w _ hw ↦ ⟨hw.session, hw.vfsPool, hw.jailed⟩
  · exact fun w host client line virtPath hw _ hvirt ↦ hw.fresh _ line hvirt
  · exact fun w hw ↦ wp_mono ((jail_serveSession config sock).wp hw)
      (fun _ _ h ↦ ⟨.inr h.canonical, h.jailed⟩) fun _ _ h ↦ ⟨.inr h.canonical, h.jailed⟩
  · exact fun w hw ↦ ⟨.inl hw.session, hw.jailed⟩
  · exact ⟨rfl, hs, atEach_nil _⟩

/-- A client that logs in and asks for what is outside. -/
def escapingClient : Env := clientEnv
  [ofString "USER anonymous\r\nPASS x\r\nCWD ../..\r\nPASV\r\nRETR ../../etc/passwd\r\n"]

/-- The file that is opened is the one inside. -/
theorem ftpMain_jail_escaping :
    let w := (ftpMain { loadDefaults with anonRootDir := some (ofString "/srv") } 4 5 escapingClient
      (World.start (Process.initial 1))).2
    .path .open (ofString "/srv/etc/passwd") ∈ callsOf w.trace ∧
      (w.st.session = noSession ∨ Canonical (cstr w.st.session.virtPath)) ∧ Jailed w.trace :=
  ⟨by decide +kernel, ftpMain_jail _ 4 5 escapingClient (Process.initial 1) rfl⟩

end FtpServer
