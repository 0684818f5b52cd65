import FtpServer.Proofs.Jail

/-!
# On whose authority a session acts

Every path that a session hands to the kernel is for the command that is being executed, and for
somebody who is logged in, below the directory that is theirs: the home of an account whose password
was verified and whose user the process has become, or the anonymous root, if that is allowed
(`ftpMain_authorized`). The calls that create, truncate or remove something are made by one command
each.

The evidence is in the trace: what the account database answered, and the `setuid` behind it.

* `underway` is the verb of the command that is being executed, and `Asks` says which calls its
  handler may make.
* `ActsFor` is about the user: a session that is logged in acts for the anonymous account or for an
  account that was `Verified`, and the root directory is theirs.
* `Acting` is the invariant in the middle of a command, and `AtCommand` between two. A root
  directory that was announced without a login is one for the login to come (`initVfsPool_acting`).
* `handler_served` goes through the table: each command makes the calls that stand in its row.
-/

namespace FtpServer

open CString Effect Effect.Proc PathText

/-! ### What the trace says -/

/-- The command whose handler alone makes this call. -/
def PathOp.command? : PathOp → Option String
  | .lstat | .stat => none
  | .creat _ => some "STOR"
  | .open => some "RETR"
  | .mkdir _ => some "MKD"
  | .rmdir => some "RMD"
  | .unlink => some "DELE"
  | .opendir => some "LIST"

/-- The command may make this call. -/
def Asks (verb : Bytes) (op : PathOp) : Prop :=
  ∀ name ∈ op.command?, strcaseeq verb (ofString name) = true

def underwayStep (verb : Option Bytes) : Item kernel → Option Bytes
  | .note (.dispatch verb _) => some verb
  | .note (.finished _) => none
  | _ => verb

/-- The verb of the command that is being executed. -/
def underway (trace : List (Item kernel)) : Option Bytes := trace.foldl underwayStep none

/-- This is the account of this name, and its password was given. -/
def PasswordGiven (user : Bytes) (pwd : Passwd) (trace : List (Item kernel)) : Prop :=
  ∃ hash password a₁ a₂ a₃,
    (.call (.getpwnam user) ⟨a₁, some pwd⟩ : Item kernel) ∈ trace ∧
    (.call (.getspnam user) ⟨a₂, some hash⟩ : Item kernel) ∈ trace ∧
    (.call (.crypt password hash) ⟨a₃, some hash⟩ : Item kernel) ∈ trace

/-- The process has become the user of this account, whose password was given. -/
def Verified (user : Bytes) (pwd : Passwd) (trace : List (Item kernel)) : Prop :=
  PasswordGiven user pwd trace ∧ ∃ a, (.call (.setuid pwd.uid) ⟨a, .ok ()⟩ : Item kernel) ∈ trace

/-- Somebody is logged in who may be, and this directory is theirs. -/
def ActsFor (config : FtpConfig) (trace : List (Item kernel)) (root : Bytes) : Identity → Prop
  | .anonymous => config.allowAnon = true ∧ .note (.loggedIn .anonymous) ∈ trace ∧
      config.anonRootDir.map cstr = some root
  | .account user => .note (.loggedIn (.account user)) ∈ trace ∧
      ∃ pwd, Verified user pwd trace ∧ cstr pwd.dir = root

/-- A call that names a path is for the command being executed, and for somebody to whom the root
directory belongs. -/
def Permitted (config : FtpConfig) (before : List (Item kernel)) : Item kernel → Prop
  | .call (.path op _) _ => (∃ who, ∀ root ∈ rootOf before, ActsFor config before root who) ∧
      ∃ verb, underway before = some verb ∧ Asks verb op
  | _ => True

/-- The path is below that directory. -/
def Authorized (config : FtpConfig) (before : List (Item kernel)) : Item kernel → Prop
  | .call (.path op path) _ =>
    (∃ who root p, ActsFor config before root who ∧ Canonical p ∧ path = root ++ p) ∧
      ∃ verb, underway before = some verb ∧ Asks verb op
  | _ => True

section

variable {config : FtpConfig} {user root : Bytes} {pwd : Passwd} {who : Identity}
  {trace trace' : List (Item kernel)}

/-- A password that was given was given, -/
theorem PasswordGiven.mono (h : PasswordGiven user pwd trace) (hsub : trace ⊆ trace') :
    PasswordGiven user pwd trace' := by
  obtain ⟨hash, password, a₁, a₂, a₃, h₁, h₂, h₃⟩ := h
  exact ⟨hash, password, a₁, a₂, a₃, hsub h₁, hsub h₂, hsub h₃⟩

/-- one that was verified was verified, -/
theorem Verified.mono (h : Verified user pwd trace) (hsub : trace ⊆ trace') :
    Verified user pwd trace' := by
  obtain ⟨hpassword, a, hsetuid⟩ := h
  exact ⟨hpassword.mono hsub, a, hsub hsetuid⟩

/-- and whoever acts for a user goes on to. -/
theorem ActsFor.mono (h : ActsFor config trace root who) (hsub : trace ⊆ trace') :
    ActsFor config trace' root who := by
  cases who with
  | anonymous => exact ⟨h.1, hsub h.2.1, h.2.2⟩
  | account user => exact ⟨hsub h.1, h.2.imp fun _ hpwd ↦ ⟨hpwd.1.mono hsub, hpwd.2⟩⟩

/-- The command that is underway is the last that was dispatched and has not returned. -/
theorem underway_concat (trace : List (Item kernel)) (x : Item kernel) :
    underway (trace ++ [x]) = underwayStep (underway trace) x := by
  rw [underway, List.foldl_append]
  rfl

end

/-! ### What a handler does -/

/-- An entry that a handler makes, if it makes only these calls with a path. -/
def Handles (O : PathOp → Prop) : Item kernel → Prop
  | .call (.path op _) _ => O op
  | .note (.dispatch _ _) | .note (.finished _) | .note (.rooted _) => False
  | _ => True

/-- Only such entries were made, and the login is as it was. -/
def KeepsAuthority (O : PathOp → Prop) (w w' : World) : Prop :=
  w'.st.session.login = w.st.session.login ∧ Extends (Handles O) w w'

section Handles

variable {O : PathOp → Prop}

theorem authority_guard : Guard (fun _ ↦ True) (KeepsAuthority O) where
  refl w _ := ⟨rfl, .refl w⟩
  trans _ h₁ h₂ := ⟨h₂.1.trans h₁.1, h₁.2.trans h₂.2⟩
  keep _ _ := trivial

/-- A call that the command may make. -/
theorem authority_sys {c : Call} (hc : ∀ r, Handles O (.call c r)) :
    Within (fun _ ↦ True) (KeepsAuthority O) (sys c) :=
  within_sys authority_guard fun _ r _ ↦ ⟨rfl, .concat rfl (hc r)⟩

theorem authority_mark {n : Note} (hn : Handles O (.note n)) :
    Within (fun _ ↦ True) (KeepsAuthority O) (mark n) :=
  within_mark fun _ _ ↦ ⟨rfl, .concat rfl hn⟩

theorem authority_modify {f : Process → Process}
    (hf : ∀ s, (f s).session.login = s.session.login) :
    Within (fun _ ↦ True) (KeepsAuthority O) (Proc.modify f) :=
  within_modify fun w _ ↦ ⟨hf w.st, .of_eq rfl⟩

/-- Actions without paths need no authority. -/
theorem authority_steps : StepLogic (· ≠ .path) (fun _ ↦ True) (KeepsAuthority O) where
  toCallLogic := .of_observe authority_guard (by decide) (by decide)
    (fun c hc ↦ authority_sys fun r ↦ by
      cases c with
      | path => exact absurd rfl hc
      | _ => trivial)
    (fun _ ↦ authority_modify fun _ ↦ rfl) fun _ _ ↦ authority_mark trivial
  statePool _ _ := authority_modify fun _ ↦ rfl
  modifySession _ hf := authority_modify fun s ↦ (hf s.session).login
  undefined _ _ _ _ := authority_mark trivial

theorem authority_handleSignal (waiter : Waiter) :
    Within (fun _ ↦ True) (KeepsAuthority O) (serverHandleSignal waiter) :=
  authority_steps.serverHandleSignal waiter (fun _ ↦ authority_modify fun _ ↦ rfl)
    (authority_mark trivial)

/-- The handlers make the calls with paths that they are allowed. -/
theorem authority_handlers (hstat : O .lstat ∧ O .stat) (config : FtpConfig) :
    TransferLogic (· ≠ .path) O (fun _ ↦ True) config (fun _ ↦ True) (KeepsAuthority O) where
  toDirectoryLogic := .of_steps authority_steps (by decide)
    (fun op path hop ↦ authority_sys fun _ ↦ by
      rcases hop with rfl | rfl | hop
      · exact hstat.1
      · exact hstat.2
      · exact hop)
    (fun _ ↦ authority_modify fun _ ↦ rfl) (fun _ ↦ authority_modify fun _ ↦ rfl)
    (authority_modify fun _ ↦ rfl) (authority_steps.trimArgument fun _ ↦
      authority_modify fun _ ↦ rfl)
    (authority_steps.listArgument fun _ ↦ authority_modify fun _ ↦ rfl)
  process := by decide
  name := by decide
  progress := by decide
  serverHandleSignal waiter _ := authority_handleSignal waiter

theorem authority_initStatePool :
    Within (fun _ ↦ True) (KeepsAuthority O) initStatePool :=
  authority_steps.initStatePool fun _ ↦ authority_modify fun _ ↦ rfl

end Handles

/-! ### The invariant -/

/-- Every path was permitted, and who is logged in may be. -/
structure Acting (config : FtpConfig) (w : World) : Prop where
  permitted : AtEach (Permitted config) w.trace
  loggedIn : w.st.session.login.loggedIn = true →
    ∃ who, ∀ root ∈ rootOf w.trace, ActsFor config w.trace root who
  anonymous : w.st.session.login.anonymous = true → config.allowAnon = true

/-- What holds at every point, also in the middle of a command. -/
def AllPermitted (config : FtpConfig) (w : World) : Prop := AtEach (Permitted config) w.trace

variable {config : FtpConfig} {e : Env} {w w' : World} {α : Type} {O : PathOp → Prop}
  {verb : Bytes}

/-- Within a command, it stays the one that is underway. -/
theorem KeepsAuthority.underway_eq (hk : KeepsAuthority O w w') :
    underway w'.trace = underway w.trace := by
  refine hk.2.foldl (fun x hx verb ↦ ?_) none
  rcases x with ⟨c, r⟩ | n
  · rfl
  · cases n with
    | dispatch | finished => exact hx.elim
    | _ => rfl

/-- The root directory is not changed. -/
theorem KeepsAuthority.rootOf_eq (hk : KeepsAuthority O w w') :
    rootOf w'.trace = rootOf w.trace := by
  refine congrArg List.getLast? (hk.2.filterMap fun x hx ↦ ?_)
  rcases x with ⟨c, r⟩ | n
  · rfl
  · cases n with
    | rooted => exact hx.elim
    | _ => rfl

/-- And nothing is forgotten. -/
theorem KeepsAuthority.subset (hk : KeepsAuthority O w w') : w.trace ⊆ w'.trace := by
  obtain ⟨suffix, htrace, -⟩ := hk.2
  rw [htrace]
  exact List.subset_append_left _ _

/-- A handler acts for the command that is being executed. -/
theorem Acting.keep (h : Acting config w) (hk : KeepsAuthority O w w')
    (hO : ∀ op, O op → w.st.session.login.loggedIn = true ∧
      ∃ verb, underway w.trace = some verb ∧ Asks verb op) : Acting config w' := by
  refine ⟨?_, fun hlogged ↦ ?_, fun hanonymous ↦ h.anonymous (hk.1 ▸ hanonymous)⟩
  · obtain ⟨suffix, htrace, hsuffix⟩ := hk.2
    rw [htrace]
    clear htrace
    induction suffix using List.reverseRecOn with
    | nil => simpa using h.permitted
    | append_singleton suffix x ih =>
      have hbefore : ∀ y ∈ suffix, Handles O y := fun y hy ↦ hsuffix y (by simp [hy])
      rw [← List.append_assoc]
      refine atEach_concat.2 ⟨ih hbefore, ?_⟩
      rcases x with ⟨c, r⟩ | n
      · cases c with
        | path op path =>
          obtain ⟨hlogged, verb, hverb, hasks⟩ :=
            hO op (hsuffix (.call (.path op path) r) (by simp))
          obtain ⟨who, hwho⟩ := h.loggedIn hlogged
          have hk' : KeepsAuthority O w { w with trace := w.trace ++ suffix } :=
            ⟨rfl, suffix, rfl, hbefore⟩
          exact ⟨⟨who, fun root hroot ↦ (hwho root (hk'.rootOf_eq ▸ hroot)).mono hk'.subset⟩, verb,
            hk'.underway_eq.trans hverb, hasks⟩
        | _ => trivial
      · trivial
  · obtain ⟨who, hwho⟩ := h.loggedIn (hk.1 ▸ hlogged)
    exact ⟨who, fun root hroot ↦ (hwho root (hk.rootOf_eq ▸ hroot)).mono hk.subset⟩

/-- An action that names no path. -/
theorem Acting.wp {m : Program α} {Q : α → World → Prop} (h : Acting config w)
    (hm : Within (fun _ ↦ True) (KeepsAuthority fun _ ↦ False) m)
    (hQ : ∀ a w', Acting config w' → KeepsAuthority (fun _ ↦ False) w w' → Q a w') :
    wp e m Q (fun _ ↦ AllPermitted config) w :=
  wp_mono (hm.wp trivial) (fun a w' hk ↦ hQ a w' (h.keep hk nofun) hk) fun _ _ hk ↦
    (h.keep hk nofun).permitted

/-- Naming a user takes no authority away. -/
theorem Acting.login (h : Acting config w) {f : FtpLogin → FtpLogin}
    (hloggedIn : (f w.st.session.login).loggedIn = w.st.session.login.loggedIn)
    (hanonymous : (f w.st.session.login).anonymous = true → config.allowAnon = true) :
    Acting config { w with st := { w.st with session :=
      { w.st.session with login := f w.st.session.login } } } :=
  ⟨h.permitted, fun hlogged ↦ h.loggedIn (hloggedIn ▸ hlogged), hanonymous⟩

/-- Nor does a note. -/
theorem Acting.noted (h : Acting config w) {n : Note} (hn : rooted? (.note n) = none) :
    Acting config (noted w n) :=
  ⟨atEach_concat.2 ⟨h.permitted, trivial⟩, fun hlogged ↦
    (h.loggedIn hlogged).imp fun _ hwho root hroot ↦
      (hwho root (rootOf_concat hn ▸ hroot)).mono (List.subset_append_left _ _), h.anonymous⟩

/-- As long as nobody is logged in, there is no root directory. -/
def Unrooted (w : World) : Prop := w.st.session.login.loggedIn = false → rootOf w.trace = none

/-- Without a login there is no root. -/
theorem Unrooted.keep (h : Unrooted w) (hk : KeepsAuthority O w w') : Unrooted w' := fun hlogged ↦
  hk.rootOf_eq.trans (h (hk.1 ▸ hlogged))

/-- And naming a user makes none. -/
theorem Unrooted.login (h : Unrooted w) {f : FtpLogin → FtpLogin}
    (hloggedIn : (f w.st.session.login).loggedIn = w.st.session.login.loggedIn) :
    Unrooted { w with st := { w.st with session :=
      { w.st.session with login := f w.st.session.login } } } :=
  fun hlogged ↦ h (hloggedIn ▸ hlogged)

/-- How a command ends: if the session goes on, there is a root directory only behind a login. -/
def Served (config : FtpConfig) (ret : FtpRet) (w : World) : Prop :=
  Acting config w ∧ (ret = .success → Unrooted w)

/-- A command that makes no call with a path. -/
theorem Acting.serve {m : Program FtpRet} (h : Acting config w) (hroot : Unrooted w)
    (hm : Within (fun _ ↦ True) (KeepsAuthority fun _ ↦ False) m) :
    Proc.wp e m (Served config) (fun _ ↦ AllPermitted config) w :=
  h.wp hm fun _ _ h hk ↦ ⟨h, fun _ ↦ hroot.keep hk⟩

/-- Or only replies. -/
theorem Acting.reply (h : Acting config w) (hroot : Unrooted w) (msg : String) (ret : FtpRet)
    (hmsg : CompleteReply (ofString msg)) : Proc.wp e (do replyMsg msg; return ret)
      (Served config) (fun _ ↦ AllPermitted config) w :=
  h.serve hroot (authority_steps.replyMsg_pure (by decide) msg ret hmsg)

/-! ### The login -/

/-- `USER` names the anonymous account only where that is allowed. -/
theorem douser_served (h : Acting config w) (hroot : Unrooted w) :
    wp e (douser config) (Served config) (fun _ ↦ AllPermitted config) w := by
  have L := @authority_steps fun _ ↦ False
  rw [douser, wp_bind, wp_getSession]
  by_cases hlogged : w.st.session.login.loggedIn = true
  · rw [if_pos hlogged]
    exact h.reply hroot _ _ (by decide)
  have hw₁ := h.login (f := ({ · with user := .null })) rfl h.anonymous
  have hroot₁ := hroot.login (f := ({ · with user := .null })) rfl
  rw [if_neg hlogged, wp_bind, modifyLogin, modifySession, wp_modify]
  by_cases hanon : isAnonymous w.st.session.command.argument = true
  · rw [if_pos hanon]
    by_cases hallow : config.allowAnon = true
    · rw [hallow]
      refine (wp_bind _ _).2 (hw₁.wp (L.replyMsg (by decide) _ (by decide)) fun _ w₂ hw₂ hk ↦ ?_)
      rw [wp_bind, wp_mark]
      refine ⟨(hw₂.noted rfl).login (f := ({ · with anonymous := true })) rfl fun _ ↦ hallow,
        fun _ hlogged ↦ ?_⟩
      exact (rootOf_concat rfl).trans (hroot₁.keep hk hlogged)
    · rw [if_pos (by simpa using hallow)]
      exact hw₁.reply hroot₁ _ _ (by decide)
  · rw [if_neg hanon]
    refine (wp_bind _ _).2 (hw₁.wp (L.sysOther rfl) fun r w₂ hw₂ hk ↦ ?_)
    rcases r with - | block
    · exact ⟨hw₂, nofun⟩
    have hw₃ := hw₂.login (f := ({ · with user := .name w.st.session.command.argument })) rfl
      hw₂.anonymous
    have hroot₃ := (hroot₁.keep hk).login
      (f := ({ · with user := .name w.st.session.command.argument })) rfl
    have hformat := L.replyFormat (by decide) w trivial _ fun harg _ ↦ completeReply_user harg
    dsimp only
    rw [wp_bind, modifyLogin, modifySession, wp_modify]
    refine (wp_bind _ _).2 (hw₃.wp hformat fun _ w₄ hw₄ hk ↦ ?_)
    refine ⟨hw₄.noted rfl, fun _ hlogged ↦ ?_⟩
    exact (rootOf_concat rfl).trans (hroot₃.keep hk hlogged)

/-- A call that names no path, with its answer. -/
theorem Acting.sys {c : Call} {Q : Val c → World → Prop} (h : Acting config w)
    (hc : c.topic ≠ .path)
    (hQ : ∀ r : Answer c, Acting config (answered w c r) → Q r.val (answered w c r)) :
    Proc.wp e (FtpServer.sys c) Q (fun _ ↦ AllPermitted config) w := by
  refine wp_sys (fun r _ ↦ hQ r (h.keep (O := fun _ ↦ False) ⟨rfl, .concat (x := .call c r) rfl ?_⟩
    nofun)) h.permitted
  cases c with
  | path => exact absurd rfl hc
  | _ => trivial

/-- Where nobody is logged in, a root directory is for the login to come. -/
theorem initVfsPool_acting (h : Acting config w) (hout : w.st.session.login.loggedIn = false)
    (rootDir : Option Bytes) :
    wp e (initVfsPool rootDir) (fun ret w' ↦ Acting config w' ∧
      w'.st.session.login = w.st.session.login ∧ w.trace ⊆ w'.trace ∧
      rootOf w'.trace = if ret = .success then rootDir.map cstr else rootOf w.trace)
      (fun _ ↦ AllPermitted config) w := by
  rcases rootDir with - | rootDir
  · exact h.permitted
  refine (wp_bind _ _).2 (h.wp ((@authority_steps fun _ ↦ False).sysOther rfl)
    fun block w₁ hw₁ hk ↦ ?_)
  rcases block with - | block
  · exact ⟨hw₁, hk.1, hk.subset, hk.rootOf_eq⟩
  · refine ⟨⟨atEach_concat.2 ⟨hw₁.permitted, trivial⟩, fun hlogged ↦ ?_, hw₁.anonymous⟩, hk.1,
      fun _ hx ↦ List.mem_append_left _ (hk.subset hx), rootOf_concat_rooted _ _⟩
    have hout₁ : w₁.st.session.login.loggedIn = false := hk.1 ▸ hout
    exact absurd (hout₁.symm.trans hlogged) (by simp)

/-- A user id that is not -1 is that of an account whose password was given, and its home is the
root directory. -/
theorem loginUser_given (h : Acting config w) (hout : w.st.session.login.loggedIn = false)
    (user password : Bytes) :
    wp e (loginUser user password) (fun uid w' ↦ Acting config w' ∧ (uid ≠ -1 →
      ∃ pwd, pwd.uid = uid ∧ PasswordGiven user pwd w'.trace ∧
        rootOf w'.trace = some (cstr pwd.dir)))
      (fun _ ↦ AllPermitted config) w := by
  have hfail : ∀ {w' : World}, Acting config w' → Acting config w' ∧ ((-1 : UInt32) ≠ -1 →
      ∃ pwd : Passwd, pwd.uid = -1 ∧ PasswordGiven user pwd w'.trace ∧
        rootOf w'.trace = some (cstr pwd.dir)) := fun hw' ↦ ⟨hw', fun hne ↦ absurd rfl hne⟩
  rw [loginUser, wp_bind]
  refine h.sys (by simp [Call.topic]) fun r₁ hw₁ ↦ ?_
  obtain ⟨a₁, - | pwd⟩ := r₁
  · exact hfail hw₁
  dsimp only
  rw [wp_bind]
  refine hw₁.sys (by simp [Call.topic]) fun r₂ hw₂ ↦ ?_
  obtain ⟨a₂, - | hash⟩ := r₂
  · exact hfail hw₂
  dsimp only
  rw [wp_bind]
  refine hw₂.sys (by simp [Call.topic]) fun r₃ hw₃ ↦ ?_
  obtain ⟨a₃, - | encryptPw⟩ := r₃
  · exact hfail hw₃
  dsimp only
  split_ifs with hencrypt
  · exact hfail hw₃
  obtain rfl : encryptPw = hash := not_not.1 hencrypt
  generalize hw₃_eq : answered _ (.crypt password encryptPw) _ = w₃ at hw₃
  have hout₃ : w₃.st.session.login.loggedIn = false := hw₃_eq ▸ hout
  -- the three answers are what counts as a password that was given
  have hgiven : PasswordGiven user pwd w₃.trace := by
    subst hw₃_eq
    exact ⟨encryptPw, password, a₁, a₂, a₃, by simp, by simp, by simp⟩
  clear hw₃_eq
  rw [wp_bind]
  refine hw₃.wp authority_initStatePool fun ret w₄ hw₄ hk ↦ ?_
  split_ifs
  · exact hfail hw₄
  rw [wp_bind]
  refine wp_mono (initVfsPool_acting hw₄ (hk.1 ▸ hout₃) _) ?_ fun _ _ h ↦ h
  rintro ret w₅ ⟨hw₅, -, hsub, hroot⟩
  split_ifs with hret
  · exact hfail hw₅
  · exact ⟨hw₅, fun _ ↦ ⟨pwd, rfl, (hgiven.mono hk.subset).mono hsub,
      hroot.trans (if_pos (not_not.1 hret))⟩⟩

/-- `PASS` lets in who is entitled to it. -/
theorem Acting.logIn (h : Acting config w) (who : Identity)
    (hwho : ∀ root ∈ rootOf w.trace, ActsFor config (w.trace ++ [.note (.loggedIn who)]) root who) :
    Acting config (FtpServer.noted { w with st := { w.st with session := { w.st.session with
      login := { w.st.session.login with loggedIn := true } } } } (.loggedIn who)) :=
  ⟨atEach_concat.2 ⟨h.permitted, trivial⟩, fun _ ↦ ⟨who, fun root hroot ↦
    hwho root (rootOf_concat (x := .note (.loggedIn who)) rfl ▸ hroot)⟩, h.anonymous⟩

/-- `PASS` makes a root directory for whom it has verified. -/
theorem dopass_served (h : Acting config w) (hroot : Unrooted w) :
    wp e (dopass config) (Served config) (fun _ ↦ AllPermitted config) w := by
  have L := @authority_steps fun _ ↦ False
  rw [dopass, wp_bind, wp_getSession]
  split_ifs with hlogged hanonymous
  · exact h.reply hroot _ _ (by decide)
  -- `USER` has checked the configuration before it set the flag
  · have hout : w.st.session.login.loggedIn = false := by simpa using hlogged
    refine (wp_bind _ _).2 (h.wp (L.replyMsg (by decide) _ (by decide)) fun _ w₁ hw₁ hk₁ ↦ ?_)
    refine (wp_bind _ _).2 (wp_mono (initVfsPool_acting hw₁ (hk₁.1 ▸ hout) _) ?_ fun _ _ h ↦ h)
    rintro ret w₂ ⟨hw₂, -, -, hroot₂⟩
    refine (wp_bind _ _).2 (hw₂.wp authority_initStatePool fun _ w₃ hw₃ hk₃ ↦ ?_)
    refine ⟨hw₃.logIn .anonymous fun root hmem ↦ ⟨h.anonymous hanonymous, by simp, ?_⟩,
      fun _ hlogged ↦ by cases hlogged⟩
    -- the root directory in force is the one announced just now, if there was memory for it
    rw [hk₃.rootOf_eq, hroot₂, hk₁.rootOf_eq, hroot hout] at hmem
    split_ifs at hmem
    · exact hmem
    · cases hmem
  split
  · exact h.wp (L.badUser trivial) fun _ _ h _ ↦ ⟨h, fun _ ↦ hroot.keep ‹_›⟩
  · exact h.reply hroot _ _ (by decide)
  · next user huser =>
    have hout : w.st.session.login.loggedIn = false := by simpa using hlogged
    refine (wp_bind _ _).2 (wp_mono (loginUser_given h hout user _) ?_ fun _ _ h ↦ h)
    rintro uid w₁ ⟨hw₁, hgiven⟩
    split_ifs with huid
    · exact (wp_bind _ _).2 (hw₁.wp (L.replyMsg (by decide) _ (by decide)) fun _ _ h _ ↦
        ⟨h, fun hquit ↦ by cases hquit⟩)
    obtain ⟨pwd, rfl, hgiven, hroot₁⟩ := hgiven huid
    rw [wp_bind, wp_checked]
    refine hw₁.sys (by simp [Call.topic]) fun r hw₂ ↦ ?_
    obtain ⟨a, err | ⟨⟩⟩ := r
    · exact ⟨⟨hw₂.permitted, hw₂.loggedIn, hw₂.anonymous⟩, fun hquit ↦ by cases hquit⟩
    -- the process has become the user whose password was given
    have hverified : Verified user pwd (answered w₁ (.setuid pwd.uid) ⟨a, .ok ()⟩).trace :=
      ⟨hgiven.mono (by simp), a, by simp⟩
    have hroot₂ : rootOf (answered w₁ (.setuid pwd.uid) ⟨a, .ok ()⟩).trace = some (cstr pwd.dir) :=
      (rootOf_concat rfl).trans hroot₁
    refine (wp_bind _ _).2 (wp_mono ((L.sendState (by decide) .login).wp trivial)
      (fun _ w₃ hk ↦ ?_) fun _ _ hk ↦ (hw₂.keep hk fun _ hop ↦ hop.elim).permitted)
    have hw₃ := (hw₂.keep hk fun _ hop ↦ hop.elim).logIn (.account user) fun root hmem ↦ by
      rw [hk.rootOf_eq, hroot₂] at hmem
      exact ⟨by simp, pwd, (hverified.mono hk.subset).mono (List.subset_append_left _ _),
        Option.some.inj hmem⟩
    exact hw₃.reply (fun hlogged ↦ by cases hlogged) _ _ (by decide)

/-! ### The commands -/

/-- Each command of the table makes the calls that stand in its row. -/
theorem handler_served {cmd : CmdHandler} (hcmd : cmd ∈ coreCommandList config)
    (hverb : strcaseeq verb (ofString cmd.name) = true) (hunder : underway w.trace = some verb)
    (hlogin : cmd.needsLogin = true → w.st.session.login.loggedIn = true) (h : Acting config w)
    (hroot : Unrooted w) :
    wp e cmd.handler (Served config) (fun _ ↦ AllPermitted config) w := by
  have hsay : ∀ (msg : String) (ret : FtpRet), CompleteReply (ofString msg) →
      wp e (do replyMsg msg; return ret) (Served config) (fun _ ↦ AllPermitted config) w :=
    h.reply hroot
  have hfeat : wp e dofeat (Served config) (fun _ ↦ AllPermitted config) w :=
    h.serve hroot (authority_steps.dofeat (by decide))
  rcases hneeds : cmd.needsLogin with - | -
  · exact forall_public (Q := fun cmd ↦ wp e cmd.handler (Served config)
      (fun _ ↦ AllPermitted config) w) |>.2 ⟨hfeat, hsay _ _ (by decide), hsay _ _ (by decide),
        dopass_served h hroot, hsay _ _ (by decide), hsay _ _ (by decide), douser_served h hroot⟩
          cmd hcmd hneeds
  have hlogged := hlogin hneeds
  -- a command makes the calls that are its own
  let own (name : String) (op : PathOp) : Prop := ∀ n ∈ op.command?, n = name
  have hown : ∀ {name : String} {m : Program FtpRet},
      Within (fun _ ↦ True) (KeepsAuthority (own name)) m →
      strcaseeq verb (ofString name) = true →
      wp e m (Served config) (fun _ ↦ AllPermitted config) w := by
    intro name m hm hname
    have hkeep : ∀ w', KeepsAuthority (own name) w w' → Acting config w' := fun w' hk ↦
      h.keep hk fun op hop ↦ ⟨hlogged, verb, hunder, fun n hn ↦ by rwa [hop n hn]⟩
    exact wp_mono (hm.wp trivial) (fun _ w' hk ↦ ⟨hkeep w' hk, fun _ ↦ hroot.keep hk⟩)
      fun _ w' hk ↦ (hkeep w' hk).permitted
  have M : ∀ name, TransferLogic (· ≠ .path) (own name) (fun _ ↦ True) config (fun _ ↦ True)
      (KeepsAuthority (own name)) := fun name ↦ authority_handlers ⟨nofun, nofun⟩ config
  have hcwd : ∀ name, Within (fun _ ↦ True) (KeepsAuthority (own name)) (docwd config) := fun name ↦
    (M name).docwd (by decide) ((M name).sendState (by decide) _)
  have hstat : ∀ {name : String} {op : PathOp}, op.command? = some name → own name op :=
    fun hop n hn ↦ (Option.some.inj (hop.symm.trans hn)).symm
  refine FtpServer.forall_handler (Q := fun name m ↦ strcaseeq verb (ofString name) = true →
    wp e m (Served config) (fun _ ↦ AllPermitted config) w) |>.2 ⟨?_, ?_, ?_, ?_, ?_, ?_,
      ?_, ?_, ?_, ?_, ?_, ?_, ?_, ?_, ?_, ?_, ?_, ?_, ?_, ?_, ?_, ?_, ?_, ?_, ?_⟩ cmd hcmd hverb
  · exact fun _ ↦ hsay _ _ (by decide)
  · exact fun _ ↦ hsay _ _ (by decide)
  · exact fun _ ↦ hsay _ _ (by decide)
  · exact hown ((M _).docdup (by decide) ((M _).sendState (by decide) _))
  · exact fun _ ↦ hsay _ _ (by decide)
  · exact hown (hcwd _)
  · exact fun _ ↦ hfeat
  · exact hown ((M _).dolist (by decide) (by decide) (hstat rfl) trivial)
  · exact hown ((M _).domdtm (by decide))
  · exact hown ((M _).domkd (by decide) (hstat rfl))
  · exact fun _ ↦ hsay _ _ (by decide)
  · exact fun _ ↦ hsay _ _ (by decide)
  · exact fun _ ↦ dopass_served h hroot
  · exact hown ((M _).dopasv (by decide) (by decide))
  · exact hown ((M _).dopwd (by decide))
  · exact fun _ ↦ hsay _ _ (by decide)
  · exact hown ((M _).dorest (by decide) (by decide))
  · exact hown ((M _).dodele (by decide) (hstat rfl))
  · exact hown ((M _).doretr (by decide) (by decide) (by decide) (hstat rfl) trivial trivial)
  · exact hown ((M _).dormd (by decide) (hstat rfl))
  · exact hown ((M _).dosize (by decide))
  · exact fun _ ↦ hsay _ _ (by decide)
  · exact hown ((M _).dotype (by decide))
  · exact fun _ ↦ douser_served h hroot
  · exact hown ((M _).dostor (by decide) (by decide) (by decide) (hstat rfl) trivial trivial)

/-- And `do_cmd` lets nobody without a login make them. -/
theorem doCmd_served (h : Acting config w) (hroot : Unrooted w) :
    wp e (doCmd config) (Served config) (fun _ ↦ AllPermitted config) w := by
  rw [doCmd, wp_bind, wp_getSession, wp_bind, wp_mark]
  generalize hn : Note.dispatch (cstr w.st.session.command.line) w.st.session.command.argument = n
  have hw₁ : Acting config (noted w n) := h.noted (hn ▸ rfl)
  have hroot₁ : Unrooted (noted w n) :=
    fun hlogged ↦ (rootOf_concat (hn ▸ rfl)).trans (hroot hlogged)
  have hunder : underway (noted w n).trace = some (cstr w.st.session.command.line) := by
    rw [← hn]
    exact underway_concat w.trace _
  refine (wp_bind _ _).2 (wp_mono (execCmd_wp (fun _ ↦ hw₁.reply hroot₁ _ _ (by decide))
    (fun _ _ _ msg hmsg ↦ hw₁.reply hroot₁ msg _ (completeReply_refusal msg hmsg))
    fun cmd hcmd hlogin _ _ ↦ handler_served (mem_of_searchCommand hcmd)
      (name_of_searchCommand hcmd) hunder hlogin hw₁ hroot₁) (fun ret w₂ hw₂ ↦ ?_) fun _ _ h ↦ h)
  exact ⟨hw₂.1.noted rfl, fun hret hlogged ↦ (rootOf_concat rfl).trans (hw₂.2 hret hlogged)⟩

/-! ### Sessions -/

/-- Between two commands. -/
def AtCommand (config : FtpConfig) (w : World) : Prop := Acting config w ∧ Unrooted w

/-- A part of the main loop that names no path. -/
theorem AtCommand.stage {m : Program FtpRet} (h : AtCommand config w)
    (hm : Within (fun _ ↦ True) (KeepsAuthority fun _ ↦ False) m) :
    wp e m (fun ret w' ↦ if ret = .success then AtCommand config w' else Acting config w')
      (fun _ ↦ AllPermitted config) w := by
  refine h.1.wp hm fun ret w' hw' hk ↦ ?_
  split_ifs
  · exact ⟨hw', h.2.keep hk⟩
  · exact hw'

theorem serveSession_permitted (sock : ℤ) (h : AtCommand config w) :
    wp e (serveSession config sock) (fun _ ↦ AllPermitted config)
      (fun _ ↦ AllPermitted config) w := by
  have L := @authority_steps fun _ ↦ False
  have hcommand : ∀ f, Within (fun _ ↦ True) (KeepsAuthority fun _ ↦ False) (modifyCommand f) :=
    fun _ ↦ authority_modify fun _ ↦ rfl
  refine (wp_bind _ _).2 (h.1.wp (L.reply (by decide) _ _ (by decide)) fun _ w₁ hw₁ hk ↦ ?_)
  refine (wp_bind _ _).2 (wp_mono (commandLoop_wp (AtCommand config) (AtCommand config)
    (AtCommand config) (AtCommand config) (T := Acting config) (fun _ h ↦ h.1.permitted)
    (fun _ h ↦ h.stage (L.readCmd (by decide) authority_handleSignal hcommand fun _ _ ↦
      L.reply (by decide) _ _ (by decide)))
    (fun _ h ↦ h.stage (L.parseCmd hcommand)) (fun w hw ↦ ?_)
    (fun _ h ↦ h.stage (L.removeCmd hcommand)) ⟨hw₁, h.2.keep hk⟩) (fun _ w₂ hw₂ ↦ ?_)
      fun _ _ h ↦ h)
  · refine wp_mono (doCmd_served hw.1 hw.2) (fun ret w' h ↦ ?_) fun _ _ h ↦ h
    split_ifs with hret
    · exact ⟨h.1, h.2 hret⟩
    · exact h.1
  · exact hw₂.wp (L.endSession (by decide) (fun f hf ↦ authority_modify fun s ↦
      congrArg FtpSession.login (hf s).1) sock (L.reply (by decide) _ _ (by decide)))
        fun _ _ h _ ↦ h.permitted

/-- Before there is a session, no path is named, and there is no root directory. -/
def NoRoot (w : World) : Prop := rootOf w.trace = none

theorem noRoot_calls : CallLogic (· = .other) (fun w ↦ AllPermitted config w ∧ NoRoot w)
    fun _ w ↦ AllPermitted config w ∧ NoRoot w := by
  refine startup_calls (fun w c r hc hw ↦
    ⟨atEach_concat.2 ⟨hw.1, ?_⟩, (rootOf_concat rfl).trans hw.2⟩) fun _ _ hw ↦ hw
  cases c with
  | path => cases hc
  | _ => trivial

/-- **A session acts on authority only.** In every run, each call with a path is made for the
command that is being executed, one that may make this call, after somebody has logged in: an
account whose password was verified and whose user the process became, or the anonymous one, where
that is allowed. The path is below the home of that account, or the anonymous root. -/
theorem ftpMain_authorized (config : FtpConfig) (sock writePipe : ℤ) (e : Env) (s : Process)
    (hs : s.vfsPool = none) :
    AtEach (Authorized config) (ftpMain config sock writePipe e (World.start s)).2.trace := by
  have hpermitted : AllPermitted config (ftpMain config sock writePipe e (World.start s)).2 :=
    wp_always.1 (ftpMain_wp noRoot_calls sock writePipe (AtCommand config)
      (T := AllPermitted config)
      (fun _ _ h ↦ h) (fun w _ _ _ _ hw _ _ ↦ ⟨⟨hw.1, nofun, nofun⟩, fun _ ↦ hw.2⟩)
      (fun _ hw ↦ serveSession_permitted sock hw) (fun _ h ↦ h.1) ⟨atEach_nil _, rfl⟩)
  have hjailed := (ftpMain_jail config sock writePipe e s hs).2
  intro pre x post heq
  rcases x with ⟨c, r⟩ | n
  · cases c with
    | path op path =>
      obtain ⟨⟨who, hwho⟩, hverb⟩ := hpermitted pre _ post heq
      obtain ⟨root, p, hroot, hp, rfl⟩ := hjailed pre _ post heq
      exact ⟨⟨who, root, p, hwho root hroot, hp, rfl⟩, hverb⟩
    | _ => trivial
  · trivial

/-- `bob`, whose home is `/`, makes a directory. -/
theorem ftpMain_authorized_bob :
    let w := (ftpMain loadDefaults 4 5 (clientEnv [ofString "USER bob\r\nPASS x\r\nMKD d\r\n"])
      (World.start (Process.initial 1))).2
    .path (.mkdir 0o777) (ofString "//d") ∈ callsOf w.trace ∧
      AtEach (Authorized loadDefaults) w.trace :=
  ⟨by decide +kernel, ftpMain_authorized loadDefaults 4 5 _ (Process.initial 1) rfl⟩

end FtpServer
