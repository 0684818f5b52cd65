import FtpServer.Proofs.SessionLoop

/-!
# Who a session is logged in as

`USER` names an account or the anonymous one, `PASS` logs in. The three fields of the login are tied
to the history of the session by `LoginInv`; that a login is as whoever was named last holds for
exactly those logins at which the last `USER` named the anonymous account or no earlier one had
(`ftpMain_login`): nothing resets `anonymous`.

* `named?` and `loggedIn?` read the history off the notes of `USER` and `PASS`.
* `LoginInv` has a field for `anonymous`, one for `user`, and the statement about the logins so far;
  what says nothing about logins leaves it as it is (`LoginInv.extend`).
* `douser_wp` and `dopass_wp` are the two commands that do, with a lemma for each kind of login
  (`LoginInv.anonymous_login`, `LoginInv.account_login`).
-/

namespace FtpServer

open CString Effect Effect.Proc

/-! ### What the trace says -/

/-- Whom a `USER` that was answered 331 named. -/
def named? : Item kernel → Option Identity
  | .note (.named who) => some who
  | _ => none

/-- Whom a `PASS` logged in. -/
def loggedIn? : Item kernel → Option Identity
  | .note (.loggedIn who) => some who
  | _ => none

def namedOf (trace : List (Item kernel)) : List Identity := trace.filterMap named?

/-- Whom the most recent `USER` that was answered 331 named. -/
def lastNamed (trace : List (Item kernel)) : Option Identity := (namedOf trace).getLast?

/-- The last `USER` named an account, but an earlier one the anonymous account. -/
def Renamed (trace : List (Item kernel)) : Prop :=
  .anonymous ∈ namedOf trace ∧ lastNamed trace ≠ some .anonymous

/-- A login is as whoever was named last, unless the client had changed its mind. -/
def LoginFaithful (trace : List (Item kernel)) (x : Item kernel) : Prop :=
  ∀ who ∈ loggedIn? x, (lastNamed trace = some who ↔ ¬Renamed trace)

/-! ### The invariant -/

/-- The fields of the login, and the history of the session. -/
structure LoginInv (login : FtpLogin) (trace : List (Item kernel)) : Prop where
  anonymous : login.anonymous = true ↔ .anonymous ∈ namedOf trace
  user : ∀ user, login.user = .name user → lastNamed trace = some (.account user)
  faithful : AtEach LoginFaithful trace

/-- An entry that does not concern the login. -/
def NoLogin (x : Item kernel) : Prop := named? x = none ∧ loggedIn? x = none

/-- Nothing that concerns the login happened. -/
def KeepsLogin (w w' : World) : Prop :=
  w'.st.session.login = w.st.session.login ∧ Extends NoLogin w w'

theorem keepsLogin_guard : Guard (fun _ ↦ True) KeepsLogin where
  refl w _ := ⟨rfl, .refl w⟩
  trans _ h₁ h₂ := ⟨h₂.1.trans h₁.1, h₁.2.trans h₂.2⟩
  keep _ _ := trivial

/-- What says nothing about logins leaves the invariant as it is. -/
theorem LoginInv.extend {login : FtpLogin} {w w' : World} (h : LoginInv login w.trace)
    (hext : Extends NoLogin w w') : LoginInv login w'.trace := by
  have hnamed : namedOf w'.trace = namedOf w.trace := hext.filterMap fun _ hx ↦ hx.1
  refine ⟨?_, ?_, hext.atEach (fun x hx pre who hwho ↦ ?_) h.faithful⟩
  · rw [hnamed]
    exact h.anonymous
  · rw [lastNamed, hnamed]
    exact h.user
  · exact absurd (hx.2.symm.trans hwho) (by simp)

/-- Observations do not. -/
theorem keepsLogin_observe (o : Observation) :
    Within (fun _ ↦ True) KeepsLogin (observe o) :=
  within_mark fun _ _ ↦ ⟨rfl, .concat rfl ⟨rfl, rfl⟩⟩

/-- No action outside `USER` and `PASS` does. -/
theorem keepsLogin_steps : StepLogic (fun _ ↦ True) (fun _ ↦ True) KeepsLogin where
  toCallLogic := .of_observe keepsLogin_guard trivial (fun _ ↦ trivial)
    (fun _ _ ↦ within_sys keepsLogin_guard fun _ _ _ ↦ ⟨rfl, .concat rfl ⟨rfl, rfl⟩⟩)
    (fun _ ↦ within_setErrno fun _ _ ↦ ⟨rfl, .of_eq rfl⟩) fun o _ ↦ keepsLogin_observe o
  statePool _ _ := within_modify fun _ _ ↦ ⟨rfl, .of_eq rfl⟩
  modifySession _ hf := within_modify fun w _ ↦ ⟨(hf w.st.session).login, .of_eq rfl⟩
  undefined _ _ o _ := keepsLogin_observe o

/-- So no handler but these two. -/
theorem keepsLogin_handlers (config : FtpConfig) :
    TransferLogic (fun _ ↦ True) (fun _ ↦ True) (fun _ ↦ True) config (fun _ ↦ True)
      KeepsLogin where
  toDirectoryLogic := by
    have hsession : ∀ f : FtpSession → FtpSession, (∀ s, (f s).login = s.login) →
        Within (fun _ ↦ True) KeepsLogin (modifySession f) := fun f hf ↦
      within_modify fun w _ ↦ ⟨hf w.st.session, .of_eq rfl⟩
    refine .of_steps keepsLogin_steps ⟨trivial, trivial, trivial⟩
      (fun _ _ _ ↦ keepsLogin_steps.sys _ trivial) (fun _ ↦ within_modify fun _ _ ↦
      ⟨rfl, .of_eq rfl⟩) (fun _ ↦ hsession _ fun _ ↦ rfl) (hsession _ fun _ ↦ rfl) ?_ ?_
    · exact keepsLogin_steps.trimArgument fun _ ↦ hsession _ fun _ ↦ rfl
    · exact keepsLogin_steps.listArgument fun _ ↦ hsession _ fun _ ↦ rfl
  process := by decide
  name := by decide
  progress := by decide
  serverHandleSignal waiter _ := keepsLogin_steps.serverHandleSignal waiter
    (fun _ ↦ within_modify fun _ _ ↦ ⟨rfl, .of_eq rfl⟩)
    (within_mark fun _ _ ↦ ⟨rfl, .concat rfl ⟨rfl, rfl⟩⟩)

/-! ### `USER` and `PASS` -/

/-- What holds of the trace at every point, also in the middle of a command. -/
def Faithful (w : World) : Prop := AtEach LoginFaithful w.trace

/-- The invariant between two commands. -/
def Inv (w : World) : Prop := LoginInv w.st.session.login w.trace

/-- The invariant between two actions. -/
theorem Inv.keep {w w' : World} (h : Inv w) (hk : KeepsLogin w w') : Inv w' := by
  rw [Inv, hk.1]
  exact LoginInv.extend h hk.2

variable {config : FtpConfig} {e : Env} {w : World} {α : Type}

/-- An action that does not concern the login keeps everything. -/
theorem wp_keepsLogin {m : Program α} {Q : α → World → Prop}
    (hm : Within (fun _ ↦ True) KeepsLogin m) (hw : Faithful w)
    (hQ : ∀ a w', KeepsLogin w w' → Faithful w' → Q a w') :
    wp e m Q (fun _ ↦ Faithful) w := by
  have hfaithful : ∀ w', KeepsLogin w w' → Faithful w' := fun w' h ↦
    h.2.atEach (fun x hx pre who hwho ↦ absurd (hx.2.symm.trans hwho) (by simp)) hw
  exact wp_mono (hm.wp trivial) (fun a w' h ↦ hQ a w' h (hfaithful w' h)) fun _ w' h ↦
    hfaithful w' h

/-- The same as a rule. -/
theorem wp_keeps_inv {m : Program α} (hm : Within (fun _ ↦ True) KeepsLogin m) (hw : Inv w) :
    wp e m (fun _ ↦ Inv) (fun _ ↦ Faithful) w :=
  wp_keepsLogin hm hw.faithful fun _ _ h _ ↦ hw.keep h

/-- A change of the login is a change of the session. -/
theorem wp_modifyLogin {Q : Unit → World → Prop} {H : Halt → World → Prop}
    {f : FtpLogin → FtpLogin} :
    wp e (modifyLogin f) Q H w ↔ Q () { w with st := { w.st with session :=
      { w.st.session with login := f w.st.session.login } } } := Iff.rfl

/-- Forgetting the account that was named keeps the invariant. -/
theorem LoginInv.forget {login : FtpLogin} {trace : List (Item kernel)} (h : LoginInv login trace) :
    LoginInv { login with user := .null } trace where
  anonymous := h.anonymous
  user _ hu := by simp at hu
  faithful := h.faithful

/-- The entry that `USER` leaves, with the change of the login that goes with it. -/
theorem LoginInv.named {login login' : FtpLogin} {trace : List (Item kernel)} {who : Identity}
    (h : LoginInv login trace)
    (hanonymous : login'.anonymous = true ↔ login.anonymous = true ∨ who = .anonymous)
    (huser : ∀ user, login'.user = .name user → who = .account user) :
    LoginInv login' (trace ++ [.note (.named who)]) := by
  have hnamed : namedOf (trace ++ [.note (.named who)]) = namedOf trace ++ [who] := by
    rw [namedOf, List.filterMap_append]
    rfl
  refine ⟨?_, fun user hu ↦ ?_, atEach_concat.2 ⟨h.faithful, fun _ hwho ↦ by cases hwho⟩⟩
  · rw [hnamed, hanonymous, h.anonymous, List.mem_append, List.mem_singleton,
      eq_comm (a := Identity.anonymous)]
  · rw [lastNamed, hnamed, List.getLast?_concat, huser user hu]

/-- `USER` forgets nothing that was verified: an anonymous name sets a flag that is never cleared.
-/
theorem douser_wp (hw : Inv w) : wp e (douser config) (fun _ ↦ Inv) (fun _ ↦ Faithful) w := by
  have L := keepsLogin_steps
  rw [douser, wp_bind, wp_getSession]
  by_cases hlogged : w.st.session.login.loggedIn = true
  · rw [if_pos hlogged]
    exact wp_keeps_inv (L.replyMsg_pure trivial _ _ (by decide)) hw
  rw [if_neg hlogged, wp_bind]
  have hw₁ : Inv { w with st := { w.st with session := { w.st.session with login :=
      { w.st.session.login with user := .null } } } } := hw.forget
  by_cases hanon : isAnonymous w.st.session.command.argument = true
  · rw [if_pos hanon]
    split_ifs
    · exact wp_keeps_inv (L.replyMsg_pure trivial _ _ (by decide)) hw₁
    · refine (wp_bind _ _).2 (wp_keepsLogin (L.replyMsg trivial _ (by decide)) hw₁.faithful
        fun _ w₂ hk _ ↦ ?_)
      have hw₂ := hw₁.keep hk
      refine hw₂.named (by simp) fun user hu ↦ ?_
      have hnull : w₂.st.session.login.user = .null := by rw [hk.1]
      simp [hnull] at hu
  · rw [if_neg hanon]
    refine (wp_bind _ _).2 (wp_keepsLogin (L.sysOther rfl) hw₁.faithful fun r w₂ hk _ ↦ ?_)
    have hw₂ := hw₁.keep hk
    rcases r with - | block
    · exact hw₂
    -- the account is noted only after the reply
    have hformat := L.replyFormat trivial w trivial _ fun harg _ ↦ completeReply_user harg
    refine (wp_bind _ _).2 ((wp_bind _ _).2 (wp_keepsLogin hformat hw₂.faithful
      fun _ w₃ hk₃ _ ↦ ?_))
    have hw₃ : LoginInv w₂.st.session.login w₃.trace := LoginInv.extend hw₂ hk₃.2
    refine hw₃.named ?_ fun user hu ↦ ?_
    · simp [hk₃.1]
    · have hname : w₃.st.session.login.user = .name w.st.session.command.argument := by rw [hk₃.1]
      simpa [hname] using hu

/-- What a login leaves, given whom it is as. -/
theorem LoginInv.loggedIn {login : FtpLogin} {trace : List (Item kernel)} {who : Identity}
    (h : LoginInv login trace) (hwho : lastNamed trace = some who ↔ ¬Renamed trace) :
    LoginInv { login with loggedIn := true } (trace ++ [.note (.loggedIn who)]) := by
  have hnamed : namedOf (trace ++ [.note (.loggedIn who)]) = namedOf trace := by
    rw [namedOf, List.filterMap_append]
    exact List.append_nil _
  refine ⟨?_, ?_, atEach_concat.2 ⟨h.faithful, ?_⟩⟩
  · rw [hnamed]
    exact h.anonymous
  · rw [lastNamed, hnamed]
    exact h.user
  · rintro _ ⟨⟩
    exact hwho

/-- The invariant decides at which logins the last `USER` is respected. -/
theorem LoginInv.anonymous_login {login : FtpLogin} {trace : List (Item kernel)}
    (h : LoginInv login trace) (hanon : login.anonymous = true) :
    lastNamed trace = some .anonymous ↔ ¬Renamed trace := by
  have hmem := h.anonymous.1 hanon
  simp [Renamed, hmem]

/-- Whoever logs in as an account was named last, unless the flag is still set. -/
theorem LoginInv.account_login {login : FtpLogin} {trace : List (Item kernel)} {user : Bytes}
    (h : LoginInv login trace) (hanon : ¬login.anonymous = true) (huser : login.user = .name user) :
    lastNamed trace = some (.account user) ↔ ¬Renamed trace := by
  have hmem : .anonymous ∉ namedOf trace := fun hm ↦ hanon (h.anonymous.2 hm)
  simp [Renamed, hmem, h.user user huser]

/-- A root directory is no login. -/
theorem keepsLogin_initVfsPool (rootDir : Option Bytes) :
    Within (fun _ ↦ True) KeepsLogin (initVfsPool rootDir) :=
  keepsLogin_steps.initVfsPool (fun _ _ _ _ _ _ ↦ ⟨rfl, .concat rfl ⟨rfl, rfl⟩⟩) rootDir

/-- `PASS` verifies the account named last, or trusts the flag. -/
theorem dopass_wp (hw : Inv w) : wp e (dopass config) (fun _ ↦ Inv) (fun _ ↦ Faithful) w := by
  have L := keepsLogin_steps
  rw [dopass, wp_bind, wp_getSession]
  by_cases hlogged : w.st.session.login.loggedIn = true
  · rw [if_pos hlogged]
    exact wp_keeps_inv (L.replyMsg_pure trivial _ _ (by decide)) hw
  rw [if_neg hlogged]
  by_cases hanon : w.st.session.login.anonymous = true
  · rw [if_pos hanon]
    refine (wp_bind _ _).2 (wp_keepsLogin (L.replyMsg trivial _ (by decide)) hw.faithful
      fun _ w₁ hk₁ h₁ ↦ ?_)
    refine (wp_bind _ _).2 (wp_keepsLogin (keepsLogin_initVfsPool _) h₁ fun _ w₂ hk₂ h₂ ↦ ?_)
    refine (wp_bind _ _).2 (wp_keepsLogin (L.initStatePool (L.statePool trivial)) h₂
      fun _ w₃ hk₃ _ ↦ ?_)
    have hw₃ := ((hw.keep hk₁).keep hk₂).keep hk₃
    have hanon₃ : w₃.st.session.login.anonymous = true := by rw [hk₃.1, hk₂.1, hk₁.1, hanon]
    -- nothing has cleared the flag, so this login may be that of an earlier `USER`
    exact LoginInv.loggedIn hw₃ (LoginInv.anonymous_login hw₃ hanon₃)
  rw [if_neg hanon]
  rcases huser : w.st.session.login.user with - | - | user
  · have hk : KeepsLogin w (noted w (.observe .unassigned)) := ⟨rfl, .concat rfl ⟨rfl, rfl⟩⟩
    exact (hw.keep hk).faithful
  · exact wp_keeps_inv (L.replyMsg_pure trivial _ _ (by decide)) hw
  dsimp only
  refine (wp_bind _ _).2 (wp_keepsLogin
    (L.loginUser (L.statePool trivial) keepsLogin_initVfsPool _ _) hw.faithful
    fun userId w₁ hk₁ h₁ ↦ ?_)
  have hw₁ := hw.keep hk₁
  split_ifs
  · exact wp_keeps_inv (L.replyMsg_pure trivial _ _ (by decide)) hw₁
  refine (wp_bind _ _).2 (wp_keepsLogin (L.checked (L.sysOther rfl)) h₁ fun r w₂ hk₂ h₂ ↦ ?_)
  have hw₂ := hw₁.keep hk₂
  rcases r with - | -
  · exact hw₂
  refine (wp_bind _ _).2 (wp_keepsLogin (L.sendState trivial _) h₂ fun _ w₃ hk₃ _ ↦ ?_)
  have hw₃ := hw₂.keep hk₃
  -- what comes between leaves the name as `USER` has left it
  have hlogin : w₃.st.session.login = w.st.session.login := by rw [hk₃.1, hk₂.1, hk₁.1]
  have haccount := LoginInv.account_login hw₃ (by rwa [hlogin]) (hlogin ▸ huser)
  rw [wp_bind, wp_modifyLogin, wp_bind, wp_mark]
  exact wp_keeps_inv (L.replyMsg_pure trivial _ _ (by decide)) (LoginInv.loggedIn hw₃ haccount)

/-! ### Sessions -/

/-- The other commands do nothing about logins. -/
theorem login_handler {cmd : CmdHandler} (hcmd : cmd ∈ coreCommandList config) (hw : Inv w) :
    wp e cmd.handler (fun _ ↦ Inv) (fun _ ↦ Faithful) w := by
  have L := keepsLogin_handlers config
  refine L.forall_handler (Q := fun h ↦ ∀ w, Inv w → wp e h (fun _ ↦ Inv) (fun _ ↦ Faithful) w)
    trivial trivial trivial trivial (fun _ h _ hw ↦ wp_keeps_inv h hw) (fun _ hw ↦ douser_wp hw)
    (fun _ hw ↦ dopass_wp hw) ?_ ?_ ?_ ?_ ?_ hcmd w hw
  · exact fun _ hw ↦ wp_keeps_inv (L.dopasv trivial trivial) hw
  · exact fun _ hw ↦ wp_keeps_inv (L.dorest trivial trivial) hw
  · exact fun _ hw ↦ wp_keeps_inv (L.dolist trivial trivial trivial trivial) hw
  · exact fun _ hw ↦ wp_keeps_inv (L.doretr trivial trivial trivial trivial trivial trivial) hw
  · exact fun _ hw ↦ wp_keeps_inv (L.dostor trivial trivial trivial trivial trivial trivial) hw

/-- So each command keeps the invariant. -/
theorem login_execCmd (hw : Inv w) (verb : Bytes) :
    wp e (execCmd config verb) (fun _ ↦ Inv) (fun _ ↦ Faithful) w := by
  have L := keepsLogin_steps
  rw [execCmd]
  rcases hcmd : searchCommand (commandPool config) verb with - | cmd
  · exact wp_keeps_inv (L.replyMsg_pure trivial _ _ (by decide)) hw
  refine (wp_bind _ _).2 (wp_mono (wp_keeps_inv (L.preCommand trivial cmd) hw) ?_ fun _ _ h ↦ h)
  intro ret w₁ hw₁
  split_ifs
  · exact hw₁
  · exact login_handler (mem_of_searchCommand hcmd) hw₁

/-- And so does `do_cmd`. -/
theorem login_doCmd (hw : Inv w) : wp e (doCmd config) (fun _ ↦ Inv) (fun _ ↦ Faithful) w := by
  rw [doCmd, wp_bind, wp_getSession, wp_bind, wp_mark]
  have hw₁ : Inv (noted w (.dispatch (cstr w.st.session.command.line)
      w.st.session.command.argument)) := hw.keep ⟨rfl, .concat rfl ⟨rfl, rfl⟩⟩
  refine (wp_bind _ _).2 (wp_mono (login_execCmd hw₁ _) (fun ret w₂ hw₂ ↦ ?_) fun _ _ h ↦ h)
  exact hw₂.keep ⟨rfl, .concat rfl ⟨rfl, rfl⟩⟩

/-- Each part of a session keeps it. -/
theorem login_session (config : FtpConfig) (sock : ℤ) (e : Env) :
    SessionRule (fun _ ↦ True) (fun _ ↦ True) KeepsLogin config sock e Inv Faithful where
  toCallLogic := keepsLogin_steps.toCallLogic
  control := trivial
  welcome := keepsLogin_steps.reply trivial _ _ (by decide)
  tooLong _ _ := keepsLogin_steps.reply trivial _ _ (by decide)
  signal waiter := (keepsLogin_handlers config).serverHandleSignal waiter trivial
  command _ := within_modify fun _ _ ↦ ⟨rfl, .of_eq rfl⟩
  assume _ _ := trivial
  keepInv _ _ hw hk := hw.keep hk
  mid _ hw := hw.faithful
  doCmd _ hw := login_doCmd hw
  endSession w hw := by
    refine wp_mono (wp_keeps_inv (keepsLogin_steps.endSession ⟨trivial, trivial⟩ ?_ sock
      (keepsLogin_steps.reply trivial _ _ (by decide))) hw)
      (fun _ _ h ↦ h.faithful) fun _ _ h ↦ h
    exact fun f hf ↦ within_modify fun w _ ↦ ⟨congrArg _ (hf w.st).1, .of_eq rfl⟩

/-- Before there is a session, nobody was named and nobody logged in. -/
def NoHistory (w : World) : Prop := namedOf w.trace = [] ∧ Faithful w

/-- Before there is a session, nobody was named. -/
theorem noHistory_calls : CallLogic (· = .other) NoHistory fun _ ↦ NoHistory := by
  have hkeep : ∀ w w' : World, NoHistory w → Extends NoLogin w w' → NoHistory w' :=
    fun w w' hw hext ↦ ⟨(hext.filterMap fun _ hx ↦ hx.1).trans hw.1,
      hext.atEach (fun x hx pre who hwho ↦ absurd (hx.2.symm.trans hwho) (by simp)) hw.2⟩
  exact startup_calls (fun w _ _ _ hw ↦ hkeep w _ hw (.concat rfl ⟨rfl, rfl⟩)) fun _ _ hw ↦ hw

/-- **Who a session is logged in as.** In every run, a `PASS` that logs in does so as whoever the
most recent `USER` named if and only if the client had not named an account after the anonymous
one. -/
theorem ftpMain_login (config : FtpConfig) (sock writePipe : ℤ) (e : Env) (s : Process) :
    AtEach (fun before x ↦ ∀ who ∈ loggedIn? x, (lastNamed before = some who ↔ ¬Renamed before))
      (ftpMain config sock writePipe e (World.start s)).2.trace := by
  refine wp_always.1 (ftpMain_wp noHistory_calls sock writePipe Inv (T := Faithful)
    ?_ ?_ ?_ ?_ ?_)
  · exact fun w _ hw ↦ hw
  · intro w host client line virtPath hw _ _
    refine ⟨?_, fun user hu ↦ by simp [freshSession] at hu, hw.2⟩
    simp [freshSession, hw.1]
  · exact fun w hw ↦ (login_session config sock e).serveSession hw
  · exact fun w hw ↦ hw.2
  · exact ⟨rfl, atEach_nil _⟩

/-- A client that names the anonymous account, then an account, and logs in. -/
def renamingClient : Env := clientEnv [ofString "USER anonymous\r\nUSER bob\r\nPASS x\r\n"]

/-- It is logged in as the anonymous account, although it last named `bob`. -/
theorem renamingClient_anonymous :
    ¬AtEach (fun before x ↦ ∀ who ∈ loggedIn? x, lastNamed before = some who)
      (ftpMain { loadDefaults with anonRootDir := some (ofString "/srv") } 4 5 renamingClient
        (World.start (Process.initial 1))).2.trace := by
  decide +kernel

end FtpServer
