import FtpServer.Proofs.SessionLoop

/-!
# No field of the session is read before it was assigned

`new_session` assigns every field of the session but `login.user`, which only `USER` assigns. What
reads it without asking is `PASS` and, since it frees the name, the end of the session. So a run
reads a field that was never assigned exactly if one of the two happens before the first `USER`
(`ftpMain_assigned`).

* `Named` and `Unnamed` are the two states between commands: a `USER` was dispatched, and
  `login.user` is assigned, or none was.
* `Orderly` says that nothing was read before it was assigned, so far; `AssignedIff` is the
  equivalence that holds at every point of a run.
* An action that neither gives the name nor needs it is `Nameless` (`KeepsNames`), and by
  `nameless_dispatch` only `USER` and `PASS` are anything else.
-/

namespace FtpServer

open CString Effect Effect.Proc

/-! ### What the trace says -/

/-- A command with this verb is dispatched. -/
def dispatches (verb : String) : Item kernel → Bool
  | .note (.dispatch v _) => strcaseeq v (ofString verb)
  | _ => false

/-- `login.user` is going to be read. -/
def needsUser : Item kernel → Bool
  | .note (.observe .destroyed) => true
  | x => dispatches "PASS" x

def readsUnassigned : Item kernel → Bool
  | .note (.observe .unassigned) => true
  | _ => false

/-- There was a `USER`. -/
def UserGiven (trace : List (Item kernel)) : Prop := ∃ x ∈ trace, dispatches "USER" x = true

instance : DecidablePred UserGiven := fun _ ↦ inferInstanceAs (Decidable (∃ _ ∈ _, _))

/-- A `USER` comes before what needs the name. -/
def UserFirst (before : List (Item kernel)) (x : Item kernel) : Prop :=
  needsUser x = true → UserGiven before

/-- Nothing was read that was not assigned. -/
def AllAssigned (trace : List (Item kernel)) : Prop := ∀ x ∈ trace, readsUnassigned x = false

instance : DecidablePred AllAssigned := fun _ ↦ inferInstanceAs (Decidable (∀ _ ∈ _, _))

/-- What holds at every point of a run. -/
def AssignedIff (w : World) : Prop := AllAssigned w.trace ↔ AtEach UserFirst w.trace

/-- So far, all is well. -/
structure Orderly (w : World) : Prop where
  assigned : AllAssigned w.trace
  order : AtEach UserFirst w.trace

/-- A session that reads nothing unassigned is as it should be. -/
theorem Orderly.assignedIff {w : World} (h : Orderly w) : AssignedIff w :=
  iff_of_true h.assigned h.order

/-- A `USER` was dispatched, and `login.user` is assigned. -/
structure Named (w : World) : Prop extends Orderly w where
  given : UserGiven w.trace
  user : w.st.session.login.user ≠ .indeterminate

/-- No `USER` was dispatched. -/
structure Unnamed (w : World) : Prop extends Orderly w where
  notGiven : ¬UserGiven w.trace
  login : w.st.session.login = ⟨false, false, .indeterminate⟩
  pasvSock : w.st.session.conn.pasvSock = -1

/-! ### Once a user was named -/

/-- An entry more. -/
theorem allAssigned_concat {trace : List (Item kernel)} {x : Item kernel} (h : AllAssigned trace)
    (hx : readsUnassigned x = false) : AllAssigned (trace ++ [x]) := by
  intro y hy
  rcases List.mem_append.1 hy with hy | hy
  · exact h y hy
  · rwa [List.mem_singleton.1 hy]

/-- Then anything may happen, as long as the name stays. -/
theorem Named.append {w w' : World} (h : Named w) {x : Item kernel}
    (hx : readsUnassigned x = false) (ht : w'.trace = w.trace ++ [x])
    (hlogin : w'.st.session.login = w.st.session.login) : Named w' where
  assigned := ht ▸ allAssigned_concat h.assigned hx
  order := ht ▸ atEach_concat.2 ⟨h.order, fun _ ↦ h.given⟩
  given := by
    obtain ⟨y, hy, hdispatch⟩ := h.given
    exact ⟨y, ht ▸ List.mem_append_left _ hy, hdispatch⟩
  user := hlogin ▸ h.user

/-- A name that was given is not taken back. -/
theorem Named.of_user {w : World} (h : Named w) {s : Process}
    (huser : s.session.login.user = .indeterminate → w.st.session.login.user = .indeterminate) :
    Named { w with st := s } :=
  ⟨⟨h.assigned, h.order⟩, h.given, fun hindet ↦ h.user (huser hindet)⟩

def KeepsNamed (_ w' : World) : Prop := Named w'

theorem keepsNamed_guard : Guard Named KeepsNamed := guard_inv _

theorem keepsNamed_modify {f : Process → Process}
    (hf : ∀ s, (f s).session.login.user = .indeterminate → s.session.login.user = .indeterminate) :
    Within Named KeepsNamed (Proc.modify f) :=
  within_modify fun w hw ↦ hw.of_user (hf w.st)

theorem keepsNamed_mark {n : Note} (hn : readsUnassigned (.note n) = false) :
    Within Named KeepsNamed (mark n) :=
  within_mark fun _ hw ↦ hw.append hn rfl rfl

/-- One observation alone is about a name that was not given. -/
theorem keepsNamed_observe {o : Observation} (ho : o ≠ .unassigned) :
    Within Named KeepsNamed (observe o) := by
  refine keepsNamed_mark ?_
  cases o with
  | unassigned => exact absurd rfl ho
  | _ => rfl

/-- With a name, no action reads an unassigned one. -/
theorem keepsNamed_steps : StepLogic (· ≠ .undefined) Named KeepsNamed where
  toCallLogic := .of_observe keepsNamed_guard (by decide) (by decide)
    (fun c _ ↦ within_sys keepsNamed_guard fun _ r hw ↦ hw.append (x := .call c r) rfl rfl rfl)
    (fun _ ↦ keepsNamed_modify fun _ h ↦ h) fun o ho ↦
    keepsNamed_observe (by rintro rfl; exact ho rfl)
  statePool _ _ := keepsNamed_modify fun _ h ↦ h
  modifySession f hf := keepsNamed_modify fun s h ↦ (hf s.session).login ▸ h
  undefined w hw o ho := keepsNamed_observe (by rintro rfl; exact hw.user ho)

/-- And no handler does. -/
theorem keepsNamed_handlers (config : FtpConfig) :
    TransferLogic (· ≠ .undefined) (fun _ ↦ True) (fun _ ↦ True) config Named KeepsNamed where
  toDirectoryLogic := by
    refine .of_steps keepsNamed_steps (by decide)
      (fun _ _ _ ↦ keepsNamed_steps.sys _ (by simp [Call.topic])) (fun _ ↦ ?_) (fun _ ↦ ?_) ?_ ?_ ?_
    · exact keepsNamed_modify fun _ h ↦ h
    · exact keepsNamed_modify fun _ h ↦ h
    · exact keepsNamed_modify fun _ h ↦ h
    · exact keepsNamed_steps.trimArgument fun _ ↦ keepsNamed_modify fun _ h ↦ h
    · exact keepsNamed_steps.listArgument fun _ ↦ keepsNamed_modify fun _ h ↦ h
  process := by decide
  name := by decide
  progress := by decide
  serverHandleSignal waiter _ := keepsNamed_steps.serverHandleSignal waiter
    (fun _ ↦ keepsNamed_modify fun _ h ↦ h) (keepsNamed_mark rfl)

/-- A login replaces a name by a name. -/
theorem keepsNamed_login : LoginLogic (· ≠ .undefined) Named KeepsNamed where
  toStepLogic := keepsNamed_steps
  process := by decide
  rename _ hf := keepsNamed_modify fun s h ↦ hf.user s.session.login h
  logIn := keepsNamed_modify fun _ h ↦ h
  named _ := keepsNamed_mark rfl
  loggedIn _ := keepsNamed_mark rfl
  initVfsPool := keepsNamed_steps.initVfsPool fun _ _ _ _ _ hw ↦ hw.append rfl rfl rfl

theorem keepsNamed_doCmd (config : FtpConfig) : Within Named KeepsNamed (doCmd config) :=
  keepsNamed_steps.doCmd (by decide) (fun _ _ ↦ keepsNamed_mark rfl) (fun _ ↦ keepsNamed_mark rfl)
    fun _ hcmd ↦ handler_within (keepsNamed_handlers config) keepsNamed_login (by decide) hcmd

/-! ### Actions that have nothing to do with the name -/

/-- An entry that neither gives the name nor needs it. -/
def Nameless (x : Item kernel) : Prop :=
  dispatches "USER" x = false ∧ needsUser x = false ∧ readsUnassigned x = false

/-- Nothing happened to the name, nor to the sockets. -/
structure KeepsNames (w w' : World) : Prop where
  login : w'.st.session.login = w.st.session.login
  conn : w'.st.session.conn = w.st.session.conn
  nameless : Extends Nameless w w'

/-- Between two commands. -/
def NamedOrNot (w : World) : Prop := Unnamed w ∨ Named w

theorem keepsNames_guard : Guard (fun _ ↦ True) KeepsNames where
  refl w _ := ⟨rfl, rfl, .refl w⟩
  trans _ h₁ h₂ := ⟨h₂.login.trans h₁.login, h₂.conn.trans h₁.conn, h₁.nameless.trans h₂.nameless⟩
  keep _ _ := trivial

/-- Actions that have nothing to do with names. -/
theorem Orderly.keep {w w' : World} (h : Orderly w) (hk : Extends Nameless w w') : Orderly w' := by
  refine ⟨?_, hk.atEach (fun x hx _ hneeds ↦ absurd (hx.2.1.symm.trans hneeds) (by simp)) h.order⟩
  obtain ⟨suffix, ht, hs⟩ := hk
  intro x hx
  rw [ht, List.mem_append] at hx
  exact hx.elim (h.assigned x) fun hx ↦ (hs x hx).2.2

/-- They give none either. -/
theorem userGiven_iff {w w' : World} (hk : Extends Nameless w w') :
    UserGiven w'.trace ↔ UserGiven w.trace := by
  obtain ⟨suffix, ht, hs⟩ := hk
  rw [ht]
  constructor
  · rintro ⟨x, hx, hdispatch⟩
    rcases List.mem_append.1 hx with hx | hx
    · exact ⟨x, hx, hdispatch⟩
    · exact absurd ((hs x hx).1.symm.trans hdispatch) (by simp)
  · rintro ⟨x, hx, hdispatch⟩
    exact ⟨x, List.mem_append_left _ hx, hdispatch⟩

/-- So a session without a name stays one. -/
theorem Unnamed.keep {w w' : World} (h : Unnamed w) (hk : KeepsNames w w') : Unnamed w' where
  toOrderly := h.toOrderly.keep hk.nameless
  notGiven := (userGiven_iff hk.nameless).not.2 h.notGiven
  login := hk.login.trans h.login
  pasvSock := hk.conn ▸ h.pasvSock

/-- And one with a name does. -/
theorem NamedOrNot.keep {w w' : World} (h : NamedOrNot w) (hk : KeepsNames w w') :
    NamedOrNot w' := by
  rcases h with h | h
  · exact .inl (h.keep hk)
  · exact .inr ⟨h.toOrderly.keep hk.nameless, (userGiven_iff hk.nameless).2 h.given,
      hk.login ▸ h.user⟩

/-- Both are as they should be. -/
theorem NamedOrNot.assignedIff {w : World} (h : NamedOrNot w) : AssignedIff w :=
  h.elim (fun h ↦ h.toOrderly.assignedIff) fun h ↦ h.toOrderly.assignedIff

theorem keepsNames_mark {n : Note} (hn : Nameless (.note n : Item kernel)) :
    Within (fun _ ↦ True) KeepsNames (mark n) :=
  within_mark fun _ _ ↦ ⟨rfl, rfl, .concat rfl hn⟩

/-- Between two commands, nothing is done about the name. -/
theorem keepsNames_calls :
    CallLogic (fun t ↦ t ≠ .undefined ∧ t ≠ .teardown) (fun _ ↦ True) KeepsNames :=
  .of_observe keepsNames_guard (by decide) (by decide)
    (fun _ _ ↦ within_sys keepsNames_guard fun _ _ _ ↦ ⟨rfl, rfl, .concat rfl ⟨rfl, rfl, rfl⟩⟩)
    (fun _ ↦ within_setErrno fun _ _ ↦ ⟨rfl, rfl, .of_eq rfl⟩) fun o ho ↦ keepsNames_mark (by
      cases o with
      | unassigned => exact absurd rfl ho.1
      | destroyed => exact absurd rfl ho.2
      | _ => exact ⟨rfl, rfl, rfl⟩)

/-! ### The first commands -/

variable {config : FtpConfig} {e : Env} {w : World} {α : Type}

/-- From here on without a name. -/
theorem wp_keepsNames {m : Program α} {Q : α → World → Prop}
    (hm : Within (fun _ ↦ True) KeepsNames m) (hw : Unnamed w)
    (hQ : ∀ a w', Unnamed w' → Q a w') : wp e m Q (fun _ ↦ AssignedIff) w :=
  wp_mono (hm.wp trivial) (fun a w' h ↦ hQ a w' (hw.keep h)) fun _ _ h ↦
    (hw.keep h).toOrderly.assignedIff

/-- From here on with one. -/
theorem wp_keepsNamed {m : Program α} (hm : Within Named KeepsNamed m) (hw : Named w) :
    wp e m (fun _ ↦ NamedOrNot) (fun _ ↦ AssignedIff) w :=
  wp_mono (hm.wp hw) (fun _ _ h ↦ .inr h) fun _ _ h ↦ Orderly.assignedIff h.toOrderly

/-- The commands other than `USER` and `PASS` neither give nor need the name. -/
theorem nameless_dispatch {verb : Bytes} (huser : strcaseeq verb (ofString "USER") = false)
    (hpass : strcaseeq verb (ofString "PASS") = false) (argument : Bytes) :
    Nameless (.note (.dispatch verb argument) : Item kernel) :=
  ⟨huser, hpass, rfl⟩

/-- `USER` assigns the name, whatever it is. -/
theorem douser_assigns (hlogin : w.st.session.login.loggedIn = false)
    (hw : ∀ user, user ≠ .indeterminate → Named { w with st := { w.st with session :=
      { w.st.session with login := { w.st.session.login with user } } } }) :
    wp e (douser config) (fun _ ↦ NamedOrNot) (fun _ ↦ AssignedIff) w := by
  have L := keepsNamed_login
  have hreply : Topic.reply ≠ .undefined := by decide
  rw [douser, wp_bind, wp_getSession]
  simp only [hlogin, Bool.false_eq_true, if_false]
  refine (wp_bind _ _).2 ?_
  have hnull := hw .null (by simp)
  split_ifs
  · exact wp_keepsNamed (L.replyMsg_pure hreply _ _ (by decide)) hnull
  · exact wp_keepsNamed (L.bind (L.replyMsg hreply _ (by decide)) fun _ ↦ L.bind (L.named _) fun _ ↦
      L.bind (L.rename _ ⟨fun _ ↦ rfl, fun _ h ↦ h⟩) fun _ ↦ L.pure _) hnull
  · refine wp_keepsNamed (L.bind (L.sysOther rfl) fun r ↦ ?_) hnull
    rcases r with - | block
    · exact L.pure _
    · have hformat := L.replyFormat hreply _ hnull _ fun harg _ ↦ completeReply_user harg
      exact L.bind (L.rename _ ⟨fun _ ↦ rfl, fun _ h ↦ by cases h⟩) fun _ ↦
        L.bind hformat fun _ ↦ L.bind (L.named _) fun _ ↦ L.pure _

/-- `PASS` without a `USER` reads the name. -/
theorem dopass_unassigned (hw : Unnamed w) {verb argument : Bytes}
    (hverb : strcaseeq verb (ofString "PASS") = true) :
    wp e (dopass config) (fun _ ↦ NamedOrNot) (fun _ ↦ AssignedIff)
      (noted w (.dispatch verb argument)) := by
  rw [dopass, wp_bind, wp_getSession]
  simp only [noted_st, hw.login, Bool.false_eq_true, if_false]
  refine iff_of_false (fun h ↦ ?_) fun h ↦ ?_
  · exact absurd (h (.note (.observe .unassigned)) (by simp [noted])) (by simp [readsUnassigned])
  · exact hw.notGiven ((atEach_concat.1 (atEach_concat.1 h).1).2 hverb)

/-- Of the commands without a login, `USER` gives a name and `PASS` reads it. -/
theorem unnamed_public {cmd : CmdHandler} (hcmd : cmd ∈ coreCommandList config)
    (hlogin : cmd.needsLogin = false) (hw : Unnamed w) {verb : Bytes} (argument : Bytes)
    (hverb : strcaseeq verb (ofString cmd.name) = true) :
    wp e cmd.handler (fun _ ↦ NamedOrNot) (fun _ ↦ AssignedIff)
      (noted w (.dispatch verb argument)) := by
  have L := keepsNames_calls
  have hreply : Topic.reply ≠ .undefined ∧ Topic.reply ≠ .teardown := by decide
  have hplain : ∀ {name : String} {handler : Program FtpRet},
      strcaseeq (ofString name) (ofString "USER") = false →
      strcaseeq (ofString name) (ofString "PASS") = false →
      Within (fun _ ↦ True) KeepsNames handler → strcaseeq verb (ofString name) = true →
      wp e handler (fun _ ↦ NamedOrNot) (fun _ ↦ AssignedIff)
        (noted w (.dispatch verb argument)) := by
    intro name handler huser hpass hhandler hname
    refine wp_keepsNames hhandler (hw.keep ⟨rfl, rfl, .concat rfl ?_⟩) fun _ _ h ↦ .inl h
    exact nameless_dispatch ((strcaseeq_of_name hname).trans huser)
      ((strcaseeq_of_name hname).trans hpass) argument
  have hreplies : ∀ (msg : String) (ret : FtpRet), CompleteReply (ofString msg) →
      Within (fun _ ↦ True) KeepsNames (do replyMsg msg; return ret) :=
    fun msg ret hmsg ↦ L.replyMsg_pure hreply msg ret hmsg
  refine forall_public (Q := fun cmd ↦ strcaseeq verb (ofString cmd.name) = true →
    wp e cmd.handler (fun _ ↦ NamedOrNot) (fun _ ↦ AssignedIff) (noted w (.dispatch verb argument)))
    |>.2 ⟨?_, ?_, ?_, dopass_unassigned hw, ?_, ?_, fun h ↦ ?_⟩ cmd hcmd hlogin hverb
  · exact hplain (by decide) (by decide) (L.dofeat hreply)
  · exact hplain (by decide) (by decide) (hreplies _ _ (by decide))
  · exact hplain (by decide) (by decide) (hreplies _ _ (by decide))
  · exact hplain (by decide) (by decide) (hreplies _ _ (by decide))
  · exact hplain (by decide) (by decide) (hreplies _ _ (by decide))
  · refine douser_assigns (congrArg FtpLogin.loggedIn hw.login) fun user huser ↦ ?_
    have hpass : strcaseeq verb (ofString "PASS") = false :=
      (@strcaseeq_of_name verb "USER" "PASS" h).trans (by decide)
    refine ⟨⟨allAssigned_concat hw.assigned rfl, atEach_concat.2 ⟨hw.order, fun hneeds ↦ ?_⟩⟩,
      ⟨_, List.mem_append_right _ (List.mem_singleton_self _), h⟩, huser⟩
    exact absurd (hpass.symm.trans hneeds) (by simp)

/-- Any other command is refused. -/
theorem unnamed_execCmd (hw : Unnamed w) (verb argument : Bytes) :
    wp e (execCmd config verb) (fun _ ↦ NamedOrNot) (fun _ ↦ AssignedIff)
      (noted w (.dispatch verb argument)) := by
  have L := keepsNames_calls
  have hreply : Topic.reply ≠ .undefined ∧ Topic.reply ≠ .teardown := by decide
  have hother : (∀ cmd : CmdHandler, searchCommand (commandPool config) verb = some cmd →
      (cmd.needsLogin || cmd.needsData || cmd.needsArg) = true) →
      Unnamed (noted w (.dispatch verb argument)) := by
    refine fun hne ↦ hw.keep ⟨rfl, rfl, .concat rfl (nameless_dispatch ?_ ?_ argument)⟩
    · exact @strcaseeq_eq_false config ⟨"USER", douser config, false, false, false⟩
        (by simp [coreCommandList]) _ fun h ↦ absurd (hne _ h) (by simp)
    · exact @strcaseeq_eq_false config ⟨"PASS", dopass config, false, false, false⟩
        (by simp [coreCommandList]) _ fun h ↦ absurd (hne _ h) (by simp)
  refine execCmd_wp (fun hnone ↦ ?_) (fun cmd hcmd hneeds msg hmsg ↦ ?_)
    fun cmd hcmd hlogin _ _ ↦ ?_
  · exact wp_keepsNames (L.replyMsg_pure hreply _ _ (by decide)) (hother (by simp [hnone]))
      fun _ _ h ↦ .inl h
  · refine wp_keepsNames (L.replyMsg_pure hreply msg _ (completeReply_refusal msg hmsg))
      (hother fun cmd' h ↦ ?_) fun _ _ h ↦ .inl h
    obtain rfl : cmd = cmd' := Option.some.inj (hcmd.symm.trans h)
    exact hneeds
  · rcases hneeds : cmd.needsLogin with - | -
    · exact unnamed_public (mem_of_searchCommand hcmd) hneeds hw argument
        (name_of_searchCommand hcmd)
    · exact absurd ((congrArg FtpLogin.loggedIn hw.login).symm.trans (hlogin hneeds)) (by simp)

/-! ### Sessions -/

/-- So each command is as it should be. -/
theorem namedOrNot_doCmd (hw : NamedOrNot w) :
    wp e (doCmd config) (fun _ ↦ NamedOrNot) (fun _ ↦ AssignedIff) w := by
  rcases hw with hw | hw
  · rw [doCmd, wp_bind, wp_getSession, wp_bind, wp_mark]
    refine (wp_bind _ _).2 (wp_mono (unnamed_execCmd hw _ _) (fun ret w₁ hw₁ ↦ ?_) fun _ _ h ↦ h)
    exact hw₁.keep ⟨rfl, rfl, .concat rfl ⟨rfl, rfl, rfl⟩⟩
  · exact wp_keepsNamed (keepsNamed_doCmd config) hw

/-- The end of a session without a name reads it. -/
theorem endSession_unassigned (hw : Unnamed w) (sock : ℤ) :
    wp e (endSession sock) (fun _ ↦ AssignedIff) (fun _ ↦ AssignedIff) w := by
  refine (wp_bind _ _).2 (wp_keepsNames (keepsNames_calls.reply (by decide) _ _ (by decide)) hw
    fun _ w₁ hw₁ ↦ ?_)
  refine destroySession_wp hw₁.pasvSock (fun h ↦ absurd (congrArg FtpLogin.user hw₁.login) h)
    fun _ ↦ iff_of_false (fun h ↦ ?_) fun h ↦ ?_
  · exact absurd (h (.note (.observe .unassigned)) (by simp [noted])) (by simp [readsUnassigned])
  · exact hw₁.notGiven ((atEach_concat.1 (atEach_concat.1 h).1).2 rfl)

/-- And each part of a session. -/
theorem assigned_session (config : FtpConfig) (sock : ℤ) (e : Env) :
    SessionRule (fun t ↦ t ≠ .undefined ∧ t ≠ .teardown) (fun _ ↦ True) KeepsNames config sock e
      NamedOrNot AssignedIff where
  toCallLogic := keepsNames_calls
  control := by decide
  welcome := keepsNames_calls.reply (by decide) _ _ (by decide)
  tooLong _ _ := keepsNames_calls.reply (by decide) _ _ (by decide)
  signal waiter := keepsNames_calls.serverHandleSignal waiter
    (fun _ ↦ within_modify fun _ _ ↦ ⟨rfl, rfl, .of_eq rfl⟩) (keepsNames_mark ⟨rfl, rfl, rfl⟩)
  command _ := within_modify fun _ _ ↦ ⟨rfl, rfl, .of_eq rfl⟩
  assume _ _ := trivial
  keepInv _ _ hw hk := hw.keep hk
  mid _ hw := hw.assignedIff
  doCmd _ hw := namedOrNot_doCmd hw
  endSession w hw := by
    rcases hw with hw | hw
    · exact endSession_unassigned hw sock
    · have hend : Within Named KeepsNamed (endSession sock) :=
        keepsNamed_steps.endSession (by decide)
          (fun f hf ↦ keepsNamed_modify fun s h ↦ (hf s).1 ▸ h) sock
          (keepsNamed_steps.reply (by decide) _ _ (by decide))
      exact wp_mono (hend.wp hw) (fun _ _ h ↦ h.assignedIff) fun _ _ h ↦ h.assignedIff

/-- Before there is a session. -/
structure NoUser (w : World) : Prop extends Orderly w where
  notGiven : ¬UserGiven w.trace

/-- Before there is a session, -/
theorem NoUser.keep {w w' : World} (h : NoUser w) (hk : Extends Nameless w w') : NoUser w' :=
  ⟨h.toOrderly.keep hk, (userGiven_iff hk).not.2 h.notGiven⟩

/-- nothing is done about names. -/
theorem noUser_calls : CallLogic (· = .other) NoUser fun _ ↦ NoUser :=
  startup_calls (fun _ _ _ _ hw ↦ hw.keep (.concat rfl ⟨rfl, rfl, rfl⟩))
    fun _ _ hw ↦ hw.keep (.of_eq rfl)

/-- **A session reads no field before it was assigned, if `USER` comes first.** A run reads one
exactly if a `PASS` or the end of the session comes before every `USER`. -/
theorem ftpMain_assigned (config : FtpConfig) (sock writePipe : ℤ) (e : Env) (s : Process) :
    let trace := (ftpMain config sock writePipe e (World.start s)).2.trace
    AllAssigned trace ↔ AtEach (fun before x ↦ needsUser x = true → UserGiven before) trace := by
  refine wp_always.1 (ftpMain_wp noUser_calls sock writePipe NamedOrNot
    (T := AssignedIff) ?_ ?_ ?_ ?_ ?_)
  · exact fun _ _ hw ↦ hw.keep (.of_eq rfl)
  · exact fun _ _ _ _ _ hw _ _ ↦ .inl ⟨⟨hw.assigned, hw.order⟩, hw.notGiven, rfl, rfl⟩
  · exact fun _ hw ↦ (assigned_session config sock e).serveSession hw
  · exact fun _ hw ↦ hw.toOrderly.assignedIff
  · exact ⟨⟨by simp [AllAssigned], atEach_nil _⟩, by simp [UserGiven]⟩

/-- A client that sends `PASS` first, and one that disconnects at once. -/
theorem ftpMain_unassigned :
    ¬AllAssigned (ftpMain loadDefaults 4 5 (clientEnv [ofString "PASS x\r\n"])
        (World.start (Process.initial 1))).2.trace ∧
      ¬AllAssigned (ftpMain loadDefaults 4 5 (clientEnv [])
        (World.start (Process.initial 1))).2.trace := by
  decide +kernel

end FtpServer
