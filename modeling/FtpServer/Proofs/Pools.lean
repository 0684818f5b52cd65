import FtpServer.Proofs.SessionLoop

/-!
# The memory pools of a session

`vfs_realpath` and `send_state` use blocks that the login allocates. A named login fails if it does
not get them; an anonymous one ignores whether it does. So the pools of a session that is logged in
are there, up to the end of the session, as long as the anonymous login got its memory
(`ftpMain_pools`).

* `Pooled` holds between two commands as long as the anonymous logins got their memory, and
  `Starved` once one did not; `PoolInv` is one or the other.
* `Allocates` is what the two functions that make a pool have in common.
* `dopass_pools` is where the two kinds of logins differ.
* `PooledIf` is what holds at every point, also in the middle of a command and behind the end of the
  session (`Over`).
-/

namespace FtpServer

open CString Effect Effect.Proc

/-! ### What the trace says -/

/-- Whether a `malloc` of the current command failed, given whether one did before this entry. -/
def mallocFails (failed : Bool) : Item kernel → Bool
  | .note (.dispatch _ _) => false
  | .call (.malloc _) r => failed || r.val.isNone
  | _ => failed

/-- A `malloc` of the current command failed. -/
def outOfMemory (trace : List (Item kernel)) : Bool := trace.foldl mallocFails false

/-- A `PASS` logs in as the anonymous account. -/
def logsInAnonymous : Item kernel → Bool
  | .note (.loggedIn .anonymous) => true
  | _ => false

/-- An anonymous login got its memory. -/
def EnoughMemory (before : List (Item kernel)) (x : Item kernel) : Prop :=
  logsInAnonymous x = true → outOfMemory before = false

instance (before : List (Item kernel)) (x : Item kernel) : Decidable (EnoughMemory before x) :=
  inferInstanceAs (Decidable (_ → _))

def missesPool : Item kernel → Bool
  | .note (.observe .missingPool) => true
  | _ => false

def destroys : Item kernel → Bool
  | .note (.observe .destroyed) => true
  | _ => false

/-- The session has been destroyed. -/
def Ended (trace : List (Item kernel)) : Prop := ∃ x ∈ trace, destroys x = true

instance : DecidablePred Ended := fun _ ↦ inferInstanceAs (Decidable (∃ _ ∈ _, _))

/-- No pool was used that is not there. -/
def NoneMissing (trace : List (Item kernel)) : Prop := ∀ x ∈ trace, missesPool x = false

instance : DecidablePred NoneMissing := fun _ ↦ inferInstanceAs (Decidable (∀ _ ∈ _, _))

/-- Each `malloc` may be the one that fails. -/
theorem outOfMemory_concat (trace : List (Item kernel)) (x : Item kernel) :
    outOfMemory (trace ++ [x]) = mallocFails (outOfMemory trace) x := by
  simp [outOfMemory]

/-- An entry that misses no pool adds none. -/
theorem noneMissing_concat {trace : List (Item kernel)} {x : Item kernel}
    (h : NoneMissing trace) (hx : missesPool x = false) : NoneMissing (trace ++ [x]) := by
  intro y hy
  rcases List.mem_append.1 hy with hy | hy
  · exact h y hy
  · rwa [List.mem_singleton.1 hy]

/-! ### The invariant -/

/-- What holds at every point of a run, if the anonymous logins got their memory. -/
def PooledIf (w : World) : Prop :=
  AtEach EnoughMemory w.trace →
    (w.st.session.login.loggedIn = true →
      Ended w.trace ∨ w.st.vfsPool ≠ none ∧ w.st.statePool ≠ none) ∧ NoneMissing w.trace

/-- Nobody is logged in. -/
structure LoggedOut (w : World) : Prop where
  loggedIn : w.st.session.login.loggedIn = false
  noneMissing : NoneMissing w.trace

/-- The pools are there, and somebody is logged in or not. -/
structure Pooled (loggedIn : Bool) (w : World) : Prop where
  loggedIn : w.st.session.login.loggedIn = loggedIn
  vfsPool : w.st.vfsPool ≠ none
  statePool : w.st.statePool ≠ none
  noneMissing : NoneMissing w.trace

/-- An anonymous login did not get its memory. -/
def Starved (trace : List (Item kernel)) : Prop := ¬AtEach EnoughMemory trace

/-- Memory that was missing stays missing. -/
theorem starved_concat (trace : List (Item kernel)) (x : Item kernel) (h : Starved trace) :
    Starved (trace ++ [x]) :=
  fun hall ↦ h (atEach_concat.1 hall).1

/-- The invariant of the main loop. -/
def PoolInv (w : World) : Prop := Starved w.trace ∨ LoggedOut w ∨ Pooled true w

/-- A session that has both pools is as it should be. -/
theorem Pooled.pooledIf {b : Bool} {w : World} (h : Pooled b w) : PooledIf w :=
  fun _ ↦ ⟨fun _ ↦ .inr ⟨h.vfsPool, h.statePool⟩, h.noneMissing⟩

/-- So is one that has not logged in. -/
theorem LoggedOut.pooledIf {w : World} (h : LoggedOut w) : PooledIf w :=
  fun _ ↦ ⟨fun hlogin ↦ absurd (h.loggedIn.symm.trans hlogin) (by simp), h.noneMissing⟩

/-- Where memory was missing, nothing is promised. -/
theorem Starved.pooledIf {w : World} (h : Starved w.trace) : PooledIf w := fun hall ↦ absurd hall h

/-- The session was destroyed. -/
structure Over (w : World) : Prop where
  ended : Ended w.trace
  noneMissing : AtEach EnoughMemory w.trace → NoneMissing w.trace

/-- A session that is over has ended. -/
theorem Over.pooledIf {w : World} (h : Over w) : PooledIf w :=
  fun hall ↦ ⟨fun _ ↦ .inl h.ended, h.noneMissing hall⟩

/-- So the invariant is enough. -/
theorem PoolInv.pooledIf {w : World} (h : PoolInv w) : PooledIf w := by
  rcases h with h | h | h
  · exact h.pooledIf
  · exact h.pooledIf
  · exact h.pooledIf

/-! ### Actions with the pools -/

variable {b : Bool} {config : FtpConfig}

/-- An entry that leaves login and pools alone. -/
theorem Pooled.append {w w' : World} (h : Pooled b w) {x : Item kernel}
    (hx : missesPool x = false) (ht : w'.trace = w.trace ++ [x])
    (hlogin : w'.st.session.login = w.st.session.login) (hvfs : w'.st.vfsPool = w.st.vfsPool)
    (hstate : w'.st.statePool = w.st.statePool) : Pooled b w' :=
  ⟨hlogin ▸ h.loggedIn, hvfs ▸ h.vfsPool, hstate ▸ h.statePool,
    ht ▸ noneMissing_concat h.noneMissing hx⟩

def KeepsPooled (b : Bool) (_ w' : World) : Prop := Pooled b w'

theorem keepsPooled_guard : Guard (Pooled b) (KeepsPooled b) := guard_inv _

theorem keepsPooled_mark {n : Note} (hn : missesPool (.note n) = false) :
    Within (Pooled b) (KeepsPooled b) (mark n) :=
  within_mark fun _ hw ↦ hw.append hn rfl rfl rfl rfl

/-- One observation alone is about a pool that is missing. -/
theorem missesPool_observe {o : Observation} (ho : o ≠ .missingPool) :
    missesPool (.note (.observe o)) = false := by
  cases o with
  | missingPool => exact absurd rfl ho
  | _ => rfl

/-- Changes of the session that are not about the login. -/
theorem keepsPooled_session {f : FtpSession → FtpSession} (hf : ∀ s, (f s).login = s.login) :
    Within (Pooled b) (KeepsPooled b) (modifySession f) :=
  within_modify fun w hw ↦
    ⟨(congrArg FtpLogin.loggedIn (hf w.st.session)).trans hw.loggedIn, hw.vfsPool, hw.statePool,
      hw.noneMissing⟩

/-- With both pools there, no action misses one. -/
theorem keepsPooled_steps : StepLogic (· ≠ .undefined) (Pooled b) (KeepsPooled b) where
  toCallLogic := .of_observe keepsPooled_guard (by decide) (by decide)
    (fun c _ ↦ within_sys keepsPooled_guard fun _ r hw ↦
      hw.append (x := .call c r) rfl rfl rfl rfl rfl)
    (fun _ ↦ within_setErrno fun _ hw ↦ ⟨hw.loggedIn, hw.vfsPool, hw.statePool, hw.noneMissing⟩)
    fun o ho ↦ keepsPooled_mark (missesPool_observe (by rintro rfl; exact ho rfl))
  statePool _ _ := within_modify fun _ hw ↦ ⟨hw.loggedIn, hw.vfsPool, by simp, hw.noneMissing⟩
  modifySession _ hf := keepsPooled_session fun s ↦ (hf s).login
  undefined w hw o ho := keepsPooled_mark (missesPool_observe (by
    rintro rfl
    exact ho.elim hw.vfsPool hw.statePool))

/-- And no handler does. -/
theorem keepsPooled_handlers (config : FtpConfig) :
    TransferLogic (· ≠ .undefined) (fun _ ↦ True) (fun _ ↦ True) config (Pooled b)
      (KeepsPooled b) where
  toDirectoryLogic := by
    refine .of_steps keepsPooled_steps (by decide)
      (fun _ _ _ ↦ keepsPooled_steps.sys _ (by simp [Call.topic])) (fun _ ↦ ?_)
      (fun _ ↦ ?_) ?_ ?_ ?_
    · exact within_modify fun _ hw ↦
        ⟨hw.loggedIn, by simpa using hw.vfsPool, hw.statePool, hw.noneMissing⟩
    · exact keepsPooled_session fun _ ↦ rfl
    · exact keepsPooled_session fun _ ↦ rfl
    · exact keepsPooled_steps.trimArgument fun _ ↦ keepsPooled_session fun _ ↦ rfl
    · exact keepsPooled_steps.listArgument fun _ ↦ keepsPooled_session fun _ ↦ rfl
  process := by decide
  name := by decide
  progress := by decide
  serverHandleSignal waiter _ := keepsPooled_steps.serverHandleSignal waiter
    (fun _ ↦ within_modify fun _ hw ↦ ⟨hw.loggedIn, hw.vfsPool, hw.statePool, hw.noneMissing⟩)
    (keepsPooled_mark rfl)

/-- Nor a second login. -/
theorem keepsPooled_login : LoginLogic (· ≠ .undefined) (Pooled true) (KeepsPooled true) where
  toStepLogic := keepsPooled_steps
  process := by decide
  rename _ hf := within_modify fun _ hw ↦
    ⟨(hf.loggedIn _).trans hw.loggedIn, hw.vfsPool, hw.statePool, hw.noneMissing⟩
  logIn := within_modify fun _ hw ↦ ⟨rfl, hw.vfsPool, hw.statePool, hw.noneMissing⟩
  named _ := keepsPooled_mark rfl
  loggedIn _ := keepsPooled_mark rfl
  initVfsPool := keepsPooled_steps.initVfsPool fun _ _ _ _ _ hw ↦
    ⟨hw.loggedIn, Option.some_ne_none _, hw.statePool, noneMissing_concat hw.noneMissing rfl⟩

theorem keepsPooled_doCmd (config : FtpConfig) :
    Within (Pooled true) (KeepsPooled true) (doCmd config) :=
  keepsPooled_steps.doCmd (by decide) (fun _ _ ↦ keepsPooled_mark rfl)
    (fun _ ↦ keepsPooled_mark rfl) fun _ hcmd ↦
      handler_within (keepsPooled_handlers config) keepsPooled_login (by decide) hcmd

/-! ### Actions before the login -/

/-- The same without a login. -/
theorem LoggedOut.append {w w' : World} (h : LoggedOut w) {x : Item kernel}
    (hx : missesPool x = false) (ht : w'.trace = w.trace ++ [x])
    (hlogin : w'.st.session.login = w.st.session.login) : LoggedOut w' :=
  ⟨hlogin ▸ h.loggedIn, ht ▸ noneMissing_concat h.noneMissing hx⟩

def KeepsLoggedOut (_ w' : World) : Prop := LoggedOut w'

theorem keepsLoggedOut_guard : Guard LoggedOut KeepsLoggedOut := guard_inv _

theorem keepsLoggedOut_mark {n : Note} (hn : missesPool (.note n) = false) :
    Within LoggedOut KeepsLoggedOut (mark n) :=
  within_mark fun _ hw ↦ hw.append hn rfl rfl

/-- Without a login, the calls for a reply are made. -/
theorem keepsLoggedOut_replies : CallLogic (· ≠ .undefined) LoggedOut KeepsLoggedOut :=
  .of_observe keepsLoggedOut_guard (by decide) (by decide)
    (fun c _ ↦ within_sys keepsLoggedOut_guard fun _ r hw ↦ hw.append (x := .call c r) rfl rfl rfl)
    (fun _ ↦ within_setErrno fun _ hw ↦ ⟨hw.loggedIn, hw.noneMissing⟩)
    fun o ho ↦ keepsLoggedOut_mark (missesPool_observe (by rintro rfl; exact ho rfl))

/-- A user name that is not there is no pool. -/
theorem keepsLoggedOut_badUser {α : Type} (user : UserPtr) :
    Within LoggedOut KeepsLoggedOut (badUser user : Program α) := by
  have L := keepsLoggedOut_replies
  rw [badUser]
  split_ifs
  · exact L.bind (keepsLoggedOut_mark rfl) fun _ ↦ L.fault
  · exact L.fault

/-- `USER` logs nobody in. -/
theorem keepsLoggedOut_douser : Within LoggedOut KeepsLoggedOut (douser config) := by
  have L := keepsLoggedOut_replies
  exact L.douser (fun msg hmsg ↦ L.replyMsg (by decide) msg hmsg) (L.replyFormat (by decide))
    (fun _ hf ↦ within_modify fun _ hw ↦ ⟨(hf.loggedIn _).trans hw.loggedIn, hw.noneMissing⟩)
    fun _ ↦ keepsLoggedOut_mark rfl

/-! ### The login -/

variable {e : Env} {w : World} {α : Type}

/-- From here on without a login. -/
theorem wp_keepsLoggedOut {m : Program α} {Q : α → World → Prop}
    (hm : Within LoggedOut KeepsLoggedOut m) (hw : LoggedOut w)
    (hQ : ∀ a w', LoggedOut w' → Q a w') : wp e m Q (fun _ ↦ PooledIf) w :=
  wp_mono (hm.wp hw) (fun a w' h ↦ hQ a w' h) fun _ _ h ↦ LoggedOut.pooledIf h

/-- From here on with both pools. -/
theorem wp_keepsPooled {m : Program α} (hm : Within (Pooled b) (KeepsPooled b) m)
    (hw : Pooled b w) {Q : α → World → Prop} (hQ : ∀ a w', Pooled b w' → Q a w') :
    wp e m Q (fun _ ↦ PooledIf) w :=
  wp_mono (hm.wp hw) (fun a w' h ↦ hQ a w' h) fun _ _ h ↦ Pooled.pooledIf h

/-- From here on without a promise. -/
theorem wp_starved {m : Program α}
    (hm : Within (fun w : World ↦ Starved w.trace) (fun _ w' ↦ Starved w'.trace) m)
    (hw : Starved w.trace) : wp e m (fun _ ↦ PoolInv) (fun _ ↦ PooledIf) w :=
  wp_mono (hm.wp hw) (fun _ _ h ↦ .inl h) fun _ _ h ↦ Starved.pooledIf h

/-- No call logs in. -/
theorem LoggedOut.answered (hw : LoggedOut w) (c : Call) (r : Answer c) :
    LoggedOut (answered w c r) :=
  hw.append (x := .call c r) rfl rfl rfl

/-- A `malloc` returns null if memory has run out. -/
theorem outOfMemory_malloc (trace : List (Item kernel)) {n : ℕ} (r : Answer (.malloc n)) :
    outOfMemory (trace ++ [.call (.malloc n) r]) = (outOfMemory trace || r.val.isNone) :=
  outOfMemory_concat _ _

/-- What is common to the two pools: `ret` says whether there was memory. -/
structure Allocates (w : World) (ret : FtpRet) (w' : World) : Prop extends LoggedOut w' where
  failed : ret ≠ .success → outOfMemory w'.trace = true
  remains : outOfMemory w.trace = true → outOfMemory w'.trace = true

/-- The first pool is there if its `malloc` succeeded. -/
theorem initVfsPool_allocates (hw : LoggedOut w) (rootDir : Option Bytes) :
    wp e (initVfsPool rootDir)
      (fun ret w' ↦ Allocates w ret w' ∧ (ret = .success → w'.st.vfsPool ≠ none) ∧
        w'.st.statePool = w.st.statePool) (fun _ ↦ PooledIf) w := by
  rcases rootDir with - | rootDir
  · exact hw.pooledIf
  refine (wp_bind _ _).2 (wp_sys (fun r _ ↦ ?_) hw.pooledIf)
  have hw₁ := hw.answered (.malloc (ftpMaxPath + (cstr rootDir).length)) r
  have hmem := outOfMemory_malloc w.trace r
  rcases hr : r.val with - | block
  · rw [hr, Option.isNone_none, Bool.or_true] at hmem
    exact ⟨⟨hw₁, fun _ ↦ hmem, fun _ ↦ hmem⟩, by simp, rfl⟩
  · rw [hr, Option.isNone_some, Bool.or_false] at hmem
    refine ⟨⟨⟨hw₁.loggedIn, noneMissing_concat hw₁.noneMissing rfl⟩, by simp, fun h ↦ ?_⟩,
      fun _ ↦ Option.some_ne_none _, rfl⟩
    exact (outOfMemory_concat _ _).trans (hmem.trans h)

/-- And so is the second. -/
theorem initStatePool_allocates (hw : LoggedOut w) :
    wp e initStatePool
      (fun ret w' ↦ Allocates w ret w' ∧ (ret = .success → w'.st.statePool ≠ none) ∧
        w'.st.vfsPool = w.st.vfsPool) (fun _ ↦ PooledIf) w := by
  refine (wp_bind _ _).2 (wp_sys (fun r _ ↦ ?_) hw.pooledIf)
  have hw₁ := hw.answered (.malloc statePoolSize) r
  have hmem := outOfMemory_malloc w.trace r
  rcases hr : r.val with - | block
  · rw [hr, Option.isNone_none, Bool.or_true] at hmem
    exact ⟨⟨hw₁, fun _ ↦ hmem, fun _ ↦ hmem⟩, by simp, rfl⟩
  · rw [hr, Option.isNone_some, Bool.or_false] at hmem
    exact ⟨⟨⟨hw₁.loggedIn, hw₁.noneMissing⟩, by simp, fun h ↦ hmem.trans h⟩,
      fun _ ↦ Option.some_ne_none _, rfl⟩

/-- `login_user` gives a user id only if both pools are there. -/
theorem loginUser_pools (hw : LoggedOut w) (user password : Bytes) :
    wp e (loginUser user password)
      (fun uid w' ↦ LoggedOut w' ∧
        (uid ≠ -1 → w'.st.vfsPool ≠ none ∧ w'.st.statePool ≠ none)) (fun _ ↦ PooledIf) w := by
  have hnobody : ∀ w' : World, LoggedOut w' → LoggedOut w' ∧
      ((-1 : UInt32) ≠ -1 → w'.st.vfsPool ≠ none ∧ w'.st.statePool ≠ none) :=
    fun _ h ↦ ⟨h, fun hne ↦ absurd rfl hne⟩
  refine (wp_bind _ _).2 (wp_sys (fun r _ ↦ ?_) hw.pooledIf)
  have hw₁ := hw.answered (.getpwnam user) r
  rcases r.val with - | pwd
  · exact hnobody _ hw₁
  refine (wp_bind _ _).2 (wp_sys (fun r _ ↦ ?_) hw₁.pooledIf)
  have hw₂ := hw₁.answered (.getspnam user) r
  rcases r.val with - | pwdp
  · exact hnobody _ hw₂
  refine (wp_bind _ _).2 (wp_sys (fun r _ ↦ ?_) hw₂.pooledIf)
  have hw₃ := hw₂.answered (.crypt password pwdp) r
  rcases r.val with - | encryptPw
  · exact hnobody _ hw₃
  dsimp only
  by_cases hpw : encryptPw ≠ pwdp
  · rw [if_pos hpw]
    exact hnobody _ hw₃
  rw [if_neg hpw]
  refine (wp_bind _ _).2 (wp_mono (initStatePool_allocates hw₃) (fun ret w₄ h₄ ↦ ?_) fun _ _ h ↦ h)
  obtain ⟨hw₄, hstate, -⟩ := h₄
  by_cases hret : ret ≠ .success
  · rw [if_pos hret]
    exact hnobody _ hw₄.toLoggedOut
  rw [if_neg hret]
  refine (wp_bind _ _).2
    (wp_mono (initVfsPool_allocates hw₄.toLoggedOut _) (fun ret' w₅ h₅ ↦ ?_) fun _ _ h ↦ h)
  obtain ⟨hw₅, hvfs, hsame⟩ := h₅
  by_cases hret' : ret' ≠ .success
  · rw [if_pos hret']
    exact hnobody _ hw₅.toLoggedOut
  · rw [if_neg hret']
    exact ⟨hw₅.toLoggedOut, fun _ ↦ ⟨hvfs (not_not.1 hret'), hsame ▸ hstate (not_not.1 hret)⟩⟩

/-- An anonymous login has its pools or ran out of memory. -/
theorem anonymous_pools {vfsRet stateRet : FtpRet} {w₁ w₂ w₃ : World}
    (h₂ : Allocates w₁ vfsRet w₂) (hvfs : vfsRet = .success → w₂.st.vfsPool ≠ none)
    (h₃ : Allocates w₂ stateRet w₃) (hstate : stateRet = .success → w₃.st.statePool ≠ none)
    (hsame : w₃.st.vfsPool = w₂.st.vfsPool) {f : FtpLogin → FtpLogin}
    (hf : ∀ l, (f l).loggedIn = true) :
    PoolInv (noted { w₃ with st := { w₃.st with session :=
      { w₃.st.session with login := f w₃.st.session.login } } } (.loggedIn .anonymous)) := by
  by_cases hmem : outOfMemory w₃.trace = true
  · refine .inl fun hall ↦ ?_
    exact absurd (hmem.symm.trans ((atEach_concat.1 hall).2 rfl)) (by simp)
  have hstateRet : stateRet = .success := by_contra fun h ↦ hmem (h₃.failed h)
  have hvfsRet : vfsRet = .success := by_contra fun h ↦ hmem (h₃.remains (h₂.failed h))
  exact .inr (.inr ⟨hf _, hsame ▸ hvfs hvfsRet, hstate hstateRet,
    noneMissing_concat h₃.noneMissing rfl⟩)

/-- `PASS` makes both pools before it logs an account in; for an anonymous user it does not look
whether it could. -/
theorem dopass_pools (hw : LoggedOut w) :
    wp e (dopass config) (fun _ ↦ PoolInv) (fun _ ↦ PooledIf) w := by
  have L := keepsLoggedOut_replies
  have hsay : ∀ (msg : String) (ret : FtpRet), CompleteReply (ofString msg) →
      wp e (do replyMsg msg; return ret) (fun _ ↦ PoolInv) (fun _ ↦ PooledIf) w :=
    fun msg ret hmsg ↦ wp_keepsLoggedOut (L.replyMsg_pure (by decide) msg ret hmsg) hw
      fun _ _ h ↦ .inr (.inl h)
  rw [dopass, wp_bind, wp_getSession]
  simp only [hw.loggedIn, Bool.false_eq_true, if_false]
  split_ifs with hanonymous
  -- an anonymous login goes on whether or not there was memory for the two pools
  · refine (wp_bind _ _).2 (wp_keepsLoggedOut (L.replyMsg (by decide) _ (by decide)) hw
      fun _ w₁ hw₁ ↦ ?_)
    refine (wp_bind _ _).2 (wp_mono (initVfsPool_allocates hw₁ _) ?_ fun _ _ h ↦ h)
    rintro vfsRet w₂ ⟨hw₂, hvfs, -⟩
    refine (wp_bind _ _).2 (wp_mono (initStatePool_allocates hw₂.toLoggedOut) ?_ fun _ _ h ↦ h)
    rintro stateRet w₃ ⟨hw₃, hstate, hsame⟩
    exact anonymous_pools hw₂ hvfs hw₃ hstate hsame (f := ({ · with loggedIn := true })) fun _ ↦ rfl
  split
  · exact wp_keepsLoggedOut (keepsLoggedOut_badUser _) hw fun _ _ h ↦ .inr (.inl h)
  · exact hsay _ _ (by decide)
  -- a named one has failed by now if there was not
  · rename_i user huser
    refine (wp_bind _ _).2 (wp_mono (loginUser_pools hw _ _) ?_ fun _ _ h ↦ h)
    rintro userId w₁ ⟨hw₁, hpools⟩
    by_cases hid : userId = -1
    · rw [if_pos hid]
      exact wp_keepsLoggedOut (L.replyMsg_pure (by decide) _ _ (by decide)) hw₁ fun _ _ h ↦
        .inr (.inl h)
    obtain ⟨hvfs, hstate⟩ := hpools hid
    rw [if_neg hid]
    have hw₁ : Pooled false w₁ := ⟨hw₁.loggedIn, hvfs, hstate, hw₁.noneMissing⟩
    have M := keepsPooled_steps (b := false)
    refine (wp_bind _ _).2 (wp_keepsPooled (M.checked (M.sysOther rfl)) hw₁ fun r w₂ hw₂ ↦ ?_)
    rcases r with - | -
    · exact .inr (.inl ⟨hw₂.loggedIn, hw₂.noneMissing⟩)
    refine (wp_bind _ _).2 (wp_keepsPooled (M.sendState (by decide) _) hw₂ fun _ w₃ hw₃ ↦ ?_)
    have hw₄ : Pooled true (noted { w₃ with st := { w₃.st with session := { w₃.st.session with
        login := { w₃.st.session.login with loggedIn := true } } } } (.loggedIn (.account user))) :=
      ⟨rfl, hw₃.vfsPool, hw₃.statePool, noneMissing_concat hw₃.noneMissing rfl⟩
    exact wp_keepsPooled (keepsPooled_steps.replyMsg_pure (by decide) _ _ (by decide))
      hw₄ fun _ _ h ↦ .inr (.inr h)

/-! ### Commands and sessions -/

/-- The other commands without a login leave the pools alone. -/
theorem public_pools {cmd : CmdHandler} (hcmd : cmd ∈ coreCommandList config)
    (hlogin : cmd.needsLogin = false) (hw : LoggedOut w) :
    wp e cmd.handler (fun _ ↦ PoolInv) (fun _ ↦ PooledIf) w := by
  have L := keepsLoggedOut_replies
  have hkeep : ∀ {m : Program FtpRet}, Within LoggedOut KeepsLoggedOut m →
      wp e m (fun _ ↦ PoolInv) (fun _ ↦ PooledIf) w :=
    fun hm ↦ wp_keepsLoggedOut hm hw fun _ _ h ↦ .inr (.inl h)
  have hsay : ∀ (msg : String) (ret : FtpRet), CompleteReply (ofString msg) →
      wp e (do replyMsg msg; return ret) (fun _ ↦ PoolInv) (fun _ ↦ PooledIf) w :=
    fun msg ret hmsg ↦ hkeep (L.replyMsg_pure (by decide) msg ret hmsg)
  exact forall_public (Q := fun cmd ↦ wp e cmd.handler (fun _ ↦ PoolInv) (fun _ ↦ PooledIf) w)
    |>.2 ⟨hkeep (L.dofeat (by decide)), hsay _ _ (by decide), hsay _ _ (by decide),
      dopass_pools hw, hsay _ _ (by decide), hsay _ _ (by decide), hkeep keepsLoggedOut_douser⟩
    cmd hcmd hlogin

/-- `do_cmd` for a session that has not logged in, -/
theorem doCmd_loggedOut (hw : LoggedOut w) :
    wp e (doCmd config) (fun _ ↦ PoolInv) (fun _ ↦ PooledIf) w := by
  rw [doCmd, wp_bind, wp_getSession, wp_bind, wp_mark]
  have hw₁ : LoggedOut (noted w (.dispatch (cstr w.st.session.command.line)
    w.st.session.command.argument)) := hw.append (x := .note _) rfl rfl rfl
  have hsay : ∀ msg : String, CompleteReply (ofString msg) →
      wp e (do replyMsg msg; return FtpRet.success) (fun _ ↦ PoolInv) (fun _ ↦ PooledIf)
        (noted w _) :=
    fun msg hmsg ↦ wp_keepsLoggedOut (keepsLoggedOut_replies.replyMsg_pure (by decide) msg _ hmsg)
      hw₁ fun _ _ h ↦ .inr (.inl h)
  refine (wp_bind _ _).2 (wp_mono (execCmd_wp (fun _ ↦ hsay _ (by decide))
    (fun _ _ _ msg hmsg ↦ hsay msg (completeReply_refusal msg hmsg))
    fun cmd hcmd hlogin _ _ ↦ ?_) ?_ fun _ _ h ↦ h)
  · rcases hneeds : cmd.needsLogin with - | -
    · exact public_pools (mem_of_searchCommand hcmd) hneeds hw₁
    · exact absurd (hw₁.loggedIn.symm.trans (hlogin hneeds)) (by simp)
  · rintro ret w₂ (hw₂ | hw₂ | hw₂)
    · exact .inl (starved_concat _ _ hw₂)
    · exact .inr (.inl (hw₂.append (x := .note (.finished ret)) rfl rfl rfl))
    · exact .inr (.inr (hw₂.append (x := .note (.finished ret)) rfl rfl rfl rfl rfl))

/-- and for any session. -/
theorem doCmd_pools (hw : PoolInv w) :
    wp e (doCmd config) (fun _ ↦ PoolInv) (fun _ ↦ PooledIf) w := by
  rcases hw with hw | hw | hw
  · exact wp_starved (persists_doCmd (fun trace x _ ↦ starved_concat trace x) config) hw
  · exact doCmd_loggedOut hw
  · exact wp_keepsPooled (keepsPooled_doCmd config) hw fun _ _ h ↦ .inr (.inr h)

def KeepsPoolInv (_ w' : World) : Prop := PoolInv w'

theorem keepsPoolInv_guard : Guard PoolInv KeepsPoolInv := guard_inv _

/-- Between two commands. -/
theorem PoolInv.append {w' : World} (h : PoolInv w) {x : Item kernel}
    (hx : missesPool x = false) (ht : w'.trace = w.trace ++ [x])
    (hlogin : w'.st.session.login = w.st.session.login) (hvfs : w'.st.vfsPool = w.st.vfsPool)
    (hstate : w'.st.statePool = w.st.statePool) : PoolInv w' := by
  rcases h with h | h | h
  · exact .inl (ht ▸ starved_concat _ _ h)
  · exact .inr (.inl (h.append hx ht hlogin))
  · exact .inr (.inr (h.append hx ht hlogin hvfs hstate))

/-- What is neither login nor pool does not matter. -/
theorem PoolInv.of_state (h : PoolInv w) {s : Process}
    (hlogin : s.session.login = w.st.session.login) (hvfs : s.vfsPool = w.st.vfsPool)
    (hstate : s.statePool = w.st.statePool) : PoolInv { w with st := s } := by
  rcases h with h | h | h
  · exact .inl h
  · exact .inr (.inl ⟨hlogin ▸ h.loggedIn, h.noneMissing⟩)
  · exact .inr (.inr ⟨hlogin ▸ h.loggedIn, hvfs ▸ h.vfsPool, hstate ▸ h.statePool, h.noneMissing⟩)

theorem keepsPoolInv_mark {n : Note} (hn : missesPool (.note n) = false) :
    Within PoolInv KeepsPoolInv (mark n) :=
  within_mark fun _ hw ↦ hw.append hn rfl rfl rfl rfl

/-- Reading a command touches neither. -/
theorem keepsPoolInv_calls : CallLogic (· ≠ .undefined) PoolInv KeepsPoolInv :=
  .of_observe keepsPoolInv_guard (by decide) (by decide)
    (fun c _ ↦ within_sys keepsPoolInv_guard fun _ r hw ↦
      hw.append (x := .call c r) rfl rfl rfl rfl rfl)
    (fun _ ↦ within_setErrno fun _ hw ↦ hw.of_state rfl rfl rfl)
    fun o ho ↦ keepsPoolInv_mark (missesPool_observe (by rintro rfl; exact ho rfl))

/-! ### The end of a session -/

/-- `destroy_session` ends all of it. -/
theorem PoolInv.over (hw : PoolInv w) {s : Process} :
    Over (noted { w with st := s } (.observe .destroyed)) := by
  refine ⟨⟨_, List.mem_append_right _ (List.mem_singleton_self _), rfl⟩, fun hall ↦ ?_⟩
  exact noneMissing_concat (hw.pooledIf (atEach_concat.1 hall).1).2 rfl

def KeepsOver (_ w' : World) : Prop := Over w'

theorem keepsOver_guard : Guard Over KeepsOver := guard_inv _

theorem Over.append {w' : World} (h : Over w) {x : Item kernel} (hx : missesPool x = false)
    (ht : w'.trace = w.trace ++ [x]) : Over w' := by
  obtain ⟨y, hy, hends⟩ := h.ended
  refine ⟨ht ▸ ⟨y, List.mem_append_left _ hy, hends⟩, ht ▸ fun hall ↦ ?_⟩
  exact noneMissing_concat (h.noneMissing (atEach_concat.1 hall).1) hx

theorem keepsOver_mark {n : Note} (hn : missesPool (.note n) = false) :
    Within Over KeepsOver (mark n) :=
  within_mark fun _ hw ↦ hw.append hn rfl

/-- Nothing uses a pool behind it. -/
theorem keepsOver_calls : CallLogic (· ≠ .undefined) Over KeepsOver :=
  .of_observe keepsOver_guard (by decide) (by decide)
    (fun c _ ↦ within_sys keepsOver_guard fun _ r hw ↦ hw.append (x := .call c r) rfl rfl)
    (fun _ ↦ within_setErrno fun _ hw ↦ ⟨hw.ended, hw.noneMissing⟩)
    fun o ho ↦ keepsOver_mark (missesPool_observe (by rintro rfl; exact ho rfl))

/-- What `destroy_session` does with the fields of the session. -/
theorem keepsOver_release : Within Over KeepsOver (do
    let session ← getSession
    if session.conn.pasvSock ≠ -1 then
      let _ ← checked (sys (.close session.conn.pasvSock))
    if session.login.user = .indeterminate then
      badUser session.login.user : Program Unit) := by
  have L := keepsOver_calls
  have hbad : ∀ user, Within Over KeepsOver (badUser user : Program Unit) := fun user ↦ by
    rw [badUser]
    split_ifs
    · exact L.bind (keepsOver_mark rfl) fun _ ↦ L.fault
    · exact L.fault
  refine L.bind L.getSession fun session ↦ ?_
  dsimp only
  split_ifs
  · exact L.bind (L.close (by decide) _) fun _ ↦ hbad _
  · exact L.bind (L.close (by decide) _) fun _ ↦ L.pure _
  · exact hbad _
  · exact L.pure _

/-- So the end of a session is safe. -/
theorem endSession_pools (hw : PoolInv w) (sock : ℤ) :
    wp e (endSession sock) (fun _ ↦ PooledIf) (fun _ ↦ PooledIf) w := by
  have hbye := keepsPoolInv_calls.reply (by decide) sock (ofString "421 Goodbye!\r\n") (by decide)
  refine (wp_bind _ _).2 (wp_mono (hbye.wp hw) (fun _ w₁ hw₁ ↦ ?_) fun _ _ h ↦ PoolInv.pooledIf h)
  exact wp_mono (keepsOver_release.wp (PoolInv.over hw₁)) (fun _ _ h ↦ Over.pooledIf h)
    fun _ _ h ↦ Over.pooledIf h

/-- Each part of a session keeps the invariant. -/
theorem pools_session (config : FtpConfig) (sock : ℤ) (e : Env) :
    SessionRule (· ≠ .undefined) PoolInv KeepsPoolInv config sock e PoolInv PooledIf where
  toCallLogic := keepsPoolInv_calls
  control := by decide
  welcome := keepsPoolInv_calls.reply (by decide) _ _ (by decide)
  tooLong _ _ := keepsPoolInv_calls.reply (by decide) _ _ (by decide)
  signal waiter := keepsPoolInv_calls.serverHandleSignal waiter
    (fun _ ↦ within_modify fun _ hw ↦ hw.of_state rfl rfl rfl) (keepsPoolInv_mark rfl)
  command _ := within_modify fun _ hw ↦ hw.of_state rfl rfl rfl
  assume _ hw := hw
  keepInv _ _ _ hw := hw
  mid _ hw := hw.pooledIf
  doCmd _ hw := doCmd_pools hw
  endSession _ hw := endSession_pools hw sock

/-- **The pools of a session that is logged in are there, if the anonymous logins got their
memory**, and no pool is used that is not there. -/
theorem ftpMain_pools (config : FtpConfig) (sock writePipe : ℤ) (e : Env) (s : Process)
    (hlogin : s.session.login.loggedIn = false) :
    let w := (ftpMain config sock writePipe e (World.start s)).2
    AtEach EnoughMemory w.trace →
      (w.st.session.login.loggedIn = true →
        Ended w.trace ∨ w.st.vfsPool ≠ none ∧ w.st.statePool ≠ none) ∧ NoneMissing w.trace := by
  have hstart : LoggedOut (World.start s) := ⟨hlogin, by simp [NoneMissing]⟩
  refine wp_always.1 (ftpMain_wp (startup_calls (fun _ c r _ hw ↦ hw.answered c r)
    fun _ _ hw ↦ ⟨hw.loggedIn, hw.noneMissing⟩) sock writePipe PoolInv (T := PooledIf) ?_
      ?_ ?_ ?_ hstart)
  · exact fun _ _ hw ↦ ⟨hw.loggedIn, hw.noneMissing⟩
  · exact fun _ _ _ _ _ hw _ _ ↦ .inr (.inl ⟨rfl, hw.noneMissing⟩)
  · exact fun _ hw ↦ (pools_session config sock e).serveSession hw
  · exact fun _ hw ↦ hw.pooledIf

/-- A client that logs in as `anonymous` and changes the directory. -/
def anonymousClient (script : List Call → (c : Call) → Option (Answer c)) : Env :=
  clientEnvWith script [ofString "USER anonymous\r\nPASS x\r\nCWD d\r\n"]

/-- With memory enough, an anonymous client has both pools. -/
theorem anonymousClient_pools :
    let w := (ftpMain { loadDefaults with anonRootDir := some (ofString "/srv") } 4 5
      (anonymousClient fun _ _ ↦ none) (World.start (Process.initial 1))).2
    (w.st.session.login.loggedIn = true →
      Ended w.trace ∨ w.st.vfsPool ≠ none ∧ w.st.statePool ≠ none) ∧ NoneMissing w.trace :=
  ftpMain_pools _ 4 5 _ (Process.initial 1) rfl (by decide +kernel)

/-- Without memory for the `vfs` pool, the login succeeds and `CWD` reads a null pointer. -/
theorem anonymousClient_starved :
    let w := (ftpMain { loadDefaults with anonRootDir := some (ofString "/srv") } 4 5
      (anonymousClient fun _ c ↦
        match c with
        | .malloc n => if n = ftpMaxPath + 4 then some ⟨[], none⟩ else none
        | _ => none) (World.start (Process.initial 1))).2
    w.st.session.login.loggedIn = true ∧ ¬Ended w.trace ∧ w.st.vfsPool = none ∧
      ¬NoneMissing w.trace := by
  decide +kernel

end FtpServer
