import FtpServer.Model.Config
import FtpServer.Proofs.Login

/-!
# What a loaded configuration promises

`check_config` accepts exactly the configurations that the server can rely on (`Sane`), and
`load_config` calls it on all its ways to success but one: an empty file leaves the defaults, which
allow anonymous logins without a root directory for them (`loadConfig_sane`).

* `checkConfig_eq_success` is the check as an equivalence, and `loadConfig_wp` says how
  `load_config` succeeds.
* `AnonAllowed` is kept by every command: `USER` makes a session anonymous only where the
  configuration allows it. So a sane configuration has a root directory for every anonymous login
  (`Sane.rootGiven`).
-/

namespace FtpServer

open CString Effect Effect.Proc

/-! ### Sanity -/

/-- What the server relies on. -/
structure Sane (c : FullConfig) : Prop where
  port : 0 ≤ c.port ∧ c.port ≤ 65535
  ctrlPort : 0 ≤ c.ctrlPort ∧ c.ctrlPort ≤ 65535
  throttleRate : -1 ≤ c.throttleRate
  pasvPorts : 0 ≤ c.pasvPortStart ∧ c.pasvPortStart ≤ c.pasvPortEnd ∧ c.pasvPortEnd ≤ 65535
  anonRootDir : c.allowAnon = true → c.anonRootDir ≠ none

/-- **`check_config` accepts what is sane.** -/
theorem checkConfig_eq_success {c : FullConfig} : checkConfig c = .success ↔ Sane c := by
  rw [checkConfig]
  constructor
  · intro h
    split_ifs at h with hport hctrl hrate hpasv hanon
    simp only [Bool.or_eq_true, Bool.and_eq_true,
      decide_eq_true_eq] at hport hctrl hrate hpasv hanon
    refine ⟨by omega, by omega, by omega, by omega, fun hallow hnone ↦ hanon ⟨hallow, hnone⟩⟩
  · intro h
    obtain ⟨hport, hctrl, hrate, hpasv, hanon⟩ := h
    rw [if_neg (by simp; omega), if_neg (by simp; omega), if_neg (by omega),
      if_neg (by simp; omega), if_neg (by simpa using hanon)]

instance : DecidablePred Sane := fun _ ↦ decidable_of_iff _ checkConfig_eq_success

/-- The defaults are sane but for the anonymous root directory. -/
theorem not_sane_defaults : ¬Sane FullConfig.defaults := by decide

/-! ### The loader -/

variable {e : Effect.Env configKernel} {w : Effect.World configKernel FullConfig}

/-- What follows a call of the configuration is right if it is so for every answer. -/
theorem wp_ask {c : ConfigCall} {Q : c.Ret → Effect.World configKernel FullConfig → Prop}
    {H : Halt → Effect.World configKernel FullConfig → Prop}
    (hret : ∀ r, Q r { w with trace := w.trace ++ [.call c r] }) (hblock : H .blocked w) :
    wp e (ask c) Q H w :=
  wp_perform (fun r _ _ ↦ hret r) hblock

/-- What `load_config` leaves when it succeeds on a file of this length: an empty file changes
nothing, and otherwise the check accepted what was read. -/
def Loaded (len : ℤ) (c : FullConfig) (ret : FtpRet) (c' : FullConfig) : Prop :=
  ret = .success → (len = 0 ∧ c' = c) ∨ (len ≠ 0 ∧ Sane c')

/-- A configuration that is refused promises nothing. -/
theorem loaded_of_ne {len : ℤ} {c c' : FullConfig} {ret : FtpRet} (h : ret ≠ .success) :
    Loaded len c ret c' :=
  fun hsuccess ↦ absurd hsuccess h

/-- The branches of `load_config` that give up. -/
theorem close_wp {c : ConfigCall} {ret : FtpRet}
    {Q : FtpRet → Effect.World configKernel FullConfig → Prop}
    (hQ : ∀ r, Q ret { w with trace := w.trace ++ [.call c r] }) :
    wp e (do let _ ← ask c; return ret) Q (fun _ _ ↦ True) w :=
  (wp_bind _ _).2 (wp_ask hQ trivial)

/-- A file that is parsed is checked, unless it is empty. -/
theorem loadMapped_wp (file : ConfigFile) (len : ℤ) :
    wp e (loadMapped file len) (fun ret w' ↦ ret = .success → Sane w'.st) (fun _ _ ↦ True) w := by
  have hparse : wp e (parseConfig (file.content.take len.toNat) len) (fun _ _ ↦ True)
      (fun _ _ ↦ True) w := wp_always.2 trivial
  refine (wp_bind _ _).2 (wp_mono hparse (fun ret w₁ _ ↦ ?_) fun _ _ h ↦ h)
  rw [wp_bind, wp_get]
  refine (wp_bind _ _).2 (wp_ask (fun unmapped ↦ ?_) trivial)
  refine close_wp fun closed hsuccess ↦ ?_
  split_ifs at hsuccess with hret
  · exact checkConfig_eq_success.1 hsuccess
  · exact absurd hsuccess hret

/-- **How `load_config` succeeds.** -/
theorem loadConfig_wp (file : ConfigFile) :
    wp e (loadConfig file) (fun ret w' ↦ Loaded (toInt file.content.length) w.st ret w'.st)
      (fun _ _ ↦ True) w := by
  rw [loadConfig, wp_bind]
  refine wp_ask (fun opened ↦ ?_) trivial
  cases opened with
  | false => exact loaded_of_ne (by decide)
  | true =>
  rw [Bool.not_true, if_neg Bool.false_ne_true, wp_bind]
  refine wp_ask (fun known ↦ ?_) trivial
  cases known with
  | false => exact close_wp fun _ ↦ loaded_of_ne (by decide)
  | true =>
  rw [Bool.not_true, if_neg Bool.false_ne_true]
  by_cases hreg : file.kind ≠ .reg
  · rw [if_pos hreg]
    exact close_wp fun _ ↦ loaded_of_ne (by decide)
  rw [if_neg hreg, loadRegular]
  generalize toInt file.content.length = len
  by_cases hlen : len = 0
  · rw [if_pos hlen]
    exact close_wp fun _ _ ↦ .inl ⟨hlen, rfl⟩
  rw [if_neg hlen, wp_bind]
  refine wp_ask (fun mapped ↦ ?_) trivial
  cases mapped with
  | false => exact close_wp fun _ ↦ loaded_of_ne (by decide)
  | true =>
    exact wp_mono (loadMapped_wp file _) (fun _ _ h hsuccess ↦ .inr ⟨hlen, h hsuccess⟩)
      fun _ _ h ↦ h

/-- The loop over the lines ends before its fuel: more fuel changes nothing. -/
theorem parseLines_fuel {buf : Bytes} {length : ℤ} (hlength : length ≤ buf.length)
    (fuel start next : ℕ)
    (tmp : Bytes) (hfuel : buf.length + 3 ≤ fuel + next) (hnext : next ≤ buf.length + 2)
    (hstart : start < length → next ≤ buf.length + 1) :
    parseLines buf length (fuel + 1) start next tmp = parseLines buf length fuel start
      next tmp := by
  induction fuel generalizing start next tmp with
  | zero => omega
  | succ fuel ih =>
    rw [parseLines, parseLines]
    by_cases hless : (start : ℤ) < length
    · rw [if_pos hless, if_pos hless]
      have hline : ((buf.drop next).takeWhile (· ≠ lf)).length ≤ buf.length - next :=
        (List.takeWhile_prefix _).length_le.trans_eq (List.length_drop ..)
      have hnext₁ := hstart hless
      have hround : ∀ tmp, parseLines buf length (fuel + 1) next
            (next + ((buf.drop next).takeWhile (· ≠ lf)).length + 1) tmp =
          parseLines buf length fuel next
            (next + ((buf.drop next).takeWhile (· ≠ lf)).length + 1) tmp :=
        fun tmp ↦ ih _ _ _ (by omega) (by omega) (by omega)
      simp only [hround]
    · rw [if_neg hless, if_neg hless]

/-! ### Anonymous sessions -/

section Anonymous

variable {config : FtpConfig} {e : Env} {w : World}

/-- A session is anonymous only if that is allowed. -/
def AnonAllowed (config : FtpConfig) (w : World) : Prop :=
  w.st.session.login.anonymous = true → config.allowAnon = true

/-- Whether anonymous users are allowed does not change while a session runs. -/
theorem anonAllowed_keeps (config : FtpConfig) :
    Keeps (fun _ ↦ True) KeepsLogin (AnonAllowed config) (AnonAllowed config) where
  assume _ _ := trivial
  keepInv _ _ hw hk hanon := hw (hk.1 ▸ hanon)
  mid _ hw := hw

/-- `USER` compares with the configuration before it believes a client that it is anonymous. -/
theorem douser_anonAllowed (hw : AnonAllowed config w) :
    wp e (douser config) (fun _ ↦ AnonAllowed config) (fun _ ↦ AnonAllowed config) w := by
  have L := keepsLogin_steps
  have K := anonAllowed_keeps config
  rw [douser, wp_bind, wp_getSession]
  by_cases hin : w.st.session.login.loggedIn = true
  · rw [if_pos hin]
    exact K.wp (L.replyMsg_pure trivial _ _ (by decide)) hw fun _ _ h ↦ h
  rw [if_neg hin, wp_bind, wp_modifyLogin]
  have hw₁ : AnonAllowed config { w with st := { w.st with session := { w.st.session with login :=
      { w.st.session.login with user := .null } } } } := hw
  by_cases hanon : isAnonymous w.st.session.command.argument = true
  · rw [if_pos hanon]
    by_cases hallow : config.allowAnon = true
    · exact wp_always.2 fun _ ↦ hallow
    · rw [if_pos (by simpa using hallow)]
      exact K.wp (L.replyMsg_pure trivial _ _ (by decide)) hw₁ fun _ _ h ↦ h
  · rw [if_neg hanon]
    refine K.bind (L.sysOther rfl) hw₁ fun r w₂ hw₂ ↦ ?_
    rcases r with - | block
    · exact hw₂
    have hw₃ : AnonAllowed config { w₂ with st :=
        { w₂.st with session := { w₂.st.session with login :=
        { w₂.st.session.login with user := .name w.st.session.command.argument } } } } := hw₂
    rw [wp_bind, wp_modifyLogin]
    have hformat := L.replyFormat trivial w trivial _ fun harg _ ↦ completeReply_user harg
    exact K.bind hformat hw₃ fun _ _ h ↦ h

/-- `PASS` logs in whom `USER` has let in. -/
theorem dopass_anonAllowed (hw : AnonAllowed config w) :
    wp e (dopass config) (fun _ ↦ AnonAllowed config) (fun _ ↦ AnonAllowed config) w := by
  have L := keepsLogin_steps
  have K := anonAllowed_keeps config
  rw [dopass, wp_bind, wp_getSession]
  by_cases hin : w.st.session.login.loggedIn = true
  · rw [if_pos hin]
    exact K.wp (L.replyMsg_pure trivial _ _ (by decide)) hw fun _ _ h ↦ h
  rw [if_neg hin]
  by_cases hanon : w.st.session.login.anonymous = true
  · exact wp_always.2 fun _ ↦ hw hanon
  rw [if_neg hanon]
  rcases huser : w.st.session.login.user with - | - | user
  · exact hw
  · exact K.wp (L.replyMsg_pure trivial _ _ (by decide)) hw fun _ _ h ↦ h
  dsimp only
  refine K.bind (L.loginUser (L.statePool trivial) keepsLogin_initVfsPool _ _) hw
    fun userId w₁ hw₁ ↦ ?_
  split_ifs
  · exact K.wp (L.replyMsg_pure trivial _ _ (by decide)) hw₁ fun _ _ h ↦ h
  refine K.bind (L.checked (L.sysOther rfl)) hw₁ fun r w₂ hw₂ ↦ ?_
  rcases r with - | -
  · exact hw₂
  refine K.bind (L.sendState trivial _) hw₂ fun _ w₃ hw₃ ↦ ?_
  rw [wp_bind, wp_modifyLogin, wp_bind, wp_mark]
  exact K.wp (L.replyMsg_pure trivial _ _ (by decide)) (w := noted _ _) hw₃ fun _ _ h ↦ h

/-- The other commands log nobody in. -/
theorem handler_anonAllowed {cmd : CmdHandler} (hcmd : cmd ∈ coreCommandList config)
    (hw : AnonAllowed config w) :
    wp e cmd.handler (fun _ ↦ AnonAllowed config) (fun _ ↦ AnonAllowed config) w := by
  have L := keepsLogin_handlers config
  have K := anonAllowed_keeps config
  have hkeep : ∀ h : Program FtpRet, Within (fun _ ↦ True) KeepsLogin h → ∀ w,
    AnonAllowed config w →
      wp e h (fun _ ↦ AnonAllowed config) (fun _ ↦ AnonAllowed config) w :=
    fun _ hm _ hw ↦ K.wp hm hw fun _ _ h ↦ h
  exact L.forall_handler (Q := fun h ↦ ∀ w, AnonAllowed config w →
    wp e h (fun _ ↦ AnonAllowed config) (fun _ ↦ AnonAllowed config) w)
    trivial trivial trivial trivial hkeep (fun _ ↦ douser_anonAllowed) (fun _ ↦ dopass_anonAllowed)
    (hkeep _ (L.dopasv trivial trivial)) (hkeep _ (L.dorest trivial trivial))
    (hkeep _ (L.dolist trivial trivial trivial trivial))
    (hkeep _ (L.doretr trivial trivial trivial trivial trivial trivial))
    (hkeep _ (L.dostor trivial trivial trivial trivial trivial trivial)) hcmd w hw

/-- So no command lets in an anonymous user where there should be none. -/
theorem doCmd_anonAllowed (hw : AnonAllowed config w) :
    wp e (doCmd config) (fun _ ↦ AnonAllowed config) (fun _ ↦ AnonAllowed config) w := by
  have L := keepsLogin_steps
  have K := anonAllowed_keeps config
  have hw₁ : AnonAllowed config (noted w (.dispatch (cstr w.st.session.command.line)
      w.st.session.command.argument)) := hw
  refine doCmd_wp rfl ?_ (fun msg hmsg ↦ ?_) (fun cmd hcmd _ ↦ handler_anonAllowed hcmd hw₁)
    fun _ _ h ↦ h
  · exact K.wp (L.replyMsg_pure trivial _ _ (by decide)) hw₁ fun _ _ h ↦ h
  · exact K.wp (L.replyMsg_pure trivial msg _ (completeReply_refusal msg hmsg)) hw₁ fun _ _ h ↦ h

/-- Nor does any other part of a session. -/
theorem anonAllowed_session (config : FtpConfig) (sock : ℤ) (e : Env) :
    SessionRule (fun _ ↦ True) (fun _ ↦ True) KeepsLogin config sock e (AnonAllowed config)
      (AnonAllowed config) where
  toCallLogic := keepsLogin_steps.toCallLogic
  toKeeps := anonAllowed_keeps config
  control := trivial
  welcome := keepsLogin_steps.reply trivial _ _ (by decide)
  tooLong _ _ := keepsLogin_steps.reply trivial _ _ (by decide)
  signal waiter := (keepsLogin_handlers config).serverHandleSignal waiter trivial
  command _ := within_modify fun _ _ ↦ ⟨rfl, .of_eq rfl⟩
  doCmd _ hw := doCmd_anonAllowed hw
  endSession w hw := by
    have hend : Within (fun _ ↦ True) KeepsLogin (endSession sock) :=
      keepsLogin_steps.endSession ⟨trivial, trivial⟩
        (fun f hf ↦ within_modify fun w _ ↦ ⟨congrArg _ (hf w.st).1, .of_eq rfl⟩) sock
        (keepsLogin_steps.reply trivial _ _ (by decide))
    exact (anonAllowed_keeps config).wp hend hw fun _ _ h ↦ h

/-- A session is never anonymous where that is not allowed. -/
theorem ftpMain_anonAllowed (config : FtpConfig) (sock writePipe : ℤ) (e : Env) {s : Process}
    (hs : s.session.login.anonymous = false) :
    AnonAllowed config (ftpMain config sock writePipe e (World.start s)).2 := by
  have hcalls : CallLogic (· = .other) (fun w : World ↦ w.st.session = s.session) fun _ w' ↦
      w'.st.session = s.session :=
    startup_calls (fun _ _ _ _ hw ↦ hw) fun _ _ hw ↦ hw
  refine wp_always.1 (ftpMain_wp hcalls sock writePipe (AnonAllowed config)
    (T := AnonAllowed config) ?_ ?_ ?_ ?_ rfl)
  · exact fun _ _ hw ↦ hw
  · exact fun _ _ _ _ _ _ _ _ hanon ↦ absurd hanon Bool.false_ne_true
  · exact fun _ hw ↦ (anonAllowed_session config sock e).serveSession hw
  · intro w hw hanon
    rw [hw, hs] at hanon
    exact absurd hanon Bool.false_ne_true

end Anonymous

/-- In every run of a session, an anonymous login finds a root directory to pass to
`init_vfs_pool`. -/
def RootGiven (config : FtpConfig) : Prop :=
  ∀ (sock writePipe : ℤ) (e : Env) (s : Process), s.session.login.anonymous = false →
    (ftpMain config sock writePipe e (World.start s)).2.st.session.login.anonymous = true →
      config.anonRootDir ≠ none

/-- A sane configuration has a root directory for anonymous users. -/
theorem Sane.rootGiven {c : FullConfig} (hc : Sane c) : RootGiven c.toFtpConfig :=
  fun sock writePipe e _ hs hanon ↦
    hc.anonRootDir (ftpMain_anonAllowed c.toFtpConfig sock writePipe e hs hanon)

/-- **A configuration that was loaded is sane, unless its file was empty.** When `load_config`
succeeds after `load_defaults`, the configuration is what the server relies on, and no anonymous
login lacks a root directory, if and only if the length of the file is not 0 as an `int`. -/
theorem loadConfig_sane (file : ConfigFile) (e : Effect.Env configKernel)
    {w : Effect.World configKernel FullConfig}
    (h : loadConfig file e (World.start FullConfig.defaults) = (.ret .success, w)) :
    Sane w.st ∧ RootGiven w.st.toFtpConfig ↔ toInt file.content.length ≠ 0 := by
  rcases wp_ret (loadConfig_wp file) h rfl with ⟨hlen, hst⟩ | ⟨hlen, hsane⟩
  · have hdefaults : w.st = FullConfig.defaults := hst
    rw [hdefaults]
    exact iff_of_false (fun hsane ↦ not_sane_defaults hsane.1) fun hne ↦ hne hlen
  · exact iff_of_true ⟨hsane, hsane.rootGiven⟩ hlen

/-- A kernel that grants everything. -/
def grantingEnv : Effect.Env configKernel where
  answer _ c :=
    match c with
    | .malloc size | .realloc size => some ⟨List.replicate size nul, List.length_replicate⟩
    | .peek _ => some nul
    | .open | .fstat | .mmap _ | .munmap _ | .close | .strdup _ => true
  limit := 100

/-- A configuration file that sets two options. -/
def sampleFile : ConfigFile where
  kind := .reg
  content := ofString "# FTP\nAnonRootDir = /srv\n\nlocalport=0x15"

/-- A small file is in order. -/
theorem sampleFile_sane :
    Sane (loadConfig sampleFile grantingEnv (World.start FullConfig.defaults)).2.st ∧
      RootGiven (loadConfig sampleFile grantingEnv
        (World.start FullConfig.defaults)).2.st.toFtpConfig ↔
      toInt sampleFile.content.length ≠ 0 :=
  loadConfig_sane sampleFile grantingEnv (run_eq (by decide +kernel))

example : (loadConfig sampleFile grantingEnv (World.start FullConfig.defaults)).2.st =
    { FullConfig.defaults with port := 21, anonRootDir := some (ofString "/srv") } := by
  decide +kernel

/-- An empty file is accepted, and leaves an insane configuration. -/
theorem emptyFile_insane :
    (loadConfig ⟨.reg, []⟩ grantingEnv (World.start FullConfig.defaults)).1 = .ret .success ∧
      ¬Sane (loadConfig ⟨.reg, []⟩ grantingEnv (World.start FullConfig.defaults)).2.st := by
  decide +kernel

end FtpServer
