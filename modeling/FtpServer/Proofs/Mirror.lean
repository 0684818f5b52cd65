import FtpServer.Proofs.Directory
import FtpServer.Proofs.Registry
import FtpServer.Proofs.Sending

/-!
# What the master knows of a session

A session tells the master of its logins, its changes of directory and its transfers, and the master
applies these messages to its entry (`told`). What they say is to be what the session does, in every
state that its control loop reaches. There are three parts to this, each with an invariant of its
own:

* `InfoTold`: there is no transfer, and `xfer_info` is that of the session (`info_reached`);
* `LoginTold`: the name is that of the account that is logged in (`login_reached`);
* `PathTold`: the path is `virt_path`, unless a directory could not be opened since the last message
  about it (`path_reached`).

An action keeps a part if it neither sends a message about it nor changes it (`KeepsInfo`,
`KeepsLoginTold`, `KeepsPath`), and this holds of nearly everything that a handler does. The others
end with the message that restores it: `RETR` and `STOR` with `T_XFER_STOP`, `PASS` with `T_LOGIN`
and `CWD` with `T_CHDIR`.
-/

namespace FtpServer

open CString Effect Effect.Proc LittleEndian Roster PathText

/-! ### The layout of the transfer information -/

theorem Timeval.length_image (t : Timeval) : t.image.length = 16 := by
  simp [Timeval.image]

/-- A time can be read back from memory. -/
theorem Timeval.ofImage_image (t : Timeval) (rest : Bytes) :
    .ofImage ((t.image ++ rest).take 16) = t := by
  have hsec : t.sec.toUInt64.toNat < 256 ^ 8 := by simpa using t.sec.toUInt64.toNat_lt
  have husec : t.usec.toUInt64.toNat < 256 ^ 8 := by simpa using t.usec.toUInt64.toNat_lt
  have husec' := decode_take husec []
  rw [List.append_nil] at husec'
  rw [List.take_left' t.length_image]
  simp only [Timeval.ofImage, Timeval.image, decode_take hsec, List.drop_left' (length_encode 8 _),
    husec', UInt64.ofNat_toNat, Int64.toInt64_toUInt64]

/-- The transfer information can be read back from memory. -/
theorem FtpXferInfo.ofImage_image (i : FtpXferInfo) : .ofImage i.image = i := by
  have h64 : ∀ n : UInt64, n.toNat < 256 ^ 8 := fun n ↦ by simpa using n.toNat_lt
  have hstatus : i.xferStatus.toUInt32.toNat < 256 ^ 4 := by
    simpa using i.xferStatus.toUInt32.toNat_lt
  have hdrop : ∀ (m n k : ℕ) (bs : Bytes), k = m + n → bs.drop k = (bs.drop m).drop n := by
    rintro m n _ bs rfl
    exact List.drop_drop.symm
  have hprobe := i.xferProbe.ofImage_image []
  rw [List.append_nil] at hprobe
  simp only [FtpXferInfo.ofImage, FtpXferInfo.image, List.append_assoc,
    hdrop 8 8 16 _ rfl, hdrop 8 16 24 _ rfl, hdrop 8 24 32 _ rfl, hdrop 8 32 40 _ rfl,
    hdrop 8 48 56 _ rfl, hdrop 8 40 48 _ rfl, List.drop_left' (length_encode 8 _),
    decode_take (h64 _), decode_take hstatus, UInt64.ofNat_toNat, UInt32.ofNat_toNat,
    Int32.toInt32_toUInt32]
  -- the status has four bytes of padding behind it
  have hpadded : ∀ rest, (encode 4 i.xferStatus.toUInt32.toNat ++ ([0, 0, 0, 0] ++ rest)).drop 8 =
      rest := by
    intro rest
    rw [← List.append_assoc]
    exact List.drop_left' (by simp)
  have htimes : ((i.xferStart.image ++ i.xferProbe.image).drop 8).drop 8 = i.xferProbe.image := by
    rw [List.drop_drop]
    exact List.drop_left' i.xferStart.length_image
  rw [hpadded, htimes, Timeval.ofImage_image, hprobe]

/-! ### What the messages say -/

/-- An entry to which the messages of a session were applied. -/
def told (child : FtpChild) (trace : List (Item kernel)) : FtpChild :=
  receiveAll Message.applyTo child (messagesOf trace)

/-- The name that the messages say: that of an account; nobody is told of an anonymous login. -/
def shownName (login : FtpLogin) : Bytes :=
  match login.loggedIn, login.anonymous, login.user with
  | true, false, .name user => cstr (user.take (maxLoginName - 1))
  | _, _, _ => []

/-- The session may be in a directory that no message has told. -/
def astray (b : Bool) (x : Item kernel) : Bool :=
  if (message? x).map Message.type = some .chdir then false
  else b || decide (opendir? x = some false)

/-- A directory could not be opened since the last message about a directory. -/
def strayed (trace : List (Item kernel)) : Bool := trace.foldl astray false

/-- The entry says what the session is doing. -/
structure Mirrors (w : World) (child : FtpChild) : Prop where
  idle : child.xferInProgress = false
  xferInfo : child.xferInfo = w.st.session.info
  loginName : cstr child.loginName = shownName w.st.session.login
  path : strayed w.trace = false → cstr child.path = cstr w.st.session.virtPath ∨
    .chdir ∉ typesOf w.trace ∧ cstr child.path = [] ∧ cstr w.st.session.virtPath = [slash]

section

variable {child : FtpChild} {config : FtpConfig} {e : Env} {w w' : World}
  {S : StateChange → Prop} {α β : Type}

theorem told_of_posts {ms : List Message} (h : Posts ms w w') :
    told child w'.trace = receiveAll Message.applyTo (told child w.trace) ms := by
  rw [told, told, receiveAll, receiveAll, h.messages, List.foldl_append]
  rfl

/-- What no message is about does not change. -/
theorem told_of_informs (child : FtpChild) {f : FtpChild → β}
    (hf : ∀ (m : Message) child, S m.type → f (m.applyTo child) = f child) (h : Informs S w w') :
    f (told child w'.trace) = f (told child w.trace) := by
  obtain ⟨suffix, htrace, hsuffix⟩ := h
  have hmessages : ∀ m ∈ messagesOf suffix, S m.type := by
    intro m hm
    obtain ⟨x, hx, hxm⟩ := List.mem_filterMap.1 hm
    exact hsuffix x hx m hxm
  rw [told, receiveAll, htrace, messagesOf, List.filterMap_append, List.foldl_append]
  change f ((messagesOf suffix).foldl _ (told child w.trace)) = _
  generalize told child w.trace = entry
  generalize messagesOf suffix = ms at hmessages
  induction ms generalizing entry with
  | nil => rfl
  | cons m ms ih =>
    obtain ⟨hm, hms⟩ := List.forall_mem_cons.1 hmessages
    rw [List.foldl_cons, ih _ hms, hf m entry hm]

theorem Informs.works (h : Informs S w w') (hworks : PipeWorks w'.trace) : PipeWorks w.trace :=
  hworks.of_extends h

/-! ### Transfers -/

/-- The messages say that there is no transfer, and what the last one has transferred. -/
def InfoTold (child : FtpChild) (w : World) : Prop :=
  PipeWorks w.trace → (told child w.trace).xferInProgress = false ∧
    (told child w.trace).xferInfo = w.st.session.info

/-- No message of a transfer, and nothing was transferred. -/
def KeepsInfo (w w' : World) : Prop := Informs (¬OfTransfer ·) w w' ∧ Same FtpSession.info w w'

theorem info_directories (config : FtpConfig) :
    DirectoryLogic (fun t ↦ t ≠ .process ∧ t ≠ .progress) (fun _ ↦ True ∧ True) config
      (fun _ ↦ True ∧ True) KeepsInfo :=
  (informs_directories config).prod (same_directories (A := (· ≠ .progress)) (by decide)
    (fun _ _ h ↦ h.info.resolve_left fun h ↦ h rfl) (fun _ _ ↦ rfl) fun _ _ ↦ rfl)

theorem info_modify {f : Process → Process} (h : ∀ s, (f s).session.info = s.session.info) :
    Within (fun _ ↦ True ∧ True) KeepsInfo (Proc.modify f) :=
  (informs_modify f).prod (same_modify h)

theorem info_mark (n : Note) : Within (fun _ ↦ True ∧ True) KeepsInfo (mark n) :=
  (informs_mark n).prod (same_mark n)

theorem info_sendState {type : StateChange} (htype : ¬OfTransfer type) :
    Within (fun _ ↦ True ∧ True) KeepsInfo (sendState type) := by
  refine (informs_sendState htype).prod (within_iff_wp.2 fun e w _ ↦
    wp_mono (sendState_wp type) ?_ fun _ _ h ↦ congrArg FtpSession.info h.session)
  rintro _ w' ⟨_, _, _, _, h, _⟩
  exact congrArg FtpSession.info h.session

theorem info_handleSignal (waiter : Waiter) :
    Within (fun _ ↦ True ∧ True) KeepsInfo (serverHandleSignal waiter) :=
  (informs_handleSignal waiter).prod (same_handleSignal (A := (· ≠ .progress)) (by decide)
    (by decide) (fun _ _ h ↦ h.info.resolve_left fun h ↦ h rfl) waiter)

theorem info_keeps (child : FtpChild) :
    Keeps (fun _ ↦ True ∧ True) KeepsInfo (InfoTold child) fun _ ↦ True where
  assume _ _ := ⟨trivial, trivial⟩
  keepInv w w' h hk := by
    intro hworks
    have hsame : ∀ (m : Message) child, ¬OfTransfer m.type →
        (m.applyTo child).xferInProgress = child.xferInProgress ∧
          (m.applyTo child).xferInfo = child.xferInfo := by
      rintro ⟨type, body⟩ child htype
      cases type with
      | login | chdir => exact ⟨rfl, rfl⟩
      | xferStart => exact absurd (.inl rfl) htype
      | xfer => exact absurd (.inr (.inl rfl)) htype
      | xferStop => exact absurd (.inr (.inr rfl)) htype
    have hprogress := told_of_informs child (fun m child h ↦ (hsame m child h).1) hk.1
    have hinfo := told_of_informs child (fun m child h ↦ (hsame m child h).2) hk.1
    obtain ⟨hidle, htold⟩ := h (hk.1.works hworks)
    exact ⟨hprogress.trans hidle, (hinfo.trans htold).trans hk.2.symm⟩
  mid _ _ := trivial

/-- The message at the end of a transfer says everything. -/
theorem sendState_infoTold (child : FtpChild) :
    wp e (sendState .xferStop) (fun _ ↦ InfoTold child) (fun _ _ ↦ True) w := by
  refine wp_mono (sendState_wp .xferStop) ?_ fun _ _ _ ↦ trivial
  rintro _ w' ⟨pool, ms, -, -, hposts, hout, -⟩ hworks
  have hbody : outgoing .xferStop w.st.session pool = [⟨.xferStop, w.st.session.info.image⟩] := by
    simp only [outgoing, opOf, sendXferStop, sendXfer]
    rw [List.take_left' (FtpXferInfo.length_image _)]
  rw [told_of_posts hposts, hout hworks, hbody, hposts.session]
  exact ⟨rfl, FtpXferInfo.ofImage_image _⟩

/-- Whatever a download does before, it ends with that message. -/
theorem retrData_infoTold (data file : Stream) (offset filesize : ℤ) :
    wp e (retrData config data file offset filesize) (fun _ ↦ InfoTold child)
      (fun _ _ ↦ True) w := by
  have L := info_directories config
  -- the announcement, the note of the offset, the transfer, its reply, the reset of the session
  refine wp_bind_anyhow fun _ _ ↦ wp_bind_anyhow fun _ _ ↦ wp_bind_anyhow fun _ _ ↦
    wp_bind_anyhow fun _ _ ↦ wp_bind_anyhow fun _ _ ↦ ?_
  refine (wp_bind _ _).2 (wp_mono (sendState_infoTold child) (fun _ w₁ hw₁ ↦ ?_) fun _ _ h ↦ h)
  refine (info_keeps child).wp ?_ hw₁ fun _ _ h ↦ h
  exact L.bind (L.vfsClose (by decide) _) fun _ ↦ L.bind L.getSession fun _ ↦
    L.bind (L.close (by decide) _) fun _ ↦ L.bind L.getSession fun _ ↦
      L.bind (info_mark _) fun _ ↦ L.pure _

/-- So does an upload. -/
theorem storData_infoTold (file data : Stream) :
    wp e (storData config file data) (fun _ ↦ InfoTold child) (fun _ _ ↦ True) w := by
  have L := info_directories config
  -- the announcement, the note of the offset, the transfer, its reply, the reset of the session
  refine wp_bind_anyhow fun _ _ ↦ wp_bind_anyhow fun _ _ ↦ wp_bind_anyhow fun _ _ ↦
    wp_bind_anyhow fun _ _ ↦ wp_bind_anyhow fun _ _ ↦ wp_bind_anyhow fun _ _ ↦ ?_
  refine (wp_bind _ _).2 (wp_mono (sendState_infoTold child) (fun _ w₁ hw₁ ↦ ?_) fun _ _ h ↦ h)
  refine (info_keeps child).wp ?_ hw₁ fun _ _ h ↦ h
  exact L.bind (L.vfsClose (by decide) _) fun _ ↦ L.bind (L.close (by decide) _) fun _ ↦
    L.bind L.getSession fun _ ↦ L.bind (info_mark _) fun _ ↦ L.pure _

theorem info_handler {cmd : CmdHandler} (hcmd : cmd ∈ coreCommandList config)
    (hw : InfoTold child w) :
    wp e cmd.handler (fun _ ↦ InfoTold child) (fun _ _ ↦ True) w := by
  have L := info_directories config
  have K := info_keeps child
  have hkeep : ∀ {m : Program FtpRet}, Within (fun _ ↦ True ∧ True) KeepsInfo m →
      wp e m (fun _ ↦ InfoTold child) (fun _ _ ↦ True) w := fun hm ↦ K.wp hm hw fun _ _ h ↦ h
  have hvfs : ∀ rootDir, Within (fun _ ↦ True ∧ True) KeepsInfo (initVfsPool rootDir) :=
    L.initVfsPool fun _ _ _ ↦ L.bind (info_modify fun _ ↦ rfl) fun _ ↦
      L.bind (info_mark _) fun _ ↦ L.pure _
  have hchdir : Within (fun _ ↦ True ∧ True) KeepsInfo (sendState .chdir) :=
    info_sendState (by rintro (h | h | h) <;> cases h)
  have hlogin : Within (fun _ ↦ True ∧ True) KeepsInfo (sendState .login) :=
    info_sendState (by rintro (h | h | h) <;> cases h)
  refine L.forall_command (Q := fun _ h ↦ wp e h (fun _ ↦ InfoTold child) (fun _ _ ↦ True) w)
    (by decide) ⟨trivial, trivial⟩ ⟨trivial, trivial⟩ ⟨trivial, trivial⟩ (fun _ _ h ↦ hkeep h)
    (hkeep ?_) (hkeep ?_) (hkeep (L.docwd (by decide) hchdir)) (hkeep (L.docdup (by decide) hchdir))
    (hkeep (L.dopasv (by decide) (by decide))) (hkeep (L.dorest (by decide) (by decide)))
    (hkeep (L.dolist (by decide) (by decide) ⟨trivial, trivial⟩ (info_handleSignal _))) ?_ ?_ hcmd
  · exact L.douser (fun msg hmsg ↦ L.replyMsg (by decide) msg hmsg) (L.replyFormat (by decide))
      (fun _ _ ↦ info_modify fun _ ↦ rfl) fun _ ↦ info_mark _
  · exact L.dopass (by decide) (fun _ ↦ info_modify fun _ ↦ rfl) hvfs hlogin
      (info_modify fun _ ↦ rfl) fun _ ↦ info_mark _
  · exact L.doretr_keeps K (by decide) ⟨trivial, trivial⟩ (info_handleSignal _)
      (fun _ _ _ _ _ _ ↦ retrData_infoTold _ _ _ _) hw
  · exact L.dostor_keeps K (by decide) ⟨trivial, trivial⟩ (info_handleSignal _)
      (fun _ _ _ _ ↦ storData_infoTold _ _) hw

/-- A loop invariant, from what its actions keep and what the handlers keep. -/
theorem CallLogic.loopRule {A : Topic → Prop} {P Inv Mid : World → Prop}
    {R : World → World → Prop} (L : CallLogic A P R) (K : Keeps P R Inv Mid)
    (hA : A .reply ∧ A .control) (hmark : ∀ n, rooted? (.note n) = none → Within P R (mark n))
    (hcommand : ∀ f, Within P R (modifyCommand f))
    (hsignal : ∀ waiter, Within P R (FtpServer.serverHandleSignal waiter))
    (hhandler : ∀ cmd ∈ coreCommandList config, ∀ w, Inv w →
      wp e cmd.handler (fun _ ↦ Inv) (fun _ ↦ Mid) w) : LoopRule A P R config e Inv Mid where
  toCallLogic := L
  toKeeps := K
  control := hA.2
  tooLong _ _ := L.reply hA.1 _ _ (by decide)
  signal := hsignal
  command := hcommand
  doCmd _ hw := L.doCmd_keeps K hA.1 (fun _ _ ↦ hmark _ rfl) (fun _ ↦ hmark _ rfl) hhandler hw

theorem info_reached {w₀ : World} {phase : Phase} (h : Reaches config e w₀ phase w)
    (hw₀ : InfoTold child w₀) : InfoTold child w :=
  ((info_directories config).toCallLogic.loopRule (info_keeps child) (by decide)
    (fun n _ ↦ info_mark n) (fun _ ↦ info_modify fun _ ↦ rfl) info_handleSignal
    fun _ hcmd _ hw ↦ info_handler hcmd hw).reaches h hw₀

/-! ### The login -/

/-- What the start of a block shows that a string was copied to. -/
theorem cstr_take_strlcpy (dst : Bytes) {src : Bytes} {size : ℕ} (hsize : 0 < size)
    (hne : src ≠ []) : cstr ((strlcpy dst src size).1.take size) = cstr (src.take (size - 1)) := by
  have hlen : src.length ≠ 0 := fun h ↦ hne (List.length_eq_zero_iff.1 h)
  have htake : ∀ n < size, ∀ rest : Bytes,
      cstr ((src.take n ++ nul :: rest).take size) = cstr (src.take n) := by
    intro n hn rest
    have hle : (src.take n).length ≤ n := by simp
    obtain ⟨k, hk⟩ : ∃ k, size - (src.take n).length = k + 1 :=
      ⟨size - (src.take n).length - 1, by omega⟩
    rw [List.take_append, List.take_of_length_le (by omega), hk, List.take_succ_cons]
    exact cstr_append_zero' _ _
  rw [strlcpy]
  simp only [if_pos hlen]
  split_ifs with hlong
  · exact htake _ (by omega) _
  · rw [htake _ (by omega), List.take_length, List.take_of_length_le (by omega)]

/-- The login is this one, and the messages say its name. -/
def LoginTold (child : FtpChild) (login : FtpLogin) (w : World) : Prop :=
  w.st.session.login = login ∧
    (PipeWorks w.trace → cstr (told child w.trace).loginName = shownName login)

/-- No message about the login, and this part of the session is as it was. -/
def KeepsLoginTold {β : Type} (f : FtpSession → β) (w w' : World) : Prop :=
  Informs (· ≠ .login) w w' ∧ Same f w w'

section Login

variable {f : FtpSession → β} {login : FtpLogin}

theorem login_directories (config : FtpConfig)
    (hf : ∀ s s' : FtpSession, s'.login = s.login → f s' = f s) :
    DirectoryLogic (fun t ↦ t ≠ .process ∧ True) (fun _ ↦ True ∧ True) config
      (fun _ ↦ True ∧ True) (KeepsLoginTold f) :=
  (informs_directories config).prod (same_directories (A := fun _ ↦ True) (by simp)
    (fun _ _ h ↦ hf _ _ h.login) (fun _ _ ↦ hf _ _ rfl) fun _ _ ↦ hf _ _ rfl)

theorem login_modify {g : Process → Process} (h : ∀ s, f (g s).session = f s.session) :
    Within (fun _ ↦ True ∧ True) (KeepsLoginTold f) (Proc.modify g) :=
  (informs_modify g).prod (same_modify h)

theorem login_mark (n : Note) : Within (fun _ ↦ True ∧ True) (KeepsLoginTold f) (mark n) :=
  (informs_mark n).prod (same_mark n)

theorem same_sendState (type : StateChange) :
    Within (fun _ ↦ True) (Same f) (sendState type) := by
  refine within_iff_wp.2 fun e w _ ↦
    wp_mono (sendState_wp type) ?_ fun _ _ h ↦ congrArg f h.session
  rintro _ w' ⟨_, _, _, _, h, _⟩
  exact congrArg f h.session

theorem login_sendState {type : StateChange} (htype : type ≠ .login) :
    Within (fun _ ↦ True ∧ True) (KeepsLoginTold f) (sendState type) :=
  (informs_sendState (S := (· ≠ .login)) htype).prod (same_sendState type)

theorem login_handleSignal (hf : ∀ s s' : FtpSession, s'.login = s.login → f s' = f s)
    (waiter : Waiter) : Within (fun _ ↦ True ∧ True) (KeepsLoginTold f)
      (serverHandleSignal waiter) :=
  (informs_handleSignal waiter).prod (same_handleSignal (A := fun _ ↦ True) trivial trivial
    (fun _ _ h ↦ hf _ _ h.login) waiter)

/-- A message that is not about the login leaves the name alone. -/
theorem loginName_applyTo {m : Message} {child : FtpChild} (htype : m.type ≠ .login) :
    cstr (m.applyTo child).loginName = cstr child.loginName := by
  obtain ⟨type, body⟩ := m
  cases type with
  | login => exact absurd rfl htype
  | _ => rfl

theorem login_keeps (child : FtpChild) (login : FtpLogin) :
    Keeps (fun _ ↦ True ∧ True) (KeepsLoginTold FtpSession.login) (LoginTold child login)
      fun _ ↦ True where
  assume _ _ := ⟨trivial, trivial⟩
  keepInv _ _ h hk := ⟨hk.2.trans h.1, fun hworks ↦
    (told_of_informs (f := fun entry ↦ cstr entry.loginName) child (fun _ _ ↦ loginName_applyTo)
      hk.1).trans (h.2 (hk.1.works hworks))⟩
  mid _ _ := trivial

/-- As long as nobody is logged in, no name is shown. -/
theorem shownName_of_out (h : login.loggedIn = false) : shownName login = [] := by
  rw [shownName, h]

/-- The message of `PASS` says the name of the account. -/
theorem sendState_loginTold {user : Bytes} (hanonymous : login.anonymous = false)
    (huser : login.user = .name user) (hw : LoginTold child login w) :
    wp e (sendState .login) (fun _ w' ↦ w'.st.session.login = login ∧ (PipeWorks w'.trace →
      cstr (told child w'.trace).loginName = cstr (user.take (maxLoginName - 1))))
      (fun _ _ ↦ True) w := by
  refine wp_mono (sendState_wp .login) ?_ fun _ _ _ ↦ trivial
  rintro _ w' ⟨pool, ms, -, -, hposts, hout, -⟩
  refine ⟨(congrArg FtpSession.login hposts.session).trans hw.1, fun hworks ↦ ?_⟩
  generalize hcleared : List.replicate maxLoginName nul ++ pool.drop maxLoginName = cleared
  have hbody : outgoing .login w.st.session pool =
      [⟨.login, (strlcpy cleared user maxLoginName).1.take maxLoginName⟩] := by
    simp only [outgoing, opOf, sendLogin, hw.1, hanonymous, huser, hcleared]
    rfl
  rw [told_of_posts hposts, hout hworks, hbody]
  change cstr ((strlcpy cleared user maxLoginName).1.take maxLoginName) = _
  by_cases hne : user = []
  · subst hne hcleared
    change cstr ((List.replicate maxLoginName nul ++ pool.drop maxLoginName).take maxLoginName) = _
    rw [List.take_left' List.length_replicate]
    rfl
  · exact cstr_take_strlcpy _ (by decide) hne

/-- Behind `PASS`, the entry knows who has logged in. -/
theorem dopass_loginTold (hw : LoginTold child login w) :
    wp e (dopass config) (fun _ w' ↦ LoginTold child w'.st.session.login w')
      (fun _ _ ↦ True) w := by
  have hf : ∀ s s' : FtpSession, s'.login = s.login → s'.login = s.login := fun _ _ h ↦ h
  have L := login_directories config hf
  have K := login_keeps child login
  have hkeep : ∀ {m : Program FtpRet} {w : World}, LoginTold child login w →
      Within (fun _ ↦ True ∧ True) (KeepsLoginTold FtpSession.login) m →
      wp e m (fun _ w' ↦ LoginTold child w'.st.session.login w') (fun _ _ ↦ True) w :=
    fun hw hm ↦ K.wp hm hw fun _ w' h ↦ h.1.symm ▸ h
  have hvfs : ∀ rootDir, Within (fun _ ↦ True ∧ True) (KeepsLoginTold FtpSession.login)
      (initVfsPool rootDir) := L.initVfsPool fun _ _ _ ↦ L.bind (login_modify fun _ ↦ rfl) fun _ ↦
    L.bind (login_mark _) fun _ ↦ L.pure _
  have hstate : ∀ pool, Within (fun _ ↦ True ∧ True) (KeepsLoginTold FtpSession.login)
      (Proc.modify fun s : Process ↦ { s with statePool := some pool }) := fun _ ↦
    login_modify fun _ ↦ rfl
  -- what follows once the session is logged in
  have hin : ∀ {m : Program FtpRet} {w : World},
      Within (fun _ ↦ True ∧ True) (KeepsLoginTold FtpSession.login) m →
      w.st.session.login = login → (PipeWorks w.trace → cstr (told child w.trace).loginName =
        shownName { login with loggedIn := true }) →
      wp e (do modifyLogin ({ · with loggedIn := true }); m)
        (fun _ w' ↦ LoginTold child w'.st.session.login w') (fun _ _ ↦ True) w := by
    intro m w hm hlogin hname
    rw [modifyLogin, modifySession, wp_bind, wp_modify, hlogin]
    refine (login_keeps child { login with loggedIn := true }).wp hm ⟨rfl, hname⟩ ?_
    exact fun _ w' h ↦ h.1.symm ▸ h
  rw [dopass, wp_bind, wp_getSession, hw.1]
  split_ifs with hlogged hanonymous
  · exact hkeep hw (L.replyMsg_pure (by decide) _ _ (by decide))
  · have hout : ∀ {w : World}, LoginTold child login w → PipeWorks w.trace →
        cstr (told child w.trace).loginName = shownName { login with loggedIn := true } := by
      intro w hw hworks
      rw [hw.2 hworks, shownName_of_out (by simpa using hlogged), shownName, hanonymous]
    refine K.bind (L.replyMsg (by decide) _ (by decide)) hw fun _ w₁ hw₁ ↦ ?_
    refine K.bind (hvfs _) hw₁ fun _ w₂ hw₂ ↦ ?_
    refine K.bind (L.initStatePool hstate) hw₂ fun _ w₃ hw₃ ↦ ?_
    exact hin (L.bind (login_mark _) fun _ ↦ L.pure _) hw₃.1 (hout hw₃)
  split
  · have hbad : Within (fun _ ↦ True ∧ True) (KeepsLoginTold FtpSession.login)
        (badUser (α := FtpRet) login.user) := hw.1 ▸ L.badUser (w := w) ⟨trivial, trivial⟩
    exact hkeep hw hbad
  · exact hkeep hw (L.replyMsg_pure (by decide) _ _ (by decide))
  · next user huser =>
    refine K.bind (L.loginUser hstate hvfs _ _) hw fun userId w₁ hw₁ ↦ ?_
    split_ifs
    · exact hkeep hw₁ (L.replyMsg_pure (by decide) _ _ (by decide))
    refine K.bind (L.checked (L.sysOther rfl)) hw₁ fun r w₂ hw₂ ↦ ?_
    rcases r with - | -
    · exact hkeep hw₂ (L.pure _)
    · have hanonymous : login.anonymous = false := by simpa using hanonymous
      refine (wp_bind _ _).2 (wp_mono (sendState_loginTold hanonymous huser hw₂)
        (fun _ w₃ hw₃ ↦ ?_) fun _ _ h ↦ h)
      refine hin (L.bind (login_mark _) fun _ ↦ L.replyMsg_pure (by decide) _ _ (by decide))
        hw₃.1 fun hworks ↦ ?_
      rw [hw₃.2 hworks, shownName, hanonymous, huser]

/-- `USER` does nothing once somebody is logged in; before, no name is shown. -/
theorem douser_loginTold (hw : LoginTold child w.st.session.login w) :
    wp e (douser config) (fun _ w' ↦ LoginTold child w'.st.session.login w')
      (fun _ _ ↦ True) w := by
  by_cases hlogged : w.st.session.login.loggedIn = true
  · have L := login_directories (f := FtpSession.login) config fun _ _ h ↦ h
    rw [douser, wp_bind, wp_getSession]
    simp only [if_pos hlogged]
    exact (login_keeps child _).wp (L.replyMsg_pure (by decide) _ _ (by decide)) hw
      fun _ w' h ↦ h.1.symm ▸ h
  · have hout : w.st.session.login.loggedIn = false := by simpa using hlogged
    have L := login_directories (f := fun s ↦ s.login.loggedIn) config
      fun _ _ h ↦ congrArg FtpLogin.loggedIn h
    have hrename : ∀ g, Renames g → Within (fun _ ↦ True ∧ True)
        (KeepsLoginTold fun s ↦ s.login.loggedIn) (modifyLogin g) := fun _ hg ↦
      login_modify fun _ ↦ hg.loggedIn _
    refine wp_mono ((L.douser (fun msg hmsg ↦ L.replyMsg (by decide) msg hmsg)
      (L.replyFormat (by decide)) hrename fun _ ↦ login_mark _).wp ⟨trivial, trivial⟩) ?_
      fun _ _ _ ↦ trivial
    rintro _ w' ⟨hinforms, hsame⟩
    refine ⟨rfl, fun hworks ↦ ?_⟩
    have hname := told_of_informs (f := fun entry ↦ cstr entry.loginName) child
      (fun _ _ ↦ loginName_applyTo) hinforms
    rw [hname, hw.2 (hinforms.works hworks), shownName_of_out hout,
      shownName_of_out (hsame.trans hout)]

theorem loginTold_handler {cmd : CmdHandler} (hcmd : cmd ∈ coreCommandList config)
    (hw : LoginTold child w.st.session.login w) :
    wp e cmd.handler (fun _ w' ↦ LoginTold child w'.st.session.login w') (fun _ _ ↦ True) w := by
  have hf : ∀ s s' : FtpSession, s'.login = s.login → s'.login = s.login := fun _ _ h ↦ h
  have L := login_directories config hf
  have hkeep : ∀ {m : Program FtpRet},
      Within (fun _ ↦ True ∧ True) (KeepsLoginTold FtpSession.login) m →
      wp e m (fun _ w' ↦ LoginTold child w'.st.session.login w') (fun _ _ ↦ True) w :=
    fun hm ↦ (login_keeps child _).wp hm hw fun _ w' h ↦ h.1.symm ▸ h
  have hsend : ∀ type, OfTransfer type →
      Within (fun _ ↦ True ∧ True) (KeepsLoginTold FtpSession.login) (sendState type) := by
    rintro type (rfl | rfl | rfl) <;> exact login_sendState (by decide)
  have hsignal := fun waiter ↦ login_handleSignal hf waiter
  have hA : Topic.reply ≠ .process ∧ True := by decide
  have hchdir : Within (fun _ ↦ True ∧ True) (KeepsLoginTold FtpSession.login) (sendState .chdir) :=
    login_sendState (by decide)
  refine L.forall_command (Q := fun _ h ↦ wp e h
    (fun _ w' ↦ LoginTold child w'.st.session.login w') (fun _ _ ↦ True) w) hA ⟨trivial, trivial⟩
    ⟨trivial, trivial⟩ ⟨trivial, trivial⟩ (fun _ _ h ↦ hkeep h) (douser_loginTold hw)
    (dopass_loginTold hw) (hkeep (L.docwd hA hchdir)) (hkeep (L.docdup hA hchdir))
    (hkeep (L.dopasv hA (by decide))) (hkeep (L.dorest hA (by decide)))
    (hkeep (L.dolist hA (by decide) ⟨trivial, trivial⟩ (hsignal _))) ?_ ?_ hcmd
  · refine wp_mono (L.doretr_keeps (login_keeps child _) (by decide) ⟨trivial, trivial⟩ (hsignal _)
      (fun data file offset filesize w₁ hw₁ ↦ ?_) hw) (fun _ w' h ↦ h.1.symm ▸ h) fun _ _ h ↦ h
    exact (login_keeps child _).wp (L.retrData hsend (by decide) (hsignal _) data file offset
      filesize) hw₁ fun _ _ h ↦ h
  · refine wp_mono (L.dostor_keeps (login_keeps child _) (by decide) ⟨trivial, trivial⟩ (hsignal _)
      (fun file data w₁ hw₁ ↦ ?_) hw) (fun _ w' h ↦ h.1.symm ▸ h) fun _ _ h ↦ h
    exact (login_keeps child _).wp (L.storData hsend (by decide) (hsignal _) file data) hw₁
      fun _ _ h ↦ h

theorem login_reached {w₀ : World} {phase : Phase} (h : Reaches config e w₀ phase w)
    (hw₀ : LoginTold child w₀.st.session.login w₀) : LoginTold child w.st.session.login w := by
  have L := login_directories (f := FtpSession.login) config fun _ _ h ↦ h
  have K : Keeps (fun _ ↦ True ∧ True) (KeepsLoginTold FtpSession.login)
      (fun w ↦ LoginTold child w.st.session.login w) fun _ ↦ True :=
    ⟨fun _ _ ↦ ⟨trivial, trivial⟩, fun w w' h hk ↦
      hk.2.symm ▸ (login_keeps child w.st.session.login).keepInv w w' h hk, fun _ _ ↦ trivial⟩
  exact (L.toCallLogic.loopRule K (by decide) (fun n _ ↦ login_mark n)
    (fun _ ↦ login_modify fun _ ↦ rfl) (login_handleSignal fun _ _ h ↦ h)
    fun _ hcmd _ hw ↦ loginTold_handler hcmd hw).reaches h hw₀

end Login

/-! ### The directory -/

/-- The messages say where the session is, unless a directory could not be opened since the last one
about it. -/
def PathTold (child : FtpChild) (w : World) : Prop :=
  PipeWorks w.trace → strayed w.trace = false →
    cstr (told child w.trace).path = cstr w.st.session.virtPath ∨
      .chdir ∉ typesOf w.trace ∧ cstr (told child w.trace).path = [] ∧
        cstr w.st.session.virtPath = [slash]

/-- No message about the directory, and the session stays in it. -/
def KeepsPath (w w' : World) : Prop :=
  (KeepsJail w w' ∧ KeepsPlace w w') ∧ Informs (· ≠ .chdir) w w'

/-- What may happen, so that it can do this. -/
def Roaming (w : World) : Prop := (Jail w ∧ True) ∧ True

/-- Only a message about the directory, or a directory that cannot be opened, matters. -/
theorem strayed_of_informs (h : Informs (· ≠ .chdir) w w') :
    strayed w'.trace =
      (strayed w.trace || decide (refusedDirs w'.trace ≠ refusedDirs w.trace)) := by
  obtain ⟨suffix, htrace, hsuffix⟩ := h
  rw [strayed, refusedDirs, opendirs, htrace, List.foldl_append, List.filterMap_append,
    List.count_append]
  change suffix.foldl astray (strayed w.trace) =
    (strayed w.trace ||
      decide ((opendirs w.trace).count false + _ ≠ (opendirs w.trace).count false))
  generalize strayed w.trace = b
  generalize (opendirs w.trace).count false = n
  clear htrace
  induction suffix generalizing b with
  | nil => simp
  | cons x suffix ih =>
    obtain ⟨hx, hsuffix⟩ := List.forall_mem_cons.1 hsuffix
    have hastray : astray b x = (b || decide (opendir? x = some false)) := by
      rw [astray, if_neg]
      simpa using hx
    rw [List.foldl_cons, hastray, ih hsuffix, Bool.or_assoc, List.filterMap_cons]
    rcases opendir? x with - | - | -
    · simp
    · simp
    · simp

/-- A session that is not told to have moved, and has not. -/
theorem PathTold.stay (h : PathTold child w) (hinforms : Informs (· ≠ .chdir) w w')
    (hvirtPath : cstr w'.st.session.virtPath = cstr w.st.session.virtPath) : PathTold child w' := by
  intro hworks hstrayed
  have hsame : ∀ (m : Message) child, m.type ≠ .chdir →
      cstr (m.applyTo child).path = cstr child.path := by
    rintro ⟨type, body⟩ child htype
    cases type with
    | chdir => exact absurd rfl htype
    | _ => rfl
  have hpath := told_of_informs (f := fun entry ↦ cstr entry.path) child hsame hinforms
  rw [strayed_of_informs hinforms, Bool.or_eq_false_iff] at hstrayed
  rw [hpath, hvirtPath]
  refine (h (hinforms.works hworks) hstrayed.1).imp_right fun ⟨hsilent, hroot⟩ ↦ ⟨?_, hroot⟩
  obtain ⟨suffix, htrace, hsuffix⟩ := hinforms
  rw [typesOf, messagesOf, htrace, List.filterMap_append, List.map_append, List.mem_append, not_or]
  refine ⟨hsilent, fun hmem ↦ ?_⟩
  obtain ⟨m, hm, htype⟩ := List.mem_map.1 hmem
  obtain ⟨x, hx, hxm⟩ := List.mem_filterMap.1 hm
  exact hsuffix x hx m hxm htype

theorem path_keeps (child : FtpChild) :
    Keeps Roaming KeepsPath (fun w ↦ Jail w ∧ PathTold child w) fun _ ↦ True where
  assume _ h := ⟨⟨h.1, trivial⟩, trivial⟩
  keepInv _ _ h hk := ⟨hk.1.1, h.2.stay hk.2 (congrArg cstr hk.1.2.1)⟩
  mid _ _ := trivial

theorem path_handlers (config : FtpConfig) :
    HandlerLogic (fun t ↦ (t ≠ .path ∧ t ≠ .path) ∧ t ≠ .process)
      (fun op ↦ (True ∧ op ≠ .opendir) ∧ True) config Roaming KeepsPath := by
  have L := keepsPlace_steps
  have hplace : HandlerLogic (· ≠ .path) (· ≠ .opendir) config (fun _ ↦ True) KeepsPlace :=
    .of_steps L (by decide)
      (fun op path hop ↦ keepsPlace_sys fun p h ↦ by
        obtain ⟨rfl, -⟩ := Call.path.inj h
        rcases hop with h | h | h
        · cases h
        · cases h
        · exact h rfl)
      (fun _ ↦ keepsPlace_modify fun _ ↦ rfl) (L.trimArgument fun _ ↦ keepsPlace_modify fun _ ↦ rfl)
  exact ((jail_handlers config).toHandlerLogic.prod hplace).prod
    (informs_directories config).toHandlerLogic

theorem path_modify {f : Process → Process}
    (hvirtPath : ∀ s, (f s).session.virtPath = s.session.virtPath)
    (hpool : ∀ s, (f s).vfsPool = s.vfsPool) : Within Roaming KeepsPath (Proc.modify f) :=
  ((within_modify fun _ hw ↦ hw.of_eq (hvirtPath _) (hpool _) rfl).prod
    (keepsPlace_modify hvirtPath)).prod (informs_modify f)

theorem path_mark {n : Note} (hn : rooted? (.note n) = none) :
    Within Roaming KeepsPath (mark n) :=
  ((within_mark fun _ hw ↦ hw.noted hn).prod (keepsPlace_mark n)).prod (informs_mark n)

theorem path_sendState {type : StateChange} (htype : type ≠ .chdir) :
    Within Roaming KeepsPath (sendState type) :=
  ((jail_steps.sendState (by decide) type).prod (keepsPlace_steps.sendState (by decide) type)).prod
    (informs_sendState htype)

theorem path_handleSignal (waiter : Waiter) :
    Within Roaming KeepsPath (serverHandleSignal waiter) :=
  (place_serverHandleSignal waiter).prod (informs_handleSignal waiter)

/-- A message about the directory says it all. -/
theorem sendState_pathTold (child : FtpChild) (hw : Jail w) :
    wp e (sendState .chdir) (fun _ w' ↦ Jail w' ∧ PathTold child w') (fun _ _ ↦ True) w := by
  refine wp_mono (wp_and ((jail_steps.sendState (by decide) .chdir).wp hw) (sendState_wp .chdir))
    ?_ fun _ _ _ ↦ trivial
  rintro _ w' ⟨hjail, pool, ms, -, -, hposts, hout, -⟩
  refine ⟨hjail, fun hworks _ ↦ .inl ?_⟩
  have hshort := hw.canonical.short
  have hne : cstr w.st.session.virtPath ≠ [] := by
    intro h
    have habsolute := hw.canonical.absolute
    rw [h] at habsolute
    cases habsolute
  have hbody : outgoing .chdir w.st.session pool =
      [⟨.chdir, (strlcpy pool (cstr w.st.session.virtPath) ftpMaxPath).1.take ftpMaxPath⟩] := by
    simp only [outgoing, opOf, sendChdir_eq, if_neg (not_le.2 hshort)]
  rw [told_of_posts hposts, hout hworks, hbody, hposts.session]
  change cstr ((strlcpy pool (cstr w.st.session.virtPath) ftpMaxPath).1.take ftpMaxPath) = _
  rw [cstr_take_strlcpy _ (by decide) hne, List.take_of_length_le (by omega)]
  exact cstr_of_not_mem (zero_not_mem_cstr _)

theorem docwd_pathTold (hw : Jail w) (htold : PathTold child w) :
    wp e (docwd config) (fun _ w' ↦ Jail w' ∧ PathTold child w') (fun _ _ ↦ True) w := by
  have L := path_handlers config
  have K := path_keeps child
  have hreply : (Topic.reply ≠ .path ∧ Topic.reply ≠ .path) ∧ Topic.reply ≠ .process := by decide
  rw [docwd, wp_bind, wp_getSession]
  refine K.bind (L.vfsStat w ⟨⟨hw, trivial⟩, trivial⟩ _ (nul_not_mem_argument _)) ⟨hw, htold⟩
    fun statpath w₁ hw₁ ↦ ?_
  rcases statpath with - | statpath
  · exact K.wp (L.failedVfsReply hreply) hw₁ fun _ _ h ↦ h
  dsimp only
  split_ifs
  · exact K.wp (L.replyMsg_pure hreply _ _ (by decide)) hw₁ fun _ _ h ↦ h
  refine (wp_bind _ _).2 (wp_mono (vfsChdir_wp hw₁.1 (nul_not_mem_argument _)) (fun _ w₂ hw₂ ↦ ?_)
    fun _ _ _ ↦ trivial)
  refine (wp_bind _ _).2 (wp_mono (sendState_pathTold child hw₂) (fun _ w₃ hw₃ ↦ ?_)
    fun _ _ h ↦ h)
  exact K.wp (L.replyMsg_pure hreply _ _ (by decide)) hw₃ fun _ _ h ↦ h

theorem dolist_pathTold (hw : Jail w) (htold : PathTold child w) :
    wp e (dolist config) (fun _ w' ↦ Jail w' ∧ PathTold child w') (fun _ _ ↦ True) w := by
  have hinforms : Within (fun _ ↦ True) (Informs (· ≠ .chdir)) (dolist config) :=
    (informs_directories config).dolist (by decide) (by decide) trivial (informs_handleSignal _)
  refine wp_mono (wp_and (dolist_whereabouts hw) (hinforms.wp trivial)) ?_ fun _ _ _ ↦ trivial
  rintro _ w' ⟨hstanding | ⟨path, optA, -, hstanding⟩, hinforms⟩
  · exact ⟨hstanding.jail, htold.stay hinforms hstanding.virtPath⟩
  · refine ⟨hstanding.jail, fun _ hstrayed ↦ ?_⟩
    rw [strayed_of_informs hinforms, hstanding.refused] at hstrayed
    simp at hstrayed

theorem path_handler {cmd : CmdHandler} (hcmd : cmd ∈ coreCommandList config) (hw : Jail w)
    (htold : PathTold child w) :
    wp e cmd.handler (fun _ w' ↦ Jail w' ∧ PathTold child w') (fun _ _ ↦ True) w := by
  have L := path_handlers config
  have K := path_keeps child
  have hkeep : ∀ {m : Program FtpRet}, Within Roaming KeepsPath m →
      wp e m (fun _ w' ↦ Jail w' ∧ PathTold child w') (fun _ _ ↦ True) w :=
    fun hm ↦ K.wp hm ⟨hw, htold⟩ fun _ _ h ↦ h
  have hsend : ∀ type, OfTransfer type → Within Roaming KeepsPath (sendState type) := by
    rintro type (rfl | rfl | rfl) <;> exact path_sendState (by decide)
  have hreply : (Topic.reply ≠ .path ∧ Topic.reply ≠ .path) ∧ Topic.reply ≠ .process := by decide
  refine L.forall_command (Q := fun _ h ↦ wp e h
    (fun _ w' ↦ Jail w' ∧ PathTold child w') (fun _ _ ↦ True) w) hreply (by simp)
    (by simp) (by simp)
    (fun _ _ h ↦ hkeep h) (hkeep ?_) (hkeep ?_) (docwd_pathTold hw htold) ?_
    -- only `CWD`, `CDUP` and `LIST` change the directory; all others keep this part
    (hkeep (L.dopasv hreply (by decide))) (hkeep (L.dorest hreply (by decide)))
    (dolist_pathTold hw htold) ?_ ?_ hcmd
  · exact L.douser (fun msg hmsg ↦ L.replyMsg hreply msg hmsg) (L.replyFormat hreply)
      (fun _ _ ↦ path_modify (fun _ ↦ rfl) fun _ ↦ rfl) fun _ ↦ path_mark rfl
  · exact L.dopass hreply (fun _ ↦ path_modify (fun _ ↦ rfl) fun _ ↦ rfl)
      (fun rootDir ↦ ((jail_login.initVfsPool rootDir).prod (keepsPlace_steps.initVfsPool
        (fun _ _ _ ↦ keepsPlace_steps.bind (keepsPlace_modify fun _ ↦ rfl) fun _ ↦
          keepsPlace_steps.bind (keepsPlace_mark _) fun _ ↦ keepsPlace_steps.pure _) rootDir)).prod
        ((informs_directories config).initVfsPool (fun _ _ _ ↦ informs_steps.bind
          (informs_modify _) fun _ ↦ informs_steps.bind (informs_mark _) fun _ ↦
            informs_steps.pure _) rootDir))
      (path_sendState (by decide)) (path_modify (fun _ ↦ rfl) fun _ ↦ rfl) fun _ ↦ path_mark rfl
  · rw [docdup, wp_bind, modifySession, wp_modify]
    exact docwd_pathTold (hw.of_eq rfl rfl rfl) htold
  · exact L.doretr_keeps K (by decide) (by simp) (path_handleSignal _)
      (fun data file offset filesize w₁ hw₁ ↦ K.wp (L.retrData hsend (by decide)
        (path_handleSignal _) data file offset filesize) hw₁ fun _ _ h ↦ h) ⟨hw, htold⟩
  · exact L.dostor_keeps K (by decide) (by simp) (path_handleSignal _)
      (fun file data w₁ hw₁ ↦ K.wp (L.storData hsend (by decide) (path_handleSignal _) file data)
        hw₁ fun _ _ h ↦ h) ⟨hw, htold⟩

theorem path_reached {w₀ : World} {phase : Phase} (h : Reaches config e w₀ phase w)
    (hw₀ : Jail w₀ ∧ PathTold child w₀) : Jail w ∧ PathTold child w :=
  ((path_handlers config).toCallLogic.loopRule (path_keeps child) (by decide)
    (fun _ hn ↦ path_mark hn) (fun _ ↦ path_modify (fun _ ↦ rfl) fun _ ↦ rfl) path_handleSignal
    fun _ hcmd _ hw ↦ path_handler hcmd hw.1 hw.2).reaches h hw₀

end

end FtpServer
