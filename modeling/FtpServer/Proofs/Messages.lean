import FtpServer.Library.Groups
import FtpServer.Proofs.SessionLoop
import FtpServer.Proofs.DataCommands
import FtpServer.Proofs.StatePipe

/-!
# The words of messages a session sends

The messages of a session, as long as its pipe works, make up a word of `grammar`: at most one
`T_LOGIN`, which comes first, and then `T_CHDIR`s and transfers, each a `T_XFER_START`, any number
of `T_XFER`s and a `T_XFER_STOP`. The invariant `Tells L` says that what was sent so far is a word
of the language `L`; every action but `send_state` keeps it for every `L`, and `send_state` appends
a letter.

* `NameFits` is the part of the invariant that `send_xfer_start` needs: it refuses to send a name
  that is too long for its message.
* `sendState_tells` is the step: a message is a letter at the end of the word.
* `Worded` holds between two commands. As it has no group open, a run that is stopped there has sent
  a whole word; anywhere else it has sent the beginning of one (`Completable`).
-/

namespace FtpServer

open CString Effect Effect.Proc Computability

/-! ### The grammar -/

def grammar : Groups (Language StateChange) := .letters .login .chdir .xferStart .xfer .xferStop

/-- A command begins or ends. -/
def isBoundary : Item kernel → Bool
  | .note (.dispatch _ _) | .note (.finished _) => true
  | _ => false

/-- No group is open where a command begins or ends. -/
def WordAtBoundary (before : List (Item kernel)) (x : Item kernel) : Prop :=
  isBoundary x = true → PipeWorks before → typesOf before ∈ grammar.closed

/-- What is sent so far can become a word, and was one between two commands. -/
structure Completable (w : World) : Prop where
  between : AtEach WordAtBoundary w.trace
  completes : PipeWorks w.trace → grammar.Completes (typesOf w.trace)

/-- The file name is one that `send_xfer_start` does not refuse. -/
def NameFits (s : FtpSession) : Prop := (cstr s.filename).length ≤ ftpMaxName

/-- The session is logged in or not, and has sent a word of `L`. -/
structure Tells (L : Language StateChange) (b : Bool) (w : World) : Prop where
  loggedIn : w.st.session.login.loggedIn = b
  nameFits : NameFits w.st.session
  between : AtEach WordAtBoundary w.trace
  word : PipeWorks w.trace → typesOf w.trace ∈ L

variable {L L' : Language StateChange} {b : Bool} {w w' : World} {config : FtpConfig} {e : Env}
  {α : Type}

/-- With fewer words before, with more afterwards. -/
theorem Tells.mono (h : Tells L b w) (hL : L ≤ L') : Tells L' b w :=
  ⟨h.loggedIn, h.nameFits, h.between, fun hworks ↦ hL (h.word hworks)⟩

/-- A word that can be completed. -/
theorem Tells.completable (h : Tells L b w) (hL : ∀ u ∈ L, grammar.Completes u) : Completable w :=
  ⟨h.between, fun hworks ↦ hL _ (h.word hworks)⟩

/-! ### Silent actions -/

/-- An entry that is no message, or anything else that leaves the login alone. -/
theorem Tells.silent (h : Tells L b w) {x : Item kernel} (hx : message? x = none)
    (hbetween : WordAtBoundary w.trace x) (ht : w'.trace = w.trace ++ [x])
    (hlogin : w'.st.session.login.loggedIn = w.st.session.login.loggedIn)
    (hname : w'.st.session.filename = w.st.session.filename) : Tells L b w' := by
  refine ⟨hlogin.trans h.loggedIn, by rw [NameFits, hname]; exact h.nameFits,
    ht ▸ atEach_concat.2 ⟨h.between, hbetween⟩, fun hworks ↦ ?_⟩
  have htypes : typesOf w'.trace = typesOf w.trace := by
    rw [typesOf, typesOf, messagesOf, messagesOf, ht, List.filterMap_append,
      List.filterMap_cons_none hx, List.filterMap_nil, List.append_nil]
  rw [htypes]
  exact h.word (pipeWorks_append.1 (ht ▸ hworks)).1

/-- The session may change in between. -/
theorem Tells.of_session (h : Tells L b w) (ht : w'.trace = w.trace)
    (hlogin : w'.st.session.login.loggedIn = w.st.session.login.loggedIn)
    (hname : NameFits w.st.session → NameFits w'.st.session) : Tells L b w' :=
  ⟨hlogin.trans h.loggedIn, hname h.nameFits, ht ▸ h.between, ht ▸ h.word⟩

/-- The name that `setFilename` stores fits. -/
theorem length_cstr_strlcpy_le (dst src : Bytes) (size : ℕ) :
    (cstr (strlcpy dst src size).1).length ≤ max (size - 1) (cstr dst).length := by
  have htake : ∀ n ≤ size - 1, ∀ rest : Bytes,
      (cstr (src.take n ++ nul :: rest)).length ≤ max (size - 1) (cstr dst).length := by
    intro n hn rest
    refine (congrArg List.length (cstr_append_zero' _ _)).trans_le (le_max_of_le_left ?_)
    have hle := cstr_length_le (src.take n)
    rw [List.length_take] at hle
    omega
  rw [strlcpy]
  split_ifs with hlen hlong
  · exact htake _ le_rfl _
  · exact htake _ (not_lt.1 hlong) _
  · exact le_max_right _ _

/-- No action makes the name of the file too long for its buffer. -/
theorem SessionStep.nameFits {A : Topic → Prop} {s s' : FtpSession} (h : SessionStep A s s')
    (hs : NameFits s) : NameFits s' := by
  rcases h.filename with hname | ⟨-, basename, hname⟩
  · rw [NameFits, hname]
    exact hs
  · rw [NameFits, hname]
    refine (length_cstr_strlcpy_le _ _ _).trans (max_le (by decide) hs)

theorem tells_mark {n : Note} (hn : isBoundary (.note n) = false) :
    Within (Tells L b) (fun _ ↦ Tells L b) (mark n) :=
  within_mark fun _ hw ↦ hw.silent (x := .note n) rfl (fun h ↦ by cases hn.symm.trans h) rfl rfl rfl

/-- Observations tell nothing. -/
theorem tells_observe (o : Observation) : Within (Tells L b) (fun _ ↦ Tells L b) (observe o) :=
  tells_mark rfl

theorem tells_modify {f : Process → Process}
    (hlogin : ∀ s, (f s).session.login.loggedIn = s.session.login.loggedIn)
    (hname : ∀ s, NameFits s.session → NameFits (f s).session) :
    Within (Tells L b) (fun _ ↦ Tells L b) (Proc.modify f) :=
  within_modify fun _ hw ↦ hw.of_session rfl (hlogin _) (hname _)

/-- Nor do most actions. -/
theorem tells_steps : StepLogic (· ≠ .process) (Tells L b) fun _ ↦ Tells L b where
  toCallLogic := .of_observe (guard_inv _) (by decide) (by decide)
    (fun c hc ↦ within_sys (guard_inv _) fun _ r hw ↦
      hw.silent (x := .call c r) (congrArg (·.bind Message.ofBytes) (piped?_call hc r))
        (fun h ↦ by cases h) rfl rfl rfl)
    (fun _ ↦ within_setErrno fun _ hw ↦ hw.of_session rfl rfl id) fun _ _ ↦ tells_observe _
  statePool h := absurd rfl h
  modifySession _ hf := tells_modify (fun s ↦ congrArg FtpLogin.loggedIn (hf s.session).login)
    fun s ↦ (hf s.session).nameFits
  undefined _ _ _ _ := tells_observe _

/-- Nor do handlers without a transfer, except for one message. -/
theorem tells_directories (config : FtpConfig) :
    DirectoryLogic (· ≠ .process) (fun _ ↦ True) config (Tells L b) fun _ ↦ Tells L b := by
  have hsame : ∀ f : Process → Process, (∀ s, (f s).session.login = s.session.login ∧
      (f s).session.filename = s.session.filename) →
        Within (Tells L b) (fun _ ↦ Tells L b) (Proc.modify f) := fun f hf ↦
    tells_modify (fun s ↦ congrArg FtpLogin.loggedIn (hf s).1) fun s hs ↦ by
      rw [NameFits, (hf s).2]
      exact hs
  exact .of_steps tells_steps (by decide) (fun _ _ _ ↦ tells_steps.sys _ (by simp [Call.topic]))
    (fun _ ↦ hsame _ fun _ ↦ ⟨rfl, rfl⟩) (fun _ ↦ hsame _ fun _ ↦ ⟨rfl, rfl⟩)
    (hsame _ fun _ ↦ ⟨rfl, rfl⟩) (tells_steps.trimArgument fun _ ↦ hsame _ fun _ ↦ ⟨rfl, rfl⟩)
    (tells_steps.listArgument fun _ ↦ hsame _ fun _ ↦ ⟨rfl, rfl⟩)

theorem tells_handleSignal (waiter : Waiter) :
    Within (Tells L b) (fun _ ↦ Tells L b) (serverHandleSignal waiter) :=
  tells_steps.serverHandleSignal waiter (fun _ ↦ tells_modify (fun _ ↦ rfl) fun _ ↦ id)
    (tells_mark rfl)

/-! ### Sending a message -/

/-- What is posted is told. -/
theorem typesOf_posts {ms : List Message} (h : Posts ms w w') :
    typesOf w'.trace = typesOf w.trace ++ ms.map Message.type := by
  rw [typesOf, h.messages, List.map_append, typesOf]

/-- It does not have to be a word at a boundary, if there is none. -/
theorem Posts.between {ms : List Message} (h : Posts ms w w')
    (hw : AtEach WordAtBoundary w.trace) : AtEach WordAtBoundary w'.trace := by
  refine h.unmarked.atEach (fun x hx pre hboundary ↦ ?_) hw
  rcases x with ⟨c, r⟩ | n
  · cases hboundary
  · obtain ⟨o, rfl⟩ := hx n rfl
    cases hboundary

/-- A change is told with one message, or none where it has nothing to say. -/
theorem outgoing_types (type : StateChange) (session : FtpSession) (pool : Bytes) :
    (outgoing type session pool).map Message.type = [] ∨
      (outgoing type session pool).map Message.type = [type] := by
  rw [outgoing]
  split
  · exact .inr rfl
  · exact .inl rfl

/-- Only a directory that is too long is refused. -/
theorem outgoing_eq {type : StateChange} {session : FtpSession} {pool : Bytes}
    (hname : NameFits session) (htype : type ≠ .chdir)
    (hsend : (opOf type).sendFun session pool ≠ none) :
    (outgoing type session pool).map Message.type = [type] := by
  suffices h : ∃ pool', (opOf type).sendFun session pool = some (pool', .success) by
    obtain ⟨pool', h⟩ := h
    rw [outgoing, h]
    rfl
  cases type with
  | chdir => exact absurd rfl htype
  | xferStart =>
    exact ⟨_, (sendXferStart_eq session pool).trans (by rw [if_neg (not_lt.2 hname)])⟩
  | login =>
    simp only [opOf, sendLogin] at hsend ⊢
    split
    · exact ⟨_, rfl⟩
    · split
      · exact ⟨_, rfl⟩
      · rename_i hnot _ hother
        rw [if_neg hnot] at hsend
        split at hsend
        · exact absurd ‹_› (hother _)
        · exact absurd rfl hsend
  | xfer | xferStop => exact ⟨_, rfl⟩

/-- **A message is a letter that is appended**, unless it is refused. -/
theorem sendState_tells {type : StateChange} (hsent : L * {[type]} ≤ L')
    (hrefused : type = .chdir → L ≤ L') (hw : Tells L b w) :
    wp e (sendState type) (fun _ ↦ Tells L' b) (fun _ ↦ Tells L b) w := by
  refine wp_mono (sendState_wp type) ?_ fun _ w' h ↦ ?_
  · rintro _ w' ⟨pool, ms, -, hsend, hposts, hout, -⟩
    refine ⟨hposts.session ▸ hw.loggedIn, hposts.session ▸ hw.nameFits, hposts.between hw.between,
      fun hworks ↦ ?_⟩
    have hword := hw.word (hworks.of_extends hposts.unmarked)
    rw [typesOf_posts hposts, hout hworks]
    by_cases htype : type = .chdir
    · rcases outgoing_types type w.st.session pool with h | h
      · rw [h, List.append_nil]
        exact hrefused htype hword
      · rw [h]
        exact Groups.append_mem hsent hword rfl
    · rw [outgoing_eq hw.nameFits htype hsend]
      exact Groups.append_mem hsent hword rfl
  · refine ⟨h.session ▸ hw.loggedIn, h.session ▸ hw.nameFits, h.between hw.between,
      fun hworks ↦ ?_⟩
    rw [typesOf_posts h, List.map_nil, List.append_nil]
    exact hw.word (hworks.of_extends h.unmarked)

/-- The languages that are closed under a message stay what is sent. -/
theorem tells_sendState {type : StateChange} (hsent : L * {[type]} ≤ L) :
    Within (Tells L b) (fun _ ↦ Tells L b) (sendState type) :=
  within_iff_wp.2 fun _ _ hw ↦ sendState_tells hsent (fun _ ↦ le_rfl) hw

/-! ### Transfers -/

/-- Actions that tell nothing. -/
theorem tells_keeps (hL : ∀ u ∈ L, grammar.Completes u) :
    Keeps (Tells L b) (fun _ ↦ Tells L b) (Tells L b) Completable where
  assume _ h := h
  keepInv _ _ _ h := h
  mid _ h := h.completable hL

/-- Between two transfers. -/
theorem tellsClosed_keeps (b : Bool) :
    Keeps (Tells grammar.closed b) (fun _ ↦ Tells grammar.closed b)
    (Tells grammar.closed b) Completable :=
  tells_keeps fun _ ↦ Groups.completes_of_closed

/-- And within one. -/
theorem tellsOpened_keeps : Keeps (Tells grammar.opened true) (fun _ ↦ Tells grammar.opened true)
    (Tells grammar.opened true) Completable :=
  tells_keeps fun _ ↦ Groups.completes_of_opened (c := [.xferStop]) rfl

/-- The announcement opens a transfer. -/
theorem announceTransfer_tells (hw : Tells grammar.closed true w) :
    wp e announceTransfer (fun _ ↦ Tells grammar.opened true) (fun _ ↦ Completable) w := by
  have L := tells_steps (L := grammar.closed) (b := true)
  have K := tellsClosed_keeps true
  refine K.bind (L.replyMsg (by decide) _ (by decide)) hw fun _ w₁ h₁ ↦ ?_
  refine K.bind (L.modifyInfo _ (by decide)) h₁ fun _ w₂ h₂ ↦ (wp_bind _ _).2 ?_
  exact wp_mono (sendState_tells grammar.closed_mul_opening_le (fun h ↦ by cases h) h₂)
    (fun _ _ h ↦ h) fun _ w' h ↦ K.mid w' h

/-- The end of a transfer. -/
theorem xferStop_tells {f : Program FtpRet}
    (hf : Within (Tells grammar.closed true) (fun _ ↦ Tells grammar.closed true) f)
    (hw : Tells grammar.opened true w) :
    wp e (do let _ ← sendState .xferStop; f) (fun _ ↦ Tells grammar.closed true)
      (fun _ ↦ Completable) w :=
  (wp_bind _ _).2 (wp_mono (sendState_tells grammar.opened_mul_closing_le (fun h ↦ by cases h) hw)
    (fun _ _ h ↦ (tellsClosed_keeps true).wp hf h fun _ _ h ↦ h) fun _ _ h ↦
    tellsOpened_keeps.mid _ h)

/-- The data phase reports, and closes it. -/
theorem retrData_tells (hw : Tells grammar.closed true w) (data file : Stream)
    (offset filesize : ℤ) :
    wp e (retrData config data file offset filesize) (fun _ ↦ Tells grammar.closed true)
      (fun _ ↦ Completable) w := by
  have L := tells_steps (L := grammar.opened) (b := true)
  have L' := tells_steps (L := grammar.closed) (b := true)
  have hpart := tells_sendState (b := true) grammar.opened_mul_part_le
  refine (wp_bind _ _).2 (wp_mono (announceTransfer_tells hw) (fun _ w₁ h₁ ↦ ?_) fun _ _ h ↦ h)
  refine tellsOpened_keeps.bind (tells_observe _) h₁ fun _ w₂ h₂ ↦ ?_
  refine tellsOpened_keeps.bind (L.transferFile (by decide) (tells_handleSignal _) hpart
    data file offset _ (by decide)) h₂ fun ret w₃ h₃ ↦ ?_
  refine tellsOpened_keeps.bind (L.transferReply (by decide) ret) h₃ fun _ w₄ h₄ ↦ ?_
  refine tellsOpened_keeps.bind (L.modifySession _ fun _ ↦
    ⟨rfl, rfl, rfl, .inr rfl, .inl (by decide),
    .inl (by decide), .inl rfl⟩) h₄ fun _ w₅ h₅ ↦ xferStop_tells ?_ h₅
  exact L'.bind (L'.vfsClose (by decide) _) fun _ ↦ L'.bind L'.getSession fun _ ↦
    L'.bind (L'.close (by decide) _) fun _ ↦ L'.bind L'.getSession fun _ ↦
      L'.bind (tells_observe _) fun _ ↦ L'.pure _

/-- In both directions. -/
theorem storData_tells (hw : Tells grammar.closed true w) (file data : Stream) :
    wp e (storData config file data) (fun _ ↦ Tells grammar.closed true)
      (fun _ ↦ Completable) w := by
  have L := tells_steps (L := grammar.opened) (b := true)
  have L' := tells_steps (L := grammar.closed) (b := true)
  have hpart := tells_sendState (b := true) grammar.opened_mul_part_le
  refine (wp_bind _ _).2 (wp_mono (announceTransfer_tells hw) (fun _ w₁ h₁ ↦ ?_) fun _ _ h ↦ h)
  refine tellsOpened_keeps.bind L.getSession h₁ fun _ w₂ h₂ ↦ ?_
  refine tellsOpened_keeps.bind (tells_observe _) h₂ fun _ w₃ h₃ ↦ ?_
  refine tellsOpened_keeps.bind (L.storeFile (by decide) (tells_handleSignal _) hpart file data
    (by decide)) h₃ fun ret w₄ h₄ ↦ ?_
  refine tellsOpened_keeps.bind (L.transferReply (by decide) ret) h₄ fun _ w₅ h₅ ↦ ?_
  refine tellsOpened_keeps.bind (L.modifyInfo _ (by decide)) h₅ fun _ w₆ h₆ ↦ xferStop_tells ?_ h₆
  exact L'.bind (L'.vfsClose (by decide) _) fun _ ↦ L'.bind (L'.close (by decide) _) fun _ ↦
    L'.bind L'.getSession fun _ ↦ L'.bind (tells_observe _) fun _ ↦ L'.pure _

/-! ### Commands -/

/-- The wait for the client tells nothing. -/
theorem tells_acceptDataConn : Within (Tells L b) (fun _ ↦ Tells L b) acceptDataConn :=
  tells_steps.acceptDataConn (by decide) (fun _ ↦ tells_steps.sys _ (by simp [Call.topic]))
    (tells_handleSignal _)

/-- What tells nothing leads to the same word. -/
theorem wp_tellsClosed {m : Program α}
    (hm : Within (Tells grammar.closed true) (fun _ ↦ Tells grammar.closed true) m)
    (hw : Tells grammar.closed true w) :
    wp e m (fun _ ↦ Tells grammar.closed true) (fun _ ↦ Completable) w :=
  (tellsClosed_keeps true).wp hm hw fun _ _ h ↦ h

/-- `RETR` opens and closes, or does neither. -/
theorem doretr_tells (hw : Tells grammar.closed true w) :
    wp e (doretr config) (fun _ ↦ Tells grammar.closed true) (fun _ ↦ Completable) w := by
  have L := tells_directories (L := grammar.closed) (b := true) config
  have hclose : ∀ (fd sock : ℤ) (ret : FtpRet), Within (Tells grammar.closed true)
      (fun _ ↦ Tells grammar.closed true) (do setDataSock sock; vfsClose fd; return ret) :=
    fun fd sock ret ↦ L.bind (L.setDataSock (by decide) _) fun _ ↦
      L.bind (L.vfsClose (by decide) fd) fun _ ↦ L.pure ret
  refine HandlerLogic.doretr_wp L.toHandlerLogic (tellsClosed_keeps true)
    (fun _ ↦ Tells grammar.closed true) (fun _ _ ↦ Tells grammar.closed true)
    (fun msg hmsg _ hw ↦ ?_) (fun _ hw ↦ wp_tellsClosed (L.failedVfsReply_pure (by decide) _) hw)
    (fun w hw path hpath ↦ ?_) (fun _ _ hw ↦ wp_tellsClosed tells_acceptDataConn hw)
    (fun fd _ hw ↦ wp_tellsClosed (hclose fd _ _) hw)
    (fun fd _ hw ↦ wp_tellsClosed (hclose fd _ _) hw)
    (fun fd dataFd filesize w₀ w₁ hw₀ hw₁ ↦ ?_) hw (by decide)
  · exact wp_tellsClosed (L.replyMsg_pure (by decide) _ _ (completeReply_fileRefusal msg hmsg)) hw
  · refine wp_mono (wp_tellsClosed (L.vfsCall w hw .open path trivial hpath) hw) ?_ fun _ _ h ↦ h
    rintro (_ | fd) w' h <;> exact h
  · refine (tellsClosed_keeps true).bind (L.setDataSock (by decide) _) hw₁ fun _ w₂ hw₂ ↦ ?_
    rw [retrAccepted, wp_bind, wp_getSession]
    dsimp only
    split_ifs
    · refine wp_tellsClosed (L.bind (L.vfsClose (by decide) _) fun _ ↦
        L.bind (L.close (by decide) _) fun _ ↦ ?_) hw₂
      exact L.replyFormat_pure (by decide) hw₀ (fun harg _ ↦ completeReply_tooLarge harg _ _) _
    · exact retrData_tells hw₂ _ _ _ _

/-- And so does `STOR`. -/
theorem dostor_tells (hw : Tells grammar.closed true w) :
    wp e (dostor config) (fun _ ↦ Tells grammar.closed true) (fun _ ↦ Completable) w := by
  have L := tells_directories (L := grammar.closed) (b := true) config
  have hclose : ∀ (fd : ℤ) (ret : FtpRet), Within (Tells grammar.closed true)
      (fun _ ↦ Tells grammar.closed true) (do vfsClose fd; return ret) :=
    fun fd ret ↦ L.bind (L.vfsClose (by decide) fd) fun _ ↦ L.pure ret
  refine StepLogic.dostor_wp L.toStepLogic (tellsClosed_keeps true)
    (fun _ ↦ Tells grammar.closed true) (fun _ _ ↦ Tells grammar.closed true)
    (fun msg hmsg _ hw ↦ ?_) (fun _ hw ↦ wp_tellsClosed (L.failedVfsReply_pure (by decide) _) hw)
    (fun w hw path hpath ↦ ?_) (fun _ _ hw ↦ wp_tellsClosed tells_acceptDataConn hw)
    (fun _ _ hw ↦ wp_tellsClosed (hclose _ _) hw) (fun _ _ hw ↦ wp_tellsClosed (hclose _ _) hw)
    (fun _ _ _ hw ↦ storData_tells hw _ _) hw (by decide)
  · exact wp_tellsClosed (L.replyMsg_pure (by decide) _ _ (completeReply_fileRefusal msg hmsg)) hw
  · refine wp_mono (wp_tellsClosed (L.vfsCall w hw (.creat _) path trivial hpath) hw)
      ?_ fun _ _ h ↦ h
    rintro (_ | fd) w' h <;> exact h

/-! ### The login -/

/-- To tell nothing is a word. -/
theorem silence_le_closed : (1 : Language StateChange) ≤ grammar.closed := grammar.one_le_closed

/-- Before the login nothing is told. -/
theorem tellsNothing_keeps : Keeps (Tells 1 false) (fun _ ↦ Tells 1 false) (Tells 1 false)
    Completable :=
  tells_keeps fun _ hu ↦ Groups.completes_of_closed (silence_le_closed hu)

/-- `USER` tells nothing. -/
theorem tells_douser : Within (Tells L b) (fun _ ↦ Tells L b) (douser config) :=
  tells_steps.douser (fun msg hmsg ↦ tells_steps.replyMsg (by decide) msg hmsg)
    (tells_steps.replyFormat (by decide))
    (fun _ hf ↦ tells_modify (fun _ ↦ hf.loggedIn _) fun _ ↦ id) fun _ ↦ tells_mark rfl

/-- `PASS` sends its message while nobody is logged in, hence first. -/
theorem dopass_tells (hw : Tells 1 false w) :
    wp e (dopass config) (fun _ w' ↦ Tells 1 false w' ∨ Tells grammar.closed true w')
      (fun _ ↦ Completable) w := by
  have L := tells_steps (L := 1) (b := false)
  have L' := tells_steps (L := grammar.closed) (b := true)
  have hstate : ∀ pool, Within (Tells 1 false) (fun _ ↦ Tells 1 false)
      (Proc.modify fun s : Process ↦ { s with statePool := some pool }) := fun _ ↦
    tells_modify (fun _ ↦ rfl) fun _ ↦ id
  have hvfs : ∀ rootDir, Within (Tells 1 false) (fun _ ↦ Tells 1 false) (initVfsPool rootDir) :=
    L.initVfsPool fun _ _ _ ↦ L.bind (tells_modify (fun _ ↦ rfl) fun _ ↦ id) fun _ ↦
      L.bind (tells_mark rfl) fun _ ↦ L.pure _
  have hout : ∀ {m : Program FtpRet} {w : World}, Within (Tells 1 false) (fun _ ↦ Tells 1 false) m →
      Tells 1 false w → wp e m (fun _ w' ↦ Tells 1 false w' ∨ Tells grammar.closed true w')
        (fun _ ↦ Completable) w :=
    fun hm hw ↦ tellsNothing_keeps.wp hm hw fun _ _ h ↦ .inl h
  -- `logged_in` is set once the message is out, so the word is closed then
  have hin : ∀ {m : Program FtpRet} {w : World}, Within (Tells grammar.closed true)
      (fun _ ↦ Tells grammar.closed true) m → Tells grammar.closed false w →
      wp e (do modifyLogin ({ · with loggedIn := true }); m)
        (fun _ w' ↦ Tells 1 false w' ∨ Tells grammar.closed true w') (fun _ ↦ Completable) w := by
    intro m w hm hw
    rw [modifyLogin, modifySession, wp_bind, wp_modify]
    exact (tellsClosed_keeps true).wp hm ⟨rfl, hw.nameFits, hw.between, hw.word⟩ fun _ _ h ↦ .inr h
  rw [dopass, wp_bind, wp_getSession]
  split_ifs with hlogged hanonymous
  · exact hout (L.replyMsg_pure (by decide) _ _ (by decide)) hw
  · refine tellsNothing_keeps.bind (L.replyMsg (by decide) _ (by decide)) hw fun _ w₁ h₁ ↦ ?_
    refine tellsNothing_keeps.bind (hvfs _) h₁ fun _ w₂ h₂ ↦ ?_
    refine tellsNothing_keeps.bind (L.initStatePool hstate) h₂ fun _ w₃ h₃ ↦ ?_
    exact hin (L'.bind (tells_mark rfl) fun _ ↦ L'.pure _) (h₃.mono silence_le_closed)
  split
  · exact hout (L.badUser hw) hw
  · exact hout (L.replyMsg_pure (by decide) _ _ (by decide)) hw
  · refine tellsNothing_keeps.bind (L.loginUser hstate hvfs _ _) hw fun userId w₁ h₁ ↦ ?_
    split_ifs
    · exact hout (L.replyMsg_pure (by decide) _ _ (by decide)) h₁
    refine tellsNothing_keeps.bind (L.checked (L.sysOther rfl)) h₁ fun r w₂ h₂ ↦ ?_
    rcases r with - | -
    · exact .inl h₂
    -- nothing was sent before, so this letter is the first
    · have hclosed : (1 : Language StateChange) * {[.login]} ≤ grammar.closed :=
        (one_mul _).trans_le grammar.introduction_le_closed
      refine (wp_bind _ _).2 (wp_mono (sendState_tells hclosed (fun h ↦ by cases h) h₂)
        (fun _ w₃ h₃ ↦ ?_) fun _ _ h ↦ tellsNothing_keeps.mid _ h)
      exact hin (L'.bind (tells_mark rfl) fun _ ↦ L'.replyMsg_pure (by decide) _ _ (by decide)) h₃

/-! ### A whole session -/

/-- Between two commands: nobody is logged in and nothing was sent, or a word was. -/
def Worded (w : World) : Prop := Tells 1 false w ∨ Tells grammar.closed true w

/-- At any moment the word can be completed. -/
theorem Worded.completable (h : Worded w) : Completable w := by
  rcases h with h | h
  · exact tellsNothing_keeps.mid w h
  · exact (tellsClosed_keeps true).mid w h

/-- Between two commands it is one. -/
theorem Worded.word (h : Worded w) (hworks : PipeWorks w.trace) :
    typesOf w.trace ∈ grammar.closed := by
  rcases h with h | h
  · exact silence_le_closed (h.word hworks)
  · exact h.word hworks

/-- Each command tells a part of the grammar. -/
theorem worded_handler {cmd : CmdHandler} (hcmd : cmd ∈ coreCommandList config) (hw : Worded w)
    (hlogin : cmd.needsLogin = true → w.st.session.login.loggedIn = true) :
    wp e cmd.handler (fun _ ↦ Worded) (fun _ ↦ Completable) w := by
  rcases hw with hw | hw
  · have hout : ∀ {m : Program FtpRet}, Within (Tells 1 false) (fun _ ↦ Tells 1 false) m →
        wp e m (fun _ ↦ Worded) (fun _ ↦ Completable) w :=
      fun hm ↦ tellsNothing_keeps.wp hm hw fun _ _ h ↦ .inl h
    have hneeds : cmd.needsLogin = false := by
      by_contra h
      exact absurd (hw.loggedIn.symm.trans (hlogin (by simpa using h))) (by simp)
    have hsay : ∀ (msg : String) (ret : FtpRet), CompleteReply (ofString msg) →
        wp e (do replyMsg msg; return ret) (fun _ ↦ Worded) (fun _ ↦ Completable) w :=
      fun msg ret hmsg ↦ hout (tells_steps.replyMsg_pure (by decide) msg ret hmsg)
    refine forall_public (Q := fun cmd ↦ wp e cmd.handler (fun _ ↦ Worded)
      (fun _ ↦ Completable) w) |>.2 ⟨hout (tells_steps.dofeat (by decide)), hsay _ _ (by decide),
        hsay _ _ (by decide), dopass_tells hw, hsay _ _ (by decide), hsay _ _ (by decide),
        hout tells_douser⟩ cmd hcmd hneeds
  · have L := tells_directories (L := grammar.closed) (b := true) config
    have hin : ∀ {m : Program FtpRet}, Within (Tells grammar.closed true)
        (fun _ ↦ Tells grammar.closed true) m → wp e m (fun _ ↦ Worded) (fun _ ↦ Completable) w :=
      fun hm ↦ (tellsClosed_keeps true).wp hm hw fun _ _ h ↦ .inr h
    have hword : ∀ {m : Program FtpRet}, wp e m (fun _ ↦ Tells grammar.closed true)
        (fun _ ↦ Completable) w → wp e m (fun _ ↦ Worded) (fun _ ↦ Completable) w :=
      fun hm ↦ wp_mono hm (fun _ _ h ↦ .inr h) fun _ _ h ↦ h
    have hchdir := tells_sendState (b := true) grammar.closed_mul_single_le
    refine L.forall_command (Q := fun _ h ↦ wp e h (fun _ ↦ Worded) (fun _ ↦ Completable) w)
      (by decide) trivial trivial trivial (fun _ _ h ↦ hin h) (hin tells_douser) ?_
      (hin (L.docwd (by decide) hchdir)) (hin (L.docdup (by decide) hchdir))
      (hin (L.dopasv (by decide) (by decide))) (hin (L.dorest (by decide) (by decide)))
      (hin (L.dolist (by decide) (by decide) trivial (tells_handleSignal _)))
      (hword (doretr_tells hw)) (hword (dostor_tells hw)) hcmd
    -- a second `PASS`
    rw [dopass, wp_bind, wp_getSession, if_pos hw.loggedIn]
    exact hin (L.replyMsg_pure (by decide) _ _ (by decide))

/-! ### A whole session -/

/-- So `do_cmd` leads from word to word. -/
theorem worded_doCmd (hw : Worded w) :
    wp e (doCmd config) (fun _ ↦ Worded) (fun _ ↦ Completable) w := by
  have hnoted : ∀ {w : World} (n : Note), Worded w → Worded (noted w n) := fun n hw ↦
    hw.imp (fun h ↦ h.silent (x := .note n) rfl (fun _ ↦ hw.word) rfl rfl rfl)
      fun h ↦ h.silent (x := .note n) rfl (fun _ ↦ hw.word) rfl rfl rfl
  have hsay : ∀ msg : String, CompleteReply (ofString msg) → ∀ (ret : FtpRet) (w : World),
      Worded w → wp e (do replyMsg msg; return ret) (fun _ ↦ Worded) (fun _ ↦ Completable) w := by
    rintro msg hmsg ret w (hw | hw)
    · exact tellsNothing_keeps.wp (tells_steps.replyMsg_pure (by decide) msg ret hmsg) hw
        fun _ _ h ↦ .inl h
    · exact (tellsClosed_keeps true).wp (tells_steps.replyMsg_pure (by decide) msg ret hmsg) hw
        fun _ _ h ↦ .inr h
  have hw₁ := hnoted (.dispatch (cstr w.st.session.command.line) w.st.session.command.argument) hw
  exact doCmd_wp rfl (hsay _ (by decide) _ _ hw₁)
    (fun msg hmsg ↦ hsay _ (completeReply_refusal msg hmsg) _ _ hw₁)
    (fun cmd hcmd hlogin ↦ worded_handler hcmd hw₁ hlogin) fun ret w' h ↦ hnoted (.finished ret) h

/-- What keeps both parts of the invariant keeps it. -/
theorem within_worded {m : Program α} (hm : ∀ L b, Within (Tells L b) (fun _ ↦ Tells L b) m) :
    Within Worded (fun _ ↦ Worded) m :=
  fun e w hw ↦ hw.imp (hm _ _ e w) (hm _ _ e w)

/-- The other stages of the loop tell nothing. -/
theorem worded_loop (config : FtpConfig) (e : Env) :
    LoopRule (· ≠ .process) Worded (fun _ ↦ Worded) config e Worded Completable where
  toCallLogic := .of_observe (guard_inv _) (by decide) (by decide)
    (fun c hc ↦ within_worded fun _ _ ↦ tells_steps.sys c hc)
    (fun err ↦ within_worded fun _ _ ↦ tells_steps.setErrno err)
    fun _ _ ↦ within_worded fun _ _ ↦ tells_observe _
  assume _ h := h
  keepInv _ _ _ h := h
  mid _ h := h.completable
  control := by decide
  tooLong _ _ := within_worded fun _ _ ↦ tells_steps.reply (by decide) _ _ (by decide)
  signal waiter := within_worded fun _ _ ↦ tells_handleSignal waiter
  command _ := within_worded fun _ _ ↦ tells_modify (fun _ ↦ rfl) fun _ ↦ id
  doCmd _ hw := worded_doCmd hw

/-- The end of the session closes the pipe. -/
theorem worded_endSession (sock : ℤ) : Within Worded (fun _ ↦ Worded) (endSession sock) :=
  within_worded fun _ _ ↦ tells_steps.endSession (by decide)
    (fun _ hf ↦ tells_modify (fun s ↦ by rw [(hf s).1]) fun s ↦ by rw [(hf s).1]; exact id) sock
    (tells_steps.reply (by decide) _ _ (by decide))

/-- Before there is a session, nothing is sent. -/
def NothingSent (w : World) : Prop := AtEach WordAtBoundary w.trace ∧ typesOf w.trace = []

/-- Before there is a session, nothing is sent. -/
theorem nothingSent_calls : CallLogic (· = .other) NothingSent fun _ ↦ NothingSent := by
  refine startup_calls (fun w c r hc hw ↦ ⟨atEach_concat.2 ⟨hw.1, fun h ↦ by cases h⟩, ?_⟩)
    fun _ _ hw ↦ hw
  rw [typesOf_posts (posts_answered [] (by rw [piped?_call (by simp [hc])]; rfl)), hw.2]
  rfl

/-- **The messages of a session form a word of the grammar.** In every run in which the pipe works,
what was sent is a beginning of a word, is a word wherever a command begins or ends, and is a word
when the session is over. -/
theorem ftpMain_messages (config : FtpConfig) (e : Env) (sock writePipe : ℤ) (s : Process)
    (o : Outcome Unit) (w : World)
    (hrun : ftpMain config sock writePipe e (World.start s) = (o, w)) (hworks : PipeWorks w.trace) :
    grammar.Completes (typesOf w.trace) ∧
    AtEach (fun before x ↦ isBoundary x = true → typesOf before ∈ grammar.closed) w.trace ∧
    (o = .ret () → typesOf w.trace ∈ grammar.closed) := by
  have R := worded_loop config e
  have hfits : ∀ conn line virtPath, NameFits (freshSession conn line virtPath) := fun _ _ _ ↦
    (by decide : (cstr (List.replicate ftpMaxName nul)).length ≤ ftpMaxName)
  have hspec : wp e (ftpMain config sock writePipe)
      (fun _ w ↦ Completable w ∧ (PipeWorks w.trace → typesOf w.trace ∈ grammar.closed))
      (fun _ ↦ Completable) (World.start s) := by
    refine ftpMain_ends nothingSent_calls sock writePipe Worded (fun _ _ h ↦ h)
      (fun w host client line virtPath hw _ _ ↦ .inl ⟨rfl, hfits _ _ _, hw.1, fun _ ↦ hw.2⟩)
      (fun w hw ↦ ?_) (fun w hw ↦ ?_) ⟨atEach_nil _, rfl⟩
    · have hwelcome : Within Worded (fun _ ↦ Worded) (reply sock (ofString "220 Welcome\r\n")) :=
        within_worded fun _ _ ↦ tells_steps.reply (by decide) _ _ (by decide)
      exact R.serveSession hwelcome (fun w hw ↦ R.toKeeps.wp (worded_endSession sock) hw
        fun _ _ h ↦ ⟨h.completable, h.word⟩) hw
    · have hword : typesOf w.trace ∈ grammar.closed := hw.2 ▸ silence_le_closed rfl
      have hc : Completable w := ⟨hw.1, fun _ ↦ Groups.completes_of_closed hword⟩
      exact ⟨⟨hc, fun _ ↦ hword⟩, hc⟩
  have hbetween : ∀ {w : World}, Completable w → PipeWorks w.trace →
      AtEach (fun before x ↦ isBoundary x = true → typesOf before ∈ grammar.closed) w.trace := by
    intro w hc hworks pre x post heq hx
    exact hc.between pre x post heq hx (pipeWorks_append.1 (heq ▸ hworks)).1
  rcases o with ⟨⟩ | k
  · obtain ⟨hc, hword⟩ := wp_ret hspec hrun
    exact ⟨hc.completes hworks, hbetween hc hworks, fun _ ↦ hword hworks⟩
  · have hc := wp_halt hspec hrun
    exact ⟨hc.completes hworks, hbetween hc hworks, fun h ↦ by cases h⟩

/-- A login and a download. -/
theorem ftpMain_messages_download :
    let e := clientEnv [ofString "USER a\r\nPASS b\r\nPASV\r\nRETR f\r\n"]
    let w := (ftpMain loadDefaults 4 3 e (World.start (Process.initial 1))).2
    typesOf w.trace = [.login, .xferStart, .xferStop] ∧ typesOf w.trace ∈ grammar.closed := by
  intro e w
  have hw : (ftpMain loadDefaults 4 3 e (World.start (Process.initial 1))).1 = .ret () ∧
      PipeWorks w.trace ∧ typesOf w.trace = [.login, .xferStart, .xferStop] := by
    decide +kernel
  exact ⟨hw.2.2, (ftpMain_messages loadDefaults e 4 3 (Process.initial 1) (.ret ()) w
    (run_eq hw.1) hw.2.1).2.2 rfl⟩

end FtpServer
