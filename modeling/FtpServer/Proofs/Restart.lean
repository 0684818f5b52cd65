import FtpServer.Proofs.SessionLoop
import FtpServer.Proofs.DataCommands

/-!
# The restart offset

`REST` sets the offset of the next transfer. `RETR` resets it once it has used it; `STOR` does not,
so an offset that a `STOR` begins with is there for the transfers that follow. A run uses every
offset at most once exactly if no `STOR` that comes to its end began anywhere but at 0
(`ftpMain_restart`).

* `lastTransfer` and `restPending` are read off the trace, and `UsedOnce` and `StoresFromStart` are
  stated in their terms.
* `Restartable` holds between two commands as long as nothing went wrong, and `Reused` from the
  first `STOR` on that does not begin at 0.
* `InTransfer` is what is known in the data phase; `RETR` resets the position there.
-/

namespace FtpServer

open CString Effect Effect.Proc

/-! ### What the trace says -/

/-- Whether a `REST` was accepted after the last data phase began, given whether one was before this
entry. -/
def rests (pending : Bool) : Item kernel → Bool
  | .note (.observe (.rested _)) => true
  | .note (.observe (.transfer _ _)) => false
  | _ => pending

/-- A `REST` was accepted after the last data phase began. -/
def restPending (trace : List (Item kernel)) : Bool := trace.foldl rests false

/-- The last data phase, given the one before this entry. -/
def begins (last : Option (Transfer × ℤ)) : Item kernel → Option (Transfer × ℤ)
  | .note (.observe (.transfer kind offset)) => some (kind, offset)
  | _ => last

/-- The direction of the last data phase, and where it began. -/
def lastTransfer (trace : List (Item kernel)) : Option (Transfer × ℤ) := trace.foldl begins none

/-- A data phase begins elsewhere than at 0 only after a `REST` of its own, and leaves no offset. -/
def UsedOnce (before : List (Item kernel)) : Item kernel → Prop
  | .note (.observe (.transfer _ offset)) => offset ≠ 0 → restPending before = true
  | .note (.observe (.transferred restartPos)) => restartPos = 0
  | _ => True

/-- A `STOR` that comes to its end began at 0. -/
def StoresFromStart (before : List (Item kernel)) : Item kernel → Prop
  | .note (.observe (.transferred _)) =>
    ∀ transfer ∈ lastTransfer before, transfer.1 = .stor → transfer.2 = 0
  | _ => True

instance (before : List (Item kernel)) (x : Item kernel) : Decidable (UsedOnce before x) := by
  rcases x with - | n
  · exact (inferInstance : Decidable True)
  cases n with
  | observe o =>
    cases o with
    | transfer kind offset =>
      exact (inferInstance : Decidable (offset ≠ 0 → restPending before = true))
    | transferred restartPos => exact (inferInstance : Decidable (restartPos = 0))
    | _ => exact (inferInstance : Decidable True)
  | _ => exact (inferInstance : Decidable True)

instance (before : List (Item kernel)) (x : Item kernel) :
    Decidable (StoresFromStart before x) := by
  rcases x with - | n
  · exact (inferInstance : Decidable True)
  cases n with
  | observe o =>
    cases o with
    | transferred =>
      exact (inferInstance : Decidable
        (∀ transfer ∈ lastTransfer before, transfer.1 = .stor → transfer.2 = 0))
    | _ => exact (inferInstance : Decidable True)
  | _ => exact (inferInstance : Decidable True)

/-! ### The invariant -/

/-- An entry that is about no offset. -/
def Uneventful (x : Item kernel) : Prop := ∀ o : Observation, o.topic = .restart →
  x ≠ .note (.observe o)

/-- Calls are not about the restart position. -/
theorem uneventful_call (c : Call) (r : Answer c) : Uneventful (.call c r) := fun _ _ h ↦ by
  cases h

/-- Nor are the notes about commands. -/
theorem uneventful_note {n : Note} (hn : ∀ o, n ≠ .observe o) :
    Uneventful (.note n : Item kernel) := by
  rintro o _ ⟨⟩
  exact hn o rfl

/-- Of the observations, those with the topic are. -/
theorem uneventful_observe {o : Observation} (ho : o.topic ≠ .restart) :
    Uneventful (.note (.observe o) : Item kernel) := by
  rintro _ hrestart ⟨⟩
  exact ho hrestart

section Uneventful

variable {x : Item kernel} (hx : Uneventful x)
include hx

/-- It neither sets a position nor uses it. -/
theorem Uneventful.rests (pending : Bool) : rests pending x = pending := by
  unfold FtpServer.rests
  split
  · exact absurd rfl (hx (.rested _) rfl)
  · exact absurd rfl (hx (.transfer _ _) rfl)
  · rfl

/-- It begins no transfer. -/
theorem Uneventful.begins (last : Option (Transfer × ℤ)) : begins last x = last := by
  unfold FtpServer.begins
  split
  · exact absurd rfl (hx (.transfer _ _) rfl)
  · rfl

/-- So it says nothing about a position being used twice, -/
theorem Uneventful.usedOnce (before : List (Item kernel)) : UsedOnce before x := by
  unfold UsedOnce
  split
  · exact absurd rfl (hx (.transfer _ _) rfl)
  · exact absurd rfl (hx (.transferred _) rfl)
  · trivial

/-- or about a transfer from the start. -/
theorem Uneventful.storesFromStart (before : List (Item kernel)) : StoresFromStart before x := by
  unfold StoresFromStart
  split
  · exact absurd rfl (hx (.transferred _) rfl)
  · trivial

end Uneventful

/-- What holds at every point of a run. -/
def RestartIff (w : World) : Prop := AtEach UsedOnce w.trace ↔ AtEach StoresFromStart w.trace

/-- Every offset was used once so far, and every `STOR` began at 0. -/
structure Unspoilt (w : World) : Prop where
  usedOnce : AtEach UsedOnce w.trace
  fromStart : AtEach StoresFromStart w.trace

/-- Between two commands, an offset comes from a `REST` of its own. -/
structure Restartable (w : World) : Prop extends Unspoilt w where
  pending : w.st.session.restartPos ≠ 0 → restPending w.trace = true

/-- In a transfer whose data phase began at `offset`. -/
structure InTransfer (kind : Transfer) (offset restartPos : ℤ) (w : World) : Prop
    extends Unspoilt w where
  last : lastTransfer w.trace = some (kind, offset)
  restartPos : w.st.session.restartPos = restartPos

/-- An offset was used that is not reset. -/
structure Reused (trace : List (Item kernel)) : Prop where
  notOnce : ¬AtEach UsedOnce trace
  notFromStart : ¬AtEach StoresFromStart trace

/-- A position that was used twice stays so. -/
theorem Reused.append {trace : List (Item kernel)} (h : Reused trace)
    (suffix : List (Item kernel)) : Reused (trace ++ suffix) :=
  ⟨fun hall ↦ h.notOnce hall.of_append, fun hall ↦ h.notFromStart hall.of_append⟩

/-- The invariant of the main loop. -/
def RestartInv (w : World) : Prop := Reused w.trace ∨ Restartable w

/-- A trace without a mistake, -/
theorem Unspoilt.restartIff {w : World} (h : Unspoilt w) : RestartIff w :=
  iff_of_true h.usedOnce h.fromStart

/-- and one with it, -/
theorem Reused.restartIff {w : World} (h : Reused w.trace) : RestartIff w :=
  iff_of_false h.notOnce h.notFromStart

/-- are both as the equivalence has it. -/
theorem RestartInv.restartIff {w : World} (h : RestartInv w) : RestartIff w :=
  h.elim Reused.restartIff fun h ↦ h.toUnspoilt.restartIff

/-! ### Actions that are about no offset -/

/-- `restart_pos` is as it was, and nothing happened that is about an offset. -/
structure KeepsRestart (w w' : World) : Prop where
  restartPos : w'.st.session.restartPos = w.st.session.restartPos
  uneventful : Extends Uneventful w w'

theorem keepsRestart_guard : Guard (fun _ ↦ True) KeepsRestart where
  refl w _ := ⟨rfl, .refl w⟩
  trans _ h₁ h₂ := ⟨h₂.restartPos.trans h₁.restartPos, h₁.uneventful.trans h₂.uneventful⟩
  keep _ _ := trivial

section Keep

variable {w w' : World} (hk : KeepsRestart w w')
include hk

/-- Uneventful actions make no mistake. -/
theorem Unspoilt.keep (h : Unspoilt w) : Unspoilt w' :=
  ⟨hk.uneventful.atEach (fun _ hx pre ↦ hx.usedOnce pre) h.usedOnce,
    hk.uneventful.atEach (fun _ hx pre ↦ hx.storesFromStart pre) h.fromStart⟩

/-- Nor do they change what the next transfer may find. -/
theorem Restartable.keep (h : Restartable w) : Restartable w' := by
  refine ⟨h.toUnspoilt.keep hk, fun hpos ↦ ?_⟩
  rw [restPending, hk.uneventful.foldl fun _ hx ↦ hx.rests]
  exact h.pending (hk.restartPos ▸ hpos)

/-- Nor what the current one did. -/
theorem InTransfer.keep {kind : Transfer} {offset restartPos : ℤ}
    (h : InTransfer kind offset restartPos w) : InTransfer kind offset restartPos w' := by
  refine ⟨h.toUnspoilt.keep hk, ?_, hk.restartPos.trans h.restartPos⟩
  rw [lastTransfer, hk.uneventful.foldl fun _ hx ↦ hx.begins]
  exact h.last

end Keep

/-- Notes about commands are uneventful. -/
theorem Restartable.atNote {w : World} (h : Restartable w) {n : Note} (hn : ∀ o, n ≠ .observe o) :
    Restartable (noted w n) :=
  Restartable.keep (w := w) ⟨rfl, .concat rfl (uneventful_note hn)⟩ h

theorem keepsRestart_mark {n : Note} (hn : Uneventful (.note n : Item kernel)) :
    Within (fun _ ↦ True) KeepsRestart (mark n) :=
  within_mark fun _ _ ↦ ⟨rfl, .concat rfl hn⟩

theorem keepsRestart_modify {f : Process → Process}
    (hf : ∀ s, (f s).session.restartPos = s.session.restartPos) :
    Within (fun _ ↦ True) KeepsRestart (Proc.modify f) :=
  within_modify fun w _ ↦ ⟨hf w.st, .of_eq rfl⟩

theorem keepsRestart_session {f : FtpSession → FtpSession}
    (hf : ∀ s, (f s).restartPos = s.restartPos) :
    Within (fun _ ↦ True) KeepsRestart (modifySession f) :=
  keepsRestart_modify fun s ↦ hf s.session

/-- The actions of a session are uneventful, but for those about the position. -/
theorem keepsRestart_steps : StepLogic (· ≠ .restart) (fun _ ↦ True) KeepsRestart where
  toCallLogic := .of_observe keepsRestart_guard (by decide) (by decide)
    (fun c _ ↦ within_sys keepsRestart_guard fun _ r _ ↦ ⟨rfl, .concat rfl (uneventful_call c r)⟩)
    (fun _ ↦ keepsRestart_modify fun _ ↦ rfl)
    fun _ ho ↦ keepsRestart_mark (uneventful_observe ho)
  statePool _ _ := keepsRestart_modify fun _ ↦ rfl
  modifySession _ hf := keepsRestart_session fun s ↦ (hf s).restartPos.resolve_left (absurd rfl)
  undefined _ _ o ho := by
    cases o with
    | unassigned | missingPool => exact keepsRestart_mark (uneventful_observe (by decide))
    | _ => cases ho

/-- So are all handlers but three. -/
theorem keepsRestart_handlers (config : FtpConfig) :
    TransferLogic (· ≠ .restart) (fun _ ↦ True) (fun _ ↦ True) config (fun _ ↦ True)
      KeepsRestart where
  toDirectoryLogic := .of_steps keepsRestart_steps (by decide)
    (fun _ _ _ ↦ keepsRestart_steps.sys _ (by simp [Call.topic]))
    (fun _ ↦ keepsRestart_modify fun _ ↦ rfl) (fun _ ↦ keepsRestart_session fun _ ↦ rfl)
    (keepsRestart_session fun _ ↦ rfl)
    (keepsRestart_steps.trimArgument fun _ ↦ keepsRestart_session fun _ ↦ rfl)
    (keepsRestart_steps.listArgument fun _ ↦ keepsRestart_session fun _ ↦ rfl)
  process := by decide
  name := by decide
  progress := by decide
  serverHandleSignal waiter _ := keepsRestart_steps.serverHandleSignal waiter
    (fun _ ↦ keepsRestart_modify fun _ ↦ rfl)
    (keepsRestart_mark (uneventful_note fun _ h ↦ by cases h))

/-- And the login. -/
theorem keepsRestart_login : LoginLogic (· ≠ .restart) (fun _ ↦ True) KeepsRestart where
  toStepLogic := keepsRestart_steps
  process := by decide
  rename _ _ := keepsRestart_modify fun _ ↦ rfl
  logIn := keepsRestart_modify fun _ ↦ rfl
  named _ := keepsRestart_mark (uneventful_note fun _ h ↦ by cases h)
  loggedIn _ := keepsRestart_mark (uneventful_note fun _ h ↦ by cases h)
  initVfsPool := keepsRestart_steps.initVfsPool fun _ _ _ _ _ _ ↦
    ⟨rfl, .concat rfl (uneventful_note fun _ h ↦ by cases h)⟩

/-- Uneventful actions between two transfers. -/
theorem restartable_keeps : Keeps (fun _ ↦ True) KeepsRestart Restartable RestartIff where
  assume _ _ := trivial
  keepInv _ _ h hk := h.keep hk
  mid _ h := h.toUnspoilt.restartIff

/-! ### `REST`, `RETR` and `STOR` -/

variable {config : FtpConfig} {e : Env} {w : World} {α : Type}

/-- A command that is about no offset. -/
theorem wp_restInv {m : Program α} (hm : Within (fun _ ↦ True) KeepsRestart m)
    (hw : Restartable w) : wp e m (fun _ ↦ RestartInv) (fun _ ↦ RestartIff) w :=
  restartable_keeps.wp hm hw fun _ _ h ↦ .inr h

/-- And within one. -/
theorem inTransfer_keeps {kind : Transfer} {offset restartPos : ℤ} :
    Keeps (fun _ ↦ True) KeepsRestart (InTransfer kind offset restartPos) RestartIff where
  assume _ _ := trivial
  keepInv _ _ h hk := h.keep hk
  mid _ h := h.toUnspoilt.restartIff

/-- A data phase begins. -/
theorem Restartable.transfer (hw : Restartable w) (kind : Transfer) {offset : ℤ}
    (hoffset : w.st.session.restartPos = offset) :
    InTransfer kind offset offset (noted w (.observe (.transfer kind offset))) where
  usedOnce := atEach_concat.2 ⟨hw.usedOnce, fun hne ↦ hw.pending (hoffset ▸ hne)⟩
  fromStart := atEach_concat.2 ⟨hw.fromStart, trivial⟩
  last := by simp [lastTransfer, begins]
  restartPos := hoffset

section InTransfer

variable {kind : Transfer} {offset restartPos : ℤ} (hw : InTransfer kind offset restartPos w)
include hw

/-- The end of a transfer that leaves no offset. -/
theorem InTransfer.transferred (hpos : restartPos = 0) (hstor : kind = .stor → offset = 0) :
    Restartable (noted w (.observe (.transferred w.st.session.restartPos))) where
  usedOnce := atEach_concat.2 ⟨hw.usedOnce, hw.restartPos.trans hpos⟩
  fromStart := by
    refine atEach_concat.2 ⟨hw.fromStart, fun transfer hlast hkind ↦ ?_⟩
    obtain rfl : (kind, offset) = transfer := Option.some.inj (hw.last.symm.trans hlast)
    exact hstor hkind
  pending h := absurd (hw.restartPos.trans hpos) h

/-- The end of a `STOR` that leaves the offset it began with. -/
theorem InTransfer.reused (hpos : restartPos ≠ 0) (hkind : kind = .stor) (hoffset : offset ≠ 0) :
    Reused (w.trace ++ [.note (.observe (.transferred w.st.session.restartPos))]) where
  notOnce h := hpos (hw.restartPos.symm.trans (atEach_concat.1 h).2)
  notFromStart h := hoffset ((atEach_concat.1 h).2 _ hw.last hkind)

end InTransfer

/-- `REST` sets the position, which has not been used then. -/
theorem dorest_restart (hw : Restartable w) :
    wp e dorest (fun _ ↦ RestartInv) (fun _ ↦ RestartIff) w := by
  have L := keepsRestart_handlers loadDefaults
  have hreply : Topic.reply ≠ .restart := by decide
  have hrest : ∀ (offset : ℤ) (w : World), Restartable w → wp e (do
      if offset < 0 || offset = llongMax || (← errnoIs .erange) then
        replyMsg "501-Invalid seek argument\r\n"
        replyMsg "501 Seek reset to 0\r\n"
        setRestartPos 0
      else
        replyFormat (ofString "350 Restarting transfer at " ++ fmtInt offset ++ [cr, lf])
        setRestartPos offset
        observe (.rested offset)
      return FtpRet.success) (fun _ ↦ RestartInv) (fun _ ↦ RestartIff) w := by
    intro offset w hw
    rw [wp_bind, wp_errnoIs]
    split_ifs
    · refine restartable_keeps.bind (L.replyMsg hreply _ (by decide)) hw fun _ w₁ hw₁ ↦ ?_
      refine restartable_keeps.bind (L.replyMsg hreply _ (by decide)) hw₁ fun _ w₂ hw₂ ↦ ?_
      exact .inr ⟨⟨hw₂.usedOnce, hw₂.fromStart⟩, fun h ↦ absurd rfl h⟩
    · have hformat := L.replyFormat hreply w trivial
        (ofString "350 Restarting transfer at " ++ fmtInt offset ++ [cr, lf])
        fun _ _ ↦ completeReply_rest _
      refine restartable_keeps.bind hformat hw fun _ w₁ hw₁ ↦ ?_
      exact .inr ⟨⟨atEach_concat.2 ⟨hw₁.usedOnce, trivial⟩,
        atEach_concat.2 ⟨hw₁.fromStart, trivial⟩⟩, fun _ ↦ by simp [restPending, rests]⟩
  refine restartable_keeps.bind L.trimArgument hw fun strpos w₁ hw₁ ↦ ?_
  dsimp only
  split_ifs
  · exact restartable_keeps.bind (L.setErrno _) hw₁ fun _ w₂ hw₂ ↦ hrest _ w₂ hw₂
  · exact hrest _ w₁ hw₁

/-- `RETR` resets the offset. -/
theorem retrData_restart (hw : Restartable w) (data file : Stream) {offset : ℤ}
    (hoffset : w.st.session.restartPos = offset) (filesize : ℤ) :
    wp e (retrData config data file offset filesize) (fun _ ↦ RestartInv)
      (fun _ ↦ RestartIff) w := by
  have L := keepsRestart_handlers config
  have hreply : Topic.reply ≠ .restart := by decide
  have hdesc : Topic.descriptor ≠ .restart := by decide
  have hannounce := (L.announceTransfer hreply).wp (e := e) (w := w) trivial
  refine (wp_bind _ _).2 (wp_mono hannounce (fun _ w₁ h₁ ↦ ?_) fun _ _ h ↦
    (hw.keep h).toUnspoilt.restartIff)
  have hw₂ := (hw.keep h₁).transfer .retr (h₁.restartPos.trans hoffset)
  refine (wp_bind _ _).2 ?_
  refine inTransfer_keeps.bind (L.transferFile trivial _ _ _ _) hw₂ fun ret w₃ hw₃ ↦ ?_
  refine inTransfer_keeps.bind (L.transferReply hreply ret) hw₃ fun _ w₄ hw₄ ↦ ?_
  rw [modifySession, wp_bind, wp_modify]
  have hw₅ : InTransfer .retr offset 0 { w₄ with st := { w₄.st with session := {
      w₄.st.session with
        info := { w₄.st.session.info with
          totalDown := w₄.st.session.info.totalDown + w₄.st.session.info.xferLen
          xferStatus := ret.code }
        restartPos := 0 } } } := ⟨⟨hw₄.usedOnce, hw₄.fromStart⟩, hw₄.last, rfl⟩
  refine inTransfer_keeps.bind (L.sendState L.process _) hw₅ fun _ w₆ hw₆ ↦ ?_
  refine inTransfer_keeps.bind (L.vfsClose hdesc _) hw₆ fun _ w₇ hw₇ ↦ ?_
  rw [wp_bind, wp_getSession]
  refine inTransfer_keeps.bind (L.close hdesc _) hw₇ fun _ w₈ hw₈ ↦ ?_
  exact .inr (hw₈.transferred rfl (by simp))

/-- `RETR` uses it and sets it back. -/
theorem retrAccepted_restart (hw : Restartable w) (w₀ : World) (filesize : ℤ) (fd dataFd : ℕ) :
    wp e (retrAccepted config (findBasename w₀.st.session.command.argument) filesize fd dataFd)
      (fun _ ↦ RestartInv) (fun _ ↦ RestartIff) w := by
  have L := keepsRestart_handlers config
  have hdesc : Topic.descriptor ≠ .restart := by decide
  rw [retrAccepted, wp_bind, wp_getSession]
  dsimp only
  by_cases hlarge : w.st.session.restartPos > filesize
  · rw [if_pos hlarge]
    have hformat := L.replyFormat_pure (by decide) (w := w₀) trivial
      (fun harg _ ↦ completeReply_tooLarge harg w.st.session.restartPos filesize) FtpRet.success
    exact wp_restInv (L.bind (L.vfsClose hdesc _) fun _ ↦ L.bind (L.close hdesc _) fun _ ↦
      hformat) hw
  · rw [if_neg hlarge]
    exact retrData_restart hw _ _ rfl _

/-- `STOR` leaves the offset it began with. -/
theorem storData_restart (hw : Restartable w) (file data : Stream) :
    wp e (storData config file data) (fun _ ↦ RestartInv) (fun _ ↦ RestartIff) w := by
  have L := keepsRestart_handlers config
  have hreply : Topic.reply ≠ .restart := by decide
  have hdesc : Topic.descriptor ≠ .restart := by decide
  refine restartable_keeps.bind (L.announceTransfer hreply) hw fun _ w₁ hw₁ ↦ ?_
  rw [wp_bind, wp_getSession]
  have hw₂ := hw₁.transfer .stor rfl
  refine (wp_bind _ _).2 ?_
  refine inTransfer_keeps.bind (L.storeFile trivial _ _) hw₂ fun ret w₃ hw₃ ↦ ?_
  refine inTransfer_keeps.bind (L.transferReply hreply ret) hw₃ fun _ w₄ hw₄ ↦ ?_
  refine inTransfer_keeps.bind (L.modifyInfo _ (by decide)) hw₄ fun _ w₅ hw₅ ↦ ?_
  refine inTransfer_keeps.bind (L.sendState L.process _) hw₅ fun _ w₆ hw₆ ↦ ?_
  refine inTransfer_keeps.bind (L.vfsClose hdesc _) hw₆ fun _ w₇ hw₇ ↦ ?_
  refine inTransfer_keeps.bind (L.close hdesc _) hw₇ fun _ w₈ hw₈ ↦ ?_
  by_cases hstart : w₁.st.session.restartPos = 0
  · exact .inr (hw₈.transferred hstart fun _ ↦ hstart)
  · exact .inl (hw₈.reused hstart rfl hstart)

/-- To open a file is uneventful. -/
theorem wp_open_restart {op : PathOp} {path : Bytes} (hpath : nul ∉ path) (hw : Restartable w) :
    wp e (vfsCall op (cstr w.st.session.virtPath) path) (fun _ ↦ Restartable) (fun _ ↦ RestartIff)
      w :=
  restartable_keeps.wp ((keepsRestart_handlers loadDefaults).vfsCall w trivial op path
    trivial hpath) hw fun _ _ h ↦ h

/-- So after `RETR` the next transfer starts at zero. -/
theorem doretr_restart (hw : Restartable w) :
    wp e (doretr config) (fun _ ↦ RestartInv) (fun _ ↦ RestartIff) w := by
  have L := keepsRestart_handlers config
  have hreply : Topic.reply ≠ .restart := by decide
  have hdesc : Topic.descriptor ≠ .restart := by decide
  have hclose : ∀ (fd sock : ℤ) (ret : FtpRet), Within (fun _ ↦ True) KeepsRestart
      (do setDataSock sock; vfsClose fd; return ret) := fun fd sock ret ↦
    L.bind (L.setDataSock hdesc _) fun _ ↦ L.bind (L.vfsClose hdesc fd) fun _ ↦ L.pure ret
  refine L.doretr_wp restartable_keeps (fun _ ↦ Restartable) (fun _ _ ↦ Restartable)
    (fun msg hmsg _ hw ↦ ?_) (fun _ hw ↦ wp_restInv (L.failedVfsReply_pure hreply _) hw)
    (fun w hw path hpath ↦ ?_) (fun _ _ hw ↦ ?_) (fun _ _ hw ↦ wp_restInv (hclose _ _ _) hw)
    (fun _ _ hw ↦ wp_restInv (hclose _ _ _) hw) (fun fd dataFd filesize w₀ _ _ hw ↦ ?_)
    hw (by decide)
  · exact wp_restInv (L.replyMsg_pure hreply _ _ (completeReply_fileRefusal msg hmsg)) hw
  · refine wp_mono (wp_open_restart hpath hw) (fun r _ hw ↦ ?_) fun _ _ h ↦ h
    rcases r with - | fd <;> exact hw
  · exact restartable_keeps.wp (L.acceptDataConn hreply hdesc trivial) hw fun _ _ h ↦ h
  · exact restartable_keeps.bind (L.setDataSock hdesc _) hw fun _ _ hw ↦
      retrAccepted_restart hw w₀ filesize fd dataFd

/-- `STOR` uses it and leaves it; if it is not zero, the next transfer reuses it. -/
theorem dostor_restart (hw : Restartable w) :
    wp e (dostor config) (fun _ ↦ RestartInv) (fun _ ↦ RestartIff) w := by
  have L := keepsRestart_handlers config
  have hreply : Topic.reply ≠ .restart := by decide
  have hdesc : Topic.descriptor ≠ .restart := by decide
  have hclose : ∀ (fd : ℤ) (ret : FtpRet), Within (fun _ ↦ True) KeepsRestart
      (do vfsClose fd; return ret) := fun fd ret ↦ L.bind (L.vfsClose hdesc fd) fun _ ↦ L.pure ret
  refine L.dostor_wp restartable_keeps (fun _ ↦ Restartable) (fun _ _ ↦ Restartable)
    (fun msg hmsg _ hw ↦ ?_) (fun _ hw ↦ wp_restInv (L.failedVfsReply_pure hreply _) hw)
    (fun w hw path hpath ↦ ?_) (fun _ _ hw ↦ ?_) (fun _ _ hw ↦ wp_restInv (hclose _ _) hw)
    (fun _ _ hw ↦ wp_restInv (hclose _ _) hw) (fun _ _ _ hw ↦ storData_restart hw _ _)
    hw (by decide)
  · exact wp_restInv (L.replyMsg_pure hreply _ _ (completeReply_fileRefusal msg hmsg)) hw
  · refine wp_mono (wp_open_restart hpath hw) (fun r _ hw ↦ ?_) fun _ _ h ↦ h
    rcases r with - | fd <;> exact hw
  · exact restartable_keeps.wp (L.acceptDataConn hreply hdesc trivial) hw fun _ _ h ↦ h

/-! ### Sessions -/

/-- The other commands are uneventful. -/
theorem handler_restart {cmd : CmdHandler} (hcmd : cmd ∈ coreCommandList config)
    (hw : Restartable w) : wp e cmd.handler (fun _ ↦ RestartInv) (fun _ ↦ RestartIff) w := by
  have L := keepsRestart_handlers config
  have hreply : Topic.reply ≠ .restart := by decide
  have hdesc : Topic.descriptor ≠ .restart := by decide
  refine L.forall_handler (Q := fun h ↦ ∀ w, Restartable w →
    wp e h (fun _ ↦ RestartInv) (fun _ ↦ RestartIff) w) hreply trivial trivial trivial
    (fun _ h _ hw ↦ wp_restInv h hw) (fun _ hw ↦ ?_) (fun _ hw ↦ ?_) (fun _ hw ↦ ?_)
    (fun _ hw ↦ dorest_restart hw) (fun _ hw ↦ ?_) (fun _ hw ↦ doretr_restart hw)
    (fun _ hw ↦ dostor_restart hw) hcmd w hw
  · exact wp_restInv (keepsRestart_login.douser hreply) hw
  · exact wp_restInv (keepsRestart_login.dopass hreply) hw
  · exact wp_restInv (L.dopasv hreply hdesc) hw
  · exact wp_restInv (L.dolist hreply hdesc trivial trivial) hw

/-- So each command leaves a session that may restart, or a mistake. -/
theorem doCmd_restart (hw : Restartable w) :
    wp e (doCmd config) (fun _ ↦ RestartInv) (fun _ ↦ RestartIff) w := by
  have L := keepsRestart_steps
  have hreply : Topic.reply ≠ .restart := by decide
  have hw₁ := hw.atNote (n := .dispatch (cstr w.st.session.command.line)
    w.st.session.command.argument) fun _ h ↦ by cases h
  refine doCmd_wp rfl (wp_restInv (L.replyMsg_pure hreply _ _ (by decide)) hw₁) (fun msg hmsg ↦ ?_)
    (fun cmd hcmd _ ↦ handler_restart hcmd hw₁) fun ret w₂ hw₂ ↦ ?_
  · exact wp_restInv (L.replyMsg_pure hreply msg _ (completeReply_refusal msg hmsg)) hw₁
  · exact hw₂.imp (·.append _) (·.atNote fun _ h ↦ by cases h)

/-- Between two commands nothing happens. -/
theorem RestartInv.keep {w' : World} (hw : RestartInv w) (hk : KeepsRestart w w') :
    RestartInv w' := by
  rcases hw with hw | hw
  · obtain ⟨suffix, ht, -⟩ := hk.uneventful
    exact .inl (ht ▸ hw.append suffix)
  · exact .inr (hw.keep hk)

/-- After a mistake nothing can be made worse. -/
theorem wp_reused {m : Program α}
    (hm : Within (fun w : World ↦ Reused w.trace) (fun _ w' ↦ Reused w'.trace) m)
    (hw : Reused w.trace) : wp e m (fun _ ↦ RestartInv) (fun _ ↦ RestartIff) w :=
  wp_mono (hm.wp hw) (fun _ _ h ↦ .inl h) fun _ _ h ↦ Reused.restartIff h

/-- Each part of a session is as the equivalence has it. -/
theorem restart_session (config : FtpConfig) (sock : ℤ) (e : Env) :
    SessionRule (· ≠ .restart) (fun _ ↦ True) KeepsRestart config sock e RestartInv RestartIff where
  toCallLogic := keepsRestart_steps.toCallLogic
  assume _ _ := trivial
  keepInv _ _ hw hk := hw.keep hk
  mid _ hw := hw.restartIff
  control := by decide
  welcome := keepsRestart_steps.reply (by decide) _ _ (by decide)
  tooLong _ _ := keepsRestart_steps.reply (by decide) _ _ (by decide)
  signal waiter := (keepsRestart_handlers config).serverHandleSignal waiter trivial
  command _ := keepsRestart_session fun _ ↦ rfl
  doCmd _ hw := by
    rcases hw with hw | hw
    · exact wp_reused (persists_doCmd (fun _ x _ h ↦ h.append [x]) config) hw
    · exact doCmd_restart hw
  endSession w hw := by
    have hend : Within (fun _ ↦ True) KeepsRestart (endSession sock) :=
      keepsRestart_steps.endSession (by decide)
        (fun f hf ↦ keepsRestart_modify fun s ↦ congrArg FtpSession.restartPos (hf s).1) sock
        (keepsRestart_steps.reply (by decide) _ _ (by decide))
    exact wp_mono (hend.wp trivial) (fun _ _ h ↦ (hw.keep h).restartIff) fun _ _ h ↦
      (hw.keep h).restartIff

/-- **An offset is used at most once, if every `STOR` begins at 0.** In a run of a session, a data
phase begins elsewhere than at 0 only after a `REST` of its own, and leaves `restart_pos` 0, exactly
if every `STOR` that comes to its end began at 0. -/
theorem ftpMain_restart (config : FtpConfig) (sock writePipe : ℤ) (e : Env) (s : Process) :
    let trace := (ftpMain config sock writePipe e (World.start s)).2.trace
    AtEach UsedOnce trace ↔ AtEach StoresFromStart trace := by
  have hcalls : CallLogic (· = .other) Unspoilt fun _ ↦ Unspoilt :=
    startup_calls (fun _ c r _ hw ↦ ⟨atEach_concat.2 ⟨hw.usedOnce, trivial⟩,
      atEach_concat.2 ⟨hw.fromStart, trivial⟩⟩) fun _ _ hw ↦ ⟨hw.usedOnce, hw.fromStart⟩
  refine wp_always.1 (ftpMain_wp hcalls sock writePipe RestartInv (T := RestartIff)
    ?_ ?_ ?_ ?_ ⟨atEach_nil _, atEach_nil _⟩)
  · exact fun _ _ hw ↦ ⟨hw.usedOnce, hw.fromStart⟩
  · exact fun _ _ _ _ _ hw _ _ ↦ .inr ⟨⟨hw.usedOnce, hw.fromStart⟩, fun h ↦ absurd rfl h⟩
  · exact fun _ hw ↦ (restart_session config sock e).serveSession hw
  · exact fun _ hw ↦ hw.restartIff

/-- A client that uploads one file from position 5 on, and then another. -/
def resumingClient : Env :=
  clientEnv [ofString "USER anonymous\r\nPASS x\r\nPASV\r\nREST 5\r\nSTOR f\r\n",
    ofString "STOR g\r\n"]

/-- The first upload leaves its offset to the second. -/
theorem resumingClient_reuses :
    ¬AtEach UsedOnce
      (ftpMain { loadDefaults with anonRootDir := some (ofString "/srv") } 4 5 resumingClient
        (World.start (Process.initial 1))).2.trace := by
  decide +kernel

end FtpServer
