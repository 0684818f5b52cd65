import FtpServer.Proofs.DataCommands
import FtpServer.Proofs.Descriptors
import FtpServer.Proofs.Replies
import FtpServer.Proofs.StatePipe

/-!
# The name of the file that is transferred

`RETR` and `STOR` keep the last component of their argument in `session->filename`, and tell it to
the master. They copy one byte less than they allow, so a name of 255 bytes loses its last one; and
`strlcpy` copies no empty string, so behind an empty component there is what was there before
(`handler_names`).

* `namesOf` are the names that the messages of a run say, and `starts` marks where a transfer
  begins; `NamedRight` compares both with the component that they should have.
* `sendState_xferStart` says that the message has the name that the session keeps. What the pool
  held before shows through if that is empty.
* `KeepsUnstarted` and `KeepsName` are the actions in front of the transfer and in it.
-/

namespace FtpServer

open CString Effect Effect.Proc

/-! ### What the trace says -/

/-- A message that was handed to the pipe, whether or not it got through. -/
def offered? : Item kernel → Option Message
  | .call (.writev _ head body) _ => Message.ofBytes (head ++ body)
  | _ => none

/-- The name that `recv_xfer_start` reads in the body of its message. -/
def nameIn (body : Bytes) : Bytes := cstr (body.set (ftpMaxName - 1) nul)

/-- The file name that a message says. -/
def startName? (x : Item kernel) : Option Bytes :=
  (offered? x).bind fun m ↦ if m.type = .xferStart then some (nameIn m.body) else none

/-- The file names that were sent to the master. -/
def namesOf (trace : List (Item kernel)) : List Bytes := trace.filterMap startName?

/-- A transfer starts. -/
def starts : Item kernel → Bool
  | .note (.observe (.transfer _ _)) => true
  | _ => false

/-- In a run that starts a transfer, `component` is the name that the session keeps, and the one
that the master is told. -/
structure NamedRight (component : Bytes) (run : List (Item kernel)) (w' : World) : Prop where
  filename : cstr w'.st.session.filename = component
  told : namesOf run ≠ []
  names : ∀ name ∈ namesOf run, name = component

/-! ### Actions that leave the names alone -/

variable {e : Env} {w w' : World} {config : FtpConfig} {S : Bytes → Prop}

/-- The name is kept, and only names in `S` are told. -/
def KeepsName (S : Bytes → Prop) (w w' : World) : Prop :=
  w'.st.session.filename = w.st.session.filename ∧
    Extends (fun x ↦ ∀ name ∈ startName? x, S name) w w'

/-- No name is told, no transfer starts, and no message is composed. -/
structure KeepsUnstarted (w w' : World) : Prop where
  filename : w'.st.session.filename = w.st.session.filename
  statePool : w'.st.statePool = w.st.statePool
  unstarted : Extends (fun x ↦ startName? x = none ∧ starts x = false) w w'

theorem keepsName_guard : Guard (fun _ ↦ True) (KeepsName S) where
  refl w _ := ⟨rfl, .refl w⟩
  trans _ h₁ h₂ := ⟨h₂.1.trans h₁.1, h₁.2.trans h₂.2⟩
  keep _ _ := trivial

theorem keepsUnstarted_guard : Guard (fun _ ↦ True) KeepsUnstarted where
  refl w _ := ⟨rfl, rfl, .refl w⟩
  trans _ h₁ h₂ := ⟨h₂.1.trans h₁.1, h₂.2.trans h₁.2, h₁.3.trans h₂.3⟩
  keep _ _ := trivial

/-- Only calls that write to the pipe tell a name. -/
theorem startName?_call {c : Call} (hc : c.topic ≠ .process) (r : Answer c) :
    startName? (.call c r) = none := by
  cases c with
  | writev => exact absurd rfl hc
  | _ => rfl

/-- Only one observation starts a transfer. -/
theorem starts_observe {o : Observation} (ho : o.topic ≠ .restart) :
    starts (.note (.observe o)) = false := by
  cases o with
  | transfer => exact absurd rfl ho
  | _ => rfl

theorem keepsName_modify {f : Process → Process}
    (hf : ∀ s, (f s).session.filename = s.session.filename) :
    Within (fun _ ↦ True) (KeepsName S) (Proc.modify f) :=
  within_modify fun w _ ↦ ⟨hf w.st, .of_eq rfl⟩

theorem keepsUnstarted_modify {f : Process → Process}
    (hf : ∀ s, (f s).session.filename = s.session.filename ∧ (f s).statePool = s.statePool) :
    Within (fun _ ↦ True) KeepsUnstarted (Proc.modify f) :=
  within_modify fun w _ ↦ ⟨(hf w.st).1, (hf w.st).2, .of_eq rfl⟩

/-- An action that is not about names leaves the name of the file. -/
theorem SessionStep.filename_eq {A : Topic → Prop} {s s' : FtpSession} (h : SessionStep A s s')
    (hA : ¬A .name) : s'.filename = s.filename :=
  h.filename.resolve_right fun hname ↦ hA hname.1

/-- A topic that says no name. -/
abbrev NoName (t : Topic) : Prop := t ≠ .name ∧ t ≠ .process

/-- A topic that starts no transfer, either. -/
abbrev NoStart (t : Topic) : Prop := t ≠ .name ∧ t ≠ .process ∧ t ≠ .restart

/-- So do most actions. -/
theorem keepsName_steps : StepLogic NoName (fun _ ↦ True) (KeepsName S) where
  toCallLogic := .of_observe keepsName_guard (by decide) (by decide)
    (fun c hc ↦ within_sys keepsName_guard fun _ r _ ↦
      ⟨rfl, .concat (x := .call c r) rfl fun name h ↦ by
        cases (startName?_call hc.2 r).symm.trans h⟩)
    (fun _ ↦ within_setErrno fun _ _ ↦ ⟨rfl, .of_eq rfl⟩)
    fun o _ ↦ within_mark fun _ _ ↦ ⟨rfl, .concat (x := .note (.observe o)) rfl nofun⟩
  statePool h := absurd rfl h.2
  modifySession _ hf := keepsName_modify fun s ↦ (hf s.session).filename_eq (by decide)
  undefined _ _ o _ := within_mark fun _ _ ↦ ⟨rfl, .concat (x := .note (.observe o)) rfl nofun⟩

/-- Before the data phase nothing starts. -/
theorem keepsUnstarted_steps : StepLogic NoStart (fun _ ↦ True) KeepsUnstarted where
  toCallLogic := .of_observe keepsUnstarted_guard (by decide) (by decide)
    (fun c hc ↦ within_sys keepsUnstarted_guard fun _ r _ ↦
      ⟨rfl, rfl, .concat (x := .call c r) rfl ⟨startName?_call hc.2.1 r, rfl⟩⟩)
    (fun _ ↦ within_setErrno fun _ _ ↦ ⟨rfl, rfl, .of_eq rfl⟩)
    fun o ho ↦ within_mark fun _ _ ↦
      ⟨rfl, rfl, .concat (x := .note (.observe o)) rfl ⟨rfl, starts_observe ho.2.2⟩⟩
  statePool h := absurd rfl h.2.1
  modifySession _ hf := keepsUnstarted_modify fun s ↦
    ⟨(hf s.session).filename_eq (by decide), rfl⟩
  undefined w _ o ho := within_mark fun _ _ ↦ ⟨rfl, rfl, .concat (x := .note (.observe o)) rfl
    ⟨rfl, by cases o <;> first | rfl | exact absurd ho id⟩⟩

/-- Neither do the handlers start anything by themselves. -/
theorem keepsUnstarted_handlers (config : FtpConfig) :
    HandlerLogic NoStart (fun _ ↦ True) config (fun _ ↦ True) KeepsUnstarted :=
  .of_steps keepsUnstarted_steps (by decide)
    (fun _ _ _ ↦ keepsUnstarted_steps.sys _ (by simp [Call.topic, NoStart]))
    (fun _ ↦ keepsUnstarted_modify fun _ ↦ ⟨rfl, rfl⟩)
    (keepsUnstarted_steps.trimArgument fun _ ↦ keepsUnstarted_modify fun _ ↦ ⟨rfl, rfl⟩)

theorem keepsName_handleSignal (waiter : Waiter) :
    Within (fun _ ↦ True) (KeepsName S) (serverHandleSignal waiter) :=
  keepsName_steps.serverHandleSignal waiter (fun _ ↦ keepsName_modify fun _ ↦ rfl)
    (within_mark fun _ _ ↦ ⟨rfl, .concat (x := .note (.quit waiter)) rfl nofun⟩)

/-- Nor does the wait for the client. -/
theorem keepsUnstarted_acceptDataConn :
    Within (fun _ ↦ True) KeepsUnstarted acceptDataConn :=
  keepsUnstarted_steps.acceptDataConn (by decide)
    (fun _ ↦ keepsUnstarted_steps.sys _ (by simp [Call.topic, NoStart]))
    (keepsUnstarted_steps.serverHandleSignal _
      (fun _ ↦ keepsUnstarted_modify fun _ ↦ ⟨rfl, rfl⟩)
      (within_mark fun _ _ ↦ ⟨rfl, rfl, .concat rfl ⟨rfl, rfl⟩⟩))

/-- The messages of another type. -/
theorem keepsName_sendState {type : StateChange} (htype : type ≠ .xferStart) :
    Within (fun _ ↦ True) (KeepsName S) (sendState type) := by
  refine keepsName_steps.sendState_of (fun _ ↦ keepsName_modify fun _ ↦ rfl) fun pid pipe body ↦
    within_sys keepsName_guard fun _ r _ ↦ ⟨rfl, .concat rfl fun name h ↦ ?_⟩
  have hmsg : Message.ofBytes ((FtpState.mk pid stateMagic type.code).image ++ body) =
      some ⟨type, body⟩ := Message.ofBytes_bytes pid ⟨type, body⟩
  simp [startName?, offered?, hmsg, htype] at h

/-- All names may be told. -/
theorem keepsName_sendAny (type : StateChange) :
    Within (fun _ ↦ True) (KeepsName fun _ ↦ True) (sendState type) :=
  keepsName_steps.sendState_of (fun _ ↦ keepsName_modify fun _ ↦ rfl) fun _ _ _ ↦
    within_sys keepsName_guard fun _ _ _ ↦ ⟨rfl, .concat rfl fun _ _ ↦ trivial⟩

/-! ### The message with the name -/

/-- The name that `send_xfer_start` sends: an empty one leaves the pool as it is. -/
def sentName (filename pool : Bytes) : Bytes :=
  nameIn ((strlcpy pool (cstr filename) ftpMaxName).1.take ftpMaxName)

/-- The name was told, and only that one. -/
structure NameTold (name : Bytes) (w w' : World) : Prop where
  filename : w'.st.session.filename = w.st.session.filename
  names : ∃ run, w'.trace = w.trace ++ run ∧ namesOf run ≠ [] ∧ ∀ n ∈ namesOf run, n = name

/-- Names are told in order. -/
theorem namesOf_append (run run' : List (Item kernel)) :
    namesOf (run ++ run') = namesOf run ++ namesOf run' := List.filterMap_append

/-- A trace that tells no name. -/
theorem namesOf_eq_nil {run : List (Item kernel)} (h : ∀ x ∈ run, ∀ name ∈ startName? x, False) :
    namesOf run = [] :=
  List.filterMap_eq_nil_iff.2 fun x hx ↦ Option.eq_none_iff_forall_not_mem.2 (h x hx)

/-- What comes later tells no other. -/
theorem NameTold.keep {name : Bytes} {w'' : World} (h : NameTold name w w')
    (hk : KeepsName (fun _ ↦ False) w' w'') : NameTold name w w'' := by
  obtain ⟨run, ht, hne, hall⟩ := h.names
  obtain ⟨run', ht', hnone⟩ := hk.2
  refine ⟨hk.1.trans h.filename, run ++ run', by rw [ht', ht, List.append_assoc], ?_⟩
  rw [namesOf_append, namesOf_eq_nil hnone, List.append_nil]
  exact ⟨hne, hall⟩

/-- And what came before told none. -/
theorem NameTold.behind {name : Bytes} {w'' : World} (h : NameTold name w' w'')
    (hk : KeepsName (fun _ ↦ False) w w') : NameTold name w w'' := by
  obtain ⟨run, ht, hne, hall⟩ := h.names
  obtain ⟨run', ht', hnone⟩ := hk.2
  refine ⟨h.filename.trans hk.1, run' ++ run, by rw [ht, ht', List.append_assoc], ?_⟩
  rw [namesOf_append, namesOf_eq_nil hnone, List.nil_append]
  exact ⟨hne, hall⟩

/-- The body of this message is read as a C string. -/
theorem startName?_writev (pid : Int32) (pipe : ℤ) (body : Bytes)
    (r : Answer (.writev pipe (FtpState.mk pid stateMagic StateChange.xferStart.code).image body)) :
    startName? (.call (.writev pipe (FtpState.mk pid stateMagic
      StateChange.xferStart.code).image body) r) = some (nameIn body) := by
  have hmsg := Message.ofBytes_bytes pid ⟨.xferStart, body⟩
  rw [Message.bytes] at hmsg
  simp [startName?, offered?, hmsg]

/-- The loop around `writev` hands over its message at least once. -/
theorem writevAll_tells (pid : Int32) (pipe : ℤ) (body : Bytes) :
    wp e (writevAll pipe (FtpState.mk pid stateMagic StateChange.xferStart.code).image body)
      (fun _ ↦ NameTold (nameIn body) w) (fun _ _ ↦ True) w := by
  -- so far, only this name was told
  refine wp_loop (fun _ w₁ ↦ w₁.st.session.filename = w.st.session.filename ∧
    ∃ run, w₁.trace = w.trace ++ run ∧ ∀ n ∈ namesOf run, n = nameIn body) ?_
    (fun _ _ _ ↦ trivial) ⟨rfl, [], by simp, by simp [namesOf]⟩
  rintro - w₁ ⟨hname, run, ht, hall⟩
  refine (wp_bind _ _).2 (wp_checked.2 (wp_sys (fun r _ ↦ ?_) trivial))
  have htold : NameTold (nameIn body) w (answered w₁ _ r) := by
    refine ⟨hname, run ++ [.call _ r], by rw [answered_trace, ht, List.append_assoc], ?_⟩
    rw [namesOf_append, namesOf, namesOf,
      List.filterMap_cons_some (startName?_writev pid pipe body r)]
    refine ⟨by simp, fun n hn ↦ ?_⟩
    rcases List.mem_append.1 hn with hn | hn
    · exact hall n hn
    · simpa using hn
  rcases r.val with err | ⟨⟩
  · simp only [wp_bind, wp_errnoIs]
    obtain ⟨run', ht', hne, hall'⟩ := htold.names
    split_ifs
    · exact ⟨htold.filename, run', ht', hall'⟩
    · exact ⟨htold.filename, run', ht', hne, hall'⟩
  · exact htold

/-- **The message says the name that the session keeps**, or what was left in the pool. -/
theorem sendState_xferStart (hfits : (cstr w.st.session.filename).length ≤ ftpMaxName) :
    wp e (sendState .xferStart)
      (fun _ w' ↦ ∃ pool, w.st.statePool = some pool ∧
        NameTold (sentName w.st.session.filename pool) w w') (fun _ _ ↦ True) w := by
  rw [sendState, wp_bind, wp_get, find?_type]
  rcases hpool : w.st.statePool with - | pool
  · exact trivial
  have hsend : (opOf .xferStart).sendFun w.st.session pool =
      some ((strlcpy pool (cstr w.st.session.filename) ftpMaxName).1, .success) :=
    (sendXferStart_eq w.st.session pool).trans (by rw [if_neg (not_lt.2 hfits)])
  dsimp only
  simp only [hsend]
  rw [wp_bind, wp_modify, if_neg (by decide)]
  refine wp_mono (writevAll_tells _ _ _) (fun _ w' h ↦ ?_) fun _ _ _ ↦ trivial
  exact ⟨pool, rfl, h.behind ⟨rfl, .of_eq rfl⟩⟩

/-! ### A transfer -/

/-- From `w` on, a transfer took place. -/
structure TransferNamed (w w' : World) : Prop where
  kept : KeepsName (fun _ ↦ True) w w'
  told : (cstr w.st.session.filename).length ≤ ftpMaxName → ∃ pool, w.st.statePool = some pool ∧
    NameTold (sentName w.st.session.filename pool) w w'

/-- Of a smaller set of names. -/
theorem KeepsName.mono {S' : Bytes → Prop} (h : KeepsName S w w') (hS : ∀ name, S name → S' name) :
    KeepsName S' w w' :=
  ⟨h.1, h.2.mono fun _ hx name hname ↦ hS name (hx name hname)⟩

/-- Before the start no name is told. -/
theorem KeepsUnstarted.keepsName (h : KeepsUnstarted w w') : KeepsName (fun _ ↦ False) w w' :=
  ⟨h.filename, h.unstarted.mono fun _ hx _ hname ↦ by cases hx.1.symm.trans hname⟩

/-- Behind the announcement the name is settled. -/
theorem TransferNamed.keep {w'' : World} (h : TransferNamed w w')
    (hk : KeepsName (fun _ ↦ False) w' w'') : TransferNamed w w'' where
  kept := keepsName_guard.trans trivial h.kept (hk.mono fun _ ↦ False.elim)
  told hfits := by
    obtain ⟨pool, hpool, htold⟩ := h.told hfits
    exact ⟨pool, hpool, htold.keep hk⟩

/-- And in front of it nothing was told. -/
theorem TransferNamed.behind {w'' : World} (h : TransferNamed w' w'') (hk : KeepsUnstarted w w') :
    TransferNamed w w'' where
  kept := keepsName_guard.trans trivial (hk.keepsName.mono fun _ ↦ False.elim) h.kept
  told hfits := by
    rw [← hk.filename] at hfits
    obtain ⟨pool, hpool, htold⟩ := h.told hfits
    rw [hk.filename] at htold
    exact ⟨pool, hk.statePool ▸ hpool, htold.behind hk.keepsName⟩

theorem transferNamed_keeps : Keeps (fun _ ↦ True) (KeepsName fun _ ↦ False) (TransferNamed w)
    fun _ ↦ True where
  assume _ _ := trivial
  keepInv _ _ h hk := h.keep hk
  mid _ _ := trivial

theorem unstarted_keeps : Keeps (fun _ ↦ True) KeepsUnstarted (KeepsUnstarted w) fun _ ↦ True where
  assume _ _ := trivial
  keepInv _ _ h hk := keepsUnstarted_guard.trans trivial h hk
  mid _ _ := trivial

/-- The announcement tells the name that the session has. -/
theorem announceTransfer_names : wp e announceTransfer (fun _ ↦ TransferNamed w)
    (fun _ _ ↦ True) w := by
  have L := keepsUnstarted_steps
  refine unstarted_keeps.bind (L.replyMsg (by decide) _ (by decide))
    (keepsUnstarted_guard.refl w trivial) fun _ w₁ h₁ ↦ ?_
  refine unstarted_keeps.bind (L.modifyInfo _ (by decide)) h₁ fun _ w₂ h₂ ↦ (wp_bind _ _).2 ?_
  have hkept := (keepsName_sendAny .xferStart).wp (e := e) (w := w₂) trivial
  by_cases hfits : (cstr w₂.st.session.filename).length ≤ ftpMaxName
  · refine wp_mono (wp_and hkept (sendState_xferStart hfits)) (fun _ w₃ h₃ ↦ ?_) fun _ _ _ ↦ trivial
    exact TransferNamed.behind ⟨h₃.1, fun _ ↦ h₃.2⟩ h₂
  · refine wp_mono hkept (fun _ w₃ h₃ ↦ ?_) fun _ _ _ ↦ trivial
    exact TransferNamed.behind ⟨h₃, fun h ↦ absurd h hfits⟩ h₂

/-- The data phase tells no other, -/
theorem retrData_names (data file : Stream) (offset filesize : ℤ) :
    wp e (retrData config data file offset filesize) (fun _ ↦ TransferNamed w)
      (fun _ _ ↦ True) w := by
  have L := keepsName_steps (S := fun _ ↦ False)
  have hobserve : ∀ o, Within (fun _ ↦ True) (KeepsName fun _ ↦ False) (observe o) := fun o ↦
    within_mark fun _ _ ↦ ⟨rfl, .concat (x := .note (.observe o)) rfl nofun⟩
  refine (wp_bind _ _).2 (wp_mono announceTransfer_names (fun _ w₁ h₁ ↦ ?_) fun _ _ _ ↦ trivial)
  refine transferNamed_keeps.wp (L.bind (hobserve _) fun _ ↦ ?_) h₁ fun _ _ h ↦ h
  refine L.bind (L.transferFile (by decide) (keepsName_handleSignal _)
    (keepsName_sendState (by decide)) _ _ _ _ (by decide)) fun ret ↦ ?_
  refine L.bind (L.transferReply (by decide) ret) fun _ ↦ ?_
  refine L.bind (L.modifySession _ fun _ ↦ ⟨rfl, rfl, rfl, .inr rfl, .inl (by decide),
    .inl (by decide), .inl rfl⟩) fun _ ↦ ?_
  refine L.bind (keepsName_sendState (by decide)) fun _ ↦
    L.bind (L.vfsClose (by decide) _) fun _ ↦ ?_
  exact L.bind L.getSession fun _ ↦ L.bind (L.close (by decide) _) fun _ ↦
    L.bind L.getSession fun _ ↦ L.bind (hobserve _) fun _ ↦ L.pure _

/-- in neither direction. -/
theorem storData_names (file data : Stream) :
    wp e (storData config file data) (fun _ ↦ TransferNamed w) (fun _ _ ↦ True) w := by
  have L := keepsName_steps (S := fun _ ↦ False)
  have hobserve : ∀ o, Within (fun _ ↦ True) (KeepsName fun _ ↦ False) (observe o) := fun o ↦
    within_mark fun _ _ ↦ ⟨rfl, .concat (x := .note (.observe o)) rfl nofun⟩
  refine (wp_bind _ _).2 (wp_mono announceTransfer_names (fun _ w₁ h₁ ↦ ?_) fun _ _ _ ↦ trivial)
  refine transferNamed_keeps.wp (L.bind L.getSession fun _ ↦ L.bind (hobserve _) fun _ ↦ ?_) h₁
    fun _ _ h ↦ h
  refine L.bind (L.storeFile (by decide) (keepsName_handleSignal _)
    (keepsName_sendState (by decide)) _ _ (by decide)) fun ret ↦ ?_
  refine L.bind (L.transferReply (by decide) ret) fun _ ↦
    L.bind (L.modifyInfo _ (by decide)) fun _ ↦ ?_
  refine L.bind (keepsName_sendState (by decide)) fun _ ↦
    L.bind (L.vfsClose (by decide) _) fun _ ↦ ?_
  exact L.bind (L.close (by decide) _) fun _ ↦ L.bind L.getSession fun _ ↦
    L.bind (hobserve _) fun _ ↦ L.pure _

/-! ### The commands -/

/-- The last component of the argument. -/
def component (w : World) : Bytes := findBasename w.st.session.command.argument

/-- The world in which `session->filename` is set. -/
def renamed (w : World) : World where
  st := { w.st with session := { w.st.session with
    filename := (strlcpy w.st.session.filename (component w) (ftpMaxName - 1)).1 } }
  trace := w.trace

/-- From `w` on, no transfer started, or one took place. -/
def EndsNamed (w w' : World) : Prop :=
  Extends (fun x ↦ starts x = false) w w' ∨ TransferNamed w w'

/-- A command that ends before it starts a transfer. -/
theorem KeepsUnstarted.endsNamed (h : KeepsUnstarted w w') : EndsNamed w w' :=
  .inl (h.unstarted.mono fun _ hx ↦ hx.2)

/-- The name is copied first of all. -/
theorem setFilename_named :
    wp e (setFilename (findBasename w.st.session.command.argument))
      (fun _ ↦ KeepsUnstarted (renamed w)) (fun _ _ ↦ True) w :=
  keepsUnstarted_guard.refl (renamed w) trivial

/-- The same as a rule. -/
theorem wp_endsNamed {α : Type} {m : Program α} (hm : Within (fun _ ↦ True) KeepsUnstarted m)
    {w₁ : World} (hw : KeepsUnstarted w w₁) :
    wp e m (fun _ ↦ EndsNamed w) (fun _ _ ↦ True) w₁ :=
  unstarted_keeps.wp hm hw fun _ _ h ↦ h.endsNamed

/-- `RETR` starts no transfer, or one under the name that it has copied. -/
theorem doretr_names :
    wp e (doretr config) (fun _ ↦ EndsNamed (renamed w)) (fun _ _ ↦ True) w := by
  have L := keepsUnstarted_handlers config
  have hdesc : NoStart .descriptor := by decide
  have hclose : ∀ (fd sock : ℤ) (ret : FtpRet), Within (fun _ ↦ True) KeepsUnstarted
      (do setDataSock sock; vfsClose fd; return ret) := fun fd sock ret ↦
    L.bind (L.setDataSock hdesc _) fun _ ↦ L.bind (L.vfsClose hdesc fd) fun _ ↦ L.pure ret
  refine doretr_stages unstarted_keeps (fun _ ↦ KeepsUnstarted (renamed w))
    (fun _ _ ↦ KeepsUnstarted (renamed w)) setFilename_named L.vfsStat (fun msg hmsg _ hw ↦ ?_)
    (fun _ hw ↦ wp_endsNamed (L.failedVfsReply_pure (by decide) _) hw) (fun w hw path hpath ↦ ?_)
    (fun _ _ hw ↦ unstarted_keeps.wp keepsUnstarted_acceptDataConn hw fun _ _ h ↦ h)
    (fun fd _ hw ↦ wp_endsNamed (hclose fd _ _) hw) (fun fd _ hw ↦ wp_endsNamed (hclose fd _ _) hw)
    fun fd dataFd filesize w₁ hw₁ ↦ ?_
  · exact wp_endsNamed (L.replyMsg_pure (by decide) _ _ (completeReply_fileRefusal msg hmsg)) hw
  · refine unstarted_keeps.wp (L.vfsCall w trivial .open path trivial hpath) hw fun r _ h ↦ ?_
    rcases r with - | fd <;> exact h
  · refine unstarted_keeps.bind (L.setDataSock hdesc _) hw₁ fun _ w₂ hw₂ ↦ ?_
    rw [retrAccepted, wp_bind, wp_getSession]
    dsimp only
    split_ifs
    · refine wp_endsNamed (L.bind (L.vfsClose hdesc _) fun _ ↦
        L.bind (L.close hdesc _) fun _ ↦ ?_) hw₂
      exact L.replyFormat_pure (by decide) trivial (fun harg _ ↦ completeReply_tooLarge harg _ _) _
    · exact wp_mono (retrData_names _ _ _ _) (fun _ _ h ↦ .inr (h.behind hw₂)) fun _ _ _ ↦ trivial

/-- And so does `STOR`. -/
theorem dostor_names :
    wp e (dostor config) (fun _ ↦ EndsNamed (renamed w)) (fun _ _ ↦ True) w := by
  have L := keepsUnstarted_handlers config
  have hdesc : NoStart .descriptor := by decide
  have hclose : ∀ (fd : ℤ) (ret : FtpRet), Within (fun _ ↦ True) KeepsUnstarted
      (do vfsClose fd; return ret) := fun fd ret ↦ L.bind (L.vfsClose hdesc fd) fun _ ↦ L.pure ret
  refine dostor_stages (fun _ ↦ KeepsUnstarted (renamed w))
    (fun _ _ ↦ KeepsUnstarted (renamed w)) setFilename_named (fun msg hmsg _ hw ↦ ?_)
    (fun _ hw ↦ wp_endsNamed (L.failedVfsReply_pure (by decide) _) hw) (fun w hw path hpath ↦ ?_)
    (fun _ _ hw ↦ unstarted_keeps.wp keepsUnstarted_acceptDataConn hw fun _ _ h ↦ h)
    (fun _ _ hw ↦ wp_endsNamed (hclose _ _) hw) (fun _ _ hw ↦ wp_endsNamed (hclose _ _) hw)
    fun fd dataFd w₁ hw₁ ↦ ?_
  · exact wp_endsNamed (L.replyMsg_pure (by decide) _ _ (completeReply_fileRefusal msg hmsg)) hw
  · refine unstarted_keeps.wp (L.vfsCall w trivial (.creat _) path trivial hpath) hw fun r _ h ↦ ?_
    rcases r with - | fd <;> exact h
  · exact wp_mono (storData_names _ _) (fun _ _ h ↦ .inr (h.behind hw₁)) fun _ _ _ ↦ trivial

/-! ### The name -/

/-- What the commands need for the name to arrive: it is not too long for the copy, and an empty one
finds nothing that was left behind. -/
def NameKept (w : World) : Prop :=
  (component w).length < ftpMaxName - 1 ∧ (component w = [] →
    cstr w.st.session.filename = [] ∧ ∀ pool ∈ w.st.statePool, cstr pool = [])

/-- `RETR` and `STOR`. -/
def transferHandlers (config : FtpConfig) : List (Program FtpRet) := [doretr config, dostor config]

/-- The last component is a C string. -/
theorem nul_not_mem_component (w : World) : nul ∉ component w := fun hmem ↦
  nul_not_mem_argument w.st.session.command ((List.rtakeWhile_suffix _ _).subset hmem)

/-- An empty source copies nothing, not even its terminator. -/
theorem strlcpy_nil (dst : Bytes) (size : ℕ) : (strlcpy dst [] size).1 = dst := rfl

/-- A source that fits is copied with its terminator. -/
theorem strlcpy_of_lt {dst src : Bytes} {size : ℕ} (hne : src ≠ []) (hlt : src.length < size) :
    (strlcpy dst src size).1 = src ++ nul :: dst.drop (src.length + 1) := by
  have hlen : src.length ≠ 0 := fun h ↦ hne (List.length_eq_zero_iff.1 h)
  rw [strlcpy]
  simp only [if_pos hlen, if_neg (show ¬src.length > size - 1 by omega), List.take_length]

/-- One that does not is cut. -/
theorem cstr_strlcpy {dst src : Bytes} {size : ℕ} (hsrc : nul ∉ src) (hne : src ≠ []) :
    cstr (strlcpy dst src size).1 = src.take (size - 1) := by
  have hlen : src.length ≠ 0 := fun h ↦ hne (List.length_eq_zero_iff.1 h)
  have htake : ∀ n rest, cstr (src.take n ++ nul :: rest) = src.take n := fun n rest ↦
    cstr_append_nul (fun h ↦ hsrc (List.mem_of_mem_take h)) rest
  rw [strlcpy]
  simp only [if_pos hlen, htake]
  split_ifs with hlong
  · rfl
  · rw [List.take_length, List.take_of_length_le (by omega)]

/-- A name that is not empty reaches the master as it is. -/
theorem sentName_of_ne {filename : Bytes} (pool : Bytes) (hne : cstr filename ≠ [])
    (hlen : (cstr filename).length < ftpMaxName - 1) : sentName filename pool = cstr filename := by
  have hlt : (cstr filename).length < ftpMaxName := by omega
  have hnul : nul ∉ cstr filename := zero_not_mem_cstr _
  obtain ⟨k, hk⟩ : ∃ k, ftpMaxName - 1 - (cstr filename).length = k + 1 :=
    ⟨ftpMaxName - 1 - (cstr filename).length - 1, by omega⟩
  rw [sentName, strlcpy_of_lt hne hlt, List.take_append, List.take_of_length_le hlt.le,
    show ftpMaxName - (cstr filename).length = k + 2 by rw [ftpMaxName] at hk ⊢; omega,
    List.take_succ_cons, nameIn, List.set_append_right _ _ (by omega), hk, List.set_cons_succ]
  exact cstr_append_nul hnul _

/-- Of an empty name, the master gets what is in the pool. -/
theorem sentName_of_nil {filename pool : Bytes} (hnil : cstr filename = []) :
    sentName filename pool = [] ↔ cstr pool = [] := by
  rw [sentName, hnil, strlcpy_nil]
  rcases pool with - | ⟨c, pool⟩
  · rfl
  · have hset : (c :: pool).take ftpMaxName = c :: pool.take 255 := rfl
    rw [hset, nameIn, ftpMaxName, List.set_cons_succ]
    by_cases hc : c = 0 <;> simp [cstr, hc]

/-- A component of 256 bytes or more is refused. -/
theorem transferHandler_refuses {handler : Program FtpRet} (hh : handler ∈ transferHandlers config)
    (hlong : ftpMaxName ≤ (component w).length) :
    wp e handler (fun _ w' ↦ Replies [ofString "550 Filename too long\r\n"] (renamed w) w' ∧
      KeepsUnstarted (renamed w) w') (fun _ _ ↦ True) w := by
  have hreply : wp e (do replyMsg "550 Filename too long\r\n"; return FtpRet.success)
      (fun _ w' ↦ Replies [ofString "550 Filename too long\r\n"] (renamed w) w' ∧
        KeepsUnstarted (renamed w) w') (fun _ _ ↦ True) (renamed w) := by
    have hkept := (keepsUnstarted_steps.replyMsg (by decide) "550 Filename too long\r\n"
      (by decide)).wp (e := e) (w := renamed w) trivial
    exact (wp_bind _ _).2 (wp_mono (wp_and (replyMsg_wp _) hkept) (fun _ _ h ↦ h)
      fun _ _ _ ↦ trivial)
  simp only [transferHandlers, List.mem_cons, List.not_mem_nil, or_false] at hh
  rcases hh with rfl | rfl
  · rw [doretr, wp_bind, wp_getSession, wp_bind]
    show wp e (if (component w).length ≥ ftpMaxName then _ else _) _ _ (renamed w)
    rw [if_pos hlong]
    exact hreply
  · rw [dostor, wp_bind, wp_getSession, wp_bind]
    show wp e (if (component w).length ≥ ftpMaxName then _ else _) _ _ (renamed w)
    rw [if_pos hlong]
    exact hreply

/-- What a transfer told, against what it should tell. -/
theorem TransferNamed.namedRight_iff (h : TransferNamed (renamed w) w') {run : List (Item kernel)}
    (ht : w'.trace = w.trace ++ run) : NamedRight (component w) run w' ↔ NameKept w := by
  have hname : w'.st.session.filename = (renamed w).st.session.filename := h.kept.1
  have htold : (cstr (renamed w).st.session.filename).length ≤ ftpMaxName →
      ∃ pool, w.st.statePool = some pool ∧ namesOf run ≠ [] ∧
        ∀ n ∈ namesOf run, n = sentName (renamed w).st.session.filename pool := by
    intro hfits
    obtain ⟨pool, hpool, -, run', ht', hne, hall⟩ := h.told hfits
    obtain rfl : run = run' := List.append_cancel_left (ht.symm.trans ht')
    exact ⟨pool, hpool, hne, hall⟩
  have hmax : ftpMaxName = 256 := rfl
  by_cases hnil : component w = []
  · -- the name that was there before stays
    have hstale : (renamed w).st.session.filename = w.st.session.filename := by
      show (strlcpy _ (component w) _).1 = _
      rw [hnil, strlcpy_nil]
    rw [hstale] at hname htold
    constructor
    · intro hright
      have hempty : cstr w.st.session.filename = [] := by rw [← hname, hright.filename, hnil]
      obtain ⟨pool, hpool, hne, hall⟩ := htold (by rw [hempty]; exact Nat.zero_le _)
      refine ⟨by rw [hnil, hmax]; decide, fun _ ↦ ⟨hempty, fun pool' hpool' ↦ ?_⟩⟩
      obtain rfl : pool = pool' := Option.some.inj (hpool.symm.trans hpool')
      obtain ⟨n, hn⟩ := List.exists_mem_of_ne_nil _ hne
      rw [← sentName_of_nil hempty, ← hall n hn, hright.names n hn, hnil]
    · rintro ⟨-, hclean⟩
      obtain ⟨hempty, hpools⟩ := hclean hnil
      obtain ⟨pool, hpool, hne, hall⟩ := htold (by rw [hempty]; exact Nat.zero_le _)
      refine ⟨by rw [hname, hempty, hnil], hne, fun n hn ↦ ?_⟩
      rw [hall n hn, hnil, sentName_of_nil hempty]
      exact hpools pool hpool
  · have hstored : cstr (renamed w).st.session.filename = (component w).take (ftpMaxName - 1 - 1) :=
      cstr_strlcpy (nul_not_mem_component w) hnil
    constructor
    · intro hright
      have heq := hright.filename
      rw [hname, hstored] at heq
      have hlen := congrArg List.length heq
      rw [List.length_take] at hlen
      exact ⟨by omega, fun h ↦ absurd h hnil⟩
    · rintro ⟨hlen, -⟩
      rw [List.take_of_length_le (by omega)] at hstored
      obtain ⟨pool, -, hne, hall⟩ := htold (by rw [hstored]; omega)
      refine ⟨by rw [hname, hstored], hne, fun n hn ↦ ?_⟩
      rw [hall n hn, sentName_of_ne pool (by rwa [hstored]) (by rwa [hstored]), hstored]

/-- **The name of a transfer** is the last component of the argument, as the session keeps it and as
the master is told, exactly if that has between 1 and 254 bytes, or is empty and nothing was left
behind; a longer one than 255 bytes is refused. -/
theorem handler_names {handler : Program FtpRet} (hh : handler ∈ transferHandlers config) (e : Env)
    (w : World) {ret : FtpRet} {w' : World} (hrun : handler e w = (.ret ret, w')) :
    ∃ run, w'.trace = w.trace ++ run ∧
      (ftpMaxName ≤ (component w).length →
        repliesOf run = [ofString "550 Filename too long\r\n"] ∧ run.any starts = false) ∧
      (run.any starts = true → (NamedRight (component w) run w' ↔ NameKept w)) := by
  have hends : wp e handler (fun _ ↦ EndsNamed (renamed w)) (fun _ _ ↦ True) w := by
    simp only [transferHandlers, List.mem_cons, List.not_mem_nil, or_false] at hh
    rcases hh with rfl | rfl
    · exact doretr_names
    · exact dostor_names
  have hunstarted : ∀ run, w'.trace = w.trace ++ run →
      Extends (fun x ↦ starts x = false) (renamed w) w' → run.any starts = false := by
    rintro run ht ⟨run', ht', hall⟩
    obtain rfl : run = run' := List.append_cancel_left (ht.symm.trans ht')
    exact List.any_eq_false.2 fun x hx ↦ by simp [hall x hx]
  have hend := wp_ret hends hrun
  obtain ⟨run, ht, -⟩ : Extends (fun _ ↦ True) (renamed w) w' :=
    hend.elim (·.mono fun _ _ ↦ trivial) (·.kept.2.mono fun _ _ ↦ trivial)
  refine ⟨run, ht, fun hlong ↦ ?_, fun hstarts ↦ ?_⟩
  · obtain ⟨hreplies, hkept⟩ := wp_ret (transferHandler_refuses hh hlong) hrun
    obtain ⟨run', ht', hmsgs⟩ := hreplies.grown
    obtain rfl : run = run' := List.append_cancel_left (ht.symm.trans ht')
    exact ⟨hmsgs, hunstarted run ht (hkept.unstarted.mono fun _ hx ↦ hx.2)⟩
  · rcases hend with hend | hend
    · exact absurd (hunstarted run ht hend) (by simp [hstarts])
    · exact hend.namedRight_iff ht

/-- A session that has transferred nothing yet, and whose command is `RETR d/f`. -/
def freshWorld : World := World.start (sessionWith (ofString "RETR") (ofString "d/f"))

/-- The download starts, and is recorded as `f`. -/
theorem handler_names_download :
    component freshWorld = ofString "f" ∧
      (doretr loadDefaults (clientEnv []) freshWorld).2.trace.any starts = true ∧
      NamedRight (component freshWorld) (doretr loadDefaults (clientEnv []) freshWorld).2.trace
        (doretr loadDefaults (clientEnv []) freshWorld).2 := by
  have hrun : (doretr loadDefaults (clientEnv []) freshWorld).1 = .ret .success ∧
      (doretr loadDefaults (clientEnv []) freshWorld).2.trace.any starts = true ∧
      component freshWorld = ofString "f" := by
    decide +kernel
  obtain ⟨hret, hstarts, hname⟩ := hrun
  have hkept : NameKept freshWorld := by
    rw [NameKept, hname]
    exact ⟨by decide, fun h ↦ absurd h (by decide)⟩
  have hmem : doretr loadDefaults ∈ transferHandlers loadDefaults := List.mem_cons_self
  obtain ⟨run, ht, -, hright⟩ := handler_names hmem (clientEnv []) freshWorld (run_eq hret)
  obtain rfl : _ = run := ht
  exact ⟨hname, hstarts, (hright hstarts).2 hkept⟩

/-- A session whose last transfer was of `old`, and whose command is `RETR f/`. -/
def staleWorld : World :=
  let s := sessionWith (ofString "RETR") (ofString "f/")
  World.start { s with session := { s.session with filename := ofString "old" ++ [nul] } }

/-- An upload to a name of 255 bytes is recorded under its first 254 bytes, and a download of `f/`
under the name of the transfer before it. -/
theorem handler_names_cut :
    let name := List.replicate 255 (97 : UInt8)
    let stor := dostor loadDefaults (clientEnv [])
      (World.start (sessionWith (ofString "STOR") name))
    let retr := doretr loadDefaults (clientEnv []) staleWorld
    stor.1 = .ret .success ∧ stor.2.trace.any starts = true ∧
      cstr stor.2.st.session.filename = name.take 254 ∧ namesOf stor.2.trace = [name.take 254] ∧
      retr.1 = .ret .success ∧ retr.2.trace.any starts = true ∧ component staleWorld = [] ∧
      cstr retr.2.st.session.filename = ofString "old" ∧
      namesOf retr.2.trace = [ofString "old"] := by
  decide +kernel

end FtpServer
