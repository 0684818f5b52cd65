import FtpServer.Proofs.Listing

/-!
# What `LIST` answers

The loop of `list_directory` between the command that calls it and the reply. Before the listing
nothing that is done says anything about it (`Idle`), behind it only replies are sent, on another
connection. As the result of the loop does not reach `dolist`, `LIST` answers 226 whether or not the
listing is complete (`dolist_lists`).

* `Staying` is what is known of a session on its way to the listing: where it is, what it has
  replied so far, and that its root directory is the one in force.
* `Told` is what is known behind it. If a directory was opened, the replies are 125 and 226
  (`listReplies`), whatever became of the listing.
* `listRequest` is what the listing is for: the directory that the argument names, or the current
  one, and whether there is an `-a`.

Whether an answer is honest is then a matter of the listing alone (`Concluded.honest_iff`).
-/

namespace FtpServer

open CString Effect Effect.Proc PathText

variable {e : Env} {w₀ w : World} {config : FtpConfig} {L : ListRequest} {s : Listing}
  {conn : FtpConn}

/-! ### Before the listing -/

/-- How many calls of `opendir` opened their directory. -/
def openedDirs (trace : List (Item kernel)) : ℕ := (opendirs trace).count true

/-- A run that announces no root directory keeps the one in force. -/
theorem rootOf_of_extends {Q : Item kernel → Prop} {w' : World} (h : Extends Q w w')
    (hQ : ∀ x, Q x → rooted? x = none) : rootOf w'.trace = rootOf w.trace := by
  obtain ⟨suffix, htrace, hsuffix⟩ := h
  have hnone : suffix.filterMap rooted? = [] :=
    List.filterMap_eq_nil_iff.2 fun x hx ↦ hQ x (hsuffix x hx)
  rw [rootOf, htrace, List.filterMap_append, hnone, List.append_nil, ← rootOf]

/-- An entry that says nothing about a listing while there is none. -/
structure Idle (x : Item kernel) : Prop where
  opendir : opendir? x = none
  rooted : rooted? x = none
  step : ∀ (L : ListRequest) (s : Listing), s.asking = .settled → s.due = [] → s.step L x = s

/-- Only such entries are added, and the connections are the same. -/
def KeepsIdle (w w' : World) : Prop :=
  w'.st.session.conn = w.st.session.conn ∧ Extends Idle w w'

theorem keepsIdle_guard : Guard (fun _ ↦ True) KeepsIdle where
  refl w _ := ⟨rfl, .refl w⟩
  trans _ h₁ h₂ := ⟨h₂.1.trans h₁.1, h₁.2.trans h₂.2⟩
  keep _ _ := trivial

theorem keepsIdle_modify {f : Process → Process}
    (hf : ∀ s, (f s).session.conn = s.session.conn) :
    Within (fun _ ↦ True) KeepsIdle (Proc.modify f) :=
  within_modify fun w _ ↦ ⟨hf w.st, .of_eq rfl⟩

/-- A note that is no reply and announces no root directory. -/
theorem keepsIdle_mark {n : Note} (hn : ∀ msg, n ≠ .observe (.reply msg))
    (hroot : rooted? (.note n) = none) : Within (fun _ ↦ True) KeepsIdle (mark n) := by
  refine within_mark fun _ _ ↦ ⟨rfl, .concat rfl ⟨rfl, hroot, fun _ _ _ _ ↦ ?_⟩⟩
  rcases n with - | - | - | - | - | - | - | (msg | - | - | - | - | - | - | -) <;> try rfl
  exact absurd rfl (hn msg)

/-- Calls that a listing does not look at, or looks at only about an entry. -/
theorem keepsIdle_sys {c : Call} (hc : c.topic = .other ∨ c.topic = .descriptor ∨
    (∃ path, c = .path .stat path) ∨ ∃ path, c = .path .lstat path) :
    Within (fun _ ↦ True) KeepsIdle (sys c) := by
  refine within_sys keepsIdle_guard fun w r _ ↦ ⟨rfl, .concat rfl ?_⟩
  rcases hc with hc | hc | ⟨path, rfl⟩ | ⟨path, rfl⟩
  · cases c with
    | indeterminate =>
      refine ⟨rfl, rfl, fun _ s _ hdue ↦ ?_⟩
      obtain ⟨asking, skipped, due, received, failed, ended, replies⟩ := s
      obtain rfl : due = [] := hdue
      rfl
    | path | poll | recv | send | read | write | lseek | sendfile | close | readdir | closedir
      | socket | setsockopt | bind | listen | accept | writev | pollBoth | fork | waitpid
      | kill => cases hc
    | _ => exact ⟨rfl, rfl, fun _ _ _ _ ↦ rfl⟩
  · cases c with
    | socket | accept | close | closedir => exact ⟨rfl, rfl, fun _ _ _ _ ↦ rfl⟩
    | _ => cases hc
  · exact ⟨rfl, rfl, fun L s hs _ ↦ Listing.step_path_settled L s hs .stat path r⟩
  · exact ⟨rfl, rfl, fun L s hs _ ↦ Listing.step_path_settled L s hs .lstat path r⟩

theorem keepsIdle_steps : StepLogic (· = .other) (fun _ ↦ True) KeepsIdle where
  toCallLogic := .of_observe keepsIdle_guard rfl (by decide) (fun _ hc ↦ keepsIdle_sys (.inl hc))
    (fun _ ↦ keepsIdle_modify fun _ ↦ rfl) fun o ho ↦ keepsIdle_mark (fun msg h ↦ by
      cases h
      cases ho) rfl
  statePool _ _ := keepsIdle_modify fun _ ↦ rfl
  modifySession _ hf := keepsIdle_modify fun s ↦ (hf s.session).conn.resolve_left (by decide)
  undefined _ _ o ho := keepsIdle_mark (fun msg h ↦ by
    cases h
    exact ho) rfl

/-- The relation of the actions before the listing. -/
def Waits (w w' : World) : Prop := (KeepsJail w w' ∧ KeepsPlace w w') ∧ KeepsIdle w w'

/-- What is known of a session before each of them. -/
def Staying (w : World) : Prop := (Jail w ∧ True) ∧ True

/-- Nothing was listed yet, the session is in `dir`, and these were the replies. -/
structure Awaiting (w₀ : World) (conn : FtpConn) (dir : Bytes) (replies : List Bytes)
    (L : ListRequest) (w : World) : Prop where
  standing : Standing w₀ dir 0 w
  conn : w.st.session.conn = conn
  root : rootOf w.trace = rootOf w₀.trace
  opened : openedDirs w.trace = openedDirs w₀.trace
  shows : ShowsListing w₀ L { Listing.start with replies } w

variable {replies : List Bytes} {dir : Bytes}

/-- Idle entries leave a listing that has not begun as it is. -/
theorem Awaiting.idle {w' : World} {dir' : Bytes} (h : Awaiting w₀ conn dir replies L w)
    (hstanding : Standing w₀ dir' 0 w') (hk : KeepsIdle w w') :
    Awaiting w₀ conn dir' replies L w' := by
  have hroot := rootOf_of_extends hk.2 fun _ hx ↦ hx.rooted
  obtain ⟨hconn, suffix, htrace, hidle⟩ := hk
  have hopendirs : suffix.filterMap opendir? = [] :=
    List.filterMap_eq_nil_iff.2 fun x hx ↦ (hidle x hx).opendir
  refine ⟨hstanding, hconn.trans h.conn, hroot.trans h.root, ?_, ?_⟩
  · rw [openedDirs, FtpServer.opendirs, htrace, List.filterMap_append, hopendirs, List.append_nil]
    exact h.opened
  · obtain ⟨before, hbefore, hs⟩ := h.shows
    refine ⟨before ++ suffix, by rw [htrace, hbefore, List.append_assoc], ?_⟩
    rw [listing, List.foldl_append, ← listing, hs]
    clear htrace hopendirs hroot
    induction suffix with
    | nil => rfl
    | cons x suffix ih =>
      obtain ⟨hx, hsuffix⟩ := List.forall_mem_cons.1 hidle
      rw [List.foldl_cons, hx.step L _ rfl rfl]
      exact ih hsuffix

/-- As `Awaiting`, before the data connection is known. -/
def Fresh (w₀ : World) (conn : FtpConn) (w : World) : Prop :=
  ∀ L, Awaiting w₀ conn (cstr w₀.st.session.virtPath) [] L w

theorem fresh_keeps : Keeps Staying Waits (Fresh w₀ conn) fun _ ↦ True where
  assume _ h := ⟨⟨(h ⟨[], [], false, false, 0⟩).standing.jail, trivial⟩, trivial⟩
  keepInv _ _ h hk L := (h L).idle ((h L).standing.keep hk.1.1 hk.1.2) hk.2
  mid _ _ := trivial

/-- No directory was opened since `w₀`. -/
def Unopened (w₀ w : World) : Prop := openedDirs w.trace = openedDirs w₀.trace

theorem unopened_keeps : Keeps (fun _ ↦ True) KeepsPlace (Unopened w₀) fun _ ↦ True where
  assume _ _ := trivial
  keepInv _ _ h hk := (congrArg (List.count true) hk.2).trans h
  mid _ _ := trivial

/-! ### Replies, and what else is sent nowhere -/

/-- The listing is the same, and so is the root directory. -/
def KeepsListing (L : ListRequest) (w w' : World) : Prop :=
  w'.st.session.conn = w.st.session.conn ∧
    Extends (fun x ↦ rooted? x = none ∧ ∀ s : Listing, s.step L x = s) w w'

theorem keepsListing_guard : Guard (fun _ ↦ True) (KeepsListing L) where
  refl w _ := ⟨rfl, .refl w⟩
  trans _ h₁ h₂ := ⟨h₂.1.trans h₁.1, h₁.2.trans h₂.2⟩
  keep _ _ := trivial

theorem keepsListing_sys {c : Call} (hc : ∀ (s : Listing) r, s.step L (.call c r) = s) :
    Within (fun _ ↦ True) (KeepsListing L) (sys c) :=
  within_sys keepsListing_guard fun _ r _ ↦ ⟨rfl, .concat rfl ⟨rfl, fun s ↦ hc s r⟩⟩

theorem keepsListing_errno (err : Errno) :
    Within (fun _ ↦ True) (KeepsListing L) (setErrno err) :=
  within_setErrno fun _ _ ↦ ⟨rfl, .of_eq rfl⟩

theorem keepsListing_checked {α : Type} {m : Program (Except Errno α)}
    (hm : Within (fun _ ↦ True) (KeepsListing L) m) :
    Within (fun _ ↦ True) (KeepsListing L) (checked m) := by
  refine within_bind keepsListing_guard hm fun r ↦ ?_
  rcases r with err | a
  · exact within_bind keepsListing_guard (keepsListing_errno err) fun _ ↦
      within_pure keepsListing_guard _
  · exact within_pure keepsListing_guard _

/-- What adds nothing to a listing keeps what it shows. -/
theorem ShowsListing.keep {w' : World} (h : ShowsListing w₀ L s w) (hk : KeepsListing L w w') :
    ShowsListing w₀ L s w' := by
  obtain ⟨before, hbefore, rfl⟩ := h
  obtain ⟨-, suffix, htrace, hs⟩ := hk
  refine ⟨before ++ suffix, by rw [htrace, hbefore, List.append_assoc], ?_⟩
  rw [listing, List.foldl_append, ← listing]
  clear htrace
  induction suffix with
  | nil => rfl
  | cons x suffix ih =>
    obtain ⟨hx, hsuffix⟩ := List.forall_mem_cons.1 hs
    rw [List.foldl_cons, hx.2]
    exact ih hsuffix

/-- A reply, on another connection. -/
theorem replyMsg_lists (hconn : w.st.session.conn = conn) (hw : ShowsListing w₀ L s w)
    (hsock : conn.sock ≠ L.data) (msg : String) :
    wp e (replyMsg msg) (fun _ w' ↦ w'.st.session.conn = conn ∧
        rootOf w'.trace = rootOf w.trace ∧
        ShowsListing w₀ L { s with replies := s.replies ++ [ofString msg] } w')
      (fun _ _ ↦ True) w := by
  have hsend := within_sendall (P := fun _ ↦ True) (R := KeepsListing L) keepsListing_guard
    (fun buf ↦ keepsListing_sys fun s r ↦ s.step_send_ne L hsock buf r) keepsListing_errno
    (ofString msg)
  rw [replyMsg, wp_bind, wp_getSession, hconn, wp_bind, reply, observe, wp_bind, wp_mark]
  refine wp_mono (hsend.wp trivial) (fun _ w' h ↦ ⟨h.1.trans hconn, ?_, ?_⟩) fun _ _ _ ↦ trivial
  · exact (rootOf_of_extends h.2 fun _ hx ↦ hx.1).trans (rootOf_concat rfl)
  · exact (hw.concat (x := .note (.observe (.reply (ofString msg)))) rfl).keep h

/-! ### The command -/

/-- The listing is over, and these were the replies. -/
structure Told (w₀ : World) (conn : FtpConn) (replies : List Bytes) (L : ListRequest) (w : World) :
    Prop where
  conn : w.st.session.conn = conn
  listing : ∃ s, ShowsListing w₀ L s w ∧ s.replies = replies ∧ Concluded s

theorem told_keeps : Keeps (fun _ ↦ True) (KeepsListing L) (Told w₀ conn replies L)
    fun _ ↦ True where
  assume _ _ := trivial
  keepInv _ _ h hk := by
    obtain ⟨s, hlisting, hs⟩ := h.listing
    exact ⟨hk.1.trans h.conn, s, hlisting.keep hk, hs⟩
  mid _ _ := trivial

/-- A reply behind the listing. -/
theorem Told.reply (h : Told w₀ conn replies L w) (hsock : conn.sock ≠ L.data) (msg : String) :
    wp e (replyMsg msg) (fun _ ↦ Told w₀ conn (replies ++ [ofString msg]) L)
      (fun _ _ ↦ True) w := by
  obtain ⟨s, hlisting, rfl, hs⟩ := h.listing
  refine wp_mono (replyMsg_lists h.conn hlisting hsock msg) ?_ fun _ _ _ ↦ trivial
  rintro - w' ⟨hconn, -, hlisting'⟩
  refine ⟨hconn, _, hlisting', rfl, ?_⟩
  rcases hs with ⟨hended, hs⟩ | hs
  · exact .inl ⟨hended, hs.skipped, hs.failed, hs.lines, hs.received⟩
  · exact .inr hs

/-- The change into the directory that is to be listed. -/
theorem vfsChdir_awaits (h : Awaiting w₀ conn dir replies L w) {path : Bytes} (hpath : nul ∉ path) :
    wp e (vfsChdir path) (fun _ ↦ Awaiting w₀ conn (directoryAfter dir path) replies L)
      (fun _ _ ↦ True) w := by
  have hvirtPath : ∀ f : Bytes → Bytes, Within (fun _ ↦ True) KeepsIdle
      (modifySession fun s ↦ { s with virtPath := f s.virtPath }) := fun f ↦
    keepsIdle_modify fun _ ↦ rfl
  have hidle := keepsIdle_steps.vfsChdir (fun _ ↦ keepsIdle_modify fun _ ↦ rfl) hvirtPath path
  exact wp_mono (wp_and (vfsChdir_standing h.standing hpath) (hidle.wp trivial))
    (fun _ _ ⟨hstanding, hk⟩ ↦ h.idle hstanding hk) fun _ _ _ ↦ trivial

/-- `opendir` is refused, or the listing begins. -/
theorem vfsOpendir_lists (h : Awaiting w₀ conn L.dir replies L w)
    (hroot : ∀ root ∈ rootOf w₀.trace, root = L.root) :
    wp e (vfsOpendir L.dir [dot]) (fun r w' ↦
        match r with
        | none => Unopened w₀ w'
        | some _ => Lists conn L w₀ { Listing.start with replies } w')
      (fun _ _ ↦ True) w := by
  have hcwd : Canonical L.dir := h.standing.virtPath ▸ h.standing.jail.canonical
  have hnul : nul ∉ L.dir := h.standing.virtPath ▸ zero_not_mem_cstr _
  refine (wp_bind _ _).2 (wp_mono (wp_and (vfsRealpath_jail h.standing.jail hcwd hnul (by decide))
    (vfsRealpath_quiet _ _)) ?_ fun _ _ _ ↦ trivial)
  rintro (- | -) w₁ ⟨⟨hjail, hsession, hlocated⟩, -, htrace⟩
  · change openedDirs w₁.trace = _
    rw [htrace, h.opened]
  rw [Bool.not_true, if_neg Bool.false_ne_true, wp_bind]
  obtain ⟨pool, -, hpool, -, -, -⟩ := id hlocated
  refine realPath_wp hjail (Located.resolved hlocated) fun path hbelow ↦
    wp_checked.2 (wp_sys (fun r _ ↦ ?_) trivial)
  have hopened : openedDirs (answered w₁ (.path .opendir path) r).trace = openedDirs w₀.trace +
      ([.call (.path .opendir path) r].filterMap opendir?).count true := by
    rw [answered_trace, htrace, openedDirs, opendirs, List.filterMap_append, List.count_append]
    exact congrArg (· + _) h.opened
  obtain ⟨async, err | drv⟩ := r
  · exact hopened
  refine ⟨hjail.append (x := .call (.path .opendir path) _) rfl hbelow rfl rfl rfl, ?_, ?_, ?_, ?_⟩
  · rw [answered_session, hsession, h.standing.virtPath]
  · rw [answered_session, hsession, h.conn]
  · have hsome : rootOf w₁.trace = some pool.rootDir := (hjail.pool pool hpool).2.2
    have hbefore : rootOf w₀.trace = some pool.rootDir := h.root.symm.trans (htrace ▸ hsome)
    rw [answered_trace, rootOf_concat rfl, hsome, hroot _ hbefore]
  · obtain ⟨suffix, hsuffix, hs⟩ := h.shows
    have hshows : ShowsListing w₀ L { Listing.start with replies } w₁ :=
      ⟨suffix, htrace.trans hsuffix, hs⟩
    exact hshows.concat (x := .call (.path .opendir path) _) rfl

/-- `list_directory` succeeds if it can open the directory. -/
theorem listDirectory_lists (hL : L.allowLinks = config.allowLinks) (hdata : conn.dataSock = L.data)
    (hroot : ∀ root ∈ rootOf w₀.trace, root = L.root) {argument : Bytes}
    (hargument : nul ∉ argument)
    (hdir : L.dir = directoryAfter dir argument) (h : Awaiting w₀ conn dir replies L w) :
    wp e (listDirectory config argument L.optA) (fun ret w' ↦ Unopened w₀ w' ∨
      ret = .success ∧ Told w₀ conn replies L w') (fun _ _ ↦ True) w := by
  rw [listDirectory, wp_bind, wp_getSession, wp_bind]
  refine wp_mono (vfsChdir_awaits h hargument) ?_ fun _ _ _ ↦ trivial
  rw [← hdir]
  intro _ w₁ h₁
  rw [wp_bind, wp_getSession, wp_bind, h₁.standing.virtPath]
  refine wp_mono (vfsOpendir_lists h₁ hroot) ?_ fun _ _ _ ↦ trivial
  rintro (- | drv) w₂ h₂
  · exact unopened_keeps.wp (keepsPlace_steps.failedVfsReply_pure (by decide) _) h₂
      fun _ _ h ↦ .inl h
  refine (wp_bind _ _).2 (wp_mono (listEntries_lists hL hdata h₂ rfl
    ⟨rfl, rfl, by simp [Listing.start], rfl⟩ rfl drv) ?_ fun _ _ _ ↦ trivial)
  rintro - w₃ ⟨s₃, h₃, hs₃⟩
  have htold : Told w₀ conn replies L w₃ := ⟨h₃.conn, s₃, h₃.shows, hs₃⟩
  have hclose : Within (fun _ ↦ True) (KeepsListing L) (vfsClosedir drv) :=
    within_bind keepsListing_guard (keepsListing_checked (keepsListing_sys fun _ _ ↦ rfl)) fun _ ↦
      within_pure keepsListing_guard _
  exact told_keeps.bind hclose htold fun _ w₄ h₄ ↦ .inr ⟨rfl, h₄.conn, h₄.listing⟩

/-- The replies to a `LIST` of a directory. -/
def listReplies : List Bytes :=
  [ofString "125 Data connection ok, transferring listing\r\n",
    ofString "226 Listing sent OK\r\n"]

/-- What `LIST` leads to, if it opens a directory. -/
def ListsOr (w₀ : World) (conn : FtpConn) (L : ListRequest) (w : World) : Prop :=
  Unopened w₀ w ∨ Told w₀ conn listReplies L w

/-- What `dolist` does with its data connection. -/
theorem listData_lists (hL : L.allowLinks = config.allowLinks) (hdata : conn.dataSock = L.data)
    (hroot : ∀ root ∈ rootOf w₀.trace, root = L.root) (hsock : conn.sock ≠ L.data)
    {argument : Bytes}
    (hargument : nul ∉ argument) (hdir : L.dir = directoryAfter dir argument)
    (h : Awaiting w₀ conn dir [] L w) (statarg : Stat) :
    wp e (listData config statarg argument L.optA) (fun _ ↦ ListsOr w₀ conn L)
      (fun _ _ ↦ True) w := by
  have K := keepsPlace_steps
  have hreply : Topic.reply ≠ .path := by decide
  have hrest : ∀ ret (w : World), Unopened w₀ w → wp e (do
      listReply ret
      let _ ← checked (sys (.close (← getSession).conn.dataSock))
      return FtpRet.success) (fun _ ↦ ListsOr w₀ conn L) (fun _ _ ↦ True) w := by
    intro ret w hw
    refine unopened_keeps.wp (K.bind ?_ fun _ ↦ K.bind K.getSession fun _ ↦
      K.bind (K.close (by decide) _) fun _ ↦ K.pure _) hw fun _ _ h ↦ .inl h
    cases ret <;> exact K.replyMsg hreply _ (by decide)
  have hsay := (place_steps.replyMsg (by decide)
    "125 Data connection ok, transferring listing\r\n" (by decide)).wp (e := e)
    ⟨h.standing.jail, trivial⟩
  refine (wp_bind _ _).2 (wp_mono (wp_and (replyMsg_lists h.conn h.shows hsock _) hsay) ?_
    fun _ _ _ ↦ trivial)
  rintro - w₁ ⟨⟨hconn₁, hroot₁, hshows₁⟩, hjail₁, hk⟩
  have hopened₁ : Unopened w₀ w₁ := (congrArg (List.count true) hk.2).trans h.opened
  split_ifs
  · have h₁ : Awaiting w₀ conn dir [listReplies.head!] L w₁ :=
      ⟨h.standing.keep hjail₁ hk, hconn₁, hroot₁.trans h.root, hopened₁, hshows₁⟩
    refine (wp_bind _ _).2 (wp_mono (listDirectory_lists hL hdata hroot hargument hdir h₁) ?_
      fun _ _ _ ↦ trivial)
    rintro ret w₂ (h₂ | ⟨rfl, h₂⟩)
    · exact hrest ret w₂ h₂
    · refine (wp_bind _ _).2 (wp_mono (h₂.reply hsock _) (fun _ w₃ h₃ ↦ ?_) fun _ _ _ ↦ trivial)
      rw [wp_bind, wp_getSession]
      exact told_keeps.bind (keepsListing_checked (keepsListing_sys fun _ _ ↦ rfl)) h₃ fun _ _ h ↦
        .inr h
  · have hstat : ∀ w : World, True → ∀ path, nul ∉ path → Within (fun _ ↦ True) KeepsPlace
        (vfsStat config (cstr w.st.session.virtPath) path) := fun _ _ path _ ↦
      K.vfsStat (fun _ ↦ keepsPlace_modify fun _ ↦ rfl) (fun _ ↦ keepsPlace_sys fun _ ↦ by simp)
        (fun _ ↦ keepsPlace_sys fun _ ↦ by simp) _ path
    exact unopened_keeps.bind (K.listFile (by decide) hstat hargument) hopened₁ fun ret w₂ h₂ ↦
      hrest ret w₂ h₂

/-- Whether `LIST` has `-a`. -/
def listsAll (command : FtpCommand) : Bool := (listTarget command).any Prod.snd

/-- The directory that `LIST` is to list. -/
def listedDir (session : FtpSession) : Bytes :=
  (listTarget session.command).elim (cstr session.virtPath) fun target ↦
    directoryAfter (cstr session.virtPath) target.1

/-- What a session is to list on a data connection. -/
def listRequest (config : FtpConfig) (w : World) (data : ℤ) : ListRequest where
  root := (rootOf w.trace).getD []
  dir := listedDir w.st.session
  optA := listsAll w.st.session.command
  allowLinks := config.allowLinks
  data := data

/-- `accept` yields a descriptor that is not in use, and so not the control connection. -/
def AcceptsApart (e : Env) (sock : ℤ) : Prop :=
  ∀ trace fd r, (e.answer trace (.accept fd)).val = .ok r → (r.1 : ℤ) ≠ sock

/-- The data connection is another than the control connection. -/
theorem acceptDataConn_lists (he : AcceptsApart e conn.sock) (hw : Fresh w₀ conn w) :
    wp e acceptDataConn (fun r w' ↦ match r with
        | .sock fd => Fresh w₀ conn w' ∧ (fd : ℤ) ≠ conn.sock
        | _ => Unopened w₀ w') (fun _ _ ↦ True) w := by
  have K := keepsPlace_steps
  have hsignal := K.serverHandleSignal .acceptDataConn (fun _ ↦ keepsPlace_modify fun _ ↦ rfl)
    (keepsPlace_mark _)
  have haccept : Within Staying Waits (checked (sys (.accept w.st.session.conn.pasvSock))) :=
    (place_steps.checked (place_steps.sys _ (by simp [Call.topic]))).prod
      (keepsIdle_steps.checked (keepsIdle_sys (.inr (.inl rfl))))
  have hresult : wp e (checked (sys (.accept w.st.session.conn.pasvSock)))
      (fun r _ ↦ ∀ x, r = some x → (x.1 : ℤ) ≠ conn.sock) (fun _ _ ↦ True) w := by
    refine wp_checked.2 (wp_sys (fun r hr ↦ ?_) trivial)
    have hapart := he w.trace w.st.session.conn.pasvSock
    rw [hr] at hapart
    obtain ⟨async, err | x⟩ := r
    · exact fun x hx ↦ absurd hx (by simp)
    · rintro _ ⟨⟩
      exact hapart x rfl
  rw [acceptDataConn, wp_bind, wp_getSession, wp_bind]
  refine wp_mono (wp_and (haccept.wp (fresh_keeps.assume w hw)) hresult) ?_ fun _ _ _ ↦ trivial
  rintro (- | ⟨fd, client⟩) w₁ ⟨hk, hfd⟩
  all_goals have hw₁ : Fresh w₀ conn w₁ := fresh_keeps.keepInv w w₁ hw hk
  · have hunopened : Unopened w₀ w₁ := (hw₁ ⟨[], [], false, false, 0⟩).opened
    refine unopened_keeps.bind (K.interruptedToQuit hsignal) hunopened fun b w₂ hw₂ ↦ ?_
    split_ifs
    · exact hw₂
    rw [wp_bind, wp_errnoIs]
    split_ifs
    · exact hw₂
    · exact unopened_keeps.bind (K.replyMsg (by decide) _ (by decide)) hw₂ fun _ _ h ↦ h
  · exact ⟨hw₁, hfd _ rfl⟩

/-- `LIST`, when it returns, has opened no directory, or is told. -/
theorem dolist_told (hw : Jail w) (he : AcceptsApart e w.st.session.conn.sock) :
    wp e (dolist config) (fun _ w' ↦ ListsOr w w'.st.session.conn
        (listRequest config w w'.st.session.conn.dataSock) w')
      (fun _ _ ↦ True) w := by
  have K := keepsPlace_steps
  have hreply : Topic.reply ≠ .path := by decide
  have hdesc : Topic.descriptor ≠ .path := by decide
  have hstart : Fresh w w.st.session.conn w := fun _ ↦
    ⟨⟨hw, rfl, rfl⟩, rfl, rfl, rfl, [], (List.append_nil _).symm, rfl⟩
  have hset : ∀ fd (ret : FtpRet), Within (fun _ ↦ True) KeepsPlace
      (do setDataSock fd; return ret) := fun fd ret ↦
    K.bind (K.modifySession _ fun _ ↦ ⟨rfl, rfl, rfl, .inl hdesc, .inr rfl, .inr rfl, .inl rfl⟩)
      fun _ ↦ K.pure ret
  -- in front of the listing nothing that happens is about an entry
  have hstat : ∀ w : World, Staying w → ∀ path, nul ∉ path → Within Staying Waits
      (vfsStat config (cstr w.st.session.virtPath) path) := fun w hw path hpath ↦
    (place_stat config w hw.1 path hpath).prod
      (keepsIdle_steps.vfsStat (fun _ ↦ keepsIdle_modify fun _ ↦ rfl)
        (fun p ↦ keepsIdle_sys (.inr (.inr (.inl ⟨p, rfl⟩))))
        (fun p ↦ keepsIdle_sys (.inr (.inr (.inr ⟨p, rfl⟩)))) _ path)
  refine dolist_stages fresh_keeps
    (place_listArgument.prod (keepsIdle_steps.listArgument fun _ ↦ keepsIdle_modify fun _ ↦ rfl))
    hstat
    (fun r w' ↦ match r with
      | .sock fd => Fresh w w.st.session.conn w' ∧ (fd : ℤ) ≠ w.st.session.conn.sock
      | _ => Unopened w w')
    (fun w' h ↦ unopened_keeps.wp (K.failedVfsReply hreply) (h ⟨[], [], false, false, 0⟩).opened
      fun _ _ h ↦ .inl h)
    (fun _ h ↦ acceptDataConn_lists he h)
    (fun _ h ↦ unopened_keeps.wp (hset _ _) h fun _ _ h ↦ .inl h)
    (fun _ h ↦ unopened_keeps.wp (hset _ _) h fun _ _ h ↦ .inl h)
    (fun dataFd statarg argument optA w₁ htarget h₁ ↦ ?_) hstart
  -- what was assumed of no listing in particular is now used for the one that is requested
  obtain ⟨h₁, hapart⟩ := h₁
  have hready := h₁ (listRequest config w dataFd)
  have hdir : (listRequest config w dataFd).dir =
      directoryAfter (cstr w.st.session.virtPath) argument := by
    rw [listRequest, listedDir, htarget, Option.elim_some]
  have hall : (listRequest config w dataFd).optA = optA := by
    rw [listRequest, listsAll, htarget, Option.any_some]
  rw [← hall, wp_bind, setDataSock, modifySession, wp_modify]
  have hready' : Awaiting w { w.st.session.conn with dataSock := (dataFd : ℤ) }
      (cstr w.st.session.virtPath) [] (listRequest config w dataFd)
      { w₁ with st := { w₁.st with session := { w₁.st.session with
        conn := { w₁.st.session.conn with dataSock := (dataFd : ℤ) } } } } :=
    ⟨⟨hready.standing.jail.of_eq rfl rfl rfl, hready.standing.virtPath, hready.standing.refused⟩,
      by rw [hready.conn], hready.root, hready.opened, hready.shows⟩
  refine wp_mono (listData_lists rfl rfl (fun root hroot ↦ ?_) hapart.symm
    (nul_not_mem_listTarget htarget) hdir hready' statarg) ?_ fun _ _ _ ↦ trivial
  · rw [listRequest, Option.mem_def.1 hroot, Option.getD_some]
  · rintro ret w₂ (h₂ | h₂)
    · exact .inl h₂
    · rw [h₂.conn]
      exact .inr h₂

/-- What was told is honest if it was all sent, and every line fits its buffer. -/
theorem Concluded.honest_iff (h : Concluded s) (hreplies : s.replies = listReplies) :
    s.Honest ↔ s.failed = false ∧
      ∀ entry ∈ s.due, ∀ line ∈ entry.line, line.length < statBufferSize := by
  have hsaid : ofString "226 Listing sent OK\r\n" ∈ s.replies := by
    rw [hreplies]
    decide
  rw [Listing.Honest, Listing.Complete]
  rcases h with ⟨hended, hs⟩ | ⟨hended, hfailed⟩
  · have hsome : ∀ entry ∈ s.due, entry.line.isSome := fun entry hentry ↦ by
      obtain ⟨line, hline, -, -⟩ := hs.lines entry hentry
      rw [hline, Option.isSome_some]
    have hlength : ∀ entry ∈ s.due,
        (sentLine (entry.line.getD [])).length = (entry.line.getD []).length := by
      intro entry hentry
      obtain ⟨line, hline, hle, -⟩ := hs.lines entry hentry
      rw [hline]
      exact length_sentLine hle
    have hfits : (∀ entry ∈ s.due, sentLine (entry.line.getD []) = entry.line.getD []) ↔
        ∀ entry ∈ s.due, ∀ line ∈ entry.line, line.length < statBufferSize := by
      refine forall₂_congr fun entry hentry ↦ ?_
      obtain ⟨line, hline, hle, hlast⟩ := hs.lines entry hentry
      simp only [hline, Option.getD_some, Option.mem_some_iff, forall_eq']
      -- a line that fills the buffer has lost its LF
      exact ⟨fun heq ↦ lt_of_le_of_ne hle fun hfull ↦ sentLine_ne hfull hlast heq, sentLine_eq⟩
    rw [hs.received, flatMap_eq_iff hlength, hfits, hs.failed, eq_true hsome]
    simp [hsaid, hended, hs.skipped]
  · simp [hsaid, hended, hfailed]

/-- What has been added to the trace since `w₀`. -/
def since (w₀ w : World) : List (Item kernel) := w.trace.drop w₀.trace.length

/-- A directory with these entries, all of which are directories themselves. `send` on 8 fails from
the `n`-th time on. -/
def directoryOf (entries : List Bytes) (n : ℕ) (before : List Call) : (c : Call) → Option (Answer c)
  | .path .lstat _ => some ⟨[], .ok ⟨.dir, 2, 0, 0, 4096, 0⟩⟩
  | .path .stat _ => some ⟨[], .ok ⟨.dir, 2, 0, 0, 4096, 0⟩⟩
  | .readdir _ => some ⟨[], entries[before.countP fun | .readdir _ => true | _ => false]?⟩
  | .send 8 _ =>
    if n ≤ before.countP fun | .send 8 _ => true | _ => false then some ⟨[], .error .econnreset⟩
    else none
  | _ => none

theorem acceptsApart_directoryOf (entries : List Bytes) (n : ℕ) :
    AcceptsApart (clientEnvWith (directoryOf entries n) []) 4 := by
  rintro trace fd r ⟨⟩
  decide

/-- A session that is to list everything in `pub`. -/
def listedWorld (entries : List Bytes) (n : ℕ) : World :=
  (dolist loadDefaults (clientEnvWith (directoryOf entries n) []) listingWorld).2

end FtpServer
