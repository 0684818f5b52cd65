import FtpServer.Proofs.Answers
import FtpServer.Proofs.Descriptors

/-!
# `LIST` and the current directory

`list_directory` changes into the directory that it lists, and back behind the listing. If the
directory cannot be opened it returns at once, and the session stays in it (`dolist_virtPath`).

* `opendirs` lists how the calls of `opendir` ended, and `refusedDirs` counts those that failed.
* `Standing w₀ p n` says that the session is in `p`, and that so many directories were refused since
  `w₀`; all actions but the change of directory and `opendir` keep it (`KeepsPlace`).
* `listDirectory_whereabouts` says where `list_directory` leaves the session.
-/

namespace FtpServer

open CString Effect Effect.Proc PathText

/-! ### What `LIST` is asked, and what fails -/

/-- Whether a call of `opendir` opened its directory. -/
def opendir? : Item kernel → Option Bool
  | .call (.path .opendir _) r =>
    match r.val with
    | .ok _ => some true
    | .error _ => some false
  | _ => none

/-- How the calls of `opendir` ended. -/
def opendirs (trace : List (Item kernel)) : List Bool := trace.filterMap opendir?

/-- How many of them failed. -/
def refusedDirs (trace : List (Item kernel)) : ℕ := (opendirs trace).count false

/-- Where a change of directory leads. -/
def directoryAfter (cwd path : Bytes) : Bytes :=
  match normalizeWithin slash dot ftpMaxPath (baseOf cwd path) path with
  | some dir => render slash dir
  | none => cwd

/-- What a session is to list is its current directory. -/
def ListsCurrent (session : FtpSession) : Prop :=
  (listTarget session.command).map (fun x ↦ directoryAfter (cstr session.virtPath) x.1) =
    some (cstr session.virtPath)

instance (session : FtpSession) : Decidable (ListsCurrent session) :=
  inferInstanceAs (Decidable (_ = _))

/-! ### Actions that stay in the directory -/

/-- The directory is the same, and there was no `opendir`. -/
def KeepsPlace (w w' : World) : Prop :=
  w'.st.session.virtPath = w.st.session.virtPath ∧ opendirs w'.trace = opendirs w.trace

/-- Standing still is a relation of that kind. -/
theorem keepsPlace_guard : Guard (fun _ ↦ True) KeepsPlace where
  refl _ _ := ⟨rfl, rfl⟩
  trans _ h₁ h₂ := ⟨h₂.1.trans h₁.1, h₂.2.trans h₁.2⟩
  keep _ _ := trivial

/-- An entry that opens no directory leaves their list as it is. -/
theorem opendirs_concat {trace : List (Item kernel)} {x : Item kernel} (hx : opendir? x = none) :
    opendirs (trace ++ [x]) = opendirs trace := by
  rw [opendirs, List.filterMap_append, List.filterMap_cons_none hx, List.filterMap_nil,
    List.append_nil, opendirs]

theorem keepsPlace_modify {f : Process → Process}
    (hf : ∀ s, (f s).session.virtPath = s.session.virtPath) :
    Within (fun _ ↦ True) KeepsPlace (Proc.modify f) :=
  within_modify fun w _ ↦ ⟨hf w.st, rfl⟩

theorem keepsPlace_mark (n : Note) : Within (fun _ ↦ True) KeepsPlace (mark n) :=
  within_mark fun _ _ ↦ ⟨rfl, opendirs_concat rfl⟩

/-- All calls but one leave the place alone. -/
theorem keepsPlace_sys {c : Call} (hc : ∀ path, c ≠ .path .opendir path) :
    Within (fun _ ↦ True) KeepsPlace (sys c) := by
  refine within_sys keepsPlace_guard fun w r _ ↦ ⟨rfl, opendirs_concat ?_⟩
  rcases c with ⟨op, path⟩ | _ <;> try rfl
  cases op with
  | opendir => exact absurd rfl (hc path)
  | _ => rfl

/-- So do all actions that name no path. -/
theorem keepsPlace_steps : StepLogic (· ≠ .path) (fun _ ↦ True) KeepsPlace where
  toCallLogic := .of_observe keepsPlace_guard (by decide) (by decide)
    (fun _ hc ↦ keepsPlace_sys fun _ h ↦ absurd (h ▸ rfl) hc)
    (fun _ ↦ keepsPlace_modify fun _ ↦ rfl) fun _ _ ↦ keepsPlace_mark _
  statePool _ _ := keepsPlace_modify fun _ ↦ rfl
  modifySession _ hf := keepsPlace_modify fun s ↦ (hf s.session).virtPath
  undefined _ _ _ _ := keepsPlace_mark _

/-- Resolving a path works on a buffer of the pool. -/
theorem keepsPlace_vfsRealpath (cwd path : Bytes) :
    Within (fun _ ↦ True) KeepsPlace (vfsRealpath cwd path) :=
  keepsPlace_steps.vfsRealpath (fun _ ↦ keepsPlace_modify fun _ ↦ rfl) cwd path

/-- That the session is jailed and that it stays where it is go together. -/
theorem place_steps : StepLogic (fun t ↦ t ≠ .path ∧ t ≠ .path) (fun w ↦ Jail w ∧ True)
    fun w w' ↦ KeepsJail w w' ∧ KeepsPlace w w' :=
  jail_steps.prod keepsPlace_steps

/-- `vfs_stat` may name a path, but opens nothing. -/
theorem place_stat (config : FtpConfig) (w : World) (hw : Jail w ∧ True) (path : Bytes)
    (hpath : nul ∉ path) :
    Within (fun w ↦ Jail w ∧ True) (fun w w' ↦ KeepsJail w w' ∧ KeepsPlace w w')
      (vfsStat config (cstr w.st.session.virtPath) path) :=
  ((jail_handlers config).vfsStat w hw.1 path hpath).prod
    (keepsPlace_steps.vfsStat (fun _ ↦ keepsPlace_modify fun _ ↦ rfl)
      (fun _ ↦ keepsPlace_sys fun _ ↦ by simp) (fun _ ↦ keepsPlace_sys fun _ ↦ by simp) _ path)

/-- `LIST` cuts its options off the line. -/
theorem place_listArgument :
    Within (fun w ↦ Jail w ∧ True) (fun w w' ↦ KeepsJail w w' ∧ KeepsPlace w w') listArgument :=
  place_steps.listArgument fun _ ↦ (within_modify fun _ hw ↦ hw.of_eq rfl rfl rfl).prod
    (keepsPlace_modify fun _ ↦ rfl)

theorem place_serverHandleSignal (waiter : Waiter) :
    Within (fun w ↦ Jail w ∧ True) (fun w w' ↦ KeepsJail w w' ∧ KeepsPlace w w')
      (serverHandleSignal waiter) :=
  ((jail_handlers loadDefaults).serverHandleSignal waiter trivial).prod
    (keepsPlace_steps.serverHandleSignal waiter (fun _ ↦ keepsPlace_modify fun _ ↦ rfl)
      (keepsPlace_mark _))

/-! ### Where a session is -/

/-- The session is in `dir`, and since `w₀` an `opendir` failed `n` times. -/
structure Standing (w₀ : World) (dir : Bytes) (n : ℕ) (w : World) : Prop where
  jail : Jail w
  virtPath : cstr w.st.session.virtPath = dir
  refused : refusedDirs w.trace = refusedDirs w₀.trace + n

variable {w₀ w : World} {dir path : Bytes} {n : ℕ} {e : Env} {config : FtpConfig}

/-- What keeps the place keeps standing there. -/
theorem standing_keeps (w₀ : World) (dir : Bytes) (n : ℕ) :
    Keeps (fun w ↦ Jail w ∧ True) (fun w w' ↦ KeepsJail w w' ∧ KeepsPlace w w')
      (Standing w₀ dir n) fun _ ↦ True where
  assume _ h := ⟨h.jail, trivial⟩
  keepInv _ _ h hk := ⟨hk.1, (congrArg cstr hk.2.1).trans h.virtPath,
    (congrArg (List.count false) hk.2.2).trans h.refused⟩
  mid _ _ := trivial

/-- The same of one action. -/
theorem Standing.keep (h : Standing w₀ dir n w) {w' : World} (hjail : Jail w')
    (hk : KeepsPlace w w') : Standing w₀ dir n w' :=
  (standing_keeps w₀ dir n).keepInv w w' h ⟨hjail, hk⟩

/-- A canonical path becomes the directory. -/
theorem Standing.copy (h : Standing w₀ dir n w) {p : Bytes} (hp : Canonical p) (hnul : nul ∉ p) :
    Standing w₀ p n { w with st := { w.st with session :=
      { w.st.session with virtPath := (strlcpy w.st.session.virtPath p ftpMaxPath).1 } } } where
  jail := h.jail.copy hp hnul
  virtPath := cstr_strlcpy_canonical h.jail.length hp hnul
  refused := h.refused

/-- `vfs_chdir` leads to where the path leads, or nowhere if it is too long. -/
theorem vfsChdir_standing (h : Standing w₀ dir n w) (hpath : nul ∉ path) :
    wp e (vfsChdir path) (fun _ ↦ Standing w₀ (directoryAfter dir path) n) (fun _ _ ↦ True) w := by
  rw [vfsChdir, wp_bind, wp_getSession, wp_bind]
  refine wp_mono (wp_and ((keepsPlace_vfsRealpath _ _).wp trivial) (vfsRealpath_jail h.jail
    h.jail.canonical (zero_not_mem_cstr _) hpath)) ?_ fun _ _ _ ↦ trivial
  rw [h.virtPath]
  rintro (_ | _) w₁ ⟨hk, hjail, -, hlocated⟩
  · have hnone : normalizeWithin slash dot ftpMaxPath (baseOf dir path) path = none := hlocated
    have hstay : directoryAfter dir path = dir := by rw [directoryAfter, hnone]
    rw [hstay]
    exact h.keep hjail hk
  · obtain ⟨pool, d, hpool, hd, hrender, hcanonical⟩ := hlocated
    have hmove : directoryAfter dir path = cstr pool.virtPath := by rw [directoryAfter, hd, hrender]
    simp only [Bool.not_true, if_neg Bool.false_ne_true, wp_bind, wp_get, hpool]
    rw [hmove]
    exact (h.keep hjail hk).copy hcanonical (zero_not_mem_cstr _)

/-- The call of `opendir`, on the path that the pool holds. -/
theorem sys_opendir_standing (h : Standing w₀ dir n w) (hbelow : BelowRoot w.trace path) :
    wp e (checked (sys (.path .opendir path)))
      (fun r ↦ Standing w₀ dir (if r.isSome then n else n + 1)) (fun _ _ ↦ True) w := by
  refine wp_checked.2 (wp_sys (fun r _ ↦ ?_) trivial)
  have hjail : Jail (answered w (.path .opendir path) r) :=
    h.jail.append (x := .call (.path .opendir path) r) rfl hbelow rfl rfl rfl
  have hcount : refusedDirs (answered w (.path .opendir path) r).trace = refusedDirs w.trace +
      ([.call (.path .opendir path) r].filterMap opendir?).count false := by
    rw [answered_trace, refusedDirs, opendirs, List.filterMap_append, List.count_append]
    rfl
  rw [h.refused] at hcount
  obtain ⟨async, err | d⟩ := r
  · exact ⟨hjail.of_eq rfl rfl rfl, h.virtPath, hcount⟩
  · exact ⟨hjail, h.virtPath, hcount⟩

/-- `vfs_opendir` leaves the session where it is, and a refusal in the trace. -/
theorem vfsOpendir_standing (h : Standing w₀ dir n w) :
    wp e (vfsOpendir (cstr w.st.session.virtPath) [dot])
      (fun r ↦ Standing w₀ dir (if r.isSome then n else n + 1)) (fun _ _ ↦ True) w := by
  have hcwd := h.jail.canonical
  have hnul := zero_not_mem_cstr w.st.session.virtPath
  have hdot : nul ∉ [dot] := by decide
  refine (wp_bind _ _).2 (wp_mono (wp_and ((keepsPlace_vfsRealpath _ _).wp trivial)
    (wp_and (vfsRealpath_wp h.jail hcwd hnul hdot)
      (vfsRealpath_dot h.jail hcwd hnul))) ?_ fun _ _ _ ↦ trivial)
  rintro ok w₁ ⟨hk, ⟨hjail, hres⟩, rfl⟩
  rw [Bool.not_true, if_neg Bool.false_ne_true, wp_bind]
  exact realPath_wp hjail (hres rfl) fun path hbelow ↦ sys_opendir_standing (h.keep hjail hk) hbelow

/-! ### The command -/

/-- How a listing of `path` ends: where it began, or in the directory that could not be opened. -/
def Whereabouts (w₀ : World) (path : Bytes) (w : World) : Prop :=
  Standing w₀ (cstr w₀.st.session.virtPath) 0 w ∨
    Standing w₀ (directoryAfter (cstr w₀.st.session.virtPath) path) 1 w

/-- What is not about directories does not matter. -/
theorem Whereabouts.wp {m : Program FtpRet} (h : Whereabouts w₀ path w)
    (hm : Within (fun w ↦ Jail w ∧ True) (fun w w' ↦ KeepsJail w w' ∧ KeepsPlace w w') m) :
    Proc.wp e m (fun _ ↦ Whereabouts w₀ path) (fun _ _ ↦ True) w := by
  rcases h with h | h
  · exact (standing_keeps _ _ _).wp hm h fun _ _ h' ↦ .inl h'
  · exact (standing_keeps _ _ _).wp hm h fun _ _ h' ↦ .inr h'

section Command

variable (h : Standing w₀ (cstr w₀.st.session.virtPath) 0 w)
include h

/-- A directory that was entered is left again, unless it was refused. -/
theorem listDirectory_whereabouts (hpath : nul ∉ path) (optA : Bool) :
    wp e (listDirectory config path optA) (fun _ ↦ Whereabouts w₀ path) (fun _ _ ↦ True) w := by
  have L := place_steps
  have hdesc : Topic.descriptor ≠ .path ∧ Topic.descriptor ≠ .path := by decide
  rw [listDirectory, wp_bind, wp_getSession, wp_bind]
  refine wp_mono (vfsChdir_standing h hpath) (fun _ w₁ h₁ ↦ ?_) fun _ _ _ ↦ trivial
  rw [wp_bind, wp_getSession, wp_bind]
  refine wp_mono (vfsOpendir_standing h₁) (fun r w₂ h₂ ↦ ?_) fun _ _ _ ↦ trivial
  rcases r with - | drv
  · exact (standing_keeps _ _ _).wp (L.failedVfsReply_pure (by decide) _) h₂ fun _ _ h' ↦ .inr h'
  · have hentries := L.listEntries (by decide) (place_stat config) (by decide) drv optA
    refine (standing_keeps _ _ _).bind hentries h₂ fun _ w₃ h₃ ↦ ?_
    have hclose := L.bind (L.checked (L.sys (.closedir drv) hdesc)) fun _ ↦ L.pure ()
    refine (standing_keeps _ _ _).bind hclose h₃ fun _ w₄ h₄ ↦ .inl ?_
    rw [← h.virtPath]
    exact h₄.copy h.jail.canonical (zero_not_mem_cstr _)

/-- A file is listed from where the session stands. -/
theorem listData_whereabouts (statarg : Stat) (hpath : nul ∉ path) (optA : Bool) :
    wp e (listData config statarg path optA) (fun _ ↦ Whereabouts w₀ path) (fun _ _ ↦ True) w := by
  have L := place_steps
  have hreply : Topic.reply ≠ .path ∧ Topic.reply ≠ .path := by decide
  have hrest : ∀ ret, Within (fun w ↦ Jail w ∧ True) (fun w w' ↦ KeepsJail w w' ∧ KeepsPlace w w')
      (do
        listReply ret
        let _ ← checked (sys (.close (← getSession).conn.dataSock))
        return FtpRet.success) := fun ret ↦
    L.bind (by cases ret <;> exact L.replyMsg hreply _ (by decide)) fun _ ↦
      L.bind L.getSession fun _ ↦ L.bind (L.close (by decide) _) fun _ ↦ L.pure _
  refine (standing_keeps _ _ _).bind (L.replyMsg hreply _ (by decide)) h fun _ w₁ h₁ ↦ ?_
  split_ifs
  · exact (wp_bind _ _).2 (wp_mono (listDirectory_whereabouts h₁ hpath optA)
      (fun ret _ h₂ ↦ h₂.wp (hrest ret)) fun _ _ _ ↦ trivial)
  · exact (standing_keeps _ _ _).bind (L.listFile (by decide) (place_stat config) hpath) h₁
      fun ret _ h₂ ↦ Whereabouts.wp (.inl h₂) (hrest ret)

end Command

/-- How `LIST` ends. -/
theorem dolist_whereabouts (hw : Jail w) :
    wp e (dolist config) (fun _ w' ↦ Standing w (cstr w.st.session.virtPath) 0 w' ∨
      ∃ path optA, listTarget w.st.session.command = some (path, optA) ∧
        Standing w (directoryAfter (cstr w.st.session.virtPath) path) 1 w') (fun _ _ ↦ True) w := by
  have L := place_steps
  have hreply : Topic.reply ≠ .path ∧ Topic.reply ≠ .path := by decide
  have hdesc : Topic.descriptor ≠ .path ∧ Topic.descriptor ≠ .path := by decide
  have hset : ∀ fd, Within (fun w ↦ Jail w ∧ True) (fun w w' ↦ KeepsJail w w' ∧ KeepsPlace w w')
      (setDataSock fd) := fun _ ↦
    L.modifySession _ fun _ ↦ ⟨rfl, rfl, rfl, .inl hdesc, .inr rfl, .inr rfl, .inl rfl⟩
  have h : Standing w (cstr w.st.session.virtPath) 0 w := ⟨hw, rfl, rfl⟩
  have hstay : ∀ {m : Program FtpRet} {w' : World},
      Within (fun w ↦ Jail w ∧ True) (fun w w' ↦ KeepsJail w w' ∧ KeepsPlace w w') m →
      Standing w (cstr w.st.session.virtPath) 0 w' → wp e m (fun _ w' ↦
        Standing w (cstr w.st.session.virtPath) 0 w' ∨
        ∃ path optA, listTarget w.st.session.command = some (path, optA) ∧
          Standing w (directoryAfter (cstr w.st.session.virtPath) path) 1 w')
        (fun _ _ ↦ True) w' :=
    fun hm h' ↦ (standing_keeps _ _ _).wp hm h' fun _ _ h' ↦ .inl h'
  refine dolist_stages (standing_keeps _ _ _) place_listArgument (place_stat config)
    (fun _ ↦ Standing w (cstr w.st.session.virtPath) 0)
    (fun _ h' ↦ hstay (L.failedVfsReply hreply) h')
    (fun _ h' ↦ (standing_keeps _ _ _).wp (L.acceptDataConn hreply
      (fun _ ↦ L.sys _ hdesc) (place_serverHandleSignal _)) h' fun _ _ h' ↦ h')
    (fun _ h' ↦ hstay (L.bind (hset _) fun _ ↦ L.pure _) h')
    (fun _ h' ↦ hstay (L.bind (hset _) fun _ ↦ L.pure _) h')
    (fun dataFd statarg path optA w₁ htarget h₁ ↦ ?_) h
  refine (standing_keeps _ _ _).bind (hset dataFd) h₁ fun _ w₂ h₂ ↦ ?_
  refine wp_mono (listData_whereabouts h₂ statarg (nul_not_mem_listTarget htarget) optA) ?_
    fun _ _ _ ↦ trivial
  rintro _ w₃ (h₃ | h₃)
  · exact .inl h₃
  · exact .inr ⟨path, optA, htarget, h₃⟩

/-- **`LIST` leaves the session where it was**, however the calls that it makes end, if and only if
no `opendir` fails or the directory to be listed is the current one. -/
theorem dolist_virtPath (config : FtpConfig) (e : Env) (w w' : World) (ret : FtpRet) (hw : Jail w)
    (hrun : dolist config e w = (.ret ret, w')) :
    cstr w'.st.session.virtPath = cstr w.st.session.virtPath ↔
      refusedDirs w'.trace = refusedDirs w.trace ∨ ListsCurrent w.st.session := by
  rcases wp_ret (dolist_whereabouts hw) hrun with h | ⟨path, optA, htarget, h⟩
  · exact iff_of_true h.virtPath (.inl h.refused)
  · rw [h.virtPath, ListsCurrent, htarget, h.refused, Option.map_some, Option.some_inj]
    exact ⟨.inr, fun hor ↦ hor.resolve_left (by omega)⟩

/-- A session below `/srv` that is to list `pub`. -/
def listingWorld : World :=
  ⟨sessionWith (ofString "LIST") (ofString "-a pub"), [.note (.rooted (ofString "/srv"))]⟩

/-- The session is below its root. -/
theorem jail_listingWorld : Jail listingWorld where
  length := by decide +kernel
  canonical := by decide +kernel
  pool := by
    rintro _ ⟨⟩
    exact ⟨by decide +kernel, by decide, rfl⟩
  jailed := atEach_concat.2 ⟨atEach_nil _, trivial⟩

/-- Here all directories can be opened. -/
theorem dolist_virtPath_empty :
    cstr (dolist loadDefaults (clientEnv []) listingWorld).2.st.session.virtPath =
        cstr listingWorld.st.session.virtPath ↔
      refusedDirs (dolist loadDefaults (clientEnv []) listingWorld).2.trace =
        refusedDirs listingWorld.trace ∨ ListsCurrent listingWorld.st.session :=
  dolist_virtPath loadDefaults (clientEnv []) listingWorld
    (dolist loadDefaults (clientEnv []) listingWorld).2 .success jail_listingWorld
    (run_eq (by decide +kernel))

/-- If `pub` cannot be opened, the session is in it behind `LIST`. -/
theorem dolist_virtPath_moves :
    let run := dolist loadDefaults (clientEnvWith unreadableDirectory []) listingWorld
    run.1 = .ret .success ∧ cstr listingWorld.st.session.virtPath = ofString "/" ∧
      cstr run.2.st.session.virtPath = ofString "/pub" := by
  decide +kernel

end FtpServer
