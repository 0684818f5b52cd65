import FtpServer.Library.Disk
import FtpServer.Proofs.Descriptors
import FtpServer.Proofs.ReplyLines
import FtpServer.Proofs.UploadAnswer

/-!
# What `STOR` does to the files

`dostor` opens its file with `creat`, which makes an existing file empty, before it has a data
connection. So a `STOR` that fails for want of one has emptied the file (`dostor_atomic`), and one
that resumes an upload behind `REST` finds nothing to resume (`dostor_resumes`).

* `diskAfter` plays a trace on a disk, and `creations` are the files that were made empty in it.
* `Untouched`, `Emptied` and `Stored` are the three states that a `STOR` goes through.
* `dostor_stored` has the files at the end in terms of `FileTrace`, and both results follow from it:
  one about failures (`dostor_atomic`), the other about what follows a `REST` (`dostor_resumes`).
-/

namespace FtpServer

open CString Effect Effect.Proc OpenFile

/-! ### The files, as the trace changes them -/

/-- What a call means for the files. -/
def diskStep (d : Disk Bytes ℤ) : Item kernel → Disk Bytes ℤ
  | .call (.path (.creat _) path) r =>
    match r.val with
    | .ok fd => d.create path (fd : ℕ)
    | .error _ => d
  | .call (.path .open path) r =>
    match r.val with
    | .ok fd => d.attach path (fd : ℕ)
    | .error _ => d
  | .call (.path .unlink path) r =>
    match r.val with
    | .ok () => d.remove path
    | .error _ => d
  | .call (.lseek fd offset) r =>
    match r.val with
    | .ok () => d.seek fd offset.toNat
    | .error _ => d
  | .call (.write fd buf) r =>
    match r.val with
    | .ok n => d.write fd (buf.take n.1)
    | .error _ => d
  | .call (.close fd) _ => d.close fd
  | _ => d

/-- The disk after a trace that began with these files, none of which was open. -/
def diskAfter (files : Bytes → Option Bytes) (trace : List (Item kernel)) : Disk Bytes ℤ :=
  trace.foldl diskStep ⟨files, fun _ ↦ none⟩

/-- The files after a trace. -/
def filesAfter (files : Bytes → Option Bytes) (trace : List (Item kernel)) : Bytes → Option Bytes :=
  (diskAfter files trace).files

/-- The path that was given to a `creat` that succeeded. -/
def created? : Item kernel → Option Bytes
  | .call (.path (.creat _) path) r =>
    match r.val with
    | .ok _ => some path
    | .error _ => none
  | _ => none

/-- The files that were created, or made empty. -/
def creations (trace : List (Item kernel)) : List Bytes := trace.filterMap created?

/-- The reply with which the data phase begins. -/
def transferStarting : Bytes := ofString "125 Data connection OK, transfer starting\r\n"

/-- What was replied was replied. -/
theorem mem_repliesOf_extends {S : Item kernel → Prop} {w w' : World} (hk : Extends S w w')
    {msg : Bytes} (h : msg ∈ repliesOf w.trace) : msg ∈ repliesOf w'.trace := by
  obtain ⟨suffix, ht, -⟩ := hk
  rw [ht, repliesOf, List.filterMap_append]
  exact List.mem_append_left _ h

/-! ### Actions that do nothing to the files -/

/-- An entry that does nothing to the files or the data. -/
structure Still (x : Item kernel) : Prop extends Neutral x where
  disk : ∀ d, diskStep d x = d
  created : created? x = none

/-- Nothing happened to the files, the data or the restart position. -/
def KeepsStill (w w' : World) : Prop :=
  w'.st.session.restartPos = w.st.session.restartPos ∧ Extends Still w w'

theorem keepsStill_guard : Guard (fun _ ↦ True) KeepsStill where
  refl w _ := ⟨rfl, .refl w⟩
  trans _ h₁ h₂ := ⟨h₂.1.trans h₁.1, h₁.2.trans h₂.2⟩
  keep _ _ := trivial

theorem keepsStill_modify {f : Process → Process}
    (hf : ∀ s, (f s).session.restartPos = s.session.restartPos) :
    Within (fun _ ↦ True) KeepsStill (Proc.modify f) :=
  within_modify fun w _ ↦ ⟨hf w.st, .of_eq rfl⟩

theorem keepsStill_mark (n : Note) : Within (fun _ ↦ True) KeepsStill (mark n) :=
  within_mark fun _ _ ↦ ⟨rfl, .concat rfl ⟨neutral_note n, fun _ ↦ rfl, rfl⟩⟩

/-- The calls that are not about files. -/
abbrev NoFile (t : Topic) : Prop := t ≠ .path ∧ t ≠ .data ∧ t ≠ .descriptor ∧ t ≠ .restart

/-- A call that is about no file leaves all of them still. -/
theorem keepsStill_sys {c : Call} (hc : NoFile c.topic ∨ ∃ fd, c = .accept fd) :
    Within (fun _ ↦ True) KeepsStill (sys c) := by
  refine within_sys keepsStill_guard fun w r _ ↦ ⟨rfl, .concat rfl ?_⟩
  rcases hc with ⟨hpath, hdata, hdesc, -⟩ | ⟨fd, rfl⟩
  · cases c with
    | path => exact absurd rfl hpath
    | lseek | write | read | sendfile | readdir => exact absurd rfl hdata
    | close | closedir | socket | accept => exact absurd rfl hdesc
    | _ => exact ⟨neutral_call (by simp [Call.topic]) r, fun _ ↦ rfl, rfl⟩
  · exact ⟨neutral_call (by simp [Call.topic]) r, fun _ ↦ rfl, rfl⟩

/-- So do the actions without one. -/
theorem keepsStill_steps : StepLogic NoFile (fun _ ↦ True) KeepsStill where
  toCallLogic := .of_observe keepsStill_guard (by decide) (by decide)
    (fun _ hc ↦ keepsStill_sys (.inl hc)) (fun _ ↦ keepsStill_modify fun _ ↦ rfl)
    fun _ _ ↦ keepsStill_mark _
  statePool _ _ := keepsStill_modify fun _ ↦ rfl
  modifySession _ hf := keepsStill_modify fun s ↦
    (hf s.session).restartPos.resolve_left fun h ↦ h.2.2.2 rfl
  undefined _ _ _ _ := keepsStill_mark _

theorem keepsStill_handleSignal (waiter : Waiter) :
    Within (fun _ ↦ True) KeepsStill (serverHandleSignal waiter) :=
  keepsStill_steps.serverHandleSignal waiter (fun _ ↦ keepsStill_modify fun _ ↦ rfl)
    (keepsStill_mark _)

section Still

variable {w w' : World} (hk : Extends Still w w')
include hk

/-- Then the disk is as it was, -/
theorem diskAfter_still (files : Bytes → Option Bytes) :
    diskAfter files w'.trace = diskAfter files w.trace :=
  hk.foldl (fun _ hx d ↦ hx.disk d) _

/-- nothing was created, -/
theorem creations_still : creations w'.trace = creations w.trace :=
  hk.filterMap fun _ hx ↦ hx.created

/-- and nothing stored. -/
theorem keepsStored_of_still : KeepsStored w w' := hk.mono fun _ hx ↦ hx.toNeutral

end Still

/-! ### Actions that do to the files what they do to the open one -/

/-- An entry that does to the file that is open what it does to the file as `onFile` sees it. -/
structure Tracked (path : Bytes) (fd : ℤ) (x : Item kernel) : Prop where
  disk : ∀ d f, d.Shows path fd f → (diskStep d x).Shows path fd (onFile fd f x)
  created : created? x = none

def KeepsTracked (path : Bytes) (fd : ℤ) (w w' : World) : Prop := Extends (Tracked path fd) w w'

section Tracked

variable {path : Bytes} {fd : ℤ}

/-- A file that is tracked is not touched by what is still. -/
theorem Still.tracked {x : Item kernel} (hx : Still x) : Tracked path fd x where
  disk d f h := by
    rw [hx.disk, hx.file]
    exact h
  created := hx.created

theorem keepsTracked_guard : Guard (fun _ ↦ True) (KeepsTracked path fd) where
  refl w _ := .refl w
  trans _ h₁ h₂ := h₁.trans h₂
  keep _ _ := trivial

/-- The same of actions. -/
theorem keepsTracked_of_still {α : Type} {m : Program α}
    (hm : Within (fun _ ↦ True) KeepsStill m) : Within (fun _ ↦ True) (KeepsTracked path fd) m :=
  hm.mono (fun _ h ↦ h) fun _ _ _ h ↦ h.2.mono fun _ hx ↦ hx.tracked

/-- Calls on the descriptor are about its file. -/
theorem keepsTracked_sys {c : Call} (hc : c.topic ≠ .path ∧ c.topic ≠ .descriptor) :
    Within (fun _ ↦ True) (KeepsTracked path fd) (sys c) := by
  refine within_sys keepsTracked_guard fun w r _ ↦ .concat rfl ?_
  cases c with
  | path => exact absurd rfl hc.1
  | close | closedir | socket | accept => exact absurd rfl hc.2
  | lseek fd' offset =>
    refine ⟨fun d f h ↦ ?_, rfl⟩
    obtain ⟨async, err | -⟩ := r
    · exact h
    · exact h.seek fd' offset.toNat
  | write fd' buf =>
    refine ⟨fun d f h ↦ ?_, rfl⟩
    obtain ⟨async, err | n⟩ := r
    · exact h
    · exact h.write fd' (buf.take n.1)
  | _ => exact ⟨fun _ _ h ↦ h, rfl⟩

/-- So are the actions of a transfer. -/
theorem keepsTracked_steps :
    StepLogic (fun t ↦ t ≠ .path ∧ t ≠ .descriptor) (fun _ ↦ True) (KeepsTracked path fd) where
  toCallLogic := .of_observe keepsTracked_guard (by decide) (by decide)
    (fun _ hc ↦ keepsTracked_sys hc) (fun _ ↦ within_setErrno fun _ _ ↦ .of_eq rfl)
    fun _ _ ↦ keepsTracked_of_still (keepsStill_mark _)
  statePool _ _ := within_modify fun _ _ ↦ .of_eq rfl
  modifySession _ _ := within_modify fun _ _ ↦ .of_eq rfl
  undefined _ _ _ _ := keepsTracked_of_still (keepsStill_mark _)

/-- The file that is open is `fileOf`, under its name. -/
theorem KeepsTracked.shows {w w' : World} (hk : KeepsTracked path fd w w')
    {files : Bytes → Option Bytes}
    (h : (diskAfter files w.trace).Shows path fd (fileOf fd [] w.trace)) :
    (diskAfter files w'.trace).Shows path fd (fileOf fd [] w'.trace) := by
  obtain ⟨suffix, ht, hs⟩ := hk
  rw [ht, diskAfter, fileOf, List.foldl_append, List.foldl_append, ← diskAfter, ← fileOf]
  generalize diskAfter files w.trace = d at h ⊢
  generalize fileOf fd [] w.trace = f at h ⊢
  clear ht
  induction suffix generalizing d f with
  | nil => exact h
  | cons x suffix ih =>
    obtain ⟨hx, hsuffix⟩ := List.forall_mem_cons.1 hs
    exact ih hsuffix _ _ (hx.disk d f h)

end Tracked

/-! ### Actions that at most close files -/

/-- An entry that does nothing to the contents of files or to the data. -/
structure Closing (x : Item kernel) : Prop extends Neutral x where
  disk : ∀ d, (diskStep d x).files = d.files
  created : created? x = none

def KeepsClosing (w w' : World) : Prop := Extends Closing w w'

theorem keepsClosing_guard : Guard (fun _ ↦ True) KeepsClosing where
  refl w _ := .refl w
  trans _ h₁ h₂ := h₁.trans h₂
  keep _ _ := trivial

/-- Behind the transfer, descriptors are closed. -/
theorem keepsClosing_of_still {α : Type} {m : Program α}
    (hm : Within (fun _ ↦ True) KeepsStill m) : Within (fun _ ↦ True) KeepsClosing m :=
  hm.mono (fun _ h ↦ h) fun _ _ _ h ↦ h.2.mono fun _ hx ↦
    ⟨hx.toNeutral, fun d ↦ congrArg Disk.files (hx.disk d), hx.created⟩

/-- To close one is about no contents. -/
theorem keepsClosing_sys {c : Call} (hc : c.topic ≠ .path ∧ c.topic ≠ .data) :
    Within (fun _ ↦ True) KeepsClosing (sys c) := by
  refine within_sys keepsClosing_guard fun w r _ ↦ .concat rfl ⟨neutral_call hc.2 r, ?_, ?_⟩
  all_goals
    cases c with
    | path => exact absurd rfl hc.1
    | lseek | write | read | sendfile | readdir => exact absurd rfl hc.2
    | _ => first | exact fun _ ↦ rfl | rfl

/-- Nor is what else happens there. -/
theorem keepsClosing_steps :
    StepLogic (fun t ↦ t ≠ .path ∧ t ≠ .data) (fun _ ↦ True) KeepsClosing where
  toCallLogic := .of_observe keepsClosing_guard (by decide) (by decide)
    (fun _ hc ↦ keepsClosing_sys hc) (fun _ ↦ within_setErrno fun _ _ ↦ .of_eq rfl)
    fun _ _ ↦ keepsClosing_of_still (keepsStill_mark _)
  statePool _ _ := within_modify fun _ _ ↦ .of_eq rfl
  modifySession _ _ := within_modify fun _ _ ↦ .of_eq rfl
  undefined _ _ _ _ := keepsClosing_of_still (keepsStill_mark _)

section Closing

variable {w w' : World} (hk : KeepsClosing w w')
include hk

/-- The files are as they were when the transfer ended, -/
theorem filesAfter_closing (files : Bytes → Option Bytes) :
    filesAfter files w'.trace = filesAfter files w.trace := by
  obtain ⟨suffix, ht, hs⟩ := hk
  rw [ht, filesAfter, filesAfter, diskAfter, List.foldl_append, ← diskAfter]
  generalize diskAfter files w.trace = d
  clear ht
  induction suffix generalizing d with
  | nil => rfl
  | cons x suffix ih =>
    obtain ⟨hx, hsuffix⟩ := List.forall_mem_cons.1 hs
    rw [List.foldl_cons, ih hsuffix, hx.disk]

/-- nothing was created, -/
theorem creations_closing : creations w'.trace = creations w.trace :=
  hk.filterMap fun _ hx ↦ hx.created

/-- and nothing stored. -/
theorem keepsStored_of_closing : KeepsStored w w' := hk.mono fun _ hx ↦ hx.toNeutral

end Closing

/-! ### The stages of `STOR` -/

variable {config : FtpConfig} {e : Env} {w : World} {start : ℤ} {path : Bytes} {fd : ℕ}

/-- Nothing was done yet. -/
structure Untouched (start : ℤ) (w : World) : Prop where
  restartPos : w.st.session.restartPos = start
  disk : ∀ files, diskAfter files w.trace = ⟨files, fun _ ↦ none⟩
  creations : creations w.trace = []
  storing : ∀ n : ℕ, start = n → ∀ fd, Storing n fd n w.trace
  file : ∀ fd, fileOf fd [] w.trace = ⟨[], 0⟩
  upload : uploadOf w.trace = []

/-- The file is there, empty and open. -/
structure Emptied (start : ℤ) (path : Bytes) (fd : ℕ) (w : World) : Prop where
  restartPos : w.st.session.restartPos = start
  disk : ∀ files,
    diskAfter files w.trace = Disk.create ⟨files, fun _ ↦ none⟩ path ((fd : ℕ) : ℤ)
  creations : creations w.trace = [path]
  storing : ∀ n : ℕ, start = n → Storing n fd n w.trace
  file : fileOf fd [] w.trace = ⟨[], 0⟩
  upload : uploadOf w.trace = []

/-- Before the file is created. -/
theorem untouched_keeps : Keeps (fun _ ↦ True) KeepsStill (Untouched start) fun _ ↦ True where
  assume _ _ := trivial
  keepInv w w' h hk := by
    have hstored := keepsStored_of_still hk.2
    refine ⟨hk.1.trans h.restartPos, fun files ↦ (diskAfter_still hk.2 files).trans (h.disk files),
      (creations_still hk.2).trans h.creations, fun n hn fd ↦ (h.storing n hn fd).keep hstored,
      fun fd ↦ ?_, ?_⟩
    all_goals obtain ⟨suffix, ht, hs⟩ := hstored
    · rw [ht, fileOf_neutral hs, h.file]
    · rw [ht, uploadOf_neutral hs, h.upload]
  mid _ _ := trivial

/-- Once it is, it is empty. -/
theorem emptied_keeps :
    Keeps (fun _ ↦ True) KeepsStill (Emptied start path fd) fun _ ↦ True where
  assume _ _ := trivial
  keepInv w w' h hk := by
    have hstored := keepsStored_of_still hk.2
    refine ⟨hk.1.trans h.restartPos, fun files ↦ (diskAfter_still hk.2 files).trans (h.disk files),
      (creations_still hk.2).trans h.creations, fun n hn ↦ (h.storing n hn).keep hstored, ?_, ?_⟩
    all_goals obtain ⟨suffix, ht, hs⟩ := hstored
    · rw [ht, fileOf_neutral hs, h.file]
    · rw [ht, uploadOf_neutral hs, h.upload]
  mid _ _ := trivial

/-- What `STOR` leaves. -/
inductive Stored (start : ℤ) (w : World) : Prop
  /-- Nothing was done. -/
  | untouched (files : ∀ files, filesAfter files w.trace = files)
      (creations : creations w.trace = [])
  /-- The file was created and nothing was received. -/
  | emptied (path : Bytes)
      (files : ∀ files, filesAfter files w.trace = Function.update files path (some []))
      (creations : creations w.trace = [path]) (upload : uploadOf w.trace = [])
  /-- The data phase began. -/
  | begun (path : Bytes) (begun : transferStarting ∈ repliesOf w.trace)
      (creations : creations w.trace = [path])
      (files : ∀ n : ℕ, start = n → Whole w.trace → ∀ files, filesAfter files w.trace path =
        some (displaced [] n (earlyUpload w.trace) (lateUpload w.trace)))

/-- A command that has touched nothing, -/
theorem Untouched.stored (h : Untouched start w) : Stored start w :=
  .untouched (fun files ↦ congrArg Disk.files (h.disk files)) h.creations

/-- and one that has emptied the file and no more. -/
theorem Emptied.stored (h : Emptied start path fd w) : Stored start w :=
  .emptied path (fun files ↦ congrArg Disk.files (h.disk files)) h.creations h.upload

/-- When the transfer has ended. -/
theorem stored_keeps :
    Keeps (fun _ ↦ True) KeepsClosing (Stored start) fun _ ↦ True where
  assume _ _ := trivial
  keepInv w w' h hk := by
    have hcreations := creations_closing hk
    have hfiles := filesAfter_closing hk
    obtain ⟨suffix, ht, hs⟩ := keepsStored_of_closing hk
    rcases h with ⟨files, hc⟩ | ⟨path, files, hc, hupload⟩ | ⟨path, begun, hc, files⟩
    · exact .untouched (fun f ↦ (hfiles f).trans (files f)) (hcreations.trans hc)
    · refine .emptied path (fun f ↦ (hfiles f).trans (files f)) (hcreations.trans hc) ?_
      rw [ht, uploadOf_neutral hs, hupload]
    · refine .begun path (mem_repliesOf_extends hk begun) (hcreations.trans hc)
        fun n hn hwhole f ↦ ?_
      rw [ht] at hwhole
      rw [hfiles, ht, earlyUpload_neutral hs, lateUpload_neutral hs]
      exact files n hn ((whole_neutral hs _).1 hwhole) f
  mid _ _ := trivial

/-- At first nothing is touched. -/
theorem untouched_start {st : Process} (hstart : st.session.restartPos = start) :
    Untouched start (World.start st) :=
  ⟨hstart, fun _ ↦ rfl, rfl, fun n _ fd ↦ storing_start n fd, fun _ ↦ rfl, rfl⟩

/-- A `creat` that succeeds has made the file empty. -/
theorem Untouched.vfsCreat (h : Untouched start w) (cwd vpath : Bytes) (mode : ℕ) :
    wp e (vfsCreat cwd vpath mode)
      (OpenedOr (Untouched start) fun fd w' ↦ ∃ path, Emptied start path fd w')
      (fun _ _ ↦ True) w := by
  refine keepsStill_steps.vfsCall_wp untouched_keeps (fun _ ↦ keepsStill_modify fun _ ↦ rfl)
    (fun _ h ↦ h) (fun path w₁ h₁ ↦ wp_checked.2 (wp_sys (fun r _ ↦ ?_) trivial)) h cwd vpath
  have hneutral : Neutral (.call (.path (.creat mode) path) r) :=
    neutral_call (by simp [Call.topic]) r
  have hs : ∀ x ∈ [Item.call (I := kernel) (.path (.creat mode) path) r], Neutral x := by
    simpa using hneutral
  have hkeep : KeepsStored w₁ (answered w₁ (.path (.creat mode) path) r) := .concat rfl hneutral
  have hdisk (files : Bytes → Option Bytes) :
      diskAfter files (w₁.trace ++ [.call (.path (.creat mode) path) r]) =
        diskStep ⟨files, fun _ ↦ none⟩ (.call (.path (.creat mode) path) r) := by
    rw [diskAfter, List.foldl_append, ← diskAfter, h₁.disk]
    rfl
  have hcreations : FtpServer.creations (w₁.trace ++ [.call (.path (.creat mode) path) r]) =
      (created? (.call (.path (.creat mode) path) r)).toList := by
    rw [FtpServer.creations, List.filterMap_append, ← FtpServer.creations, h₁.creations]
    rcases hr : created? (.call (.path (.creat mode) path) r) with - | path' <;> simp [hr]
  have hfile (fd : ℤ) := (fileOf_neutral hs w₁.trace fd []).trans (h₁.file fd)
  have hupload := (uploadOf_neutral hs w₁.trace).trans h₁.upload
  obtain ⟨async, err | fd⟩ := r
  · exact ⟨h₁.restartPos, hdisk, hcreations, fun n hn fd ↦ (h₁.storing n hn fd).keep hkeep, hfile,
      hupload⟩
  · exact ⟨path, h₁.restartPos, hdisk, hcreations, fun n hn ↦ (h₁.storing n hn fd).keep hkeep,
      hfile fd, hupload⟩

/-- What `store_file` does to the file that is open. -/
theorem storeFile_stored (h : Emptied start path fd w) (dataFd : ℤ) :
    wp e (storeFile config ⟨fd, .file⟩ ⟨dataFd, .socket⟩)
      (fun _ w' ↦ KeepsTracked path fd w w' ∧
        ∀ n : ℕ, start = n → ∃ offset, Storing n fd offset w'.trace)
      (fun _ _ ↦ True) w := by
  have hsignal : Within (fun _ ↦ True) (KeepsTracked path fd) (serverHandleSignal .storeFile) :=
    keepsTracked_of_still (keepsStill_handleSignal _)
  have htracked : wp e (storeFile config ⟨fd, .file⟩ ⟨dataFd, .socket⟩)
      (fun _ ↦ KeepsTracked path fd w) (fun _ _ ↦ True) w :=
    wp_mono ((keepsTracked_steps.storeFile (by decide) hsignal
      (keepsTracked_steps.sendState (by decide) _) _ _ (by decide)).wp trivial)
      (fun _ _ h ↦ h) fun _ _ _ ↦ trivial
  by_cases hstart : ∃ n : ℕ, start = n
  · obtain ⟨n, rfl⟩ := hstart
    refine wp_mono (wp_and htracked (storeFile_wp (h.storing n rfl) h.restartPos dataFd))
      ?_ fun _ _ _ ↦ trivial
    rintro ret w' ⟨hk, hstoring⟩
    refine ⟨hk, fun m hm ↦ ?_⟩
    obtain rfl : n = m := Int.ofNat_inj.1 hm
    exact hstoring
  · exact wp_mono htracked (fun _ _ h ↦ ⟨h, fun n hn ↦ absurd ⟨n, hn⟩ hstart⟩) fun _ _ h ↦ h

/-- The 125 is sent before the data phase. -/
theorem announceTransfer_begins :
    wp e announceTransfer (fun _ w' ↦ transferStarting ∈ repliesOf w'.trace)
      (fun _ _ ↦ True) w := by
  have L := persists_steps (T := fun trace ↦ transferStarting ∈ repliesOf trace)
    fun trace x _ h ↦ by
    rw [repliesOf, List.filterMap_append]
    exact List.mem_append_left _ h
  have hbegun : transferStarting ∈ repliesOf
      (noted w (.observe (.reply transferStarting))).trace := by
    rw [noted_trace, repliesOf, List.filterMap_append]
    exact List.mem_append_right _ (List.mem_singleton_self _)
  have hsend := L.sendall (by decide) w.st.session.conn.sock transferStarting
  rw [announceTransfer, replyMsg, wp_bind, wp_bind, wp_getSession, wp_bind, reply, wp_bind]
  show wp e (sendall _ transferStarting) _ _ (noted w _)
  refine wp_mono (hsend.wp hbegun) (fun _ w₁ h₁ ↦ ?_) fun _ _ _ ↦ trivial
  rw [wp_pure]
  exact wp_mono ((L.bind (L.modifyInfo _ (by decide)) fun _ ↦
    L.bind (L.sendState (by decide) _) fun _ ↦ L.pure ()).wp h₁) (fun _ _ h ↦ h) fun _ _ _ ↦ trivial

/-- The data phase, and what follows it. -/
theorem storData_stored (h : Emptied start path fd w) (dataFd : ℕ) :
    wp e (storData config ⟨fd, .file⟩ ⟨dataFd, .socket⟩) (fun _ ↦ Stored start)
      (fun _ _ ↦ True) w := by
  have L := keepsStill_steps
  have C := keepsClosing_steps
  -- the start of the transfer is announced, and does nothing to the file
  have hannounce := wp_and (announceTransfer_begins (e := e) (w := w))
    ((L.announceTransfer (by decide) (L.sendState (by decide) _) (by decide)).wp (w := w) trivial)
  refine (wp_bind _ _).2 (wp_mono hannounce ?_ fun _ _ _ ↦ trivial)
  rintro - w₁ ⟨hbegun, hk⟩
  have h₁ := emptied_keeps.keepInv w w₁ h hk
  rw [wp_bind, wp_getSession]
  refine (wp_bind _ _).2 ?_
  rw [observe, wp_mark]
  have hmark := keepsStill_mark (.observe (.transfer .stor w₁.st.session.restartPos)) e w₁ trivial
  have h₂ := emptied_keeps.keepInv w₁ _ h₁ hmark
  refine (wp_bind _ _).2 (wp_mono (storeFile_stored h₂ dataFd) ?_ fun _ _ _ ↦ trivial)
  rintro ret w₃ ⟨htracked, hstoring⟩
  have h₃ : Stored start w₃ := by
    refine .begun path ?_ ?_ fun n hn hwhole files ↦ ?_
    · exact mem_repliesOf_extends htracked (mem_repliesOf_extends hmark.2 hbegun)
    · exact (htracked.filterMap fun _ hx ↦ hx.created).trans h₂.creations
    -- what the file descriptor shows is what the disk has under the name
    · obtain ⟨offset, h'⟩ := hstoring n hn
      have hshows := htracked.shows (show (diskAfter files _).Shows _ _ _ by
        rw [h₂.disk, h₂.file]
        exact Disk.shows_create rfl path _)
      rw [filesAfter, hshows.files, h'.contents hwhole]
  refine stored_keeps.wp (C.bind (C.transferReply (by decide) ret) fun _ ↦
    C.bind (C.modifyInfo _ (by decide)) fun _ ↦ C.bind (C.sendState (by decide) _) fun _ ↦
    C.bind (C.vfsClose (by decide) _) fun _ ↦ C.bind (C.close (by decide) _) fun _ ↦
    C.bind C.getSession fun _ ↦ C.bind (keepsClosing_of_still (keepsStill_mark _)) fun _ ↦
    C.pure _) h₃ fun _ _ h ↦ h

/-- `STOR` leaves the files as they were, or one of them empty, or filled with what it received. -/
theorem dostor_stored (h : Untouched start w) :
    wp e (dostor config) (fun _ ↦ Stored start) (fun _ _ ↦ True) w := by
  have L := keepsStill_steps
  have C := keepsClosing_steps
  refine L.dostor_wp untouched_keeps (fun fd w ↦ ∃ path, Emptied start path fd w)
    (fun fd _ w ↦ ∃ path, Emptied start path fd w) (fun msg hmsg w h ↦ ?_) (fun w h ↦ ?_)
    (fun w h path _ ↦ h.vfsCreat _ _ _) (fun fd w h ↦ ?_) (fun fd w h ↦ ?_) (fun fd w h ↦ ?_)
    (fun fd dataFd w h ↦ ?_) h (by decide)
  · exact untouched_keeps.wp
      (L.replyMsg_pure (by decide) msg _ (completeReply_fileRefusal msg hmsg)) h
      fun _ _ h ↦ h.stored
  · exact untouched_keeps.wp (L.failedVfsReply_pure (by decide) _) h fun _ _ h ↦ h.stored
  · obtain ⟨path, h⟩ := h
    exact emptied_keeps.wp (L.acceptDataConn (by decide)
      (fun _ ↦ keepsStill_sys (.inr ⟨_, rfl⟩)) (keepsStill_handleSignal _)) h fun _ _ h ↦ ⟨path, h⟩
  · obtain ⟨path, h⟩ := h
    exact stored_keeps.wp (C.bind (C.vfsClose (by decide) _) fun _ ↦ C.pure _) h.stored
      fun _ _ h ↦ h
  · obtain ⟨path, h⟩ := h
    exact stored_keeps.wp (C.bind (C.vfsClose (by decide) _) fun _ ↦ C.pure _) h.stored
      fun _ _ h ↦ h
  · obtain ⟨path, h⟩ := h
    exact storData_stored h dataFd

/-! ### The laws -/

/-- What a run of `STOR` leaves. -/
theorem dostor_run {st : Process} {ret : FtpRet} {w' : World}
    (hrun : dostor config e (World.start st) = (.ret ret, w')) :
    Stored st.session.restartPos w' := by
  have hstored : wp e (dostor config) (fun _ ↦ Stored st.session.restartPos) (fun _ _ ↦ True)
      (World.start st) := dostor_stored (untouched_start rfl)
  have h := wp_ret hstored hrun
  exact h

/-- **When a `STOR` that fails leaves the files alone.** If it did not begin the transfer, the files
are as they were if and only if the one it created, if any, was there and empty. -/
theorem dostor_atomic (config : FtpConfig) (e : Env) (st : Process) (ret : FtpRet) (w : World)
    (hrun : dostor config e (World.start st) = (.ret ret, w))
    (hfailed : transferStarting ∉ repliesOf w.trace) (files : Bytes → Option Bytes) :
    filesAfter files w.trace = files ↔ ∀ path ∈ creations w.trace, files path = some [] := by
  rcases dostor_run hrun with ⟨hfiles, hc⟩ | ⟨path, hfiles, hc, -⟩ | ⟨path, hbegun, -, -⟩
  · rw [hfiles, hc]
    exact iff_of_true rfl fun _ h ↦ absurd h List.not_mem_nil
  · rw [hfiles, hc, List.forall_mem_singleton, Function.update_eq_self_iff, eq_comm]
  · exact absurd hbegun hfailed

/-- A session about to store the file `f`, behind `REST n`. -/
def storSession (n : ℕ) : Process :=
  let st := sessionWith (ofString "STOR") (ofString "f")
  { st with session := { st.session with restartPos := n } }

/-- A client that never connects. -/
def absentEnv : Env :=
  clientEnvWith (fun _ c ↦
    match c with
    | .accept _ => some ⟨[], .error (.other 24)⟩
    | _ => none) []

/-- The client does not connect, and the file is empty. -/
theorem dostor_atomic_absent :
    let run := dostor loadDefaults absentEnv (World.start (storSession 0))
    filesAfter (fun _ ↦ none) run.2.trace = (fun _ ↦ none) ↔
      ∀ path ∈ creations run.2.trace, none = some ([] : Bytes) :=
  dostor_atomic loadDefaults absentEnv (storSession 0) .success
    (dostor loadDefaults absentEnv (World.start (storSession 0))).2
    (run_eq (by decide +kernel)) (by decide +kernel) fun _ ↦ none

/-- A `STOR` without a data connection empties the file. -/
theorem absentEnv_empties :
    let run := dostor loadDefaults absentEnv (World.start (storSession 0))
    run.1 = .ret .success ∧ transferStarting ∉ repliesOf run.2.trace ∧
      filesAfter (fun _ ↦ some [1, 2, 3]) run.2.trace (ofString "/srv/f") = some [] := by
  decide +kernel

/-- **When an upload resumes.** A client that reads 226 has sent everything. Where the file that was
created held `old`, `STOR` behind `REST n` keeps the first `n` bytes and puts what it receives
behind them if and only if `n` is 0, or the bytes are zeros, something is received once an `lseek`
to `n` has succeeded, and what is received before that are zeros. -/
theorem dostor_resumes (config : FtpConfig) (e : Env) (st : Process) (ret : FtpRet) (w : World)
    (n : ℕ) (hrest : st.session.restartPos = n)
    (hrun : dostor config e (World.start st) = (.ret ret, w)) (hwhole : Whole w.trace)
    (files : Bytes → Option Bytes) (path old : Bytes) (hpath : path ∈ creations w.trace)
    (hn : n ≤ old.length) :
    (transferDone ∈ repliesOf w.trace → EndOfStream w.trace) ∧
    ((∃ new, filesAfter (Function.update files path (some old)) w.trace path = some new ∧
        new.take n = old.take n ∧
        (new.drop n).take (uploadOf w.trace).length = uploadOf w.trace) ↔
      n = 0 ∨ lateUpload w.trace ≠ [] ∧
        earlyUpload w.trace = List.replicate (earlyUpload w.trace).length 0 ∧
        old.take n = List.replicate n 0) := by
  have hends : ToldTheEnd w := wp_ret (dostor_ends (fun _ h ↦ absurd h List.not_mem_nil)) hrun
  refine ⟨fun hdone ↦ hends hdone hwhole, ?_⟩
  have hfile (files : Bytes → Option Bytes) : filesAfter files w.trace path =
      some (displaced [] n (earlyUpload w.trace) (lateUpload w.trace)) := by
    rcases dostor_run hrun with ⟨-, hc⟩ | ⟨path', hfiles, hc, hupload⟩ | ⟨path', -, hc, hfiles⟩
    · exact absurd (hc ▸ hpath) List.not_mem_nil
    · obtain rfl : path = path' := List.mem_singleton.1 (hc ▸ hpath)
      have hparts := earlyUpload_append_lateUpload w.trace
      rw [hupload, List.append_eq_nil_iff] at hparts
      rw [hfiles, Function.update_self, hparts.1, hparts.2]
      rfl
    · obtain rfl : path = path' := List.mem_singleton.1 (hc ▸ hpath)
      exact hfiles n hrest hwhole files
  rw [hfile, ← earlyUpload_append_lateUpload]
  simp only [Option.some.injEq, exists_eq_left']
  exact displaced_behind_iff hn _ _

/-- One byte, to be put at offset 2 of a file of three. -/
theorem dostor_resumes_uploaded :
    let run := dostor loadDefaults (uploadEnv [[9]] 4096) (World.start (storSession 2))
    (transferDone ∈ repliesOf run.2.trace → EndOfStream run.2.trace) ∧
    ((∃ new, filesAfter (Function.update (fun _ ↦ none) (ofString "/srv/f") (some [1, 2, 3]))
          run.2.trace (ofString "/srv/f") = some new ∧ new.take 2 = [1, 2, 3].take 2 ∧
        (new.drop 2).take (uploadOf run.2.trace).length = uploadOf run.2.trace) ↔
      2 = 0 ∨ lateUpload run.2.trace ≠ [] ∧
        earlyUpload run.2.trace = List.replicate (earlyUpload run.2.trace).length 0 ∧
        ([1, 2, 3] : Bytes).take 2 = List.replicate 2 0) :=
  dostor_resumes loadDefaults (uploadEnv [[9]] 4096) (storSession 2) .success
    (dostor loadDefaults (uploadEnv [[9]] 4096) (World.start (storSession 2))).2 2 rfl
    (run_eq (by decide +kernel)) (by decide +kernel) (fun _ ↦ none)
    (ofString "/srv/f") [1, 2, 3] (by decide +kernel) (by decide)

/-- The client is told that its upload was resumed and the bytes it had sent before are gone. -/
theorem storSession_destroys :
    let run := dostor loadDefaults (uploadEnv [[9]] 4096) (World.start (storSession 2))
    run.1 = .ret .success ∧ transferDone ∈ repliesOf run.2.trace ∧ EndOfStream run.2.trace ∧
      Whole run.2.trace ∧ lateUpload run.2.trace = [9] ∧ uploadOf run.2.trace = [9] ∧
      filesAfter (fun _ ↦ some [1, 2, 3]) run.2.trace (ofString "/srv/f") = some [0, 0, 9] := by
  decide +kernel

end FtpServer
