import FtpServer.Library.FileImage
import FtpServer.Proofs.TransferHandlers

/-!
# What a trace says about an upload

The calls of an upload are `lseek`, `read` and `write`. Their results say what was received
(`uploadOf`), what was written of it (`writtenOf`), and what the file behind the descriptor holds
then, whatever it held before (`fileOf`).

* `Whole`: every `write` took all it was given.
* `EndOfStream`: the last `read` found that there is no more.
* `earlyUpload` and `lateUpload`: what was received before the first `lseek` that succeeded, and
  after it. Only then is the descriptor at the restart position.

An entry that is none of these calls is `Neutral`: none of this changes with it.
-/

namespace FtpServer

open CString Effect Effect.Proc

/-! ### The calls -/

/-- The bytes that a `read` brought. -/
def uploaded : Item kernel → Bytes
  | .call (.read _ _) r =>
    match r.val with
    | .ok bs => bs.1
    | .error _ => []
  | _ => []

/-- What a `read` returned, if it is one: nothing, if it failed. -/
def readAnswer? : Item kernel → Option (Option Bytes)
  | .call (.read _ _) r =>
    match r.val with
    | .ok bs => some (some bs.1)
    | .error _ => some none
  | _ => none

/-- How many bytes a `write` took. -/
def written : Item kernel → ℕ
  | .call (.write _ _) r =>
    match r.val with
    | .ok n => n.1
    | .error _ => 0
  | _ => 0

/-- A `write` took all it was given. -/
def wholeWrite : Item kernel → Bool
  | .call (.write _ buf) r =>
    match r.val with
    | .ok n => n.1 = buf.length
    | .error _ => false
  | _ => true

/-- An `lseek` succeeded. -/
def sought : Item kernel → Bool
  | .call (.lseek _ _) r =>
    match r.val with
    | .ok () => true
    | .error _ => false
  | _ => false

/-- What an entry means for the file behind the descriptor `fd`. -/
def onFile (fd : ℤ) (f : OpenFile) : Item kernel → OpenFile
  | .call (.lseek fd' offset) r =>
    match r.val with
    | .ok () => if fd' = fd then f.seek offset.toNat else f
    | .error _ => f
  | .call (.write fd' buf) r =>
    match r.val with
    | .ok n => if fd' = fd then f.write (buf.take n.1) else f
    | .error _ => f
  | _ => f

/-- What was received on the data connection. -/
def uploadOf (trace : List (Item kernel)) : Bytes := trace.flatMap uploaded

/-- An `lseek` has succeeded. -/
def everSought (trace : List (Item kernel)) : Bool := trace.any sought

/-- What was received before an `lseek` succeeded. -/
def earlyUpload (trace : List (Item kernel)) : Bytes := uploadOf (trace.takeWhile (!sought ·))

/-- What was received since an `lseek` has succeeded. -/
def lateUpload (trace : List (Item kernel)) : Bytes := uploadOf (trace.dropWhile (!sought ·))

/-- How many bytes were written. -/
def writtenOf (trace : List (Item kernel)) : ℕ := (trace.map written).sum

/-- The file behind the descriptor, which was opened on these contents. -/
def fileOf (fd : ℤ) (old : Bytes) (trace : List (Item kernel)) : OpenFile :=
  trace.foldl (onFile fd) ⟨old, 0⟩

/-- Every `write` took all it was given. -/
def Whole (trace : List (Item kernel)) : Prop := ∀ x ∈ trace, wholeWrite x = true

/-- The last `read` found the end of the stream. -/
def EndOfStream (trace : List (Item kernel)) : Prop :=
  (trace.filterMap readAnswer?).getLast? = some (some [])

instance (trace : List (Item kernel)) : Decidable (Whole trace) :=
  inferInstanceAs (Decidable (∀ x ∈ trace, wholeWrite x = true))

instance (trace : List (Item kernel)) : Decidable (EndOfStream trace) :=
  inferInstanceAs (Decidable (_ = _))

/-! ### One entry more -/

section Concat

variable (trace : List (Item kernel)) (x : Item kernel)

/-- What is received later comes behind. -/
theorem uploadOf_append (suffix : List (Item kernel)) :
    uploadOf (trace ++ suffix) = uploadOf trace ++ uploadOf suffix :=
  List.flatMap_append

theorem uploadOf_concat : uploadOf (trace ++ [x]) = uploadOf trace ++ uploaded x := by
  rw [uploadOf_append, uploadOf, uploadOf, List.flatMap_singleton]

theorem writtenOf_concat : writtenOf (trace ++ [x]) = writtenOf trace + written x := by
  rw [writtenOf, List.map_append, List.sum_append, List.map_singleton, List.sum_singleton,
    writtenOf]

theorem everSought_concat : everSought (trace ++ [x]) = (everSought trace || sought x) := by
  rw [everSought, List.any_append, List.any_cons, List.any_nil, Bool.or_false, everSought]

theorem fileOf_concat (fd : ℤ) (old : Bytes) :
    fileOf fd old (trace ++ [x]) = onFile fd (fileOf fd old trace) x := by
  rw [fileOf, List.foldl_append, List.foldl_cons, List.foldl_nil, fileOf]

variable {trace x}

theorem whole_concat : Whole (trace ++ [x]) ↔ Whole trace ∧ wholeWrite x = true := by
  rw [Whole, List.forall_mem_append, List.forall_mem_singleton, Whole]

/-- A `read` that is the last one says whether the stream has ended. -/
theorem endOfStream_concat {answer : Option Bytes} (hx : readAnswer? x = some answer) :
    EndOfStream (trace ++ [x]) ↔ answer = some [] := by
  rw [EndOfStream, List.filterMap_append, List.filterMap_cons_some hx, List.filterMap_nil,
    List.getLast?_concat, Option.some.injEq]

end Concat

/-! ### What was early -/

section Early

variable {trace suffix : List (Item kernel)}

/-- What was received was so early or late. -/
theorem earlyUpload_append_lateUpload (trace : List (Item kernel)) :
    earlyUpload trace ++ lateUpload trace = uploadOf trace := by
  rw [earlyUpload, lateUpload, ← uploadOf_append, List.takeWhile_append_dropWhile]

/-- Until an `lseek` succeeds, everything is early. -/
theorem takeWhile_of_unsought (h : everSought trace = false) :
    trace.takeWhile (!sought ·) = trace ∧ trace.dropWhile (!sought ·) = [] := by
  have hall : ∀ x ∈ trace, (!sought x) = true := by simpa [everSought] using h
  exact ⟨List.takeWhile_eq_self_iff.2 hall, List.dropWhile_eq_nil_iff.2 hall⟩

/-- Before the descriptor was moved, all is early, -/
theorem earlyUpload_of_unsought (h : everSought trace = false) :
    earlyUpload trace = uploadOf trace := by
  rw [earlyUpload, (takeWhile_of_unsought h).1]

/-- and nothing late. -/
theorem lateUpload_of_unsought (h : everSought trace = false) : lateUpload trace = [] := by
  rw [lateUpload, (takeWhile_of_unsought h).2]
  rfl

/-- From then on, nothing more is early. -/
theorem earlyUpload_append_of_sought (h : everSought trace = true) :
    earlyUpload (trace ++ suffix) = earlyUpload trace := by
  obtain ⟨x, hx, hsought⟩ := List.any_eq_true.1 h
  rw [earlyUpload, earlyUpload, List.takeWhile_append, if_neg]
  intro hlength
  have hall := List.takeWhile_eq_self_iff.1 ((List.takeWhile_prefix _).eq_of_length hlength)
  simpa [hsought] using hall x hx

/-- Afterwards all that is new is late. -/
theorem lateUpload_append_of_sought (h : everSought trace = true) :
    lateUpload (trace ++ suffix) = lateUpload trace ++ uploadOf suffix := by
  refine (List.append_right_inj (earlyUpload trace)).1 ?_
  rw [← List.append_assoc, earlyUpload_append_lateUpload, ← earlyUpload_append_of_sought h,
    earlyUpload_append_lateUpload, uploadOf_append]

/-- Where nothing is received, nothing is early or late. -/
theorem earlyUpload_append_of_nil (h : uploadOf suffix = []) (trace : List (Item kernel)) :
    earlyUpload (trace ++ suffix) = earlyUpload trace ∧
      lateUpload (trace ++ suffix) = lateUpload trace := by
  by_cases hsought : everSought trace = true
  · rw [earlyUpload_append_of_sought hsought, lateUpload_append_of_sought hsought, h,
      List.append_nil]
    exact ⟨rfl, rfl⟩
  · have hunsought : everSought trace = false := by simpa using hsought
    have hall : ∀ x ∈ trace, (!sought x) = true := by simpa [everSought] using hunsought
    have hparts := earlyUpload_append_lateUpload suffix
    rw [h, List.append_eq_nil_iff] at hparts
    rw [earlyUpload_of_unsought hunsought, lateUpload_of_unsought hunsought, earlyUpload,
      lateUpload, List.takeWhile_append_of_pos hall, List.dropWhile_append_of_pos hall,
      uploadOf_append, ← earlyUpload, ← lateUpload, hparts.1, hparts.2, List.append_nil]
    exact ⟨rfl, rfl⟩

end Early

/-! ### Entries that have nothing to do with it -/

/-- An entry that has nothing to do with the file or the data. -/
structure Neutral (x : Item kernel) : Prop where
  uploaded : uploaded x = []
  written : written x = 0
  whole : wholeWrite x = true
  sought : sought x = false
  file : ∀ fd f, onFile fd f x = f

section Neutral

variable {suffix : List (Item kernel)} (h : ∀ x ∈ suffix, Neutral x) (trace : List (Item kernel))
include h

omit trace in
/-- Neutral entries receive nothing. -/
theorem uploadOf_of_neutral : uploadOf suffix = [] :=
  List.flatMap_eq_nil_iff.2 fun x hx ↦ (h x hx).uploaded

theorem uploadOf_neutral : uploadOf (trace ++ suffix) = uploadOf trace := by
  rw [uploadOf_append, uploadOf_of_neutral h, List.append_nil]

theorem earlyUpload_neutral : earlyUpload (trace ++ suffix) = earlyUpload trace :=
  (earlyUpload_append_of_nil (uploadOf_of_neutral h) _).1

theorem lateUpload_neutral : lateUpload (trace ++ suffix) = lateUpload trace :=
  (earlyUpload_append_of_nil (uploadOf_of_neutral h) _).2

theorem everSought_neutral : everSought (trace ++ suffix) = everSought trace := by
  have hsuffix : suffix.any sought = false :=
    List.any_eq_false.2 fun x hx ↦ Bool.not_eq_true _ ▸ (h x hx).sought
  rw [everSought, List.any_append, hsuffix, Bool.or_false, everSought]

theorem writtenOf_neutral : writtenOf (trace ++ suffix) = writtenOf trace := by
  have hsum : (suffix.map written).sum = 0 := by
    rw [List.map_eq_replicate_iff.2 fun x hx ↦ (h x hx).written]
    simp
  rw [writtenOf, List.map_append, List.sum_append, hsum, Nat.add_zero, writtenOf]

theorem whole_neutral : Whole (trace ++ suffix) ↔ Whole trace := by
  simp only [Whole, List.forall_mem_append]
  exact and_iff_left fun x hx ↦ (h x hx).whole

theorem fileOf_neutral (fd : ℤ) (old : Bytes) :
    fileOf fd old (trace ++ suffix) = fileOf fd old trace := by
  rw [fileOf, List.foldl_append, ← fileOf]
  generalize fileOf fd old trace = f
  induction suffix generalizing f with
  | nil => rfl
  | cons x suffix ih =>
    obtain ⟨hx, hsuffix⟩ := List.forall_mem_cons.1 h
    rw [List.foldl_cons, hx.file, ih hsuffix]

end Neutral

/-- A call that moves no contents is neutral. -/
theorem neutral_call {c : Call} (hc : c.topic ≠ .data) (r : Answer c) :
    Neutral (.call c r : Item kernel) := by
  cases c
  case read => exact absurd rfl hc
  case write => exact absurd rfl hc
  case lseek => exact absurd rfl hc
  all_goals exact ⟨rfl, rfl, rfl, rfl, fun _ _ ↦ rfl⟩

theorem neutral_note (n : Note) : Neutral (.note n : Item kernel) :=
  ⟨rfl, rfl, rfl, rfl, fun _ _ ↦ rfl⟩

/-- Nothing happened to the file or the data. -/
def KeepsStored (w w' : World) : Prop := Extends Neutral w w'

theorem keepsStored_guard : Guard (fun _ ↦ True) KeepsStored where
  refl w _ := .refl w
  trans _ h₁ h₂ := h₁.trans h₂
  keep _ _ := trivial

/-- All actions of a session but `lseek`, `read` and `write` are such. -/
theorem keepsStored_steps : StepLogic (· ≠ .data) (fun _ ↦ True) KeepsStored where
  toCallLogic := .of_observe keepsStored_guard (by decide) (by decide)
    (fun _ hc ↦ within_sys keepsStored_guard fun _ r _ ↦ .concat rfl (neutral_call hc r))
    (fun _ ↦ within_setErrno fun _ _ ↦ .of_eq rfl)
    fun _ _ ↦ within_mark fun _ _ ↦ .concat rfl (neutral_note _)
  statePool _ _ := within_modify fun _ _ ↦ .of_eq rfl
  modifySession _ _ := within_modify fun _ _ ↦ .of_eq rfl
  undefined _ _ _ _ := within_mark fun _ _ ↦ .concat rfl (neutral_note _)

/-- A signal has nothing to do with the file. -/
theorem keepsStored_handleSignal (waiter : Waiter) :
    Within (fun _ ↦ True) KeepsStored (serverHandleSignal waiter) :=
  keepsStored_steps.serverHandleSignal waiter
    (fun _ ↦ within_modify fun _ _ ↦ .of_eq rfl)
    (within_mark fun _ _ ↦ .concat rfl (neutral_note _))

end FtpServer
