import FtpServer.Model.Command

/-!
# The texts of the replies

A reply is one line: it ends with CR LF and has no other LF in it. The fixed texts of the source are
such lines, and what a format expands to is one as long as the strings that the client chose, the
argument of the command and the current directory, have no LF in them (`Formatted`).

* `CompleteReply` is decidable, and the fixed texts of the source are looked at by computation.
* `completeReply_user`, `completeReply_pwd` and the lemmas beside them are about one format each,
  given the strings that go into it.
-/

namespace FtpServer

open CString

/-- The text is one line with its line end. -/
def CompleteReply (msg : Bytes) : Prop := [cr, lf] <:+ msg ∧ lf ∉ msg.dropLast

instance : DecidablePred CompleteReply := fun _ ↦ inferInstanceAs (Decidable (_ ∧ _))

/-- A body without LF makes a complete line. -/
theorem completeReply_append {body : Bytes} (h : lf ∉ body) : CompleteReply (body ++ [cr, lf]) := by
  refine ⟨List.suffix_append _ _, ?_⟩
  have hlast : (body ++ [cr, lf]).dropLast = body ++ [cr] := by
    rw [List.dropLast_append_of_ne_nil (by simp)]
    rfl
  rw [hlast, List.mem_append, List.mem_singleton]
  exact fun hmem ↦ hmem.elim h (by decide)

/-- The text is a complete reply, provided the strings the client chose have no LF in them. -/
def Formatted (s : FtpSession) (text : Bytes) : Prop :=
  lf ∉ s.command.argument → lf ∉ cstr s.virtPath → CompleteReply text

/-! ### Numbers -/

/-- Decimal digits are not line ends. -/
theorem lf_not_mem_repr (n : ℕ) : lf ∉ ofString (Nat.repr n) := by
  intro h
  obtain ⟨c, hc, hlf⟩ := List.mem_map.1 h
  have hdigits : (Nat.repr n).toList = Nat.toDigits 10 n := by simp [Nat.repr]
  rw [hdigits] at hc
  have hdigit := Nat.isDigit_of_mem_toDigits (by decide) (by decide) hc
  simp only [Char.isDigit, Bool.and_eq_true, decide_eq_true_eq] at hdigit
  have hle : 48 ≤ c.toNat ∧ c.toNat ≤ 57 := hdigit
  have hval := congrArg UInt8.toNat hlf
  rw [UInt8.toNat_ofNat'] at hval
  change c.toNat % 2 ^ 8 = 10 at hval
  omega

/-- Neither is a sign. -/
theorem lf_not_mem_fmtInt (i : ℤ) : lf ∉ fmtInt i := by
  rw [fmtInt]
  split_ifs
  · exact List.not_mem_cons_of_ne_of_not_mem (by decide) (lf_not_mem_repr _)
  · exact lf_not_mem_repr _

/-- Nor are zeros in front. -/
theorem lf_not_mem_fmtIntPad (w : ℕ) (i : ℤ) : lf ∉ fmtIntPad w i := by
  have hzeros : ∀ n, lf ∉ List.replicate n (48 : UInt8) := fun n h ↦
    absurd (List.eq_of_mem_replicate h) (by decide)
  have happ : ∀ n, lf ∉ List.replicate n (48 : UInt8) ++ ofString (Nat.repr i.natAbs) := fun n h ↦
    (List.mem_append.1 h).elim (hzeros n) (lf_not_mem_repr _)
  rw [fmtIntPad]
  split_ifs
  · exact List.not_mem_cons_of_ne_of_not_mem (by decide) (happ _)
  · exact happ _

/-- A date is made of numbers. -/
theorem lf_not_mem_mdtmDate (tm : Tm) : lf ∉ mdtmDate tm := by
  intro h
  have h := List.mem_of_mem_take h
  simp only [List.mem_append, lf_not_mem_fmtIntPad, or_self] at h

/-- What `failed_vfs_reply` formats. -/
theorem lf_not_mem_failure {err : Errno} (h : err ∈ [Errno.eperm, .enoent, .eacces, .enotdir,
    .enametoolong, .enotempty, .eloop, .eusers, .edquot]) :
    lf ∉ ofString "550 " ++ strerror err := by
  simp only [List.mem_cons, List.not_mem_nil, or_false] at h
  rcases h with rfl | rfl | rfl | rfl | rfl | rfl | rfl | rfl | rfl <;> decide

/-! ### Formats -/

/-- The reply of `SIZE`. -/
theorem completeReply_number (i : ℤ) :
    CompleteReply (ofString "213 " ++ fmtInt i ++ [cr, lf]) := by
  refine completeReply_append ?_
  simp only [List.mem_append, lf_not_mem_fmtInt, or_false]
  decide

/-- The reply of `MDTM`. -/
theorem completeReply_date (tm : Tm) :
    CompleteReply (ofString "213 " ++ mdtmDate tm ++ [cr, lf]) := by
  refine completeReply_append ?_
  simp only [List.mem_append, lf_not_mem_mdtmDate, or_false]
  decide

/-- The reply of `REST`. -/
theorem completeReply_rest (offset : ℤ) :
    CompleteReply (ofString "350 Restarting transfer at " ++ fmtInt offset ++ [cr, lf]) := by
  refine completeReply_append ?_
  simp only [List.mem_append, lf_not_mem_fmtInt, or_false]
  decide

/-- The reply of `USER`, which repeats the name. -/
theorem completeReply_user {name : Bytes} (h : lf ∉ name) :
    CompleteReply (ofString "331 Pass required for user " ++ name ++ [cr, lf]) := by
  refine completeReply_append ?_
  simp only [List.mem_append, h, or_false]
  decide

/-- The reply of `PWD`, which quotes the directory. -/
theorem completeReply_pwd {dir : Bytes} (h : lf ∉ dir) :
    CompleteReply (ofString "257 \"" ++ dir ++ ofString "\" is your current location\r\n") := by
  have hend : ofString "\" is your current location\r\n" =
    ofString "\" is your current location" ++ [cr, lf] := by decide
  rw [hend, ← List.append_assoc]
  refine completeReply_append ?_
  simp only [List.mem_append, h, or_false]
  decide

/-- The reply of `MKD`, which quotes the argument. -/
theorem completeReply_mkd {name : Bytes} (h : lf ∉ name) :
    CompleteReply (ofString "257 \"" ++ name ++ ofString "\" created\r\n") := by
  have hend : ofString "\" created\r\n" = ofString "\" created" ++ [cr, lf] := by decide
  rw [hend, ← List.append_assoc]
  refine completeReply_append ?_
  simp only [List.mem_append, h, or_false]
  decide

/-- The last component of a path has nothing that the path does not have. -/
theorem lf_not_mem_findBasename {path : Bytes} (h : lf ∉ path) : lf ∉ findBasename path :=
  fun hmem ↦ h ((List.rtakeWhile_suffix _ _).subset hmem)

/-- The reply of `RETR` to a restart position behind the end of the file. -/
theorem completeReply_tooLarge {path : Bytes} (h : lf ∉ path) (offset filesize : ℤ) :
    CompleteReply (ofString "451 Restarting position " ++ fmtInt (offset % 2 ^ 64) ++
      ofString " too large for file " ++ findBasename path ++ ofString " of size " ++
      fmtInt (filesize % 2 ^ 64) ++ [cr, lf]) := by
  refine completeReply_append ?_
  simp only [List.mem_append, lf_not_mem_fmtInt, lf_not_mem_findBasename h, or_false]
  decide

/-- The six numbers of `dopasv`. -/
theorem completeReply_pasv (bytes : List UInt8) :
    CompleteReply (ofString "227 Entering Passive Mode (" ++
      List.intercalate [44] (bytes.map fmtByte) ++ ofString ")\r\n") := by
  have hend : ofString ")\r\n" = ofString ")" ++ [cr, lf] := by decide
  rw [hend, ← List.append_assoc]
  refine completeReply_append ?_
  have hbytes : lf ∉ List.intercalate [44] (bytes.map fmtByte) := by
    induction bytes with
    | nil => decide
    | cons b bytes ih =>
      rcases bytes with - | ⟨c, bytes⟩
      · simpa [List.intercalate, fmtByte] using lf_not_mem_fmtInt _
      · simp only [List.map_cons, List.intercalate_cons_cons, List.mem_append, fmtByte,
          lf_not_mem_fmtInt, List.mem_singleton, false_or] at ih ⊢
        exact fun h ↦ h.elim (by decide) ih
  simp only [List.mem_append, hbytes, or_false]
  decide

example : CompleteReply (ofString "504-Only 8-bit bytes allowed\r\n") := by decide

end FtpServer
