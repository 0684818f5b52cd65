import FtpServer.Library.Decimal
import FtpServer.Proofs.ConvertTime
import FtpServer.Proofs.Descriptors
import FtpServer.Proofs.Replies

/-!
# The date in a reply to MDTM

`domdtm` prints the fields of the broken-down time. It adds 1900 to the year, but nothing to the
month, which counts from 0. So no reply has the month that `convert_time` computed
(`domdtm_month`).

* `decodeMdtm` reads a reply, and `calendarFields` is what it should read.
* `decodeMdtm_reply` says what it does read, for all dates that the format has room for
  (`Printable`).
-/

namespace FtpServer

open CString Effect Effect.Proc Calendar

/-! ### Decoding the reply -/

/-- The number in `n` digits of a text from the `i`-th on. -/
def numberAt (text : Bytes) (i n : ℕ) : ℤ := Decimal.value ((text.drop i).take n)

/-- What the reply says: the year, the month from 1 on, the day, the hour, the minute and the
second. -/
def decodeMdtm (msg : Bytes) : List ℤ :=
  [numberAt msg 4 4, numberAt msg 8 2, numberAt msg 10 2, numberAt msg 12 2, numberAt msg 14 2,
    numberAt msg 16 2]

/-- What it should say. -/
def calendarFields (tm : Tm) : List ℤ :=
  [tm.year + 1900, tm.mon + 1, tm.mday, tm.hour, tm.min, tm.sec]

/-! ### Encoding it -/

/-- A number that fits has exactly the columns of its format. -/
theorem length_fmtIntPad {w : ℕ} {i : ℤ} (hw : 0 < w) (hi : 0 ≤ i) (hlt : i < 10 ^ w) :
    (fmtIntPad w i).length = w := by
  have hrepr := Decimal.length_repr_le (n := i.natAbs) hw (by zify; rwa [abs_of_nonneg hi])
  rw [fmtIntPad]
  simp only [if_neg hi.not_gt, List.length_append, List.length_replicate]
  omega

/-- Zeros in front do not change it. -/
theorem value_fmtIntPad (w : ℕ) {i : ℤ} (hi : 0 ≤ i) : (Decimal.value (fmtIntPad w i) : ℤ) = i := by
  rw [fmtIntPad]
  simp only [if_neg hi.not_gt, Decimal.value_padded]
  omega

/-- A number is read where it stands. -/
theorem numberAt_append {pre post : Bytes} {w n : ℕ} {i : ℤ} (hpre : pre.length = n) (hw : 0 < w)
    (hi : 0 ≤ i) (hlt : i < 10 ^ w) : numberAt (pre ++ (fmtIntPad w i ++ post)) n w = i := by
  rw [numberAt, List.drop_left' hpre, List.take_left' (length_fmtIntPad hw hi hlt),
    value_fmtIntPad w hi]

/-- The broken-down time fits the format. -/
structure Printable (tm : Tm) : Prop where
  year : 0 ≤ tm.year + 1900 ∧ tm.year + 1900 < 10 ^ 4
  mon : 0 ≤ tm.mon ∧ tm.mon < 10 ^ 2
  mday : 0 ≤ tm.mday ∧ tm.mday < 10 ^ 2
  hour : 0 ≤ tm.hour ∧ tm.hour < 10 ^ 2
  min : 0 ≤ tm.min ∧ tm.min < 10 ^ 2
  sec : 0 ≤ tm.sec ∧ tm.sec < 10 ^ 2

/-- No month is longer. -/
theorem monthLength_le (y m : ℕ) : monthLength y m ≤ 31 := by
  rw [monthLength]
  rcases Nat.lt_or_ge m 12 with hlt | hge
  · interval_cases m <;> (simp; try split_ifs) <;> omega
  · rw [List.getD_eq_getElem?_getD, List.getElem?_eq_none (by simpa using hge)]
    decide

/-- The fields of a time before the year 10000 have the columns of their formats. -/
theorem Reckoned.printable {t : ℤ} {tm : Tm} {y : ℕ} (h : Reckoned t tm y)
    (hyear : t < 86400 * yearStart 10000) : Printable tm := by
  have hstart := yearStart_eq (y := 10000) (by decide)
  have htaken := h.taken
  have hge := h.yday_ge
  have hmday := h.mday
  have hlength := monthLength_le y tm.mon.toNat
  refine ⟨⟨by have := h.year; omega, ?_⟩, ⟨h.mon.1, by have := h.mon.2; omega⟩,
    ⟨hmday.1, by omega⟩, ?_, ?_, ?_⟩
  · rw [daysTaken] at htaken
    omega
  · have := h.hour
    omega
  · have := h.min
    omega
  · have := h.sec
    omega

/-- So the date is made of them as they are. -/
theorem mdtmDate_eq {tm : Tm} (h : Printable tm) :
    mdtmDate tm = fmtIntPad 4 (tm.year + 1900) ++ fmtIntPad 2 tm.mon ++ fmtIntPad 2 tm.mday ++
      fmtIntPad 2 tm.hour ++ fmtIntPad 2 tm.min ++ fmtIntPad 2 tm.sec := by
  refine List.take_of_length_le ?_
  simp only [List.length_append, length_fmtIntPad (by decide) h.year.1 h.year.2,
    length_fmtIntPad (by decide) h.mon.1 h.mon.2, length_fmtIntPad (by decide) h.mday.1 h.mday.2,
    length_fmtIntPad (by decide) h.hour.1 h.hour.2, length_fmtIntPad (by decide) h.min.1 h.min.2,
    length_fmtIntPad (by decide) h.sec.1 h.sec.2]
  omega

/-- The reply of `domdtm`. -/
def mdtmReply (tm : Tm) : Bytes := ofString "213 " ++ mdtmDate tm ++ [cr, lf]

/-- Whatever the fields, the reply is short. -/
theorem length_mdtmReply (tm : Tm) : (mdtmReply tm).length < responseBufferSize := by
  have hcode : (ofString "213 ").length = 4 := by decide
  have hdate : (mdtmDate tm).length ≤ 14 := List.length_take_le _ _
  rw [mdtmReply, List.length_append, List.length_append, hcode, responseBufferSize]
  simp only [List.length_cons, List.length_nil]
  omega

/-- **What a reply of `domdtm` decodes to**: the month is one too small. -/
theorem decodeMdtm_reply {tm : Tm} (h : Printable tm) :
    decodeMdtm (mdtmReply tm) =
      [tm.year + 1900, tm.mon, tm.mday, tm.hour, tm.min, tm.sec] := by
  have hcode : (ofString "213 ").length = 4 := by decide
  have hyear := length_fmtIntPad (by decide) h.year.1 h.year.2
  have hmon := length_fmtIntPad (by decide) h.mon.1 h.mon.2
  have hmday := length_fmtIntPad (by decide) h.mday.1 h.mday.2
  have hhour := length_fmtIntPad (by decide) h.hour.1 h.hour.2
  have hmin := length_fmtIntPad (by decide) h.min.1 h.min.2
  have hat : ∀ {pre post : Bytes} {w n : ℕ} {i : ℤ}, mdtmReply tm = pre ++ (fmtIntPad w i ++ post) →
      pre.length = n → 0 < w → 0 ≤ i ∧ i < 10 ^ w → numberAt (mdtmReply tm) n w = i := by
    intro pre post w n i heq hpre hw hi
    rw [heq, numberAt_append hpre hw hi.1 hi.2]
  have htext : mdtmReply tm = ofString "213 " ++ (fmtIntPad 4 (tm.year + 1900) ++
      (fmtIntPad 2 tm.mon ++ (fmtIntPad 2 tm.mday ++ (fmtIntPad 2 tm.hour ++
        (fmtIntPad 2 tm.min ++ (fmtIntPad 2 tm.sec ++ [cr, lf])))))) := by
    simp only [mdtmReply, mdtmDate_eq h, List.append_assoc]
  simp only [decodeMdtm, List.cons.injEq, and_true]
  refine ⟨hat htext hcode (by decide) h.year, ?_, ?_, ?_, ?_, ?_⟩
  · rw [← List.append_assoc] at htext
    exact hat htext (by simp [hcode, hyear]) (by decide) h.mon
  · rw [← List.append_assoc, ← List.append_assoc] at htext
    exact hat htext (by simp [hcode, hyear, hmon]) (by decide) h.mday
  · rw [← List.append_assoc, ← List.append_assoc, ← List.append_assoc] at htext
    exact hat htext (by simp [hcode, hyear, hmon, hmday]) (by decide) h.hour
  · rw [← List.append_assoc, ← List.append_assoc, ← List.append_assoc, ← List.append_assoc] at htext
    exact hat htext (by simp [hcode, hyear, hmon, hmday, hhour]) (by decide) h.min
  · rw [← List.append_assoc, ← List.append_assoc, ← List.append_assoc, ← List.append_assoc,
      ← List.append_assoc] at htext
    exact hat htext (by simp [hcode, hyear, hmon, hmday, hhour, hmin]) (by decide) h.sec

/-- **The reply to MDTM never has the month** that `convert_time` computed, whatever the time of the
file. -/
theorem domdtm_month (config : FtpConfig) (e : Env) (w : World) {st : Stat} {ret : FtpRet}
    {w₁ w' : World}
    (hstat : vfsStat config (cstr w.st.session.virtPath) w.st.session.command.argument e w =
      (.ret (some st), w₁))
    (hreg : st.kind = .reg) (ht : 0 ≤ st.mtime) (hyear : st.mtime < 86400 * yearStart 10000)
    (hrun : domdtm config e w = (.ret ret, w')) :
    ∃ tm run msg, convertTime (e.answer w₁.trace .indeterminate).val st.mtime = some tm ∧
      w'.trace = w₁.trace ++ run ∧ repliesOf run = [msg] ∧
      decodeMdtm msg ≠ calendarFields tm := by
  have hfits : st.mtime / 86400 < 2 ^ 31 := by
    have := yearStart_eq (y := 10000) (by decide)
    omega
  suffices h : wp e (domdtm config) (fun _ w' ↦ ∃ tm run msg,
      convertTime (e.answer w₁.trace .indeterminate).val st.mtime = some tm ∧
        w'.trace = w₁.trace ++ run ∧ repliesOf run = [msg] ∧ decodeMdtm msg ≠ calendarFields tm)
      (fun _ _ ↦ True) w from wp_ret h hrun
  rw [domdtm, wp_bind, wp_getSession, wp_bind]
  refine (wp_iff_ret hstat).2 ?_
  dsimp only
  rw [if_neg (not_not.2 hreg), wp_bind]
  refine wp_sys (fun r hr ↦ ?_) trivial
  rw [hr]
  rcases hconvert : convertTime r.val st.mtime with - | tm
  · exact trivial
  -- the fields are in range, and their columns can be read back
  obtain ⟨y, hreckoned⟩ := convertTime_reckoned ht hfits hconvert
  have hprintable := hreckoned.printable hyear
  dsimp only
  rw [wp_bind]
  refine wp_mono (replyFormat_wp (length_mdtmReply tm)) (fun _ w₂ h₂ ↦ ?_)
    fun _ _ _ ↦ trivial
  obtain ⟨run, hrun, hreplies⟩ := ((replies_answered w₁ _ r).trans h₂).grown
  refine ⟨tm, run, mdtmReply tm, rfl, hrun, hreplies, ?_⟩
  rw [decodeMdtm_reply hprintable, calendarFields]
  simp

/-- A session whose command is MDTM. -/
def mdtmWorld : World := World.start (sessionWith (ofString "MDTM") (ofString "f"))

/-- Its argument is a regular file of 1 January 1970, 00:00:00. -/
theorem vfsStat_mdtm :
    (vfsStat loadDefaults (cstr mdtmWorld.st.session.virtPath)
        mdtmWorld.st.session.command.argument (clientEnv []) mdtmWorld).1 =
      .ret (some ⟨.reg, 1, 0, 0, 0, 0⟩) := by
  decide +kernel

/-- For the first of January 1970 the client gets month 00. -/
theorem domdtm_month_first :
    let w₁ := (vfsStat loadDefaults (cstr mdtmWorld.st.session.virtPath)
      mdtmWorld.st.session.command.argument (clientEnv []) mdtmWorld).2
    ∃ tm run msg,
      convertTime ((clientEnv []).answer w₁.trace .indeterminate).val 0 = some tm ∧
      (domdtm loadDefaults (clientEnv []) mdtmWorld).2.trace = w₁.trace ++ run ∧
      repliesOf run = [msg] ∧ decodeMdtm msg ≠ calendarFields tm :=
  domdtm_month loadDefaults (clientEnv []) mdtmWorld (run_eq vfsStat_mdtm) rfl le_rfl
    (by have := yearStart_eq (y := 10000) (by decide); dsimp only; omega)
    (run_eq (a := .success) (by decide +kernel))

/-- Its reply is in month 0, which is no month. -/
theorem domdtm_month_zero :
    repliesOf (domdtm loadDefaults (clientEnv []) mdtmWorld).2.trace =
        [ofString "213 19700001000000\r\n"] ∧
      decodeMdtm (ofString "213 19700001000000\r\n") = [1970, 0, 1, 0, 0, 0] ∧
      (convertTime (fun _ ↦ 0) 0).map calendarFields = some [1970, 1, 1, 0, 0, 0] := by
  decide +kernel

end FtpServer
