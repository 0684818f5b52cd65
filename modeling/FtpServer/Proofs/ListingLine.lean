import FtpServer.Proofs.LeapYears
import FtpServer.Proofs.Realpath
import FtpServer.Proofs.RestAnswer

/-!
# One line of a listing

`send_filestat` sends as many bytes as `snprintf` reports, whatever the buffer holds of them. The
numbers, the date and a file name of a file system fit the buffer with room to spare, and the name
in the line is one: where it is not a component of the path that was resolved, it is `.`, `..` or
empty (`sendFilestat_whole`).

* `FileSystem` says what is assumed of the kernel: names and attributes are in the range of their
  types.
* `filestatLine` is `send_filestat` without its last call, and `filestatLine_fits` says that its
  line, if there is one, is short enough.
* `sendWhole` is what `send_filestat` would do with a buffer for every line, and so the result is an
  equation between two programs.
-/

namespace FtpServer

open CString Effect Effect.Proc PathText

/-! ### What the kernel promises -/

/-- `NAME_MAX`. -/
def nameMax : ℕ := 255

/-- The fields have values of their C types. -/
structure StatFits (st : Stat) : Prop where
  nlink : st.nlink < 2 ^ 64
  uid : st.uid < 2 ^ 32
  gid : st.gid < 2 ^ 32
  size : -2 ^ 63 ≤ st.size ∧ st.size < 2 ^ 63

/-- The files of a file system: no name is longer than `NAME_MAX`, and attributes are in range. -/
structure FileSystem (e : Env) : Prop where
  names : ∀ trace path (r : Answer (.path .lstat path)) st, e.answer trace (.path .lstat path) = r →
    r.val = .ok st → ∀ c ∈ path.splitOn slash, c.length ≤ nameMax
  stats : ∀ trace path (r : Answer (.path .stat path)) st, e.answer trace (.path .stat path) = r →
    r.val = .ok st → StatFits st

variable {e : Env} {w : World} {pool : VfsPool} {config : FtpConfig} {cwd vpath : Bytes}

/-! ### The name -/

/-- The name in the line is the last component of the path that was resolved, or short. -/
theorem length_findBasename_le {dir dir' : List Bytes} {front : Bytes}
    (hnorm : normalizeWithin slash dot ftpMaxPath dir vpath = some dir')
    (hnames : ∀ c ∈ (front ++ render slash dir').splitOn slash, c.length ≤ nameMax) :
    (findBasename vpath).length ≤ nameMax := by
  by_cases hname : IsName slash dot (findBasename vpath)
  · obtain ⟨parents, hdir'⟩ := List.getLast?_eq_some_iff.1
      ((normalizeWithin_eq_some hnorm).symm ▸ getLast?_normalize hname rfl)
    refine hnames _ ?_
    rw [hdir', render_push, ← List.append_assoc, splitOn_append_sep_cons _ hname.sep_not_mem]
    exact List.mem_concat_self
  · have hsep : slash ∉ findBasename vpath := fun h ↦ by simpa using List.mem_rtakeWhile_imp h
    -- what is left are the words that name no entry of a directory
    rcases eq_or_ne (findBasename vpath) [] with h | hnil
    · simp [h]
    rcases eq_or_ne (findBasename vpath) [dot] with h | hdot
    · simp [h, nameMax]
    rcases eq_or_ne (findBasename vpath) [dot, dot] with h | hup
    · simp [h, nameMax]
    exact absurd ⟨hnil, hsep, hdot, hup⟩ hname

/-- The attributes of a file are asked for. -/
def statOf? : Item kernel → Option Stat
  | .call (.path .stat _) r => (r : Answer (.path .stat _)).val.toOption
  | _ => none

/-- What a file is like for which `vfs_stat` succeeds. -/
theorem vfsStat_fits (hfs : FileSystem e) (hpool : w.st.vfsPool = some pool)
    (hlen : pool.virtPath.length = ftpMaxPath) (hroot : nul ∉ pool.rootDir) (hcwd : Canonical cwd)
    (hcwd_nul : nul ∉ cwd) (hpath : nul ∉ vpath) :
    wp e (vfsStat config cwd vpath)
      (fun r w' ↦ ∀ st, r = some st → StatFits st ∧ (findBasename vpath).length ≤ nameMax ∧
        ∃ x ∈ w'.trace, statOf? x = some st)
      (fun k _ ↦ k = .blocked) w := by
  rw [vfsStat, wp_bind]
  refine wp_mono (vfsRealpath_spec hpool hlen hcwd hcwd_nul hpath) ?_ fun _ _ h ↦ h.elim
  rintro ok w₁ ⟨virtPath, errno, -, rfl, hmatch⟩
  rcases hnorm : normalizeWithin slash dot ftpMaxPath (baseOf cwd vpath) vpath with - | dir
  · rw [hnorm] at hmatch
    obtain ⟨rfl, -⟩ := hmatch
    exact fun _ h ↦ nomatch h
  rw [hnorm] at hmatch
  obtain ⟨rfl, -, hrender, -⟩ := hmatch
  have hreal : VfsPool.realPath { pool with virtPath } = pool.rootDir ++ render slash dir := by
    rw [VfsPool.realPath, cstr_append hroot, hrender]
  simp only [Bool.not_true, Bool.false_eq_true, if_false, realPath, wp_bind, wp_get, wp_pure, hreal]
  refine wp_checked.2 (wp_sys (fun r hr ↦ ?_) rfl)
  rcases htmp : r.val with err | tmp
  · exact fun _ h ↦ nomatch h
  have hbase := length_findBasename_le hnorm (hfs.names _ _ r tmp hr htmp)
  dsimp only
  split_ifs
  · exact fun _ h ↦ nomatch h
  · simp only [wp_bind, wp_get, answered]
    refine wp_checked.2 (wp_sys (fun r' hr' ↦ ?_) rfl)
    rcases hst : r'.val with err | st
    · exact fun _ h ↦ nomatch h
    · rintro _ ⟨⟩
      refine ⟨hfs.stats _ _ r' st hr' hst, hbase, .call _ r', List.mem_concat_self, ?_⟩
      change r'.val.toOption = some st
      rw [hst]
      rfl

/-! ### The length -/

/-- The mode, six numbers and a name, each with its bound. -/
theorem length_listLine_lt {st : Stat} {date basename : Bytes} (hst : StatFits st)
    (hdate : date.length ≤ 12) (hname : basename.length ≤ nameMax) :
    (listLine st date basename).length < statBufferSize := by
  have hnlink := length_fmtInt_le (k := 20) (i := st.nlink) (by decide) (by
    have := hst.nlink
    omega)
  have huid := length_fmtInt_le (k := 10) (i := st.uid) (by decide) (by
    have := hst.uid
    omega)
  have hgid := length_fmtInt_le (k := 10) (i := st.gid) (by decide) (by
    have := hst.gid
    omega)
  have hsize := length_fmtInt_le (k := 19) (i := st.size) (by decide) (by
    have := hst.size
    omega)
  have hmode : (ofString "rwxrwxrwx ").length = 10 := by decide
  simp only [listLine, List.length_append, List.length_cons, List.length_nil, hmode]
  rw [nameMax] at hname
  rw [statBufferSize, ftpMaxName]
  omega

/-- A date has twelve columns at most. -/
theorem length_listDate_le {tm : Tm} {date : Bytes} (h : listDate tm = some date) :
    date.length ≤ 12 := by
  rw [listDate] at h
  split_ifs at h
  · cases h
  · simp only [Option.bind_eq_bind, Option.bind_eq_some_iff, Option.pure_def,
      Option.some.injEq] at h
    obtain ⟨month, -, rfl⟩ := h
    exact List.length_take_le _ _

/-! ### The function -/

/-- What `send_filestat` does in front of its `sendall`: the line, unless `vfs_stat` fails. -/
def filestatLine (config : FtpConfig) (cwd vpath : Bytes) : Program (Option Bytes) := do
  match ← vfsStat config cwd vpath with
  | none => return none
  | some st =>
    let indet ← sys .indeterminate
    match (convertTime indet st.mtime).bind listDate with
    | none => Proc.fault
    | some date => return some (listLine st date (findBasename vpath))

/-- What `send_filestat` would do with its line if there was a buffer for every line. -/
def sendWhole (dataSock : ℤ) : Option Bytes → Program FtpRet
  | none => return .fail
  | some line => do
    match ← sendall dataSock line with
    | some _ => return .success
    | none =>
      if (← errnoIs .epipe) || (← errnoIs .econnreset) then
        return .abor
      else
        return .error

/-- The line end is printed last. -/
theorem isSuffix_listLine (st : Stat) (date basename : Bytes) :
    [cr, lf] <:+ listLine st date basename :=
  List.suffix_append _ _

/-- The trace says of a file that it was changed on a disputed day. -/
def Undatable (trace : List (Item kernel)) : Prop :=
  ∃ x ∈ trace, ∃ st, statOf? x = some st ∧ Disputed (toInt (st.mtime.tdiv 86400))

/-- Every line that is made fits its buffer, and a line is made for every day in the calendar of
`convert_time`. -/
theorem filestatLine_fits (hfs : FileSystem e) (hpool : w.st.vfsPool = some pool)
    (hlen : pool.virtPath.length = ftpMaxPath) (hroot : nul ∉ pool.rootDir) (hcwd : Canonical cwd)
    (hcwd_nul : nul ∉ cwd) (hpath : nul ∉ vpath) :
    wp e (filestatLine config cwd vpath)
      (fun r _ ↦ ∀ line, r = some line → line.length < statBufferSize ∧ [cr, lf] <:+ line)
      (fun k w' ↦ k = .blocked ∨ Undatable w'.trace) w := by
  rw [filestatLine, wp_bind]
  refine wp_mono (vfsStat_fits hfs hpool hlen hroot hcwd hcwd_nul hpath) ?_ fun _ _ h ↦ .inl h
  rintro (- | st) w₁ hst
  · exact fun _ h ↦ nomatch h
  obtain ⟨hfits, hname, x, hx, hstat⟩ := hst st rfl
  refine (wp_bind _ _).2 (wp_sys (fun indet _ ↦ ?_) (.inl rfl))
  rcases hdate : (convertTime indet.val st.mtime).bind listDate with - | date
  · refine .inr ⟨x, List.mem_append_left _ hx, st, hstat, ?_⟩
    by_contra hdays
    obtain ⟨tm, htm, h0, h12⟩ := convertTime_of_not_disputed hdays indet.val
    rw [htm] at hdate
    exact listDate_ne_none h0 h12 hdate
  · rintro _ ⟨⟩
    obtain ⟨tm, -, htm⟩ := Option.bind_eq_some_iff.1 hdate
    exact ⟨length_listLine_lt hfits (length_listDate_le htm) hname, isSuffix_listLine _ _ _⟩

/-- What `send_filestat` does with a line that its buffer may be too short for. -/
def sendLine (dataSock : ℤ) : Option Bytes → Program FtpRet
  | none => return .fail
  | some line =>
    let statbuf := line.take (statBufferSize - 1) ++ [nul]
    if line.length > statBufferSize then
      Proc.fault
    else do
      match ← sendall dataSock (statbuf.take line.length) with
      | some _ => return .success
      | none =>
        if (← errnoIs .epipe) || (← errnoIs .econnreset) then
          return .abor
        else
          return .error

/-- A line that fits the buffer is handed to `sendall` as a whole. -/
theorem sendLine_eq {dataSock : ℤ} {line : Bytes} (h : line.length < statBufferSize) :
    sendLine dataSock (some line) = sendWhole dataSock (some line) := by
  have htake : (line.take (statBufferSize - 1) ++ [nul]).take line.length = line := by
    rw [List.take_of_length_le (i := statBufferSize - 1) (by omega), List.take_left]
  simp only [sendLine, sendWhole, if_neg (not_lt.2 h.le), htake]

/-- `send_filestat` makes a line and sends it. -/
theorem sendFilestat_eq {dataSock : ℤ} :
    sendFilestat config cwd vpath dataSock =
      filestatLine config cwd vpath >>= sendLine dataSock := by
  rw [sendFilestat, filestatLine, bind_assoc]
  refine bind_congr fun r ↦ ?_
  rcases r with - | st
  · rw [pure_bind]
    rfl
  · dsimp only
    rw [bind_assoc]
    refine bind_congr fun indet ↦ ?_
    generalize (convertTime indet st.mtime).bind listDate = date
    rcases date with - | date
    · rfl
    · refine Eq.trans ?_ (pure_bind _ _).symm
      unfold sendLine
      refine ite_congr rfl (fun _ ↦ rfl) fun _ ↦ bind_congr fun sent ↦ ?_
      rcases sent with - | - <;> rfl

/-- **A line of a listing is sent uncut.** What `send_filestat` sends is the line and nothing else,
which is shorter than its buffer and ends in CR LF; and there is a line, unless `convert_time` has
no month for the file. -/
theorem sendFilestat_whole (config : FtpConfig) (e : Env) (w : World) (pool : VfsPool)
    (cwd vpath : Bytes) (dataSock : ℤ) (hfs : FileSystem e) (hpool : w.st.vfsPool = some pool)
    (hlen : pool.virtPath.length = ftpMaxPath) (hroot : nul ∉ pool.rootDir) (hcwd : Canonical cwd)
    (hcwd_nul : nul ∉ cwd) (hpath : nul ∉ vpath) :
    sendFilestat config cwd vpath dataSock e w =
        (filestatLine config cwd vpath >>= sendWhole dataSock) e w ∧
      (∀ line w', filestatLine config cwd vpath e w = (.ret (some line), w') →
        line.length < statBufferSize ∧ [cr, lf] <:+ line) ∧
      ∀ w', filestatLine config cwd vpath e w = (.halt .fault, w') → Undatable w'.trace := by
  have hfits : wp e (filestatLine config cwd vpath) _ _ w :=
    filestatLine_fits hfs hpool hlen hroot hcwd hcwd_nul hpath
  refine ⟨?_, fun line w' hrun ↦ wp_ret hfits hrun line rfl, fun w' hrun ↦
    (wp_halt hfits hrun).resolve_left nofun⟩
  rw [sendFilestat_eq]
  simp only [bind]
  rcases hrun : filestatLine config cwd vpath e w with ⟨(- | line) | k, w₁⟩
  · rfl
  · have hline := (wp_ret hfits hrun line rfl).1
    simp only [sendLine_eq hline]
  · rfl

/-- There is a file for every path that a file system can have, with the largest attributes. -/
def fullFiles : Env :=
  scriptedEnv (fun _ c ↦
    match c with
    | .path .lstat path =>
      if ∀ c ∈ path.splitOn slash, c.length ≤ nameMax then none else some ⟨[], .error .enametoolong⟩
    | .path .stat _ =>
      some ⟨[], .ok ⟨.reg, 2 ^ 64 - 1, 2 ^ 32 - 1, 2 ^ 32 - 1, 2 ^ 63 - 1, 951782340⟩⟩
    | _ => none) 1000

/-- The attributes are at their bounds. -/
theorem fileSystem_fullFiles : FileSystem fullFiles where
  names trace path r st hr hval := by
    by_cases hnames : ∀ c ∈ path.splitOn slash, c.length ≤ nameMax
    · exact hnames
    · have hfail : r.val = .error .enametoolong := by
        rw [← hr]
        simp only [fullFiles, scriptedEnv, if_neg hnames, Option.getD_some]
      rw [hfail] at hval
      cases hval
  stats trace path r st hr hval := by
    rw [← hr] at hval
    obtain rfl : (⟨.reg, 2 ^ 64 - 1, 2 ^ 32 - 1, 2 ^ 32 - 1, 2 ^ 63 - 1, 951782340⟩ : Stat) = st :=
      Except.ok.inj hval
    constructor <;> decide

/-- The longest name, and all numbers at their largest. -/
theorem sendFilestat_whole_full :
    let w : World :=
      World.start { Process.initial 1 with vfsPool := some (newPool (ofString "/srv")) }
    let name := List.replicate 255 97
    ((filestatLine loadDefaults (ofString "/a") name fullFiles w).1 = .ret (some
        (listLine ⟨.reg, 2 ^ 64 - 1, 2 ^ 32 - 1, 2 ^ 32 - 1, 2 ^ 63 - 1, 951782340⟩
          (ofString "Feb 5 23:59") name))) ∧
      sendFilestat loadDefaults (ofString "/a") name 8 fullFiles w =
        (filestatLine loadDefaults (ofString "/a") name >>= sendWhole 8) fullFiles w ∧
      (∀ line w', filestatLine loadDefaults (ofString "/a") name fullFiles w =
        (.ret (some line), w') →
        line.length < statBufferSize ∧ [cr, lf] <:+ line) ∧
      ∀ w', filestatLine loadDefaults (ofString "/a") name fullFiles w = (.halt .fault, w') →
        Undatable w'.trace := by
  intro w name
  have hname : nul ∉ name := fun h ↦ absurd (List.eq_of_mem_replicate h) (by decide)
  exact ⟨by decide +kernel, sendFilestat_whole loadDefaults fullFiles w (newPool (ofString "/srv"))
    (ofString "/a") name 8 fileSystem_fullFiles rfl (by decide +kernel) (by decide +kernel)
    (by decide +kernel) (by decide +kernel) hname⟩

end FtpServer
