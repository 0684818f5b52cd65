import FtpServer.Model.Kernel

/-!
# `util.c`

String helpers on bounds-checked buffers, and the conversion of times. A helper that the source
lets run over a buffer has no result where it would leave the buffer.
-/

namespace FtpServer

open CString Effect

/-! ### Strings -/

/-- `strlcpy`, with the string at `src` given: the new contents of the block at `dst`, which has
room for `size` bytes, and the result. An empty `src` leaves the block as it is. -/
def strlcpy (dst src : Bytes) (size : ℕ) : Bytes × ℕ :=
  let len := src.length
  if len ≠ 0 then
    let tlen := if len > size - 1 then size - 1 else len
    (src.take tlen ++ nul :: dst.drop (tlen + 1), len)
  else (dst, len)

/-- `while( p(*s) ) s++;`, from the index `i`. -/
def scanForward (p : UInt8 → Bool) (buf : Bytes) (i : ℕ) : Option ℕ :=
  let j := i + ((buf.drop i).takeWhile p).length
  if j < buf.length then some j else none

/-- `while( p(*end) ) end--;`. There is no lower bound but the start of the buffer. -/
def scanBackward (p : UInt8 → Bool) (buf : Bytes) : ℕ → Option ℕ
  | 0 =>
    match buf[0]? with
    | none => none
    | some c => if p c then none else some 0
  | i + 1 =>
    match buf[i + 1]? with
    | none => none
    | some c => if p c then scanBackward p buf i else some (i + 1)

/-- `trim_whitespace`, on the string at index `line`: the buffer and the index afterwards. -/
def trimWhitespace (buf : Bytes) (line : ℕ) : Option (Bytes × ℕ) := do
  -- Skip leading whitespace
  let line ← scanForward isblank buf line
  -- Trim trailing whitespace
  let stop ← scanForward (· ≠ nul) buf line
  if stop = line then
    return (buf, line)
  let last ← scanBackward isspace buf (stop - 1)
  let buf ← store buf (last + 1) nul
  return (buf, line)

/-- `find_basename`. -/
def findBasename (path : Bytes) : Bytes := path.rtakeWhile (· ≠ slash)

/-- `get_modechar`. -/
def getModechar : FileKind → UInt8
  | .dir => 100
  | .reg => minus
  | .chr => 99
  | .blk => 98
  | .fifo => 112
  | .lnk => 108
  | .sock => 115
  | .unknown => minus

/-! ### Times -/

/-- The fields of `struct tm` that `convert_time` assigns. -/
structure Tm where
  hour : ℤ
  min : ℤ
  sec : ℤ
  mday : ℤ
  mon : ℤ
  year : ℤ
  wday : ℤ
  yday : ℤ
  isdst : ℤ
  deriving DecidableEq, Repr

/-- The `k`-th call of `is_leap` of a call of `convert_time`. A year divisible by 4, by 100 and by
400 falls off the end of the function, and the caller gets an indeterminate value. -/
def isLeap (indet : ℕ → UInt8) (k : ℕ) (year : ℤ) : Bool :=
  if year.tmod 400 ≠ 0 then true
  else if year.tmod 100 ≠ 0 then false
  else if year.tmod 4 ≠ 0 then true
  else indet k ≠ 0

def daysInMonth : List ℤ := [31, 28, 31, 30, 31, 30, 31, 31, 30, 31, 30, 31]

/-- The loop over the years: the number of calls of `is_leap` so far, the days left and the year.
The loop is left when fewer than 365 days are, so `fuel` days are enough. -/
def yearLoop (indet : ℕ → UInt8) : (fuel k : ℕ) → (days year : ℤ) → ℕ × ℤ × ℤ
  | 0, k, days, year => (k, days, year)
  | fuel + 1, k, days, year =>
    if days ≥ (if isLeap indet k year then 366 else 365) then
      yearLoop indet fuel (k + 2) (days - if isLeap indet (k + 1) year then 366 else 365) (year + 1)
    else (k + 1, days, year)

/-- The loop over the months, reading the rest of `days_in_month`. The loop itself does not stop at
the end of the table. -/
def monthLoop (indet : ℕ → UInt8) (k : ℕ) (year : ℤ) : List ℤ → (month days : ℤ) → Option (ℤ × ℤ)
  | [], _, _ => none
  | i :: table, month, days =>
    let i := if month = 1 && isLeap indet k year then i + 1 else i
    if days < i then some (month, days)
    else monthLoop indet k year table (month + 1) (days - i)

/-- `convert_time`, when the calls of `is_leap` that return no value yield `indet`. -/
def convertTime (indet : ℕ → UInt8) (time : ℤ) : Option Tm := do
  let hour := (time.tdiv 3600).tmod 24
  let min := (time.tdiv 60).tmod 60
  let sec := time.tmod 60
  let days := toInt (time.tdiv 86400)
  let wday := (days + 4).tmod 7
  let (k, days, year) := yearLoop indet (days.toNat + 1) 0 days 1970
  let (month, left) ← monthLoop indet k year daysInMonth 0 days
  return { hour, min, sec, mday := left + 1, mon := month, year := year - 1900, wday,
           yday := days, isdst := 0 }

/-- `msecdiff`. -/
def msecdiff (t₁ t₂ : Timeval) : ℤ :=
  toInt ((t₁.sec.toInt - t₂.sec.toInt) * 1000 + (t₁.usec.toInt - t₂.usec.toInt).tdiv 1000)

/-! ### The state pipe -/

/-- The reads of whole blocks of `seek_pipe`. -/
def seekBlocks (pipefd : ℤ) : ℕ → Program FtpRet
  | 0 => return .success
  | n + 1 => do
    match ← checked (sys (.read pipefd seekBufferSize)) with
    | none => return .error
    | some _ => seekBlocks pipefd n

/-- `seek_pipe`. -/
def seekPipe (pipefd : ℤ) (offset : ℕ) : Program FtpRet := do
  if offset = 0 then
    return .success
  let blocks := offset / seekBufferSize
  let remainder := offset % seekBufferSize
  if (← seekBlocks pipefd blocks) = .error then
    return .error
  match ← checked (sys (.read pipefd remainder)) with
  | none => return .error
  | some _ => return .success

end FtpServer
