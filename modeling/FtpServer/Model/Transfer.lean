import FtpServer.Model.State

/-!
# Transfers: `throttle.c`, and `transfer_file` and `store_file` of `core.c`

Both directions move a file in blocks through `splice_stream`, throttle after every block and look
for signals. They treat a failed `splice_stream` alike (`spliceFailed`).
-/

namespace FtpServer

open CString Effect

/-! ### `throttle.c` -/

/-- `gettimeofday( &info->xfer_probe, NULL )`. -/
def resetProbe : Program Unit := do
  let now ← sys .gettimeofday
  modifyInfo fun i ↦ { i with xferProbe := now }

/-- The report to the master, at most every half second, which starts a new window. -/
def reportProgress (diff : ℤ) : Program Unit := do
  if diff > 500 then
    let _ ← sendState .xfer
    resetProbe
    modifyInfo fun i ↦ { i with probeLen := 0 }

/-- `nanosleep`, until the time has passed; an interrupted call leaves the rest of it. -/
def sleepFor (t : ℤ × ℤ) : Program Unit :=
  Proc.loop (fun (slp : ℤ × ℤ) ↦ do
    match ← sys (.nanosleep slp) with
    | .ok () => return .inr ()
    | .error rem => return .inl rem) t

/-- `throttle_pause`. -/
def throttlePause (config : FtpConfig) : Program Unit := do
  let now ← sys .gettimeofday
  let info := (← getSession).info
  let transferSize := toInt info.probeLen.toNat
  let diff := msecdiff now info.xferProbe
  if diff < 0 then
    -- Clock skew: the user gets one block for free
    resetProbe
  else
    reportProgress diff
    -- Now that is done, do the actual throttling
    if config.throttleRate < 1 then
      return
    let idealdiff := transferSize.tdiv config.throttleRate
    if idealdiff < diff then
      return
    sleepFor ((idealdiff - diff).tdiv 1000, (idealdiff - diff).tmod 1000 * 1000000)

/-! ### `core.c` -/

/-- The `switch( errno )` after a `splice_stream` that returned -1: what to return, or `none` to go
on. -/
def spliceFailed (waiter : Waiter) : Program (Option FtpRet) := do
  match (← Proc.get).errno with
  | some .eintr =>
    if (← serverHandleSignal waiter) ≠ .success then return some .quit
    else return none
  | some .epipe | some .econnreset => return some .abor
  | _ => return some .error

/-- The `while` loops of `transfer_file` around `splice_stream`: repeat the request at `offset`
until it does not fail, or return early. -/
def spliceBlock (data file : Stream) (offset : ℤ) (count : ℕ) : Program (Except FtpRet ℤ) :=
  Proc.loop (fun (_ : Unit) ↦ do
    let (ret, _) ← spliceStream data none file (some offset) count
    if ret = -1 then
      match ← spliceFailed .transferFile with
      | some ret => return .inr (.error ret)
      | none => return .inl ()
    else return .inr (.ok ret)) ()

/-- The `for` loop of `transfer_file` over the whole blocks: `some ret` to return early. -/
def sendBlocks (config : FtpConfig) (data file : Stream) (fileOffset blocks : ℤ) :
    Program (Option FtpRet) :=
  Proc.loop (fun (i : ℤ) ↦ do
    if i < blocks then
      let blockOffset := fileOffset + i * xferBlockSize
      match ← spliceBlock data file blockOffset xferBlockSize with
      | .error ret => return .inr (some ret)
      | .ok ret =>
        if ret = 0 then
          return .inr (some .abor)
        modifyInfo fun info ↦
          { info with xferLen := info.xferLen + .ofNat xferBlockSize
                      probeLen := info.probeLen + .ofNat xferBlockSize }
        throttlePause config
        if (← serverHandleSignal .transferFile) ≠ .success then
          return .inr (some .quit)
        return .inl (i + 1)
    else return .inr none) 0

/-- The first lines of both transfers. -/
def startTransfer : Program Unit := do
  let now ← sys .gettimeofday
  modifyInfo fun i ↦ { i with xferStart := now, xferProbe := now, xferLen := 0, probeLen := 0 }

/-- `transfer_file`. The number of blocks is an `int`. -/
def transferFile (config : FtpConfig) (data file : Stream) (fileOffset count : ℤ) :
    Program FtpRet := do
  startTransfer
  let blocks := toInt (count.tdiv xferBlockSize)
  let remainder := count.tmod xferBlockSize
  match ← sendBlocks config data file fileOffset blocks with
  | some ret => return ret
  | none =>
    -- Send the remaining data < XFER_BLOCK_SIZE
    match ← spliceBlock data file (fileOffset + count - remainder) remainder.toNat with
    | .error ret => return ret
    | .ok _ =>
      modifyInfo fun info ↦ { info with xferLen := info.xferLen + .ofNat remainder.toNat }
      return .success

/-- `store_file`. -/
def storeFile (config : FtpConfig) (file data : Stream) : Program FtpRet := do
  let restartPos := (← getSession).restartPos
  startTransfer
  Proc.loop (fun (offset : ℤ) ↦ do
    let (ret, offset') ← spliceStream file (some offset) data none xferBlockSize
    let offset := offset'.getD offset
    if ret = 0 then
      return .inr .success
    if ret = -1 then
      match ← spliceFailed .storeFile with
      | some ret => return .inr ret
      | none => return .inl offset
    else
      modifyInfo fun info ↦
        { info with probeLen := info.probeLen + .ofNat ret.toNat
                    xferLen := info.xferLen + .ofNat ret.toNat }
      throttlePause config
      let ret ← if (← Proc.get).signalFlag ≠ 0 then serverHandleSignal .storeFile else pure .success
      if ret ≠ .success then
        return .inr .quit
      return .inl offset) restartPos

end FtpServer
