import FtpServer.Model.Auth
import FtpServer.Model.Ls
import FtpServer.Model.Transfer

/-!
# `core.c`

The command handlers other than the login and `LIST`.
-/

namespace FtpServer

open CString Effect

/-! ### Handlers that only reply -/

/-- `dosyst`. -/
def dosyst : Program FtpRet := do
  replyMsg "200 UNIX Type L8\r\n"
  return .success

/-- `donoop`. -/
def donoop : Program FtpRet := do
  replyMsg "200 Zzz\r\n"
  return .success

/-- `dotype`. -/
def dotype : Program FtpRet := do
  let arg := (← getSession).command.argument
  match toupper (arg.headD nul) with
  | 65 => replyMsg "200 TYPE is now ASCII\r\n"
  | 73 => replyMsg "200 TYPE is now BINARY\r\n"
  | 76 =>
    if arg.tail ≠ [] then
      replyMsg "501 Missing argument\r\n"
    else
      replyMsg "504-Only 8-bit bytes allowed\r\n"
      replyMsg "504 TYPE is now Binary\r\n"
  | _ => replyMsg "504 Bad parameter\r\n"
  return .success

/-- `dopwd`. -/
def dopwd : Program FtpRet := do
  let session ← getSession
  replyFormat (ofString "257 \"" ++ cstr session.virtPath ++
    ofString "\" is your current location\r\n")
  return .success

/-- `doquit`. -/
def doquit : Program FtpRet := do
  replyMsg "221 Goodbye!\r\n"
  return .quit

/-- `dofeat`. -/
def dofeat : Program FtpRet := do
  replyMsg "211-Extensions supported:\r\n"
  replyMsg " SIZE\r\n"
  replyMsg " MDTM\r\n"
  replyMsg "211 End.\r\n"
  return .success

/-- `doopts`. -/
def doopts : Program FtpRet := do
  replyMsg "501 No such command\r\n"
  return .success

/-- `doabor`. -/
def doabor : Program FtpRet := do
  replyMsg "226 Abort successful\r\n"
  return .success

/-- `doclnt`. -/
def doclnt : Program FtpRet := do
  replyMsg "220 Whatever\r\n"
  return .success

/-- `doallo`. -/
def doallo : Program FtpRet := do
  replyMsg "202 ALLO is obsolete\r\n"
  return .success

/-! ### Directories and file attributes -/

/-- `docwd`. -/
def docwd (config : FtpConfig) : Program FtpRet := do
  let session ← getSession
  match ← vfsStat config (cstr session.virtPath) session.command.argument with
  | none => failedVfsReply
  | some statpath =>
    if statpath.kind ≠ .dir then
      replyMsg "550 Not a directory\r\n"
      return .success
    let _ ← vfsChdir session.command.argument
    let _ ← sendState .chdir
    replyMsg "250 OK\r\n"
    return .success

/-- `docdup`. -/
def docdup (config : FtpConfig) : Program FtpRet := do
  modifySession fun s ↦ { s with command := { s.command with arg := .parent } }
  docwd config

/-- `dosize`. -/
def dosize (config : FtpConfig) : Program FtpRet := do
  let session ← getSession
  match ← vfsStat config (cstr session.virtPath) session.command.argument with
  | none =>
    let _ ← failedVfsReply
    return .success
  | some st =>
    if st.kind ≠ .reg then
      replyMsg "550 Can only size regular files\r\n"
      return .success
    -- the size is printed as an `unsigned long long`
    replyFormat (ofString "213 " ++ fmtInt (st.size % 2 ^ 64) ++ [cr, lf])
    return .success

/-- The 14 digits of `domdtm`. -/
def mdtmDate (tm : Tm) : Bytes :=
  (fmtIntPad 4 (tm.year + 1900) ++ fmtIntPad 2 tm.mon ++ fmtIntPad 2 tm.mday ++
    fmtIntPad 2 tm.hour ++ fmtIntPad 2 tm.min ++ fmtIntPad 2 tm.sec).take 14

/-- `domdtm`. -/
def domdtm (config : FtpConfig) : Program FtpRet := do
  let session ← getSession
  match ← vfsStat config (cstr session.virtPath) session.command.argument with
  | none =>
    let _ ← failedVfsReply
    return .success
  | some st =>
    if st.kind ≠ .reg then
      replyMsg "550 Can only time regular files\r\n"
      return .success
    let indet ← sys .indeterminate
    match convertTime indet st.mtime with
    | none => Proc.fault
    | some tm =>
      replyFormat (ofString "213 " ++ mdtmDate tm ++ [cr, lf])
      return .success

/-- `domkd`. -/
def domkd : Program FtpRet := do
  let session ← getSession
  match ← vfsMkdir (cstr session.virtPath) session.command.argument 0o777 with
  | none =>
    let _ ← failedVfsReply
    return .success
  | some () =>
    replyFormat (ofString "257 \"" ++ session.command.argument ++ ofString "\" created\r\n")
    return .success

/-- `dormd`. -/
def dormd : Program FtpRet := do
  let session ← getSession
  match ← vfsRmdir (cstr session.virtPath) session.command.argument with
  | none =>
    let _ ← failedVfsReply
    return .success
  | some () =>
    replyMsg "250 Directory removed\r\n"
    return .success

/-- `dodele`. -/
def dodele : Program FtpRet := do
  let session ← getSession
  match ← vfsUnlink (cstr session.virtPath) session.command.argument with
  | none =>
    let _ ← failedVfsReply
    return .success
  | some () =>
    replyMsg "250 File deleted\r\n"
    return .success

/-! ### `PASV` -/

/-- The `bind` loop of `pasv_listen`: `some port` for the port it bound, `none` for an error, and
`some end` if every port was in use. -/
def bindLoop (pasvSock : ℤ) : (fuel : ℕ) → (listenPort : ℤ) → Program (Option ℤ)
  | 0, listenPort => return some listenPort
  | fuel + 1, listenPort => do
    match ← checked (sys (.bind pasvSock listenPort)) with
    | some () => return some listenPort
    | none =>
      if ← errnoIs .eaddrinuse then
        bindLoop pasvSock fuel (listenPort + 1)
      else
        return none

/-- `pasv_listen`: the two bytes of the port, or `none` for `FTP_ERROR`. -/
def pasvListen (config : FtpConfig) (pasvSock : ℤ) : Program (Option (UInt8 × UInt8)) := do
  let start := config.pasvPortStart
  let stop := config.pasvPortEnd + 1
  let _ ← checked (sys (.setsockopt pasvSock))
  match ← bindLoop pasvSock (stop - start).toNat start with
  | none => return none
  | some listenPort =>
    if listenPort = stop then
      return none
    match ← checked (sys (.listen pasvSock)) with
    | none => return none
    | some () => checked (sys (.getsockport pasvSock))

def setPasvSock (fd : ℤ) : Program Unit :=
  modifySession fun s ↦ { s with conn := { s.conn with pasvSock := fd } }

/-- The close of an earlier listening socket in `dopasv`. -/
def closePasvSock : Program Unit := do
  let conn := (← getSession).conn
  if conn.pasvSock ≠ -1 then
    let _ ← checked (sys (.close conn.pasvSock))
    setPasvSock (-1)

/-- A byte under `%hhu`. -/
def fmtByte (b : UInt8) : Bytes := fmtInt b.toNat

/-- `dopasv`. -/
def dopasv (config : FtpConfig) : Program FtpRet := do
  closePasvSock
  let ip := (← getSession).conn.hostAddr
  match ← checked (sys .socket) with
  | none =>
    replyMsg "425 Can't open data connection\r\n"
    return .error
  | some pasvSock =>
    setPasvSock pasvSock
    match ← pasvListen config pasvSock with
    | none =>
      let _ ← checked (sys (.close pasvSock))
      setPasvSock (-1)
      replyMsg "425 Can't open data connection\r\n"
      return .success
    | some (port0, port1) =>
      replyFormat (ofString "227 Entering Passive Mode (" ++
        List.intercalate [44] ([ip.b0, ip.b1, ip.b2, ip.b3, port0, port1].map fmtByte) ++
        ofString ")\r\n")
      return .success

/-! ### Transfers -/

/-- The value of a run of digits. -/
def digitsValue (digits : Bytes) : ℕ :=
  digits.foldl (fun n d ↦ 10 * n + (d.toNat - 48)) 0

def llongMax : ℤ := 2 ^ 63 - 1
def llongMin : ℤ := -2 ^ 63

/-- `strtoll(s, NULL, 10)`: the value, and whether it sets `errno` to `ERANGE`. -/
def strtoll (s : Bytes) : ℤ × Bool :=
  let s := s.dropWhile isspace
  let negative := s.head? = some minus
  let s := if negative || s.head? = some 43 then s.tail else s
  let n : ℤ := digitsValue (s.takeWhile isdigit)
  let n := if negative then -n else n
  if n > llongMax then (llongMax, true)
  else if n < llongMin then (llongMin, true)
  else (n, false)

/-- `trim_whitespace( session->command.arg )` in the command line: the trimmed string. -/
def trimArgument : Program Bytes := do
  let command := (← getSession).command
  match command.arg with
  | .line offset =>
    match trimWhitespace command.line offset with
    | none => Proc.fault
    | some (line, offset) =>
      modifySession fun s ↦ { s with command := { s.command with line } }
      return cstr (line.drop offset)
  | _ => Proc.fault

def setRestartPos (offset : ℤ) : Program Unit :=
  modifySession fun s ↦ { s with restartPos := offset }

/-- `dorest`. `errno` is not cleared before `strtoll`. -/
def dorest : Program FtpRet := do
  let strpos ← trimArgument
  let (offset, outOfRange) := strtoll strpos
  if outOfRange then
    setErrno .erange
  if offset < 0 || offset = llongMax || (← errnoIs .erange) then
    replyMsg "501-Invalid seek argument\r\n"
    replyMsg "501 Seek reset to 0\r\n"
    setRestartPos 0
  else
    replyFormat (ofString "350 Restarting transfer at " ++ fmtInt offset ++ [cr, lf])
    setRestartPos offset
    observe (.rested offset)
  return .success

/-- `strlcpy( session->filename, basename, FTP_MAX_NAME - 1 )`: its result. -/
def setFilename (basename : Bytes) : Program ℕ := do
  modifySession fun s ↦
    { s with filename := (strlcpy s.filename basename (ftpMaxName - 1)).1 }
  return basename.length

/-- The reply that ends a transfer. -/
def transferReply : FtpRet → Program Unit
  | .success => replyMsg "226 File transfer successful\r\n"
  | .abor => replyMsg "426 File transfer aborted\r\n"
  | _ => replyMsg "450 Error during write to data connection\r\n"

/-- What both transfers do before the data phase. -/
def announceTransfer : Program Unit := do
  replyMsg "125 Data connection OK, transfer starting\r\n"
  modifyInfo fun i ↦ { i with xferStatus := 0 }
  let _ ← sendState .xferStart

/-- The data phase of `doretr`, and what follows it. -/
def retrData (config : FtpConfig) (data file : Stream) (offset filesize : ℤ) :
    Program FtpRet := do
  announceTransfer
  observe (.transfer .retr offset)
  let ret ← transferFile config data file offset (filesize - offset)
  transferReply ret
  modifySession fun s ↦
    { s with info := { s.info with totalDown := s.info.totalDown + s.info.xferLen
                                   xferStatus := ret.code }
             restartPos := 0 }
  let _ ← sendState .xferStop
  vfsClose file.fd
  let _ ← checked (sys (.close (← getSession).conn.dataSock))
  observe (.transferred (← getSession).restartPos)
  return .success

/-- What `doretr` does once it has its data connection. -/
def retrAccepted (config : FtpConfig) (basename : Bytes) (filesize : ℤ) (fd dataFd : ℕ) :
    Program FtpRet := do
  let offset := (← getSession).restartPos
  if offset > filesize then
    vfsClose fd
    let _ ← checked (sys (.close dataFd))
    replyFormat (ofString "451 Restarting position " ++ fmtInt (offset % 2 ^ 64) ++
      ofString " too large for file " ++ basename ++ ofString " of size " ++
      fmtInt (filesize % 2 ^ 64) ++ [cr, lf])
    return .success
  else
    retrData config ⟨dataFd, .socket⟩ ⟨fd, .file⟩ offset filesize

/-- `doretr`. -/
def doretr (config : FtpConfig) : Program FtpRet := do
  let argument := (← getSession).command.argument
  let basename := findBasename argument
  if (← setFilename basename) ≥ ftpMaxName then
    replyMsg "550 Filename too long\r\n"
    return .success
  match ← vfsStat config (cstr (← getSession).virtPath) argument with
  | none =>
    let _ ← failedVfsReply
    return .success
  | some statfile =>
    if statfile.kind ≠ .reg then
      replyMsg "550 Can only retrieve regular files\r\n"
      return .success
    match ← vfsOpen (cstr (← getSession).virtPath) argument with
    | none =>
      let _ ← failedVfsReply
      return .success
    | some fd =>
      let dataSock ← acceptDataConn
      modifySession fun s ↦ { s with conn := { s.conn with dataSock := dataSock.fd } }
      match dataSock with
      | .failed =>
        vfsClose fd
        return .success
      | .quit =>
        vfsClose fd
        return .quit
      | .sock dataFd => retrAccepted config basename statfile.size fd dataFd

/-- The data phase of `dostor`, and what follows it. -/
def storData (config : FtpConfig) (file data : Stream) : Program FtpRet := do
  announceTransfer
  observe (.transfer .stor (← getSession).restartPos)
  let ret ← storeFile config file data
  transferReply ret
  modifyInfo fun i ↦ { i with totalUp := i.totalUp + i.xferLen, xferStatus := ret.code }
  let _ ← sendState .xferStop
  vfsClose file.fd
  let _ ← checked (sys (.close data.fd))
  observe (.transferred (← getSession).restartPos)
  return .success

/-- `dostor`. The variable of the file descriptor is reused for the data connection, so its failure
branches close -1 and -2. -/
def dostor (config : FtpConfig) : Program FtpRet := do
  let pathname := (← getSession).command.argument
  if (← setFilename (findBasename pathname)) ≥ ftpMaxName then
    replyMsg "550 Filename too long\r\n"
    return .success
  match ← vfsCreat (cstr (← getSession).virtPath) pathname 0o777 with
  | none =>
    let _ ← failedVfsReply
    return .success
  | some fd =>
    match ← acceptDataConn with
    | .failed =>
      vfsClose (-1)
      return .success
    | .quit =>
      vfsClose (-2)
      return .quit
    | .sock dataFd => storData config ⟨fd, .file⟩ ⟨dataFd, .socket⟩

end FtpServer
