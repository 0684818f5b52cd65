import FtpServer.Model.Command

/-!
# `server.c`

The main loop of a session: read until the buffer holds a line, cut the line into a verb and an
argument, execute it, and move what follows it to the front of the buffer.
-/

namespace FtpServer

open CString Effect

/-! ### The session object -/

/-- `sizeof(ftp_session_t)`. -/
def ftpSessionSize : ℕ := 176

/-- `init_reply_pool`. -/
def initReplyPool : Program FtpRet := do
  match ← sys (.malloc responseBufferSize) with
  | none => return .error
  | some _ =>
    Proc.modify fun s ↦ { s with replyPool := true }
    return .success

/-- `destroy_reply_pool`. -/
def destroyReplyPool : Program Unit := Proc.modify fun s ↦ { s with replyPool := false }

/-- The session that `new_session` makes of its memory. Nothing assigns `login.user`. -/
def freshSession (conn : FtpConn) (line virtPath : Bytes) : FtpSession where
  conn := conn
  command := { line, dirtyLen := 0, arg := .null, len := 0 }
  login := { loggedIn := false, anonymous := false, user := .indeterminate }
  info := .zero
  virtPath := (virtPath.set 0 slash).set 1 nul
  filename := List.replicate ftpMaxName nul
  restartPos := 0

/-- The part of `new_session` that follows the look-up of the addresses. -/
def allocSession (conn : FtpConn) : Program Bool := do
  match ← sys (.malloc commandBufferSize) with
  | none => return false
  | some line =>
    match ← sys (.malloc ftpMaxPath) with
    | none => return false
    | some virtPath =>
      match ← sys (.malloc ftpMaxName) with
      | none => return false
      | some _ =>
        modifySession fun _ ↦ freshSession conn line.1 virtPath.1
        return true

/-- `new_session`: whether there is one. -/
def newSession (sock writePipe : ℤ) : Program Bool := do
  match ← sys (.malloc ftpSessionSize) with
  | none => return false
  | some _ =>
    match ← checked (sys (.getpeername sock)) with
    | none => return false
    | some clientAddr =>
      match ← checked (sys (.getsockname sock)) with
      | none => return false
      | some hostAddr =>
        allocSession
          { masterPipe := writePipe, sock, pasvSock := -1, dataSock := -1, hostAddr, clientAddr }

/-- `destroy_session`. -/
def destroySession : Program Unit := do
  observe .destroyed
  let session ← getSession
  if session.conn.pasvSock ≠ -1 then
    let _ ← checked (sys (.close session.conn.pasvSock))
  if session.login.user = .indeterminate then
    badUser session.login.user

/-! ### Reading -/

/-- `read_poll`: the bytes it read, which are none when it returns 0, or `none` for -1. -/
def readPoll (config : FtpConfig) (sock : ℤ) (max : ℕ) : Program (Option Bytes) := do
  -- Wait until there's incoming commands
  match ← checked (sys (.poll sock config.idleTimeout)) with
  | some false => return some []
  | none =>
    if ← interruptedToQuit .readPoll then return some []
    else return none
  | some true =>
    match ← checked (sys (.recv sock max)) with
    | some bs => return some bs.1
    | none =>
      if ← interruptedToQuit .readPoll then return some []
      else if ← errnoIs .econnreset then return some []
      else return none

def modifyCommand (f : FtpCommand → FtpCommand) : Program Unit :=
  modifySession fun s ↦ { s with command := f s.command }

/-- `read_cmd`. -/
def readCmd (config : FtpConfig) : Program FtpRet :=
  Proc.loop (fun (_ : Unit) ↦ do
    let session ← getSession
    let command := session.command
    if lf ∈ command.line.take command.dirtyLen then
      return .inr .success
    match ← readPoll config session.conn.sock (command.lineLen - command.dirtyLen) with
    | none =>
      if ← errnoIs .eintr then
        if (← serverHandleSignal .readCmd) = .quit then return .inr .quit
        else return .inl ()
      else return .inr .error
    | some bs =>
      if bs = [] then
        -- The remote side closed the connection or timed out
        return .inr .quit
      match storeAll command.line command.dirtyLen bs with
      | none => Proc.fault
      | some line =>
        let dirtyLen := command.dirtyLen + bs.length
        modifyCommand fun c ↦ { c with line, dirtyLen }
        if dirtyLen ≥ command.lineLen then
          let _ ← reply session.conn.sock (ofString "421 Command line too long\r\n")
          return .inr .quit
        return .inl ()) ()

/-! ### Cutting a line -/

/-- `remove_cmd` on the buffer. -/
def removeLine (command : FtpCommand) : FtpCommand :=
  if command.len = command.dirtyLen then { command with dirtyLen := 0 }
  else
    { command with
      line := command.line.drop command.len ++
        command.line.drop (command.lineLen - command.len)
      dirtyLen := command.dirtyLen - command.len }

/-- `remove_cmd`. -/
def removeCmd : Program FtpRet := do
  modifyCommand removeLine
  return .success

/-- The cut of `parse_cmd` at the first space: the buffer, and the index of what follows. -/
def splitWord (buf : Bytes) (bufend : ℕ) : Bytes × ℕ :=
  match (cstr buf).findIdx? (· = space) with
  | some cmdend => (buf.set cmdend nul, cmdend + 1)
  | none => (buf, bufend)

/-- `parse_cmd`, after the search for the end of the line, on the buffer: the buffer and the index
of the argument afterwards. -/
def parseLine (buf : Bytes) (bufend : ℕ) : Option (Bytes × ℕ) :=
  -- Stringify it
  let buf := buf.set bufend nul
  -- Command should end with \r\n but some clients just send \n
  let buf := if bufend ≠ 0 && buf[bufend - 1]? = some cr then buf.set (bufend - 1) nul else buf
  let (buf, argument) := splitWord buf bufend
  -- RFC says we need to strip leading whitespace
  (scanForward (fun c ↦ c ≠ nul && isspace c) buf argument).map (buf, ·)

/-- `parse_cmd`. -/
def parseCmd : Program FtpRet := do
  let command := (← getSession).command
  match command.line.findIdx? (· = lf) with
  | none => return .error
  | some bufend =>
    match parseLine command.line bufend with
    | none => Proc.fault
    | some (line, argument) =>
      modifyCommand fun c ↦ { c with line, arg := .line argument, len := bufend + 1 }
      return .success

/-! ### The main loop -/

/-- `while(1)` of `ftp_main`. -/
def commandLoop (config : FtpConfig) : Program Unit :=
  Proc.loop (fun (_ : Unit) ↦ do
    if (← readCmd config) ≠ .success then
      return .inr ()
    if (← parseCmd) ≠ .success then
      return .inr ()
    if (← doCmd config) ≠ .success then
      return .inr ()
    if (← removeCmd) ≠ .success then
      return .inr ()
    return .inl ()) ()

/-- The end of `ftp_main`, behind its loop. -/
def endSession (sock : ℤ) : Program Unit := do
  let _ ← reply sock (ofString "421 Goodbye!\r\n")
  destroyStatePool
  destroyVfsPool
  destroyReplyPool
  destroySession

/-- `ftp_main` once it has a session. -/
def serveSession (config : FtpConfig) (sock : ℤ) : Program Unit := do
  let _ ← reply sock (ofString "220 Welcome\r\n")
  commandLoop config
  endSession sock

/-- `ftp_main`, whose result is always 1. -/
def ftpMain (config : FtpConfig) (sock writePipe : ℤ) : Program Unit := do
  if (← initReplyPool) ≠ .success then
    return
  if !(← newSession sock writePipe) then
    destroyReplyPool
  else
    serveSession config sock

end FtpServer
