import FtpServer.Model.Server

/-!
# `child.c` and `daemon.c`

The master: it accepts connections, forks a session for each, keeps a list of the sessions with what
they report, and removes the entries of sessions that have ended.
-/

namespace FtpServer

open CString Effect

/-! ### The client list: `child.c` -/

/-- `sizeof(ftp_child_t)`. -/
def ftpChildSize : ℕ := 1456

/-- The entry `new_client` makes. -/
def newChild (clientPid : Int32) (address : InAddr) : FtpChild where
  pid := clientPid
  clientAddr := address
  loginName := List.replicate maxLoginName nul
  path := List.replicate ftpMaxPath nul
  filename := List.replicate ftpMaxName nul
  xferInfo := .zero
  xferInProgress := false

/-- `new_client`. -/
def newClient (clientPid : Int32) (address : InAddr) : Program (Option FtpChild) := do
  match ← sys (.malloc ftpChildSize) with
  | none => return none
  | some _ => return some (newChild clientPid address)

/-- `add_client`. -/
def addClient (new : FtpChild) : Program FtpRet := do
  Proc.modify fun s ↦ { s with clients := s.clients ++ [new] }
  return .success

/-- `remove_client` on the list behind the head. Its loop looks at the entry behind the current one
without asking whether there is one. -/
def removeFrom : List FtpChild → (clientPid : Int32) → Option (List FtpChild)
  | [], _ => none
  | child :: list, clientPid =>
    if child.pid = clientPid then some list
    else (removeFrom list clientPid).map (child :: ·)

/-- `remove_client`. Its loop is never left by its condition, so there is no `return 1`. -/
def removeClient (clientPid : Int32) : Program ℕ := do
  match removeFrom (← Proc.get).clients clientPid with
  | none => Proc.fault
  | some clients =>
    Proc.modify fun s ↦ { s with clients }
    return 0

/-- `count_clients`. -/
def countClients (clients : List FtpChild) : ℕ := clients.length

/-- The loop of `remove_all_clients`. Every `kill` sends a `SIGTERM`. -/
def killAll : List FtpChild → Program Unit
  | [] => return
  | child :: list => do
    let _ ← checked (sys (.kill child.pid))
    killAll list

/-- `remove_all_clients`. -/
def removeAllClients (killClients : Bool) : Program Unit := do
  if killClients then
    killAll (← Proc.get).clients
  Proc.modify fun s ↦ { s with clients := [] }

/-! ### `daemon.c` -/

/-- What `daemon_handle_signal` does if `RECV_SIGCHLD` is set. -/
def reapChild : Program Unit := do
  -- `!RECV_SIGCHLD` is 0
  Proc.modify fun s ↦ { s with signalFlag := s.signalFlag &&& 0 }
  let _ ← removeClient (← sysBlocked .waitpid)

/-- `daemon_handle_signal`. -/
def daemonHandleSignal : Program FtpRet := do
  -- Blocking all signal to prevent races
  sys .sigprocmask
  if (← Proc.get).signalFlag &&& recvSigchld ≠ 0 then
    reapChild
  let ret ← takeTerminating
  mark (.handled ret)
  sys .sigprocmask
  return ret

/-- `pre_server`. -/
def preServer (config : FtpConfig) (socket : ℤ) : Program FtpRet := do
  let clCount := countClients (← Proc.get).clients
  if config.maxClients ≠ -1 && (clCount : ℤ) ≥ config.maxClients then
    let _ ← reply socket (ofString "421 Too many clients\r\n")
    return .error
  return .success

/-- The branch of `handle_client` in the new process. -/
def serveClient (config : FtpConfig) (self : Int32) (serverSock clientSock : ℤ)
    (pipefds : ℤ × ℤ) : Program FtpRet := do
  Proc.modify fun s ↦ { s with pid := self }
  -- Close the read end. If there is no reader anymore, the pipe breaks
  let _ ← checked (sys (.close pipefds.1))
  let _ ← checked (sys (.close serverSock))
  ftpMain config clientSock pipefds.2
  let _ ← checked (sys (.close clientSock))
  return .quit

/-- `handle_client`. -/
def handleClient (config : FtpConfig) (serverSock : ℤ) (pipefds : ℤ × ℤ) : Program FtpRet := do
  match ← checked (sys (.accept serverSock)) with
  | none =>
    if ← errnoIs .eintr then return .success
    else return .error
  | some (clientSock, clientAddr) =>
    if (← preServer config clientSock) ≠ .success then
      let _ ← checked (sys (.close clientSock))
      return .success
    match ← checked (sys .fork) with
    | none =>
      let _ ← checked (sys (.close clientSock))
      return .success
    | some (.child self) => serveClient config self serverSock clientSock pipefds
    | some (.parent clientPid) =>
      let _ ← checked (sys (.close clientSock))
      match ← newClient clientPid clientAddr with
      | none => return .error
      | some client => addClient client

/-- The body of the main loop of the server behind its `poll`: `some ret` to leave the loop. -/
def serveReady (config : FtpConfig) (serverSock : ℤ) (pipefds : ℤ × ℤ)
    (sockReady pipeReady : Bool) : Program (Option FtpRet) := do
  if sockReady then
    let ret ← handleClient config serverSock pipefds
    if ret ≠ .success then
      return some ret
  if pipeReady then
    let ret ← recvState pipefds.1
    if ret ≠ .success then
      return some ret
  return none

/-- The main loop of the server: the value of `ret` behind it. -/
def daemonLoop (config : FtpConfig) (serverSock : ℤ) (pipefds : ℤ × ℤ) : Program FtpRet :=
  Proc.loop (fun (_ : Unit) ↦ do
    if (← daemonHandleSignal) ≠ .success then
      return .inr .success
    match ← checked (sys (.pollBoth serverSock pipefds.1)) with
    | some none => return .inl ()
    | none =>
      if ← errnoIs .eintr then return .inl ()
      else return .inr .success
    | some (some (sockReady, pipeReady)) =>
      match ← serveReady config serverSock pipefds sockReady pipeReady with
      | some ret => return .inr ret
      | none => return .inl ()) ()

/-- `daemon_main`. -/
def daemonMain (config : FtpConfig) (serverSock : ℤ) (pipefds : ℤ × ℤ) : Program ℕ := do
  -- Head of the linked list
  match ← sys (.malloc ftpChildSize) with
  | none => return 1
  | some _ =>
    Proc.modify fun s ↦ { s with clients := [] }
    let ret ← daemonLoop config serverSock pipefds
    removeAllClients (ret ≠ .quit)
    return 0

end FtpServer
