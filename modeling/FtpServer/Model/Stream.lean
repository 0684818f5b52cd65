import FtpServer.Model.Vfs

/-!
# Sockets, replies and signals

`stream.c`, `reply.c`, `server_handle_signal` of `server.c`, `accept_data_conn` of `util.c` and
`failed_vfs_reply` of `vfs.c`: what the command handlers share. A loop of the source is a
`Proc.loop`, whose body returns `.inl` to go round again.

Log lines are left out: nothing reads them.
-/

namespace FtpServer

open CString Effect

/-! ### Sending -/

/-- `sendall`: `none` for -1. -/
def sendall (sockfd : ℤ) (buf : Bytes) : Program (Option ℕ) :=
  Proc.loop (fun (total : ℕ) ↦ do
    if total < buf.length then
      match ← checked (sys (.send sockfd (buf.drop total))) with
      | none =>
        if ← errnoIs .eintr then return .inl total
        else return .inr none
      | some n => return .inl (total + n.1)
    else return .inr (some total)) 0

/-- `reply`, on the connection with control socket `sock`. -/
def reply (sock : ℤ) (msg : Bytes) : Program (Option ℕ) := do
  observe (.reply msg)
  sendall sock msg

/-- `reply` on the session's connection; no caller looks at the result. -/
def replyMsg (msg : String) : Program Unit := do
  let _ ← reply (← getSession).conn.sock (ofString msg)

/-- `reply_format`, given what the format expands to: it is cut to the reply buffer. -/
def replyFormat (expansion : Bytes) : Program Unit := do
  if (← Proc.get).replyPool then
    observe (.expansion expansion)
    let _ ← reply (← getSession).conn.sock (expansion.take (responseBufferSize - 1))
  else
    Proc.fault

/-- `failed_vfs_reply`. -/
def failedVfsReply : Program FtpRet := do
  match (← Proc.get).errno with
  | some e =>
    if e ∈ [.eperm, .enoent, .eacces, .enotdir, .enametoolong, .enotempty, .eloop, .eusers,
        .edquot] then
      replyFormat (ofString "550 " ++ strerror e ++ [cr, lf])
    else replyMsg "550 Server error\r\n"
  | none => replyMsg "550 Server error\r\n"
  return .success

/-! ### Signals -/

/-- The test of `signal_flag` that both signal handling functions end with. -/
def takeTerminating : Program FtpRet := do
  if (← Proc.get).signalFlag ≠ 0 then
    Proc.modify fun s ↦ { s with signalFlag := 0 }
    return .quit
  else
    return .success

/-- `server_handle_signal`. `waiter` is a ghost: only the note mentions it. -/
def serverHandleSignal (waiter : Waiter) : Program FtpRet := do
  sys .sigprocmask
  -- From here on, signals are blocked
  Proc.modify fun s ↦
    { s with signalFlag := s.signalFlag &&& ~~~recvSigchld &&& ~~~recvSigpipe }
  -- All other signals means we terminate
  let ret ← takeTerminating
  if ret = .quit then
    mark (.quit waiter)
  sys .sigprocmask
  return ret

/-- `errno == EINTR && server_handle_signal()`. -/
def interruptedToQuit (waiter : Waiter) : Program Bool := do
  if ← errnoIs .eintr then
    return (← serverHandleSignal waiter) = .quit
  else
    return false

/-! ### Data connections -/

/-- The results of `accept_data_conn`. -/
inductive DataConn where
  | sock (fd : ℕ)
  /-- -1 -/
  | failed
  /-- -2 -/
  | quit
  deriving DecidableEq, Repr

/-- The result as the `int` that the callers store. -/
def DataConn.fd : DataConn → ℤ
  | sock fd => fd
  | failed => -1
  | quit => -2

/-- `accept_data_conn`. Every round of its loop returns. -/
def acceptDataConn : Program DataConn := do
  match ← checked (sys (.accept (← getSession).conn.pasvSock)) with
  | some (fd, _) => return .sock fd
  | none =>
    if ← interruptedToQuit .acceptDataConn then
      return .quit
    else if ← errnoIs .econnaborted then
      return .quit
    else
      replyMsg "425 Cannot open data connection\r\n"
      return .failed

/-- The `lseek` to an offset that the caller may have left out. -/
def seekTo (fd : ℤ) : Option ℤ → Program Unit
  | none => return
  | some off => do
    let _ ← checked (sys (.lseek fd off))

/-- `splice_stream`: its result, and the value of `*out_offset` afterwards, which moves by the
result of `write` even if that is -1. `in_offset` is a local copy of the callers, who do not read
it again. -/
def spliceStream (out : Stream) (outOffset : Option ℤ) (in_ : Stream) (inOffset : Option ℤ)
    (count : ℕ) : Program (ℤ × Option ℤ) := do
  seekTo out.fd outOffset
  seekTo in_.fd inOffset
  if in_.type = .file && out.type = .socket then
    match ← checked (sys (.sendfile out.fd in_.fd (inOffset.getD 0) count)) with
    | none => return (-1, outOffset)
    | some n => return (n.1, outOffset)
  else
    match ← sys (.malloc count) with
    | none =>
      setErrno .enomem
      return (-1, outOffset)
    | some _ =>
      match ← checked (sys (.read in_.fd count)) with
      | none => return (-1, outOffset)
      | some buf =>
        if buf.1 = [] then
          return (0, outOffset)
        else
          match ← checked (sys (.write out.fd buf.1)) with
          | none => return (-1, outOffset.map (· - 1))
          | some n => return (n.1, outOffset.map (· + n.1))

end FtpServer
