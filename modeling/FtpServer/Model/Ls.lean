import FtpServer.Model.State

/-!
# `ls.c`

`LIST`. A directory is listed by changing into it, listing every entry relative to it, and changing
back.
-/

namespace FtpServer

open CString Effect

/-! ### The argument -/

/-- One run of option letters: the index behind it, and whether an `a` was among them. -/
def optionWord (buf : Bytes) (arg : ℕ) : Option (ℕ × Bool) := do
  let stop ← scanForward (fun c ↦ c ≠ nul && !isblank c) buf arg
  return (stop, ((buf.drop arg).take (stop - arg)).contains 97)

/-- `while( *arg == '-' ) …` of `parse_list_options`: the index of what follows the options, and
`opt_a`. Each round advances over the `-`. -/
def listOptionsLoop (buf : Bytes) : (fuel arg : ℕ) → Bool → Option (ℕ × Bool)
  | 0, _, _ => none
  | fuel + 1, arg, optA =>
    match buf[arg]? with
    | none => none
    | some c =>
      if c = minus then do
        let (arg, a) ← optionWord buf (arg + 1)
        let arg ← scanForward isblank buf arg
        listOptionsLoop buf fuel arg (optA || a)
      else some (arg, optA)

/-- `parse_list_options`: the buffer, the index of the argument, and `opt_a`. -/
def parseListOptions (buf : Bytes) (arg : ℕ) : Option (Bytes × ℕ × Bool) := do
  let arg ← scanForward isblank buf arg
  let (arg, optA) ← listOptionsLoop buf (buf.length + 1) arg false
  let (buf, arg) ← trimWhitespace buf arg
  return (buf, arg, optA)

/-! ### One line -/

def months : List String :=
  ["Jan", "Feb", "Mar", "Apr", "May", "Jun", "Jul", "Aug", "Sep", "Oct", "Nov", "Dec"]

/-- The date column: at most 12 characters fit its buffer. -/
def listDate (tm : Tm) : Option Bytes := do
  let month ← if tm.mon < 0 then none else months[tm.mon.toNat]?
  return (ofString month ++ [space] ++ fmtInt tm.mday ++ [space] ++ fmtIntPad 2 tm.hour ++ [58] ++
    fmtIntPad 2 tm.min).take 12

/-- What the format of `send_filestat` expands to. -/
def listLine (st : Stat) (date basename : Bytes) : Bytes :=
  [getModechar st.kind] ++ ofString "rwxrwxrwx " ++ fmtInt st.nlink ++ [space] ++ fmtInt st.uid ++
    [space] ++ fmtInt st.gid ++ [space] ++ fmtInt st.size ++ [space] ++ date ++ [space] ++
    basename ++ [cr, lf]

/-- `send_filestat`. -/
def sendFilestat (config : FtpConfig) (cwd vpath : Bytes) (dataSock : ℤ) : Program FtpRet := do
  match ← vfsStat config cwd vpath with
  | none => return .fail
  | some st =>
    let indet ← sys .indeterminate
    match (convertTime indet st.mtime).bind listDate with
    | none => Proc.fault
    | some date =>
      let line := listLine st date (findBasename vpath)
      -- `len` is the length of the whole expansion, of which the buffer holds what fits
      let statbuf := line.take (statBufferSize - 1) ++ [nul]
      if line.length > statBufferSize then
        Proc.fault
      else
        match ← sendall dataSock (statbuf.take line.length) with
        | some _ => return .success
        | none =>
          if (← errnoIs .epipe) || (← errnoIs .econnreset) then
            return .abor
          else
            return .error

/-! ### The command -/

/-- `list_file`. -/
def listFile (config : FtpConfig) (filepath : Bytes) : Program FtpRet := do
  let session ← getSession
  sendFilestat config (cstr session.virtPath) filepath session.conn.dataSock

/-- The loop of `list_directory` over the entries. -/
def listEntries (config : FtpConfig) (drv : ℕ) (optA : Bool) : Program Unit :=
  Proc.loop (fun (_ : Unit) ↦ do
    match ← sys (.readdir drv) with
    | none => return .inr ()
    | some name =>
      let name := cstr name
      if name.head? = some dot && !optA then
        return .inl ()
      let session ← getSession
      let ret ← sendFilestat config (cstr session.virtPath) name session.conn.dataSock
      -- We ignore failed stat's.
      if ret ≠ .success && ret ≠ .fail then
        return .inr ()
      return .inl ()) ()

/-- `list_directory`. -/
def listDirectory (config : FtpConfig) (dirname : Bytes) (optA : Bool) : Program FtpRet := do
  -- Save the current directory, which is never the empty string
  let temp := (← getSession).virtPath
  let _ ← vfsChdir dirname
  -- It's a directory, so open it and list the contents
  match ← vfsOpendir (cstr (← getSession).virtPath) [dot] with
  | none =>
    let _ ← failedVfsReply
    return .error
  | some drv =>
    listEntries config drv optA
    vfsClosedir drv
    modifySession fun s ↦ { s with virtPath := (strlcpy s.virtPath (cstr temp) ftpMaxPath).1 }
    return .success

/-- The argument of `LIST`, which `parse_list_options` edits in the command line. -/
def listArgument : Program (Bytes × Bool) := do
  let command := (← getSession).command
  match command.arg with
  | .line offset =>
    match parseListOptions command.line offset with
    | none => Proc.fault
    | some (line, offset, optA) =>
      modifySession fun s ↦ { s with command := { s.command with line } }
      return (cstr (line.drop offset), optA)
  | _ => Proc.fault

/-- The `switch` of `dolist` over how the listing ended. -/
def listReply : FtpRet → Program Unit
  | .success => replyMsg "226 Listing sent OK\r\n"
  | .abor => replyMsg "226 Listing aborted\r\n"
  | .fail => replyMsg "550 Listing failed\r\n"
  | _ => replyMsg "450 Error during write to data connection\r\n"

/-- What `dolist` does once it has its data connection. -/
def listData (config : FtpConfig) (statarg : Stat) (argument : Bytes) (optA : Bool) :
    Program FtpRet := do
  replyMsg "125 Data connection ok, transferring listing\r\n"
  let ret ←
    if statarg.kind = .dir then listDirectory config argument optA
    else listFile config argument
  listReply ret
  let _ ← checked (sys (.close (← getSession).conn.dataSock))
  return .success

/-- `dolist`. -/
def dolist (config : FtpConfig) : Program FtpRet := do
  let (argument, optA) ← listArgument
  -- An empty argument means the current directory
  let argument := if argument = [] then [dot] else argument
  -- Check whether we have to list a directory or a file
  match ← vfsStat config (cstr (← getSession).virtPath) argument with
  | none => failedVfsReply
  | some statarg =>
    let dataSock ← acceptDataConn
    modifySession fun s ↦ { s with conn := { s.conn with dataSock := dataSock.fd } }
    match dataSock with
    | .failed => return .success
    | .quit => return .quit
    | .sock _ => listData config statarg argument optA

end FtpServer
