import FtpServer.Library.CString

/-!
# Constants and records of the headers

The constants, enumerations and records of `server.h`, `child.h`, `command.h`, `util.h`,
`signals.h`, `state.h`, `stream.h` and `config.h`, under the headers' names.

A fixed-size character array, or a block of memory that the source treats as one, is a list of
bytes; its string value is `cstr` of it. `off_t` and `time_t` values are integers. What a process
sends to the master as it lies in memory keeps its width: `pid_t` and the fields of
`ftp_xfer_info_t`.
-/

namespace FtpServer

open CString

/-! ### Sizes -/

def commandBufferSize : ℕ := 1024
def ftpMaxPath : ℕ := 1024
def ftpMaxName : ℕ := 256
def maxLoginName : ℕ := 64
def responseBufferSize : ℕ := 1024
def statBufferSize : ℕ := 128 + ftpMaxName
def seekBufferSize : ℕ := 1024
def xferBlockSize : ℕ := 4096

/-! ### Characters -/

def nul : UInt8 := 0
def tab : UInt8 := 9
def lf : UInt8 := 10
def cr : UInt8 := 13
def space : UInt8 := 32
def minus : UInt8 := 45
def dot : UInt8 := 46
def slash : UInt8 := 47

/-- `isblank` in the C locale. -/
def isblank (c : UInt8) : Bool := c = space || c = tab

/-- `isspace` in the C locale. -/
def isspace (c : UInt8) : Bool := c = space || (9 ≤ c && c ≤ 13)

def isdigit (c : UInt8) : Bool := 48 ≤ c && c ≤ 57

/-- `tolower` in the C locale. -/
def tolower (c : UInt8) : UInt8 := if 65 ≤ c && c ≤ 90 then c + 32 else c

/-- `toupper` in the C locale. -/
def toupper (c : UInt8) : UInt8 := if 97 ≤ c && c ≤ 122 then c - 32 else c

/-- `strcasecmp(a, b) == 0`. -/
def strcaseeq (a b : Bytes) : Bool := a.map tolower = b.map tolower

/-! ### Return codes and error numbers -/

/-- The `FTP_*` codes of `server.h`. -/
inductive FtpRet where
  | error
  | success
  | quit
  | fail
  | abor
  deriving DecidableEq, Repr

/-- The code as an `int`. -/
def FtpRet.code : FtpRet → Int32
  | error => -1
  | success => 0
  | quit => 1
  | fail => 2
  | abor => 3

/-- The values of `errno` that the source tells apart. -/
inductive Errno where
  | eperm | enoent | eintr | enomem | eacces | enotdir | eaddrinuse | epipe | erange
  | enametoolong | enotempty | eloop | econnreset | econnaborted | eusers | edquot
  | other (code : ℕ)
  deriving DecidableEq, Repr

/-- What `%m` prints for the error numbers that `failed_vfs_reply` reports. -/
def strerror : Errno → Bytes
  | .eperm => ofString "Operation not permitted"
  | .enoent => ofString "No such file or directory"
  | .eacces => ofString "Permission denied"
  | .enotdir => ofString "Not a directory"
  | .enametoolong => ofString "File name too long"
  | .enotempty => ofString "Directory not empty"
  | .eloop => ofString "Too many levels of symbolic links"
  | .eusers => ofString "Too many users"
  | .edquot => ofString "Disk quota exceeded"
  | _ => ofString "Error"

/-! ### Signals -/

/-- The signals `init_signals` installs the handler for. -/
inductive Signal where
  | sigint | sigterm | sighup | sigpipe | sigchld | sigusr1
  deriving DecidableEq, Repr

/-- `unsigned int signal_flag`. -/
abbrev SignalFlag := BitVec 32

def recvSigint : SignalFlag := 1 <<< 0
def recvSigterm : SignalFlag := 1 <<< 1
def recvSighup : SignalFlag := 1 <<< 2
def recvSigpipe : SignalFlag := 1 <<< 3
def recvSigchld : SignalFlag := 1 <<< 4
def recvSigother : SignalFlag := 1 <<< 5

/-! ### Files -/

/-- The file type in `st_mode`. -/
inductive FileKind where
  | dir | reg | chr | blk | fifo | lnk | sock | unknown
  deriving DecidableEq, Repr

/-- The fields of `struct stat` that the source reads. -/
structure Stat where
  kind : FileKind
  nlink : ℕ
  uid : ℕ
  gid : ℕ
  size : ℤ
  mtime : ℤ
  deriving DecidableEq, Repr

/-- `enum stream_type`. -/
inductive StreamType where
  | file
  | socket
  deriving DecidableEq, Repr

/-- `stream_t`. -/
structure Stream where
  fd : ℤ
  type : StreamType
  deriving DecidableEq, Repr

/-! ### Sessions -/

/-- `struct in_addr`: the four bytes as they lie in memory. -/
structure InAddr where
  b0 : UInt8
  b1 : UInt8
  b2 : UInt8
  b3 : UInt8
  deriving DecidableEq, Repr

/-- `struct timeval`. -/
structure Timeval where
  sec : Int64
  usec : Int64
  deriving DecidableEq, Repr

/-- Where `command.arg` points to: nowhere, into `command.line`, or at the local array of
`docdup`. -/
inductive ArgPtr where
  | null
  | line (offset : ℕ)
  | parent
  deriving DecidableEq, Repr

/-- `ftp_command_t`. -/
structure FtpCommand where
  /-- The line buffer; its length is `line_len`. -/
  line : Bytes
  dirtyLen : ℕ
  arg : ArgPtr
  len : ℕ
  deriving DecidableEq, Repr

def FtpCommand.lineLen (c : FtpCommand) : ℕ := c.line.length

/-- The string `command.arg` points to. -/
def FtpCommand.argument (c : FtpCommand) : Bytes :=
  match c.arg with
  | .null => []
  | .line offset => cstr (c.line.drop offset)
  | .parent => [dot, dot]

/-- `ftp_conn_t`. -/
structure FtpConn where
  masterPipe : ℤ
  sock : ℤ
  pasvSock : ℤ
  dataSock : ℤ
  hostAddr : InAddr
  clientAddr : InAddr
  deriving DecidableEq, Repr

/-- The value of a pointer to a string that may never have been assigned. -/
inductive UserPtr where
  | indeterminate
  | null
  | name (user : Bytes)
  deriving DecidableEq, Repr

/-- `ftp_login_t`. -/
structure FtpLogin where
  loggedIn : Bool
  anonymous : Bool
  user : UserPtr
  deriving DecidableEq, Repr

/-- `ftp_xfer_info_t`. -/
structure FtpXferInfo where
  totalDown : UInt64
  totalUp : UInt64
  xferLen : UInt64
  probeLen : UInt64
  xferStatus : Int32
  xferStart : Timeval
  xferProbe : Timeval
  deriving DecidableEq, Repr

def Timeval.zero : Timeval := ⟨0, 0⟩

/-- `ftp_xfer_info_t info = {0}`. -/
def FtpXferInfo.zero : FtpXferInfo := ⟨0, 0, 0, 0, 0, .zero, .zero⟩

/-- `ftp_session_t`. -/
structure FtpSession where
  conn : FtpConn
  command : FtpCommand
  login : FtpLogin
  info : FtpXferInfo
  virtPath : Bytes
  filename : Bytes
  restartPos : ℤ
  deriving DecidableEq, Repr

/-- `ftp_child_t`, less the list pointer and the time of the connection, which is only logged. -/
structure FtpChild where
  pid : Int32
  clientAddr : InAddr
  loginName : Bytes
  path : Bytes
  filename : Bytes
  xferInfo : FtpXferInfo
  xferInProgress : Bool
  deriving DecidableEq, Repr

/-! ### Configuration -/

/-- The fields of `ftp_config_t` that the modelled functions read. -/
structure FtpConfig where
  maxClients : ℤ
  throttleRate : ℤ
  pasvPortStart : ℤ
  pasvPortEnd : ℤ
  idleTimeout : ℤ
  allowAnon : Bool
  allowLinks : Bool
  /-- `NULL` until the option is set. -/
  anonRootDir : Option Bytes
  deriving DecidableEq, Repr

/-- `load_defaults`. -/
def loadDefaults : FtpConfig where
  maxClients := -1
  throttleRate := -1
  pasvPortStart := 1025
  pasvPortEnd := 65535
  idleTimeout := 4000
  allowAnon := true
  allowLinks := false
  anonRootDir := none

/-! ### Conversions -/

/-- The value of an integer stored in an `int`. -/
def toInt (i : ℤ) : ℤ := Int.bmod i (2 ^ 32)

/-- `%d` and the like. -/
def fmtInt (i : ℤ) : Bytes :=
  if i < 0 then minus :: ofString (Nat.repr i.natAbs) else ofString (Nat.repr i.natAbs)

/-- `%0wd`: the sign comes before the zeros. -/
def fmtIntPad (w : ℕ) (i : ℤ) : Bytes :=
  let digits := ofString (Nat.repr i.natAbs)
  if i < 0 then minus :: (List.replicate (w - 1 - digits.length) 48 ++ digits)
  else List.replicate (w - digits.length) 48 ++ digits

end FtpServer
