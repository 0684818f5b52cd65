import FtpServer.Library.Effect
import FtpServer.Model.Types

/-!
# The system calls, and the memory of a process

The server's processes as programs over one interface: the system calls and library services they
use, with the results that are documented for them. What the documentation of a call bounds is in
the type of its result: a `recv` returns no more bytes than it was asked for, a `sendfile` or a
`write` takes no more than it was given, a `writev` to the state pipe, being shorter than
`PIPE_BUF`, is written whole or not at all.

## What happens meanwhile

Signals and exits of children do not wait for the program. Each answer therefore carries what
happened up to the return of its call: a delivery runs the signal handler (`signalHandler`), an exit
is seen by the kernel only. The calls of a program are the only points at which it can notice the
difference, since the two functions that read `signal_flag` more than once block all signals first,
with a `sigprocmask` of their own.

## Indeterminate values

The source reads some memory that was never assigned. Where it holds a number, the environment
chooses its bytes (`Call.indeterminate`); where it holds a pointer, reading it is a `fault`.
-/

namespace FtpServer

open CString Effect

/-- What can happen at any time. -/
inductive Async where
  | deliver (s : Signal)
  | exit (pid : Int32)
  deriving DecidableEq, Repr

/-- The two results of a successful `fork`, each with the process's own view. -/
inductive Fork where
  | parent (child : Int32)
  | child (self : Int32)
  deriving DecidableEq, Repr

/-- The fields of `struct passwd` that `login_user` reads. -/
structure Passwd where
  uid : UInt32
  dir : Bytes
  deriving DecidableEq, Repr

/-- The system calls that take a path. -/
inductive PathOp where
  | lstat
  | stat
  | creat (mode : ℕ)
  | open
  | mkdir (mode : ℕ)
  | rmdir
  | unlink
  | opendir
  deriving DecidableEq, Repr

/-- What such a call yields when it succeeds: the attributes, a descriptor, or nothing. -/
@[reducible] def PathOp.Result : PathOp → Type
  | lstat | stat => Stat
  | creat _ | «open» | opendir => ℕ
  | mkdir _ | rmdir | unlink => Unit

/-- The system calls and library services the modelled functions use. -/
inductive Call where
  | path (op : PathOp) (path : Bytes)
  | malloc (size : ℕ)
  | indeterminate
  | gettimeofday
  | nanosleep (t : ℤ × ℤ)
  | sigprocmask
  | getpeername (fd : ℤ)
  | getsockname (fd : ℤ)
  | poll (fd : ℤ) (timeout : ℤ)
  | recv (fd : ℤ) (max : ℕ)
  | send (fd : ℤ) (buf : Bytes)
  | read (fd : ℤ) (count : ℕ)
  | write (fd : ℤ) (buf : Bytes)
  | lseek (fd : ℤ) (offset : ℤ)
  | sendfile (out : ℤ) (in_ : ℤ) (offset : ℤ) (count : ℕ)
  | close (fd : ℤ)
  | readdir (dir : ℕ)
  | closedir (dir : ℕ)
  | socket
  | setsockopt (fd : ℤ)
  | bind (fd : ℤ) (port : ℤ)
  | listen (fd : ℤ)
  | getsockport (fd : ℤ)
  | accept (fd : ℤ)
  | writev (fd : ℤ) (head : Bytes) (body : Bytes)
  | getpwnam (user : Bytes)
  | getspnam (user : Bytes)
  | crypt (password : Bytes) (salt : Bytes)
  | setuid (uid : UInt32)
  | pollBoth (sock : ℤ) (pipe : ℤ)
  | fork
  | waitpid
  | kill (pid : Int32)
  deriving DecidableEq, Repr

/-- The result of each call. An `Except.error` is a return of -1 with that `errno`. -/
@[reducible] def Val : Call → Type
  | .path op _ => Except Errno op.Result
  | .malloc size => Option { block : Bytes // block.length = size }
  | .indeterminate => ℕ → UInt8
  | .gettimeofday => Timeval
  | .nanosleep _ => Except (ℤ × ℤ) Unit
  | .sigprocmask => Unit
  | .getpeername _ | .getsockname _ => Except Errno InAddr
  | .poll _ _ => Except Errno Bool
  | .recv _ max => Except Errno { bs : Bytes // bs.length ≤ max }
  | .send _ buf => Except Errno { n : ℕ // n ≤ buf.length }
  | .read _ count => Except Errno { bs : Bytes // bs.length ≤ count }
  | .write _ buf => Except Errno { n : ℕ // n ≤ buf.length }
  | .lseek _ _ => Except Errno Unit
  | .sendfile _ _ _ count => Except Errno { n : ℕ // n ≤ count }
  | .close _ => Except Errno Unit
  | .readdir _ => Option Bytes
  | .closedir _ => Except Errno Unit
  | .socket => Except Errno ℕ
  | .setsockopt _ | .bind _ _ | .listen _ => Except Errno Unit
  | .getsockport _ => Except Errno (UInt8 × UInt8)
  | .accept _ => Except Errno (ℕ × InAddr)
  | .writev _ _ _ => Except Errno Unit
  | .getpwnam _ => Option Passwd
  | .getspnam _ => Option Bytes
  | .crypt _ _ => Option Bytes
  | .setuid _ => Except Errno Unit
  | .pollBoth _ _ => Except Errno (Option (Bool × Bool))
  | .fork => Except Errno Fork
  | .waitpid => Int32
  | .kill _ => Except Errno Unit

/-- The result of a call, with what happened until it returned. -/
structure Answer (c : Call) where
  async : List Async
  val : Val c

/-- Who an account name given with `USER` stands for. -/
inductive Identity where
  | anonymous
  | account (user : Bytes)
  deriving DecidableEq, Repr

/-- The functions that consult `server_handle_signal`. -/
inductive Waiter where
  | readPoll
  | readCmd
  | acceptDataConn
  | transferFile
  | storeFile
  deriving DecidableEq, Repr

/-- What a step of a program is about: a call, an observation, or a change of the session. -/
inductive Topic where
  /-- It names a file by its path. -/
  | path
  /-- It reads from the control connection. -/
  | control
  /-- It sends bytes on a socket. -/
  | send
  /-- It moves the contents of a file, or of a directory. -/
  | data
  /-- It opens or closes a descriptor, or stores one in the session. -/
  | descriptor
  /-- It makes a socket listen. -/
  | listening
  /-- It writes to the master. -/
  | process
  /-- Only the master does it. -/
  | master
  /-- It replies to the client. -/
  | reply
  /-- It concerns the offset of the next transfer. -/
  | restart
  /-- It records the name of the file of a transfer. -/
  | name
  /-- It records the progress of a transfer. -/
  | progress
  /-- The source leaves it undefined. -/
  | undefined
  /-- The session ends. -/
  | teardown
  | other
  deriving DecidableEq, Repr

def Call.topic : Call → Topic
  | .path _ _ => .path
  | .poll _ _ | .recv _ _ => .control
  | .send _ _ => .send
  | .read _ _ | .write _ _ | .lseek _ _ | .sendfile _ _ _ _ | .readdir _ => .data
  | .socket | .accept _ | .close _ | .closedir _ => .descriptor
  | .setsockopt _ | .bind _ _ | .listen _ => .listening
  | .writev _ _ _ => .process
  | .pollBoth _ _ | .fork | .waitpid | .kill _ => .master
  | _ => .other

/-- The two directions of a transfer. -/
inductive Transfer where
  | retr
  | stor
  deriving DecidableEq, Repr

/-- What a program does besides its calls, as far as specifications speak about it. -/
inductive Observation where
  /-- `reply` was called with this message. -/
  | reply (msg : Bytes)
  /-- `reply_format` is about to send this, or what the reply buffer holds of it. -/
  | expansion (text : Bytes)
  /-- `REST` accepted this offset. -/
  | rested (offset : ℤ)
  /-- The data phase of a transfer begins at this offset. -/
  | transfer (kind : Transfer) (offset : ℤ)
  /-- A transfer is over, and has left this in `restart_pos`. -/
  | transferred (restartPos : ℤ)
  /-- A field of the session is read that was never assigned. -/
  | unassigned
  /-- A pool is used that was never allocated. -/
  | missingPool
  /-- `destroy_session` is entered. -/
  | destroyed
  deriving DecidableEq, Repr

def Observation.topic : Observation → Topic
  | .reply _ | .expansion _ => .reply
  | .rested _ | .transfer _ _ | .transferred _ => .restart
  | .unassigned | .missingPool => .undefined
  | .destroyed => .teardown

/-- Points of the program that specifications speak about. -/
inductive Note where
  /-- `do_cmd` is entered with this verb and argument. -/
  | dispatch (verb argument : Bytes)
  /-- `do_cmd` is about to return this. -/
  | finished (ret : FtpRet)
  /-- `USER` was answered 331. -/
  | named (who : Identity)
  /-- `PASS` set `logged_in`. -/
  | loggedIn (who : Identity)
  /-- `init_vfs_pool` made this the root directory. -/
  | rooted (rootDir : Bytes)
  /-- `server_handle_signal`, called by `waiter`, took a terminating signal. -/
  | quit (waiter : Waiter)
  /-- `daemon_handle_signal` decided on its return value. -/
  | handled (ret : FtpRet)
  | observe (o : Observation)
  deriving DecidableEq, Repr

/-- The interface of a process to the kernel. -/
def kernel : Interface where
  Call := Call
  Ret := Answer
  Note := Note

/-- The state of `vfs.c`: one block of memory, in which `virt_path` points behind the root
directory that `real_path` points to. -/
structure VfsPool where
  rootDir : Bytes
  virtPath : Bytes
  deriving DecidableEq, Repr

/-- The string at `real_path`. -/
def VfsPool.realPath (pool : VfsPool) : Bytes := cstr (pool.rootDir ++ pool.virtPath)

/-- The memory of a process: the static variables, the session that `ftp_main` allocates, and the
client list of the master without its head. -/
structure Process where
  pid : Int32
  errno : Option Errno
  signalFlag : SignalFlag
  replyPool : Bool
  vfsPool : Option VfsPool
  statePool : Option Bytes
  session : FtpSession
  clients : List FtpChild

/-- The record that stands for a session before there is one. -/
def noSession : FtpSession where
  conn := ⟨-1, -1, -1, -1, ⟨0, 0, 0, 0⟩, ⟨0, 0, 0, 0⟩⟩
  command := ⟨[], 0, .null, 0⟩
  login := ⟨false, false, .null⟩
  info := .zero
  virtPath := []
  filename := []
  restartPos := 0

/-- The memory of a process at its start: static variables are zero. -/
def Process.initial (pid : Int32) : Process where
  pid := pid
  errno := none
  signalFlag := 0
  replyPool := false
  vfsPool := none
  statePool := none
  session := noSession
  clients := []

/-- A program of the server. -/
abbrev Program (α : Type) := Proc kernel Process α

/-- A world of such a program. -/
abbrev World := Effect.World kernel Process

/-- An environment of such a program. -/
abbrev Env := Effect.Env kernel

/-! ### Signals: `signals.c` -/

/-- The bit `signal_handler` sets. -/
def Signal.bit : Signal → SignalFlag
  | .sigint => recvSigint
  | .sigterm => recvSigterm
  | .sighup => recvSighup
  | .sigpipe => recvSigpipe
  | .sigchld => recvSigchld
  | .sigusr1 => recvSigother

/-- `signal_handler`. -/
def signalHandler (flag : SignalFlag) (sig : Signal) : SignalFlag := flag ||| sig.bit

/-- The signals among the things that happened. -/
def Async.signal? : Async → Option Signal
  | .deliver s => some s
  | .exit _ => none

/-- The handler runs for every signal delivered. -/
def deliver (flag : SignalFlag) (async : List Async) : SignalFlag :=
  (async.filterMap Async.signal?).foldl signalHandler flag

/-! ### Making a call -/

/-- A call that signals may interrupt. -/
def sys (c : Call) : Program (Val c) := do
  let r : Answer c ← Proc.perform (I := kernel) c
  Proc.modify fun s ↦ { s with signalFlag := deliver s.signalFlag r.async }
  return r.val

/-- A call made while all signals are blocked. -/
def sysBlocked (c : Call) : Program (Val c) := do
  let r : Answer c ← Proc.perform (I := kernel) c
  return r.val

def setErrno (e : Errno) : Program Unit :=
  Proc.modify fun s ↦ { s with errno := some e }

/-- A call that returns -1 and sets `errno` when it fails. -/
def checked {α : Type} (m : Program (Except Errno α)) : Program (Option α) := do
  match ← m with
  | .ok a => return some a
  | .error e =>
    setErrno e
    return none

/-- Leave a note. -/
def mark (n : Note) : Program Unit := Proc.note (I := kernel) n

/-- Leave an observation. -/
def observe (o : Observation) : Program Unit := mark (.observe o)

/-- The assertion that a pool is there fails. -/
def missingPool {α : Type} : Program α := do
  observe .missingPool
  Proc.fault

/-- A use of `login.user` where it points to no string. -/
def badUser {α : Type} (user : UserPtr) : Program α := do
  if user = .indeterminate then
    observe .unassigned
  Proc.fault

/-- `errno == e`. -/
def errnoIs (e : Errno) : Program Bool := do
  return (← Proc.get).errno = some e

/-! ### The session -/

def getSession : Program FtpSession := do
  return (← Proc.get).session

def modifySession (f : FtpSession → FtpSession) : Program Unit :=
  Proc.modify fun s ↦ { s with session := f s.session }

def modifyInfo (f : FtpXferInfo → FtpXferInfo) : Program Unit :=
  modifySession fun s ↦ { s with info := f s.info }

end FtpServer
