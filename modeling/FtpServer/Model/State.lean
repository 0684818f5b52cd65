import FtpServer.Library.LittleEndian
import FtpServer.Model.Stream

/-!
# `state.c`

A session keeps the master informed with messages on a pipe: a header with the process id, a magic
number and the type, and a body whose size the type determines. The sender composes the body in the
state pool, a block that keeps what earlier messages left in it.
-/

namespace FtpServer

open CString Effect LittleEndian

/-! ### The layout of the messages -/

/-- `enum ftp_statechange_type`. -/
inductive StateChange where
  | login
  | chdir
  | xferStart
  | xfer
  | xferStop
  deriving DecidableEq, Repr

def StateChange.code : StateChange → Int32
  | login => 0
  | chdir => 1
  | xferStart => 2
  | xfer => 3
  | xferStop => 4

/-- `STATE_MAGIC`. -/
def stateMagic : UInt32 := 0xDEADBEEF

/-- `ftp_state_t`. -/
structure FtpState where
  pid : Int32
  magic : UInt32
  type : Int32
  deriving DecidableEq, Repr

/-- `sizeof(ftp_state_t)`. -/
def ftpStateSize : ℕ := 12

/-- The header as it lies in memory. -/
def FtpState.image (s : FtpState) : Bytes :=
  encode 4 s.pid.toUInt32.toNat ++ encode 4 s.magic.toNat ++ encode 4 s.type.toUInt32.toNat

/-- The header that lies in the first bytes of a block. -/
def FtpState.ofImage (bs : Bytes) : FtpState where
  pid := (UInt32.ofNat (decode (bs.take 4))).toInt32
  magic := UInt32.ofNat (decode ((bs.drop 4).take 4))
  type := (UInt32.ofNat (decode ((bs.drop 8).take 4))).toInt32

def Timeval.image (t : Timeval) : Bytes :=
  encode 8 t.sec.toUInt64.toNat ++ encode 8 t.usec.toUInt64.toNat

def Timeval.ofImage (bs : Bytes) : Timeval where
  sec := (UInt64.ofNat (decode (bs.take 8))).toInt64
  usec := (UInt64.ofNat (decode ((bs.drop 8).take 8))).toInt64

/-- `sizeof(ftp_xfer_info_t)`. -/
def ftpXferInfoSize : ℕ := 72

/-- The transfer information as it lies in memory, with four bytes of padding. -/
def FtpXferInfo.image (i : FtpXferInfo) : Bytes :=
  encode 8 i.totalDown.toNat ++ encode 8 i.totalUp.toNat ++ encode 8 i.xferLen.toNat ++
    encode 8 i.probeLen.toNat ++ encode 4 i.xferStatus.toUInt32.toNat ++ [0, 0, 0, 0] ++
    i.xferStart.image ++ i.xferProbe.image

/-- The transfer information that lies in the first bytes of a block. -/
def FtpXferInfo.ofImage (bs : Bytes) : FtpXferInfo where
  totalDown := UInt64.ofNat (decode (bs.take 8))
  totalUp := UInt64.ofNat (decode ((bs.drop 8).take 8))
  xferLen := UInt64.ofNat (decode ((bs.drop 16).take 8))
  probeLen := UInt64.ofNat (decode ((bs.drop 24).take 8))
  xferStatus := (UInt32.ofNat (decode ((bs.drop 32).take 4))).toInt32
  xferStart := .ofImage ((bs.drop 40).take 16)
  xferProbe := .ofImage ((bs.drop 56).take 16)

/-! ### Sending -/

/-- What a send function does: the pool afterwards and its result, or no result where it reads a
pointer that is not a string. -/
abbrev SendFun := FtpSession → (buf : Bytes) → Option (Bytes × FtpRet)

/-- `send_login`. -/
def sendLogin : SendFun := fun session buf ↦
  let buf := List.replicate maxLoginName nul ++ buf.drop maxLoginName
  if session.login.anonymous then
    some ((strlcpy buf (ofString "anonymous") maxLoginName).1, .success)
  else
    match session.login.user with
    | .name user => some ((strlcpy buf user maxLoginName).1, .success)
    | _ => none

/-- `send_chdir`. -/
def sendChdir : SendFun := fun session buf ↦
  let (buf, len) := strlcpy buf (cstr session.virtPath) ftpMaxPath
  some (buf, if len ≥ ftpMaxPath then .error else .success)

/-- `send_xfer`. -/
def sendXfer : SendFun := fun session buf ↦
  some (session.info.image ++ buf.drop ftpXferInfoSize, .success)

/-- `send_xfer_start`. -/
def sendXferStart : SendFun := fun session buf ↦
  let (buf, len) := strlcpy buf (cstr session.filename) ftpMaxName
  some (buf, if len > ftpMaxName then .error else .success)

/-- `send_xfer_stop`. -/
def sendXferStop : SendFun := sendXfer

/-! ### Receiving -/

/-- What `read` leaves in a block it may fill only in part. -/
def readInto (pipe : ℤ) (old : Bytes) : Program (Option Bytes) := do
  match ← checked (sys (.read pipe old.length)) with
  | none => return none
  | some bs => return some (bs.1 ++ old.drop bs.1.length)

/-- What a receive function does: its result, and the list entry afterwards. -/
abbrev RecvFun := (pipe : ℤ) → FtpChild → Program (FtpRet × FtpChild)

/-- `recv_login`. -/
def recvLogin : RecvFun := fun pipe child ↦ do
  match ← readInto pipe child.loginName with
  | none => return (.error, child)
  | some loginName => return (.success, { child with loginName })

/-- `recv_chdir`. -/
def recvChdir : RecvFun := fun pipe child ↦ do
  match ← readInto pipe child.path with
  | none => return (.error, child)
  | some path => return (.success, { child with path })

/-- `recv_xfer`. -/
def recvXfer : RecvFun := fun pipe child ↦ do
  match ← readInto pipe child.xferInfo.image with
  | none => return (.error, child)
  | some image => return (.success, { child with xferInfo := .ofImage image })

/-- `recv_xfer_start`. -/
def recvXferStart : RecvFun := fun pipe child ↦ do
  match ← readInto pipe child.filename with
  | none => return (.error, child)
  | some filename =>
    let filename := filename.set (ftpMaxName - 1) nul
    return (.success, { child with filename, xferInProgress := true })

/-- `recv_xfer_stop`, less the transfer rate, which is only logged. -/
def recvXferStop : RecvFun := fun pipe child ↦ do
  match ← readInto pipe child.xferInfo.image with
  | none => return (.error, child)
  | some image =>
    let _ ← sys .gettimeofday
    return (.success, { child with xferInfo := .ofImage image, xferInProgress := false })

/-! ### The table -/

/-- `state_ops_t`. -/
structure StateOp where
  type : StateChange
  recvFun : RecvFun
  sendFun : SendFun
  bufSize : ℕ

/-- `state_ops`. -/
def stateOps : List StateOp := [
  ⟨.login, recvLogin, sendLogin, 64⟩,
  ⟨.chdir, recvChdir, sendChdir, ftpMaxPath⟩,
  ⟨.xferStart, recvXferStart, sendXferStart, ftpMaxName⟩,
  ⟨.xfer, recvXfer, sendXfer, ftpXferInfoSize⟩,
  ⟨.xferStop, recvXferStop, sendXferStop, ftpXferInfoSize⟩]

/-- The size of the state pool: the largest body. -/
def statePoolSize : ℕ := stateOps.foldl (fun size op ↦ max size op.bufSize) 0

/-- `init_state_pool`. -/
def initStatePool : Program FtpRet := do
  match ← sys (.malloc statePoolSize) with
  | none => return .error
  | some _ =>
    Proc.modify fun s ↦ { s with statePool := some (List.replicate statePoolSize nul) }
    return .success

/-- `destroy_state_pool`. -/
def destroyStatePool : Program Unit := Proc.modify fun s ↦ { s with statePool := none }

/-- The loop around `writev`. -/
def writevAll (pipe : ℤ) (head body : Bytes) : Program FtpRet :=
  Proc.loop (fun (_ : Unit) ↦ do
    match ← checked (sys (.writev pipe head body)) with
    | some _ => return .inr .success
    | none =>
      if ← errnoIs .eintr then return .inl ()
      else return .inr .error) ()

/-- `send_state`. -/
def sendState (type : StateChange) : Program FtpRet := do
  let s ← Proc.get
  match s.statePool, stateOps.find? (·.type = type) with
  | none, _ => missingPool
  | some _, none => return .error
  | some pool, some op =>
    match op.sendFun s.session pool with
    | none => badUser s.session.login.user
    | some (pool, ret) =>
      Proc.modify fun s ↦ { s with statePool := some pool }
      if ret ≠ .success then
        return ret
      else
        let newState : FtpState := ⟨s.pid, stateMagic, type.code⟩
        writevAll s.session.conn.masterPipe newState.image (pool.take op.bufSize)

/-- `find_client`. -/
def findClient (clients : List FtpChild) (pid : Int32) : Option FtpChild :=
  clients.find? (·.pid = pid)

/-- The list after the entry that `find_client` finds was changed. -/
def updateClient : List FtpChild → (pid : Int32) → FtpChild → List FtpChild
  | [], _, _ => []
  | child :: rest, pid, new =>
    if child.pid = pid then new :: rest else child :: updateClient rest pid new

/-- `recv_state`. -/
def recvState (readPipe : ℤ) : Program FtpRet := do
  let garbage ← sys .indeterminate
  match ← readInto readPipe ((List.range ftpStateSize).map garbage) with
  | none => return .error
  | some image =>
    let state := FtpState.ofImage image
    if state.magic ≠ stateMagic then
      return .error
    match stateOps.find? (·.type.code = state.type) with
    | none => return .error
    | some op =>
      match findClient (← Proc.get).clients state.pid with
      | none => seekPipe readPipe op.bufSize
      | some child =>
        let (ret, child) ← op.recvFun readPipe child
        Proc.modify fun s ↦ { s with clients := updateClient s.clients state.pid child }
        return ret

end FtpServer
