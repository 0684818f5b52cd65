import FtpServer.Model.Util

/-!
# `vfs.c`

Every path a client names goes through `vfs_realpath`, which edits the buffer `virt_path` in place.
`canonicalize` is that function on the buffer alone: `none` where it would read or write outside of
the `FTP_MAX_PATH` bytes of the buffer, otherwise the buffer afterwards and whether the path fitted.
-/

namespace FtpServer

open CString Effect

/-! ### The canonicalizer -/

/-- `dst[-1]`. -/
def before (buf : Bytes) (dst : ℕ) : Option UInt8 := if dst = 0 then none else buf[dst - 1]?

/-- `while( (--dst)[-1] != '/' ) ;`. -/
def scanUp (buf : Bytes) : ℕ → Option ℕ
  | 0 | 1 => none
  | dst + 2 =>
    match buf[dst]? with
    | none => none
    | some c => if c = slash then some (dst + 1) else scanUp buf (dst + 1)

/-- `if( dst[-1] != '/' ) *dst++ = '/';`. -/
def appendSlash (buf : Bytes) (dst : ℕ) : Option (Bytes × ℕ) :=
  (before buf dst).bind fun last ↦
    if last ≠ slash then (store buf dst slash).map (·, dst + 1) else some (buf, dst)

/-- The last branch of the loop: append `name`, or find that it does not fit. -/
def appendName (buf : Bytes) (dst : ℕ) (name : Bytes) : Option (Bytes × Option ℕ) := do
  let (buf, dst) ← appendSlash buf dst
  if dst + name.length ≥ ftpMaxPath then
    return (buf, none)
  let buf ← storeAll buf dst name
  let dst := dst + name.length
  let buf ← store buf dst nul
  return (buf, some dst)

/-- The loop over the components of `path`: the buffer and `dst` afterwards, or no `dst` if some
name did not fit. Each round takes at least one byte of `path`. -/
def realpathLoop : (fuel : ℕ) → (buf : Bytes) → (dst : ℕ) → (path : Bytes) →
    Option (Bytes × Option ℕ)
  | 0, buf, dst, _ => some (buf, some dst)
  | fuel + 1, buf, dst, path =>
    if path = [] then some (buf, some dst)
    else
      -- Skip leading path separators
      let start := path.dropWhile (· = slash)
      -- Find the end of the current directory block
      let name := start.takeWhile (· ≠ slash)
      let rest := start.dropWhile (· ≠ slash)
      if name = [] then some (buf, some dst)
      else if name = [dot] then realpathLoop fuel buf dst rest
      else if name = [dot, dot] then
        -- Move up if not at root
        if dst > 1 then (scanUp buf dst).bind fun dst ↦ realpathLoop fuel buf dst rest
        else realpathLoop fuel buf dst rest
      else
        (appendName buf dst name).bind fun
          | (buf, none) => some (buf, none)
          | (buf, some dst) => realpathLoop fuel buf dst rest

/-- The end of the function: drop a pending separator and terminate the string. -/
def realpathEnd (buf : Bytes) (dst : ℕ) : Option Bytes :=
  if dst > 1 then
    (before buf dst).bind fun last ↦ store buf (if last = slash then dst - 1 else dst) nul
  else store buf dst nul

/-- The start of the function: the buffer and `dst`, or no `dst` if `cwd` is too long. -/
def realpathStart (buf cwd path : Bytes) : Option (Bytes × Option ℕ) :=
  -- If it's an absolute path, we don't need the cwd
  if path.head? = some slash then (store buf 0 slash).map (·, some 1)
  else
    let (buf, len) := strlcpy buf cwd ftpMaxPath
    if len ≥ ftpMaxPath then (store buf 0 nul).map (·, none) else some (buf, some len)

/-- `vfs_realpath` on the buffer `virt_path`: the buffer afterwards, and whether it returns 0. -/
def canonicalize (buf cwd path : Bytes) : Option (Bytes × Bool) := do
  match ← realpathStart buf cwd path with
  | (buf, none) => return (buf, false)
  | (buf, some dst) =>
    match ← realpathLoop path.length buf dst path with
    | (buf, none) => return (buf, false)
    | (buf, some dst) => return (← realpathEnd buf dst, true)

/-! ### The pool -/

/-- The pool as `init_vfs_pool` leaves it: the root directory fills the block up to `virt_path`,
which is cleared. -/
def newPool (rootDir : Bytes) : VfsPool where
  rootDir := rootDir
  virtPath := slash :: List.replicate (ftpMaxPath - 1) nul

/-- `init_vfs_pool`. A `NULL` root directory is read by `strlen`. -/
def initVfsPool (rootDir : Option Bytes) : Program FtpRet := do
  match rootDir with
  | none => Proc.fault
  | some rootDir =>
    let rootDir := cstr rootDir
    match ← sys (.malloc (ftpMaxPath + rootDir.length)) with
    | none => return .error
    | some _ =>
      Proc.modify fun s ↦ { s with vfsPool := some (newPool rootDir) }
      mark (.rooted rootDir)
      return .success

/-- `destroy_vfs_pool`. -/
def destroyVfsPool : Program Unit := Proc.modify fun s ↦ { s with vfsPool := none }

/-- `vfs_realpath`: whether it returns 0. -/
def vfsRealpath (cwd path : Bytes) : Program Bool := do
  match (← Proc.get).vfsPool with
  | none => missingPool
  | some pool =>
    match canonicalize pool.virtPath cwd path with
    | none => Proc.fault
    | some (virtPath, ok) =>
      Proc.modify fun s ↦ { s with vfsPool := s.vfsPool.map ({ · with virtPath }) }
      if !ok then
        setErrno .enametoolong
      return ok

/-- The string at `real_path`. -/
def realPath : Program Bytes := do
  match (← Proc.get).vfsPool with
  | none => missingPool
  | some pool => return pool.realPath

/-! ### The operations -/

/-- `vfs_stat`. -/
def vfsStat (config : FtpConfig) (cwd vpath : Bytes) : Program (Option Stat) := do
  if !(← vfsRealpath cwd vpath) then
    return none
  match ← checked (sys (.path .lstat (← realPath))) with
  | none => return none
  | some tmp =>
    if tmp.kind = .lnk && !config.allowLinks then
      setErrno .eacces
      return none
    else
      checked (sys (.path .stat (← realPath)))

/-- The operations that hand the resolved path to one system call. -/
def vfsCall (op : PathOp) (cwd path : Bytes) : Program (Option op.Result) := do
  if !(← vfsRealpath cwd path) then
    return none
  checked (sys (.path op (← realPath)))

/-- `vfs_creat`. -/
def vfsCreat (cwd vpath : Bytes) (mode : ℕ) : Program (Option ℕ) := vfsCall (.creat mode) cwd vpath

/-- `vfs_open`, always called with `O_RDONLY`. -/
def vfsOpen (cwd vpath : Bytes) : Program (Option ℕ) := vfsCall .open cwd vpath

/-- `vfs_mkdir`. -/
def vfsMkdir (cwd pathname : Bytes) (mode : ℕ) : Program (Option Unit) :=
  vfsCall (.mkdir mode) cwd pathname

/-- `vfs_rmdir`. -/
def vfsRmdir (cwd pathname : Bytes) : Program (Option Unit) := vfsCall .rmdir cwd pathname

/-- `vfs_opendir`. -/
def vfsOpendir (cwd path : Bytes) : Program (Option ℕ) := vfsCall .opendir cwd path

/-- `vfs_unlink`. -/
def vfsUnlink (cwd path : Bytes) : Program (Option Unit) := vfsCall .unlink cwd path

/-- `vfs_close`. -/
def vfsClose (fd : ℤ) : Program Unit := do
  let _ ← checked (sys (.close fd))

/-- `vfs_closedir`. -/
def vfsClosedir (dir : ℕ) : Program Unit := do
  let _ ← checked (sys (.closedir dir))

/-- `vfs_chdir`, whose `cwd` is always the session's. -/
def vfsChdir (path : Bytes) : Program Bool := do
  if !(← vfsRealpath (cstr (← getSession).virtPath) path) then
    return false
  match (← Proc.get).vfsPool with
  | none => missingPool
  | some pool =>
    modifySession fun s ↦
      { s with virtPath := (strlcpy s.virtPath (cstr pool.virtPath) ftpMaxPath).1 }
    return true

end FtpServer
