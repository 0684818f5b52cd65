import FtpServer.Model.Command

/-!
# The command pool: `command.c`

How the pool of commands is filled at the start of the server, and how `do_cmd` finds a command in
it. `qsort` and `bsearch` are parameters; so is the allocator, which grants a request of so many
bytes or refuses it.
-/

namespace FtpServer

open CString Effect

/-- `strcasecmp`: the sign of its result. -/
def strcasecmp : Bytes → Bytes → Ordering
  | [], [] => .eq
  | [], _ :: _ => .lt
  | _ :: _, [] => .gt
  | x :: a, y :: b =>
    if tolower x < tolower y then .lt
    else if tolower y < tolower x then .gt
    else strcasecmp a b

/-- `compare_key_to_cmd`. -/
def compareKeyToCmd (key : Bytes) (command : CmdHandler) : Ordering :=
  strcasecmp key (ofString command.name)

/-- `command_pool_size`, how many entries there is room for at `command_pool`, and the
`num_commands` entries that are there. -/
structure CommandPool where
  size : ℤ
  room : ℕ
  entries : List CmdHandler

/-- Why the pool could not be filled: memory was refused (`FTP_ERROR`), or an entry was written
where there is no room. -/
inductive PoolFailure where
  | outOfMemory
  | overrun
  deriving DecidableEq, Repr

/-- `sizeof(cmd_handler_t)`: two pointers and three `bool`s. -/
def cmdHandlerSize : ℕ := 24

/-- `init_command_pool`. -/
def initCommandPool (grants : ℕ → Bool) : Except PoolFailure CommandPool :=
  if grants (16 * cmdHandlerSize) then .ok ⟨16, 16, []⟩ else .error .outOfMemory

/-- The `memcpy` of `add_command`. -/
def CommandPool.store (pool : CommandPool) (newCmd : CmdHandler) : Except PoolFailure CommandPool :=
  if pool.entries.length < pool.room then .ok { pool with entries := pool.entries ++ [newCmd] }
  else .error .overrun

/-- `add_command`. An `int` doubles as two's complement, and is multiplied as a `size_t`. -/
def addCommand (grants : ℕ → Bool) (pool : CommandPool) (newCmd : CmdHandler) :
    Except PoolFailure CommandPool :=
  if pool.entries.length ≥ pool.size then
    let size := (2 * pool.size).bmod (2 ^ 32)
    let bytes := (size * cmdHandlerSize % 2 ^ 64).toNat
    if grants bytes then
      CommandPool.store { pool with size := size, room := bytes / cmdHandlerSize } newCmd
    else
      .error .outOfMemory
  else
    pool.store newCmd

/-- A function like `qsort`, on the entries of the pool. -/
abbrev Qsort := (r : CmdHandler → CmdHandler → Prop) → [DecidableRel r] → List CmdHandler →
  List CmdHandler

/-- A function like `bsearch`, given the comparison with the key. -/
abbrev Bsearch := (CmdHandler → Ordering) → List CmdHandler → Option CmdHandler

/-- `add_command_list`. -/
def addCommandList (grants : ℕ → Bool) (qsort : Qsort) (pool : CommandPool)
    (commandList : List CmdHandler) : Except PoolFailure CommandPool := do
  let pool ← commandList.foldlM (addCommand grants) pool
  return { pool with entries := qsort compareCommands pool.entries }

/-- The pool after these calls of `add_command_list`. -/
def fillCommandPool (grants : ℕ → Bool) (qsort : Qsort) (tables : List (List CmdHandler)) :
    Except PoolFailure CommandPool := do
  tables.foldlM (addCommandList grants qsort) (← initCommandPool grants)

/-- The entry that `do_cmd` selects. -/
def selectCommand (bsearch : Bsearch) (pool : CommandPool) (verb : Bytes) : Option CmdHandler :=
  bsearch (compareKeyToCmd verb) pool.entries

/-- `do_cmd` in any pool. -/
def execIn (bsearch : Bsearch) (pool : CommandPool) (verb : Bytes) : Program FtpRet := do
  match selectCommand bsearch pool verb with
  | none =>
    replyMsg "500 ?\r\n"
    return .success
  | some cmdDef =>
    if (← preCommand cmdDef) ≠ .success then
      return .success
    cmdDef.handler

end FtpServer
