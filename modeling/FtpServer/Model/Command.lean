import FtpServer.Model.Core

/-!
# `command.c`, and the command table of `core.c`
-/

namespace FtpServer

open CString Effect

/-- `cmd_handler_t`. -/
structure CmdHandler where
  name : String
  handler : Program FtpRet
  needsLogin : Bool
  needsData : Bool
  needsArg : Bool

/-- `core_command_list`. -/
def coreCommandList (config : FtpConfig) : List CmdHandler := [
  ⟨"ABOR", doabor, true, false, false⟩,
  ⟨"ACCT", doacct, true, false, false⟩,
  ⟨"ALLO", doallo, true, false, false⟩,
  ⟨"CDUP", docdup config, true, false, false⟩,
  ⟨"CLNT", doclnt, true, false, false⟩,
  ⟨"CWD", docwd config, true, false, true⟩,
  ⟨"FEAT", dofeat, false, false, false⟩,
  ⟨"LIST", dolist config, true, true, false⟩,
  ⟨"MDTM", domdtm config, true, false, true⟩,
  ⟨"MKD", domkd, true, false, true⟩,
  ⟨"NOOP", donoop, false, false, false⟩,
  ⟨"OPTS", doopts, false, false, false⟩,
  ⟨"PASS", dopass config, false, false, false⟩,
  ⟨"PASV", dopasv config, true, false, false⟩,
  ⟨"PWD", dopwd, true, false, false⟩,
  ⟨"QUIT", doquit, false, false, false⟩,
  ⟨"REST", dorest, true, false, true⟩,
  ⟨"DELE", dodele, true, false, true⟩,
  ⟨"RETR", doretr config, true, true, true⟩,
  ⟨"RMD", dormd, true, false, true⟩,
  ⟨"SIZE", dosize config, true, false, true⟩,
  ⟨"SYST", dosyst, false, false, false⟩,
  ⟨"TYPE", dotype, true, false, true⟩,
  ⟨"USER", douser config, false, false, false⟩,
  ⟨"STOR", dostor config, true, true, true⟩]

/-- The order of `strcasecmp`: bytes as `unsigned char`, letters in lower case. -/
def strcaseLe (a b : Bytes) : Bool :=
  match a, b with
  | [], _ => true
  | _ :: _, [] => false
  | x :: a, y :: b =>
    if tolower x < tolower y then true
    else if tolower y < tolower x then false
    else strcaseLe a b

/-- `compare_commands` as an order. -/
def compareCommands (c₁ c₂ : CmdHandler) : Prop :=
  strcaseLe (ofString c₁.name) (ofString c₂.name) = true

instance : DecidableRel compareCommands := fun _ _ ↦ inferInstanceAs (Decidable (_ = true))

/-- `command_pool` after `init_core_commands`: the table as `qsort` orders it. Irreducible, so that
unification does not sort it. -/
@[irreducible] def commandPool (config : FtpConfig) : List CmdHandler :=
  (coreCommandList config).insertionSort compareCommands

/-- `bsearch` in the pool: an entry whose name compares equal to the key. -/
def searchCommand (pool : List CmdHandler) (key : Bytes) : Option CmdHandler :=
  pool.find? fun cmd ↦ strcaseeq key (ofString cmd.name)

/-- `pre_command`. -/
def preCommand (cmdDef : CmdHandler) : Program FtpRet := do
  let session ← getSession
  if cmdDef.needsLogin && !session.login.loggedIn then
    replyMsg "530 You're not logged in\r\n"
    return .error
  if cmdDef.needsData && session.conn.pasvSock = -1 then
    replyMsg "425 Cannot open data connection\r\n"
    return .error
  if cmdDef.needsArg && session.command.argument = [] then
    replyMsg "501 Missing argument\r\n"
    return .error
  return .success

/-- `do_cmd`, between its notes: the command with this verb. -/
def execCmd (config : FtpConfig) (verb : Bytes) : Program FtpRet := do
  match searchCommand (commandPool config) verb with
  | none =>
    replyMsg "500 ?\r\n"
    return .success
  | some cmdDef =>
    if (← preCommand cmdDef) ≠ .success then
      return .success
    cmdDef.handler

/-- `do_cmd`. -/
def doCmd (config : FtpConfig) : Program FtpRet := do
  let command := (← getSession).command
  mark (.dispatch (cstr command.line) command.argument)
  let ret ← execCmd config (cstr command.line)
  mark (.finished ret)
  return ret

end FtpServer
