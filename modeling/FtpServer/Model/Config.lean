import FtpServer.Model.Util

/-!
# `config.c`

The configuration file: options `name = value`, one on a line, read into the global `config`, which
`check_config` then examines. An interface of its own has what the loader asks of the kernel and of
the allocator; the file is a parameter.
-/

namespace FtpServer

open CString Effect

/-! ### The configuration -/

/-- `ftp_config_t`, with the fields that a session does not read. A string is `none` for `NULL`. -/
structure FullConfig extends FtpConfig where
  port : ℤ
  ctrlPort : ℤ
  debug : Bool
  logToFile : Bool
  syslog : Bool
  servername : Option Bytes
  logfile : Option Bytes
  deriving DecidableEq, Repr

/-- `config` after `load_defaults`, which leaves the zeros of a static variable in two fields. -/
def FullConfig.defaults : FullConfig where
  toFtpConfig := loadDefaults
  port := 8008
  ctrlPort := 7676
  debug := false
  logToFile := false
  syslog := false
  servername := none
  logfile := none

/-- `check_config`. -/
def checkConfig (c : FullConfig) : FtpRet :=
  if c.port < 0 || c.port > 65535 then .error
  else if c.ctrlPort < 0 || c.ctrlPort > 65535 then .error
  else if c.throttleRate < -1 then .error
  else if c.pasvPortStart < 0 || c.pasvPortStart > 65535 || c.pasvPortEnd < 0 ||
      c.pasvPortEnd > 65535 || c.pasvPortStart > c.pasvPortEnd then .error
  else if c.allowAnon && c.anonRootDir = none then .error
  else .success

/-! ### The option table -/

/-- The variable of an option, by its type. -/
inductive CfgVariable where
  | str (set : Option Bytes → FullConfig → FullConfig)
  | int (set : ℤ → FullConfig → FullConfig)
  | bool (set : Bool → FullConfig → FullConfig)

/-- `config_table_t`. -/
structure ConfigTableEntry where
  name : String
  dest : CfgVariable

/-- `core_config_table`. -/
def coreConfigTable : List ConfigTableEntry := [
  ⟨"AllowAnonymous", .bool fun b c ↦ { c with allowAnon := b }⟩,
  ⟨"AllowSymlinks", .bool fun b c ↦ { c with allowLinks := b }⟩,
  ⟨"AnonRootDir", .str fun s c ↦ { c with anonRootDir := s }⟩,
  ⟨"IdleTimeout", .int fun i c ↦ { c with idleTimeout := i }⟩,
  ⟨"LocalPort", .int fun i c ↦ { c with port := i }⟩,
  ⟨"LogFile", .str fun s c ↦ { c with logfile := s }⟩,
  ⟨"LogToFile", .bool fun b c ↦ { c with logToFile := b }⟩,
  ⟨"LogToSyslog", .bool fun b c ↦ { c with syslog := b }⟩,
  ⟨"MaxClients", .int fun i c ↦ { c with maxClients := i }⟩,
  ⟨"PasvPortEnd", .int fun i c ↦ { c with pasvPortEnd := i }⟩,
  ⟨"PasvPortStart", .int fun i c ↦ { c with pasvPortStart := i }⟩,
  ⟨"ServerName", .str fun s c ↦ { c with servername := s }⟩,
  ⟨"TransferRate", .int fun i c ↦ { c with throttleRate := i }⟩]

/-! ### What the loader asks for -/

/-- The file at `config_path`. -/
structure ConfigFile where
  kind : FileKind
  content : Bytes
  deriving DecidableEq, Repr

/-- The calls of the loader. -/
inductive ConfigCall where
  | open
  | fstat
  | mmap (len : ℤ)
  | munmap (len : ℤ)
  | close
  | malloc (size : ℕ)
  | realloc (size : ℕ)
  | strdup (s : Bytes)
  /-- The byte at this index, which is behind the end of the file. -/
  | peek (i : ℕ)
  deriving DecidableEq, Repr

/-- Their results: whether they succeed, and memory. A `peek` behind the mapping traps. -/
@[reducible] def ConfigCall.Ret : ConfigCall → Type
  | .malloc size | .realloc size => Option { block : Bytes // block.length = size }
  | .peek _ => Option UInt8
  | _ => Bool

/-- The interface of the loader. -/
def configKernel : Interface where
  Call := ConfigCall
  Ret := ConfigCall.Ret
  Note := Empty

/-- A part of the loader, whose state is `config`. -/
abbrev ConfigProgram (α : Type) := Proc configKernel FullConfig α

def ask (c : ConfigCall) : ConfigProgram c.Ret := Proc.perform (I := configKernel) c

/-! ### Values -/

/-- `enum parse_error`. -/
inductive ParseError where
  | success
  | missingArgument
  | unknownOption
  | range
  | nan
  | nomem
  deriving DecidableEq, Repr

/-- The value of a digit or letter. -/
def digitValue (c : UInt8) : ℕ :=
  if isdigit c then c.toNat - 48
  else if 97 ≤ tolower c && tolower c ≤ 122 then (tolower c).toNat - 87
  else 36

/-- The base that `strtol(s, …, 0)` takes behind the sign, and the text the digits start in: a `0x`
counts only before a digit. -/
def strtolBase (s : Bytes) : ℕ × Bytes :=
  match s with
  | 48 :: x :: d :: rest =>
    if tolower x = 120 && digitValue d < 16 then (16, d :: rest) else (8, s)
  | 48 :: _ => (8, s)
  | _ => (10, s)

def longMax : ℤ := 2 ^ 63 - 1
def longMin : ℤ := -2 ^ 63

/-- `strtol(s, &inval, 0)`: the value, whether it sets `errno` to `ERANGE`, and `inval`. -/
def strtol (s : Bytes) : ℤ × Bool × Bytes :=
  let text := s.dropWhile isspace
  let negative := text.head? = some minus
  let text := if negative || text.head? = some 43 then text.tail else text
  let (base, text) := strtolBase text
  let digits := text.takeWhile fun c ↦ digitValue c < base
  if digits = [] then (0, false, s)
  else
    let n : ℤ := digits.foldl (fun n d ↦ base * n + digitValue d) 0
    let n := if negative then -n else n
    let rest := text.drop digits.length
    if n > longMax then (longMax, true, rest)
    else if n < longMin then (longMin, true, rest)
    else (n, false, rest)

def intMax : ℤ := 2 ^ 31 - 1
def intMin : ℤ := -2 ^ 31

/-- `parse_attribute_int`. -/
def parseAttributeInt (argument : Bytes) (set : ℤ → FullConfig → FullConfig) :
    ConfigProgram ParseError := do
  let (value, outOfRange, inval) := strtol argument
  if outOfRange || value < intMin || value > intMax then
    return .range
  if inval ≠ [] then
    return .nan
  Proc.modify (set value)
  return .success

/-- `parse_attribute_bool`. -/
def parseAttributeBool (argument : Bytes) (set : Bool → FullConfig → FullConfig) :
    ConfigProgram ParseError := do
  let c := argument.headD nul
  Proc.modify (set (c = 49 || tolower c = 121 || tolower c = 116))
  return .success

/-- `parse_attribute_string`, on the argument at an index of the line. Without memory for the copy,
the variable keeps pointing to the string that was freed. -/
def parseAttributeString (buf : Bytes) (argument : ℕ)
    (set : Option Bytes → FullConfig → FullConfig) : ConfigProgram ParseError := do
  match trimWhitespace buf argument with
  | none => Proc.fault
  | some (buf, argument) =>
    let argument := cstr (buf.drop argument)
    if !(← ask (.strdup argument)) then
      return .nomem
    Proc.modify (set (some argument))
    return .success

/-! ### Lines -/

/-- The `switch` of `parse_attribute`. -/
def parseValue (buf : Bytes) (argument : ℕ) : CfgVariable → ConfigProgram ParseError
  | .int set => parseAttributeInt (cstr (buf.drop argument)) set
  | .bool set => parseAttributeBool (cstr (buf.drop argument)) set
  | .str set => parseAttributeString buf argument set

/-- The cut of `parse_attribute` at the first `=`: the line, the index of its name, and the index of
the argument. -/
def splitAttribute (buf : Bytes) (line : ℕ) : Option (Bytes × ℕ × Option ℕ) :=
  match (cstr (buf.drop line)).findIdx? (· = 61) with
  | none => some (buf, line, none)
  | some k => do
    let buf ← store buf (line + k) nul
    let argument ← scanForward isblank buf (line + k + 1)
    if buf[argument]? = some nul then
      return (buf, line, none)
    else
      let (buf, line) ← trimWhitespace buf line
      return (buf, line, some argument)

/-- `parse_attribute`, on the buffer that holds the line. -/
def parseAttribute (buf : Bytes) : ConfigProgram ParseError := do
  match trimWhitespace buf 0 with
  | none => Proc.fault
  | some (buf, line) =>
    -- Skip empty lines
    if cstr (buf.drop line) = [] then
      return .success
    match splitAttribute buf line with
    | none => Proc.fault
    | some (_, _, none) => return .missingArgument
    | some (buf, line, some argument) =>
      match coreConfigTable.find? fun o ↦ strcaseeq (ofString o.name) (cstr (buf.drop line)) with
      | none => return .unknownOption
      | some option => parseValue buf argument option.dest

/-! ### The file -/

/-- `*start`. -/
def readStart (buf : Bytes) (start : ℕ) : ConfigProgram UInt8 :=
  match buf[start]? with
  | some c => return c
  | none => do
    match ← ask (.peek start) with
    | some c => return c
    | none => Proc.fault

/-- The buffer for a line, which grows. -/
def growLine (tmp : Bytes) (linelen : ℕ) : ConfigProgram (Option Bytes) := do
  if tmp.length ≤ linelen then
    match ← ask (.realloc (linelen + 1)) with
    | none => return none
    | some block => return some (tmp ++ block.1.drop tmp.length)
  else return some tmp

/-- The loop of `parse_config` over the lines, where `start` is that of the line before, and `next`
is behind its end. Each round takes a line, so `fuel` lines are enough. -/
def parseLines (buf : Bytes) (length : ℤ) : (fuel start next : ℕ) → (tmp : Bytes) →
    ConfigProgram FtpRet
  | 0, _, _, _ => Proc.fault
  | fuel + 1, start, next, tmp =>
    if start < length then do
      -- Start the new line one character after the end newline
      let start := next
      let comment := (← readStart buf start) = 35
      let line := (buf.drop start).takeWhile (· ≠ lf)
      let next := start + line.length + 1
      if line = [] || comment then
        parseLines buf length fuel start next tmp
      else
        match ← growLine tmp line.length with
        | none => return .error
        | some tmp =>
          match storeAll tmp 0 (line ++ [nul]) with
          | none => Proc.fault
          | some tmp =>
            if (← parseAttribute tmp) ≠ .success then
              return .error
            parseLines buf length fuel start next tmp
    else return .success

/-- `parse_config`, of the `length` bytes of the mapping. -/
def parseConfig (buf : Bytes) (length : ℤ) : ConfigProgram FtpRet := do
  match ← ask (.malloc 81) with
  | none => return .error
  | some tmp => parseLines buf length (buf.length + 3) 0 0 tmp.1

/-- The end of `load_config`, once the file is mapped. -/
def loadMapped (file : ConfigFile) (len : ℤ) : ConfigProgram FtpRet := do
  let ret ← parseConfig (file.content.take len.toNat) len
  let config ← Proc.get
  let _ ← ask (.munmap len)
  let _ ← ask .close
  return if ret = .success then checkConfig config else ret

/-- The part of `load_config` behind `S_ISREG`. Its `len` is an `int`. -/
def loadRegular (file : ConfigFile) : ConfigProgram FtpRet := do
  let len := toInt file.content.length
  if len = 0 then
    let _ ← ask .close
    return .success
  if !(← ask (.mmap len)) then
    let _ ← ask .close
    return .error
  loadMapped file len

/-- `load_config`. -/
def loadConfig (file : ConfigFile) : ConfigProgram FtpRet := do
  if !(← ask .open) then
    return .error
  if !(← ask .fstat) then
    let _ ← ask .close
    return .error
  if file.kind ≠ .reg then
    let _ ← ask .close
    return .error
  loadRegular file

end FtpServer
