import FtpServer.Model.State

/-!
# `auth.c`

The login. `logged_in`, `anonymous` and `user` are the whole state of it, and two handlers write
them.
-/

namespace FtpServer

open CString Effect

/-- `doacct`. -/
def doacct : Program FtpRet := do
  replyMsg "202 ACCT is obsolete\r\n"
  return .success

def modifyLogin (f : FtpLogin → FtpLogin) : Program Unit :=
  modifySession fun s ↦ { s with login := f s.login }

/-- `strcasecmp( username, "anonymous" ) == 0`. -/
def isAnonymous (username : Bytes) : Bool := strcaseeq username (ofString "anonymous")

/-- `douser`. -/
def douser (config : FtpConfig) : Program FtpRet := do
  let session ← getSession
  let username := session.command.argument
  if session.login.loggedIn then
    replyMsg "503 Already logged in\r\n"
    return .success
  modifyLogin ({ · with user := .null })
  if isAnonymous username then
    if !config.allowAnon then
      replyMsg "550 No anonymous connections allowed\r\n"
      return .success
    replyMsg "331 Any pass will do\r\n"
    mark (.named .anonymous)
    modifyLogin ({ · with anonymous := true })
    return .success
  else
    match ← sys (.malloc (username.length + 1)) with
    | none => return .error
    | some _ =>
      modifyLogin ({ · with user := .name username })
      replyFormat (ofString "331 Pass required for user " ++ username ++ [cr, lf])
      mark (.named (.account username))
      return .success

/-- `login_user`, which returns the user id, or -1. -/
def loginUser (user password : Bytes) : Program UInt32 := do
  match ← sys (.getpwnam user) with
  | none => return -1
  | some pwd =>
    match ← sys (.getspnam user) with
    | none => return -1
    | some pwdp =>
      match ← sys (.crypt password pwdp) with
      | none => return -1
      | some encryptPw =>
        if encryptPw ≠ pwdp then
          return -1
        if (← initStatePool) ≠ .success then
          return -1
        if (← initVfsPool (some pwd.dir)) ≠ .success then
          return -1
        return pwd.uid

/-- `dopass`. -/
def dopass (config : FtpConfig) : Program FtpRet := do
  let session ← getSession
  if session.login.loggedIn then
    replyMsg "503 Already logged in\r\n"
    return .success
  if session.login.anonymous then
    replyMsg "230 Hello!\r\n"
    let _ ← initVfsPool config.anonRootDir
    let _ ← initStatePool
    modifyLogin ({ · with loggedIn := true })
    mark (.loggedIn .anonymous)
    return .success
  match session.login.user with
  | .indeterminate => badUser session.login.user
  | .null =>
    replyMsg "503 Login with USER first\r\n"
    return .success
  | .name user =>
    let userId ← loginUser user session.command.argument
    if userId = -1 then
      replyMsg "530 Login failed\r\n"
      return .quit
    match ← checked (sys (.setuid userId)) with
    | none => return .error
    | some () =>
      let _ ← sendState .login
      modifyLogin ({ · with loggedIn := true })
      mark (.loggedIn (.account user))
      replyMsg "230 Login successful, have fun\r\n"
      return .success

end FtpServer
