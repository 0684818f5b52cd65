import FtpServer.Model.Daemon
import FtpServer.Proofs.Calls

/-!
# The client list

`remove_client` looks at the entry behind the current one before it asks whether there is one. So it
removes the first entry of a client, but does not survive a client that is not in the list
(`removeClient_removes`).
-/

namespace FtpServer

open Effect Effect.Proc

variable {clients : List FtpChild} {pid : Int32}

/-- The process ids in a client list. -/
def pidsOf (clients : List FtpChild) : List Int32 := clients.map FtpChild.pid

/-! ### `remove_client` -/

/-- A listed client is taken out where it stands. -/
theorem removeFrom_of_mem (h : pid ∈ pidsOf clients) :
    removeFrom clients pid = some (clients.eraseP (·.pid = pid)) := by
  induction clients with
  | nil => cases h
  | cons child clients ih =>
    rw [removeFrom]
    by_cases hpid : child.pid = pid
    · rw [if_pos hpid, List.eraseP_cons_of_pos (by simpa using hpid)]
    · have hmem : pid ∈ pidsOf clients := (List.mem_cons.1 h).resolve_left (Ne.symm hpid)
      rw [if_neg hpid, ih hmem, List.eraseP_cons_of_neg (by simpa using hpid), Option.map_some]

/-- Nothing is taken out for an unknown one. -/
theorem removeFrom_of_not_mem (h : pid ∉ pidsOf clients) : removeFrom clients pid = none := by
  induction clients with
  | nil => rfl
  | cons child clients ih =>
    obtain ⟨hpid, hmem⟩ := not_or.1 (mt List.mem_cons.2 h)
    rw [removeFrom, if_neg (Ne.symm hpid), ih hmem, Option.map_none]

/-- The first entry of a process is removed. -/
theorem pidsOf_eraseP (clients : List FtpChild) (pid : Int32) :
    pidsOf (clients.eraseP (·.pid = pid)) = (pidsOf clients).erase pid := by
  rw [pidsOf, pidsOf, List.erase_eq_eraseP', List.eraseP_map]
  rfl

/-- What `remove_client` does. -/
theorem removeClient_run (e : Env) (w : World) (pid : Int32) :
    removeClient pid e w =
      if pid ∈ pidsOf w.st.clients then
        (.ret 0, { w with st := { w.st with clients := w.st.clients.eraseP (·.pid = pid) } })
      else (.halt .fault, w) := by
  split_ifs with h
  · simp only [removeClient, bind, Proc.get, removeFrom_of_mem h]
    rfl
  · simp only [removeClient, bind, Proc.get, removeFrom_of_not_mem h]
    rfl

/-- What `remove_client` is to do in the world `w`: remove the first entry of a client and return 0,
or return 1 if there is none. -/
def RemovesClient (e : Env) (w : World) (pid : Int32) : Prop :=
  removeClient pid e w =
    if pid ∈ pidsOf w.st.clients then
      (.ret 0, { w with st := { w.st with clients := w.st.clients.eraseP (·.pid = pid) } })
    else (.ret 1, w)

/-- **When `remove_client` removes a client**: if the client is in the list. -/
theorem removeClient_removes (e : Env) (w : World) (pid : Int32) :
    RemovesClient e w pid ↔ pid ∈ pidsOf w.st.clients := by
  rw [RemovesClient, removeClient_run]
  split_ifs with h
  · exact iff_of_true rfl h
  · exact iff_of_false (fun heq ↦ by cases congrArg Prod.fst heq) h

/-- What `waitpid` returns if no child has exited, and a list without entries. -/
theorem removeClient_not_found :
    let w := World.start (Process.initial 1)
    (removeClient 0 (clientEnv []) w).1 = .halt .fault ∧ ¬RemovesClient (clientEnv []) w 0 := by
  refine ⟨rfl, fun h ↦ ?_⟩
  have hret : (removeClient 0 (clientEnv []) (World.start (Process.initial 1))).1 = .ret 1 :=
    congrArg Prod.fst h
  cases hret

end FtpServer
