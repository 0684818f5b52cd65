import FtpServer.Library.Lookup
import FtpServer.Model.CommandPool
import FtpServer.Proofs.CommandTable

/-!
# The command pool

The pool grows by doubling, and is sorted again behind every table. `compare_commands` and
`compare_key_to_cmd` both read the same order off the names, that of the names in lower case, so
that `do_cmd` finds every command that was added, and no other (`fillCommandPool_select`).

* `Filled` holds of a pool that has certain entries, in the order of their names; it is kept by
  `add_command_list` (`Filled.addCommandList`), whether or not the pool has to grow for it.
* `HasRoom` is the invariant of the growth. A size that does not fit an `int` is negative when it is
  handed to the allocator, so more than any allocator grants (`HasRoom.grow`).
* `compareKeyToCmd_compares` and `compareCommands_iff` connect the two comparisons to one order, as
  the theory of `Lookup` needs it of `qsort` and `bsearch`.
* `execCmd_eq_execIn` says that `do_cmd` as it is modelled elsewhere, with a search of the table, is
  `do_cmd` with the pool.
-/

namespace FtpServer

open CString Effect Lookup

/-! ### The order on the names -/

/-- A name in lower case. -/
def folded (name : Bytes) : List ℕ := name.map fun c ↦ (tolower c).toNat

theorem folded_cons (c : UInt8) (name : Bytes) :
    folded (c :: name) = (tolower c).toNat :: folded name := rfl

/-- Two names are the same command if they fold alike. -/
theorem folded_inj {a b : Bytes} : folded a = folded b ↔ strcaseeq a b = true := by
  have hmap : ∀ name, folded name = (name.map tolower).map UInt8.toNat := fun name ↦ by
    rw [folded, List.map_map]
    rfl
  rw [hmap, hmap, strcaseeq, decide_eq_true_eq]
  exact ⟨fun h ↦ List.map_injective_iff.2 (fun _ _ ↦ UInt8.toNat_inj.1) h, fun h ↦ by rw [h]⟩

/-- Bytes are compared after folding, in the order of their numbers. -/
theorem tolower_cases (x y : UInt8) :
    (tolower x < tolower y ∧ (tolower x).toNat < (tolower y).toNat) ∨
      (tolower x = tolower y) ∨
      (tolower y < tolower x ∧ (tolower y).toNat < (tolower x).toNat) := by
  rcases lt_trichotomy (tolower x).toNat (tolower y).toNat with h | h | h
  · exact .inl ⟨UInt8.lt_iff_toNat_lt.2 h, h⟩
  · exact .inr (.inl (UInt8.toNat_inj.1 h))
  · exact .inr (.inr ⟨UInt8.lt_iff_toNat_lt.2 h, h⟩)

/-- `strcasecmp` compares the names in lower case. -/
theorem strcasecmp_lt (a b : Bytes) : strcasecmp a b = .lt ↔ folded a < folded b := by
  induction a generalizing b with
  | nil =>
    rcases b with - | ⟨y, b⟩
    · simp [strcasecmp, folded]
    · simp [strcasecmp, folded]
  | cons x a ih =>
    rcases b with - | ⟨y, b⟩
    · simp [strcasecmp, folded]
    · rw [strcasecmp, folded_cons, folded_cons, List.cons_lt_cons_iff]
      obtain ⟨hlt, hnat⟩ | heq | ⟨hlt, hnat⟩ := tolower_cases x y
      · simp [hlt, hnat]
      · simp [heq, ih]
      · simp [hlt, hnat.not_gt, hnat.ne', UInt8.lt_asymm hlt]

/-- `strcasecmp` finds equal what folds alike. -/
theorem strcasecmp_eq (a b : Bytes) : strcasecmp a b = .eq ↔ folded a = folded b := by
  induction a generalizing b with
  | nil =>
    rcases b with - | ⟨y, b⟩
    · simp [strcasecmp, folded]
    · simp [strcasecmp, folded]
  | cons x a ih =>
    rcases b with - | ⟨y, b⟩
    · simp [strcasecmp, folded]
    · rw [strcasecmp, folded_cons, folded_cons, List.cons.injEq]
      obtain ⟨hlt, hnat⟩ | heq | ⟨hlt, hnat⟩ := tolower_cases x y
      · simp [hlt, hnat.ne]
      · simp [heq, ih]
      · simp [hlt, hnat.ne', UInt8.lt_asymm hlt]

/-- The order that the table is sorted by. -/
theorem strcaseLe_iff (a b : Bytes) : strcaseLe a b = true ↔ strcasecmp a b ≠ .gt := by
  induction a generalizing b with
  | nil => rcases b with - | ⟨y, b⟩ <;> simp [strcaseLe, strcasecmp]
  | cons x a ih =>
    rcases b with - | ⟨y, b⟩
    · simp [strcaseLe, strcasecmp]
    · rw [strcaseLe, strcasecmp]
      obtain ⟨hlt, -⟩ | heq | ⟨hlt, -⟩ := tolower_cases x y
      · simp [hlt]
      · simp [heq, ih]
      · simp [hlt, UInt8.lt_asymm hlt]

/-- The name that the comparisons read off an entry. -/
def CmdHandler.key (cmd : CmdHandler) : List ℕ := folded (ofString cmd.name)

/-- The comparison that `bsearch` is given compares folded names. -/
theorem compareKeyToCmd_compares (key : Bytes) :
    Compares (folded key) CmdHandler.key (compareKeyToCmd key) where
  lt _ := strcasecmp_lt _ _
  eq _ := strcasecmp_eq _ _

/-- `compare_commands` and `compare_key_to_cmd` read the same order. -/
theorem compareCommands_iff (c d : CmdHandler) : compareCommands c d ↔ c.key ≤ d.key := by
  rw [compareCommands, strcaseLe_iff, Ne, ← not_lt]
  exact not_congr ((compareKeyToCmd_compares (ofString c.name)).gt d)

/-! ### Room in the pool -/

variable {grants : ℕ → Bool} {qsort : Qsort} {bsearch : Bsearch} {pool : CommandPool}

/-- There is room for the entries, and for as many as `command_pool_size` says. -/
structure HasRoom (pool : CommandPool) : Prop where
  pos : 0 < pool.size
  lt : pool.size < 2 ^ 31
  room : (pool.room : ℤ) = pool.size
  le : pool.entries.length ≤ pool.room

/-- Where there is room, a command is put at the end. -/
theorem HasRoom.store (hinv : HasRoom pool) (hlt : pool.entries.length < pool.room)
    (newCmd : CmdHandler) :
    ∃ pool', pool.store newCmd = .ok pool' ∧ HasRoom pool' ∧
      pool'.entries = pool.entries ++ [newCmd] := by
  refine ⟨{ pool with entries := pool.entries ++ [newCmd] }, if_pos hlt, ?_, rfl⟩
  exact ⟨hinv.pos, hinv.lt, hinv.room, by simpa using Nat.succ_le_of_lt hlt⟩

/-- The pool doubles, or there is no memory for it: what a size beyond `int` becomes is more than
any allocator grants. -/
theorem HasRoom.grow (hinv : HasRoom pool) {bytes : ℕ}
    (hbytes : bytes = ((2 * pool.size).bmod (2 ^ 32) * cmdHandlerSize % 2 ^ 64).toNat)
    (hlt : bytes < 2 ^ 63) :
    (2 * pool.size).bmod (2 ^ 32) = 2 * pool.size ∧ bytes / cmdHandlerSize = 2 * pool.room ∧
      2 * pool.size < 2 ^ 31 := by
  obtain ⟨hpos, hsize, hroom, -⟩ := hinv
  rw [cmdHandlerSize] at hbytes ⊢
  by_cases hfits : 2 * pool.size < 2 ^ 31
  · have hbmod : (2 * pool.size).bmod (2 ^ 32) = 2 * pool.size := by
      rw [Int.bmod_eq_iff (by decide)]
      norm_num
      omega
    have hmod : 2 * pool.size * (24 : ℕ) % 2 ^ 64 = ((48 * pool.room : ℕ) : ℤ) := by
      rw [Int.emod_eq_of_lt]
      · push_cast; omega
      · omega
      · norm_num; omega
    rw [hbmod, hmod, Int.toNat_natCast] at hbytes
    exact ⟨hbmod, by omega, hfits⟩
  -- twice the size wraps to a negative `int`, which asks for more than `hlt` allows
  · have hbmod : (2 * pool.size).bmod (2 ^ 32) = 2 * pool.size - 2 ^ 32 := by
      rw [Int.bmod_eq_iff (by decide)]
      norm_num
      omega
    have hmod : (2 * pool.size - 2 ^ 32) * (24 : ℕ) % 2 ^ 64 =
        (2 * pool.size - 2 ^ 32) * 24 + 2 ^ 64 := by
      rw [← Int.add_emod_right, Int.emod_eq_of_lt]
      · rfl
      · norm_num; omega
      · norm_num; omega
    rw [hbmod, hmod] at hbytes
    omega

/-- An entry is added where there is room. -/
theorem HasRoom.addCommand (hinv : HasRoom pool) (hgrants : ∀ n, grants n = true → n < 2 ^ 63)
    (newCmd : CmdHandler) (hmem : addCommand grants pool newCmd ≠ .error .outOfMemory) :
    ∃ pool', addCommand grants pool newCmd = .ok pool' ∧ HasRoom pool' ∧
      pool'.entries = pool.entries ++ [newCmd] := by
  have hpos := hinv.pos
  have hle := hinv.le
  have heq := hinv.room
  by_cases hfull : pool.entries.length ≥ pool.size
  · simp only [FtpServer.addCommand, if_pos hfull] at hmem ⊢
    by_cases hgrant : grants ((2 * pool.size).bmod (2 ^ 32) * cmdHandlerSize % 2 ^ 64).toNat
    · obtain ⟨hsize, hroom, hlt⟩ := hinv.grow rfl (hgrants _ hgrant)
      rw [if_pos hgrant, hroom, hsize]
      refine HasRoom.store ⟨?_, hlt, ?_, ?_⟩ ?_ newCmd
      · show 0 < 2 * pool.size
        omega
      · show ((2 * pool.room : ℕ) : ℤ) = 2 * pool.size
        omega
      · show pool.entries.length ≤ 2 * pool.room
        omega
      · show pool.entries.length < 2 * pool.room
        omega
    · exact absurd (if_neg hgrant) hmem
  · rw [FtpServer.addCommand, if_neg hfull] at hmem ⊢
    exact hinv.store (by omega) newCmd

/-- A list of commands is added one after the other. -/
theorem HasRoom.addCommands (hinv : HasRoom pool) (hgrants : ∀ n, grants n = true → n < 2 ^ 63)
    (commandList : List CmdHandler)
    (hmem : commandList.foldlM (FtpServer.addCommand grants) pool ≠ .error .outOfMemory) :
    ∃ pool', commandList.foldlM (FtpServer.addCommand grants) pool = .ok pool' ∧ HasRoom pool' ∧
      pool'.entries = pool.entries ++ commandList := by
  induction commandList generalizing pool with
  | nil => exact ⟨pool, rfl, hinv, by simp⟩
  | cons c cs ih =>
    rw [List.foldlM_cons] at hmem ⊢
    obtain ⟨pool₁, h₁, hinv₁, hentries₁⟩ := hinv.addCommand hgrants c fun h ↦ hmem (by rw [h]; rfl)
    rw [h₁] at hmem ⊢
    obtain ⟨pool₂, h₂, hinv₂, hentries₂⟩ := ih hinv₁ hmem
    exact ⟨pool₂, h₂, hinv₂, by rw [hentries₂, hentries₁, List.append_assoc, List.singleton_append]⟩

/-! ### The pool -/

/-- The pool holds these entries, in order. -/
structure Filled (added : List CmdHandler) (pool : CommandPool) : Prop where
  inv : HasRoom pool
  perm : pool.entries.Perm added
  sorted : pool.entries.Pairwise fun c d ↦ c.key ≤ d.key

/-- After a list was added and sorted in, the table has everything that was added. -/
theorem Filled.addCommandList {added : List CmdHandler} (h : Filled added pool)
    (hqsort : Sorts qsort) (hgrants : ∀ n, grants n = true → n < 2 ^ 63)
    (commandList : List CmdHandler)
    (hmem : addCommandList grants qsort pool commandList ≠ .error .outOfMemory) :
    ∃ pool', addCommandList grants qsort pool commandList = .ok pool' ∧
      Filled (added ++ commandList) pool' := by
  rw [FtpServer.addCommandList] at hmem ⊢
  obtain ⟨pool₁, h₁, hinv₁, hentries⟩ :=
    h.inv.addCommands hgrants commandList fun h ↦ hmem (by rw [h]; rfl)
  rw [h₁]
  have hperm := hqsort.perm compareCommands pool₁.entries
  have hsorted := hqsort.pairwise compareCommands pool₁.entries
    (fun c d ↦ by simpa only [compareCommands_iff] using le_total c.key d.key)
    (fun a b c ↦ by simpa only [compareCommands_iff] using le_trans)
  refine ⟨_, rfl, ⟨hinv₁.pos, hinv₁.lt, hinv₁.room, ?_⟩, ?_, ?_⟩
  · show (qsort compareCommands pool₁.entries).length ≤ _
    rw [hperm.length_eq]
    exact hinv₁.le
  · refine hperm.trans ?_
    rw [hentries]
    exact h.perm.append_right _
  · exact hsorted.imp fun {c d} hle ↦ (compareCommands_iff c d).1 hle

/-- So has the table of the server. -/
theorem fillCommandPool_filled (hqsort : Sorts qsort)
    (hgrants : ∀ n, grants n = true → n < 2 ^ 63) (tables : List (List CmdHandler))
    (hmem : fillCommandPool grants qsort tables ≠ .error .outOfMemory) :
    ∃ pool, fillCommandPool grants qsort tables = .ok pool ∧ Filled tables.flatten pool := by
  have htables : ∀ (tables : List (List CmdHandler)) (added : List CmdHandler) (pool : CommandPool),
      Filled added pool →
      tables.foldlM (addCommandList grants qsort) pool ≠ .error .outOfMemory →
      ∃ pool', tables.foldlM (addCommandList grants qsort) pool = .ok pool' ∧
        Filled (added ++ tables.flatten) pool' := by
    intro tables
    induction tables with
    | nil => exact fun added pool h _ ↦ ⟨pool, rfl, by simpa using h⟩
    | cons table tables ih =>
      intro added pool h hmem
      rw [List.foldlM_cons] at hmem ⊢
      obtain ⟨pool₁, h₁, hfilled₁⟩ :=
        h.addCommandList hqsort hgrants table fun h ↦ hmem (by rw [h]; rfl)
      rw [h₁] at hmem ⊢
      obtain ⟨pool₂, h₂, hfilled₂⟩ := ih _ pool₁ hfilled₁ hmem
      exact ⟨pool₂, h₂, by rwa [List.flatten_cons, ← List.append_assoc]⟩
  rw [fillCommandPool, initCommandPool] at hmem ⊢
  by_cases hgrant : grants (16 * cmdHandlerSize)
  · rw [if_pos hgrant] at hmem ⊢
    refine htables tables [] ⟨16, 16, []⟩ ⟨⟨by decide, by decide, rfl, by decide⟩, .nil, .nil⟩ hmem
  · rw [if_neg hgrant] at hmem
    exact absurd rfl hmem

section Select

variable {added : List CmdHandler} (h : Filled added pool) (hbsearch : Searches bsearch)
include h hbsearch

/-- A search finds the one entry with that name, however it is written. -/
theorem Filled.selectCommand_eq_some_iff
    (hnames : added.Pairwise fun c d ↦ strcaseeq (ofString c.name) (ofString d.name) = false)
    {verb : Bytes} {cmd : CmdHandler} :
    selectCommand bsearch pool verb = some cmd ↔
      cmd ∈ added ∧ strcaseeq verb (ofString cmd.name) = true := by
  have hne : pool.entries.Pairwise fun c d ↦ c.key ≠ d.key := by
    refine (h.perm.pairwise_iff fun hcd ↦ hcd.symm).2 (hnames.imp fun {c d} hcd heq ↦ ?_)
    exact absurd (folded_inj.1 heq) (by simp [hcd])
  rw [selectCommand, hbsearch.eq_some_iff (compareKeyToCmd_compares verb) h.sorted hne,
    h.perm.mem_iff, ← folded_inj, eq_comm (a := folded verb), CmdHandler.key]

/-- And nothing where there is none. -/
theorem Filled.selectCommand_eq_none {verb : Bytes}
    (hnone : ∀ cmd ∈ added, strcaseeq verb (ofString cmd.name) = false) :
    selectCommand bsearch pool verb = none := by
  rw [selectCommand, hbsearch.eq_none_iff (compareKeyToCmd_compares verb) h.sorted]
  intro cmd hcmd heq
  have hname := hnone cmd (h.perm.mem_iff.1 hcmd)
  rw [← Bool.not_eq_true, ← folded_inj] at hname
  exact hname heq.symm

end Select

/-- **`do_cmd` finds the command that was added under the name of its verb**, and answers 500 if
there is none. -/
theorem fillCommandPool_select (grants : ℕ → Bool) (qsort : Qsort) (bsearch : Bsearch)
    (hqsort : Sorts qsort) (hbsearch : Searches bsearch)
    (hgrants : ∀ n, grants n = true → n < 2 ^ 63) (tables : List (List CmdHandler))
    (hnames : tables.flatten.Pairwise fun c d ↦
      strcaseeq (ofString c.name) (ofString d.name) = false)
    (hmem : fillCommandPool grants qsort tables ≠ .error .outOfMemory) :
    ∃ pool, fillCommandPool grants qsort tables = .ok pool ∧ pool.entries.Perm tables.flatten ∧
      ∀ verb,
        (∀ cmd, selectCommand bsearch pool verb = some cmd ↔
          cmd ∈ tables.flatten ∧ strcaseeq verb (ofString cmd.name) = true) ∧
        ((∀ cmd ∈ tables.flatten, strcaseeq verb (ofString cmd.name) = false) →
          execIn bsearch pool verb = do
            replyMsg "500 ?\r\n"
            return .success) := by
  obtain ⟨pool, hpool, hfilled⟩ := fillCommandPool_filled hqsort hgrants tables hmem
  refine ⟨pool, hpool, hfilled.perm, fun verb ↦ ⟨fun cmd ↦ ?_, fun hnone ↦ ?_⟩⟩
  · exact hfilled.selectCommand_eq_some_iff hbsearch hnames
  · rw [execIn, hfilled.selectCommand_eq_none hbsearch hnone]

/-! ### The commands of the server -/

/-- The names of the commands are distinct. -/
theorem coreCommandList_names (config : FtpConfig) :
    [coreCommandList config].flatten.Pairwise fun c d ↦
      strcaseeq (ofString c.name) (ofString d.name) = false := by
  have hnodup := List.pairwise_map.1 (@commandNames_nodup config)
  simpa only [List.flatten_singleton, strcaseeq, decide_eq_false_iff_not] using hnodup

/-- `do_cmd` as it is modelled everywhere else: with the pool that the server fills at its start. -/
theorem execCmd_eq_execIn {config : FtpConfig} (hqsort : Sorts qsort) (hbsearch : Searches bsearch)
    (hgrants : ∀ n, grants n = true → n < 2 ^ 63)
    (hpool : fillCommandPool grants qsort [coreCommandList config] = .ok pool) (verb : Bytes) :
    execCmd config verb = execIn bsearch pool verb := by
  obtain ⟨pool', hpool', hfilled⟩ :=
    fillCommandPool_filled hqsort hgrants [coreCommandList config] (by simp [hpool])
  obtain rfl : pool = pool' := by simpa [hpool] using hpool'
  have hselect : searchCommand (commandPool config) verb = selectCommand bsearch pool verb := by
    refine Option.ext fun cmd ↦ ?_
    rw [hfilled.selectCommand_eq_some_iff hbsearch (coreCommandList_names config),
      List.flatten_singleton]
    refine ⟨fun h ↦ ⟨mem_of_searchCommand h, name_of_searchCommand h⟩, ?_⟩
    rintro ⟨hcmd, hverb⟩
    exact searchCommand_eq hcmd hverb
  cases hcmd : selectCommand bsearch pool verb <;> simp only [execCmd, execIn, hselect, hcmd]

/-- With an insertion sort and a linear search for `qsort` and `bsearch`, all of it holds of the
table of the server. -/
theorem fillCommandPool_select_core :
    let grants := fun n ↦ decide (n < 2 ^ 63)
    let bsearch : Bsearch := fun cmp l ↦ l.find? fun cmd ↦ cmp cmd = .eq
    let tables := [coreCommandList loadDefaults]
    ∃ pool, fillCommandPool grants (fun r _ l ↦ l.insertionSort r) tables = .ok pool ∧
      pool.entries.Perm tables.flatten ∧
      ∀ verb,
        (∀ cmd, selectCommand bsearch pool verb = some cmd ↔
          cmd ∈ tables.flatten ∧ strcaseeq verb (ofString cmd.name) = true) ∧
        ((∀ cmd ∈ tables.flatten, strcaseeq verb (ofString cmd.name) = false) →
          execIn bsearch pool verb = do
            replyMsg "500 ?\r\n"
            return .success) :=
  fillCommandPool_select (fun n ↦ decide (n < 2 ^ 63)) (fun r _ l ↦ l.insertionSort r)
    (fun cmp l ↦ l.find? fun cmd ↦ cmp cmd = .eq) sorts_insertionSort searches_find
    (fun _ h ↦ of_decide_eq_true h) [coreCommandList loadDefaults]
    (coreCommandList_names loadDefaults)
    fun h ↦ absurd (congrArg Except.isOk h) (by decide +kernel)

end FtpServer
