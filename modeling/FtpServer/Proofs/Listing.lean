import FtpServer.Proofs.Directory

/-!
# What `LIST` sends

A listing of a directory is complete if the directory was read to its end, `lstat` and `stat` were
asked about every entry that is to be listed, and the data connection received one line for every
entry of which both gave attributes. `list_directory` leaves its loop when a line cannot be sent,
and reports success all the same.

`Listing.step` reads all this off the calls alone. After a `readdir` the entry is due to be asked
about, and nothing but the calls that `vfs_stat` is to make on the path of this entry settles it. So
a listing that passes an entry over, asks about another path, or sends no line for an entry that has
attributes, is not complete.
-/

namespace FtpServer

open CString Effect Effect.Proc PathText

/-! ### What is listed -/

/-- What a `LIST` is to list, and to whom. -/
structure ListRequest where
  /-- The root directory. -/
  root : Bytes
  /-- The directory to be listed, below the root. -/
  dir : Bytes
  /-- Whether there was an `-a`. -/
  optA : Bool
  allowLinks : Bool
  /-- The data connection. -/
  data : ℤ

/-- What is still to be asked about the entry that was read last. -/
inductive Inquiry where
  | settled
  /-- `lstat` is to be asked about this path. -/
  | lstat (name path : Bytes)
  /-- `lstat` found something that is to be listed, and `stat` is to be asked. -/
  | stat (name path : Bytes)
  deriving DecidableEq

/-- An entry that is to be listed, as its `stat` succeeded. -/
structure Entry where
  name : Bytes
  attrs : Stat
  /-- What the calls of `is_leap` were for its date, once it was computed. -/
  indet : Option (ℕ → UInt8)

/-- The line of an entry, unless its date has not been computed. -/
def Entry.line (entry : Entry) : Option Bytes := do
  let indet ← entry.indet
  let date ← (convertTime indet entry.attrs.mtime).bind listDate
  return listLine entry.attrs date (findBasename entry.name)

/-- The path of an entry of the directory, unless it does not fit the path buffer. -/
def ListRequest.pathOf (L : ListRequest) (name : Bytes) : Option Bytes :=
  (normalizeWithin slash dot ftpMaxPath (baseOf L.dir name) name).map (L.root ++ render slash ·)

/-- What is to be asked about an entry. -/
def ListRequest.inquiry (L : ListRequest) (name : Bytes) : Inquiry :=
  match L.pathOf name with
  | some path => .lstat name path
  | none => .settled

/-- Whether an entry is not to be listed. -/
def ListRequest.hides (L : ListRequest) (name : Bytes) : Bool := name.head? = some dot && !L.optA

/-! ### What the trace says -/

/-- A listing, as far as it got. -/
structure Listing where
  /-- What is still to be asked about the entry that was read last. -/
  asking : Inquiry
  /-- Another entry was read while there was something to be asked. -/
  skipped : Bool
  /-- The entries that are not hidden and whose stat succeeded, in the order of `readdir`. -/
  due : List Entry
  /-- What the data connection received. -/
  received : Bytes
  /-- A `send` on the data connection failed. -/
  failed : Bool
  /-- There are no more entries. -/
  ended : Bool
  /-- The replies. -/
  replies : List Bytes

namespace Listing

def start : Listing := ⟨.settled, false, [], [], false, false, []⟩

/-- The date of the last entry is computed. -/
def dated (indet : ℕ → UInt8) (due : List Entry) : List Entry :=
  due.dropLast ++ due.getLast?.toList.map fun entry ↦ { entry with indet := some indet }

/-- One more entry of the trace. -/
def step (L : ListRequest) (s : Listing) : Item kernel → Listing
  | .note (.observe (.reply msg)) => { s with replies := s.replies ++ [msg] }
  | .call (.readdir _) r =>
    match r.val with
    | some name =>
      { s with
        asking := if L.hides (cstr name) then .settled else L.inquiry (cstr name)
        skipped := s.skipped || s.asking ≠ Inquiry.settled }
    | none =>
      { s with
        asking := .settled
        skipped := s.skipped || s.asking ≠ Inquiry.settled
        ended := true }
  | .call (.path .lstat path) r =>
    match s.asking, r.val with
    | .lstat name path', .ok tmp =>
      if path ≠ path' then s
      else if tmp.kind = .lnk && !L.allowLinks then { s with asking := .settled }
      else { s with asking := .stat name path }
    | .lstat _ path', .error _ => if path ≠ path' then s else { s with asking := .settled }
    | _, _ => s
  | .call (.path .stat path) r =>
    match s.asking, r.val with
    | .stat name path', .ok st =>
      if path ≠ path' then s
      else { s with asking := .settled, due := s.due ++ [⟨name, st, none⟩] }
    | .stat _ path', .error _ => if path ≠ path' then s else { s with asking := .settled }
    | _, _ => s
  | .call .indeterminate r => { s with due := dated r.val s.due }
  | .call (.send fd buf) r =>
    if fd = L.data then
      match r.val with
      | .ok n => { s with received := s.received ++ buf.take n }
      | .error err => { s with failed := s.failed || err ≠ .eintr }
    else s
  | _ => s

/-- All entries were read and asked about, and the data connection received one line for every entry
that is due, in order, and nothing else. -/
def Complete (s : Listing) : Prop :=
  s.ended = true ∧ s.skipped = false ∧ (∀ entry ∈ s.due, entry.line.isSome) ∧
    s.received = s.due.flatMap fun entry ↦ entry.line.getD []

instance : DecidablePred Complete := fun _ ↦ inferInstanceAs (Decidable (_ ∧ _))

/-- A listing that is answered 226 is complete, and one of which something could not be sent is
answered otherwise. -/
def Honest (s : Listing) : Prop :=
  (ofString "226 Listing sent OK\r\n" ∈ s.replies → s.Complete) ∧
  (s.failed = true → ofString "226 Listing aborted\r\n" ∈ s.replies ∨
    ofString "450 Error during write to data connection\r\n" ∈ s.replies)

instance : DecidablePred Honest := fun _ ↦ inferInstanceAs (Decidable (_ ∧ _))

section Step

variable (L : ListRequest) (s : Listing)

/-- What a `send` on the data connection adds. -/
theorem step_send (buf : Bytes) (r : Answer (.send L.data buf)) :
    s.step L (.call (.send L.data buf) r) =
      match r.val with
      | .ok n => { s with received := s.received ++ buf.take n }
      | .error err => { s with failed := s.failed || err ≠ .eintr } := by
  obtain ⟨async, err | n⟩ := r <;> exact if_pos rfl

theorem step_send_ne {fd : ℤ} (hfd : fd ≠ L.data) (buf : Bytes) (r : Answer (.send fd buf)) :
    s.step L (.call (.send fd buf) r) = s :=
  if_neg hfd

theorem step_lstat {name path : Bytes} (h : s.asking = .lstat name path) (async : List Async)
    (r : Except Errno Stat) :
    s.step L (.call (.path .lstat path) ⟨async, r⟩) =
      match r with
      | .ok tmp =>
        if tmp.kind = .lnk && !L.allowLinks then { s with asking := .settled }
        else { s with asking := .stat name path }
      | .error _ => { s with asking := .settled } := by
  cases r <;> simp only [step, h, ne_eq, not_true_eq_false, if_false]

theorem step_stat {name path : Bytes} (h : s.asking = .stat name path) (async : List Async)
    (r : Except Errno Stat) :
    s.step L (.call (.path .stat path) ⟨async, r⟩) =
      match r with
      | .ok st => { s with asking := .settled, due := s.due ++ [⟨name, st, none⟩] }
      | .error _ => { s with asking := .settled } := by
  cases r <;> simp only [step, h, ne_eq, not_true_eq_false, if_false]

/-- Calls about paths say nothing while no entry is asked about. -/
theorem step_path_settled (h : s.asking = .settled) (op : PathOp) (path : Bytes)
    (r : Answer (.path op path)) : s.step L (.call (.path op path) r) = s := by
  cases op <;> simp only [step, h]

@[simp] theorem dated_concat (indet : ℕ → UInt8) (due : List Entry) (entry : Entry) :
    dated indet (due ++ [entry]) = due ++ [{ entry with indet := some indet }] := by
  simp [dated]

end Step

end Listing

/-- The listing that a part of a trace shows. -/
def listing (L : ListRequest) (trace : List (Item kernel)) : Listing :=
  trace.foldl (Listing.step L) .start

theorem listing_concat (L : ListRequest) (trace : List (Item kernel)) (x : Item kernel) :
    listing L (trace ++ [x]) = (listing L trace).step L x := by
  rw [listing, List.foldl_concat, listing]

/-! ### What is sent of a line -/

/-- What of a line is sent: the buffer ends in a NUL. -/
def sentLine (line : Bytes) : Bytes :=
  (line.take (statBufferSize - 1) ++ [nul]).take line.length

theorem length_sentLine {line : Bytes} (h : line.length ≤ statBufferSize) :
    (sentLine line).length = line.length := by
  have hsize : 0 < statBufferSize := by decide
  simp only [sentLine, List.length_take, List.length_append, List.length_singleton]
  omega

theorem sentLine_eq {line : Bytes} (h : line.length < statBufferSize) : sentLine line = line := by
  rw [sentLine, List.take_of_length_le (Nat.le_sub_one_of_lt h), List.take_left' rfl]

theorem getLast?_listLine (st : Stat) (date basename : Bytes) :
    (listLine st date basename).getLast? = some lf := by
  rw [listLine, List.getLast?_append_of_ne_nil _ (by simp)]
  rfl

/-- Of a line that fills the buffer, the LF is lost. -/
theorem sentLine_ne {line : Bytes} (h : line.length = statBufferSize)
    (hlast : line.getLast? = some lf) : sentLine line ≠ line := by
  intro heq
  have hfull : sentLine line = line.take (statBufferSize - 1) ++ [nul] := by
    have hsize : statBufferSize - 1 + 1 ≤ statBufferSize := by decide
    rw [sentLine, List.take_of_length_le]
    simpa [h] using hsize
  rw [← heq, hfull, List.getLast?_concat] at hlast
  exact absurd hlast (by decide)

/-- Texts of the same lengths are the same if and only if their concatenations are. -/
theorem flatMap_eq_iff {α : Type} {f g : α → Bytes} {xs : List α}
    (h : ∀ x ∈ xs, (f x).length = (g x).length) :
    xs.flatMap f = xs.flatMap g ↔ ∀ x ∈ xs, f x = g x := by
  induction xs with
  | nil => simp
  | cons x xs ih =>
    obtain ⟨hx, hxs⟩ := List.forall_mem_cons.1 h
    rw [List.flatMap_cons, List.flatMap_cons, List.forall_mem_cons, ← ih hxs]
    exact ⟨fun heq ↦ List.append_inj heq hx, fun ⟨h₁, h₂⟩ ↦ by rw [h₁, h₂]⟩

/-! ### A session in the middle of a listing -/

variable {e : Env} {w₀ w : World} {config : FtpConfig} {L : ListRequest} {s : Listing}
  {conn : FtpConn}

/-- What has been added to the trace since `w₀` shows this listing. -/
def ShowsListing (w₀ : World) (L : ListRequest) (s : Listing) (w : World) : Prop :=
  ∃ suffix, w.trace = w₀.trace ++ suffix ∧ listing L suffix = s

theorem ShowsListing.concat {w' : World} {x : Item kernel} (h : ShowsListing w₀ L s w)
    (htrace : w'.trace = w.trace ++ [x]) : ShowsListing w₀ L (s.step L x) w' := by
  obtain ⟨suffix, hsuffix, rfl⟩ := h
  exact ⟨suffix ++ [x], by rw [htrace, hsuffix, List.append_assoc], listing_concat L suffix x⟩

/-- The session lists `L.dir`, and has come as far as `s`. -/
structure Lists (conn : FtpConn) (L : ListRequest) (w₀ : World) (s : Listing) (w : World) :
    Prop where
  jail : Jail w
  virtPath : cstr w.st.session.virtPath = L.dir
  conn : w.st.session.conn = conn
  root : rootOf w.trace = some L.root
  shows : ShowsListing w₀ L s w

/-- The listing looks at a few fields of the state and at the trace. -/
theorem Lists.of_eq {w' : World} (h : Lists conn L w₀ s w)
    (hsession : w'.st.session = w.st.session) (hpool : w'.st.vfsPool = w.st.vfsPool)
    (htrace : w'.trace = w.trace) : Lists conn L w₀ s w' where
  jail := h.jail.of_eq (congrArg _ hsession) hpool htrace
  virtPath := hsession ▸ h.virtPath
  conn := hsession ▸ h.conn
  root := htrace ▸ h.root
  shows := by
    obtain ⟨suffix, hsuffix, hs⟩ := h.shows
    exact ⟨suffix, htrace.trans hsuffix, hs⟩

/-- A call moves the listing on. -/
theorem Lists.call (h : Lists conn L w₀ s w) {c : Call} (r : Answer c)
    (hc : PathBelowRoot w.trace (.call c r)) :
    Lists conn L w₀ (s.step L (.call c r)) (answered w c r) where
  jail := h.jail.append (x := .call c r) rfl hc rfl rfl rfl
  virtPath := h.virtPath
  conn := h.conn
  root := (rootOf_concat rfl).trans h.root
  shows := h.shows.concat rfl

/-- The session is in the directory that it lists, which is canonical. -/
theorem Lists.canonical (h : Lists conn L w₀ s w) : Canonical L.dir := h.virtPath ▸ h.jail.canonical

/-- Setting `errno` does not matter. -/
theorem Lists.withErrno (h : Lists conn L w₀ s w) (err : Errno) :
    Lists conn L w₀ s (withErrno w err) :=
  h.of_eq rfl rfl rfl

theorem Lists.below (h : Lists conn L w₀ s w) {p : Bytes} (hp : Canonical p) :
    BelowRoot w.trace (L.root ++ p) :=
  ⟨L.root, p, h.root, hp, rfl⟩

theorem Lists.nul_not_mem (h : Lists conn L w₀ s w) : nul ∉ L.dir :=
  h.virtPath ▸ zero_not_mem_cstr _

/-! ### One line -/

/-- Sending on the data connection. -/
theorem sendall_lists (h : Lists conn L w₀ s w) (buf : Bytes) :
    wp e (sendall L.data buf) (fun r w' ↦
        match r with
        | some _ => Lists conn L w₀ { s with received := s.received ++ buf } w'
        | none => ∃ received, Lists conn L w₀ { s with received, failed := true } w')
      (fun _ _ ↦ True) w := by
  refine wp_loop (fun t w' ↦ t ≤ buf.length ∧
    Lists conn L w₀ { s with received := s.received ++ buf.take t } w') ?_
    (fun _ _ _ ↦ trivial) ⟨Nat.zero_le _, by simpa using h⟩
  rintro t w₁ ⟨hle, h₁⟩
  by_cases hlt : t < buf.length
  · rw [if_pos hlt, wp_bind]
    refine wp_checked.2 (wp_sys (fun r _ ↦ ?_) trivial)
    have h₂ := h₁.call r trivial
    rw [Listing.step_send] at h₂
    obtain ⟨async, err | ⟨n, hn⟩⟩ := r
    · dsimp only at h₂ ⊢
      rw [wp_bind, wp_errnoIs]
      by_cases herr : err = .eintr
      · -- an interrupted `send` is made again
        rw [if_pos (by simp [herr])]
        exact ⟨hle, by simpa [herr] using h₂.withErrno err⟩
      · rw [if_neg (by simp [herr])]
        exact ⟨s.received ++ buf.take t, by simpa [herr] using h₂.withErrno err⟩
    · rw [List.length_drop] at hn
      have hle' : t + n ≤ buf.length := by omega
      refine ⟨hle', ?_⟩
      simpa only [List.append_assoc, ← List.take_add] using h₂
  · rw [if_neg hlt]
    rw [List.take_of_length_le (Nat.le_of_not_lt hlt)] at h₁
    exact h₁

/-- `vfs_realpath` makes no calls. -/
theorem vfsRealpath_quiet (cwd path : Bytes) :
    wp e (vfsRealpath cwd path) (fun _ w' ↦ w'.st.session = w.st.session ∧ w'.trace = w.trace)
      (fun _ _ ↦ True) w := by
  rw [vfsRealpath, wp_bind, wp_get]
  split
  · trivial
  split
  · trivial
  · rw [wp_bind, wp_modify]
    split_ifs
    · exact ⟨rfl, rfl⟩
    · exact ⟨rfl, rfl⟩

/-- `vfs_realpath` finds the path of an entry, or that it does not fit. -/
theorem vfsRealpath_lists (h : Lists conn L w₀ s w) {name : Bytes} (hname : nul ∉ name) :
    wp e (vfsRealpath L.dir name) (fun ok w' ↦ Lists conn L w₀ s w' ∧
        if ok then ∃ pool p, w'.st.vfsPool = some pool ∧ Canonical p ∧
          pool.realPath = L.root ++ p ∧ L.pathOf name = some (L.root ++ p)
        else L.pathOf name = none)
      (fun _ _ ↦ True) w := by
  refine wp_mono (wp_and (vfsRealpath_jail h.jail h.canonical h.nul_not_mem hname)
    (vfsRealpath_quiet L.dir name)) ?_ fun _ _ _ ↦ trivial
  rintro ok w₁ ⟨⟨hjail, hsession, hlocated⟩, -, htrace⟩
  have hroot : rootOf w₁.trace = some L.root := htrace ▸ h.root
  refine ⟨⟨hjail, hsession ▸ h.virtPath, hsession ▸ h.conn, hroot, ?_⟩, ?_⟩
  · obtain ⟨suffix, hsuffix, hs⟩ := h.shows
    exact ⟨suffix, htrace.trans hsuffix, hs⟩
  rcases ok with - | -
  · have hnone : normalizeWithin slash dot ftpMaxPath (baseOf L.dir name) name = none := hlocated
    exact congrArg (Option.map _) hnone
  · obtain ⟨pool, dir, hpool, hdir, hrender, hcanonical⟩ := hlocated
    obtain ⟨-, hnul, hpoolRoot⟩ := hjail.pool pool hpool
    have hrootDir : pool.rootDir = L.root := Option.some.inj (hpoolRoot.symm.trans hroot)
    refine ⟨pool, cstr pool.virtPath, hpool, hcanonical, ?_, ?_⟩
    · rw [VfsPool.realPath, cstr_append hnul, hrootDir]
    · rw [ListRequest.pathOf, hdir, hrender, Option.map_some]

/-- `vfs_stat` asks what is to be asked about an entry. -/
theorem vfsStat_lists (h : Lists conn L w₀ s w) (hL : L.allowLinks = config.allowLinks)
    {name : Bytes} (hname : nul ∉ name) (hasking : s.asking = L.inquiry name) :
    wp e (vfsStat config L.dir name) (fun r w' ↦
        match r with
        | none => Lists conn L w₀ { s with asking := .settled } w'
        | some st => Lists conn L w₀
            { s with asking := .settled, due := s.due ++ [⟨name, st, none⟩] } w')
      (fun _ _ ↦ True) w := by
  rw [vfsStat, wp_bind]
  refine wp_mono (vfsRealpath_lists h hname) ?_ fun _ _ _ ↦ trivial
  rintro (- | -) w₁ ⟨h₁, hpath⟩
  -- a name that is too long for the path buffer is not asked about, and none was expected to be
  · have hsettled : s.asking = .settled := by
      have hnone : L.pathOf name = none := hpath
      rw [hasking, ListRequest.inquiry, hnone]
    rw [Bool.not_false, if_pos rfl]
    have hsame : { s with asking := Inquiry.settled } = s := by rw [← hsettled]
    exact hsame.symm ▸ h₁
  obtain ⟨pool, p, hpool, hp, hreal, hpath⟩ := hpath
  have hlstat : s.asking = .lstat name (L.root ++ p) := by
    rw [hasking, ListRequest.inquiry, hpath]
  have hrealPath : ∀ {w' Q}, w'.st.vfsPool = some pool → Q (L.root ++ p) w' →
      wp e realPath Q (fun _ _ ↦ True) w' := by
    intro w' Q hw' hQ
    rw [realPath, wp_bind, wp_get, hw']
    change Q pool.realPath w'
    rwa [hreal]
  rw [Bool.not_true, if_neg Bool.false_ne_true, wp_bind]
  refine hrealPath hpool ((wp_bind _ _).2 (wp_checked.2 (wp_sys (fun r _ ↦ ?_) trivial)))
  have h₂ := h₁.call r (h₁.below hp)
  obtain ⟨async, err | tmp⟩ := r
  -- the answer of `lstat` settles the entry, unless `stat` is to be asked next
  all_goals rw [Listing.step_lstat L s hlstat] at h₂
  · exact h₂.withErrno _
  dsimp only at h₂ ⊢
  rw [hL] at h₂
  by_cases hlink : (tmp.kind = .lnk && !config.allowLinks) = true
  · rw [if_pos hlink] at h₂ ⊢
    exact h₂.withErrno _
  rw [if_neg hlink] at h₂ ⊢
  rw [wp_bind]
  refine hrealPath hpool (wp_checked.2 (wp_sys (fun r _ ↦ ?_) trivial))
  have h₃ := h₂.call r (h₂.below hp)
  obtain ⟨async, err | st⟩ := r
  -- the answer of `stat` makes it due, or not
  all_goals rw [Listing.step_stat L _ rfl] at h₃
  · exact h₃.withErrno _
  · exact h₃

/-- Every line fits the buffer, if only just, and was sent as far as it does. -/
structure Exact (s : Listing) : Prop where
  skipped : s.skipped = false
  failed : s.failed = false
  lines : ∀ entry ∈ s.due, ∃ line, entry.line = some line ∧ line.length ≤ statBufferSize ∧
    line.getLast? = some lf
  received : s.received = s.due.flatMap fun entry ↦ sentLine (entry.line.getD [])

/-- How far a listing got when `send_filestat` returned. -/
def SentOr (ret : FtpRet) (s : Listing) : Prop :=
  (ret = .success ∨ ret = .fail) ∧ s.asking = .settled ∧ Exact s ∨
    (ret ≠ .success ∧ ret ≠ .fail) ∧ s.failed = true

/-- Sending the line of the entry that is due last. -/
theorem sendLine_lists {entry : Entry} {line : Bytes} (hs : Exact s)
    (h : Lists conn L w₀ { s with asking := .settled, due := s.due ++ [entry] } w)
    (hline : entry.line = some line) (hlast : line.getLast? = some lf)
    (hlong : line.length ≤ statBufferSize) :
    wp e (do
        match ← sendall L.data (sentLine line) with
        | some _ => return FtpRet.success
        | none =>
          if (← errnoIs .epipe) || (← errnoIs .econnreset) then
            return .abor
          else
            return .error)
      (fun ret w' ↦ ∃ s', Lists conn L w₀ s' w' ∧ s'.replies = s.replies ∧ s'.ended = s.ended ∧
        SentOr ret s')
      (fun _ _ ↦ True) w := by
  refine (wp_bind _ _).2 (wp_mono (sendall_lists h (sentLine line)) ?_ fun _ _ _ ↦ trivial)
  rintro (- | n) w₁ h₁
  · obtain ⟨received, h₁⟩ := h₁
    dsimp only
    rw [wp_bind, wp_errnoIs, wp_bind, wp_errnoIs]
    split_ifs
    all_goals exact ⟨_, h₁, rfl, rfl, .inr ⟨by decide, rfl⟩⟩
  · refine ⟨_, h₁, rfl, rfl, .inl ⟨.inl rfl, rfl, hs.skipped, hs.failed, ?_, ?_⟩⟩
    · intro entry' hmem
      rcases List.mem_append.1 hmem with hmem | hmem
      · exact hs.lines entry' hmem
      · obtain rfl := List.mem_singleton.1 hmem
        exact ⟨line, hline, hlong, hlast⟩
    · simp [hs.received, hline]

/-- Sending the line of an entry. -/
theorem sendFilestat_lists (hL : L.allowLinks = config.allowLinks) (h : Lists conn L w₀ s w)
    {name : Bytes} (hname : nul ∉ name) (hasking : s.asking = L.inquiry name) (hs : Exact s) :
    wp e (sendFilestat config L.dir name L.data) (fun ret w' ↦ ∃ s', Lists conn L w₀ s' w' ∧
        s'.replies = s.replies ∧ s'.ended = s.ended ∧ SentOr ret s')
      (fun _ _ ↦ True) w := by
  rw [sendFilestat, wp_bind]
  refine wp_mono (vfsStat_lists h hL hname hasking) ?_ fun _ _ _ ↦ trivial
  rintro (- | st) w₁ h₁
  · exact ⟨_, h₁, rfl, rfl, .inl ⟨.inr rfl, rfl, hs.skipped, hs.failed, hs.lines, hs.received⟩⟩
  refine (wp_bind _ _).2 (wp_sys (fun r _ ↦ ?_) trivial)
  have h₂ := h₁.call r trivial
  rcases hdate : (convertTime r.val st.mtime).bind listDate with - | date
  · trivial
  have hline : Entry.line ⟨name, st, some r.val⟩ = some (listLine st date (findBasename name)) := by
    simp [Entry.line, hdate]
  have hlast := getLast?_listLine st date (findBasename name)
  dsimp only [Listing.step] at h₂ ⊢
  rw [Listing.dated_concat] at h₂
  generalize listLine st date (findBasename name) = line at hline hlast ⊢
  by_cases hlong : line.length > statBufferSize
  · rw [if_pos hlong]
    trivial
  · rw [if_neg hlong]
    exact sendLine_lists hs h₂ hline hlast (Nat.le_of_not_lt hlong)

/-! ### The loop -/

/-- The listing is over: all entries were listed, or one could not be sent. -/
def Concluded (s : Listing) : Prop := s.ended = true ∧ Exact s ∨ s.ended = false ∧ s.failed = true

/-- The loop of `list_directory`. -/
theorem listEntries_lists (hL : L.allowLinks = config.allowLinks) (hdata : conn.dataSock = L.data)
    (h : Lists conn L w₀ s w) (hasking : s.asking = .settled) (hs : Exact s)
    (hended : s.ended = false) (drv : ℕ) :
    wp e (listEntries config drv L.optA) (fun _ w' ↦ ∃ s', Lists conn L w₀ s' w' ∧
        s'.replies = s.replies ∧ Concluded s')
      (fun _ _ ↦ True) w := by
  refine wp_loop (fun _ w' ↦ ∃ s', Lists conn L w₀ s' w' ∧ s'.replies = s.replies ∧
    s'.ended = false ∧ s'.asking = .settled ∧ Exact s') ?_
    (fun _ _ _ ↦ trivial) ⟨s, h, rfl, hended, hasking, hs⟩
  rintro - w₁ ⟨s₁, h₁, hreplies₁, hended₁, hasking₁, hs₁⟩
  rw [wp_bind]
  refine wp_sys (fun r _ ↦ ?_) trivial
  have h₂ := h₁.call r trivial
  -- the entry before was settled, so nothing is skipped
  have hskipped : (s₁.skipped || s₁.asking ≠ Inquiry.settled) = false := by
    simp [hs₁.skipped, hasking₁]
  obtain ⟨async, - | name⟩ := r
  all_goals
    dsimp only [Listing.step] at h₂ ⊢
    rw [hskipped] at h₂
  · exact ⟨_, h₂, hreplies₁, .inl ⟨rfl, rfl, hs₁.failed, hs₁.lines, hs₁.received⟩⟩
  have hname : nul ∉ cstr name := zero_not_mem_cstr name
  generalize cstr name = name at h₂ hname ⊢
  have hhides : (decide (name.head? = some dot) && !L.optA) = L.hides name := rfl
  rw [hhides]
  by_cases hhidden : L.hides name = true
  · rw [if_pos hhidden] at h₂
    rw [if_pos hhidden]
    exact ⟨_, h₂, hreplies₁, hended₁, rfl, rfl, hs₁.failed, hs₁.lines, hs₁.received⟩
  · rw [if_neg hhidden] at h₂
    rw [if_neg hhidden, wp_bind, wp_getSession, wp_bind, h₂.virtPath, h₂.conn, hdata]
    refine wp_mono (sendFilestat_lists hL h₂ hname rfl ⟨rfl, hs₁.failed, hs₁.lines, hs₁.received⟩)
      ?_ fun _ _ _ ↦ trivial
    rintro ret w₃ ⟨s₃, h₃, hreplies₃, hended₃, hs₃⟩
    rcases hs₃ with ⟨hret, hasking₃, hs₃⟩ | ⟨hret, hfailed⟩
    · rw [if_neg (by rcases hret with rfl | rfl <;> decide)]
      exact ⟨s₃, h₃, hreplies₃.trans hreplies₁, hended₃.trans hended₁, hasking₃, hs₃⟩
    · rw [if_pos (by simpa using hret)]
      exact ⟨s₃, h₃, hreplies₃.trans hreplies₁, .inr ⟨hended₃.trans hended₁, hfailed⟩⟩

end FtpServer
