import FtpServer.Proofs.FileTrace

/-!
# What `store_file` stores

`store_file` reads a block from the data connection, writes it at its running offset, and moves the
offset by the result of `write`. What was read and not written is gone, and nothing tells the client
so. It ends when `splice_stream` returns 0, which is the end of the stream, or a `write` that took
nothing. And nobody looks at the result of the `lseek` in front of each block: until one succeeds,
the bytes go to the start of the file.

So for a transfer that `store_file` calls successful, the file holds what was received up to the end
of the stream if and only if every `write` took all it was given, and no byte was early
(`storeFile_stores`). The invariant behind this (`Storing`) says what the file is, whatever it was
before: as long as nothing was lost, the early bytes at its start and the late ones where they
belong.
-/

namespace FtpServer

open CString Effect Effect.Proc OpenFile

/-- The state of a transfer between two rounds, with the running offset of `store_file`. -/
structure Storing (start : ℕ) (fd offset : ℤ) (trace : List (Item kernel)) : Prop where
  /-- No more is written than was received, and less only when a `write` took less. -/
  written_le : writtenOf trace ≤ (uploadOf trace).length
  whole_iff : writtenOf trace = (uploadOf trace).length ↔ Whole trace
  /-- The file ends where the bytes written put its end, at most. -/
  offset_le : offset ≤ start + writtenOf trace
  pos_le : ∀ old, (fileOf fd old trace).pos ≤ start + writtenOf trace
  length_le : ∀ old,
    (fileOf fd old trace).contents.length ≤ max old.length (start + writtenOf trace)
  /-- As long as nothing was lost, this is where the next byte belongs. -/
  offset_eq : Whole trace → offset = start + writtenOf trace
  /-- As long as nothing was lost, this is the file. -/
  contents : Whole trace → ∀ old, (fileOf fd old trace).contents =
    displaced old start (earlyUpload trace) (lateUpload trace)
  pos_eq : Whole trace → ∀ old, (fileOf fd old trace).pos =
    if everSought trace then start + (uploadOf trace).length else (uploadOf trace).length

/-- Between two rounds, and around the calls of one, nothing changes. -/
theorem Storing.keep {start : ℕ} {fd offset : ℤ} {w w' : World}
    (h : Storing start fd offset w.trace) (hk : KeepsStored w w') :
    Storing start fd offset w'.trace := by
  obtain ⟨suffix, ht, hs⟩ := hk
  rw [ht]
  constructor
  all_goals
    simp only [uploadOf_neutral hs, writtenOf_neutral hs, whole_neutral hs, everSought_neutral hs,
      earlyUpload_neutral hs, lateUpload_neutral hs, fileOf_neutral hs]
  · exact h.written_le
  · exact h.whole_iff
  · exact h.offset_le
  · exact h.pos_le
  · exact h.length_le
  · exact h.offset_eq
  · exact h.contents
  · exact h.pos_eq

/-! ### One round -/

section Round

variable {start : ℕ} {fd offset dataFd : ℤ} {trace : List (Item kernel)} {count : ℕ}

/-- The `lseek` of a round moves the descriptor to where the next byte belongs, or leaves it where
it is. -/
theorem Storing.lseek (h : Storing start fd offset trace) (r : Answer (.lseek fd offset)) :
    Storing start fd offset (trace ++ [.call (.lseek fd offset) r]) := by
  have hupload : uploadOf (trace ++ [.call (.lseek fd offset) r]) = uploadOf trace := by
    rw [uploadOf_concat]
    exact List.append_nil _
  have hwritten : writtenOf (trace ++ [.call (.lseek fd offset) r]) = writtenOf trace :=
    writtenOf_concat _ _
  have hwhole : Whole (trace ++ [.call (.lseek fd offset) r]) ↔ Whole trace :=
    whole_concat.trans (and_iff_left rfl)
  have hnothing : uploadOf [(.call (.lseek fd offset) r : Item kernel)] = [] := rfl
  obtain ⟨hearly, hlate⟩ := earlyUpload_append_of_nil hnothing trace
  rcases hr : r.val with err | ⟨⟩
  -- a seek that fails moves nothing
  · have hfile : ∀ old, fileOf fd old (trace ++ [.call (.lseek fd offset) r]) =
        fileOf fd old trace := by
      intro old
      simp only [fileOf_concat, onFile, hr]
    have hsought : everSought (trace ++ [.call (.lseek fd offset) r]) = everSought trace := by
      simp [everSought_concat, sought, hr]
    constructor
    all_goals simp only [hupload, hwritten, hwhole, hfile, hearly, hlate, hsought]
    · exact h.written_le
    · exact h.whole_iff
    · exact h.offset_le
    · exact h.pos_le
    · exact h.length_le
    · exact h.offset_eq
    · exact h.contents
    · exact h.pos_eq
  -- one that succeeds moves the descriptor to where the offset is by now
  · have hfile : ∀ old, fileOf fd old (trace ++ [.call (.lseek fd offset) r]) =
        (fileOf fd old trace).seek offset.toNat := by
      intro old
      simp only [fileOf_concat, onFile, hr, if_true]
    have hsought : everSought (trace ++ [.call (.lseek fd offset) r]) = true := by
      simp [everSought_concat, sought, hr]
    have hoffset := h.offset_le
    constructor
    all_goals simp only [hupload, hwritten, hwhole, hfile, hearly, hlate, hsought, OpenFile.seek,
      if_true]
    · exact h.written_le
    · exact h.whole_iff
    · exact h.offset_le
    · intro old
      omega
    · exact h.length_le
    · exact h.offset_eq
    · exact h.contents
    · intro hall _
      have heq := h.whole_iff.2 hall
      have hexact := h.offset_eq hall
      omega

/-- What a `read` brought is lost when the `write` fails. -/
theorem Storing.writeFailed (h : Storing start fd offset trace) {r : Answer (.read dataFd count)}
    {bs : Bytes} (hread : uploaded (.call (.read dataFd count) r) = bs) (hbs : bs ≠ [])
    {r' : Answer (.write fd bs)} {err : Errno} (hr' : r'.val = .error err) :
    Storing start fd (offset - 1)
      ((trace ++ [.call (.read dataFd count) r]) ++ [.call (.write fd bs) r']) := by
  have hupload : uploadOf ((trace ++ [.call (.read dataFd count) r]) ++
      [.call (.write fd bs) r']) = uploadOf trace ++ bs := by
    rw [uploadOf_concat, uploadOf_concat, hread]
    exact List.append_nil _
  have hwritten : writtenOf ((trace ++ [.call (.read dataFd count) r]) ++
      [.call (.write fd bs) r']) = writtenOf trace := by
    rw [writtenOf_concat, writtenOf_concat]
    simp only [written, hr', Nat.add_zero]
  have hfile : ∀ old, fileOf fd old ((trace ++ [.call (.read dataFd count) r]) ++
      [.call (.write fd bs) r']) = fileOf fd old trace := by
    intro old
    simp only [fileOf_concat, onFile, hr']
  have hwhole : ¬Whole ((trace ++ [.call (.read dataFd count) r]) ++
      [.call (.write fd bs) r']) := by
    rw [whole_concat]
    simp [wholeWrite, hr']
  have hle := h.written_le
  have hoffset := h.offset_le
  have hpos : 0 < bs.length := List.length_pos_iff.2 hbs
  constructor
  · rw [hwritten, hupload, List.length_append]
    omega
  · refine iff_of_false ?_ hwhole
    rw [hwritten, hupload, List.length_append]
    omega
  · rw [hwritten]
    omega
  · intro old
    rw [hwritten, hfile]
    exact h.pos_le old
  · intro old
    rw [hwritten, hfile]
    exact h.length_le old
  · exact fun hall ↦ absurd hall hwhole
  · exact fun hall ↦ absurd hall hwhole
  · exact fun hall ↦ absurd hall hwhole

/-- What was received since is written behind what was there: at the start of the file, or where it
belongs. -/
theorem Storing.overwrite_contents (h : Storing start fd offset trace) (hall : Whole trace)
    {item : Item kernel} (hitem : sought item = false) (old : Bytes) :
    overwrite (fileOf fd old trace).contents (fileOf fd old trace).pos (uploaded item) =
      displaced old start (earlyUpload (trace ++ [item])) (lateUpload (trace ++ [item])) := by
  have hupload : uploadOf [item] = uploaded item := by rw [uploadOf, List.flatMap_singleton]
  rw [h.contents hall, h.pos_eq hall]
  by_cases hsought : everSought trace = true
  · rw [if_pos hsought, earlyUpload_append_of_sought hsought, lateUpload_append_of_sought hsought,
      hupload, ← earlyUpload_append_lateUpload trace]
    exact overwrite_late _ _ _ _ _
  · have hunsought : everSought trace = false := by simpa using hsought
    have hunsought' : everSought (trace ++ [item]) = false := by
      rw [everSought_concat, hunsought, hitem, Bool.false_or]
    rw [if_neg hsought, earlyUpload_of_unsought hunsought, lateUpload_of_unsought hunsought,
      earlyUpload_of_unsought hunsought', lateUpload_of_unsought hunsought', uploadOf_concat]
    exact overwrite_early _ _ _ _

/-- What a `write` took is in the file. -/
theorem Storing.write (h : Storing start fd offset trace) {r : Answer (.read dataFd count)}
    {bs : Bytes} (hread : uploaded (.call (.read dataFd count) r) = bs)
    {r' : Answer (.write fd bs)} {n : { n : ℕ // n ≤ bs.length }} (hr' : r'.val = .ok n) :
    Storing start fd (offset + n.1)
      ((trace ++ [.call (.read dataFd count) r]) ++ [.call (.write fd bs) r']) := by
  have hupload : uploadOf ((trace ++ [.call (.read dataFd count) r]) ++
      [.call (.write fd bs) r']) = uploadOf trace ++ bs := by
    rw [uploadOf_concat, uploadOf_concat, hread]
    exact List.append_nil _
  have hwritten : writtenOf ((trace ++ [.call (.read dataFd count) r]) ++
      [.call (.write fd bs) r']) = writtenOf trace + n.1 := by
    rw [writtenOf_concat, writtenOf_concat]
    simp only [written, hr', Nat.add_zero]
  have hfile : ∀ old, fileOf fd old ((trace ++ [.call (.read dataFd count) r]) ++
      [.call (.write fd bs) r']) = (fileOf fd old trace).write (bs.take n.1) := by
    intro old
    simp only [fileOf_concat, onFile, hr', if_true]
  have hwhole : Whole ((trace ++ [.call (.read dataFd count) r]) ++ [.call (.write fd bs) r']) ↔
      Whole trace ∧ n.1 = bs.length := by
    rw [whole_concat, whole_concat]
    simp [wholeWrite, hr']
  have hsought : everSought ((trace ++ [.call (.read dataFd count) r]) ++
      [.call (.write fd bs) r']) = everSought trace := by
    rw [everSought_concat, everSought_concat]
    simp [sought]
  have hnothing : uploadOf [(.call (.write fd bs) r' : Item kernel)] = [] := rfl
  obtain ⟨hearly, hlate⟩ :=
    earlyUpload_append_of_nil hnothing (trace ++ [.call (.read dataFd count) r])
  have hle := h.written_le
  have hoffset := h.offset_le
  have hn := n.2
  have htake : (bs.take n.1).length = n.1 := by
    rw [List.length_take, min_eq_left hn]
  constructor
  · rw [hwritten, hupload, List.length_append]
    omega
  · rw [hwritten, hupload, hwhole, ← h.whole_iff, List.length_append]
    omega
  · rw [hwritten]
    push_cast
    omega
  · intro old
    have hpos := h.pos_le old
    rw [hwritten, hfile]
    show (fileOf fd old trace).pos + (bs.take n.1).length ≤ _
    omega
  · intro old
    have hpos := h.pos_le old
    have hlength := h.length_le old
    have hover := length_overwrite_le (fileOf fd old trace).contents (fileOf fd old trace).pos
      (bs.take n.1)
    rw [hwritten, hfile]
    show (overwrite _ _ _).length ≤ _
    omega
  · intro hall
    obtain ⟨hall', hfull⟩ := hwhole.1 hall
    have hexact := h.offset_eq hall'
    rw [hwritten]
    push_cast
    omega
  · intro hall old
    obtain ⟨hall', hfull⟩ := hwhole.1 hall
    rw [hfile, hfull, List.take_length, hearly, hlate]
    show overwrite _ _ bs = _
    rw [← hread]
    exact h.overwrite_contents hall' rfl old
  · intro hall old
    obtain ⟨hall', hfull⟩ := hwhole.1 hall
    rw [hfile, hfull, List.take_length, hupload, hsought, List.length_append]
    show (fileOf fd old trace).pos + bs.length = _
    rw [h.pos_eq hall' old]
    split_ifs
    · exact Nat.add_assoc _ _ _
    · rfl

end Round

/-! ### The transfer -/

variable {config : FtpConfig} {e : Env} {w : World} {α : Type} {start : ℕ} {fd offset : ℤ}

theorem Storing.wp_keeps {m : Program α} {Q : α → World → Prop}
    (h : Storing start fd offset w.trace) (hm : Within (fun _ ↦ True) KeepsStored m)
    (hQ : ∀ a w', Storing start fd offset w'.trace → Q a w') : wp e m Q (fun _ _ ↦ True) w :=
  wp_mono (hm.wp trivial) (fun a w' hk ↦ hQ a w' (h.keep hk)) fun _ _ _ ↦ trivial

/-- Nobody looks at the result of the `lseek`. -/
theorem Storing.seekTo (h : Storing start fd offset w.trace) :
    wp e (seekTo fd (some offset)) (fun _ w' ↦ Storing start fd offset w'.trace)
      (fun _ _ ↦ True) w := by
  refine (wp_bind _ _).2 (wp_checked.2 (wp_sys (fun r _ ↦ ?_) trivial))
  have hsought : Storing start fd offset (answered w (.lseek fd offset) r).trace := h.lseek r
  rcases r.val with err | -
  · exact hsought
  · exact hsought

/-- What one `splice_stream` from a socket to a file does: the offset it leaves fits the file. -/
theorem Storing.spliceStream (h : Storing start fd offset w.trace) (dataFd : ℤ) (count : ℕ) :
    wp e (spliceStream ⟨fd, .file⟩ (some offset) ⟨dataFd, .socket⟩ none count)
      (fun r w' ↦ Storing start fd (r.2.getD offset) w'.trace) (fun _ _ ↦ True) w := by
  refine (wp_bind _ _).2 (wp_mono h.seekTo (fun _ w₁ hw₁ ↦ ?_) fun _ _ h ↦ h)
  have hmalloc : Within (fun _ ↦ True) KeepsStored (sys (.malloc count)) :=
    keepsStored_steps.sys _ (by simp [Call.topic])
  refine (wp_bind _ _).2 ((wp_bind _ _).2 (wp_mono (hmalloc.wp trivial) ?_ fun _ _ _ ↦ trivial))
  rintro (_ | block) w₂ hk
  · exact hw₁.keep hk
  have hw₂ := hw₁.keep hk
  refine (wp_bind _ _).2 (wp_checked.2 (wp_sys (fun r _ ↦ ?_) trivial))
  rcases hr : r.val with err | bs
  · have hneutral : Neutral (.call (.read dataFd count) r) :=
      ⟨by simp [uploaded, hr], rfl, rfl, rfl, fun _ _ ↦ rfl⟩
    exact hw₂.keep (show KeepsStored w₂ (answered w₂ _ r) from .concat rfl hneutral)
  have hread : uploaded (.call (.read dataFd count) r) = bs.1 := by simp [uploaded, hr]
  by_cases hbs : bs.1 = []
  · have hneutral : Neutral (.call (.read dataFd count) r) :=
      ⟨hread.trans hbs, rfl, rfl, rfl, fun _ _ ↦ rfl⟩
    simp only [if_pos hbs]
    exact hw₂.keep (show KeepsStored w₂ (answered w₂ _ r) from .concat rfl hneutral)
  simp only [if_neg hbs]
  refine (wp_bind _ _).2 (wp_checked.2 (wp_sys (fun r' _ ↦ ?_) trivial))
  rcases hr' : r'.val with err | n
  · exact hw₂.writeFailed hread hbs hr'
  · exact hw₂.write hread hr'

theorem storeFile_wp (h : Storing start fd start w.trace)
    (hstart : w.st.session.restartPos = start) (dataFd : ℤ) :
    wp e (storeFile config ⟨fd, .file⟩ ⟨dataFd, .socket⟩)
      (fun _ w' ↦ ∃ offset, Storing start fd offset w'.trace) (fun _ _ ↦ True) w := by
  have L := keepsStored_steps
  rw [storeFile, wp_bind, wp_getSession, hstart]
  refine (wp_bind _ _).2 (h.wp_keeps (L.startTransfer (by decide)) fun _ w₁ hw₁ ↦ ?_)
  refine wp_loop (fun (offset : ℤ) w ↦ Storing start fd offset w.trace)
    (fun offset w hw ↦ ?_) (fun _ _ _ ↦ trivial) hw₁
  refine (wp_bind _ _).2 (wp_mono (hw.spliceStream dataFd _) ?_ fun _ _ h ↦ h)
  rintro ⟨ret, offset'⟩ w₂ hw₂
  dsimp only at hw₂ ⊢
  split_ifs
  · exact ⟨_, hw₂⟩
  · refine (wp_bind _ _).2 (hw₂.wp_keeps (L.spliceFailed (keepsStored_handleSignal _))
      fun r w₃ hw₃ ↦ ?_)
    rcases r with - | ret
    · exact hw₃
    · exact ⟨_, hw₃⟩
  · refine (wp_bind _ _).2 (hw₂.wp_keeps (L.modifyInfo _ (by decide)) fun _ w₃ hw₃ ↦ ?_)
    refine (wp_bind _ _).2 (hw₃.wp_keeps (L.throttlePause (L.sendState (by decide) _) _
      (by decide)) fun _ w₄ hw₄ ↦ ?_)
    refine (wp_bind _ _).2 ?_
    rw [wp_get]
    split_ifs
    · refine (wp_bind _ _).2 (hw₄.wp_keeps (keepsStored_handleSignal _) fun ret w₅ hw₅ ↦ ?_)
      split_ifs
      · exact ⟨_, hw₅⟩
      · exact hw₅
    · exact hw₄

/-! ### The end of the stream -/

/-- `splice_stream` from a socket to a file returns 0 at the end of the stream, or when a `write`
took nothing of what it was given. -/
theorem spliceStream_ends (fd dataFd : ℤ) (outOffset : Option ℤ) (count : ℕ) :
    wp e (spliceStream ⟨fd, .file⟩ outOffset ⟨dataFd, .socket⟩ none count)
      (fun r w' ↦ r.1 = 0 → Whole w'.trace → EndOfStream w'.trace) (fun _ _ ↦ True) w := by
  have hfailed : (-1 : ℤ) ≠ 0 := by decide
  refine wp_bind_anyhow fun _ _ ↦ wp_bind_anyhow fun _ _ ↦ wp_bind_anyhow fun block w₂ ↦ ?_
  rcases block with - | block
  · exact fun hzero ↦ absurd hzero hfailed
  refine (wp_bind _ _).2 (wp_checked.2 (wp_sys (fun r _ ↦ ?_) trivial))
  rcases hr : r.val with err | bs
  · exact fun hzero ↦ absurd hzero hfailed
  by_cases hbs : bs.1 = []
  · have hanswer : readAnswer? (.call (.read dataFd count) r) = some (some []) := by
      simp [readAnswer?, hr, hbs]
    simp only [if_pos hbs]
    exact fun _ _ ↦ (endOfStream_concat hanswer).2 rfl
  simp only [if_neg hbs]
  refine (wp_bind _ _).2 (wp_checked.2 (wp_sys (fun r' _ ↦ ?_) trivial))
  rcases hr' : r'.val with err | n
  · exact fun hzero ↦ absurd hzero hfailed
  · intro hzero hall
    have hwrite := (whole_concat.1 hall).2
    have hnone : n.1 = 0 := Int.ofNat_eq_zero.1 hzero
    simp only [wholeWrite, hr', hnone, decide_eq_true_eq] at hwrite
    exact absurd (List.length_eq_zero_iff.1 hwrite.symm) hbs

/-- `store_file` returns `FTP_SUCCESS` where a `splice_stream` has returned 0, and only there. -/
theorem storeFile_ends (fd dataFd : ℤ) :
    wp e (storeFile config ⟨fd, .file⟩ ⟨dataFd, .socket⟩)
      (fun ret w' ↦ ret = .success → Whole w'.trace → EndOfStream w'.trace) (fun _ _ ↦ True) w := by
  refine wp_bind_anyhow fun session _ ↦ wp_bind_anyhow fun _ w₁ ↦ ?_
  refine wp_loop (fun _ _ ↦ True) (fun offset w _ ↦ ?_) (fun _ _ _ ↦ trivial) trivial
  refine (wp_bind _ _).2 (wp_mono (spliceStream_ends fd dataFd _ _) ?_ fun _ _ h ↦ h)
  rintro ⟨ret, offset'⟩ w₂ hends
  dsimp only at hends ⊢
  split_ifs with hzero
  · exact fun _ ↦ hends hzero
  · refine (wp_bind _ _).2 (wp_mono ((spliceFailed_returns .storeFile).wp wp_anyhow) ?_
      fun _ _ _ ↦ trivial)
    rintro (_ | ret') w₃ ⟨hret, -⟩
    · trivial
    · exact fun hsuccess ↦ absurd (congrArg some hsuccess) hret
  · refine wp_bind_anyhow fun _ _ ↦ wp_bind_anyhow fun _ _ ↦ wp_bind_anyhow fun s _ ↦ ?_
    split_ifs
    · refine wp_bind_anyhow fun ret _ ↦ ?_
      split_ifs
      · exact fun hsuccess ↦ by cases hsuccess
      · trivial
    · trivial

/-- Nothing was received yet. -/
theorem storing_start (start : ℕ) (fd : ℤ) : Storing start fd start [] where
  written_le := le_rfl
  whole_iff := iff_of_true rfl fun _ hx ↦ absurd hx List.not_mem_nil
  offset_le := by simp [writtenOf]
  pos_le _ := Nat.zero_le _
  length_le _ := le_max_left _ _
  offset_eq _ := by simp [writtenOf]
  contents _ _ := rfl
  pos_eq _ _ := rfl

/-- A run of `store_file`, as `dostor` has it. -/
def storing (config : FtpConfig) (fd dataFd : ℤ) (e : Env) (st : Process) :
    Outcome FtpRet × World :=
  storeFile config ⟨fd, .file⟩ ⟨dataFd, .socket⟩ e (World.start st)

/-- **When an upload is stored.** If `store_file` returns `FTP_SUCCESS`, then it has received
everything up to the end of the stream, and the file holds it from the restart position on, whatever
was in the file before, if and only if every `write` took all the bytes it was given, and nothing
was received before an `lseek` to the restart position succeeded, unless this is the start of the
file. -/
theorem storeFile_stores (config : FtpConfig) (fd dataFd : ℤ) (e : Env) (st : Process) (start : ℕ)
    (hstart : st.session.restartPos = start) :
    let run := storing config fd dataFd e st
    run.1 = .ret .success →
      ((EndOfStream run.2.trace ∧
          ∀ old, uploadOf run.2.trace <+: (fileOf fd old run.2.trace).contents.drop start) ↔
        (∀ x ∈ run.2.trace, wholeWrite x = true) ∧
          (start = 0 ∨ earlyUpload run.2.trace = [])) := by
  intro run hret
  have hbegin : Storing start fd start (World.start st : World).trace := storing_start start fd
  have hwp : wp e (storeFile config ⟨fd, .file⟩ ⟨dataFd, .socket⟩) _ _ (World.start st) :=
    wp_and (storeFile_wp hbegin hstart dataFd) (storeFile_ends fd dataFd)
  obtain ⟨⟨offset, hrun⟩, hends⟩ := wp_ret hwp (Prod.ext hret rfl : run = (.ret .success, run.2))
  have hholds : Whole run.2.trace →
      ((∀ old, uploadOf run.2.trace <+: (fileOf fd old run.2.trace).contents.drop start) ↔
        start = 0 ∨ earlyUpload run.2.trace = []) := by
    intro hall
    rw [← displaced_holds_iff start _ (lateUpload run.2.trace), earlyUpload_append_lateUpload]
    exact forall_congr' fun old ↦ by rw [hrun.contents hall old]
  constructor
  · rintro ⟨-, h⟩
    -- a file that was empty is too short if something was lost
    have hprefix := (h []).length_le
    have hlength := hrun.length_le []
    have hle := hrun.written_le
    rw [List.length_drop] at hprefix
    rw [List.length_nil] at hlength
    have hall : Whole run.2.trace := hrun.whole_iff.1 (by omega)
    exact ⟨hall, (hholds hall).1 h⟩
  · rintro ⟨hall, hearly⟩
    exact ⟨hends rfl hall, (hholds hall).2 hearly⟩

/-- A client that uploads these chunks, to a file of which each `write` takes `room` bytes. -/
def uploadEnv (chunks : List Bytes) (room : ℕ) : Env :=
  scriptedEnv (fun before c ↦
    match c with
    | .read _ count =>
      let done := before.countP fun | .read _ _ => true | _ => false
      some ⟨[], .ok ⟨(chunks.getD done []).take count, List.length_take_le ..⟩⟩
    | .write _ buf => some ⟨[], .ok ⟨min room buf.length, Nat.min_le_right ..⟩⟩
    | _ => none) 1000

/-- Nothing is lost when the file takes everything. -/
theorem storeFile_stores_whole :
    let run := storing loadDefaults 7 8 (uploadEnv [[1, 2, 3], [4]] 4096) (Process.initial 1)
    EndOfStream run.2.trace ∧
      ∀ old, uploadOf run.2.trace <+: (fileOf 7 old run.2.trace).contents.drop 0 :=
  (storeFile_stores loadDefaults 7 8 (uploadEnv [[1, 2, 3], [4]] 4096) (Process.initial 1) 0 rfl
    (by decide +kernel)).2 ⟨by decide +kernel, .inl rfl⟩

/-- A byte is lost when a `write` takes less, and the client is told that the transfer was
successful. -/
theorem uploadEnv_loses :
    let run := storing loadDefaults 7 8 (uploadEnv [[1, 2, 3], [4]] 2) (Process.initial 1)
    run.1 = .ret .success ∧ EndOfStream run.2.trace ∧ earlyUpload run.2.trace = [] ∧
      uploadOf run.2.trace = [1, 2, 3, 4] ∧ (fileOf 7 [] run.2.trace).contents = [1, 2, 4] := by
  decide +kernel

end FtpServer
