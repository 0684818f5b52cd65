import FtpServer.Proofs.Realpath

/-!
# `vfs_realpath` stays inside of its buffer

The bytes in front of `virt_path` are the root directory, so that nothing may go wrong at either end
of the buffer. `InBuffer` is what holds at the head of the loop of `vfs_realpath`, whatever an
earlier call has left behind in the buffer (`vfsRealpath_inside`).

* `StaysInside` says it of any number of rounds: each of them reads and writes in the buffer, there
  are not more of them than the path has bytes, and the buffer keeps its length.
* `Holds.inBuffer` reads it off the loop invariant of the canonicalizer.
-/

namespace FtpServer

open CString Effect Effect.Proc PathText

/-- Where `dst` is at the head of the loop: behind a byte of the buffer and in front of its end. The
buffer begins with a slash, so that the scan of a `..` stops at a slash in front of `dst`. -/
structure InBuffer (buf : Bytes) (dst : ℕ) : Prop where
  length : buf.length = ftpMaxPath
  root : buf.head? = some slash
  pos : 0 < dst
  inside : dst < ftpMaxPath
  up : 1 < dst → ∃ k, scanUp buf dst = some k ∧ 0 < k ∧ k < dst ∧ buf[k - 1]? = some slash

/-- What `vfs_realpath` does in a buffer: after any number of rounds `dst` is within it, there are
as many rounds as the path has bytes at most, and the function returns. -/
structure StaysInside (buf cwd path : Bytes) : Prop where
  loop : ∃ start dst, realpathStart buf cwd path = some (start, some dst) ∧ InBuffer start dst ∧
    (∀ n, ∃ buf' d, realpathLoop n start dst path = some (buf', d) ∧ buf'.length = ftpMaxPath ∧
      ∀ dst' ∈ d, InBuffer buf' dst') ∧
    ∀ n, path.length ≤ n →
      realpathLoop n start dst path = realpathLoop path.length start dst path
  returns : ∃ buf' ok, canonicalize buf cwd path = some (buf', ok) ∧ buf'.length = ftpMaxPath

section

variable {dir : List Bytes} {buf cwd path : Bytes} {dst : ℕ}

/-- A canonical path starts with a slash. -/
theorem Holds.head? (h : Holds dir buf dst) : buf.head? = some slash := by
  have hhead := h.shows.head?
  rwa [List.head?_take, if_neg h.pos.ne'] at hhead

/-- The scan stops behind a slash. -/
theorem slash_of_scanUp {k : ℕ} (h : scanUp buf dst = some k) :
    0 < k ∧ k < dst ∧ buf[k - 1]? = some slash := by
  fun_induction scanUp buf dst with
  | case1 => cases h
  | case2 => cases h
  | case3 => cases h
  | case4 dst hget =>
    obtain rfl : dst + 1 = k := Option.some_inj.1 h
    exact ⟨by omega, by omega, hget⟩
  | case5 dst c hget hc ih =>
    obtain ⟨hpos, hlt, hslash⟩ := ih h
    exact ⟨hpos, by omega, hslash⟩

/-- The text, its terminator and the next slash fit behind each other. -/
theorem Holds.inBuffer (h : Holds dir buf dst) : InBuffer buf dst where
  length := h.length
  root := h.head?
  pos := h.pos
  inside := h.inside
  up hdst := by
    obtain ⟨k, hk, -⟩ := h.up hdst
    exact ⟨k, hk, slash_of_scanUp hk⟩

/-- With a canonical directory in front, no round writes behind the buffer. -/
theorem staysInside (hbuf : buf.length = ftpMaxPath) (hcwd : Canonical cwd) (hcwd_nul : nul ∉ cwd)
    (hpath : nul ∉ path) : StaysInside buf cwd path := by
  obtain ⟨start, dst, hstart, hholds⟩ := realpathStart_spec path hbuf hcwd hcwd_nul
  refine ⟨⟨start, dst, hstart, hholds.inBuffer, fun n ↦ ?_, fun n hn ↦ ?_⟩, ?_⟩
  · obtain ⟨buf', d, hloop, hlen, hd⟩ := realpathLoop_holds n hholds hpath
    refine ⟨buf', d, hloop, hlen, fun dst' hdst' ↦ ?_⟩
    obtain ⟨dir', h'⟩ := hd dst' hdst'
    exact h'.inBuffer
  · exact realpathLoop_fuel hholds hpath hn le_rfl
  · have hspec := canonicalize_spec hbuf hcwd hcwd_nul hpath
    rcases hnorm : normalizeWithin slash dot ftpMaxPath (baseOf cwd path) path with - | dir
    · rw [hnorm] at hspec
      obtain ⟨buf', hcanon, hlen⟩ := hspec
      exact ⟨buf', false, hcanon, hlen⟩
    · rw [hnorm] at hspec
      obtain ⟨buf', hcanon, hlen, -⟩ := hspec
      exact ⟨buf', true, hcanon, hlen⟩

end

/-- **`vfs_realpath` stays inside of `virt_path`**, whatever the buffer held before: it returns, and
of the pool only the bytes of the buffer are others afterwards. -/
theorem vfsRealpath_inside (e : Env) (w : World) (pool : VfsPool) (cwd path : Bytes)
    (hpool : w.st.vfsPool = some pool) (hlen : pool.virtPath.length = ftpMaxPath)
    (hcwd : Canonical cwd) (hcwd_nul : nul ∉ cwd) (hpath : nul ∉ path) :
    StaysInside pool.virtPath cwd path ∧
      ∃ ok virtPath errno, virtPath.length = ftpMaxPath ∧ vfsRealpath cwd path e w =
        (.ret ok,
          { w with st := { w.st with vfsPool := some { pool with virtPath }, errno } }) := by
  refine ⟨staysInside hlen hcwd hcwd_nul hpath, ?_⟩
  have hspec := vfsRealpath_spec (e := e) hpool hlen hcwd hcwd_nul hpath
  rcases hrun : vfsRealpath cwd path e w with ⟨ok | k, w'⟩
  · obtain ⟨virtPath, errno, hlen', rfl, -⟩ := wp_ret hspec hrun
    exact ⟨ok, virtPath, errno, hlen', rfl⟩
  · exact (wp_halt hspec hrun).elim

/-- In a buffer without a NUL, up from a directory, and to a name that does not fit. -/
theorem vfsRealpath_inside_long :
    let pool : VfsPool := { rootDir := ofString "/srv", virtPath := List.replicate ftpMaxPath 97 }
    let w : World := World.start { Process.initial 1 with vfsPool := some pool }
    let path := ofString "../b/" ++ List.replicate ftpMaxPath 98
    StaysInside pool.virtPath (ofString "/a") path ∧
      ∃ ok virtPath errno, virtPath.length = ftpMaxPath ∧
        vfsRealpath (ofString "/a") path (clientEnv []) w =
          (.ret ok,
            { w with st := { w.st with vfsPool := some { pool with virtPath }, errno } }) := by
  intro pool w path
  have hpath : nul ∉ path := by
    rw [List.mem_append, not_or]
    exact ⟨by decide +kernel, fun h ↦ absurd (List.eq_of_mem_replicate h) (by decide)⟩
  exact vfsRealpath_inside _ w pool (ofString "/a") path rfl List.length_replicate
    (by decide +kernel) (by decide +kernel) hpath

end FtpServer
