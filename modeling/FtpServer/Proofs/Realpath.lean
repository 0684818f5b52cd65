import FtpServer.Proofs.Canonicalizer
import FtpServer.Proofs.Calls

/-!
# `vfs_realpath` computes the reference normal form

From a canonical directory, `vfs_realpath` leaves the text of the directory that the path leads to
in the pool, unless some name on the way brings the text to `FTP_MAX_PATH` bytes
(`vfsRealpath_normalForm`).
-/

namespace FtpServer

open CString Effect Effect.Proc PathText

variable {e : Env} {w : World} {pool : VfsPool} {cwd path : Bytes}

/-- What `vfs_realpath` returns and changes. -/
theorem vfsRealpath_spec (hpool : w.st.vfsPool = some pool)
    (hlen : pool.virtPath.length = ftpMaxPath) (hcwd : Canonical cwd) (hcwd_nul : nul ∉ cwd)
    (hpath : nul ∉ path) :
    wp e (vfsRealpath cwd path)
      (fun ok w' ↦ ∃ virtPath errno, virtPath.length = ftpMaxPath ∧
        w' = { w with st := { w.st with vfsPool := some { pool with virtPath }, errno } } ∧
        match normalizeWithin slash dot ftpMaxPath (baseOf cwd path) path with
        | some dir => ok = true ∧ errno = w.st.errno ∧ cstr virtPath = render slash dir ∧
            Canonical (cstr virtPath)
        | none => ok = false ∧ errno = some .enametoolong)
      (fun _ _ ↦ False) w := by
  have hspec := canonicalize_spec hlen hcwd hcwd_nul hpath
  rw [vfsRealpath, wp_bind, wp_get, hpool]
  revert hspec
  rcases normalizeWithin slash dot ftpMaxPath (baseOf cwd path) path with - | dir
  · rintro ⟨virtPath, hcanon, hlen'⟩
    simp only [hcanon, wp_bind, wp_modify, hpool, Option.map_some, setErrno]
    exact ⟨virtPath, _, hlen', rfl, rfl, rfl⟩
  · rintro ⟨virtPath, hcanon, hlen', hrender, hcanonical⟩
    simp only [hcanon, wp_bind, wp_modify, hpool, Option.map_some]
    exact ⟨virtPath, _, hlen', rfl, rfl, rfl, hrender, hcanonical⟩

/-- What `vfs_realpath` is to do: fail with `ENAMETOOLONG` if some push is too long, and otherwise
leave the normal form in the pool. -/
def ResolvesTo (cwd path : Bytes) (run : Outcome Bool × World) : Prop :=
  (Overflows slash dot ftpMaxPath (baseOf cwd path) path → run.1 = .ret false ∧
    run.2.st.errno = some .enametoolong) ∧
  (¬Overflows slash dot ftpMaxPath (baseOf cwd path) path → run.1 = .ret true ∧
    ∃ pool, run.2.st.vfsPool = some pool ∧
      cstr pool.virtPath = render slash (normalize slash dot (baseOf cwd path) path))

/-- **`vfs_realpath` computes the normal form of a path**, seen from any canonical directory, and
fails exactly when the text gets too long after some push. -/
theorem vfsRealpath_normalForm (e : Env) (w : World) (pool : VfsPool) (cwd path : Bytes)
    (hpool : w.st.vfsPool = some pool) (hlen : pool.virtPath.length = ftpMaxPath)
    (hcwd : Canonical cwd) (hcwd_nul : nul ∉ cwd) (hpath : nul ∉ path) :
    ResolvesTo cwd path (vfsRealpath cwd path e w) := by
  have hspec := vfsRealpath_spec (e := e) hpool hlen hcwd hcwd_nul hpath
  rw [ResolvesTo, ← normalizeWithin_eq_none]
  rcases hrun : vfsRealpath cwd path e w with ⟨ok | k, w'⟩
  · have hspec := wp_ret hspec hrun
    obtain ⟨virtPath, errno, -, rfl, hmatch⟩ := hspec
    rcases hnorm : normalizeWithin slash dot ftpMaxPath (baseOf cwd path) path with - | dir
    · rw [hnorm] at hmatch
      obtain ⟨rfl, rfl⟩ := hmatch
      exact ⟨fun _ ↦ ⟨rfl, rfl⟩, fun hne ↦ absurd rfl hne⟩
    · rw [hnorm] at hmatch
      obtain ⟨rfl, -, hrender, -⟩ := hmatch
      refine ⟨fun hnone ↦ absurd hnone (Option.some_ne_none dir), fun _ ↦ ⟨rfl, _, rfl, ?_⟩⟩
      rw [hrender, normalizeWithin_eq_some hnorm]
  · exact (wp_halt hspec hrun).elim

/-- From `/a/b`, up twice at most, and down. -/
theorem vfsRealpath_normalForm_relative :
    let w : World :=
      World.start { Process.initial 1 with vfsPool := some (newPool (ofString "/srv")) }
    ResolvesTo (ofString "/a/b") (ofString "../.././/../c/./d/")
      (vfsRealpath (ofString "/a/b") (ofString "../.././/../c/./d/") (clientEnv []) w) := by
  intro w
  exact vfsRealpath_normalForm _ w (newPool (ofString "/srv")) (ofString "/a/b")
    (ofString "../.././/../c/./d/") rfl (by decide +kernel) (by decide +kernel) (by decide +kernel)
    (by decide +kernel)

end FtpServer
