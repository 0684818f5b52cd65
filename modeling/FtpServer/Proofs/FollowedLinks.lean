import FtpServer.Library.Symlinks
import FtpServer.Proofs.Realpath

/-!
# Which symbolic links an operation follows

Where `config.allow_links` is false, `vfs_stat` refuses a path that ends in a symbolic link. It asks
`lstat` for that, and the kernel follows the links in the middle of a path for `lstat` as it does
for every other call; and the operations that open, create and remove do not ask at all.

The kernel's part is the walk of the library, along the path as the kernel takes it apart
(`kernelSteps`): an operation of `vfs.c` hands it the root directory with a canonical path behind it
(`kernelSteps_append_render`), so below the root directory the walk only goes down. A run is looked
at with the file tree that the kernel had then: all that is assumed is that the calls that succeeded
were walks through this tree (`Walked`). A call follows no link below the root directory if the
links on its walk are those on the way to the root directory itself (`FollowsNone`).

* `vfsCall_walks` and `vfsStat_walks` say which calls an operation has made when it succeeds.
* `resolves_below` takes such a walk apart at the root directory, and `followsNone_call` is the
  result for one call.
* `vfsOperation_followsNone` is the result: an operation that succeeds has followed no link below
  the root directory if and only if none stands in the way of its path.
-/

namespace FtpServer

open CString Effect Effect.Proc PathText Symlinks

/-! ### The kernel -/

/-- A component of a path as the kernel takes it: the empty one and `.` are no step. -/
def stepOf (component : Bytes) : Option (Step Bytes) :=
  if component = [] ∨ component = [dot] then none
  else if component = [dot, dot] then some .up
  else some (.name component)

/-- The steps of a path. -/
def kernelSteps (path : Bytes) : List (Step Bytes) := (path.splitOn slash).filterMap stepOf

/-- The calls that follow a link at the end of their path. -/
def follows : PathOp → Bool
  | .stat | .creat _ | .open | .opendir => true
  | .lstat | .mkdir _ | .rmdir | .unlink => false

/-- With a slash behind it, every call follows a link. -/
def followsEnd (op : PathOp) (path : Bytes) : Bool :=
  follows op || decide (path.getLast? = some slash)

/-- `lstat` tells whether it has found a link. -/
def TellsLink (tree : FileTree Bytes) (place : List Bytes) : (op : PathOp) → op.Result → Prop
  | .lstat, st => st.kind = .lnk ↔ IsLink tree place
  | _, _ => True

/-- A call with a path that succeeds is a walk through the tree, from the top of the file system. -/
def Walked (tree : FileTree Bytes) : Item kernel → Prop
  | .call (.path op path) r =>
    match r.val with
    | .ok v => ∃ place links,
        Resolves tree (followsEnd op path) [] (kernelSteps path) place links ∧
          TellsLink tree place op v
    | .error _ => True
  | _ => True

/-- It has followed no link but those on the way to the root directory. -/
def FollowsNone (tree : FileTree Bytes) (rootDir : Bytes) : Item kernel → Prop
  | .call (.path op path) r =>
    match r.val with
    | .ok _ => ∀ place links, Resolves tree (followsEnd op path) [] (kernelSteps path) place links →
        ∃ top, Resolves tree true [] (kernelSteps rootDir) top links
    | .error _ => True
  | _ => True

/-- The name of the root directory leads to `top`. -/
def LeadsTo (tree : FileTree Bytes) (rootDir : Bytes) (top : List Bytes) : Prop :=
  ∃ links, Resolves tree true [] (kernelSteps rootDir) top links

/-- A name is one step. -/
theorem stepOf_name {c : Bytes} (h : IsName slash dot c) : stepOf c = some (.name c) := by
  rw [stepOf, if_neg (not_or.2 ⟨h.ne_nil, h.ne_here⟩), if_neg h.ne_up]

/-- Behind the root directory, each name of a canonical path is a step down. -/
theorem kernelSteps_append_render (rootDir : Bytes) {dir : List Bytes}
    (h : ∀ c ∈ dir, IsName slash dot c) :
    kernelSteps (rootDir ++ render slash dir) = kernelSteps rootDir ++ dir.map .name := by
  induction dir using List.reverseRecOn with
  | nil =>
    have hempty : (slash : UInt8) ∉ ([] : Bytes) := by simp
    rw [render_nil, kernelSteps, splitOn_append_sep_cons rootDir hempty, List.filterMap_append]
    rfl
  | append_singleton dir c ih =>
    have hc : IsName slash dot c := h c (by simp)
    have hdir : ∀ d ∈ dir, IsName slash dot d := fun d hd ↦ h d (List.mem_append_left _ hd)
    have hfront : kernelSteps (rootDir ++ dir.flatMap (slash :: ·)) =
        kernelSteps rootDir ++ dir.map .name := by
      rcases eq_or_ne dir [] with rfl | hne
      · rw [List.flatMap_nil, List.append_nil, List.map_nil, List.append_nil]
      · rw [← render_of_ne_nil hne, ih hdir]
    rw [kernelSteps] at hfront
    rw [render_push, ← List.append_assoc, kernelSteps, splitOn_append_sep_cons _ hc.sep_not_mem,
      List.filterMap_append, hfront, List.filterMap_cons_some (stepOf_name hc), List.filterMap_nil,
      List.map_append, List.append_assoc]
    rfl

/-- The root directory is written with a slash at the end, and what is below it is not. -/
theorem followsEnd_append_render (op : PathOp) (rootDir : Bytes) {dir : List Bytes}
    (h : ∀ c ∈ dir, IsName slash dot c) :
    followsEnd op (rootDir ++ render slash dir) = (follows op || decide (dir = [])) := by
  rw [followsEnd, List.getLast?_append_of_ne_nil _ (render_ne_nil dir)]
  rcases eq_or_ne dir [] with rfl | hne
  · rfl
  · rw [decide_eq_false (getLast?_render_ne_sep h hne), decide_eq_false hne]

/-- A walk along the root directory and names behind it is one to the root directory, and one below
it. -/
theorem resolves_below {tree : FileTree Bytes} {rootDir : Bytes} {top dir place : List Bytes}
    {links : List (List Bytes)} {follow : Bool} (htop : LeadsTo tree rootDir top)
    (hnames : ∀ c ∈ dir, IsName slash dot c) (hne : dir ≠ [])
    (h : Resolves tree follow [] (kernelSteps (rootDir ++ render slash dir)) place links) :
    ∃ above below, Resolves tree true [] (kernelSteps rootDir) top above ∧
      Resolves tree follow top (dir.map .name) place below ∧ links = above ++ below := by
  rw [kernelSteps_append_render rootDir hnames] at h
  obtain ⟨middle, above, below, h₁, h₂, rfl⟩ := h.split (by simpa using hne)
  obtain ⟨_, h₀⟩ := htop
  obtain ⟨rfl, -⟩ := h₀.unique h₁
  exact ⟨above, below, h₁, h₂, rfl⟩

/-! ### The operations -/

/-- The operations of `vfs.c` that name a path, by the call with which they reach their object. -/
def vfsOperation (config : FtpConfig) : (op : PathOp) → Bytes → Bytes → Program (Option op.Result)
  | .stat, cwd, vpath => vfsStat config cwd vpath
  | .creat mode, cwd, vpath => vfsCreat cwd vpath mode
  | .open, cwd, vpath => vfsOpen cwd vpath
  | .mkdir mode, cwd, pathname => vfsMkdir cwd pathname mode
  | .rmdir, cwd, pathname => vfsRmdir cwd pathname
  | .unlink, cwd, path => vfsUnlink cwd path
  | .opendir, cwd, path => vfsOpendir cwd path
  | .lstat, cwd, path => vfsCall .lstat cwd path

variable {config : FtpConfig} {e : Env} {w : World} {pool : VfsPool}
  {cwd path : Bytes} {op : PathOp}

/-- Where a path leads from a directory: the names below the root directory. -/
def destination (cwd path : Bytes) : List Bytes := normalize slash dot (baseOf cwd path) path

/-- What is handed to the kernel for it. -/
def handed (pool : VfsPool) (cwd path : Bytes) : Bytes :=
  pool.rootDir ++ render slash (destination cwd path)

/-- The destination of a canonical directory is a list of names. -/
theorem isName_of_mem_destination (hcwd : Canonical cwd) (path : Bytes) :
    ∀ c ∈ destination cwd path, IsName slash dot c := by
  refine isName_of_mem_normalize (fun c hc ↦ ?_) path
  rw [baseOf] at hc
  split_ifs at hc
  · cases hc
  · exact isName_of_canonical hcwd c hc

section Walks

variable (hpool : w.st.vfsPool = some pool) (hroot : nul ∉ pool.rootDir)
  (hlen : pool.virtPath.length = ftpMaxPath) (hcwd : Canonical cwd) (hcwd_nul : nul ∉ cwd)
  (hpath : nul ∉ path)
include hpool hroot hlen hcwd hcwd_nul hpath

/-- Where `vfs_realpath` succeeds, the path is in the pool, behind the root directory. -/
theorem vfsRealpath_hands :
    wp e (vfsRealpath cwd path) (fun ok w' ↦ w'.trace = w.trace ∧ (ok = true →
      ∃ pool', w'.st.vfsPool = some pool' ∧ pool'.realPath = handed pool cwd path))
      (fun _ _ ↦ False) w := by
  refine wp_mono (vfsRealpath_spec hpool hlen hcwd hcwd_nul hpath) ?_ fun _ _ h ↦ h
  rintro ok w' ⟨virtPath, errno, -, rfl, hmatch⟩
  refine ⟨rfl, fun hok ↦ ⟨_, rfl, ?_⟩⟩
  rcases hnorm : normalizeWithin slash dot ftpMaxPath (baseOf cwd path) path with - | dir
  · rw [hnorm] at hmatch
    exact absurd (hok.symm.trans hmatch.1) (by simp)
  · rw [hnorm] at hmatch
    obtain ⟨-, -, hcstr, -⟩ := hmatch
    rw [VfsPool.realPath, cstr_append hroot, hcstr, handed, destination,
      normalizeWithin_eq_some hnorm]

/-- An operation without a check has made one call. -/
theorem vfsCall_walks :
    wp e (vfsCall op cwd path) (fun r w' ↦ ∀ v, r = some v →
      ∃ ans : Answer (.path op (handed pool cwd path)), ans.val = .ok v ∧
        w'.trace = w.trace ++ [.call (.path op (handed pool cwd path)) ans])
      (fun _ _ ↦ True) w := by
  refine (wp_bind _ _).2 (wp_mono (vfsRealpath_hands hpool hroot hlen hcwd hcwd_nul hpath) ?_
    fun _ _ h ↦ h.elim)
  rintro (_ | _) w₁ ⟨ht, hok⟩
  · exact fun v h ↦ by cases h
  obtain ⟨pool', hpool', hreal⟩ := hok rfl
  rw [Bool.not_true, if_neg Bool.false_ne_true, wp_bind, realPath, wp_bind, wp_get, hpool', wp_pure,
    hreal]
  refine wp_checked.2 (wp_sys (fun ans _ ↦ ?_) trivial)
  rcases hval : ans.val with err | v
  · exact fun v h ↦ by cases h
  · rintro _ ⟨⟩
    exact ⟨ans, hval, by rw [answered_trace, ht]⟩

/-- `vfs_stat` has made two, and the first has not found a link at the end of the path. -/
theorem vfsStat_walks (hlinks : config.allowLinks = false) :
    wp e (vfsStat config cwd path) (fun r w' ↦ ∀ v, r = some v →
      ∃ (tmp : Stat) (ans₁ : Answer (.path .lstat (handed pool cwd path)))
        (ans₂ : Answer (.path .stat (handed pool cwd path))),
        ans₁.val = .ok tmp ∧ tmp.kind ≠ .lnk ∧ ans₂.val = .ok v ∧
        w'.trace = w.trace ++ [.call (.path .lstat (handed pool cwd path)) ans₁,
          .call (.path .stat (handed pool cwd path)) ans₂])
      (fun _ _ ↦ True) w := by
  refine (wp_bind _ _).2 (wp_mono (vfsRealpath_hands hpool hroot hlen hcwd hcwd_nul hpath) ?_
    fun _ _ h ↦ h.elim)
  rintro (_ | _) w₁ ⟨ht, hok⟩
  · exact fun v h ↦ by cases h
  obtain ⟨pool', hpool', hreal⟩ := hok rfl
  rw [Bool.not_true, if_neg Bool.false_ne_true, wp_bind, realPath, wp_bind, wp_get, hpool', wp_pure,
    hreal, wp_bind]
  refine wp_checked.2 (wp_sys (fun ans₁ _ ↦ ?_) trivial)
  rcases htmp : ans₁.val with err | tmp
  · exact fun v h ↦ by cases h
  dsimp only
  split_ifs with hlnk
  · exact fun v h ↦ by cases h
  have hkind : tmp.kind ≠ .lnk := fun h ↦ hlnk (by simp [h, hlinks])
  rw [wp_bind, wp_bind, wp_get, answered_vfsPool, hpool', wp_pure, hreal]
  refine wp_checked.2 (wp_sys (fun ans₂ _ ↦ ?_) trivial)
  rcases hval : ans₂.val with err | v
  · exact fun v h ↦ by cases h
  · rintro _ ⟨⟩
    refine ⟨tmp, ans₁, ans₂, htmp, hkind, hval, ?_⟩
    rw [answered_trace, answered_trace, ht, List.append_assoc]
    rfl

end Walks

/-! ### The result -/

/-- The operations that end at what a link at the end of their path leads to. -/
def unguarded : PathOp → Bool
  | .creat _ | .open | .opendir => true
  | .stat | .lstat | .mkdir _ | .rmdir | .unlink => false

variable {tree : FileTree Bytes} {top dir place : List Bytes} {links : List (List Bytes)}
  {rootDir : Bytes}

/-- What is known of a call that was answered, below the root directory. -/
theorem Walked.below {ans : Answer (.path op (rootDir ++ render slash dir))} {v : op.Result}
    (hval : ans.val = .ok v)
    (h : Walked tree (.call (.path op (rootDir ++ render slash dir)) ans))
    (htop : LeadsTo tree rootDir top) (hnames : ∀ c ∈ dir, IsName slash dot c) (hne : dir ≠ []) :
    ∃ place above below, Resolves tree true [] (kernelSteps rootDir) top above ∧
      Resolves tree (follows op) top (dir.map .name) place below ∧
      Resolves tree (follows op) [] (kernelSteps (rootDir ++ render slash dir)) place
        (above ++ below) ∧
      TellsLink tree place op v := by
  simp only [Walked, hval, followsEnd_append_render op rootDir hnames, hne, decide_false,
    Bool.or_false] at h
  obtain ⟨place, links, hres, htells⟩ := h
  obtain ⟨above, below, habove, hbelow, rfl⟩ := resolves_below htop hnames hne hres
  exact ⟨place, above, below, habove, hbelow, hres, htells⟩

/-- **One call** has followed no link below the root directory if and only if none was in its
way. -/
theorem followsNone_call {ans : Answer (.path op (rootDir ++ render slash dir))} {v : op.Result}
    (hval : ans.val = .ok v)
    (h : Walked tree (.call (.path op (rootDir ++ render slash dir)) ans))
    (htop : LeadsTo tree rootDir top) (hnames : ∀ c ∈ dir, IsName slash dot c) :
    FollowsNone tree rootDir (.call (.path op (rootDir ++ render slash dir)) ans) ↔
      Clear tree (follows op) top dir := by
  simp only [FollowsNone, hval, followsEnd_append_render op rootDir hnames]
  rcases eq_or_ne dir [] with rfl | hne
  · -- the walk to the root directory is the whole walk
    refine iff_of_true (fun place links hres ↦ ⟨place, ?_⟩) clear_nil
    rw [kernelSteps_append_render rootDir hnames] at hres
    simpa using hres
  simp only [hne, decide_false, Bool.or_false]
  obtain ⟨place, above, below, habove, hbelow, hwhole, -⟩ := h.below hval htop hnames hne
  rw [← hbelow.links_eq_nil_iff]
  constructor
  · intro hnone
    obtain ⟨top', habove'⟩ := hnone _ _ hwhole
    exact List.append_right_eq_self.1 (habove.unique habove').2
  · rintro rfl place' links hres
    obtain ⟨rfl, rfl⟩ := hwhole.unique hres
    exact ⟨top, by rwa [List.append_nil]⟩

section Result

variable (hpool : w.st.vfsPool = some pool) (hroot : nul ∉ pool.rootDir)
  (hlen : pool.virtPath.length = ftpMaxPath) (hcwd : Canonical cwd) (hcwd_nul : nul ∉ cwd)
  (hpath : nul ∉ path) (htop : LeadsTo tree pool.rootDir top)
include hpool hroot hlen hcwd hcwd_nul hpath htop

/-- An operation that asks nothing follows the links that the kernel follows. -/
theorem vfsCall_followsNone {v : op.Result} {w' : World}
    (hrun : vfsCall op cwd path e w = (.ret (some v), w'))
    (hwalked : ∀ x ∈ w'.trace.drop w.trace.length, Walked tree x) :
    (∀ x ∈ w'.trace.drop w.trace.length, FollowsNone tree pool.rootDir x) ↔
      Clear tree (follows op) top (destination cwd path) := by
  obtain ⟨ans, hval, ht⟩ := wp_ret
    (vfsCall_walks hpool hroot hlen hcwd hcwd_nul hpath) hrun v rfl
  rw [ht, List.drop_left] at hwalked ⊢
  rw [List.forall_mem_singleton] at hwalked ⊢
  exact followsNone_call hval hwalked htop (isName_of_mem_destination hcwd path)

/-- `vfs_stat` has asked for the end of its path, and so it is left with the links in the middle. -/
theorem vfsStat_followsNone (hlinks : config.allowLinks = false) {v : Stat} {w' : World}
    (hrun : vfsStat config cwd path e w = (.ret (some v), w'))
    (hwalked : ∀ x ∈ w'.trace.drop w.trace.length, Walked tree x) :
    (∀ x ∈ w'.trace.drop w.trace.length, FollowsNone tree pool.rootDir x) ↔
      Clear tree false top (destination cwd path) := by
  obtain ⟨tmp, ans₁, ans₂, htmp, hkind, hval, ht⟩ := wp_ret
    (vfsStat_walks hpool hroot hlen hcwd hcwd_nul hpath hlinks) hrun v rfl
  rw [ht, List.drop_left] at hwalked ⊢
  rw [List.forall_mem_cons, List.forall_mem_singleton] at hwalked ⊢
  obtain ⟨hlstat, hstat⟩ := hwalked
  have hnames := isName_of_mem_destination hcwd path
  have hfirst : FollowsNone tree pool.rootDir (.call (.path .lstat (handed pool cwd path)) ans₁) ↔
      Clear tree false top (destination cwd path) := followsNone_call htmp hlstat htop hnames
  have hsecond : FollowsNone tree pool.rootDir (.call (.path .stat (handed pool cwd path)) ans₂) ↔
      Clear tree true top (destination cwd path) := followsNone_call hval hstat htop hnames
  rw [hfirst, hsecond, and_iff_left_iff_imp]
  intro hclear
  rcases eq_or_ne (destination cwd path) [] with hnil | hne
  · rw [hnil]
    exact clear_nil
  -- with nothing in its way, `lstat` has looked at the entry itself
  obtain ⟨place, above, below, -, hbelow, -, htells⟩ := hlstat.below htmp htop hnames hne
  obtain rfl := hbelow.links_eq_nil_iff.2 hclear
  have hlast : ¬IsLink tree (top ++ destination cwd path) := by
    rw [← hbelow.place_eq]
    exact fun hlink ↦ hkind (htells.2 hlink)
  exact hclear.strengthen hlast

end Result

/-- **An operation that succeeds has followed no link below the root directory** if and only if no
component of its canonical path is one. The last component may be one where the operation does not
follow it, which are `vfs_mkdir`, `vfs_rmdir` and `vfs_unlink`, or refuses it, which is `vfs_stat`.
-/
theorem vfsOperation_followsNone (config : FtpConfig) (hlinks : config.allowLinks = false)
    (op : PathOp) (hop : op ≠ .lstat) (e : Env) (w : World) (pool : VfsPool) (cwd path : Bytes)
    (hpool : w.st.vfsPool = some pool) (hroot : nul ∉ pool.rootDir)
    (hlen : pool.virtPath.length = ftpMaxPath) (hcwd : Canonical cwd) (hcwd_nul : nul ∉ cwd)
    (hpath : nul ∉ path) (tree : FileTree Bytes) (top : List Bytes)
    (htop : LeadsTo tree pool.rootDir top) (v : op.Result) (w' : World)
    (hrun : vfsOperation config op cwd path e w = (.ret (some v), w'))
    (hwalked : ∀ x ∈ w'.trace.drop w.trace.length, Walked tree x) :
    (∀ x ∈ w'.trace.drop w.trace.length, FollowsNone tree pool.rootDir x) ↔
      Clear tree (unguarded op) top (destination cwd path) := by
  have hcall {op : PathOp} {v : op.Result} {w' : World}
      (hrun : vfsCall op cwd path e w = (.ret (some v), w'))
      (hwalked : ∀ x ∈ w'.trace.drop w.trace.length, Walked tree x) :=
    vfsCall_followsNone hpool hroot hlen hcwd hcwd_nul hpath htop hrun hwalked
  cases op with
  | stat =>
    exact vfsStat_followsNone hpool hroot hlen hcwd hcwd_nul hpath htop hlinks hrun hwalked
  | creat mode => exact hcall hrun hwalked
  | «open» => exact hcall hrun hwalked
  | mkdir mode => exact hcall hrun hwalked
  | rmdir => exact hcall hrun hwalked
  | unlink => exact hcall hrun hwalked
  | opendir => exact hcall hrun hwalked
  | lstat => exact absurd rfl hop

/-! ### A tree with links -/

/-- Below `srv` there is a file `f`, a link `l` to the file `passwd` in `etc`, and a link `d` to
`etc` itself. -/
def linkedTree : FileTree Bytes := fun place ↦
  if place ∈ [[ofString "srv"], [ofString "etc"]] then some .dir
  else if place ∈ [[ofString "srv", ofString "f"], [ofString "etc", ofString "passwd"]] then
    some .file
  else if place = [ofString "srv", ofString "l"] then
    some (.link true [.name (ofString "etc"), .name (ofString "passwd")])
  else if place = [ofString "srv", ofString "d"] then some (.link true [.name (ofString "etc")])
  else none

/-- A process whose root directory is `/srv`. -/
def rootedWorld : World :=
  World.start { Process.initial 1 with vfsPool := some (newPool (ofString "/srv")) }

theorem linkedTree_srv : LeadsTo linkedTree (ofString "/srv") [ofString "srv"] := by
  have hsteps : kernelSteps (ofString "/srv") = [.name (ofString "srv")] := by decide +kernel
  have hdir : linkedTree ([] ++ [ofString "srv"]) = some .dir := by decide +kernel
  rw [LeadsTo, hsteps]
  exact ⟨[], .enter hdir (.done _)⟩

/-- The way from `/srv` to a place below it, for any call. -/
theorem linkedTree_below {follow : Bool} {p : Bytes} {names place : List Bytes}
    {links : List (List Bytes)}
    (hsteps : kernelSteps p = .name (ofString "srv") :: names.map .name)
    (h : Resolves linkedTree follow [ofString "srv"] (names.map .name) place links) :
    Resolves linkedTree follow [] (kernelSteps p) place links := by
  have hdir : linkedTree ([] ++ [ofString "srv"]) = some .dir := by decide +kernel
  rw [hsteps]
  exact .enter hdir h

/-- A file is no link. -/
theorem linkedTree_f {follow : Bool} :
    Resolves linkedTree follow [ofString "srv"] [.name (ofString "f")]
      [ofString "srv", ofString "f"] [] := by
  have hfile : linkedTree ([ofString "srv"] ++ [ofString "f"]) = some .file := by decide +kernel
  exact .file hfile

/-- The link at the end. -/
theorem linkedTree_l : Resolves linkedTree true [ofString "srv"] [.name (ofString "l")]
    [ofString "etc", ofString "passwd"] [[ofString "srv", ofString "l"]] := by
  have hlink : linkedTree ([ofString "srv"] ++ [ofString "l"]) =
      some (.link true [.name (ofString "etc"), .name (ofString "passwd")]) := by decide +kernel
  have hetc : linkedTree ([] ++ [ofString "etc"]) = some .dir := by decide +kernel
  have hpasswd : linkedTree ([ofString "etc"] ++ [ofString "passwd"]) = some .file := by
    decide +kernel
  exact .through hlink (fun _ ↦ rfl) (.enter hetc (.file hpasswd))

/-- The link in the middle, which a call follows whatever it does at the end. -/
theorem linkedTree_d {follow : Bool} :
    Resolves linkedTree follow [ofString "srv"] [.name (ofString "d"), .name (ofString "passwd")]
      [ofString "etc", ofString "passwd"] [[ofString "srv", ofString "d"]] := by
  have hlink : linkedTree ([ofString "srv"] ++ [ofString "d"]) =
      some (.link true [.name (ofString "etc")]) := by decide +kernel
  have hetc : linkedTree ([] ++ [ofString "etc"]) = some .dir := by decide +kernel
  have hpasswd : linkedTree ([ofString "etc"] ++ [ofString "passwd"]) = some .file := by
    decide +kernel
  exact .through hlink (fun h ↦ by cases h) (.enter hetc (.file hpasswd))

/-- A call that has walked through this tree. -/
theorem walked_of_resolves {p : Bytes} {ans : Answer (.path op p)} {v : op.Result}
    (hval : ans.val = .ok v) (h : Resolves tree (followsEnd op p) [] (kernelSteps p) place links)
    (htells : TellsLink tree place op v) : Walked tree (.call (.path op p) ans) := by
  simp only [Walked, hval]
  exact ⟨place, links, h, htells⟩

/-- The calls of `vfs_stat`, where a path leads to a file of this tree. -/
theorem walked_vfsStat {v : Stat} {w' : World}
    (hrun : vfsStat loadDefaults (ofString "/") path (clientEnv []) rootedWorld =
      (.ret (some v), w')) (hpath : nul ∉ path)
    (hfile : linkedTree place = some .file)
    (h : ∀ follow, Resolves linkedTree follow []
      (kernelSteps (handed (newPool (ofString "/srv")) (ofString "/") path)) place links) :
    ∀ x ∈ w'.trace.drop rootedWorld.trace.length, Walked linkedTree x := by
  obtain ⟨tmp, ans₁, ans₂, htmp, hkind, hval, ht⟩ := wp_ret
    (vfsStat_walks (w := rootedWorld) rfl (by decide +kernel) (by decide +kernel)
      (by decide +kernel) (by decide +kernel) hpath rfl) hrun v rfl
  have htells : TellsLink linkedTree place .lstat tmp :=
    iff_of_false hkind (by simp [IsLink, hfile])
  rw [ht, List.drop_left]
  intro x hx
  rcases List.mem_cons.1 hx with rfl | hx
  · exact walked_of_resolves htmp (h _) htells
  · obtain rfl := List.mem_singleton.1 hx
    exact walked_of_resolves hval (h _) trivial

/-- On the way to `f` there is no link. -/
theorem vfsOperation_followsNone_f :
    ∃ w', vfsOperation loadDefaults .stat (ofString "/") (ofString "f") (clientEnv []) rootedWorld =
        (.ret (some ⟨.reg, 1, 0, 0, 0, 0⟩), w') ∧
      ((∀ x ∈ w'.trace.drop rootedWorld.trace.length,
          FollowsNone linkedTree (ofString "/srv") x) ↔
        Clear linkedTree false [ofString "srv"] (destination (ofString "/") (ofString "f"))) := by
  have hret : (vfsStat loadDefaults (ofString "/") (ofString "f") (clientEnv []) rootedWorld).1 =
      .ret (some ⟨.reg, 1, 0, 0, 0, 0⟩) := by decide +kernel
  obtain ⟨w', hrun⟩ : ∃ w', vfsStat loadDefaults (ofString "/") (ofString "f") (clientEnv [])
      rootedWorld = (.ret (some ⟨.reg, 1, 0, 0, 0, 0⟩), w') := ⟨_, run_eq hret⟩
  have hfile : linkedTree [ofString "srv", ofString "f"] = some .file := by decide +kernel
  have hsteps : kernelSteps (handed (newPool (ofString "/srv")) (ofString "/") (ofString "f")) =
      .name (ofString "srv") :: [ofString "f"].map .name := by decide +kernel
  exact ⟨w', hrun, vfsOperation_followsNone loadDefaults rfl .stat (by decide) (clientEnv [])
    rootedWorld (newPool (ofString "/srv")) (ofString "/") (ofString "f") rfl (by decide +kernel)
    (by decide +kernel) (by decide +kernel) (by decide +kernel) (by decide +kernel) linkedTree
    [ofString "srv"] linkedTree_srv _ w' hrun
    (walked_vfsStat hrun (by decide +kernel) hfile fun _ ↦ linkedTree_below hsteps linkedTree_f)⟩

/-- The operation succeeds with a kernel that walks this tree. A link below the root directory was
followed, and what it reached is `passwd`. -/
def ReachesPasswd (op : PathOp) (path : Bytes) : Prop :=
  ∃ v w', vfsOperation loadDefaults op (ofString "/") path (clientEnv []) rootedWorld =
      (.ret (some v), w') ∧
    (∀ x ∈ w'.trace.drop rootedWorld.trace.length, Walked linkedTree x) ∧
    (¬∀ x ∈ w'.trace.drop rootedWorld.trace.length, FollowsNone linkedTree (ofString "/srv") x) ∧
    ∃ links, Resolves linkedTree (follows op) []
      (kernelSteps (handed (newPool (ofString "/srv")) (ofString "/") path))
      [ofString "etc", ofString "passwd"] links

/-- Through the link at the end, `vfs_creat` opens a file outside for writing; through the one in
the middle, `vfs_stat` finds it. -/
theorem linkedTree_reached :
    loadDefaults.allowLinks = false ∧ LeadsTo linkedTree (ofString "/srv") [ofString "srv"] ∧
      ReachesPasswd (.creat 0o777) (ofString "l") ∧ ReachesPasswd .stat (ofString "d/passwd") := by
  refine ⟨rfl, linkedTree_srv, ?_, ?_⟩
  · have hret : (vfsCall (.creat 0o777) (ofString "/") (ofString "l") (clientEnv [])
        rootedWorld).1 = .ret (some 7) := by decide +kernel
    obtain ⟨w', hrun⟩ : ∃ w', vfsCall (.creat 0o777) (ofString "/") (ofString "l") (clientEnv [])
        rootedWorld = (.ret (some 7), w') := ⟨_, run_eq hret⟩
    have hdest : destination (ofString "/") (ofString "l") = [ofString "l"] := by decide +kernel
    have hsteps : kernelSteps (handed (newPool (ofString "/srv")) (ofString "/") (ofString "l")) =
        .name (ofString "srv") :: [ofString "l"].map .name := by decide +kernel
    obtain ⟨ans, hval, ht⟩ := wp_ret
      (vfsCall_walks (w := rootedWorld) rfl (by decide +kernel) (by decide +kernel)
        (by decide +kernel) (by decide +kernel) (by decide +kernel)) hrun 7 rfl
    have hwalked : ∀ x ∈ w'.trace.drop rootedWorld.trace.length, Walked linkedTree x := by
      rw [ht, List.drop_left, List.forall_mem_singleton]
      exact walked_of_resolves hval (linkedTree_below hsteps linkedTree_l) trivial
    refine ⟨7, w', hrun, hwalked, fun hnone ↦ ?_, _, linkedTree_below hsteps linkedTree_l⟩
    have hclear := (vfsCall_followsNone rfl (by decide +kernel) (by decide +kernel)
      (by decide +kernel) (by decide +kernel) (by decide +kernel) linkedTree_srv hrun hwalked).1
      hnone
    rw [hdest] at hclear
    exact List.cons_ne_nil _ _ (linkedTree_l.links_eq_nil_iff.2 hclear)
  · have hret : (vfsStat loadDefaults (ofString "/") (ofString "d/passwd") (clientEnv [])
        rootedWorld).1 = .ret (some ⟨.reg, 1, 0, 0, 0, 0⟩) := by decide +kernel
    obtain ⟨w', hrun⟩ : ∃ w', vfsStat loadDefaults (ofString "/") (ofString "d/passwd")
        (clientEnv []) rootedWorld = (.ret (some ⟨.reg, 1, 0, 0, 0, 0⟩), w') :=
      ⟨_, run_eq hret⟩
    have hdest : destination (ofString "/") (ofString "d/passwd") =
        [ofString "d", ofString "passwd"] := by decide +kernel
    have hsteps :
        kernelSteps (handed (newPool (ofString "/srv")) (ofString "/") (ofString "d/passwd")) =
          .name (ofString "srv") :: [ofString "d", ofString "passwd"].map .name := by
      decide +kernel
    have hfile : linkedTree [ofString "etc", ofString "passwd"] = some .file := by decide +kernel
    have hwalked := walked_vfsStat hrun (by decide +kernel) hfile
      fun _ ↦ linkedTree_below hsteps linkedTree_d
    refine ⟨_, w', hrun, hwalked, fun hnone ↦ ?_, _, linkedTree_below hsteps linkedTree_d⟩
    have hclear := (vfsStat_followsNone rfl (by decide +kernel) (by decide +kernel)
      (by decide +kernel) (by decide +kernel) (by decide +kernel) linkedTree_srv rfl hrun
      hwalked).1 hnone
    rw [hdest] at hclear
    have hd : Resolves linkedTree false [ofString "srv"]
        ([ofString "d", ofString "passwd"].map .name) _ _ := linkedTree_d
    exact List.cons_ne_nil _ _ (hd.links_eq_nil_iff.2 hclear)

end FtpServer
