import FtpServer.Library.PathText
import FtpServer.Model.Vfs

/-!
# What `vfs_realpath` computes

The canonicalizer edits its buffer in place; here it is shown to compute the bounded reference
semantics of paths, `normalizeWithin`, on stacks of names (`canonicalize_spec`). The loop invariant
is `Holds`: the buffer up to `dst` shows a stack of names, possibly with a pending separator.

## Canonical paths

`Canonical` says what a canonical path is on the text alone; `canonical_iff` identifies it with
being the text of a stack of names. The first is the one to state results with, the second the one
to prove them with.
-/

namespace FtpServer

open CString PathText

/-! ### Canonical paths -/

/-- A canonical absolute path. -/
structure Canonical (p : Bytes) : Prop where
  /-- It starts with a separator. -/
  absolute : p.head? = some slash
  /-- It fits the path buffers. -/
  short : p.length < ftpMaxPath
  /-- It has no empty, `.` or `..` component. -/
  components : p ≠ [slash] → ∀ c ∈ p.tail.splitOn slash, c ≠ [] ∧ c ≠ [dot] ∧ c ≠ [dot, dot]
  /-- It has no separator at its end, unless it is all there is. -/
  trailing : p ≠ [slash] → p.getLast? ≠ some slash

instance (p : Bytes) : Decidable (Canonical p) :=
  decidable_of_iff
    (p.head? = some slash ∧ p.length < ftpMaxPath ∧
      (p ≠ [slash] → ∀ c ∈ p.tail.splitOn slash, c ≠ [] ∧ c ≠ [dot] ∧ c ≠ [dot, dot]) ∧
      (p ≠ [slash] → p.getLast? ≠ some slash))
    ⟨fun ⟨h₁, h₂, h₃, h₄⟩ ↦ ⟨h₁, h₂, h₃, h₄⟩, fun ⟨h₁, h₂, h₃, h₄⟩ ↦ ⟨h₁, h₂, h₃, h₄⟩⟩

/-- A component that can be the name of a directory entry, as a C string. -/
structure IsEntry (c : Bytes) : Prop extends IsName slash dot c where
  nul_not_mem : nul ∉ c

/-- The stack a canonical path is the text of. -/
def stackOf (p : Bytes) : List Bytes := if p = [slash] then [] else p.tail.splitOn slash

theorem isName_of_canonical {p : Bytes} (h : Canonical p) :
    ∀ c ∈ stackOf p, IsName slash dot c := by
  intro c hc
  rw [stackOf] at hc
  split_ifs at hc with hp
  · simp at hc
  · obtain ⟨hnil, hdot, hup⟩ := h.components hp c hc
    exact ⟨hnil, sep_not_mem_of_mem_splitOn hc, hdot, hup⟩

theorem render_stackOf {p : Bytes} (h : Canonical p) : render slash (stackOf p) = p := by
  rw [stackOf]
  split_ifs with hp
  · simp [hp]
  · rw [render_splitOn]
    obtain ⟨t, rfl⟩ := List.head?_eq_some_iff.1 h.absolute
    rfl

/-- The canonical paths are the texts of stacks of names that fit the path buffers. -/
theorem canonical_iff {p : Bytes} :
    Canonical p ↔
      ∃ dir, (∀ c ∈ dir, IsName slash dot c) ∧ p = render slash dir ∧ p.length < ftpMaxPath := by
  constructor
  · exact fun h ↦ ⟨stackOf p, isName_of_canonical h, (render_stackOf h).symm, h.short⟩
  · rintro ⟨dir, hdir, rfl, hlen⟩
    have hne : render slash dir ≠ [slash] → dir ≠ [] := by
      rintro h rfl
      exact h rfl
    refine ⟨head?_render dir, hlen, fun hp c hc ↦ ?_, fun hp ↦ ?_⟩
    · rw [splitOn_tail_render hdir (hne hp)] at hc
      exact ⟨(hdir c hc).ne_nil, (hdir c hc).ne_here, (hdir c hc).ne_up⟩
    · exact getLast?_render_ne_sep hdir (hne hp)

theorem nul_not_mem_render {dir : List Bytes} (h : ∀ c ∈ dir, IsEntry c) :
    nul ∉ render slash dir := by
  rw [render]
  split_ifs
  · decide
  · intro hmem
    obtain ⟨c, hc, hmem⟩ := List.mem_flatMap.1 hmem
    rcases List.mem_cons.1 hmem with h0 | h0
    · exact absurd h0 (by decide)
    · exact (h c hc).nul_not_mem h0

/-! ### The loop -/

/-- The loop invariant of `vfs_realpath`: up to `dst`, the buffer shows the stack `dir`. -/
structure Holds (dir : List Bytes) (buf : Bytes) (dst : ℕ) : Prop where
  length : buf.length = ftpMaxPath
  inside : dst < ftpMaxPath
  shows : Shows slash dir (buf.take dst)
  entries : ∀ c ∈ dir, IsEntry c

section Loop

variable {dir : List Bytes} {buf : Bytes} {dst : ℕ}

theorem Holds.names (h : Holds dir buf dst) : ∀ c ∈ dir, IsName slash dot c :=
  fun c hc ↦ (h.entries c hc).toIsName

theorem Holds.pos (h : Holds dir buf dst) : 0 < dst := by
  rcases Nat.eq_zero_or_pos dst with rfl | hpos
  · exact absurd (List.take_zero) h.shows.ne_nil
  · exact hpos

theorem Holds.length_take (h : Holds dir buf dst) : (buf.take dst).length = dst := by
  rw [List.length_take, h.length]
  exact Nat.min_eq_left h.inside.le

/-- The byte before `dst`. -/
theorem Holds.before (h : Holds dir buf dst) :
    ∃ last, before buf dst = some last ∧ (buf.take dst).getLast? = some last := by
  have hpos := h.pos
  have hlt : dst - 1 < buf.length := by
    have := h.inside
    rw [h.length]
    omega
  refine ⟨buf[dst - 1], ?_, ?_⟩
  · rw [FtpServer.before, if_neg hpos.ne', List.getElem?_eq_getElem hlt]
  · rw [List.getLast?_eq_getElem?, h.length_take, List.getElem?_take_of_lt (by omega),
      List.getElem?_eq_getElem hlt]

/-- `scanUp` leaves what `popText` leaves. -/
theorem scanUp_eq {buf : Bytes} {dst : ℕ} (hlen : dst ≤ buf.length)
    (hmem : slash ∈ buf.take (dst - 1)) :
    ∃ j, scanUp buf dst = some j ∧ j < dst ∧
      buf.take j = (buf.take (dst - 1)).rdropWhile (· ≠ slash) := by
  induction dst with
  | zero => simp at hmem
  | succ dst ih =>
    rcases dst with - | dst
    · simp at hmem
    · have hlt : dst < buf.length := by omega
      have htake : buf.take (dst + 1) = buf.take dst ++ [buf[dst]] := by
        rw [List.take_append_getElem]
      rw [scanUp, List.getElem?_eq_getElem hlt]
      simp only [Nat.add_sub_cancel] at hmem ih ⊢
      by_cases hc : buf[dst] = slash
      · refine ⟨dst + 1, by simp [hc], by omega, ?_⟩
        rw [htake, List.rdropWhile_concat_neg _ _ _ (by simpa using hc)]
      · rw [htake, List.mem_append, List.mem_singleton] at hmem
        obtain ⟨j, hj, hlt', htake'⟩ := ih (by omega) (hmem.resolve_right (Ne.symm hc))
        refine ⟨j, by simpa [hc] using hj, by omega, ?_⟩
        rw [htake', htake, List.rdropWhile_concat_pos _ _ _ (by simpa using hc)]

/-- Moving up. -/
theorem Holds.up (h : Holds dir buf dst) (hdst : 1 < dst) :
    ∃ j, scanUp buf dst = some j ∧ Holds dir.dropLast buf j := by
  have hmem : slash ∈ buf.take (dst - 1) := by
    obtain ⟨t, ht⟩ := List.head?_eq_some_iff.1 h.shows.head?
    have htake : buf.take (dst - 1) = (buf.take dst).take (dst - 1) := by
      rw [List.take_take, Nat.min_eq_left (Nat.sub_le dst 1)]
    obtain ⟨k, hk⟩ : ∃ k, dst - 1 = k + 1 := ⟨dst - 2, by omega⟩
    rw [htake, ht, hk]
    simp
  have hlen : dst ≤ buf.length := h.length ▸ h.inside.le
  obtain ⟨j, hj, hlt, htake⟩ := scanUp_eq hlen hmem
  refine ⟨j, hj, h.length, hlt.trans h.inside, ?_, ?_⟩
  · have hpop : buf.take j = popText slash (buf.take dst) := by
      rw [htake, popText, List.dropLast_eq_take, h.length_take, List.take_take,
        Nat.min_eq_left (Nat.sub_le dst 1)]
    rw [hpop]
    exact shows_pop h.names h.shows (by rw [h.length_take]; exact hdst)
  · exact fun c hc ↦ h.entries c (List.dropLast_subset _ hc)

/-- At the start of the buffer there is nothing to move up from. -/
theorem Holds.eq_nil (h : Holds dir buf dst) (hdst : ¬1 < dst) : dir = [] := by
  by_contra hne
  have hlong := length_render_of_ne_nil h.names hne
  have hlen := h.length_take
  obtain heq | ⟨-, heq⟩ := h.shows
  · rw [heq] at hlen
    omega
  · rw [heq, List.length_append] at hlen
    omega

/-- Appending a separator unless there is one: what is in front of `d` is what a name is appended
to. -/
theorem Holds.appendSlash (h : Holds dir buf dst) (name : Bytes) :
    ∃ b d, appendSlash buf dst = some (b, d) ∧ b.length = ftpMaxPath ∧ d ≤ ftpMaxPath ∧
      b.take d ++ name = render slash (dir ++ [name]) := by
  obtain ⟨last, hlast, hgetLast⟩ := h.before
  have hpush := shows_push (c := name) h.names h.shows
  rw [pushText, hgetLast] at hpush
  by_cases hl : last = slash
  · refine ⟨buf, dst, by simp [FtpServer.appendSlash, hlast, hl], h.length, h.inside.le, ?_⟩
    simpa [hl] using hpush
  · have hlt : dst < buf.length := h.length ▸ h.inside
    refine ⟨buf.set dst slash, dst + 1, by simp [FtpServer.appendSlash, hlast, hl, store, hlt],
      by simpa using h.length, h.inside, ?_⟩
    rw [← hpush, if_neg (by simpa using hl), List.take_add_one, List.take_set_of_le le_rfl,
      List.getElem?_set_self hlt]
    simp

/-- Appending a name, or finding that it does not fit. -/
theorem Holds.append (h : Holds dir buf dst) {name : Bytes} (hname : IsEntry name) :
    if (render slash (dir ++ [name])).length < ftpMaxPath then
      ∃ buf' dst', appendName buf dst name = some (buf', some dst') ∧
        Holds (dir ++ [name]) buf' dst'
    else ∃ buf', appendName buf dst name = some (buf', none) ∧ buf'.length = ftpMaxPath := by
  obtain ⟨b, d, hsep, hb, hd, htake⟩ := h.appendSlash name
  have hlen : (render slash (dir ++ [name])).length = d + name.length := by
    rw [← htake, List.length_append, List.length_take, hb, Nat.min_eq_left hd]
  rw [hlen]
  simp only [appendName, hsep, Option.bind_eq_bind, Option.bind_some]
  split_ifs with hfit hlong hlong
  · omega
  · have hname_fits : d + name.length ≤ b.length := by omega
    have hnul_fits : d + name.length < (b.take d ++ name ++ b.drop (d + name.length)).length := by
      simp only [List.length_append, List.length_take, List.length_drop, hb]
      omega
    refine ⟨_, d + name.length, by
      rw [storeAll, if_pos hname_fits, Option.bind_some, store, if_pos hnul_fits]; rfl, ?_⟩
    refine ⟨?_, hfit, .inl ?_, ?_⟩
    · simp only [List.length_set, List.length_append, List.length_take, List.length_drop, hb]
      omega
    · rw [List.take_set_of_le le_rfl, htake, ← hlen, List.take_left']
      rfl
    · intro c hc
      rcases List.mem_append.1 hc with hc | hc
      · exact h.entries c hc
      · rwa [List.mem_singleton.1 hc]
  · exact ⟨b, rfl, hb⟩
  · omega

/-- The name that the loop cuts off is an entry, once the special cases are excluded. -/
theorem isEntry_of_takeWhile {start : Bytes} (hnul : nul ∉ start)
    (hnil : start.takeWhile (· ≠ slash) ≠ []) (hdot : start.takeWhile (· ≠ slash) ≠ [dot])
    (hup : start.takeWhile (· ≠ slash) ≠ [dot, dot]) :
    IsEntry (start.takeWhile (· ≠ slash)) where
  ne_nil := hnil
  sep_not_mem h := by simpa using List.mem_takeWhile_imp h
  ne_here := hdot
  ne_up := hup
  nul_not_mem h := hnul (List.takeWhile_sublist _ |>.subset h)

/-- What one round of the loop does: the path is used up, or a name does not fit, or the loop goes
on with a shorter path. -/
inductive Round (dir : List Bytes) (buf : Bytes) (dst : ℕ) (path : Bytes) : Prop
  | done (loop : ∀ fuel, realpathLoop (fuel + 1) buf dst path = some (buf, some dst))
      (norm : normalizeWithin slash dot ftpMaxPath dir path = some dir)
  | long {buf' : Bytes} (length : buf'.length = ftpMaxPath)
      (loop : ∀ fuel, realpathLoop (fuel + 1) buf dst path = some (buf', none))
      (norm : normalizeWithin slash dot ftpMaxPath dir path = none)
  | next {dir' : List Bytes} {buf' : Bytes} {dst' : ℕ} {rest : Bytes} (holds : Holds dir' buf' dst')
      (shorter : rest.length < path.length) (nul_not_mem : nul ∉ rest)
      (loop : ∀ fuel, realpathLoop (fuel + 1) buf dst path = realpathLoop fuel buf' dst' rest)
      (norm : normalizeWithin slash dot ftpMaxPath dir path =
        normalizeWithin slash dot ftpMaxPath dir' rest)

theorem Holds.round {path : Bytes} (h : Holds dir buf dst) (hnul : nul ∉ path) :
    Round dir buf dst path := by
  by_cases hpath : path = []
  · exact .done (fun fuel ↦ by rw [realpathLoop, if_pos hpath]) (by rw [hpath, normalizeWithin_nil])
  have hnorm := @normalizeWithin_dropWhile _ slash dot _ ftpMaxPath dir path
  have hstart_nul : nul ∉ path.dropWhile (· = slash) :=
    fun hm ↦ hnul ((List.dropWhile_sublist _).subset hm)
  have hstart_len := (List.dropWhile_sublist (l := path) (· = slash)).length_le
  have hhead : (path.dropWhile (· = slash)).head? ≠ some slash := fun hh ↦ by
    simpa [hh] using List.head?_dropWhile_not (· = slash) path
  generalize hstart : path.dropWhile (· = slash) = start at hstart_nul hstart_len hhead hnorm
  -- cut the path at the end of its first component
  have hcut := List.takeWhile_append_dropWhile (p := (· ≠ slash)) (l := start)
  have hsep : slash ∉ start.takeWhile (· ≠ slash) := fun hm ↦ by
    simpa using List.mem_takeWhile_imp hm
  have hrest : ∀ a ∈ (start.dropWhile (· ≠ slash)).head?, a = slash := fun a ha ↦ by
    have := List.head?_dropWhile_not (· ≠ slash) start
    rw [Option.mem_def.1 ha] at this
    simpa using this
  have hrest_nul : nul ∉ start.dropWhile (· ≠ slash) :=
    fun hm ↦ hstart_nul ((List.dropWhile_sublist _).subset hm)
  have hstep : normalizeWithin slash dot ftpMaxPath dir
      (start.takeWhile (· ≠ slash) ++ start.dropWhile (· ≠ slash)) = _ :=
    normalizeWithin_append hsep hrest
  rw [hcut, hnorm] at hstep
  by_cases hnil : start.takeWhile (· ≠ slash) = []
  · -- nothing is left: `start` does not begin with a separator
    have hempty : start = [] := by
      rcases start with - | ⟨a, start⟩
      · rfl
      · have ha : a ≠ slash := fun ha ↦ hhead (by simp [ha])
        simp [ha] at hnil
    refine .done (fun fuel ↦ ?_) (by rw [← hnorm, hempty, normalizeWithin_nil])
    simp only [realpathLoop, if_neg hpath, hstart, if_pos hnil]
  have hshorter : (start.dropWhile (· ≠ slash)).length < path.length := by
    have hsum := congrArg List.length hcut
    have hpos := List.length_pos_iff.2 hnil
    rw [List.length_append] at hsum
    omega
  by_cases hdot : start.takeWhile (· ≠ slash) = [dot]
  · refine .next h hshorter hrest_nul (fun fuel ↦ ?_) (by rw [hstep, hdot]; simp [stepWithin])
    simp only [realpathLoop, if_neg hpath, hstart, if_neg hnil, if_pos hdot]
  by_cases hup : start.takeWhile (· ≠ slash) = [dot, dot]
  · rw [hup] at hstep
    by_cases hdst : 1 < dst
    · obtain ⟨j, hj, hup'⟩ := h.up hdst
      refine .next hup' hshorter hrest_nul (fun fuel ↦ ?_) (by rw [hstep]; simp [stepWithin])
      simp only [realpathLoop, if_neg hpath, hstart, if_neg hnil, if_neg hdot, if_pos hup,
        if_pos (show dst > 1 from hdst), hj, Option.bind_some]
    · obtain rfl := h.eq_nil hdst
      refine .next h hshorter hrest_nul (fun fuel ↦ ?_) (by rw [hstep]; simp [stepWithin])
      simp only [realpathLoop, if_neg hpath, hstart, if_neg hnil, if_neg hdot, if_pos hup,
        if_neg (show ¬dst > 1 from hdst)]
  have hentry := isEntry_of_takeWhile hstart_nul hnil hdot hup
  have happend := h.append hentry
  rw [hentry.toIsName.stepWithin] at hstep
  split_ifs at happend hstep with hfit
  · obtain ⟨buf', dst', happend, h'⟩ := happend
    refine .next h' hshorter hrest_nul (fun fuel ↦ ?_) hstep
    simp only [realpathLoop, if_neg hpath, hstart, if_neg hnil, if_neg hdot, if_neg hup, happend,
      Option.bind_some]
  · obtain ⟨buf', happend, hlen⟩ := happend
    refine .long hlen (fun fuel ↦ ?_) hstep
    simp only [realpathLoop, if_neg hpath, hstart, if_neg hnil, if_neg hdot, if_neg hup, happend,
      Option.bind_some]

/-- **The loop computes the bounded reference semantics.** -/
theorem realpathLoop_spec {fuel : ℕ} {path : Bytes} (h : Holds dir buf dst)
    (hfuel : path.length ≤ fuel) (hnul : nul ∉ path) :
    match normalizeWithin slash dot ftpMaxPath dir path with
    | some dir' => ∃ buf' dst', realpathLoop fuel buf dst path = some (buf', some dst') ∧
        Holds dir' buf' dst'
    | none => ∃ buf', realpathLoop fuel buf dst path = some (buf', none) ∧
        buf'.length = ftpMaxPath := by
  induction fuel generalizing dir buf dst path with
  | zero =>
    obtain rfl : path = [] := List.length_eq_zero_iff.1 (by omega)
    rw [normalizeWithin_nil]
    exact ⟨buf, dst, rfl, h⟩
  | succ fuel ih =>
    cases h.round hnul with
    | done hloop hnorm =>
      rw [hnorm]
      exact ⟨buf, dst, hloop fuel, h⟩
    | long hlen hloop hnorm =>
      rw [hnorm]
      exact ⟨_, hloop fuel, hlen⟩
    | next h' hshorter hnul' hloop hnorm =>
      rw [hnorm, hloop]
      exact ih h' (by omega) hnul'

/-- After any number of rounds, the invariant holds of some stack. -/
theorem realpathLoop_holds (n : ℕ) {path : Bytes} (h : Holds dir buf dst) (hnul : nul ∉ path) :
    ∃ buf' d, realpathLoop n buf dst path = some (buf', d) ∧ buf'.length = ftpMaxPath ∧
      ∀ dst' ∈ d, ∃ dir', Holds dir' buf' dst' := by
  induction n generalizing dir buf dst path with
  | zero => exact ⟨buf, some dst, rfl, h.length, fun _ hd ↦ ⟨dir, Option.mem_some_iff.1 hd ▸ h⟩⟩
  | succ n ih =>
    cases h.round hnul with
    | done hloop _ =>
      exact ⟨buf, some dst, hloop n, h.length, fun _ hd ↦ ⟨dir, Option.mem_some_iff.1 hd ▸ h⟩⟩
    | long hlen hloop _ => exact ⟨_, none, hloop n, hlen, fun _ hd ↦ absurd hd (by simp)⟩
    | next h' _ hnul' hloop _ =>
      rw [hloop]
      exact ih h' hnul'

/-- There is one round for each byte of the path at most. -/
theorem realpathLoop_fuel {n m : ℕ} {path : Bytes} (h : Holds dir buf dst) (hnul : nul ∉ path)
    (hn : path.length ≤ n) (hm : path.length ≤ m) :
    realpathLoop n buf dst path = realpathLoop m buf dst path := by
  induction n generalizing m dir buf dst path with
  | zero =>
    obtain rfl : path = [] := List.length_eq_zero_iff.1 (by omega)
    rcases m with - | m
    · rfl
    · rw [realpathLoop, realpathLoop, if_pos rfl]
  | succ n ih =>
    rcases m with - | m
    · obtain rfl : path = [] := List.length_eq_zero_iff.1 (by omega)
      rw [realpathLoop, realpathLoop, if_pos rfl]
    · cases h.round hnul with
      | done hloop _ => rw [hloop, hloop]
      | long _ hloop _ => rw [hloop, hloop]
      | next h' hshorter hnul' hloop _ =>
        rw [hloop, hloop]
        exact ih h' hnul' (by omega) (by omega)

/-- Storing a NUL behind a NUL-free prefix makes it the C string. -/
theorem cstr_set_nul {buf s : Bytes} {k : ℕ} (hk : k < buf.length) (hs : buf.take k = s)
    (hnul : nul ∉ s) : cstr (buf.set k nul) = s := by
  rw [List.set_eq_take_append_cons_drop, if_pos hk, hs]
  exact cstr_append_zero hnul _

/-- The end of the function leaves the text of the stack. -/
theorem Holds.finish (h : Holds dir buf dst) :
    ∃ buf', realpathEnd buf dst = some buf' ∧ buf'.length = ftpMaxPath ∧
      cstr buf' = render slash dir ∧ Canonical (cstr buf') := by
  obtain ⟨last, hlast, hgetLast⟩ := h.before
  have hfinish := finish_shows h.names h.shows
  rw [finishText, h.length_take, hgetLast] at hfinish
  have hnul := nul_not_mem_render h.entries
  -- the NUL goes where the text of the stack ends
  obtain ⟨k, hk, hkdst, htake⟩ : ∃ k, realpathEnd buf dst = store buf k nul ∧ k ≤ dst ∧
      buf.take k = render slash dir := by
    by_cases hdst : 1 < dst
    · rw [realpathEnd, if_pos hdst, hlast, Option.bind_some]
      by_cases hl : last = slash
      · refine ⟨dst - 1, by rw [if_pos hl], by omega, ?_⟩
        rw [if_pos ⟨hdst, by rw [hl]⟩, List.dropLast_eq_take, h.length_take, List.take_take,
          Nat.min_eq_left (Nat.sub_le dst 1)] at hfinish
        exact hfinish
      · refine ⟨dst, by rw [if_neg hl], le_rfl, ?_⟩
        rwa [if_neg (by simp [hl])] at hfinish
    · refine ⟨dst, by rw [realpathEnd, if_neg hdst], le_rfl, ?_⟩
      rwa [if_neg (by simp [hdst])] at hfinish
  have hlt : k < buf.length := by
    rw [h.length]
    exact hkdst.trans_lt h.inside
  have hcstr := cstr_set_nul hlt htake hnul
  refine ⟨buf.set k nul, by rw [hk, store, if_pos hlt], by simpa using h.length, hcstr, ?_⟩
  refine canonical_iff.2 ⟨dir, h.names, hcstr, ?_⟩
  rw [hcstr, ← htake, List.length_take, Nat.min_eq_left hlt.le]
  exact hkdst.trans_lt h.inside

end Loop

/-! ### The function -/

/-- Where a path starts from. -/
def baseOf (cwd path : Bytes) : List Bytes := if path.head? = some slash then [] else stackOf cwd

theorem isEntry_stackOf {p : Bytes} (h : Canonical p) (hnul : nul ∉ p) :
    ∀ c ∈ stackOf p, IsEntry c := by
  refine fun c hc ↦ ⟨isName_of_canonical h c hc, fun hm ↦ hnul ?_⟩
  have hne : stackOf p ≠ [] := List.ne_nil_of_mem hc
  rw [← render_stackOf h, render_of_ne_nil hne]
  exact List.mem_flatMap.2 ⟨c, hc, List.mem_cons_of_mem _ hm⟩

/-- Copying a canonical path into a path buffer. -/
theorem strlcpy_canonical {buf p : Bytes} (hbuf : buf.length = ftpMaxPath) (hp : Canonical p) :
    strlcpy buf p ftpMaxPath = (p ++ nul :: buf.drop (p.length + 1), p.length) ∧
      (p ++ nul :: buf.drop (p.length + 1)).length = ftpMaxPath := by
  have hlen := hp.short
  have hne : p.length ≠ 0 := by
    intro h0
    have hhead := hp.absolute
    simp [List.length_eq_zero_iff.1 h0] at hhead
  have hlt : ¬p.length > ftpMaxPath - 1 := by omega
  refine ⟨by simp only [strlcpy, if_pos hne, if_neg hlt, List.take_length], ?_⟩
  simp only [List.length_append, List.length_cons, List.length_drop, hbuf]
  omega

/-- Before the loop, the buffer shows where the path starts from. -/
theorem realpathStart_spec {buf cwd : Bytes} (path : Bytes) (hbuf : buf.length = ftpMaxPath)
    (hcwd : Canonical cwd) (hnul : nul ∉ cwd) :
    ∃ b d, realpathStart buf cwd path = some (b, some d) ∧ Holds (baseOf cwd path) b d := by
  by_cases habs : path.head? = some slash
  · have hpos : 0 < buf.length := by
      rw [hbuf]
      decide
    refine ⟨buf.set 0 slash, 1, by rw [realpathStart, if_pos habs, store, if_pos hpos]; rfl, ?_⟩
    rw [baseOf, if_pos habs]
    refine ⟨by simpa using hbuf, by decide, .inl ?_, by simp⟩
    obtain ⟨a, rest, rfl⟩ := List.exists_cons_of_length_pos hpos
    rfl
  · have hlen := hcwd.short
    obtain ⟨hcpy, hcpy_len⟩ := strlcpy_canonical hbuf hcwd
    refine ⟨cwd ++ nul :: buf.drop (cwd.length + 1), cwd.length, ?_, ?_⟩
    · have hge : ¬cwd.length ≥ ftpMaxPath := by omega
      simp only [realpathStart, if_neg habs, hcpy, if_neg hge]
    · rw [baseOf, if_neg habs]
      refine ⟨hcpy_len, hlen, .inl ?_, isEntry_stackOf hcwd hnul⟩
      rw [List.take_left' rfl, render_stackOf hcwd]

/-- **`vfs_realpath` is the bounded reference semantics of paths.** From a canonical directory it
never leaves its buffer; it succeeds exactly when no name on the way was too long, and then leaves
the canonical text of the stack the path leads to. -/
theorem canonicalize_spec {buf cwd path : Bytes} (hbuf : buf.length = ftpMaxPath)
    (hcwd : Canonical cwd) (hcwd_nul : nul ∉ cwd) (hpath : nul ∉ path) :
    match normalizeWithin slash dot ftpMaxPath (baseOf cwd path) path with
    | some dir => ∃ buf', canonicalize buf cwd path = some (buf', true) ∧
        buf'.length = ftpMaxPath ∧ cstr buf' = render slash dir ∧ Canonical (cstr buf')
    | none => ∃ buf', canonicalize buf cwd path = some (buf', false) ∧
        buf'.length = ftpMaxPath := by
  obtain ⟨b, d, hstart, hholds⟩ := realpathStart_spec path hbuf hcwd hcwd_nul
  have hloop := realpathLoop_spec hholds le_rfl hpath
  rw [canonicalize, hstart]
  rcases hnorm : normalizeWithin slash dot ftpMaxPath (baseOf cwd path) path with - | dir
  · rw [hnorm] at hloop
    obtain ⟨buf', hloop, hlen⟩ := hloop
    exact ⟨buf', by simp [hloop], hlen⟩
  · rw [hnorm] at hloop
    obtain ⟨b', d', hloop, hholds'⟩ := hloop
    obtain ⟨buf', hend, hlen, hcstr, hcanonical⟩ := hholds'.finish
    exact ⟨buf', by simp [hloop, hend], hlen, hcstr, hcanonical⟩

end FtpServer
