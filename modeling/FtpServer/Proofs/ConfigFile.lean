import FtpServer.Proofs.ConfigLines

/-!
# The file of a configuration

`parse_config` copies the lines of the file one by one, as far as their ends, and has each of them
parsed. What becomes of all of them is `readLines`, and `parseConfig_wp` says how `parse_config`
ends, whether or not the byte behind the end of the file can be read.

* `splitOn_drop` cuts a line off the rest of the file, and `line_wp` is a round for one that is no
  comment.
* `parseConfig_contained` is the result about memory: which files it reads without leaving them. The
  loop looks at the byte behind the last line unless it has given up before.
-/

namespace FtpServer

open CString Effect Effect.Proc Stripping

variable {e : ConfigEnv} {w w' w'' : ConfigWorld} {H : Halt → ConfigWorld → Prop}

/-! ### The file -/

/-- How the lines of a file are read: undefined behaviour in one of them, one that is refused, or
the end, and the configuration then. -/
inductive Reading where
  | undefined
  | refused (c : FullConfig)
  | finished (c : FullConfig)

/-- The lines in order; those that begin with `#` are comments. -/
def readLines : List Bytes → FullConfig → Reading
  | [], c => .finished c
  | line :: lines, c =>
    if line.head? = some 35 then readLines lines c
    else
      match lineVerdict line with
      | .undefined => .undefined
      | .refused => .refused c
      | .accepted f => readLines lines (f c)

/-- The index behind the end of a text at which the loop of `parse_config` reads. -/
def behind (text : Bytes) : ℕ :=
  if text.getLast? = some lf then text.length else text.length + 1

/-- Whether the byte at this index can be read. -/
def Peeked (e : ConfigEnv) (i : ℕ) (readable : Bool) : Prop :=
  ∃ trace, Option.isSome (α := UInt8) (e.answer trace (ConfigCall.peek i)) = readable

/-- How `parse_config` ends, if the byte at `i` is what it reads behind the end. -/
def Reading.Reached (r : Reading) (e : ConfigEnv) (i : ℕ) (w : ConfigWorld) (ret : FtpRet)
    (w' : ConfigWorld) : Prop :=
  match r with
  | .undefined => False
  | .refused c => ret = .error ∧ w'.st = c ∧ peeksOf w'.trace = peeksOf w.trace
  | .finished c => Peeked e i true ∧ ret = .success ∧ w'.st = c ∧
      peeksOf w'.trace = peeksOf w.trace ++ [i]

/-- How it ends early. -/
def Reading.Faulted (r : Reading) (e : ConfigEnv) (i : ℕ) (w : ConfigWorld) (k : Halt)
    (w' : ConfigWorld) : Prop :=
  match r with
  | .undefined => k = .fault ∧ peeksOf w'.trace = peeksOf w.trace
  | .refused _ => False
  | .finished _ => Peeked e i false ∧ k = .fault ∧ peeksOf w'.trace = peeksOf w.trace ++ [i]

theorem Inside.calls {n : ℕ} (h : Inside n w w') : w'.trace.length ≤ w.trace.length + n := by
  obtain ⟨run, ht, hlen, -⟩ := h.grown
  rw [ht, List.length_append]
  exact Nat.add_le_add_left hlen _

theorem Inside.peeks {n : ℕ} (h : Inside n w w') : peeksOf w'.trace = peeksOf w.trace := by
  obtain ⟨run, ht, -, hpeeks⟩ := h.grown
  rw [ht, peeksOf, List.filterMap_append, ← peeksOf, ← peeksOf, hpeeks, List.append_nil]

theorem readStart_inside {buf : Bytes} {i : ℕ} {c : UInt8} (h : buf[i]? = some c) :
    readStart buf i = pure c := by
  rw [readStart.eq_def, h]

theorem readStart_behind {buf : Bytes} {i : ℕ} (h : buf.length ≤ i) :
    readStart buf i = (do
      match ← ask (.peek i) with
      | some c => return c
      | none => Proc.fault) := by
  rw [readStart.eq_def]
  generalize hc : buf[i]? = c
  obtain rfl : c = none := hc.symm.trans (List.getElem?_eq_none h)
  rfl

/-- The last round reads behind the end. -/
theorem parseLines_end (hlt : w.trace.length < e.limit) {buf : Bytes}
    {start next : ℕ} (hstart : start < buf.length) (hnext : buf.length ≤ next) (fuel : ℕ)
    (tmp : Bytes) :
    wp e (parseLines buf buf.length (fuel + 2) start next tmp)
      ((Reading.finished w.st).Reached e next w)
      ((Reading.finished w.st).Faulted e next w) w := by
  have hdrop : buf.drop next = [] := List.drop_eq_nil_iff.2 hnext
  rw [parseLines, if_pos (by exact_mod_cast hstart)]
  dsimp only
  rw [readStart_behind hnext, hdrop, wp_bind, wp_bind]
  refine wp_ask_of_lt hlt fun r hr ↦ ?_
  have hpeek : ∀ b, Option.isSome (α := UInt8) r = b → Peeked e next b := fun b hb ↦
    ⟨w.trace, hr ▸ hb⟩
  have hpeeks : peeksOf (w.trace ++ [.call (ConfigCall.peek next) r]) =
      peeksOf w.trace ++ [next] := by
    rw [peeksOf, List.filterMap_append]
    rfl
  rcases r with - | c
  · exact ⟨hpeek _ rfl, rfl, hpeeks⟩
  · have hout : ¬(next : ℤ) < buf.length := by omega
    simp only [List.takeWhile_nil, decide_true, Bool.true_or, if_true, wp_pure, parseLines,
      if_neg hout]
    exact ⟨hpeek _ rfl, rfl, rfl, hpeeks⟩

/-! ### Room for a line -/

/-- The buffer holds the line and its NUL. -/
theorem growLine_wp (hgrants : Granting e) (hlt : w.trace.length < e.limit) (tmp : Bytes)
    (linelen : ℕ) :
    wp e (growLine tmp linelen)
      (fun r w' ↦ w'.st = w.st ∧ Inside 1 w w' ∧ ∃ tmp', r = some tmp' ∧ linelen < tmp'.length)
      H w := by
  rw [growLine]
  split_ifs with hle
  · rw [wp_bind]
    refine wp_ask_of_lt hlt fun r hr ↦ ?_
    obtain ⟨block, hblock⟩ := hgrants.realloc w.trace (linelen + 1)
    obtain rfl : r = some block := hr ▸ hblock
    refine ⟨rfl, ⟨_, rfl, le_rfl, rfl⟩, _, rfl, ?_⟩
    rw [List.length_append, List.length_drop, block.2]
    omega
  · exact ⟨rfl, .refl _ rfl, tmp, rfl, not_le.1 hle⟩

theorem storeAll_line {tmp line : Bytes} (h : line.length < tmp.length) :
    ∃ junk, storeAll tmp 0 (line ++ [nul]) = some (line ++ nul :: junk) := by
  refine ⟨tmp.drop (line.length + 1), ?_⟩
  rw [storeAll, if_pos (by simpa using Nat.succ_le_of_lt h)]
  simp

/-! ### The lines of the file -/

theorem Reading.Reached.of_peeks {r : Reading} {i : ℕ} {ret : FtpRet} {w₁ : ConfigWorld}
    (h : r.Reached e i w₁ ret w') (hpeeks : peeksOf w₁.trace = peeksOf w.trace) :
    r.Reached e i w ret w' := by
  rcases r with - | c | c
  · exact h
  · exact ⟨h.1, h.2.1, h.2.2.trans hpeeks⟩
  · exact ⟨h.1, h.2.1, h.2.2.1, by rw [h.2.2.2, hpeeks]⟩

theorem Reading.Faulted.of_peeks {r : Reading} {i : ℕ} {k : Halt} {w₁ : ConfigWorld}
    (h : r.Faulted e i w₁ k w') (hpeeks : peeksOf w₁.trace = peeksOf w.trace) :
    r.Faulted e i w k w' := by
  rcases r with - | c | c
  · exact ⟨h.1, h.2.trans hpeeks⟩
  · exact h
  · exact ⟨h.1, h.2.1, by rw [h.2.2, hpeeks]⟩

/-- A round for a line that is no comment, and the rest of the file. -/
theorem line_wp (hgrants : Granting e) (tmp : Bytes) {line : Bytes}
    {lines : List Bytes} (hcomment : line.head? ≠ some 35) {i : ℕ}
    {rest : Bytes → ConfigProgram FtpRet}
    (hlimit : w.trace.length + 2 * lines.length + 2 < e.limit)
    (hrest : ∀ (tmp : Bytes) (w₁ : ConfigWorld), w₁.trace.length + 2 * lines.length < e.limit →
      wp e (rest tmp) ((readLines lines w₁.st).Reached e i w₁)
        ((readLines lines w₁.st).Faulted e i w₁) w₁) :
    wp e (do
      match ← growLine tmp line.length with
      | none => return .error
      | some tmp =>
        match storeAll tmp 0 (line ++ [nul]) with
        | none => Proc.fault
        | some tmp =>
          if (← parseAttribute tmp) ≠ .success then
            return .error
          rest tmp)
      ((readLines (line :: lines) w.st).Reached e i w)
      ((readLines (line :: lines) w.st).Faulted e i w) w := by
  rw [readLines, if_neg hcomment, wp_bind]
  refine wp_mono (growLine_wp hgrants (by omega) tmp line.length) ?_ fun _ _ h ↦ h
  rintro _ w₁ ⟨hst₁, h₁, tmp, rfl, hroom⟩
  obtain ⟨junk, hstore⟩ := storeAll_line hroom
  have hcalls₁ := h₁.calls
  dsimp only
  rw [hstore]
  dsimp only
  rw [wp_bind]
  refine wp_mono (parseAttribute_wp hgrants (by omega) line junk) ?_ ?_
  · intro ret w₂
    rcases lineVerdict line with - | - | f
    · exact False.elim
    · rintro ⟨hret, hst₂, h₂⟩
      rw [if_pos hret]
      exact ⟨rfl, hst₂.trans hst₁, h₂.peeks.trans h₁.peeks⟩
    · rintro ⟨rfl, hst₂, h₂⟩
      have hcalls₂ := h₂.calls
      have hst : f w.st = w₂.st := by rw [hst₂, hst₁]
      have hpeeks := h₂.peeks.trans h₁.peeks
      rw [if_neg (not_not.2 rfl)]
      dsimp only
      rw [hst]
      exact wp_mono (hrest _ w₂ (by omega)) (fun _ _ h ↦ h.of_peeks hpeeks)
        fun _ _ h ↦ h.of_peeks hpeeks
  · rintro k w₂ ⟨hverdict, hk, h₂⟩
    rw [hverdict]
    exact ⟨hk, h₂.peeks.trans h₁.peeks⟩

/-- What is left behind a line: more lines, or the end of the file. -/
theorem splitOn_drop {buf : Bytes} {next : ℕ} (hnext : next < buf.length) :
    let line := (buf.drop next).takeWhile (· ≠ lf)
    ∃ lines, (buf.drop next).splitOn lf = line :: lines ∧
      ((next + line.length + 1 < buf.length ∧
          (buf.drop (next + line.length + 1)).splitOn lf = lines) ∨
        (buf.length ≤ next + line.length + 1 ∧ next + line.length + 1 = behind buf ∧
          ∀ c, readLines lines c = .finished c)) := by
  intro line
  have hlen : (buf.drop next).length = buf.length - next := List.length_drop ..
  have hlast : (buf.drop next).getLast? = buf.getLast? := by
    rw [List.getLast?_drop, if_neg (not_le.2 hnext)]
  by_cases hmem : lf ∈ buf.drop next
  · obtain ⟨front, rest, hsplit, hfront⟩ := List.eq_append_cons_of_mem hmem
    have hne : ∀ c ∈ front, decide (c ≠ lf) = true := fun c hc ↦
      decide_eq_true fun heq ↦ hfront (heq ▸ hc)
    have hline : line = front := by
      show (buf.drop next).takeWhile _ = front
      rw [hsplit, List.takeWhile_append_of_pos hne, List.takeWhile_cons_of_neg (by simp),
        List.append_nil]
    have hdrop : buf.drop (next + line.length + 1) = rest := by
      rw [Nat.add_assoc, ← List.drop_drop, hsplit, hline]
      simp
    have hlines : (buf.drop next).splitOn lf = line :: rest.splitOn lf := by
      rw [hsplit, hline, List.splitOn_append_cons_self_of_not_mem hfront]
    have hrestlen := congrArg List.length hsplit
    rw [hlen, List.length_append, List.length_cons, ← hline] at hrestlen
    refine ⟨_, hlines, ?_⟩
    rcases rest with - | ⟨c, rest⟩
    · have hlf : buf.getLast? = some lf := by
        rw [← hlast, hsplit]
        simp
      have hend : next + line.length + 1 = buf.length := by
        rw [List.length_nil] at hrestlen
        omega
      exact .inr ⟨hend.ge, by rw [behind, if_pos hlf, hend], fun c ↦ rfl⟩
    · exact .inl ⟨by rw [List.length_cons] at hrestlen; omega, by rw [hdrop]⟩
  · have hline : line = buf.drop next := List.takeWhile_eq_self_iff.2 fun c hc ↦
      decide_eq_true fun heq ↦ hmem (heq ▸ hc)
    have hlines : (buf.drop next).splitOn lf = [line] := by
      rw [hline, List.splitOn_eq_singleton hmem]
    have hend : next + line.length + 1 = buf.length + 1 := by
      rw [hline, hlen]
      omega
    have hlf : ¬buf.getLast? = some lf := by
      rw [← hlast]
      exact fun h ↦ hmem (List.mem_of_getLast? h)
    exact ⟨[], hlines, .inr ⟨by omega, by rw [behind, if_neg hlf, hend], fun _ ↦ rfl⟩⟩

theorem parseLines_wp (hgrants : Granting e) {buf : Bytes} (fuel : ℕ)
    {start next : ℕ} (tmp : Bytes) (hstart : start < buf.length) (hnext : next < buf.length)
    (hfuel : buf.length - next + 2 ≤ fuel)
    (hlimit : w.trace.length + 2 * ((buf.drop next).splitOn lf).length < e.limit) :
    wp e (parseLines buf buf.length fuel start next tmp)
      ((readLines ((buf.drop next).splitOn lf) w.st).Reached e (behind buf) w)
      ((readLines ((buf.drop next).splitOn lf) w.st).Faulted e (behind buf) w) w := by
  induction fuel generalizing start next tmp w with
  | zero => omega
  | succ fuel ih =>
    obtain ⟨lines, hlines, hrest⟩ := splitOn_drop hnext
    set line := (buf.drop next).takeWhile (· ≠ lf) with hline
    -- the rest of the file, from the line behind this one: by induction, or it is at its end
    have hcontinue : ∀ (tmp : Bytes) (w₁ : ConfigWorld),
        w₁.trace.length + 2 * lines.length < e.limit →
        wp e (parseLines buf buf.length fuel next (next + line.length + 1) tmp)
          ((readLines lines w₁.st).Reached e (behind buf) w₁)
          ((readLines lines w₁.st).Faulted e (behind buf) w₁) w₁ := by
      intro tmp w₁ hlimit₁
      rcases hrest with ⟨hlt, rfl⟩ | ⟨hle, hbehind, hfinished⟩
      · exact ih tmp hnext hlt (by omega) hlimit₁
      · obtain ⟨k, rfl⟩ : ∃ k, fuel = k + 2 := ⟨fuel - 2, by omega⟩
        rw [hfinished, hbehind]
        exact parseLines_end (by omega) hnext (hbehind ▸ hle) k tmp
    rw [hlines] at hlimit ⊢
    rw [List.length_cons] at hlimit
    rw [parseLines, if_pos (by exact_mod_cast hstart)]
    dsimp only
    rw [readStart_inside (List.getElem?_eq_getElem hnext), ← hline, wp_bind, wp_pure]
    have hhead : line.head? = some 35 ↔ buf[next] = 35 := by
      rw [hline, List.drop_eq_getElem_cons hnext, List.takeWhile_cons]
      by_cases hlf : buf[next] = lf
      · simp [hlf, lf]
      · simp [hlf]
    -- comments and empty lines are passed over, and the others are what `line_wp` is about
    by_cases hcomment : line.head? = some 35
    · rw [if_pos (by simp [hhead.1 hcomment]), readLines, if_pos hcomment]
      exact hcontinue tmp w (by omega)
    by_cases hempty : line = []
    · have hverdict : lineVerdict line = .accepted id := by
        rw [hempty]
        rfl
      rw [if_pos (by simp [hempty]), readLines, if_neg hcomment, hverdict]
      exact hcontinue tmp w (by omega)
    · rw [if_neg (by simp [hempty, ← hhead, hcomment])]
      exact line_wp hgrants tmp hcomment (by omega) hcontinue

/-- **How `parse_config` ends.** -/
theorem parseConfig_wp (hgrants : Granting e) {text : Bytes} (htext : text ≠ [])
    (hlimit : w.trace.length + 2 * (text.splitOn lf).length + 1 < e.limit) :
    wp e (parseConfig text text.length)
      ((readLines (text.splitOn lf) w.st).Reached e (behind text) w)
      ((readLines (text.splitOn lf) w.st).Faulted e (behind text) w) w := by
  have hpos : 0 < text.length := List.length_pos_iff.2 htext
  rw [parseConfig, wp_bind]
  refine wp_ask_of_lt (by omega) fun r hr ↦ ?_
  obtain ⟨block, hblock⟩ := hgrants.malloc w.trace 81
  obtain rfl : r = some block := hr ▸ hblock
  have hpeeks : peeksOf (w.trace ++ [.call (ConfigCall.malloc 81) (some block)]) =
      peeksOf w.trace := by
    rw [peeksOf, List.filterMap_append, ← peeksOf]
    exact List.append_nil _
  have hlines := parseLines_wp hgrants (w := ⟨w.st, w.trace ++ [.call (.malloc 81) (some block)]⟩)
    (text.length + 3) block.1 hpos hpos (by omega) (by simp; omega)
  exact wp_mono hlines (fun _ _ h ↦ h.of_peeks hpeeks) fun _ _ h ↦ h.of_peeks hpeeks

/-! ### Inside of the file -/

/-- A run that returns, and has read the file only where it is. A write outside of the buffer for a
line has no result. -/
def Contained (run : Outcome FtpRet × ConfigWorld) : Prop :=
  (∃ ret, run.1 = .ret ret) ∧ peeksOf run.2.trace = []

/-- A line that is taken: a comment, or one that changes the configuration. -/
def Taken (line : Bytes) : Prop := line.head? = some 35 ∨ ∃ f, lineVerdict line = .accepted f

/-- A line that is refused. -/
def Refused (line : Bytes) : Prop := line.head? ≠ some 35 ∧ lineVerdict line = .refused

/-- The first line that is not taken is refused. -/
def StopsAtLine (lines : List Bytes) : Prop :=
  ∃ before line after, lines = before ++ line :: after ∧ (∀ l ∈ before, Taken l) ∧ Refused line

theorem stopsAtLine_cons {line : Bytes} {lines : List Bytes} :
    StopsAtLine (line :: lines) ↔ Refused line ∨ Taken line ∧ StopsAtLine lines := by
  constructor
  · rintro ⟨before, line', after, heq, hbefore, hline⟩
    rcases before with - | ⟨l, before⟩
    · obtain ⟨rfl, rfl⟩ := List.cons.inj heq
      exact .inl hline
    · obtain ⟨rfl, rfl⟩ := List.cons.inj heq
      obtain ⟨htaken, hbefore⟩ := List.forall_mem_cons.1 hbefore
      exact .inr ⟨htaken, before, line', after, rfl, hbefore, hline⟩
  · rintro (hline | ⟨htaken, before, line', after, rfl, hbefore, hline⟩)
    · exact ⟨[], line, lines, rfl, by simp, hline⟩
    · exact ⟨line :: before, line', after, rfl, List.forall_mem_cons.2 ⟨htaken, hbefore⟩, hline⟩

/-- Then, and only then, is the file not read to its end. -/
theorem stopsAtLine_iff {lines : List Bytes} {c : FullConfig} :
    StopsAtLine lines ↔ ∃ c', readLines lines c = .refused c' := by
  induction lines generalizing c with
  | nil =>
    refine iff_of_false ?_ (by simp [readLines])
    rintro ⟨before, line, after, heq, -⟩
    simp at heq
  | cons line lines ih =>
    rw [stopsAtLine_cons, readLines]
    by_cases hcomment : line.head? = some 35
    · have hnot : ¬Refused line := fun h ↦ h.1 hcomment
      have htaken : Taken line := .inl hcomment
      rw [if_pos hcomment, ← ih]
      simp only [hnot, htaken, false_or, true_and]
    rw [if_neg hcomment]
    rcases hverdict : lineVerdict line with - | - | f
    · have hnot : ¬Refused line := by simp [Refused, hverdict]
      have hnot' : ¬Taken line := by simp [Taken, hcomment, hverdict]
      simp only [hnot, hnot', false_and, or_self, reduceCtorEq, exists_false]
    · exact iff_of_true (.inl ⟨hcomment, hverdict⟩) ⟨c, rfl⟩
    · have hnot : ¬Refused line := by simp [Refused, hverdict]
      have htaken : Taken line := .inr ⟨f, hverdict⟩
      rw [← ih (c := f c)]
      simp only [hnot, htaken, false_or, true_and]

/-- **Where `parse_config` stays inside of the file.** It returns, reads the file only where it is
and writes only where the buffer is, if and only if one of the lines is refused before it comes to
the end. -/
theorem parseConfig_contained (text : Bytes) (htext : text ≠ []) (c : FullConfig) (e : ConfigEnv)
    (hgrants : Granting e) (hlimit : 2 * (text.splitOn lf).length + 1 < e.limit) :
    Contained (parseConfig text text.length e (World.start c)) ↔ StopsAtLine (text.splitOn lf) := by
  have hwp := parseConfig_wp (w := World.start c) hgrants htext
    (by simpa [World.start] using hlimit)
  rw [stopsAtLine_iff (c := c)]
  rcases hrun : parseConfig text text.length e (World.start c) with ⟨ret | k, w'⟩
  · have h : (readLines (text.splitOn lf) c).Reached e (behind text) (World.start c) ret w' :=
      wp_ret hwp hrun
    rcases hread : readLines (text.splitOn lf) c with - | c' | c'
    · rw [hread] at h
      exact h.elim
    · rw [hread] at h
      exact iff_of_true ⟨⟨ret, rfl⟩, h.2.2⟩ ⟨c', rfl⟩
    · rw [hread] at h
      refine iff_of_false (fun hc ↦ ?_) (by simp)
      have hpeeks : peeksOf w'.trace = [] := hc.2
      simp [h.2.2.2] at hpeeks
  · have h : (readLines (text.splitOn lf) c).Faulted e (behind text) (World.start c) k w' :=
      wp_halt hwp hrun
    refine iff_of_false (fun hc ↦ ?_) ?_
    · obtain ⟨ret, hret⟩ := hc.1
      exact absurd hret (by simp)
    · rintro ⟨c', hread⟩
      rw [hread] at h
      exact h

/-- Such a machine. -/
theorem grantingEnv_granting : Granting grantingEnv where
  malloc _ size := ⟨⟨List.replicate size nul, List.length_replicate⟩, rfl⟩
  realloc _ size := ⟨⟨List.replicate size nul, List.length_replicate⟩, rfl⟩
  strdup _ _ := rfl

theorem parseConfig_contained_bad :
    let text := ofString "MaxClients = 5\nMaxClient = 6\n"
    Contained (parseConfig text text.length grantingEnv (World.start FullConfig.defaults)) ↔
      StopsAtLine (text.splitOn lf) :=
  parseConfig_contained (ofString "MaxClients = 5\nMaxClient = 6\n") (by decide)
    FullConfig.defaults grantingEnv grantingEnv_granting (by decide)

/-- Of a file that is a single comment, the byte behind the end is read. -/
theorem parseConfig_overreads :
    let text := ofString "#\n"
    let run := parseConfig text text.length grantingEnv (World.start FullConfig.defaults)
    run.1 = .ret .success ∧ peeksOf run.2.trace = [text.length] ∧ ¬Contained run := by
  have hpeeks : peeksOf (parseConfig (ofString "#\n") (ofString "#\n").length grantingEnv
      (World.start FullConfig.defaults)).2.trace = [(ofString "#\n").length] := by decide +kernel
  refine ⟨by decide +kernel, hpeeks, fun h ↦ ?_⟩
  exact absurd (hpeeks.symm.trans h.2) (by decide)

end FtpServer
