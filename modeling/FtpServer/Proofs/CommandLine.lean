import FtpServer.Library.Lines
import FtpServer.Model.Server

/-!
# The command line buffer

What `parse_cmd` makes of the first line in the buffer, and what the other functions that work on
the buffer leave of it. The line itself is cut up in place and edited again by the handlers, but
none of them touches the terminator they put behind it, nor anything behind that (`LineEnds`); so
`remove_cmd` finds the rest of the stream as it was received.

* `splitCommand` is the meaning of a line, and `parseLine_spec` says that `parse_cmd` computes it,
  with every pointer where it should be.
* `removeLine_spec` says the same of `remove_cmd`.
* `LineEnds` is kept by `trim_whitespace` (`LineEnds.trimWhitespace`), and by all that the handlers
  do to their argument.
-/

namespace FtpServer

open CString

/-! ### What a line says -/

/-- A line without the CR that may stand before its LF. -/
def stripCr (l : Bytes) : Bytes := if l.getLast? = some cr then l.dropLast else l

/-- A line, less its LF, as a command: the verb, and the argument. -/
def splitCommand (l : Bytes) : Bytes × Bytes :=
  let s := cstr (stripCr l)
  (s.takeWhile (· ≠ space), ((s.dropWhile (· ≠ space)).drop 1).dropWhile isspace)

example : splitCommand (ofString "CWD  a b\r") = (ofString "CWD", ofString "a b") := by decide

/-- A line is not longer without its CR. -/
theorem length_stripCr_le (l : Bytes) : (stripCr l).length ≤ l.length := by
  rw [stripCr]
  split_ifs
  · rw [List.length_dropLast]
    omega
  · exact le_rfl

/-! ### The terminator, and what is behind it -/

/-- In the buffer, a NUL at index `n` is followed by `post`. -/
structure LineEnds (buf : Bytes) (n : ℕ) (post : Bytes) : Prop where
  terminator : buf[n]? = some nul
  behind : buf.drop (n + 1) = post

/-- A text, its terminator, and what follows. -/
theorem lineEnds_append (l post : Bytes) : LineEnds (l ++ nul :: post) l.length post := by
  refine ⟨by simp, ?_⟩
  rw [← List.drop_drop, List.drop_left, List.drop_one, List.tail_cons]

namespace LineEnds

variable {buf buf' post : Bytes} {n i j : ℕ} (h : LineEnds buf n post)
include h

/-- The terminator is in the buffer. -/
theorem lt_length : n < buf.length := (List.getElem?_eq_some_iff.1 h.terminator).1

/-- And so is what is behind it. -/
theorem length : buf.length = n + 1 + post.length := by
  have := h.lt_length
  rw [← h.behind, List.length_drop]
  omega

/-- The line may be cut short. -/
theorem set (hi : i ≤ n) : LineEnds (buf.set i nul) n post := by
  constructor
  · rw [List.getElem?_set]
    have := h.lt_length
    split_ifs with heq
    · rfl
    · omega
    · exact h.terminator
  · rw [List.drop_set_of_lt (by omega), h.behind]

/-- From any index on, the terminator is as far as it was. -/
theorem getElem?_drop (hi : i ≤ n) : (buf.drop i)[n - i]? = some nul := by
  rw [List.getElem?_drop, Nat.add_sub_cancel' hi, h.terminator]

/-- A scan that stops at a NUL stays in the line, and succeeds. -/
theorem exists_scanForward {p : UInt8 → Bool} (hp : p nul = false) (hi : i ≤ n) :
    ∃ j, scanForward p buf i = some j ∧ i ≤ j ∧ j ≤ n := by
  have hle : ((buf.drop i).takeWhile p).length ≤ n - i :=
    length_takeWhile_le (h.getElem?_drop hi) hp
  have hlt := h.lt_length
  refine ⟨i + ((buf.drop i).takeWhile p).length, ?_, by omega, by omega⟩
  rw [scanForward, if_pos (by omega)]

/-- A scan that stops at NUL does not get behind the terminator. -/
theorem scanForward_le {p : UInt8 → Bool} (hp : p nul = false) (hi : i ≤ n)
    (hj : scanForward p buf i = some j) : i ≤ j ∧ j ≤ n := by
  obtain ⟨k, hk, hle⟩ := h.exists_scanForward hp hi
  obtain rfl : k = j := by simpa [hk] using hj
  exact hle

end LineEnds

/-! ### `parse_cmd` -/

/-- A C string ends at its terminator. -/
theorem cstr_append_nul {s : Bytes} (h : nul ∉ s) (rest : Bytes) : cstr (s ++ nul :: rest) = s :=
  cstr_append_zero h rest

/-- A scan drops what it goes over. -/
theorem drop_scanForward {p : UInt8 → Bool} {buf : Bytes} {i j : ℕ}
    (h : scanForward p buf i = some j) : buf.drop j = (buf.drop i).dropWhile p := by
  obtain ⟨-, rfl⟩ := by simpa [scanForward] using h
  rw [← List.drop_drop]
  calc (buf.drop i).drop ((buf.drop i).takeWhile p).length
      = ((buf.drop i).takeWhile p ++ (buf.drop i).dropWhile p).drop
          ((buf.drop i).takeWhile p).length := by rw [List.takeWhile_append_dropWhile]
    _ = (buf.drop i).dropWhile p := List.drop_left

/-- Leading white space is skipped up to the end of the string. -/
theorem dropWhile_append_nul {s : Bytes} (h : nul ∉ s) (rest : Bytes) :
    (s ++ nul :: rest).dropWhile (fun c ↦ c ≠ nul && isspace c) =
      s.dropWhile isspace ++ nul :: rest := by
  induction s with
  | nil => simp
  | cons c s ih =>
    obtain ⟨hc, hs⟩ := not_or.1 (List.mem_cons.not.1 h)
    by_cases hspace : isspace c = true
    · simpa [hspace, Ne.symm hc] using ih hs
    · simp [hspace]

/-- The buffer once the end of the line is marked: it shows the line without its CR. -/
theorem exists_set_cr (l post : Bytes) :
    ∃ rest, (if l.length ≠ 0 && (l ++ nul :: post)[l.length - 1]? = some cr then
        (l ++ nul :: post).set (l.length - 1) nul
      else l ++ nul :: post) = stripCr l ++ nul :: rest := by
  rcases List.eq_nil_or_concat' l with rfl | ⟨l', c, rfl⟩
  · exact ⟨post, rfl⟩
  · by_cases hc : c = cr
    · refine ⟨nul :: post, ?_⟩
      simp [stripCr, hc]
    · refine ⟨post, ?_⟩
      simp [stripCr, hc]

/-- The buffer shows the verb, and from the index it yields the argument. -/
theorem splitWord_spec {s : Bytes} (hs : nul ∉ s) {rest : Bytes} {n : ℕ} {post : Bytes}
    (hends : LineEnds (s ++ nul :: rest) n post) (hle : s.length ≤ n) :
    ∃ buf j, splitWord (s ++ nul :: rest) n = (buf, j) ∧ LineEnds buf n post ∧ j ≤ n ∧
      cstr buf = s.takeWhile (· ≠ space) ∧
      ∃ rest', buf.drop j = (s.dropWhile (· ≠ space)).drop 1 ++ nul :: rest' := by
  have hcstr : cstr (s ++ nul :: rest) = s := cstr_append_nul hs rest
  by_cases hspace : space ∈ s
  · obtain ⟨verb, argument, rfl, hverb⟩ := List.eq_append_cons_of_mem hspace
    have hpos : ∀ c ∈ verb, decide (c ≠ space) = true := fun c hc ↦
      decide_eq_true fun heq ↦ hverb (heq ▸ hc)
    have hbuf : (verb ++ space :: argument ++ nul :: rest).set verb.length nul =
        verb ++ nul :: (argument ++ nul :: rest) := by simp
    have hword := @findIdx?_eq_length verb argument space hverb
    refine ⟨_, _, by rw [splitWord, hcstr, hword], hends.set (by simp at hle; omega),
      by simp at hle; omega, ?_, rest, ?_⟩
    · rw [hbuf, cstr_append_nul (fun h ↦ hs (List.mem_append_left _ h)),
        List.takeWhile_append_of_pos hpos, List.takeWhile_cons_of_neg (by simp), List.append_nil]
    · rw [hbuf, List.dropWhile_append_of_pos hpos, List.dropWhile_cons_of_neg (by simp),
        ← List.drop_drop, List.drop_left]
      simp
  · have hnone : s.findIdx? (· = space) = none := by
      rw [List.findIdx?_eq_none_iff]
      exact fun c hc ↦ decide_eq_false fun heq ↦ hspace (heq ▸ hc)
    have hall : ∀ c ∈ s, decide (c ≠ space) = true := fun c hc ↦
      decide_eq_true fun heq ↦ hspace (heq ▸ hc)
    have hdrop := List.drop_eq_getElem_cons hends.lt_length
    have hnul := (List.getElem?_eq_some_iff.1 hends.terminator).2
    refine ⟨_, _, by rw [splitWord, hcstr, hnone], hends, le_rfl, ?_, post, ?_⟩
    · rw [hcstr, List.takeWhile_eq_self_iff.2 hall]
    · rw [hdrop, hnul, hends.behind, List.dropWhile_eq_nil_iff.2 hall]
      rfl

/-- **What `parse_cmd` does** to a buffer that starts with the line `l`. -/
theorem parseLine_spec (l post : Bytes) :
    ∃ buf j, parseLine (l ++ lf :: post) l.length = some (buf, j) ∧ LineEnds buf l.length post ∧
      j ≤ l.length ∧ (cstr buf, cstr (buf.drop j)) = splitCommand l := by
  have hset : (l ++ lf :: post).set l.length nul = l ++ nul :: post := by simp
  obtain ⟨rest, hcr⟩ := exists_set_cr l post
  have hends : LineEnds (stripCr l ++ nul :: rest) l.length post := by
    rw [← hcr]
    split_ifs
    · exact (lineEnds_append l post).set (Nat.sub_le _ _)
    · exact lineEnds_append l post
  have hcstr : cstr (stripCr l ++ nul :: rest) = cstr (stripCr l) := cstr_append_zero' _ _
  have hlen : (cstr (stripCr l)).length ≤ l.length :=
    (cstr_length_le _).trans (length_stripCr_le l)
  -- what is behind the first NUL does not matter
  obtain ⟨rest', hbuf⟩ : ∃ rest', stripCr l ++ nul :: rest = cstr (stripCr l) ++ nul :: rest' := by
    rw [← hcstr]
    exact exists_eq_cstr_append (List.mem_append_right _ List.mem_cons_self)
  rw [hbuf] at hends
  obtain ⟨buf₁, i, hword, hends₁, hi, hverb, argument, hargument⟩ :=
    splitWord_spec (zero_not_mem_cstr _) hends hlen
  obtain ⟨j, hscan, -, hj⟩ :=
    hends₁.exists_scanForward (p := fun c ↦ c ≠ nul && isspace c) (by simp) hi
  have hnul : nul ∉ ((cstr (stripCr l)).dropWhile (· ≠ space)).drop 1 := fun hmem ↦
    zero_not_mem_cstr _ ((List.dropWhile_sublist _).subset (List.mem_of_mem_drop hmem))
  refine ⟨buf₁, j, ?_, hends₁, hj, ?_⟩
  · simp only [parseLine, hset, hcr, hbuf, hword, hscan, Option.map_some]
  · rw [drop_scanForward hscan, hargument, dropWhile_append_nul hnul, hverb, splitCommand,
      cstr_append_nul (fun hmem ↦ hnul ((List.dropWhile_sublist _).subset hmem))]

/-! ### The handlers -/

/-- A scan backwards ends no further than it began. -/
theorem scanBackward_le {p : UInt8 → Bool} {buf : Bytes} {i j : ℕ}
    (h : scanBackward p buf i = some j) : j ≤ i := by
  induction i with
  | zero =>
    rw [scanBackward] at h
    split at h
    · cases h
    · split_ifs at h
      obtain rfl : 0 = j := by simpa using h
      exact le_rfl
  | succ i ih =>
    rw [scanBackward] at h
    split at h
    · cases h
    · split_ifs at h
      · exact (ih h).trans (Nat.le_succ i)
      · obtain rfl : i + 1 = j := by simpa using h
        exact le_rfl

/-- `trim_whitespace` stores its NUL in front of the terminator. -/
theorem LineEnds.trimWhitespace {buf buf' post : Bytes} {n i j : ℕ} (h : LineEnds buf n post)
    (hi : i ≤ n) (ht : trimWhitespace buf i = some (buf', j)) : LineEnds buf' n post := by
  simp only [FtpServer.trimWhitespace, Option.bind_eq_bind, Option.bind_eq_some_iff,
    Option.pure_def] at ht
  obtain ⟨line, hline, stop, hstop, hrest⟩ := ht
  obtain ⟨-, hline_le⟩ := h.scanForward_le (by decide) hi hline
  obtain ⟨hle, hstop_le⟩ := h.scanForward_le (by simp) hline_le hstop
  split_ifs at hrest with heq
  · obtain ⟨rfl, -⟩ : buf = buf' ∧ line = j := by simpa using hrest
    exact h
  · simp only [Option.bind_eq_some_iff] at hrest
    obtain ⟨last, hlast, buf₁, hstore, hret⟩ := hrest
    obtain ⟨rfl, -⟩ : buf₁ = buf' ∧ line = j := by simpa using hret
    obtain ⟨-, rfl⟩ := store_eq_some.1 hstore
    have := scanBackward_le hlast
    exact h.set (by omega)

/-- The options of `LIST` are in front of the terminator. -/
theorem LineEnds.listOptionsLoop {buf post : Bytes} {n i j fuel : ℕ} {optA a : Bool}
    (h : LineEnds buf n post) (hi : i ≤ n)
    (hl : listOptionsLoop buf fuel i optA = some (j, a)) : j ≤ n := by
  induction fuel generalizing i optA with
  | zero => cases hl
  | succ fuel ih =>
    rw [FtpServer.listOptionsLoop] at hl
    rcases hc : buf[i]? with - | c
    · simp [hc] at hl
    simp only [hc] at hl
    split_ifs at hl with hminus
    · have hne : i ≠ n := by
        rintro rfl
        have := h.terminator.symm.trans hc
        simp [hminus, minus, nul] at this
      simp only [optionWord, Option.bind_eq_bind, Option.bind_eq_some_iff, Option.pure_def] at hl
      obtain ⟨⟨k, b⟩, ⟨stop, hstop, hword⟩, m, hskip, hl⟩ := hl
      obtain ⟨rfl, rfl⟩ := by simpa using hword
      obtain ⟨-, hstop_le⟩ := h.scanForward_le (by simp) (by omega) hstop
      obtain ⟨-, hskip_le⟩ := h.scanForward_le (by decide) hstop_le hskip
      exact ih hskip_le hl
    · obtain ⟨rfl, -⟩ : i = j ∧ optA = a := by simpa using hl
      exact hi

/-- Cutting them off leaves it where it is. -/
theorem LineEnds.parseListOptions {buf buf' post : Bytes} {n i j : ℕ} {optA : Bool}
    (h : LineEnds buf n post) (hi : i ≤ n)
    (hl : parseListOptions buf i = some (buf', j, optA)) : LineEnds buf' n post := by
  simp only [FtpServer.parseListOptions, Option.bind_eq_bind, Option.bind_eq_some_iff,
    Option.pure_def] at hl
  obtain ⟨k, hblank, ⟨m, a⟩, hloop, ⟨buf₁, i'⟩, htrim, hret⟩ := hl
  obtain ⟨rfl, -, -⟩ : buf₁ = buf' ∧ i' = j ∧ a = optA := by simpa using hret
  obtain ⟨-, hk⟩ := h.scanForward_le (by decide) hi hblank
  exact h.trimWhitespace (h.listOptionsLoop hk hloop) htrim

/-! ### What the handlers make of the argument -/

/-- A NUL more does not make a string longer. -/
theorem not_mem_cstr_set {buf : Bytes} {x : UInt8} {i k : ℕ} (h : x ∉ cstr (buf.drop i)) :
    x ∉ cstr ((buf.set k nul).drop i) := by
  rw [List.drop_set]
  split_ifs
  · exact h
  · generalize buf.drop i = b at h
    generalize k - i = n
    induction b generalizing n with
    | nil => simpa using h
    | cons c b ih =>
      rcases n with - | n
      · simp [cstr, nul]
      · by_cases hc : c = 0
        · simp [cstr, hc]
        · simp only [cstr, List.set_cons_succ, ne_eq, hc, not_false_eq_true, decide_true,
            List.takeWhile_cons_of_pos, List.mem_cons, not_or] at h ⊢
          exact ⟨h.1, ih h.2 n⟩

/-- Trimming writes one terminator at most. -/
theorem trimWhitespace_line {buf buf' : Bytes} {i j : ℕ}
    (h : trimWhitespace buf i = some (buf', j)) : buf' = buf ∨ ∃ k, buf' = buf.set k nul := by
  simp only [trimWhitespace, Option.bind_eq_bind, Option.bind_eq_some_iff, Option.pure_def] at h
  obtain ⟨line, -, stop, -, hrest⟩ := h
  split_ifs at hrest
  · obtain ⟨rfl, -⟩ : buf = buf' ∧ line = j := by simpa using hrest
    exact .inl rfl
  · simp only [Option.bind_eq_some_iff] at hrest
    obtain ⟨last, -, buf₁, hstore, hret⟩ := hrest
    obtain ⟨rfl, -⟩ : buf₁ = buf' ∧ line = j := by simpa using hret
    exact .inr ⟨last + 1, (store_eq_some.1 hstore).2⟩

/-- And so does cutting off the options. -/
theorem parseListOptions_line {buf buf' : Bytes} {i j : ℕ} {optA : Bool}
    (h : parseListOptions buf i = some (buf', j, optA)) :
    buf' = buf ∨ ∃ k, buf' = buf.set k nul := by
  simp only [parseListOptions, Option.bind_eq_bind, Option.bind_eq_some_iff, Option.pure_def] at h
  obtain ⟨k, -, ⟨m, a⟩, -, ⟨buf₁, i'⟩, htrim, hret⟩ := h
  obtain ⟨rfl, -, -⟩ : buf₁ = buf' ∧ i' = j ∧ a = optA := by simpa using hret
  exact trimWhitespace_line htrim

/-- A scan that passes no NUL stays inside of the string. -/
theorem mem_cstr_of_scanForward {p : UInt8 → Bool} (hp : p nul = false) {buf : Bytes} {i j : ℕ}
    (h : scanForward p buf i = some j) {x : UInt8} (hx : x ∈ cstr (buf.drop j)) :
    x ∈ cstr (buf.drop i) := by
  have hnul : nul ∉ (buf.drop i).takeWhile p := fun hmem ↦ by
    simpa [hp] using List.mem_takeWhile_imp hmem
  rw [← List.takeWhile_append_dropWhile (p := p) (l := buf.drop i), ← drop_scanForward h,
    cstr_append hnul]
  exact List.mem_append_right _ hx

/-- What is behind the options was in the line. -/
theorem mem_cstr_of_listOptionsLoop {buf : Bytes} {fuel i j : ℕ} {optA a : Bool}
    (h : listOptionsLoop buf fuel i optA = some (j, a)) {x : UInt8} (hx : x ∈ cstr (buf.drop j)) :
    x ∈ cstr (buf.drop i) := by
  induction fuel generalizing i optA with
  | zero => cases h
  | succ fuel ih =>
    rw [FtpServer.listOptionsLoop] at h
    rcases hc : buf[i]? with - | c
    · simp [hc] at h
    simp only [hc] at h
    split_ifs at h with hminus
    · simp only [optionWord, Option.bind_eq_bind, Option.bind_eq_some_iff, Option.pure_def] at h
      obtain ⟨⟨k, b⟩, ⟨stop, hstop, hword⟩, m, hskip, h⟩ := h
      obtain ⟨rfl, rfl⟩ := by simpa using hword
      have hmem := mem_cstr_of_scanForward (by simp) hstop
        (mem_cstr_of_scanForward (by decide) hskip (ih h))
      have hdrop : buf.drop i = c :: buf.drop (i + 1) := by
        obtain ⟨hlt, rfl⟩ := List.getElem?_eq_some_iff.1 hc
        exact List.drop_eq_getElem_cons hlt
      have hne : c ≠ 0 := by rw [hminus]; decide
      rw [hdrop, cstr, List.takeWhile_cons_of_pos (by simpa using hne)]
      exact List.mem_cons_of_mem _ hmem
    · obtain ⟨rfl, -⟩ : i = j ∧ optA = a := by simpa using h
      exact hx

/-- And is so when they are cut off. -/
theorem mem_cstr_of_parseListOptions {buf buf' : Bytes} {i j : ℕ} {optA : Bool}
    (h : parseListOptions buf i = some (buf', j, optA)) {x : UInt8}
    (hx : x ∈ cstr (buf'.drop j)) : x ∈ cstr (buf.drop i) := by
  simp only [parseListOptions, Option.bind_eq_bind, Option.bind_eq_some_iff, Option.pure_def] at h
  obtain ⟨k, hblank, ⟨m, a⟩, hloop, ⟨buf₁, i'⟩, htrim, hret⟩ := h
  obtain ⟨rfl, rfl, -⟩ : buf₁ = buf' ∧ i' = j ∧ a = optA := by simpa using hret
  have hline : x ∈ cstr (buf.drop i') := by
    rcases trimWhitespace_line htrim with rfl | ⟨n, rfl⟩
    · exact hx
    · by_contra hmem
      exact not_mem_cstr_set hmem hx
  have hscan : scanForward isblank buf m = some i' := by
    simp only [trimWhitespace, Option.bind_eq_bind, Option.bind_eq_some_iff, Option.pure_def]
      at htrim
    obtain ⟨line, hfirst, stop, -, hrest⟩ := htrim
    split_ifs at hrest
    · obtain ⟨-, rfl⟩ : buf = buf₁ ∧ line = i' := by simpa using hrest
      exact hfirst
    · simp only [Option.bind_eq_some_iff] at hrest
      obtain ⟨last, -, buf₂, -, hret⟩ := hrest
      obtain ⟨-, rfl⟩ : buf₂ = buf₁ ∧ line = i' := by simpa using hret
      exact hfirst
  exact mem_cstr_of_scanForward (by decide) hblank
    (mem_cstr_of_listOptionsLoop hloop (mem_cstr_of_scanForward (by decide) hscan hline))

/-! ### `remove_cmd` -/

/-- **What `remove_cmd` does**: what is dirty afterwards is what was behind the line. -/
theorem removeLine_spec {c : FtpCommand} {n : ℕ} {post : Bytes} (h : LineEnds c.line n post)
    (hlen : c.len = n + 1) (hle : c.len ≤ c.dirtyLen) (hline : c.dirtyLen ≤ c.line.length) :
    (removeLine c).line.length = c.line.length ∧
      (removeLine c).dirtyLen = c.dirtyLen - c.len ∧
      (removeLine c).line.take (removeLine c).dirtyLen = post.take (c.dirtyLen - c.len) := by
  have hlength := h.length
  rw [removeLine, FtpCommand.lineLen]
  split_ifs with heq
  · refine ⟨rfl, by simp [heq], ?_⟩
    simp [heq]
  · rw [hlen, h.behind]
    refine ⟨?_, rfl, ?_⟩
    · rw [List.length_append, List.length_drop]
      omega
    · exact List.take_append_of_le_length (by dsimp only; omega)

end FtpServer
