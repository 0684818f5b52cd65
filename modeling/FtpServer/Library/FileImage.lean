import FtpServer.Library.CString

/-!
# A file that is written through a descriptor

The contents of a regular file and the position of the one descriptor it is written through. A
write behind the end of the file fills the gap with zeros; a write of nothing does nothing.

Writing on where the last write ended is one longer write (`overwrite_append`). A writer that wants
its bytes from `start` on, and learns only after a while to move the descriptor there, has put what
it wrote early at the start of the file (`displaced`):

* whatever the file held, the bytes are where they belong if and only if `start` is there already,
  or nothing was early (`displaced_holds_iff`);
* where the file was emptied, but was to keep its first bytes, it looks as if it had kept them if
  and only if these are zeros and so is what was early (`displaced_behind_iff`).
-/

/-- A file, and where the next write goes. -/
structure OpenFile where
  contents : Bytes
  pos : ℕ
  deriving DecidableEq, Repr

namespace OpenFile

/-- The contents `s` after `bs` was written at `pos`. -/
def overwrite (s : Bytes) (pos : ℕ) (bs : Bytes) : Bytes :=
  if bs = [] then s
  else (s ++ List.replicate (pos - s.length) 0).take pos ++ bs ++ s.drop (pos + bs.length)

/-- The descriptor is set to a position. -/
def seek (f : OpenFile) (pos : ℕ) : OpenFile := { f with pos }

/-- Bytes are written at the position, which moves behind them. -/
def write (f : OpenFile) (bs : Bytes) : OpenFile where
  contents := overwrite f.contents f.pos bs
  pos := f.pos + bs.length

example : (write ⟨[1, 2, 3], 1⟩ [7]).contents = [1, 7, 3] := by decide

theorem overwrite_nil (s : Bytes) (pos : ℕ) : overwrite s pos [] = s := if_pos rfl

/-- A file ends no later than it did, or than what is written. -/
theorem length_overwrite_le (s : Bytes) (pos : ℕ) (bs : Bytes) :
    (overwrite s pos bs).length ≤ max s.length (pos + bs.length) := by
  rw [overwrite]
  split_ifs
  · exact le_max_left _ _
  · simp only [List.length_append, List.length_take, List.length_drop, List.length_replicate]
    omega

/-- What comes before the bytes written is as long as it has to be. -/
theorem length_padded (s : Bytes) (pos : ℕ) :
    ((s ++ List.replicate (pos - s.length) 0).take pos).length = pos := by
  rw [List.length_take, List.length_append, List.length_replicate]
  omega

/-- What was written is there. -/
theorem isPrefix_overwrite (s : Bytes) (pos : ℕ) (bs : Bytes) :
    bs <+: (overwrite s pos bs).drop pos := by
  rw [overwrite]
  split_ifs with hbs
  · exact hbs ▸ List.nil_prefix
  · rw [List.append_assoc, List.drop_left' (length_padded s pos)]
    exact List.prefix_append _ _

/-- Two writes, the second of which goes on where the first one ended, are one. -/
theorem overwrite_append (s : Bytes) (pos : ℕ) (a b : Bytes) :
    overwrite s pos (a ++ b) = overwrite (overwrite s pos a) (pos + a.length) b := by
  by_cases ha : a = []
  · simp [ha, overwrite_nil]
  by_cases hb : b = []
  · simp [hb, overwrite_nil]
  have hab : a ++ b ≠ [] := by simp [ha]
  have hpadded := length_padded s pos
  rw [overwrite, overwrite, overwrite, if_neg hab, if_neg ha, if_neg hb]
  generalize (s ++ List.replicate (pos - s.length) 0).take pos = front at hpadded
  have hlength : (front ++ a).length = pos + a.length := by rw [List.length_append, hpadded]
  have htake : (front ++ a ++ s.drop (pos + a.length) ++
      List.replicate (pos + a.length - (front ++ a ++ s.drop (pos + a.length)).length) 0).take
        (pos + a.length) = front ++ a := by
    rw [List.append_assoc, List.take_left' hlength]
  have hdrop : (front ++ a ++ s.drop (pos + a.length)).drop (pos + a.length + b.length) =
      s.drop (pos + (a ++ b).length) := by
    have hpast : (front ++ a).length ≤ pos + a.length + b.length := by omega
    rw [List.drop_append, List.drop_eq_nil_of_le hpast, List.nil_append, List.drop_drop, hlength,
      List.length_append]
    congr 1
    omega
  rw [htake, hdrop]
  simp

/-- A byte before those that were written is as it was. -/
theorem getElem?_overwrite_before {s : Bytes} {pos i : ℕ} (hi : i < pos) (hs : i < s.length)
    (bs : Bytes) : (overwrite s pos bs)[i]? = s[i]? := by
  rw [overwrite]
  split_ifs
  · rfl
  · have hfront : i < ((s ++ List.replicate (pos - s.length) 0).take pos).length := by
      rwa [length_padded]
    rw [List.append_assoc, List.getElem?_append_left hfront, List.getElem?_take_of_lt hi,
      List.getElem?_append_left hs]

/-- So is a byte behind them. -/
theorem getElem?_overwrite_behind {pos i : ℕ} {bs : Bytes} (hi : pos + bs.length ≤ i) (s : Bytes) :
    (overwrite s pos bs)[i]? = s[i]? := by
  rw [overwrite]
  split_ifs
  · rfl
  · have hfront := length_padded s pos
    generalize (s ++ List.replicate (pos - s.length) 0).take pos = front at hfront
    have hlength : (front ++ bs).length = pos + bs.length := by rw [List.length_append, hfront]
    rw [List.getElem?_append_right (hlength.trans_le hi), hlength, List.getElem?_drop]
    congr 1
    omega

/-- Into an empty file. -/
theorem overwrite_empty (bs : Bytes) : overwrite [] 0 bs = bs := by
  rw [overwrite]
  split_ifs with hbs
  · exact hbs.symm
  · simp

/-! ### Bytes that were written before the descriptor was moved -/

/-- The contents `s` after `early` was written at its start and `late` from `start + early.length`
on. -/
def displaced (s : Bytes) (start : ℕ) (early late : Bytes) : Bytes :=
  overwrite (overwrite s 0 early) (start + early.length) late

section Displaced

variable (s : Bytes) (start : ℕ) (early late : Bytes)

/-- More is written at the start. -/
theorem overwrite_early (bs : Bytes) :
    overwrite (displaced s start early []) early.length bs =
      displaced s start (early ++ bs) [] := by
  rw [displaced, displaced, overwrite_nil, overwrite_nil, overwrite_append, Nat.zero_add]

/-- More is written where it belongs. -/
theorem overwrite_late (bs : Bytes) :
    overwrite (displaced s start early late) (start + (early ++ late).length) bs =
      displaced s start early (late ++ bs) := by
  rw [displaced, displaced, overwrite_append, List.length_append, Nat.add_assoc]

/-- If the bytes belong at the start, nothing was early. -/
theorem displaced_zero : displaced s 0 early late = overwrite s 0 (early ++ late) := by
  rw [displaced, overwrite_append]

/-- Where nothing was early, there was one write. -/
theorem displaced_nil : displaced s start [] late = overwrite s start late := by
  rw [displaced, overwrite_nil, List.length_nil, Nat.add_zero]

end Displaced

/-- The last byte that was early is not where it belongs: that one was written by nobody. -/
theorem getElem?_displaced {s early : Bytes} {start : ℕ} (hstart : 0 < start) (hearly : early ≠ [])
    (hs : start + early.length - 1 < s.length) (late : Bytes) :
    (displaced s start early late)[start + early.length - 1]? = s[start + early.length - 1]? := by
  have hlength : 0 < early.length := List.length_pos_iff.2 hearly
  have hbehind : (overwrite s 0 early)[start + early.length - 1]? =
      s[start + early.length - 1]? := getElem?_overwrite_behind (by omega) s
  have hlt : start + early.length - 1 < (overwrite s 0 early).length := by
    by_contra hge
    rw [List.getElem?_eq_none (not_lt.1 hge), List.getElem?_eq_getElem hs] at hbehind
    cases hbehind
  rw [displaced, getElem?_overwrite_before (by omega) hlt, hbehind]

/-- The bytes are where they belong, whatever was in the file, if and only if none was early. -/
theorem displaced_holds_iff (start : ℕ) (early late : Bytes) :
    (∀ s, early ++ late <+: (displaced s start early late).drop start) ↔
      start = 0 ∨ early = [] := by
  constructor
  · intro h
    by_contra hnot
    obtain ⟨hstart, hearly⟩ := not_or.1 hnot
    have hstart : 0 < start := Nat.pos_of_ne_zero hstart
    have hlength : 0 < early.length := List.length_pos_iff.2 hearly
    -- in a file full of another byte, the last one of the early bytes is not where it belongs
    obtain ⟨x, hx⟩ : ∃ x, x ≠ early.getLast hearly := ⟨early.getLast hearly + 1, by simp⟩
    obtain ⟨rest, hrest⟩ := h (List.replicate (start + early.length) x)
    have hlast := congrArg (·[early.length - 1]?) hrest
    have hindex : start + (early.length - 1) = start + early.length - 1 := by omega
    rw [List.getElem?_drop, hindex, getElem?_displaced hstart hearly (by simp; omega),
      List.append_assoc, List.getElem?_append_left (by omega), ← List.getLast?_eq_getElem?,
      List.getLast?_eq_some_getLast hearly, List.getElem?_replicate_of_lt (by omega)] at hlast
    exact hx (Option.some.inj hlast).symm
  · rintro (rfl | rfl) s
    · rw [displaced_zero]
      exact isPrefix_overwrite s 0 _
    · rw [displaced_nil]
      exact isPrefix_overwrite s start _

/-- Bytes with zeros behind them are the same bytes from the `n`-th on only if they are zeros. -/
theorem drop_append_zeros_iff (early : Bytes) (n : ℕ) :
    (early ++ List.replicate n 0).drop n = early ↔
      n = 0 ∨ early = List.replicate early.length 0 := by
  constructor
  · intro h
    refine or_iff_not_imp_left.2 fun hn ↦ List.eq_replicate_iff.2 ⟨rfl, ?_⟩
    -- each byte is the one `n` places on, or a zero
    have hzero : ∀ k i, early.length ≤ i + k → ∀ x, early[i]? = some x → x = 0 := by
      intro k
      induction k with
      | zero =>
        intro i hi x hx
        rw [List.getElem?_eq_none (by omega)] at hx
        cases hx
      | succ k ih =>
        intro i hi x hx
        rw [← h, List.getElem?_drop] at hx
        by_cases hlt : n + i < early.length
        · rw [List.getElem?_append_left hlt] at hx
          exact ih (n + i) (by omega) x hx
        · rw [List.getElem?_append_right (not_lt.1 hlt)] at hx
          exact List.eq_of_mem_replicate (List.mem_of_getElem? hx)
    intro x hx
    obtain ⟨i, hi⟩ := List.getElem?_of_mem hx
    exact hzero early.length i (Nat.le_add_left _ _) x hi
  · rintro (rfl | h)
    · simp
    · rw [h, List.replicate_append_replicate, List.drop_replicate, Nat.add_sub_cancel]

/-- What is left of an empty file when something was written where it belongs. -/
theorem displaced_empty (start : ℕ) (early : Bytes) {late : Bytes} (hlate : late ≠ []) :
    displaced [] start early late = early ++ List.replicate start 0 ++ late := by
  have hlength : (early ++ List.replicate start 0).length = start + early.length := by
    rw [List.length_append, List.length_replicate, Nat.add_comm]
  rw [displaced, overwrite_empty, overwrite, if_neg hlate,
    show start + early.length - early.length = start by omega, List.take_of_length_le hlength.le,
    List.drop_eq_nil_of_le (by omega), List.append_nil]

/-- What is written from `start` on into a file that was emptied goes behind what was there before
`start` if there was nothing, or zeros, which the gap and what was early look like. -/
theorem displaced_behind_iff {s : Bytes} {start : ℕ} (hstart : start ≤ s.length)
    (early late : Bytes) :
    (displaced [] start early late).take start = s.take start ∧
        ((displaced [] start early late).drop start).take (early ++ late).length = early ++ late ↔
      start = 0 ∨ late ≠ [] ∧ early = List.replicate early.length 0 ∧
        s.take start = List.replicate start 0 := by
  by_cases hzero : start = 0
  · subst hzero
    rw [displaced_zero, overwrite_empty]
    simp
  by_cases hlate : late = []
  · -- the descriptor never was where the bytes belong
    subst hlate
    rw [displaced, overwrite_nil, overwrite_empty, List.append_nil]
    refine iff_of_false ?_ (by simp [hzero])
    rintro ⟨htake, hdrop⟩
    have hlength := congrArg List.length hdrop
    rw [List.length_take, List.length_drop] at hlength
    have hfront := congrArg List.length htake
    rw [List.length_take, List.length_take] at hfront
    omega
  · have hlength : ((early ++ List.replicate start 0 ++ late).drop start).length =
        (early ++ late).length := by
      simp only [List.length_drop, List.length_append, List.length_replicate]
      omega
    rw [displaced_empty start early hlate, ← hlength, List.take_length,
      List.drop_append_of_le_length (by simp), List.append_left_inj,
      drop_append_zeros_iff]
    simp only [hzero, hlate, false_or, ne_eq, not_false_eq_true, true_and]
    rw [and_comm]
    refine and_congr_right fun hearly ↦ ?_
    rw [hearly, List.replicate_append_replicate, List.take_append_of_le_length (by simp),
      List.take_replicate, min_eq_left (Nat.le_add_left _ _), eq_comm]

end OpenFile
