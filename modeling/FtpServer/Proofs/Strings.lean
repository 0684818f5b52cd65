import FtpServer.Proofs.Trim

/-!
# The string helpers

Two functions that every handler relies on, and what they leave undone. `strlcpy` does nothing at
all with an empty source, so the destination goes on showing what it showed before
(`strlcpy_copies`). `trim_whitespace` looks for the last character that is no white space, and so
leaves the string if there is none (`trimWhitespace_trims`): its two loops do not take the same
characters for white space.

* `Copies` and `Trims` say what is asked of the two functions, for any bytes around the string, so
  that a call that leaves its string is seen as one.
* `not_trims` is the case that goes wrong.
-/

namespace FtpServer

open CString Stripping

/-! ### `strlcpy` -/

/-- What `strlcpy` is to do with the string `src` and a block in which there is room for `size`
bytes: copy what fits in front of a NUL, and return the length of the source. -/
structure Copies (dst src : Bytes) (size : ℕ) (r : Bytes × ℕ) : Prop where
  block : r.1 = src.take (size - 1) ++ nul :: dst.drop (min src.length (size - 1) + 1)
  length : r.1.length = dst.length
  shows : cstr r.1 = src.take (size - 1)
  result : r.2 = src.length

/-- The number of bytes that `strlcpy` copies. -/
theorem strlcpy_count (n size : ℕ) : (if n > size - 1 then size - 1 else n) = min n (size - 1) := by
  split_ifs <;> omega

/-- A copy that is cut and terminated. -/
theorem cstr_take_append {src : Bytes} (hsrc : nul ∉ src) (n : ℕ) (rest : Bytes) :
    cstr (src.take n ++ nul :: rest) = src.take n :=
  cstr_append_zero (fun h ↦ hsrc (List.mem_of_mem_take h)) rest

/-- A string that is not empty is copied. -/
theorem strlcpy_of_ne_nil {dst src : Bytes} {size : ℕ} (hsize : 1 ≤ size)
    (hroom : size ≤ dst.length) (hsrc : nul ∉ src) (hne : src ≠ []) :
    Copies dst src size (strlcpy dst src size) := by
  have hlen : src.length ≠ 0 := fun h ↦ hne (List.length_eq_zero_iff.1 h)
  have hrun : strlcpy dst src size =
      (src.take (size - 1) ++ nul :: dst.drop (min src.length (size - 1) + 1), src.length) := by
    have htake : src.take (min src.length (size - 1)) = src.take (size - 1) := by
      rw [List.take_eq_take_iff]
      omega
    simp only [strlcpy, if_pos hlen, strlcpy_count, htake]
  rw [hrun]
  refine ⟨rfl, ?_, cstr_take_append hsrc _ _, rfl⟩
  simp only [List.length_append, List.length_take, List.length_cons, List.length_drop]
  omega

/-- **When `strlcpy` copies.** The destination shows what fits of the source, and nothing behind it
has changed, if the source is not empty or the destination showed the empty string before. -/
theorem strlcpy_copies {dst src : Bytes} {size : ℕ} (hsize : 1 ≤ size) (hroom : size ≤ dst.length)
    (hsrc : nul ∉ src) :
    Copies dst src size (strlcpy dst src size) ↔ src ≠ [] ∨ dst.head? = some nul := by
  by_cases hne : src = []
  · subst hne
    have hrun : strlcpy dst [] size = (dst, 0) := rfl
    have hblock : dst = nul :: dst.drop 1 ↔ dst.head? = some nul := by
      rcases dst with - | ⟨c, dst⟩ <;> simp
    rw [hrun]
    refine ⟨fun h ↦ .inr (hblock.1 (by simpa using h.block)), fun h ↦ ?_⟩
    have hdst : dst = nul :: dst.drop 1 := hblock.2 (h.resolve_left fun h ↦ h rfl)
    refine ⟨by simpa using hdst, rfl, ?_, rfl⟩
    rw [hdst, List.take_nil]
    rfl
  · exact iff_of_true (strlcpy_of_ne_nil hsize hroom hsrc hne) (.inl hne)

/-- A path is replaced by a longer one that does not fit. -/
theorem strlcpy_copies_cut :
    Copies (ofString "/a" ++ [nul, 9]) (ofString "/srv") 3
        (strlcpy (ofString "/a" ++ [nul, 9]) (ofString "/srv") 3) ↔
      ofString "/srv" ≠ [] ∨ (ofString "/a" ++ [nul, 9]).head? = some nul :=
  strlcpy_copies (by decide) (by decide) (by decide +kernel)

/-- The empty name leaves the name of the file before it. -/
theorem strlcpy_stale :
    strlcpy (ofString "old" ++ [nul]) [] 4 = (ofString "old" ++ [nul], 0) ∧
      ¬Copies (ofString "old" ++ [nul]) [] 4 (strlcpy (ofString "old" ++ [nul]) [] 4) :=
  ⟨rfl, fun h ↦ absurd h.shows (by decide)⟩

/-! ### `trim_whitespace` -/

/-- A string without its leading blanks and its trailing white space. -/
def trimmed (s : Bytes) : Bytes := (s.dropWhile isblank).rdropWhile isspace

/-- What `trim_whitespace` is to do with a string, whatever is stored in front of it and behind it:
it edits nothing but the string, what it returns is the trimmed string, and a second call changes
nothing. -/
def Trims (s : Bytes) : Prop :=
  ∃ (edited : Bytes) (k : ℕ), edited.length = s.length + 1 ∧ ∀ pre post,
    trimWhitespace (pre ++ (s ++ nul :: post)) pre.length =
        some (pre ++ (edited ++ post), pre.length + k) ∧
      cstr ((pre ++ (edited ++ post)).drop (pre.length + k)) = trimmed s ∧
      trimWhitespace (pre ++ (edited ++ post)) (pre.length + k) =
        some (pre ++ (edited ++ post), pre.length + k)

/-- Of blanks nothing is left. -/
theorem trims_blank {s : Bytes} (hs : ∀ c ∈ s, isblank c = true) : Trims s := by
  refine ⟨s ++ [nul], s.length, by simp, fun pre post ↦ ?_⟩
  have hagain := trimWhitespace_blank (s := []) (by simp) (pre ++ s) post
  have htrimmed : trimmed s = [] := by
    rw [trimmed, List.dropWhile_eq_nil_iff.2 hs, List.rdropWhile_nil]
  refine ⟨by simpa using trimWhitespace_blank hs pre post, ?_, by simpa using hagain⟩
  rw [htrimmed, ← List.append_assoc, ← List.append_assoc, List.append_assoc (pre ++ s),
    ← List.length_append, List.drop_left]
  rfl

/-- Of a text with something in it, the text. -/
theorem trims_text {s : Bytes} (hnul : nul ∉ s) (hs : ∃ c ∈ s, isspace c = false) : Trims s := by
  obtain ⟨c, hc, hspace⟩ := hs
  -- the first character that stays is in what is behind the leading blanks
  have hbody : c ∈ s.dropWhile isblank := by
    have hsplit : c ∈ s.takeWhile isblank ++ s.dropWhile isblank := by
      rwa [List.takeWhile_append_dropWhile]
    refine (List.mem_append.1 hsplit).resolve_left fun h ↦ ?_
    rw [isspace_of_isblank (List.mem_takeWhile_imp h)] at hspace
    cases hspace
  have hne : trimmed s ≠ [] := fun h ↦ by
    rw [List.rdropWhile_eq_nil_iff.1 h c hbody] at hspace
    cases hspace
  have hfirst : ∀ x ∈ (trimmed s).head?, isblank x = false := fun x hx ↦
    head?_dropWhile x (head?_rdropWhile hne ▸ hx)
  have hlast : ∀ x ∈ (trimmed s).getLast?, isspace x = false := getLast?_rdropWhile
  have htextnul : nul ∉ trimmed s := not_mem_rdropWhile fun h ↦
    hnul ((List.dropWhile_sublist _).subset h)
  have htrail : ∀ x ∈ (s.dropWhile isblank).rtakeWhile isspace, isspace x = true := fun x hx ↦
    List.mem_rtakeWhile_imp hx
  have hsplit : s = s.takeWhile isblank ++
      (trimmed s ++ (s.dropWhile isblank).rtakeWhile isspace) := by
    rw [trimmed, List.rdropWhile_append_rtakeWhile, List.takeWhile_append_dropWhile]
  have hlead : ∀ x ∈ s.takeWhile isblank, isblank x = true := fun x hx ↦ List.mem_takeWhile_imp hx
  generalize s.takeWhile isblank = lead at hsplit hlead
  generalize (s.dropWhile isblank).rtakeWhile isspace = trail at hsplit htrail
  generalize htext : trimmed s = text at hne hfirst hlast htextnul hsplit
  have htail : ∀ post : Bytes, (trail ++ nul :: post).tail = (trail ++ [nul]).tail ++ post := by
    intro post
    rcases trail with - | ⟨x, trail⟩ <;> simp
  refine ⟨lead ++ (text ++ nul :: (trail ++ [nul]).tail), lead.length, ?_, fun pre post ↦ ?_⟩
  · rw [hsplit]
    simp
    omega
  have honce := trimWhitespace_text hlead hfirst hlast hne htrail htextnul pre post
  have htwice := @trimWhitespace_text [] text [] (by simp) hfirst hlast hne (by simp) htextnul
    (pre ++ lead) ((trail ++ [nul]).tail ++ post)
  rw [htail] at honce
  have hbehind : pre ++ (lead ++ (text ++ nul :: (trail ++ [nul]).tail) ++ post) =
      (pre ++ lead) ++ (text ++ nul :: ((trail ++ [nul]).tail ++ post)) := by simp
  refine ⟨?_, ?_, ?_⟩
  · rw [hsplit]
    simpa using honce
  · rw [htext, hbehind, ← List.length_append, List.drop_left]
    exact cstr_append_zero htextnul _
  · rw [hbehind, ← List.length_append]
    simpa using htwice

/-- Of white space that does not only consist of blanks, the end is looked for in front of it. -/
theorem not_trims {s : Bytes} (hs : ∀ c ∈ s, isspace c = true)
    (hblank : ¬∀ c ∈ s, isblank c = true) : ¬Trims s := by
  rintro ⟨edited, k, -, htrims⟩
  have hbody : s.dropWhile isblank ≠ [] := fun h ↦ hblank (List.dropWhile_eq_nil_iff.1 h)
  have hnone := trimWhitespace_eq_none (i := 0)
    (fun c (hc : c ∈ s.takeWhile isblank) ↦ isspace_of_isblank (List.mem_takeWhile_imp hc))
    (fun c hc ↦ hs c ((List.dropWhile_sublist _).subset hc)) hbody head?_dropWhile (Nat.zero_le _)
    (fun c hc ↦ List.mem_takeWhile_imp hc) []
  rw [← List.append_assoc, List.takeWhile_append_dropWhile] at hnone
  have hsome := (htrims [] []).1
  rw [List.nil_append, List.length_nil, hnone] at hsome
  cases hsome

/-- **When `trim_whitespace` trims.** It edits and returns what it should, and stays inside of the
string, if the string is blank or has a character that is no white space. -/
theorem trimWhitespace_trims {s : Bytes} (hnul : nul ∉ s) :
    Trims s ↔ (∀ c ∈ s, isblank c = true) ∨ ∃ c ∈ s, isspace c = false := by
  constructor
  · intro h
    by_contra hnot
    obtain ⟨hblank, hspace⟩ := not_or.1 hnot
    refine not_trims (fun c hc ↦ ?_) hblank h
    by_contra hne
    exact hspace ⟨c, hc, by simpa using hne⟩
  · rintro (hblank | hspace)
    · exact trims_blank hblank
    · exact trims_text hnul hspace

/-- The value of a configuration line that ends in a CR. -/
theorem trimWhitespace_trims_line :
    Trims (ofString " yes \r") ↔
      (∀ c ∈ ofString " yes \r", isblank c = true) ∨ ∃ c ∈ ofString " yes \r", isspace c = false :=
  trimWhitespace_trims (by decide +kernel)

/-- A blank and a CR. -/
theorem trimWhitespace_underruns :
    trimWhitespace (ofString " \r" ++ [nul]) 0 = none ∧ ¬Trims (ofString " \r") :=
  ⟨by decide +kernel, not_trims (by decide +kernel) (by decide +kernel)⟩

end FtpServer
