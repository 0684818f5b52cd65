import FtpServer.Library.Stripping
import FtpServer.Model.Util

/-!
# Trimming

What `trim_whitespace` makes of a string in a buffer: the blanks in front of its first other
character are skipped, and a NUL is stored behind its last character that is no white space. A
string that is blank as a whole is not written to.

* `strip` is the specification on strings, and `trimWhitespace_text` the function on buffers.
* The scan from the end looks for any white space, the one from the start for blanks only.
  `trimWhitespace_eq_none` is the string that the difference matters for.
-/

namespace FtpServer

open CString

variable {p : UInt8 → Bool}

/-! ### The scans -/

/-- The scan goes over what it is to skip, and stops behind it. -/
theorem scanForward_append {s : Bytes} (hs : ∀ c ∈ s, p c = true) {c : UInt8} (hc : p c = false)
    (pre post : Bytes) :
    scanForward p (pre ++ (s ++ c :: post)) pre.length = some (pre.length + s.length) := by
  have htake : (s ++ c :: post).takeWhile p = s := by
    rw [List.takeWhile_append_of_pos hs, List.takeWhile_cons_of_neg (by simp [hc]), List.append_nil]
  rw [scanForward, List.drop_left]
  simp only [htake]
  rw [if_pos (by simp)]

/-- From the last byte of a run, the scan goes to the byte in front of it. -/
theorem scanBackward_append {c : UInt8} (hc : p c = false) {trail : Bytes}
    (htrail : ∀ x ∈ trail, p x = true) (pre post : Bytes) :
    scanBackward p (pre ++ c :: (trail ++ post)) (pre.length + trail.length) =
      some pre.length := by
  induction trail using List.reverseRecOn generalizing post with
  | nil =>
    rcases hpre : pre.length with - | n
    · obtain rfl := List.length_eq_zero_iff.1 hpre
      simp [scanBackward, hc]
    · have hget : (pre ++ c :: post)[n + 1]? = some c := by
        rw [List.getElem?_append_right (by omega), hpre, Nat.sub_self]
        rfl
      rw [List.length_nil, Nat.add_zero, scanBackward, List.nil_append, hget]
      simp [hc]
  | append_singleton trail x ih =>
    have hx : p x = true := htrail x (by simp)
    have hget : (pre ++ c :: (trail ++ [x] ++ post))[pre.length + trail.length + 1]? = some x := by
      rw [List.getElem?_append_right (by omega), Nat.add_assoc, Nat.add_sub_cancel_left,
        List.getElem?_cons_succ, List.append_assoc, List.getElem?_append_right le_rfl, Nat.sub_self]
      rfl
    rw [List.length_append, List.length_singleton, ← Nat.add_assoc, scanBackward, hget]
    simp only [hx, if_true]
    simpa using ih (fun y hy ↦ htrail y (List.mem_append_left _ hy)) (x :: post)

/-- Nothing stops the scan before the start of the buffer. -/
theorem scanBackward_eq_none {front : Bytes} (hfront : ∀ c ∈ front, p c = true) (post : Bytes)
    {i : ℕ} (hi : i < front.length) : scanBackward p (front ++ post) i = none := by
  induction i with
  | zero =>
    have hget : (front ++ post)[0]? = some front[0] := by
      rw [List.getElem?_append_left hi, List.getElem?_eq_getElem hi]
    rw [scanBackward, hget]
    simp [hfront _ (List.getElem_mem hi)]
  | succ i ih =>
    have hget : (front ++ post)[i + 1]? = some front[i + 1] := by
      rw [List.getElem?_append_left hi, List.getElem?_eq_getElem hi]
    rw [scanBackward, hget]
    simp only [hfront _ (List.getElem_mem hi), if_true]
    exact ih (Nat.lt_of_succ_lt hi)

/-! ### `trim_whitespace` -/

/-- A terminator is no blank. -/
theorem isblank_nul : isblank nul = false := by decide

/-- Every blank is a space; the reverse fails, and the two scans differ by it. -/
theorem isspace_of_isblank {c : UInt8} (h : isblank c = true) : isspace c = true := by
  rw [isblank, Bool.or_eq_true, decide_eq_true_eq, decide_eq_true_eq] at h
  rcases h with rfl | rfl <;> decide

/-- A string without the blanks around it. -/
def strip (s : Bytes) : Bytes := (s.dropWhile isblank).rdropWhile isblank

/-- A blank string stays as it is. -/
theorem trimWhitespace_blank {s : Bytes} (hs : ∀ c ∈ s, isblank c = true) (pre post : Bytes) :
    trimWhitespace (pre ++ (s ++ nul :: post)) pre.length =
      some (pre ++ (s ++ nul :: post), pre.length + s.length) := by
  have hstop : scanForward (· ≠ nul) (pre ++ (s ++ nul :: post)) (pre.length + s.length) =
      some (pre.length + s.length) := by
    simpa using scanForward_append (p := (· ≠ nul)) (s := []) (by simp) (c := nul) (by simp)
      (pre ++ s) post
  simp only [trimWhitespace, scanForward_append hs isblank_nul, hstop, Option.bind_eq_bind,
    Option.bind_some, Option.pure_def, if_pos]

/-- **What `trim_whitespace` does** to a string: `text` is what is left of it. -/
theorem trimWhitespace_text {lead text trail : Bytes} (hlead : ∀ c ∈ lead, isblank c = true)
    (hfirst : ∀ c ∈ text.head?, isblank c = false) (hlast : ∀ c ∈ text.getLast?, isspace c = false)
    (hne : text ≠ []) (htrail : ∀ c ∈ trail, isspace c = true) (hnul : nul ∉ text)
    (pre post : Bytes) :
    trimWhitespace (pre ++ (lead ++ (text ++ (trail ++ nul :: post)))) pre.length =
      some (pre ++ (lead ++ (text ++ nul :: (trail ++ nul :: post).tail)),
        pre.length + lead.length) := by
  obtain ⟨c, text', rfl⟩ := List.exists_cons_of_ne_nil hne
  have hstart : scanForward isblank (pre ++ (lead ++ (c :: text' ++ (trail ++ nul :: post))))
      pre.length = some (pre.length + lead.length) :=
    scanForward_append hlead (hfirst c rfl) _ _
  have hnotnul : ∀ x ∈ c :: text' ++ trail, decide (x ≠ nul) = true := by
    intro x hx
    refine decide_eq_true fun heq ↦ ?_
    rcases List.mem_append.1 hx with hx | hx
    · exact hnul (heq ▸ hx)
    · exact absurd (htrail x hx) (by rw [heq]; decide)
  have hstop : scanForward (· ≠ nul) (pre ++ (lead ++ (c :: text' ++ (trail ++ nul :: post))))
      (pre.length + lead.length) =
        some (pre.length + lead.length + (c :: text' ++ trail).length) := by
    simpa using scanForward_append (p := (· ≠ nul)) hnotnul (c := nul) (by simp) (pre ++ lead) post
  -- the last character that is no white space
  obtain ⟨front, d, hsplit⟩ : ∃ front d, c :: text' = front ++ [d] :=
    ⟨_, _, (List.dropLast_append_getLast (List.cons_ne_nil c text')).symm⟩
  have hd : isspace d = false := hlast d (by rw [hsplit]; simp)
  have hback : scanBackward isspace (pre ++ (lead ++ (c :: text' ++ (trail ++ nul :: post))))
      (pre.length + lead.length + (c :: text' ++ trail).length - 1) =
        some (pre.length + lead.length + front.length) := by
    have hend : pre.length + lead.length + (front ++ [d] ++ trail).length - 1 =
        (pre ++ lead ++ front).length + trail.length := by
      simp only [List.length_append, List.length_singleton]
      omega
    rw [hsplit, hend]
    simpa [Nat.add_assoc] using scanBackward_append hd htrail (pre ++ lead ++ front) (nul :: post)
  have hlen : pre.length + lead.length + front.length + 1 =
      pre.length + (lead.length + (c :: text').length) := by
    rw [hsplit, List.length_append, List.length_singleton]
    omega
  have hstore : store (pre ++ (lead ++ (c :: text' ++ (trail ++ nul :: post))))
      (pre.length + lead.length + front.length + 1) nul =
        some (pre ++ (lead ++ (c :: text' ++ nul :: (trail ++ nul :: post).tail))) := by
    have hset : (trail ++ nul :: post).set 0 nul = nul :: (trail ++ nul :: post).tail := by
      rcases trail with - | ⟨x, trail⟩ <;> rfl
    rw [store, if_pos (by rw [hlen]; simp; omega), hlen, List.set_append_right _ _ (by omega),
      Nat.add_sub_cancel_left, List.set_append_right _ _ (by omega), Nat.add_sub_cancel_left,
      List.set_append_right _ _ le_rfl, Nat.sub_self, hset]
  have hne' : pre.length + lead.length + (c :: text' ++ trail).length ≠
      pre.length + lead.length := by simp
  simp only [trimWhitespace, hstart, hstop, hback, hstore, Option.bind_eq_bind, Option.bind_some,
    Option.pure_def, if_neg hne']

/-- Of a string of white space that does not begin with a blank, with nothing else in front of it,
the end is looked for in front of the buffer. -/
theorem trimWhitespace_eq_none {front body : Bytes} (hfront : ∀ c ∈ front, isspace c = true)
    (hbody : ∀ c ∈ body, isspace c = true) (hne : body ≠ [])
    (hfirst : ∀ c ∈ body.head?, isblank c = false) {i : ℕ} (hi : i ≤ front.length)
    (hlead : ∀ c ∈ front.drop i, isblank c = true) (post : Bytes) :
    trimWhitespace (front ++ (body ++ nul :: post)) i = none := by
  obtain ⟨c, body', rfl⟩ := List.exists_cons_of_ne_nil hne
  have hstart : scanForward isblank (front ++ (c :: body' ++ nul :: post)) i =
      some front.length := by
    have h := scanForward_append hlead (hfirst c rfl) (front.take i) (body' ++ nul :: post)
    rw [← List.append_assoc, List.take_append_drop, List.length_take, List.length_drop,
      Nat.min_eq_left hi, Nat.add_sub_cancel' hi] at h
    exact h
  have hnotnul : ∀ x ∈ c :: body', decide (x ≠ nul) = true := fun x hx ↦
    decide_eq_true fun heq ↦ absurd (hbody x hx) (by rw [heq]; decide)
  have hstop : scanForward (· ≠ nul) (front ++ (c :: body' ++ nul :: post)) front.length =
      some (front.length + (c :: body').length) :=
    scanForward_append (p := (· ≠ nul)) hnotnul (by simp) front post
  have hback : scanBackward isspace (front ++ (c :: body' ++ nul :: post))
      (front.length + (c :: body').length - 1) = none := by
    rw [← List.append_assoc]
    refine scanBackward_eq_none (fun x hx ↦ ?_) _ (by simp)
    rcases List.mem_append.1 hx with hx | hx
    · exact hfront x hx
    · exact hbody x hx
  have hne' : front.length + (c :: body').length ≠ front.length := by simp
  simp only [trimWhitespace, hstart, hstop, hback, Option.bind_eq_bind, Option.bind_some,
    Option.bind_none, if_neg hne']

/-- It needs the end of the string. -/
theorem nul_mem_of_trimWhitespace {buf : Bytes} {i : ℕ} {r : Bytes × ℕ}
    (h : trimWhitespace buf i = some r) : nul ∈ buf.drop i := by
  simp only [trimWhitespace, Option.bind_eq_bind, Option.bind_eq_some_iff] at h
  obtain ⟨line, hline, stop, hstop, -⟩ := h
  have hle : i ≤ line := by
    obtain ⟨-, rfl⟩ := by simpa [scanForward] using hline
    exact Nat.le_add_right _ _
  by_contra hmem
  have hall : ∀ c ∈ buf.drop line, decide (c ≠ nul) = true := fun c hc ↦
    decide_eq_true fun heq ↦ hmem (heq ▸ (List.drop_subset_drop_left buf hle) hc)
  obtain ⟨hlt, -⟩ := by simpa only [scanForward, Option.ite_none_right_eq_some] using hstop
  rw [List.takeWhile_eq_self_iff.2 hall, List.length_drop] at hlt
  omega

end FtpServer
