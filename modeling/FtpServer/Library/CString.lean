import Mathlib

/-!
# NUL-terminated strings in byte buffers

A buffer is a list of bytes. The C string at its start is what precedes its first NUL, and is a
list of bytes without a NUL (`zero_not_mem_cstr`). Stores are bounds-checked: one outside of the
buffer has no result.
-/

/-- Bytes of memory, of a file or of a stream. -/
abbrev Bytes := List UInt8

namespace CString

/-- The bytes of an ASCII literal. -/
def ofString (s : String) : Bytes := s.toList.map fun c ↦ UInt8.ofNat c.toNat

/-- The C string at the start of a buffer: everything before the first NUL. -/
def cstr (buf : Bytes) : Bytes := buf.takeWhile (· ≠ 0)

/-- Store one byte, if the index is inside of the buffer. -/
def store (buf : Bytes) (i : ℕ) (b : UInt8) : Option Bytes :=
  if i < buf.length then some (buf.set i b) else none

/-- Store a run of bytes, if all of it is inside of the buffer. -/
def storeAll (buf : Bytes) (i : ℕ) (bs : Bytes) : Option Bytes :=
  if i + bs.length ≤ buf.length then some (buf.take i ++ bs ++ buf.drop (i + bs.length)) else none

/-- A string ends before the first NUL. -/
theorem zero_not_mem_cstr (buf : Bytes) : 0 ∉ cstr buf := by
  intro h
  simpa using List.mem_takeWhile_imp h

/-- A string followed by a NUL is the C string of the buffer, whatever comes after. -/
theorem cstr_append_zero {s : Bytes} (h : 0 ∉ s) (rest : Bytes) : cstr (s ++ 0 :: rest) = s := by
  have hs : ∀ b ∈ s, decide (b ≠ 0) = true := by
    intro b hb
    simpa using fun h0 : b = 0 ↦ h (h0 ▸ hb)
  rw [cstr, List.takeWhile_append_of_pos hs, List.takeWhile_cons_of_neg (by simp), List.append_nil]

/-- A prefix without a NUL stays part of the C string. -/
theorem cstr_append {s : Bytes} (h : 0 ∉ s) (rest : Bytes) : cstr (s ++ rest) = s ++ cstr rest := by
  refine List.takeWhile_append_of_pos fun b hb ↦ ?_
  simpa using fun h0 : b = 0 ↦ h (h0 ▸ hb)

/-- Bytes without a NUL are a string as they are. -/
theorem cstr_of_not_mem {s : Bytes} (h : 0 ∉ s) : cstr s = s :=
  List.takeWhile_eq_self_iff.2 fun _ hc ↦ decide_eq_true fun heq ↦ h (heq ▸ hc)

/-- A string is not longer than its buffer. -/
theorem cstr_length_le (buf : Bytes) : (cstr buf).length ≤ buf.length :=
  (List.takeWhile_sublist _).length_le

/-- What follows the string in a buffer does not matter. -/
theorem cstr_append_zero' (s rest : Bytes) : cstr (s ++ 0 :: rest) = cstr s := by
  induction s with
  | nil => rfl
  | cons b s ih =>
    by_cases hb : b = 0
    · simp [cstr, hb]
    · simpa [cstr, hb] using ih

/-- A buffer with a NUL in it is its string, a NUL, and something else. -/
theorem exists_eq_cstr_append {buf : Bytes} (h : 0 ∈ buf) :
    ∃ rest, buf = cstr buf ++ 0 :: rest := by
  obtain ⟨s, rest, rfl, hs⟩ := List.eq_append_cons_of_mem h
  exact ⟨rest, by rw [cstr_append_zero hs]⟩

/-- One byte can be stored wherever the buffer is, and changes nothing else. -/
theorem store_eq_some {buf buf' : Bytes} {i : ℕ} {b : UInt8} :
    store buf i b = some buf' ↔ i < buf.length ∧ buf' = buf.set i b := by
  simp only [store]
  split_ifs with h <;> simp [h, eq_comm]

/-- Bytes can be stored if they end within the buffer, and change nothing around them. -/
theorem storeAll_eq_some {buf buf' : Bytes} {i : ℕ} {bs : Bytes} :
    storeAll buf i bs = some buf' ↔
      i + bs.length ≤ buf.length ∧ buf' = buf.take i ++ bs ++ buf.drop (i + bs.length) := by
  simp only [storeAll]
  split_ifs with h <;> simp [h, eq_comm]

/-- A buffer keeps its length. -/
theorem length_of_storeAll {buf buf' : Bytes} {i : ℕ} {bs : Bytes}
    (h : storeAll buf i bs = some buf') : buf'.length = buf.length := by
  obtain ⟨hle, rfl⟩ := storeAll_eq_some.1 h
  simp only [List.length_append, List.length_take, List.length_drop]
  omega

/-- A scan does not go beyond a byte it has to stop at. -/
theorem length_takeWhile_le {p : UInt8 → Bool} {buf : Bytes} {k : ℕ} {b : UInt8}
    (hb : buf[k]? = some b) (hp : p b = false) : (buf.takeWhile p).length ≤ k := by
  induction buf generalizing k with
  | nil => exact Nat.zero_le _
  | cons c buf ih =>
    rw [List.takeWhile_cons]
    split_ifs with hc
    · rcases k with - | k
      · obtain rfl : c = b := by simpa using hb
        simp [hp] at hc
      · have := ih (k := k) (by simpa using hb)
        simpa using this
    · exact Nat.zero_le _

/-- The first `b` is where the bytes without one end. -/
theorem findIdx?_eq_length {s rest : Bytes} {b : UInt8} (h : b ∉ s) :
    (s ++ b :: rest).findIdx? (· = b) = some s.length := by
  have hs : s.findIdx? (· = b) = none := by
    rw [List.findIdx?_eq_none_iff]
    intro c hc
    exact decide_eq_false fun heq ↦ h (heq ▸ hc)
  simp [List.findIdx?_append, hs, List.findIdx?_cons]

end CString
