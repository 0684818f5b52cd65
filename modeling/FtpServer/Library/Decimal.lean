import FtpServer.Library.CString

/-!
# Decimal numerals

The value of a string of digits, and the digits of a number, as bytes. The value of the digits of
`n` is `n` again (`value_repr`), with any number of zeros in front of them.
-/

namespace Decimal

open CString

/-- The number that a string of digits stands for. -/
def value (s : Bytes) : ℕ := s.foldl (fun n d ↦ 10 * n + (d.toNat - 48)) 0

/-- The byte is a digit. -/
def IsDigit (c : UInt8) : Prop := 48 ≤ c ∧ c ≤ 57

instance (c : UInt8) : Decidable (IsDigit c) := inferInstanceAs (Decidable (_ ∧ _))

/-! ### The value -/

/-- Digits in front of others count for as many powers of ten as there are others. -/
theorem foldl_eq (s : Bytes) (n : ℕ) :
    s.foldl (fun n d ↦ 10 * n + (d.toNat - 48)) n = n * 10 ^ s.length + value s := by
  induction s generalizing n with
  | nil => simp [value]
  | cons c s ih =>
    rw [value, List.foldl_cons, List.foldl_cons, ih, ih, List.length_cons, pow_succ]
    ring

/-- The value of digits in two parts. -/
theorem value_append (s t : Bytes) : value (s ++ t) = value s * 10 ^ t.length + value t := by
  rw [value, List.foldl_append, foldl_eq]
  rfl

theorem value_cons (c : UInt8) (s : Bytes) :
    value (c :: s) = (c.toNat - 48) * 10 ^ s.length + value s := by
  simpa [value] using value_append [c] s

/-- Zeros have no value. -/
theorem value_zeros (n : ℕ) : value (List.replicate n 48) = 0 := by
  induction n with
  | zero => rfl
  | succ n ih => rw [List.replicate_succ, value_cons, ih]; simp

/-! ### The digits of a number -/

/-- What a number is written with are the digits that `Nat.repr` writes. -/
theorem mem_repr {n : ℕ} {c : UInt8} (h : c ∈ ofString (Nat.repr n)) :
    ∃ d : Char, d.isDigit = true ∧ c = UInt8.ofNat d.toNat := by
  obtain ⟨d, hd, rfl⟩ := List.mem_map.1 h
  rw [Nat.toList_repr] at hd
  exact ⟨d, Nat.isDigit_of_mem_toDigits (by decide) (by decide) hd, rfl⟩

/-- A digit has its ASCII code. -/
theorem toNat_ofNat_of_isDigit {d : Char} (h : d.isDigit = true) :
    (UInt8.ofNat d.toNat).toNat = d.toNat ∧ 48 ≤ d.toNat ∧ d.toNat ≤ 57 := by
  simp only [Char.isDigit, Bool.and_eq_true, decide_eq_true_eq] at h
  have hle : 48 ≤ d.toNat ∧ d.toNat ≤ 57 := h
  refine ⟨?_, hle⟩
  rw [UInt8.toNat_ofNat']
  omega

/-- A number is written with digits. -/
theorem isDigit_of_mem_repr {n : ℕ} {c : UInt8} (h : c ∈ ofString (Nat.repr n)) : IsDigit c := by
  obtain ⟨d, hd, rfl⟩ := mem_repr h
  obtain ⟨heq, hle⟩ := toNat_ofNat_of_isDigit hd
  rw [IsDigit, UInt8.le_iff_toNat_le, UInt8.le_iff_toNat_le, heq]
  exact hle

/-- **The digits of `n` stand for `n`.** -/
theorem value_repr (n : ℕ) : value (ofString (Nat.repr n)) = n := by
  have hfold : ∀ l : List Char, (∀ d ∈ l, d.isDigit = true) → ∀ m,
      (l.map fun c ↦ UInt8.ofNat c.toNat).foldl (fun n d ↦ 10 * n + (d.toNat - 48)) m =
        Nat.ofDigitChars 10 l m := by
    intro l hl
    induction l with
    | nil => exact fun m ↦ Nat.ofDigitChars_nil.symm
    | cons d l ih =>
      intro m
      obtain ⟨hd, hl⟩ := List.forall_mem_cons.1 hl
      rw [List.map_cons, List.foldl_cons, Nat.ofDigitChars_cons, (toNat_ofNat_of_isDigit hd).1]
      exact ih hl _
  rw [value, ofString, Nat.toList_repr, hfold _ fun d hd ↦
    Nat.isDigit_of_mem_toDigits (by decide) (by decide) hd]
  exact Nat.ofDigitChars_toDigits (by decide) (by decide)

/-- A number below `10 ^ k` has at most `k` digits. -/
theorem length_repr_le {n k : ℕ} (hk : 0 < k) (h : n < 10 ^ k) :
    (ofString (Nat.repr n)).length ≤ k := by
  rw [ofString, List.length_map, String.length_toList]
  exact (Nat.length_repr_le_iff hk).2 h

/-- Zeros in front of the digits do not count. -/
theorem value_padded (k n : ℕ) : value (List.replicate k 48 ++ ofString (Nat.repr n)) = n := by
  rw [value_append, value_zeros, value_repr, Nat.zero_mul, Nat.zero_add]

end Decimal
