import Mathlib.Data.List.Induction
import Accounts.Decimal.Natural

/-!
# Decimal digits are read back

* `isDigit_iff`: digits by their number;
* `isDigit_of_mem_digits`: what is written are digits;
* `digits_eq_cons`: there is at least one, and a zero at the start stands alone;
* **`value_digits`**, `nat?_digits`: the digits of a number have its value, and are read as it;
* `value_lt`: digits write numbers below a power of ten;
* `length_padded`, **`value_padded`**: a number with leading zeros has its width and its value.
-/

namespace Accounts.Decimal

theorem isDigit_iff {c : Char} : isDigit c = true ↔ 48 ≤ c.toNat ∧ c.toNat ≤ 57 := by
  rw [isDigit, Bool.and_eq_true, decide_eq_true_eq, decide_eq_true_eq, Char.le_def, Char.le_def,
    UInt32.le_iff_toNat_le, UInt32.le_iff_toNat_le]
  rfl

theorem isDigit_of_mem_digits {n : Nat} {c : Char} (h : c ∈ digits n) : isDigit c = true := by
  have hd : c.isDigit = true := Nat.isDigit_of_mem_toDigits (by decide) (by decide) h
  exact hd

theorem digitChar_ne_zero {n : Nat} (h : 0 < n) (hn : n < 10) : n.digitChar ≠ '0' := by
  have : ∀ m < 10, 0 < m → m.digitChar ≠ '0' := by decide
  exact this n hn h

theorem digits_of_lt {n : Nat} (h : n < 10) : digits n = [n.digitChar] :=
  Nat.toDigits_of_lt_base h

theorem digits_of_le {n : Nat} (h : 10 ≤ n) :
    digits n = digits (n / 10) ++ [(n % 10).digitChar] :=
  Nat.toDigits_of_base_le (by decide) h

theorem digits_of_pos {n : Nat} (h : 0 < n) : ∃ c cs, digits n = c :: cs ∧ c ≠ '0' := by
  induction n using Nat.strongRecOn with
  | ind n ih =>
    by_cases hn : n < 10
    · exact ⟨_, [], digits_of_lt hn, digitChar_ne_zero h hn⟩
    · obtain ⟨c, cs, hc, hne⟩ := ih (n / 10) (by omega) (by omega)
      exact ⟨c, cs ++ [(n % 10).digitChar], by rw [digits_of_le (by omega), hc]; rfl, hne⟩

theorem digits_eq_cons (n : Nat) : ∃ c cs, digits n = c :: cs ∧ (c = '0' → cs = []) := by
  by_cases hn : 0 < n
  · obtain ⟨c, cs, hc, hne⟩ := digits_of_pos hn
    exact ⟨c, cs, hc, fun h => absurd h hne⟩
  · rw [Nat.eq_zero_of_not_pos hn]
    exact ⟨'0', [], rfl, fun _ => rfl⟩

/-- **The digits of a number have its value.** -/
theorem value_digits (n : Nat) : value (digits n) = n := by
  have h := Nat.ofDigitChars_ten_toDigits (n := n)
  rwa [Nat.ofDigitChars_eq_foldl] at h

theorem nat?_digits (n : Nat) : nat? (digits n) = some n := by
  obtain ⟨c, cs, hcs, -⟩ := digits_eq_cons n
  have hne : digits n ≠ [] := by
    rw [hcs]
    exact List.cons_ne_nil c cs
  have hall : (digits n).all isDigit = true :=
    List.all_eq_true.2 fun _ hc => isDigit_of_mem_digits hc
  rw [nat?, if_pos ⟨hne, hall⟩, value_digits]

/-! ## Values of digits -/

theorem value_append_singleton (ds : List Char) (c : Char) :
    value (ds ++ [c]) = 10 * value ds + (c.toNat - 48) := by
  rw [value, List.foldl_append]
  rfl

theorem value_lt {ds : List Char} (h : ∀ c ∈ ds, isDigit c = true) :
    value ds < Nat.pow 10 ds.length := by
  induction ds using List.reverseRecOn with
  | nil => decide
  | append_singleton ds c ih =>
    have hds := ih fun d hd => h d (List.mem_append_left _ hd)
    have hc := isDigit_iff.1 (h c (List.mem_append_right _ (List.mem_singleton_self c)))
    have hpow : Nat.pow 10 (ds.length + 1) = Nat.pow 10 ds.length * 10 := rfl
    rw [value_append_singleton, List.length_append, List.length_singleton, hpow]
    omega

/-! ## Leading zeros -/

theorem isDigit_of_mem_padded {width n : Nat} {c : Char} (h : c ∈ padded width n) :
    isDigit c = true := by
  obtain h | h := List.mem_append.1 h
  · rw [List.eq_of_mem_replicate h]
    decide
  · exact isDigit_of_mem_digits h

theorem length_padded {width n : Nat} (hwidth : 0 < width) (h : n < Nat.pow 10 width) :
    (padded width n).length = width := by
  have hlen : (digits n).length ≤ width := (Nat.length_toDigits_le_iff (by decide) hwidth).2 h
  rw [padded, List.length_append, List.length_replicate]
  omega

theorem value_zeros (k : Nat) (ds : List Char) : value (List.replicate k '0' ++ ds) = value ds := by
  induction k with
  | zero => rfl
  | succ k ih => exact ih

/-- **A number with leading zeros has its value.** -/
theorem value_padded (width n : Nat) : value (padded width n) = n := by
  rw [padded, value_zeros, value_digits]

end Accounts.Decimal
