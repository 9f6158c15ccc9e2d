import Mathlib.Algebra.Order.Ring.Nat
import Mathlib.Data.List.Induction
import Transit.Instant.Reader

/-!
# Numbers with zeros before and behind them

A number is written in decimal digits, with zeros before them up to a width. Read as digits, it is
the number again, and zeros behind it multiply it by ten.

* `ofDigits_append_zeros`, `ofDigits_lt`: rows of digits as numbers.
* `ofDigits_padded`, `isDigit_of_mem_padded`, `length_padded`: a padded number.
-/

namespace Transit

namespace Text

theorem ofDigits_eq (ds : List Char) : ofDigits ds = Nat.ofDigitChars 10 ds 0 := rfl

theorem ofDigits_append_zeros (ds : List Char) (k : Nat) :
    ofDigits (ds ++ List.replicate k '0') = 10 ^ k * ofDigits ds := by
  rw [ofDigits_eq, Nat.ofDigitChars_append, Nat.ofDigitChars_replicate_zero]
  rfl

theorem bounds_of_isDigit {c : Char} (h : c.isDigit) : 48 ≤ c.toNat ∧ c.toNat ≤ 57 :=
  (Bool.and_eq_true_iff.1 h).imp of_decide_eq_true of_decide_eq_true

theorem digitValue_lt {c : Char} (h : c.isDigit) : digitValue c < 10 := by
  have hle := (bounds_of_isDigit h).2
  have hzero : '0'.toNat = 48 := rfl
  unfold digitValue
  omega

theorem ofDigits_lt {ds : List Char} (h : ∀ d ∈ ds, d.isDigit) :
    ofDigits ds < 10 ^ ds.length := by
  induction ds using List.reverseRecOn with
  | nil => exact Nat.one_pos
  | append_singleton ds d ih =>
    have hds := ih fun d hd => h d (List.mem_append_left _ hd)
    have hd := digitValue_lt (h d (List.mem_append_right _ List.mem_cons_self))
    have hsnoc : ofDigits (ds ++ [d]) = 10 * ofDigits ds + digitValue d := by
      rw [ofDigits, List.foldl_append]
      rfl
    rw [hsnoc, List.length_append, List.length_singleton, Nat.pow_succ]
    omega

end Text

namespace Instant

open Transit.Text

variable {width n : Nat}

theorem toList_padded (width n : Nat) :
    (padded width n).toList =
      List.replicate (width - (Nat.toDigits 10 n).length) '0' ++ Nat.toDigits 10 n := by
  simp [padded, Nat.repr_eq_ofList_toDigits]

theorem isDigit_of_mem_padded {c : Char} (h : c ∈ (padded width n).toList) : c.isDigit := by
  rw [toList_padded, List.mem_append] at h
  cases h with
  | inl h =>
    rw [List.eq_of_mem_replicate h]
    rfl
  | inr h => exact Nat.isDigit_of_mem_toDigits (by decide) (by decide) h

theorem ofDigits_padded (width n : Nat) : ofDigits (padded width n).toList = n := by
  rw [toList_padded, ofDigits_eq, Nat.ofDigitChars_append, Nat.ofDigitChars_replicate_zero,
    Nat.mul_zero, Nat.ofDigitChars_ten_toDigits]

theorem padded_ne_nil (width n : Nat) : (padded width n).toList ≠ [] := by
  rw [toList_padded]
  exact List.append_ne_nil_of_right_ne_nil _ Nat.toDigits_ne_nil

theorem length_padded (hw : 0 < width) (h : n < 10 ^ width) :
    (padded width n).toList.length = width := by
  have hlen := (Nat.length_toDigits_le_iff (by decide) hw).2 h
  rw [toList_padded, List.length_append, List.length_replicate, Nat.sub_add_cancel hlen]

end Instant

end Transit
