import Mathlib.Data.Nat.Digits.Defs
import Praas.Library.Bytes

namespace Praas
namespace Library

/-!
# Numbers as decimal text

`std::to_string` prints a number, and `std::from_chars` reads one of 32 bits
from the start of a text.  What the one prints the other reads back.  The text
of a number is made of digits and the sign, so it can stand between separators
and in a C string.
-/

/-! ## Printing and reading -/

def decimal (value : Nat) : Bytes :=
  (Nat.toDigits 10 value).map (fun digit => UInt8.ofNat digit.toNat)

/-- `std::to_string`. -/
def toDecimal (value : Int) : Bytes :=
  if value < 0 then ascii "-" ++ decimal value.natAbs else decimal value.natAbs

def isDigit (byte : UInt8) : Bool :=
  decide (48 ≤ byte ∧ byte ≤ 57)

/-- `std::from_chars` into a 32-bit integer: the variable keeps its old value
when there is no digit or the number does not fit. -/
def fromChars (text : Bytes) (old : Int) : Int :=
  let negative := text.head? = some 45
  let digits := (if negative then text.tail else text).takeWhile isDigit
  let magnitude : Int := digits.foldl (fun value digit => 10 * value + (digit.toNat - 48 : Nat)) 0
  let value := if negative then -magnitude else magnitude
  if digits = [] then old
  else if -2 ^ 31 ≤ value ∧ value < 2 ^ 31 then value
  else old

/-! ## Digits -/

/-- The value of a sequence of digits, as `from_chars` sums it up. -/
def digitsValue (digits : Bytes) : Int :=
  digits.foldl (fun value digit => 10 * value + (digit.toNat - 48 : Nat)) 0

theorem digitsValue_append (digits : Bytes) (digit : UInt8) :
    digitsValue (digits ++ [digit]) = 10 * digitsValue digits + (digit.toNat - 48 : Nat) :=
  List.foldl_concat _ _ _ _

theorem digit_toNat {digit : Nat} (small : digit < 10) :
    (UInt8.ofNat (Nat.digitChar digit).toNat).toNat = 48 + digit := by
  revert digit
  decide

theorem decimal_eq (value : Nat) :
    decimal value = if value < 10 then [UInt8.ofNat (Nat.digitChar value).toNat]
      else decimal (value / 10) ++ [UInt8.ofNat (Nat.digitChar (value % 10)).toNat] := by
  unfold decimal
  rw [Nat.toDigits_eq_if (by decide)]
  split
  · rfl
  · rw [List.map_append]
    rfl

theorem digitsValue_decimal (value : Nat) : digitsValue (decimal value) = value := by
  induction value using Nat.strong_induction_on with
  | _ value inductionHypothesis =>
      rw [decimal_eq]
      split
      · rename_i small
        have single := digitsValue_append [] (UInt8.ofNat (Nat.digitChar value).toNat)
        rw [digit_toNat small] at single
        rw [List.nil_append] at single
        rw [single]
        change 10 * (0 : Int) + _ = _
        omega
      · rename_i large
        have last : value % 10 < 10 := Nat.mod_lt _ (by decide)
        rw [digitsValue_append, inductionHypothesis (value / 10) (by omega), digit_toNat last]
        omega

theorem decimal_ne_nil (value : Nat) : decimal value ≠ [] := by
  rw [decimal_eq]
  split
  · exact List.cons_ne_nil _ _
  · exact List.append_ne_nil_of_right_ne_nil _ (List.cons_ne_nil _ _)

theorem isDigit_of_mem_decimal {value : Nat} {byte : UInt8} (member : byte ∈ decimal value) :
    isDigit byte = true := by
  induction value using Nat.strong_induction_on generalizing byte with
  | _ value inductionHypothesis =>
      have digit : forall small : Nat, small < 10 ->
          isDigit (UInt8.ofNat (Nat.digitChar small).toNat) = true := by decide
      rw [decimal_eq] at member
      split at member
      · rename_i small
        rw [List.mem_singleton.mp member]
        exact digit value small
      · rename_i large
        rcases List.mem_append.mp member with earlier | last
        · exact inductionHypothesis (value / 10) (by omega) earlier
        · rw [List.mem_singleton.mp last]
          exact digit _ (Nat.mod_lt _ (by decide))

/-! ## Signed numbers -/

/-- A byte of a printed number is a digit or the sign. -/
theorem mem_toDecimal {value : Int} {byte : UInt8} (member : byte ∈ toDecimal value) :
    byte = 45 ∨ isDigit byte = true := by
  unfold toDecimal at member
  split at member
  · rcases List.mem_append.mp member with sign | digit
    · exact Or.inl (List.mem_singleton.mp sign)
    · exact Or.inr (isDigit_of_mem_decimal digit)
  · exact Or.inr (isDigit_of_mem_decimal member)

theorem not_mem_toDecimal {value : Int} {byte : UInt8} (other : byte ≠ 45)
    (noDigit : isDigit byte = false) : byte ∉ toDecimal value := by
  intro member
  rcases mem_toDecimal member with sign | digit
  · exact other sign
  · rw [noDigit] at digit
    cases digit

theorem nulFree_toDecimal (value : Int) : NulFree (toDecimal value) := by
  intro byte member zero
  rw [zero] at member
  exact not_mem_toDecimal (by decide) (by decide) member

/-- A printed 32-bit number has at most eleven characters. -/
theorem toDecimal_length_le {value : Int} (fits : IsSigned 4 value) :
    (toDecimal value).length ≤ 11 := by
  have digits : (decimal value.natAbs).length ≤ 10 := by
    rw [decimal, List.length_map]
    unfold IsSigned at fits
    exact Nat.toDigits_length 10 value.natAbs 10 (by decide) (by omega)
  unfold toDecimal
  split
  · rw [List.length_append]
    exact Nat.add_le_add (Nat.le_refl 1) digits
  · omega

theorem fromChars_toDecimal {value : Int} (fits : IsSigned 4 value) (old : Int) :
    fromChars (toDecimal value) old = value := by
  have all : (decimal value.natAbs).takeWhile isDigit = decimal value.natAbs :=
    List.takeWhile_eq_self_iff.mpr (fun byte member => isDigit_of_mem_decimal member)
  have sum : (decimal value.natAbs).foldl
      (fun (sum : Int) digit => 10 * sum + (digit.toNat - 48 : Nat)) 0 = value.natAbs :=
    digitsValue_decimal value.natAbs
  unfold IsSigned at fits
  unfold toDecimal fromChars
  by_cases negative : value < 0
  · have sign : (ascii "-" ++ decimal value.natAbs).head? = some 45 := rfl
    have tail : (ascii "-" ++ decimal value.natAbs).tail = decimal value.natAbs := rfl
    simp only [if_pos negative, sign, tail, if_true, all, sum]
    rw [if_neg (decimal_ne_nil _), if_pos (by omega)]
    omega
  · have unsigned : (decimal value.natAbs).head? ≠ some 45 := by
      intro sign
      have digit := isDigit_of_mem_decimal (List.mem_of_mem_head? sign)
      exact absurd digit (by decide)
    simp only [if_neg negative, if_neg unsigned, all, sum]
    rw [if_neg (decimal_ne_nil _), if_pos (by omega)]
    omega

end Library
end Praas
