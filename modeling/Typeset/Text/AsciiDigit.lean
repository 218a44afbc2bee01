/-!
# ASCII digits

The values of decimal and hexadecimal digits and of texts that consist of them.
-/

namespace Typeset.Text

/-- The value of a hexadecimal digit of either case. -/
def hexDigit? (c : Char) : Option Nat :=
  if c.isDigit then some (c.toNat - 0x30)
  else if 'a' ≤ c && c ≤ 'f' then some (c.toNat - 0x57)
  else if 'A' ≤ c && c ≤ 'F' then some (c.toNat - 0x37)
  else none

/-- The value of a text of hexadecimal digits; other characters count as zero. -/
def hexValue (digits : List Char) : Nat :=
  digits.foldl (fun value c => 16 * value + (hexDigit? c).getD 0) 0

/-- The value of a text of decimal digits. -/
def decimalValue (digits : List Char) : Nat :=
  digits.foldl (fun value c => 10 * value + (c.toNat - 0x30)) 0

/-- The value of decimal digits is below the power of ten that has one more digit. -/
theorem decimalValue_lt {digits : List Char} (areDigits : ∀ c ∈ digits, c.isDigit = true) :
    decimalValue digits < Nat.pow 10 digits.length := by
  -- The fold is started with any value, which the digits continue.
  have continued : ∀ value, digits.foldl (fun value c => 10 * value + (c.toNat - 0x30)) value <
      (value + 1) * 10 ^ digits.length := by
    induction digits with
    | nil =>
        intro value
        rw [List.foldl_nil, List.length_nil, Nat.pow_zero, Nat.mul_one]
        exact Nat.lt_succ_self value
    | cons c digits ih =>
        intro value
        obtain ⟨isDigit, others⟩ := List.forall_mem_cons.mp areDigits
        have digit : c.toNat - 0x30 ≤ 9 := by
          have bound : c.toNat ≤ 0x39 := of_decide_eq_true (Bool.and_eq_true_iff.mp isDigit).2
          omega
        calc
          (c :: digits).foldl (fun value c => 10 * value + (c.toNat - 0x30)) value <
              (10 * value + (c.toNat - 0x30) + 1) * 10 ^ digits.length := ih others _
          _ ≤ (10 * (value + 1)) * 10 ^ digits.length := Nat.mul_le_mul_right _ (by omega)
          _ = (value + 1) * 10 ^ (c :: digits).length := by
            rw [List.length_cons, Nat.pow_succ, Nat.mul_comm 10, Nat.mul_assoc,
              Nat.mul_comm 10]
  have bound := continued 0
  rw [Nat.zero_add, Nat.one_mul] at bound
  exact bound

end Typeset.Text
