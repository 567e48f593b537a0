import TypedTemplate.Expr.Parse

namespace TypedTemplate

namespace Numeral

variable {value : Nat}

theorem isDigit_of_decimal {c : Char} (present : c ∈ Nat.toDigits 10 value) : c.isDigit :=
  Nat.isDigit_of_mem_toDigits (by omega) (by omega) present

theorem natural?_toDigits (value : Nat) : natural? (Nat.toDigits 10 value) = some value := by
  have digits : (Nat.toDigits 10 value).all Char.isDigit := List.all_eq_true.mpr fun _ => isDigit_of_decimal
  have sum : ofDigits (Nat.toDigits 10 value) = value := Nat.ofDigitChars_ten_toDigits
  simp [natural?, digits, Nat.toDigits_ne_nil, sum]

theorem signed_toDigits (value : Nat) : signed (Nat.toDigits 10 value) = (false, Nat.toDigits 10 value) := by
  unfold signed
  split
  · rename_i starts
    exact absurd (isDigit_of_decimal (starts ▸ List.mem_cons_self)) (by decide)
  · rename_i starts
    exact absurd (isDigit_of_decimal (starts ▸ List.mem_cons_self)) (by decide)
  · rfl

theorem integer?_toDigits (small : value < integerLimit) : integer? (Nat.toDigits 10 value) = some (value : Int) := by
  simp [integer?, signed_toDigits, natural?_toDigits, small]

theorem plain_toDigits (value : Nat) : (Nat.toDigits 10 value).any (fun c => c == '.' || c == 'e' || c == 'E') = false := by
  rw [List.any_eq_false]
  intro c present marked
  have digit := isDigit_of_decimal present
  simp only [Bool.or_eq_true, beq_iff_eq] at marked
  rcases marked with (rfl | rfl) | rfl <;> exact absurd digit (by decide)

end Numeral

theorem Expr.ofNumeral?_toString {value : Int} (from' : 0 ≤ value) (small : value < Numeral.integerLimit) :
    ofNumeral? (toString value) = some (int · value) := by
  obtain ⟨magnitude, rfl⟩ := Int.eq_ofNat_of_zero_le from'
  have text : (toString (magnitude : Int)).toList = Nat.toDigits 10 magnitude := Nat.toList_repr
  rw [ofNumeral?, text, Numeral.plain_toDigits, Numeral.integer?_toDigits (by omega)]
  rfl

end TypedTemplate
