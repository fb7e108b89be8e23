import InteractiveMobs.Proofs.Yaml.Inline
import InteractiveMobs.Yaml.Meaning

/-!
# Numbers read back

The decimal digits of a number can stand without quotes, and mean that number.
-/

namespace InteractiveMobs.Yaml
set_option autoImplicit false
open Writing

variable {text : List Char}

theorem exists_digitChar {c : Char} (digit : c.isDigit = true) : ∃ n < 10, c = Nat.digitChar n := by
  have range : 48 ≤ c.toNat ∧ c.toNat < 58 := by
    simp only [Char.isDigit, ge_iff_le, UInt32.le_iff_toNat_le, Bool.and_eq_true,
      decide_eq_true_eq] at digit
    exact ⟨digit.1, Nat.lt_succ_of_le digit.2⟩
  have all : ∀ n < 58, 48 ≤ n → Char.ofNat n = Nat.digitChar (n - 48) := by decide
  refine ⟨c.toNat - 48, by omega, ?_⟩
  rw [← all _ range.2 range.1, Char.ofNat_toNat]

/-- A digit is no mark. -/
theorem of_isDigit {c : Char} (digit : c.isDigit = true) :
    isPrintable c = true ∧ isSpacing c = false ∧ c ≠ ':' ∧ c ≠ '#' ∧
      startsIndicator [c] = false ∧ digit? 10 c = some (c.toNat - 48) := by
  obtain ⟨n, small, rfl⟩ := exists_digitChar digit
  revert n
  decide

/-- What a character starts alone, it starts before every text. -/
theorem startsIndicator_cons {c : Char} (alone : startsIndicator [c] = false) (rest : List Char) :
    startsIndicator (c :: rest) = false := by
  simp only [startsIndicator, startsSpacing, Bool.and_true, Bool.or_eq_false_iff] at alone ⊢
  obtain ⟨others, apart⟩ := alone
  exact ⟨others, by simp [apart]⟩

theorem hasSeparator_of_isDigit (digits : ∀ c ∈ text, c.isDigit = true) (afterSpacing : Bool) :
    hasSeparator afterSpacing text = false := by
  induction text generalizing afterSpacing with
  | nil => rfl
  | cons c rest ih =>
    obtain ⟨-, -, colon, comment, -⟩ := of_isDigit (digits c List.mem_cons_self)
    simp [hasSeparator, colon, comment, ih fun d mem => digits d (List.mem_cons_of_mem c mem)]

/-- Digits can stand without quotes. -/
theorem isText_of_isDigit (some_text : text ≠ []) (digits : ∀ c ∈ text, c.isDigit = true) :
    Plain.IsText text := by
  have spacing : ∀ c ∈ text, isBreak c = false ∧ c ≠ ' ' := fun c mem => by
    obtain ⟨-, apart, -⟩ := of_isDigit (digits c mem)
    simp only [isSpacing, isBlank, Bool.or_eq_false_iff, decide_eq_false_iff_not] at apart
    exact ⟨apart.2, apart.1.1⟩
  refine ⟨some_text, ?_, fun c mem => (spacing c mem).1, fun head => ?_, fun last => ?_, ?_,
    hasSeparator_of_isDigit digits false⟩
  · simpa [hasUnprintable] using fun c mem => (of_isDigit (digits c mem)).1
  · exact (spacing ' ' (List.mem_of_head? head)).2 rfl
  · exact (spacing ' ' (List.mem_of_getLast? last)).2 rfl
  · obtain ⟨c, rest, rfl⟩ := List.exists_cons_of_ne_nil some_text
    obtain ⟨-, -, -, -, alone, -⟩ := of_isDigit (digits c List.mem_cons_self)
    exact startsIndicator_cons alone rest

/-! ## What digits mean -/

theorem toList_toString (n : Nat) : (toString n).toList = Nat.toDigits 10 n := by
  rw [Nat.toString_eq_ofList_toDigits, String.toList_ofList]

theorem isDigit_of_mem_toDigits {n : Nat} {c : Char} (mem : c ∈ Nat.toDigits 10 n) :
    c.isDigit = true := Nat.isDigit_of_mem_toDigits (by decide) (by decide) mem

theorem digitsFrom?_eq (digits : ∀ c ∈ text, c.isDigit = true) (value : Nat) :
    digitsFrom? 10 value text = some (Nat.ofDigitChars 10 text value) := by
  induction text generalizing value with
  | nil => rfl
  | cons c rest ih =>
    obtain ⟨-, -, -, -, -, digit⟩ := of_isDigit (digits c List.mem_cons_self)
    rw [digitsFrom?, digit, Nat.ofDigitChars_cons, Nat.mul_comm 10 value]
    exact ih (fun d mem => digits d (List.mem_cons_of_mem c mem)) _

/-- The digits of a positive number do not start with a zero. -/
theorem head?_toDigits_ne_zero {n : Nat} (positive : 0 < n) :
    (Nat.toDigits 10 n).head? ≠ some '0' := by
  induction n using Nat.strongRecOn with
  | ind n ih =>
    rw [Nat.toDigits_eq_if (by decide)]
    split
    next small =>
      have all : ∀ n < 10, 0 < n → [Nat.digitChar n].head? ≠ some '0' := by decide
      exact all n small positive
    next large =>
      have shorter := ih (n / 10) (Nat.div_lt_self positive (by decide)) (by omega)
      have some_digits : Nat.toDigits 10 (n / 10) ≠ [] := Nat.toDigits_ne_nil
      obtain ⟨c, rest, digits⟩ := List.exists_cons_of_ne_nil some_digits
      rw [digits] at shorter ⊢
      exact shorter

/-- A number is read back from its digits. -/
theorem natural?_toDigits (n : Nat) : natural? (Nat.toDigits 10 n) = some n := by
  have digits : ∀ c ∈ Nat.toDigits 10 n, c.isDigit = true := fun _ => isDigit_of_mem_toDigits
  have unsigned : dropSign '+' (Nat.toDigits 10 n) = Nat.toDigits 10 n := by
    refine if_neg fun plus => ?_
    have digit := digits '+' (List.mem_of_head? plus)
    cases digit
  have value : digits? 10 (Nat.toDigits 10 n) = some n := by
    rw [digits?, if_neg (by simp [Nat.toDigits_ne_nil]), digitsFrom?_eq digits,
      Nat.ofDigitChars_ten_toDigits]
  rw [natural?, unsigned]
  rcases Nat.eq_zero_or_pos n with rfl | positive
  · rfl
  · have unpadded := head?_toDigits_ne_zero positive
    unfold magnitude?
    split
    next text => simp [text] at unpadded
    next text => simp [text] at unpadded
    next text => simp [text] at unpadded
    next =>
      have padding : isZeroPadded (Nat.toDigits 10 n) = false := by
        unfold isZeroPadded
        split
        next text => simp [text] at unpadded
        next => rfl
      rw [padding, value]
      rfl

end InteractiveMobs.Yaml
