import Mathlib.Data.Nat.Digits.Defs

/-!
# Positional numerals, most significant digit first

A numeral is a list of digits `Fin b`; a text over any alphabet is read through a digit
valuation `α → Option (Fin b)`. This module owns what a reader of such texts needs:

* **`value`** — the number a numeral denotes, as Mathlib's `Nat.ofDigits` of its reversal.
* **`value_window`** — shifting and truncating a number is cutting its numeral: the digits
  between `hi` and `lo` are what division by `b ^ lo.length` and remainder leave.
* **`value_append_of_zeros`**, **`pow_le_value_append`** — what digits in front of others add
  to the number, nothing or at least one in the next position.
* **`value_injective`** — numerals of one length denote different numbers.
* **`leading`** — the maximal run of digits a text starts with; `startsWithDigit` says when
  there is one.
* **`toNat_ushiftRight_and_low`** — the same window taken out of a machine word by a shift
  and a mask.
-/

namespace Numeral

universe u

variable {b : Nat}

/-! ## The number a numeral denotes -/

def value (digits : List (Fin b)) : Nat :=
  Nat.ofDigits b (digits.map Fin.val).reverse

@[simp] theorem value_singleton (d : Fin b) : value [d] = d := by
  simp [value]

/-- Digits appended at the low end shift the number up by their positions. -/
theorem value_append (hi lo : List (Fin b)) :
    value (hi ++ lo) = value hi * b ^ lo.length + value lo := by
  unfold value
  rw [List.map_append, List.reverse_append, Nat.ofDigits_append, List.length_reverse,
    List.length_map, Nat.add_comm, Nat.mul_comm]

@[simp] theorem value_pair (d₁ d₀ : Fin b) : value [d₁, d₀] = d₁ * b + d₀ := by
  have h := value_append [d₁] [d₀]
  simpa using h

/-- A numeral denotes less than the next power of its base. -/
theorem value_lt (hb : 1 < b) (digits : List (Fin b)) : value digits < b ^ digits.length := by
  have hlt : ∀ x ∈ (digits.map Fin.val).reverse, x < b := by
    intro x hx
    obtain ⟨d, _, rfl⟩ := List.mem_map.mp (List.mem_reverse.mp hx)
    exact d.isLt
  have h := Nat.ofDigits_lt_base_pow_length hb hlt
  simpa [value] using h

/-- **Windows.** The number denoted by the digits between `hi` and `lo` is what is left of
the whole after dividing `lo` away and truncating to the length of the window. -/
theorem value_window (hb : 1 < b) (hi mid lo : List (Fin b)) :
    value (hi ++ mid ++ lo) / b ^ lo.length % b ^ mid.length = value mid := by
  have hlo : value lo < b ^ lo.length := value_lt hb lo
  have hmid : value mid < b ^ mid.length := value_lt hb mid
  -- dividing `lo` away needs a positive divisor
  have hpos : 0 < b ^ lo.length := Nat.pow_pos (by omega)
  rw [value_append, Nat.mul_comm, Nat.mul_add_div hpos, Nat.div_eq_of_lt hlo, Nat.add_zero,
    value_append, Nat.mul_comm, Nat.mul_add_mod, Nat.mod_eq_of_lt hmid]

/-! ## Digits in front -/

theorem value_cons (d : Fin b) (digits : List (Fin b)) :
    value (d :: digits) = d * b ^ digits.length + value digits := by
  have h := value_append [d] digits
  rwa [List.singleton_append, value_singleton] at h

theorem value_eq_zero_iff (digits : List (Fin b)) :
    value digits = 0 ↔ ∀ d ∈ digits, d.val = 0 := by
  induction digits with
  | nil => simp [value]
  | cons d digits ih =>
    -- the first digit has a positive weight, so its product vanishes with it alone
    have hpow : b ^ digits.length ≠ 0 := (Nat.pow_pos d.pos).ne'
    rw [value_cons, Nat.add_eq_zero_iff, Nat.mul_eq_zero, or_iff_left hpow, ih,
      List.forall_mem_cons]

/-- Leading zeros do not count. -/
theorem value_append_of_zeros {hi : List (Fin b)} (h : ∀ d ∈ hi, d.val = 0)
    (lo : List (Fin b)) : value (hi ++ lo) = value lo := by
  rw [value_append, (value_eq_zero_iff hi).mpr h, Nat.zero_mul, Nat.zero_add]

/-- One leading digit that is no zero reaches the next position. -/
theorem pow_le_value_append {hi : List (Fin b)} (h : ¬ ∀ d ∈ hi, d.val = 0)
    (lo : List (Fin b)) : b ^ lo.length ≤ value (hi ++ lo) := by
  -- the digits in front denote a positive number, and it is counted `b ^ lo.length` times
  have hpos : 0 < value hi := Nat.pos_of_ne_zero (mt (value_eq_zero_iff hi).mp h)
  calc b ^ lo.length = 1 * b ^ lo.length := (Nat.one_mul _).symm
    _ ≤ value hi * b ^ lo.length := Nat.mul_le_mul_right _ hpos
    _ ≤ value hi * b ^ lo.length + value lo := Nat.le_add_right _ _
    _ = value (hi ++ lo) := (value_append hi lo).symm

/-- Numerals of one length denote different numbers. -/
theorem value_injective (hb : 1 < b) {digits digits' : List (Fin b)}
    (hlen : digits.length = digits'.length) (h : value digits = value digits') :
    digits = digits' := by
  have hlt : ∀ (digits : List (Fin b)), ∀ x ∈ (digits.map Fin.val).reverse, x < b := by
    intro digits x hx
    obtain ⟨d, _, rfl⟩ := List.mem_map.mp (List.mem_reverse.mp hx)
    exact d.isLt
  -- `Nat.ofDigits` reads the reversed list, least significant digit first
  have hreverse := Nat.ofDigits_inj_of_len_eq hb (by simpa using hlen) (hlt digits)
    (hlt digits') h
  exact (List.map_inj_right fun _ _ => Fin.ext).mp (List.reverse_inj.mp hreverse)

/-! ## Reading a numeral off the front of a text -/

section Reading

variable {α : Type u} (digit : α → Option (Fin b))

/-- The maximal run of digits `text` starts with. -/
def leading : List α → List (Fin b)
  | [] => []
  | c :: text =>
    match digit c with
    | some d => d :: leading text
    | none => []

def startsWithDigit : List α → Bool
  | [] => false
  | c :: _ => (digit c).isSome

@[simp] theorem startsWithDigit_nil : startsWithDigit digit [] = false := rfl

@[simp] theorem startsWithDigit_cons (c : α) (text : List α) :
    startsWithDigit digit (c :: text) = (digit c).isSome := rfl

@[simp] theorem leading_nil : leading digit [] = [] := rfl

theorem leading_cons_of_digit {c : α} {d : Fin b} (h : digit c = some d) (text : List α) :
    leading digit (c :: text) = d :: leading digit text := by
  simp [leading, h]

theorem leading_cons_of_not_digit {c : α} (h : digit c = none) (text : List α) :
    leading digit (c :: text) = [] := by
  simp [leading, h]

/-- The run is there exactly when its first digit is. -/
theorem leading_ne_nil_iff (text : List α) :
    leading digit text ≠ [] ↔ startsWithDigit digit text = true := by
  cases text with
  | nil => simp
  | cons c rest =>
    cases h : digit c with
    | none => simp [leading_cons_of_not_digit digit h, h]
    | some d => simp [leading_cons_of_digit digit h, h]

/-- A text of digits alone is its own run. -/
theorem leading_of_map_eq {text : List α} {digits : List (Fin b)}
    (h : text.map digit = digits.map some) : leading digit text = digits := by
  induction text generalizing digits with
  | nil =>
    cases digits with
    | nil => rfl
    | cons d digits => simp at h
  | cons c text ih =>
    cases digits with
    | nil => simp at h
    | cons d digits =>
      simp only [List.map_cons, List.cons.injEq] at h
      rw [leading_cons_of_digit digit h.1, ih h.2]

end Reading

/-! ## Windows of a machine word -/

/-- Shifting a word right by `k` and masking its low `m` bits takes the window
`[k, k + m)` of the number it holds. -/
theorem toNat_ushiftRight_and_low {w : Nat} (x : BitVec w) (k : Nat) {m : Nat} (hm : m ≤ w) :
    ((x >>> k) &&& BitVec.ofNat w (2 ^ m - 1)).toNat = x.toNat / 2 ^ k % 2 ^ m := by
  have hle : 2 ^ m ≤ 2 ^ w := Nat.pow_le_pow_right (by decide) hm
  -- the mask fits the word, so it is the number it is written as
  have hmask : (BitVec.ofNat w (2 ^ m - 1)).toNat = 2 ^ m - 1 :=
    Nat.mod_eq_of_lt (Nat.lt_of_lt_of_le (Nat.sub_one_lt (Nat.two_pow_pos m).ne') hle)
  calc ((x >>> k) &&& BitVec.ofNat w (2 ^ m - 1)).toNat
      = (x.toNat >>> k) &&& (2 ^ m - 1) := by
        rw [BitVec.toNat_and, BitVec.toNat_ushiftRight, hmask]
    _ = (x.toNat >>> k) % 2 ^ m := Nat.and_two_pow_sub_one_eq_mod _ _
    _ = x.toNat / 2 ^ k % 2 ^ m := by rw [Nat.shiftRight_eq_div_pow]

end Numeral
