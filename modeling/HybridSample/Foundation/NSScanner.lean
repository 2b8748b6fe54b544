import HybridSample.Foundation.NSString
import HybridSample.Numeral.Digits

/-!
# `NSScanner`: scanning a hex integer

`scanHexInt:` skips blanks, passes over an optional `0x` or `0X`, and reads the maximal run
of hex digits. It answers `NO` and leaves its out-parameter alone when there is no hex
number at the scan position, and stores `UINT_MAX` when the number does not fit.

* **`HexNumberAt`** — the texts a hex number is found at, stated on the units themselves.
* **`scanHexInt_eq_of_hexNumberAt`**, **`scanHexInt_of_not_hexNumberAt`** — the scanner writes
  exactly on these texts, and then forgets what its out-parameter held.
* **`scanHexInt_of_digits`** — a text made of at most eight hex digits is read to its end.
-/

namespace HybridSample

open Numeral

def uintMax : BitVec 32 := BitVec.allOnes 32

/-- What follows a `0x` or `0X`, `none` for a text that does not start with one. -/
def afterHexPrefix : NSString → Option NSString
  | c₀ :: c₁ :: text => if c₀ = 0x30 ∧ (c₁ = 0x78 ∨ c₁ = 0x58) then some text else none
  | _ => none

/-- The digits of the hex number `text` starts with, none where there is no number. A prefix
without digits leaves the `0` in front of its `x`, which a framework reads or not. -/
def hexNumeral (F : Foundation) (text : NSString) : List (Fin 16) :=
  match afterHexPrefix text with
  | none => leading hexDigit text
  | some rest =>
    match leading hexDigit rest with
    -- a bare prefix
    | [] => if F.readsBarePrefix then leading hexDigit text else []
    | digits => digits

/-- `[[NSScanner scannerWithString:string] scanHexInt:&value]`: the answer and what `value`
holds afterwards. -/
def scanHexInt (F : Foundation) (string : NSString) (value : BitVec 32) : Bool × BitVec 32 :=
  match hexNumeral F (string.dropWhile F.skipped) with
  -- nothing is stored
  | [] => (false, value)
  | digits =>
    if Numeral.value digits < 2 ^ 32 then (true, BitVec.ofNat 32 (Numeral.value digits))
    -- overflow
    else (true, uintMax)

/-! ## The texts that start with a hex number -/

/-- A hex number stands at the front of `text`: a hex digit does, and if that digit is the
`0` of a `0x`, then a hex digit follows or the framework reads the `0` alone. -/
def HexNumberAt (F : Foundation) (text : NSString) : Prop :=
  startsWithDigit hexDigit text = true ∧
    ∀ rest ∈ afterHexPrefix text,
      F.readsBarePrefix = true ∨ startsWithDigit hexDigit rest = true

instance (F : Foundation) (text : NSString) : Decidable (HexNumberAt F text) := by
  unfold HexNumberAt; infer_instance

theorem startsWithDigit_of_afterHexPrefix {text rest : NSString}
    (h : afterHexPrefix text = some rest) : startsWithDigit hexDigit text = true := by
  unfold afterHexPrefix at h
  split at h
  · next c₀ c₁ tail =>
    split at h
    · next h0x =>
      rw [h0x.1]
      rfl
    · simp at h
  · simp at h

/-- The scanner has digits to read exactly where a hex number stands. -/
theorem hexNumeral_ne_nil_iff (F : Foundation) (text : NSString) :
    hexNumeral F text ≠ [] ↔ HexNumberAt F text := by
  unfold hexNumeral HexNumberAt
  cases h0x : afterHexPrefix text with
  | none => simp [leading_ne_nil_iff hexDigit text]
  | some rest =>
    -- a prefixed text starts with a digit anyway; what decides is the text behind the prefix
    have hzero : startsWithDigit hexDigit text = true := startsWithDigit_of_afterHexPrefix h0x
    have hrest := leading_ne_nil_iff hexDigit rest
    cases hdigits : leading hexDigit rest with
    | nil =>
      -- a bare prefix: only the `0` in front of the `x` is left to read
      have hnone : startsWithDigit hexDigit rest = false := by simpa [hdigits] using hrest
      cases hbare : F.readsBarePrefix
      · simp [hdigits, hnone]
      · simp [hdigits, leading_ne_nil_iff hexDigit text, hzero]
    | cons d digits =>
      have hsome : startsWithDigit hexDigit rest = true := by simpa [hdigits] using hrest
      simp [hdigits, hzero, hsome]

/-! ## When the scanner writes -/

/-- Where there is a number, the out-parameter’s old content is forgotten. -/
theorem scanHexInt_eq_of_hexNumberAt {F : Foundation} {string : NSString}
    (h : HexNumberAt F (string.dropWhile F.skipped)) (value value' : BitVec 32) :
    scanHexInt F string value = scanHexInt F string value' := by
  have hne := (hexNumeral_ne_nil_iff F _).mpr h
  unfold scanHexInt
  split
  -- the only branch that returns `value` is the one without digits
  · next hnil => exact absurd hnil hne
  · rfl

/-- Where there is none, the scanner answers `NO` and stores nothing. -/
theorem scanHexInt_of_not_hexNumberAt {F : Foundation} {string : NSString}
    (h : ¬ HexNumberAt F (string.dropWhile F.skipped)) (value : BitVec 32) :
    scanHexInt F string value = (false, value) := by
  have hnil : hexNumeral F (string.dropWhile F.skipped) = [] := by
    by_contra hne
    exact h ((hexNumeral_ne_nil_iff F _).mp hne)
  unfold scanHexInt
  rw [hnil]

/-! ## Scanning a text made of hex digits alone -/

/-- A text of hex digits has no prefix, for an `x` is no digit. -/
theorem afterHexPrefix_of_digits {s : NSString} {digits : List (Fin 16)}
    (h : s.map hexDigit = digits.map some) : afterHexPrefix s = none := by
  unfold afterHexPrefix
  split
  · next c₀ c₁ text =>
    split
    · next h0x =>
      have hx : hexDigit c₁ = none := by
        rcases h0x.2 with rfl | rfl <;> rfl
      match digits with
      | [] => simp at h
      | [_] => simp at h
      | _ :: _ :: _ => simp [hx] at h
    · rfl
  · rfl

/-- And it has no blanks in front, so all of it is scanned. -/
theorem dropWhile_skipped_of_digits (F : Foundation) {s : NSString} {digits : List (Fin 16)}
    (h : s.map hexDigit = digits.map some) : s.dropWhile F.skipped = s := by
  cases s with
  | nil => rfl
  | cons c text =>
    cases digits with
    | nil => simp at h
    | cons d digits =>
      simp only [List.map_cons, List.cons.injEq] at h
      -- the first unit is a digit, and scanners skip none
      have hskip : F.skipped c = false := F.skipped_hexDigit c (by rw [h.1]; rfl)
      simp [hskip]

/-- **Digits alone.** A text of one to eight hex digits is scanned to its end, and its number
is stored without loss. -/
theorem scanHexInt_of_digits (F : Foundation) {s : NSString} {digits : List (Fin 16)}
    (h : s.map hexDigit = digits.map some) (hne : digits ≠ []) (hlen : digits.length ≤ 8)
    (value : BitVec 32) :
    scanHexInt F s value = (true, BitVec.ofNat 32 (Numeral.value digits)) := by
  -- nothing is skipped and no prefix is passed over: the digits are the whole text
  have hnumeral : hexNumeral F (s.dropWhile F.skipped) = digits := by
    rw [dropWhile_skipped_of_digits F h]
    unfold hexNumeral
    rw [afterHexPrefix_of_digits h]
    exact leading_of_map_eq hexDigit h
  -- eight digits fit 32 bits, so the scanner does not saturate
  have hfits : Numeral.value digits < 2 ^ 32 := by
    calc Numeral.value digits < 16 ^ digits.length := value_lt (by decide) digits
      _ ≤ 16 ^ 8 := Nat.pow_le_pow_right (by decide) hlen
      _ = 2 ^ 32 := by decide
  unfold scanHexInt
  rw [hnumeral]
  cases digits with
  | nil => exact absurd rfl hne
  | cons d digits => simp only [if_pos hfits]

end HybridSample
