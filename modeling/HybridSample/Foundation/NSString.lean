import Mathlib.Data.Fintype.Basic
import Mathlib.Tactic.IntervalCases

/-!
# `NSString` as the sources use it

An `NSString` is a sequence of UTF-16 code units: `length` counts units, and
`substringWithRange:` cuts between any two of them. Two things the framework decides for
itself stay open in `Foundation`: which units its scanners skip, and which texts join the
unit in front of them into one composed character, where a search does not stop.
-/

namespace HybridSample

abbrev Unichar := UInt16

abbrev NSString := List Unichar

/-- An ASCII literal `@"…"`. -/
def NSString.ascii (text : String) : NSString :=
  text.toList.map fun c => UInt16.ofNat c.toNat

/-! ## Hex digits -/

/-- The value of a hex digit in either case, `none` for every other unit. -/
def hexDigit (c : Unichar) : Option (Fin 16) :=
  if 0x30 ≤ c.toNat ∧ c.toNat ≤ 0x39 then some (Fin.ofNat 16 (c.toNat - 0x30))
  else if 0x41 ≤ c.toNat ∧ c.toNat ≤ 0x46 then some (Fin.ofNat 16 (c.toNat - 0x41 + 10))
  else if 0x61 ≤ c.toNat ∧ c.toNat ≤ 0x66 then some (Fin.ofNat 16 (c.toNat - 0x61 + 10))
  else none

/-- The unit that writes a digit, `A` to `F` or `a` to `f` above nine. -/
def hexUnit (upper : Bool) (d : Fin 16) : Unichar :=
  if d.val ≤ 9 then UInt16.ofNat (0x30 + d.val)
  else if upper then UInt16.ofNat (0x41 + (d.val - 10))
  else UInt16.ofNat (0x61 + (d.val - 10))

/-- A written digit is read back, in either case. -/
@[simp] theorem hexDigit_hexUnit (upper : Bool) (d : Fin 16) :
    hexDigit (hexUnit upper d) = some d := by
  revert upper d
  decide

/-- The three ranges hex digits come from. -/
theorem range_of_hexDigit_isSome {c : Unichar} (h : (hexDigit c).isSome) :
    (0x30 ≤ c.toNat ∧ c.toNat ≤ 0x39) ∨ (0x41 ≤ c.toNat ∧ c.toNat ≤ 0x46)
      ∨ (0x61 ≤ c.toNat ∧ c.toNat ≤ 0x66) := by
  unfold hexDigit at h
  split at h
  · next h₁ => exact Or.inl h₁
  · split at h
    · next h₂ => exact Or.inr (Or.inl h₂)
    · split at h
      · next h₃ => exact Or.inr (Or.inr h₃)
      · simp at h

/-! ## What the framework decides -/

/-- The behaviour of Foundation its documentation leaves to the framework. -/
structure Foundation where
  /-- Membership in `whitespaceAndNewlineCharacterSet`, which scanners skip. -/
  skipped : Unichar → Bool
  /-- Whether a text joins the unit in front of it into one composed character. Searches
  are nonliteral by default and match whole composed characters only. -/
  combining : NSString → Bool
  /-- Whether a `0x` that no hex digit follows still counts as the number `0`. -/
  readsBarePrefix : Bool
  skipped_hexDigit : ∀ c, (hexDigit c).isSome → skipped c = false
  combining_nil : combining [] = false
  combining_ascii : ∀ c text, c.toNat < 0x80 → combining (c :: text) = false

/-- `whitespaceAndNewlineCharacterSet` as documented: the separators of Unicode, the tab,
`U+000A` to `U+000D` and `U+0085`. -/
def whitespaceAndNewline (c : Unichar) : Bool :=
  (0x09 ≤ c.toNat && c.toNat ≤ 0x0D) || c.toNat == 0x20 || c.toNat == 0x85 || c.toNat == 0xA0
    || c.toNat == 0x1680 || (0x2000 ≤ c.toNat && c.toNat ≤ 0x200A) || c.toNat == 0x2028
    || c.toNat == 0x2029 || c.toNat == 0x202F || c.toNat == 0x205F || c.toNat == 0x3000

/-- The blocks of combining marks, with the joiner and the variation selectors. -/
def combiningMark (c : Unichar) : Bool :=
  (0x0300 ≤ c.toNat && c.toNat ≤ 0x036F) || c.toNat == 0x200D
    || (0x20D0 ≤ c.toNat && c.toNat ≤ 0x20FF) || (0xFE00 ≤ c.toNat && c.toNat ≤ 0xFE0F)

/-- No hex digit is a blank. -/
theorem whitespaceAndNewline_hexDigit (c : Unichar) (h : (hexDigit c).isSome) :
    whitespaceAndNewline c = false := by
  have hrange := range_of_hexDigit_isSome h
  simp only [whitespaceAndNewline, Bool.or_eq_false_iff, Bool.and_eq_false_iff,
    decide_eq_false_iff_not, beq_eq_false_iff_ne]
  omega

/-- A framework that follows the documentation and wants a digit after `0x`. -/
def Foundation.documented : Foundation where
  skipped := whitespaceAndNewline
  combining text := text.head?.any combiningMark
  readsBarePrefix := false
  skipped_hexDigit := whitespaceAndNewline_hexDigit
  combining_nil := rfl
  combining_ascii := by
    intro c text h
    simp only [List.head?_cons, Option.any_some, combiningMark, Bool.or_eq_false_iff,
      Bool.and_eq_false_iff, decide_eq_false_iff_not, beq_eq_false_iff_ne]
    omega

/-! ## The string operations -/

/-- `stringByReplacingOccurrencesOfString:withString:` for a target of one unit, the only
kind the sources search for. A target that the text after it joins is no occurrence. -/
def NSString.stringByReplacingOccurrencesOfString (F : Foundation) (target : Unichar)
    (replacement : NSString) : NSString → NSString
  | [] => []
  | c :: text =>
    let rest := stringByReplacingOccurrencesOfString F target replacement text
    if c = target ∧ F.combining text = false then replacement ++ rest else c :: rest

/-- `substringWithRange:` of `NSMakeRange(location, length)`, for a range inside the string. -/
def NSString.substringWithRange (s : NSString) (location length : Nat) : NSString :=
  (s.drop location).take length

def NSString.stringByAppendingString (s suffix : NSString) : NSString := s ++ suffix

/-- `stringWithFormat:` for a format made of `%@` alone. -/
def NSString.stringWithObjects (arguments : List NSString) : NSString := arguments.flatten

/-- In an ASCII text nothing combines, and replacing a unit by nothing deletes every
occurrence of it. -/
theorem stringByReplacing_of_ascii (F : Foundation) (target : Unichar) {s : NSString}
    (h : ∀ c ∈ s, c.toNat < 0x80) :
    NSString.stringByReplacingOccurrencesOfString F target [] s = s.filter (· != target) := by
  induction s with
  | nil => rfl
  | cons c text ih =>
    have ih := ih fun d hd => h d (by simp [hd])
    -- what follows `c` starts with an ASCII unit or is empty, and joins nothing
    have hcombining : F.combining text = false := by
      cases text with
      | nil => exact F.combining_nil
      | cons d rest => exact F.combining_ascii d rest (h d (by simp))
    by_cases hc : c = target
    · simp [NSString.stringByReplacingOccurrencesOfString, hc, hcombining, ih]
    · simp [NSString.stringByReplacingOccurrencesOfString, hc, ih]

end HybridSample
