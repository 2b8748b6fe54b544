import HybridSample.App
import HybridSample.Color.Notation

/-!
# When `baseValue` is assigned before the shifts read it

`colorFromHexString:` declares `unsigned int baseValue` without an initialiser and ignores the
answer of `scanHexInt:`. Where the scan finds no number it writes nothing, and the shifts
read whatever the local held.

`AssignsBaseValue` is the exact set of cleaned strings on which the scan writes. Each of the
two rewrites in front of it can turn a text without a number into one with a number: a
blank text of length 3 or 6 gains the digits `ff`, a bare `0x` at the end of a text of
length 6 gains them behind its prefix, and doubling a text of length 3 takes its prefix
apart.
-/

namespace HybridSample

open Numeral

/-- The cleaned strings on which `scanHexInt:` writes. After its blanks, the string is empty
and of a length that gains `ff`; or it goes on with a hex digit, which is not the `0` of a
`0x` that still misses its digits when it is scanned.

A cleaned string is without the `#` that `stringByReplacingOccurrencesOfString:` finds. One
that a combining mark joins to what it stands on is not found and stays, and no hex digit
either. -/
def AssignsBaseValue (F : Foundation) (cleanString : NSString) : Prop :=
  match cleanString.dropWhile F.skipped with
  | [] => cleanString.length = 3 ∨ cleanString.length = 6
  | c :: rest =>
    (hexDigit c).isSome = true ∧
      ∀ tail ∈ afterHexPrefix (c :: rest),
        F.readsBarePrefix = true ∨ startsWithDigit hexDigit tail = true
          ∨ cleanString.length = 3 ∨ (cleanString.length = 6 ∧ tail = [])

theorem assignsBaseValue_of_blank {F : Foundation} {s : NSString}
    (h : s.dropWhile F.skipped = []) : AssignsBaseValue F s ↔ s.length = 3 ∨ s.length = 6 := by
  unfold AssignsBaseValue
  rw [h]

theorem assignsBaseValue_of_cons {F : Foundation} {s : NSString} {c : Unichar} {rest : NSString}
    (h : s.dropWhile F.skipped = c :: rest) :
    AssignsBaseValue F s ↔ (hexDigit c).isSome = true ∧
      ∀ tail ∈ afterHexPrefix (c :: rest),
        F.readsBarePrefix = true ∨ startsWithDigit hexDigit tail = true
          ∨ s.length = 3 ∨ (s.length = 6 ∧ tail = []) := by
  unfold AssignsBaseValue
  rw [h]

/-! ## The appended `ff` -/

/-- The appended digits are no blanks, -/
theorem dropWhile_skipped_ff (F : Foundation) :
    (NSString.ascii "ff").dropWhile F.skipped = NSString.ascii "ff" :=
  dropWhile_skipped_of_digits F (show (NSString.ascii "ff").map hexDigit = [15, 15].map some from rfl)

/-- and they are a number by themselves. -/
theorem hexNumberAt_ff (F : Foundation) : HexNumberAt F (NSString.ascii "ff") :=
  ⟨rfl, fun _ h => by simp [show afterHexPrefix (NSString.ascii "ff") = none from rfl] at h⟩

/-- Appending `ff` never makes a prefix: an `f` is no `x`. -/
theorem afterHexPrefix_append_ff (text : NSString) :
    afterHexPrefix (text ++ NSString.ascii "ff")
      = (afterHexPrefix text).map (· ++ NSString.ascii "ff") := by
  match text with
  | [] => rfl
  | [c] =>
    show (if c = 0x30 ∧ ((0x66 : Unichar) = 0x78 ∨ (0x66 : Unichar) = 0x58)
      then some [(0x66 : Unichar)] else none) = none
    exact if_neg fun h => absurd h.2 (by decide)
  | c₀ :: c₁ :: text =>
    show (if c₀ = 0x30 ∧ (c₁ = 0x78 ∨ c₁ = 0x58)
        then some (text ++ NSString.ascii "ff") else none)
      = (if c₀ = 0x30 ∧ (c₁ = 0x78 ∨ c₁ = 0x58) then some text else none).map _
    split <;> rfl

/-- Behind a prefix they are the digit it misses. -/
theorem startsWithDigit_append_ff (text : NSString) :
    startsWithDigit hexDigit (text ++ NSString.ascii "ff") = true
      ↔ startsWithDigit hexDigit text = true ∨ text = [] := by
  cases text with
  | nil => simp [show startsWithDigit hexDigit (NSString.ascii "ff") = true from rfl]
  | cons c text => simp

/-! ## The scanned text, by the length of the cleaned one -/

/-- A text that starts with a doubled unit has no prefix: `0` is no `x`. -/
theorem hexNumberAt_doubled (F : Foundation) (c : Unichar) (text : NSString) :
    HexNumberAt F (c :: c :: text) ↔ (hexDigit c).isSome = true := by
  -- a unit cannot be the `0` and the `x` of a prefix at once
  have hnone : afterHexPrefix (c :: c :: text) = none := by
    show (if c = 0x30 ∧ (c = 0x78 ∨ c = 0x58) then some text else none) = none
    rw [if_neg]
    rintro ⟨rfl, h | h⟩ <;> exact absurd h (by decide)
  unfold HexNumberAt
  rw [hnone]
  simp

/-- Length 3: the first unit that is not blank decides, and a blank text leaves the `ff`. -/
theorem hexNumberAt_normalizedHex_three (F : Foundation) (c₀ c₁ c₂ : Unichar) :
    HexNumberAt F ((normalizedHex [c₀, c₁, c₂]).dropWhile F.skipped)
      ↔ AssignsBaseValue F [c₀, c₁, c₂] := by
  rw [normalizedHex_three]
  cases h₀ : F.skipped c₀ with
  | false =>
    have hrest : [c₀, c₁, c₂].dropWhile F.skipped = [c₀, c₁, c₂] := by simp [h₀]
    rw [assignsBaseValue_of_cons hrest]
    simp [h₀, hexNumberAt_doubled]
  | true =>
    cases h₁ : F.skipped c₁ with
    | false =>
      have hrest : [c₀, c₁, c₂].dropWhile F.skipped = [c₁, c₂] := by simp [h₀, h₁]
      rw [assignsBaseValue_of_cons hrest]
      simp [h₀, h₁, hexNumberAt_doubled]
    | true =>
      cases h₂ : F.skipped c₂ with
      | false =>
        have hrest : [c₀, c₁, c₂].dropWhile F.skipped = [c₂] := by simp [h₀, h₁, h₂]
        rw [assignsBaseValue_of_cons hrest]
        simp [h₀, h₁, h₂, hexNumberAt_doubled]
      | true =>
        -- three blanks double to six, and the scan reaches the `ff` behind them
        rw [assignsBaseValue_of_blank (by simp [h₀, h₁, h₂])]
        simp [h₀, h₁, h₂, dropWhile_skipped_ff, hexNumberAt_ff]

/-- Length 6: the appended `ff` is reached by a blank text and by a prefix at the end. -/
theorem hexNumberAt_normalizedHex_six (F : Foundation) {s : NSString} (hlen : s.length = 6) :
    HexNumberAt F ((normalizedHex s).dropWhile F.skipped) ↔ AssignsBaseValue F s := by
  rw [normalizedHex_of_length_six hlen, List.dropWhile_append]
  cases hrest : s.dropWhile F.skipped with
  | nil =>
    rw [assignsBaseValue_of_blank hrest]
    simp [dropWhile_skipped_ff, hexNumberAt_ff, hlen]
  -- a unit that is not blank stops the skipping, so the `ff` stays at the end
  | cons c rest =>
    rw [assignsBaseValue_of_cons hrest, hlen]
    show HexNumberAt F ((c :: rest) ++ NSString.ascii "ff") ↔ _
    unfold HexNumberAt
    rw [afterHexPrefix_append_ff]
    simp [startsWithDigit_append_ff]

/-- Any other length: the text is scanned as it is. -/
theorem hexNumberAt_normalizedHex_of_length_ne (F : Foundation) {s : NSString}
    (h₃ : s.length ≠ 3) (h₆ : s.length ≠ 6) :
    HexNumberAt F ((normalizedHex s).dropWhile F.skipped) ↔ AssignsBaseValue F s := by
  rw [normalizedHex_of_length_ne h₃ h₆]
  cases hrest : s.dropWhile F.skipped with
  | nil =>
    rw [assignsBaseValue_of_blank hrest]
    simp [HexNumberAt, h₃, h₆]
  | cons c rest =>
    rw [assignsBaseValue_of_cons hrest]
    simp [HexNumberAt, h₃, h₆]

/-- The scan finds a number in the text it is given exactly when the cleaned one assigns. -/
theorem hexNumberAt_normalizedHex_iff (F : Foundation) (s : NSString) :
    HexNumberAt F ((normalizedHex s).dropWhile F.skipped) ↔ AssignsBaseValue F s := by
  by_cases h₃ : s.length = 3
  · obtain ⟨c₀, c₁, c₂, rfl⟩ := List.length_eq_three.mp h₃
    exact hexNumberAt_normalizedHex_three F c₀ c₁ c₂
  · by_cases h₆ : s.length = 6
    · exact hexNumberAt_normalizedHex_six F h₆
    · exact hexNumberAt_normalizedHex_of_length_ne F h₃ h₆

/-! ## The color and the stack -/

/-- Where the scan writes nothing, the returned color is the leftover content of the local. -/
theorem colorFromHexString_of_not_assigns {F : Foundation} {s : NSString}
    (h : ¬ AssignsBaseValue F (NSString.stringByReplacingOccurrencesOfString F 0x23 [] s))
    (baseValue : BitVec 32) : colorFromHexString F baseValue s = channels baseValue := by
  -- no number is found, so the scan leaves the local as it was
  have hnumber := mt (hexNumberAt_normalizedHex_iff F _).mp h
  unfold colorFromHexString
  dsimp only
  rw [scanHexInt_of_not_hexNumberAt hnumber]

/-- **The color depends on the string alone** exactly when the cleaned string assigns
`baseValue` before the shifts read it. -/
theorem colorFromHexString_eq_iff (F : Foundation) (s : NSString) :
    (∀ baseValue baseValue' : BitVec 32,
      colorFromHexString F baseValue s = colorFromHexString F baseValue' s)
      ↔ AssignsBaseValue F (NSString.stringByReplacingOccurrencesOfString F 0x23 [] s) := by
  constructor
  · intro hsame
    by_contra hassigns
    -- any two leftovers that differ give two colors
    have h := hsame 0#32 (BitVec.allOnes 32)
    rw [colorFromHexString_of_not_assigns hassigns,
      colorFromHexString_of_not_assigns hassigns] at h
    exact absurd (channels_injective h) (by decide)
  · intro hassigns baseValue baseValue'
    -- a number is found, and the scan forgets the leftover
    have hnumber := (hexNumberAt_normalizedHex_iff F _).mpr hassigns
    unfold colorFromHexString
    dsimp only
    rw [scanHexInt_eq_of_hexNumberAt hnumber baseValue baseValue']

/-- From an empty string the two ends of the range of the local come back as they are. -/
theorem colorFromHexString_empty_differs :
    ¬ ∀ baseValue baseValue' : BitVec 32,
      colorFromHexString Foundation.documented baseValue (NSString.ascii "")
        = colorFromHexString Foundation.documented baseValue' (NSString.ascii "") := by
  intro hsame
  exact absurd (hsame 0#32 0xFFFFFFFF#32) (by decide)

/-! ## The color the app asks for -/

/-- The bot icon's `#3C65AA` is in the notation. -/
theorem spells_botIconBackgroundColor :
    Spells ProjectStringConstant.botIconBackgroundColor [3, 12, 6, 5, 10, 10] := by
  decide

section Runs

variable [MessagingKit] {tables : LanguageTables} (screens : Nat → Option Screen)

/-- No message touches the color of the button. -/
theorem askMeButtonTitleColor_step (app : App tables) (event : Event tables) :
    (app.step screens event).1.viewController.askMeButtonTitleColor
      = app.viewController.askMeButtonTitleColor := by
  cases event with
  | viewController message =>
    cases message with
    | askTohandlePushTap userInfo => cases userInfo <;> rfl
    | _ => rfl
  | loginViewController fields message => rfl
  | screenReleased screen => rfl

/-- The app's own call is in the notation: in every run, and whatever the stack held in
`viewDidLoad`, the button has the opaque color of `#3C65AA`. -/
theorem run_askMeButtonTitleColor (F : Foundation) (baseValue : BitVec 32)
    (launchOptions : Option LaunchOptions) (events : List (Event tables)) :
    (Reactive.run (App.step screens) (App.launch F baseValue tables launchOptions)
        events).viewController.askMeButtonTitleColor
      = ⟨0x3C#8, 0x65#8, 0xAA#8, 0xFF#8⟩ := by
  -- the color is written at the launch, from a text of the notation
  have hlaunch : (App.launch F baseValue tables launchOptions).viewController.askMeButtonTitleColor
      = ⟨0x3C#8, 0x65#8, 0xAA#8, 0xFF#8⟩ :=
    colorFromHexString_of_spells F baseValue spells_botIconBackgroundColor rfl
  refine Reactive.run_invariant (App.step screens)
    (P := fun app => app.viewController.askMeButtonTitleColor = ⟨0x3C#8, 0x65#8, 0xAA#8, 0xFF#8⟩)
    ?_ hlaunch events
  intro app event h
  exact (askMeButtonTitleColor_step screens app event).trans h

end Runs

end HybridSample
