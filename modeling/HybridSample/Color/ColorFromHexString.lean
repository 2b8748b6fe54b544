import HybridSample.Foundation.NSScanner

/-!
# `-[ViewController colorFromHexString:]`

The method cleans the `#` out of its argument, doubles a three-digit text, appends `ff` to a
six-digit one and scans the result into `unsigned int baseValue`, a local without an
initialiser. What the local holds before the scan is an argument here. The result of the
scan is ignored, as in the source.
-/

namespace HybridSample

/-- `UIColor` as `colorWithRed:green:blue:alpha:` gets it, each channel `k` standing for the
component `k/255.0f`. -/
structure UIColor where
  red : BitVec 8
  green : BitVec 8
  blue : BitVec 8
  alpha : BitVec 8
  deriving DecidableEq

/-- The text that is scanned: the cleaned string, doubled at length 3 and completed by an
opaque alpha at length 6. -/
def normalizedHex (cleanString : NSString) : NSString :=
  let cleanString :=
    if cleanString.length = 3 then
      NSString.stringWithObjects
        [cleanString.substringWithRange 0 1, cleanString.substringWithRange 0 1,
         cleanString.substringWithRange 1 1, cleanString.substringWithRange 1 1,
         cleanString.substringWithRange 2 1, cleanString.substringWithRange 2 1]
    else cleanString
  -- a text doubled above has length 6 by now and gains its alpha here
  if cleanString.length = 6 then
    cleanString.stringByAppendingString (NSString.ascii "ff")
  else cleanString

/-- The shifts and masks at the end of the method, from the top byte down. -/
def channels (baseValue : BitVec 32) : UIColor where
  red := ((baseValue >>> 24) &&& 0xFF#32).setWidth 8
  green := ((baseValue >>> 16) &&& 0xFF#32).setWidth 8
  blue := ((baseValue >>> 8) &&& 0xFF#32).setWidth 8
  alpha := ((baseValue >>> 0) &&& 0xFF#32).setWidth 8

/-- `colorFromHexString:`, with the initial content of the local `baseValue`. -/
def colorFromHexString (F : Foundation) (baseValue : BitVec 32) (hexString : NSString) : UIColor :=
  let cleanString := NSString.stringByReplacingOccurrencesOfString F 0x23 [] hexString
  let cleanString := normalizedHex cleanString
  -- the answer is dropped, and with it whether anything was stored
  let baseValue := (scanHexInt F cleanString baseValue).2
  channels baseValue

/-! ## The normalized text, by the length of the cleaned one -/

theorem normalizedHex_three (c₀ c₁ c₂ : Unichar) :
    normalizedHex [c₀, c₁, c₂] = [c₀, c₀, c₁, c₁, c₂, c₂] ++ NSString.ascii "ff" := rfl

theorem normalizedHex_of_length_six {s : NSString} (h : s.length = 6) :
    normalizedHex s = s ++ NSString.ascii "ff" := by
  simp [normalizedHex, NSString.stringByAppendingString, h]

theorem normalizedHex_of_length_ne {s : NSString} (h₃ : s.length ≠ 3) (h₆ : s.length ≠ 6) :
    normalizedHex s = s := by
  simp [normalizedHex, h₃, h₆]

/-! ## The channels as windows of the scanned number -/

/-- A channel is the window of eight bits that starts at bit `k`. -/
theorem channel_toNat (baseValue : BitVec 32) (k : Nat) :
    (((baseValue >>> k) &&& 0xFF#32).setWidth 8).toNat = baseValue.toNat / 2 ^ k % 2 ^ 8 := by
  have h := Numeral.toNat_ushiftRight_and_low baseValue k (m := 8) (by decide)
  rw [show BitVec.ofNat 32 (2 ^ 8 - 1) = 0xFF#32 from rfl] at h
  rw [BitVec.toNat_setWidth, h, Nat.mod_mod]

/-- Two words with the same channels are equal: the four windows cover all 32 bits. -/
theorem channels_injective {v w : BitVec 32} (h : channels v = channels w) : v = w := by
  -- equal channels are equal windows of eight bits at 24, 16, 8 and 0
  obtain ⟨hr, hg, hb, ha⟩ := UIColor.mk.inj h
  have hr := congrArg BitVec.toNat hr
  have hg := congrArg BitVec.toNat hg
  have hb := congrArg BitVec.toNat hb
  have ha := congrArg BitVec.toNat ha
  rw [channel_toNat, channel_toNat] at hr hg hb ha
  apply BitVec.eq_of_toNat_eq
  have hv := v.isLt
  have hw := w.isLt
  omega

end HybridSample
