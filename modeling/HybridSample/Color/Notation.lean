import HybridSample.Color.ColorFromHexString

/-!
# The color notation `colorFromHexString:` decodes

`denoted` says what a color text means, in terms of its digits alone: `RRGGBBAA`, `RRGGBB`
with an opaque alpha, or the shorthand `RGB` with every digit doubled. The method reaches
that meaning in three moves, each with its lemma:

* **`normalizedHex_spells`** — the two length-driven rewrites turn the digits of any of the
  three forms into the eight digits of the long one (`completed`).
* **`scanHexInt_of_digits`** — the scan stores the number these eight digits denote.
* **`channels_of_digits`** — the shifts and masks cut that number back into digit pairs.
-/

namespace HybridSample

open Numeral

/-! ## The notation -/

/-- The byte written by two hex digits. -/
def hexByte (d₁ d₀ : Fin 16) : BitVec 8 :=
  BitVec.ofNatLT (16 * d₁.val + d₀.val) (by omega)

/-- The byte the shorthand writes by one digit, seventeen times its value. -/
def shorthandByte (d : Fin 16) : BitVec 8 :=
  BitVec.ofNatLT (17 * d.val) (by omega)

/-- The color a list of digits denotes, if it has one of the three forms. -/
def denoted : List (Fin 16) → Option UIColor
  | [r, g, b] => some ⟨shorthandByte r, shorthandByte g, shorthandByte b, 0xFF#8⟩
  | [r₁, r₀, g₁, g₀, b₁, b₀] => some ⟨hexByte r₁ r₀, hexByte g₁ g₀, hexByte b₁ b₀, 0xFF#8⟩
  | [r₁, r₀, g₁, g₀, b₁, b₀, a₁, a₀] =>
    some ⟨hexByte r₁ r₀, hexByte g₁ g₀, hexByte b₁ b₀, hexByte a₁ a₀⟩
  | _ => none

/-- Deleting every `#` from `s` leaves hex digits of these values, in either case. -/
def Spells (s : NSString) (digits : List (Fin 16)) : Prop :=
  (s.filter (· != 0x23)).map hexDigit = digits.map some

instance (s : NSString) (digits : List (Fin 16)) : Decidable (Spells s digits) := by
  unfold Spells; infer_instance

def byteDigits (byte : BitVec 8) : List (Fin 16) :=
  [⟨byte.toNat / 16, by have h := byte.isLt; omega⟩, ⟨byte.toNat % 16, by omega⟩]

/-- The eight digits of a color, in the order of its channels. -/
def UIColor.digits (color : UIColor) : List (Fin 16) :=
  [color.red, color.green, color.blue, color.alpha].flatMap byteDigits

/-- A color written as `RRGGBBAA`. -/
def UIColor.rrggbbaa (upper : Bool) (color : UIColor) : NSString :=
  color.digits.map (hexUnit upper)

/-! ## Cleaning: what is left are the digits -/

theorem hexUnit_ne_hash (upper : Bool) (d : Fin 16) : hexUnit upper d ≠ 0x23 := by
  revert upper d
  decide

/-- Digits written out spell themselves. -/
theorem spells_map_hexUnit (upper : Bool) (digits : List (Fin 16)) :
    Spells (digits.map (hexUnit upper)) digits := by
  -- there is no `#` to delete
  have hfilter : (digits.map (hexUnit upper)).filter (· != 0x23) = digits.map (hexUnit upper) := by
    apply List.filter_eq_self.mpr
    intro c hc
    obtain ⟨d, _, rfl⟩ := List.mem_map.mp hc
    simpa using hexUnit_ne_hash upper d
  unfold Spells
  rw [hfilter, List.map_map]
  exact List.map_congr_left fun d _ => hexDigit_hexUnit upper d

/-- A spelling consists of `#` and hex digits, all of them ASCII. -/
theorem Spells.ascii {s : NSString} {digits : List (Fin 16)} (h : Spells s digits) :
    ∀ c ∈ s, c.toNat < 0x80 := by
  intro c hc
  by_cases hhash : c = 0x23
  · rw [hhash]
    decide
  · have hkept : c ∈ s.filter (· != 0x23) := List.mem_filter.mpr ⟨hc, by simpa using hhash⟩
    -- a unit that survives the cleaning is a digit, and those are ASCII
    have hvalue : hexDigit c ∈ digits.map some := h ▸ List.mem_map_of_mem hkept
    obtain ⟨d, _, hd⟩ := List.mem_map.mp hvalue
    have hrange := range_of_hexDigit_isSome (c := c) (by rw [← hd]; rfl)
    omega

/-- On a spelling, the source’s cleaning leaves the digits, whatever the framework. -/
theorem Spells.cleaned (F : Foundation) {s : NSString} {digits : List (Fin 16)}
    (h : Spells s digits) :
    (NSString.stringByReplacingOccurrencesOfString F 0x23 [] s).map hexDigit
      = digits.map some := by
  rw [stringByReplacing_of_ascii F 0x23 h.ascii]
  exact h

/-! ## Normalizing: every form becomes the long one -/

/-- The digits that are scanned: the shorthand doubled, then an opaque alpha for both
short forms. -/
def completed : List (Fin 16) → List (Fin 16)
  | [r, g, b] => [r, r, g, g, b, b, Fin.last 15, Fin.last 15]
  | [r₁, r₀, g₁, g₀, b₁, b₀] => [r₁, r₀, g₁, g₀, b₁, b₀, Fin.last 15, Fin.last 15]
  | digits => digits

/-- The rewrites by length do to the text what `completed` does to its digits. -/
theorem normalizedHex_spells {s : NSString} {digits : List (Fin 16)}
    (h : s.map hexDigit = digits.map some) :
    (normalizedHex s).map hexDigit = (completed digits).map some := by
  -- the method counts units and the notation digits: the same number
  have hlen : s.length = digits.length := by simpa using congrArg List.length h
  by_cases h₃ : digits.length = 3
  · obtain ⟨r, g, b, rfl⟩ := List.length_eq_three.mp h₃
    obtain ⟨c₀, c₁, c₂, rfl⟩ := List.length_eq_three.mp (hlen.trans h₃)
    simp only [List.map_cons, List.map_nil, List.cons.injEq, and_true] at h
    rw [normalizedHex_three]
    simp only [List.map_append, List.map_cons, List.map_nil, h]
    rfl
  · by_cases h₆ : digits.length = 6
    · rw [normalizedHex_of_length_six (hlen.trans h₆), List.map_append, h]
      match digits, h₆ with
      | [_, _, _, _, _, _], _ => rfl
    · rw [normalizedHex_of_length_ne (by omega) (by omega), h]
      match digits, h₃, h₆ with
      | [], _, _ | [_], _, _ | [_, _], _, _ | [_, _, _, _], _, _ | [_, _, _, _, _], _, _ => rfl
      | _ :: _ :: _ :: _ :: _ :: _ :: _ :: _, _, _ => rfl

/-- Seventeen times a digit is that digit twice. -/
theorem shorthandByte_eq (d : Fin 16) : shorthandByte d = hexByte d d := by
  apply BitVec.eq_of_toNat_eq
  simp only [shorthandByte, hexByte, BitVec.toNat_ofNatLT]
  omega

/-- Whatever a text denotes, it denotes by the four digit pairs of its completion. -/
theorem completed_of_denoted {digits : List (Fin 16)} {color : UIColor}
    (h : denoted digits = some color) :
    ∃ r₁ r₀ g₁ g₀ b₁ b₀ a₁ a₀, completed digits = [r₁, r₀, g₁, g₀, b₁, b₀, a₁, a₀] ∧
      color = ⟨hexByte r₁ r₀, hexByte g₁ g₀, hexByte b₁ b₀, hexByte a₁ a₀⟩ := by
  unfold denoted at h
  split at h
  · next r g b =>
    refine ⟨r, r, g, g, b, b, 15, 15, rfl, ?_⟩
    rw [← Option.some.inj h, shorthandByte_eq, shorthandByte_eq, shorthandByte_eq]
    rfl
  · next r₁ r₀ g₁ g₀ b₁ b₀ =>
    exact ⟨r₁, r₀, g₁, g₀, b₁, b₀, 15, 15, rfl, (Option.some.inj h).symm⟩
  · next r₁ r₀ g₁ g₀ b₁ b₀ a₁ a₀ =>
    exact ⟨r₁, r₀, g₁, g₀, b₁, b₀, a₁, a₀, rfl, (Option.some.inj h).symm⟩
  · simp at h

/-! ## Cutting the number into channels -/

/-- A channel at bit `8 * j` is the digit pair that `2 * j` digits follow. -/
theorem channel_of_digits (hi lo : List (Fin 16)) {d₁ d₀ : Fin 16}
    (hlen : (hi ++ [d₁, d₀] ++ lo).length = 8) {k : Nat} (hk : k = 4 * lo.length) :
    ((BitVec.ofNat 32 (value (hi ++ [d₁, d₀] ++ lo)) >>> k) &&& 0xFF#32).setWidth 8
      = hexByte d₁ d₀ := by
  -- the number of eight digits is stored without loss
  have hfits : value (hi ++ [d₁, d₀] ++ lo) < 2 ^ 32 := by
    have h := value_lt (b := 16) (by decide) (hi ++ [d₁, d₀] ++ lo)
    rwa [hlen] at h
  -- four bits are one digit, so the window of bits is a window of digits
  have hwindow := value_window (b := 16) (by decide) hi [d₁, d₀] lo
  apply BitVec.eq_of_toNat_eq
  rw [channel_toNat, BitVec.toNat_ofNat, Nat.mod_eq_of_lt hfits, hk,
    show 2 ^ (4 * lo.length) = 16 ^ lo.length from by rw [Nat.pow_mul],
    show 2 ^ 8 = 16 ^ [d₁, d₀].length from rfl, hwindow, value_pair, hexByte,
    BitVec.toNat_ofNatLT]
  omega

/-- The four channels of an eight-digit number are its digit pairs. -/
theorem channels_of_digits (r₁ r₀ g₁ g₀ b₁ b₀ a₁ a₀ : Fin 16) :
    channels (BitVec.ofNat 32 (value [r₁, r₀, g₁, g₀, b₁, b₀, a₁, a₀]))
      = ⟨hexByte r₁ r₀, hexByte g₁ g₀, hexByte b₁ b₀, hexByte a₁ a₀⟩ := by
  unfold channels
  rw [UIColor.mk.injEq]
  refine ⟨?_, ?_, ?_, ?_⟩
  · exact channel_of_digits [] [g₁, g₀, b₁, b₀, a₁, a₀] rfl rfl
  · exact channel_of_digits [r₁, r₀] [b₁, b₀, a₁, a₀] rfl rfl
  · exact channel_of_digits [r₁, r₀, g₁, g₀] [a₁, a₀] rfl rfl
  · exact channel_of_digits [r₁, r₀, g₁, g₀, b₁, b₀] [] rfl rfl

/-! ## The method decodes the notation -/

/-- **Refinement.** On every spelling of a color text the method returns what the notation
denotes, whatever the uninitialised local held. -/
theorem colorFromHexString_of_spells (F : Foundation) (baseValue : BitVec 32) {s : NSString}
    {digits : List (Fin 16)} {color : UIColor} (hs : Spells s digits)
    (hcolor : denoted digits = some color) : colorFromHexString F baseValue s = color := by
  obtain ⟨r₁, r₀, g₁, g₀, b₁, b₀, a₁, a₀, hcompleted, rfl⟩ := completed_of_denoted hcolor
  -- clean, normalize, scan, cut: one lemma for each move of the method
  have hdigits := normalizedHex_spells (hs.cleaned F)
  rw [hcompleted] at hdigits
  have hscan := scanHexInt_of_digits F hdigits (by simp) (by simp) baseValue
  unfold colorFromHexString
  dsimp only
  rw [hscan]
  exact channels_of_digits r₁ r₀ g₁ g₀ b₁ b₀ a₁ a₀

/-- A color written with its own digits is denoted by them. -/
theorem denoted_digits (color : UIColor) : denoted color.digits = some color := by
  -- a byte is put together again from its two digits
  have hbyte : ∀ (byte : BitVec 8) h₁ h₀,
      hexByte ⟨byte.toNat / 16, h₁⟩ ⟨byte.toNat % 16, h₀⟩ = byte := by
    intro byte h₁ h₀
    apply BitVec.eq_of_toNat_eq
    simp only [hexByte, BitVec.toNat_ofNatLT]
    omega
  show some (UIColor.mk _ _ _ _) = some color
  rw [hbyte, hbyte, hbyte, hbyte]

theorem denoted_isSome {digits : List (Fin 16)}
    (h : digits.length = 3 ∨ digits.length = 6 ∨ digits.length = 8) :
    ∃ color, denoted digits = some color := by
  match digits, h with
  | [_, _, _], _ | [_, _, _, _, _, _], _ | [_, _, _, _, _, _, _, _], _ => exact ⟨_, rfl⟩
  | [], h | [_], h | [_, _], h | [_, _, _, _], h | [_, _, _, _, _], h | [_, _, _, _, _, _, _], h
  | _ :: _ :: _ :: _ :: _ :: _ :: _ :: _ :: _ :: _, h => simp at h

/-- **The whole format.** A string that leaves three, six or eight hex digits without its `#`
decodes to the color these digits denote. So writing a color as `RRGGBBAA` and decoding it
gives the color back, and `RGB`, `RRGGBB` and `RRGGBBff` decode alike. -/
theorem colorFromHexString_decodes (F : Foundation) (baseValue : BitVec 32) :
    (∀ s digits, Spells s digits →
      digits.length = 3 ∨ digits.length = 6 ∨ digits.length = 8 →
      denoted digits = some (colorFromHexString F baseValue s)) ∧
    (∀ upper r g b a, colorFromHexString F baseValue (UIColor.rrggbbaa upper ⟨r, g, b, a⟩)
      = ⟨r, g, b, a⟩) ∧
    (∀ r g b rgb rrggbb rrggbbff, Spells rgb [r, g, b] → Spells rrggbb [r, r, g, g, b, b] →
      Spells rrggbbff [r, r, g, g, b, b, 15, 15] →
      colorFromHexString F baseValue rgb = colorFromHexString F baseValue rrggbb ∧
      colorFromHexString F baseValue rrggbb = colorFromHexString F baseValue rrggbbff) := by
  refine ⟨?_, ?_, ?_⟩
  · intro s digits hs hlen
    obtain ⟨color, hcolor⟩ := denoted_isSome hlen
    rw [colorFromHexString_of_spells F baseValue hs hcolor, hcolor]
  · intro upper r g b a
    exact colorFromHexString_of_spells F baseValue (spells_map_hexUnit upper _)
      (denoted_digits ⟨r, g, b, a⟩)
  · intro r g b rgb rrggbb rrggbbff hrgb hrrggbb hrrggbbff
    -- all three denote the color of the long form
    have hlong : denoted [r, r, g, g, b, b, 15, 15]
        = some ⟨hexByte r r, hexByte g g, hexByte b b, hexByte 15 15⟩ := rfl
    have hmid : denoted [r, r, g, g, b, b]
        = some ⟨hexByte r r, hexByte g g, hexByte b b, hexByte 15 15⟩ := rfl
    have hshort : denoted [r, g, b]
        = some ⟨hexByte r r, hexByte g g, hexByte b b, hexByte 15 15⟩ := by
      rw [← shorthandByte_eq, ← shorthandByte_eq, ← shorthandByte_eq]
      rfl
    rw [colorFromHexString_of_spells F baseValue hrgb hshort,
      colorFromHexString_of_spells F baseValue hrrggbb hmid,
      colorFromHexString_of_spells F baseValue hrrggbbff hlong]
    exact ⟨rfl, rfl⟩

/-- The bot icon's `#3C65AA` through the format: an opaque color of these three bytes. -/
theorem colorFromHexString_decodes_botIcon :
    Spells (NSString.ascii "#3C65AA") [3, 12, 6, 5, 10, 10] ∧
      colorFromHexString Foundation.documented 0#32 (NSString.ascii "#3C65AA")
        = ⟨0x3C#8, 0x65#8, 0xAA#8, 0xFF#8⟩ := by
  have hs : Spells (NSString.ascii "#3C65AA") [3, 12, 6, 5, 10, 10] := by decide
  have h := (colorFromHexString_decodes Foundation.documented 0#32).1 _ _ hs (by decide)
  exact ⟨hs, (Option.some.inj h).symm⟩

end HybridSample
