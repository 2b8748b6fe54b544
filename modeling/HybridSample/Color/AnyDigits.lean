import HybridSample.Color.Notation

/-!
# Color texts outside the notation

`colorFromHexString:` counts its digits only to complete a short form, and does not look at
the answer of the scan. Every text with a hex number in it therefore has a color, and this
module says which: the digits are read from the right.

* **`scanned`** — the color of any run of digits: its last eight as `RRGGBBAA`, with zeros for
  the ones that are missing, and opaque white when a digit in front of these counts.
* **`colorFromHexString_of_hexNumeral`** — the method returns the color of the digits it scans.
* **`colorFromHexString_of_any_digits`** — for a text of digits these are the completed ones.
* **`colorFromHexString_eq_iff_storedDigits`** — which texts have the same color.
* **`colorFromHexString_of_prefixed`** — and with a `0x` they are not the digits behind it in
  two lengths, the ones the method takes for a short form.
-/

namespace HybridSample

open Numeral

/-! ## Reading from the right -/

def zeroDigit : Fin 16 := ⟨0, by decide⟩

/-- The last eight digits, zeros standing in for missing ones. -/
def rightAligned (digits : List (Fin 16)) : List (Fin 16) :=
  (List.replicate 8 zeroDigit ++ digits).drop digits.length

/-- The digits in front of the last eight. -/
def surplus (digits : List (Fin 16)) : List (Fin 16) :=
  digits.take (digits.length - 8)

def opaqueWhite : UIColor := ⟨0xFF#8, 0xFF#8, 0xFF#8, 0xFF#8⟩

/-- The color of the number that `digits` denote, saturated like the scanner’s. -/
def scanned (digits : List (Fin 16)) : UIColor :=
  if ∀ d ∈ surplus digits, d.val = 0 then (denoted (rightAligned digits)).getD opaqueWhite
  else opaqueWhite

theorem length_rightAligned (digits : List (Fin 16)) : (rightAligned digits).length = 8 := by
  unfold rightAligned
  rw [List.length_drop, List.length_append, List.length_replicate]
  omega

/-- With the eight zeros in front, the digits are the surplus ones and the last eight. -/
theorem zeros_append_eq (digits : List (Fin 16)) :
    List.replicate 8 zeroDigit ++ digits
      = List.replicate (min 8 digits.length) zeroDigit ++ surplus digits ++ rightAligned digits := by
  -- `rightAligned` drops as many digits as there are; these are what it drops
  have htake : (List.replicate 8 zeroDigit ++ digits).take digits.length
      = List.replicate (min 8 digits.length) zeroDigit ++ surplus digits := by
    rw [List.take_append, List.take_replicate, List.length_replicate, Nat.min_comm]
    rfl
  unfold rightAligned
  rw [← htake, List.take_append_drop]

theorem value_zeros_append (n : Nat) (digits : List (Fin 16)) :
    value (List.replicate n zeroDigit ++ digits) = value digits := by
  apply value_append_of_zeros
  intro d hd
  rw [List.eq_of_mem_replicate hd]
  rfl

/-- Surplus zeros leave the number to the last eight digits, -/
theorem value_eq_rightAligned {digits : List (Fin 16)} (h : ∀ d ∈ surplus digits, d.val = 0) :
    value digits = value (rightAligned digits) := by
  rw [← value_zeros_append 8 digits, zeros_append_eq, List.append_assoc, value_zeros_append]
  exact value_append_of_zeros h _

/-- and a surplus digit that counts takes it out of 32 bits. -/
theorem le_value_of_surplus {digits : List (Fin 16)} (h : ¬ ∀ d ∈ surplus digits, d.val = 0) :
    2 ^ 32 ≤ value digits := by
  -- eight positions stand behind the surplus, and `16 ^ 8` is `2 ^ 32`
  have hpow := pow_le_value_append h (rightAligned digits)
  rw [length_rightAligned] at hpow
  rw [← value_zeros_append 8 digits, zeros_append_eq, List.append_assoc, value_zeros_append]
  exact hpow

theorem value_lt_of_length_eight {digits : List (Fin 16)} (h : digits.length = 8) :
    value digits < 2 ^ 32 := by
  have hlt := value_lt (b := 16) (by decide) digits
  rwa [h] at hlt

/-! ## The number that is stored -/

/-- What the scanner stores for the number `n`. -/
def saturated (n : Nat) : BitVec 32 :=
  if n < 2 ^ 32 then BitVec.ofNat 32 n else uintMax

/-- Eight digits denote the channels of their number. -/
theorem denoted_of_length_eight {digits : List (Fin 16)} (h : digits.length = 8) :
    denoted digits = some (channels (BitVec.ofNat 32 (value digits))) := by
  match digits, h with
  | [r₁, r₀, g₁, g₀, b₁, b₀, a₁, a₀], _ =>
    rw [channels_of_digits]
    rfl

/-- The stored number has the color that is read from the right. -/
theorem channels_saturated (digits : List (Fin 16)) :
    channels (saturated (value digits)) = scanned digits := by
  unfold scanned saturated
  by_cases hsurplus : ∀ d ∈ surplus digits, d.val = 0
  · -- only zeros in front: the number fits and its channels are its last digit pairs
    have hvalue := value_eq_rightAligned hsurplus
    have hlt := value_lt_of_length_eight (length_rightAligned digits)
    rw [if_pos hsurplus, hvalue, if_pos hlt, denoted_of_length_eight (length_rightAligned digits),
      Option.getD_some]
  · -- a digit in front counts: the scanner stores `UINT_MAX`, which is white
    have hle := le_value_of_surplus hsurplus
    rw [if_neg hsurplus, if_neg (by omega)]
    rfl

/-- **The digits that are scanned.** Where the scan finds a number, the color is that of its
digits, whatever the local held. -/
theorem colorFromHexString_of_hexNumeral {F : Foundation} {s : NSString} {digits : List (Fin 16)}
    (h : hexNumeral F ((normalizedHex
      (NSString.stringByReplacingOccurrencesOfString F 0x23 [] s)).dropWhile F.skipped) = digits)
    (hne : digits ≠ []) (baseValue : BitVec 32) :
    colorFromHexString F baseValue s = scanned digits := by
  -- with digits to read the scan stores, the fitting number or `UINT_MAX`
  have hstored : (scanHexInt F (normalizedHex
      (NSString.stringByReplacingOccurrencesOfString F 0x23 [] s)) baseValue).2
        = saturated (value digits) := by
    unfold scanHexInt saturated
    rw [h]
    cases digits with
    | nil => exact absurd rfl hne
    | cons d digits =>
      dsimp only
      split <;> rfl
  unfold colorFromHexString
  dsimp only
  rw [hstored, channels_saturated]

/-- Of a text of digits alone, all of them are scanned. -/
theorem hexNumeral_of_digits (F : Foundation) {s : NSString} {digits : List (Fin 16)}
    (h : s.map hexDigit = digits.map some) :
    hexNumeral F (s.dropWhile F.skipped) = digits := by
  rw [dropWhile_skipped_of_digits F h]
  unfold hexNumeral
  rw [afterHexPrefix_of_digits h]
  exact leading_of_map_eq hexDigit h

theorem completed_ne_nil {digits : List (Fin 16)} (h : digits ≠ []) : completed digits ≠ [] := by
  unfold completed
  split
  · exact List.cons_ne_nil _ _
  · exact List.cons_ne_nil _ _
  · exact h

/-- A spelling has the color of its completed digits. -/
theorem colorFromHexString_eq_scanned (F : Foundation) (baseValue : BitVec 32) {s : NSString}
    {digits : List (Fin 16)} (hs : Spells s digits) (hne : digits ≠ []) :
    colorFromHexString F baseValue s = scanned (completed digits) :=
  colorFromHexString_of_hexNumeral
    (hexNumeral_of_digits F (normalizedHex_spells (hs.cleaned F))) (completed_ne_nil hne) baseValue

/-- **Any number of digits.** -/
theorem colorFromHexString_of_any_digits (F : Foundation) (baseValue : BitVec 32) {s : NSString}
    {digits : List (Fin 16)} (hs : Spells s digits) (hne : digits ≠ []) :
    ((∀ d ∈ surplus (completed digits), d.val = 0) →
      denoted (rightAligned (completed digits)) = some (colorFromHexString F baseValue s)) ∧
    ((∃ d ∈ surplus (completed digits), d.val ≠ 0) →
      colorFromHexString F baseValue s = opaqueWhite) := by
  have hcolor := colorFromHexString_eq_scanned F baseValue hs hne
  unfold scanned at hcolor
  rw [hcolor]
  refine ⟨?_, ?_⟩
  · intro hsurplus
    rw [if_pos hsurplus, denoted_of_length_eight (length_rightAligned _), Option.getD_some]
  · intro hsurplus
    obtain ⟨d, hd, hcounts⟩ := hsurplus
    exact if_neg fun hzeros => hcounts (hzeros d hd)

/-- Nine digits that count are white. -/
theorem colorFromHexString_of_nine_digits :
    colorFromHexString Foundation.documented 0#32 (NSString.ascii "#123456789") = opaqueWhite := by
  have hs : Spells (NSString.ascii "#123456789") [1, 2, 3, 4, 5, 6, 7, 8, 9] := by decide
  have h := colorFromHexString_of_any_digits Foundation.documented 0#32 hs (by decide)
  exact h.2 ⟨1, by decide, by decide⟩

/-! ## Texts with the same color -/

/-- The eight digits of the number that is stored, the largest one when a digit in front of
the last eight counts. -/
def storedDigits (digits : List (Fin 16)) : List (Fin 16) :=
  if ∀ d ∈ surplus digits, d.val = 0 then rightAligned digits
  else List.replicate 8 (Fin.last 15)

theorem length_storedDigits (digits : List (Fin 16)) : (storedDigits digits).length = 8 := by
  unfold storedDigits
  split
  · exact length_rightAligned digits
  · rfl

/-- The stored digits denote the color of the text. -/
theorem denoted_storedDigits (digits : List (Fin 16)) :
    denoted (storedDigits digits) = some (scanned digits) := by
  unfold storedDigits scanned
  split
  · rw [denoted_of_length_eight (length_rightAligned digits), Option.getD_some]
  · rfl

/-- Eight digits are read off their color. -/
theorem denoted_injective {digits digits' : List (Fin 16)} (hlen : digits.length = 8)
    (hlen' : digits'.length = 8) (h : denoted digits = denoted digits') : digits = digits' := by
  rw [denoted_of_length_eight hlen, denoted_of_length_eight hlen'] at h
  -- a color determines the stored word, and the word its eight digits
  have hstored := congrArg BitVec.toNat (channels_injective (Option.some.inj h))
  rw [BitVec.toNat_ofNat, BitVec.toNat_ofNat, Nat.mod_eq_of_lt (value_lt_of_length_eight hlen),
    Nat.mod_eq_of_lt (value_lt_of_length_eight hlen')] at hstored
  exact value_injective (by decide) (hlen.trans hlen'.symm) hstored

/-- **Synonyms.** Two texts of digits have the same color exactly when the same eight digits
are stored for them: nothing else is confused. -/
theorem colorFromHexString_eq_iff_storedDigits (F F' : Foundation)
    (baseValue baseValue' : BitVec 32) {s s' : NSString} {digits digits' : List (Fin 16)}
    (hs : Spells s digits) (hs' : Spells s' digits') (hne : digits ≠ []) (hne' : digits' ≠ []) :
    colorFromHexString F baseValue s = colorFromHexString F' baseValue' s'
      ↔ storedDigits (completed digits) = storedDigits (completed digits') := by
  rw [colorFromHexString_eq_scanned F baseValue hs hne,
    colorFromHexString_eq_scanned F' baseValue' hs' hne']
  constructor
  · intro hcolor
    apply denoted_injective (length_storedDigits _) (length_storedDigits _)
    rw [denoted_storedDigits, denoted_storedDigits, hcolor]
  · intro hstored
    apply Option.some.inj
    rw [← denoted_storedDigits, ← denoted_storedDigits, hstored]

/-- The shorthand and the text it stands for, in either case of the letters. -/
theorem colorFromHexString_eq_shorthand :
    colorFromHexString Foundation.documented 0#32 (NSString.ascii "#3C6")
      = colorFromHexString Foundation.documented 0#32 (NSString.ascii "33cc66") := by
  have hs : Spells (NSString.ascii "#3C6") [3, 12, 6] := by decide
  have hs' : Spells (NSString.ascii "33cc66") [3, 3, 12, 12, 6, 6] := by decide
  exact (colorFromHexString_eq_iff_storedDigits _ _ _ _ hs hs' (by decide) (by decide)).mpr
    (by decide)

/-! ## A prefix in front of the digits -/

/-- The digits the method scans in a text of `0x` and `digits`. With one digit it is taken for
a short form and doubled, prefix and all, and with four it gains the alpha of a long one. -/
def prefixedDigits : List (Fin 16) → List (Fin 16)
  | [_] => [zeroDigit, zeroDigit]
  | [d₃, d₂, d₁, d₀] => [d₃, d₂, d₁, d₀, Fin.last 15, Fin.last 15]
  | digits => digits

/-- Behind a prefix the digits are scanned up to the end of the text. -/
theorem hexNumeral_of_prefixed (F : Foundation) {x : Unichar} {text : NSString}
    {digits : List (Fin 16)} (hx : x = 0x78 ∨ x = 0x58)
    (htext : text.map hexDigit = digits.map some) (hne : digits ≠ []) :
    hexNumeral F ((0x30 :: x :: text).dropWhile F.skipped) = digits := by
  have hzero : F.skipped 0x30 = false := F.skipped_hexDigit 0x30 rfl
  -- no blank is skipped in front of the `0`, and the prefix is passed over
  have h0x : afterHexPrefix (0x30 :: x :: text) = some text := if_pos ⟨rfl, hx⟩
  have hleading := leading_of_map_eq hexDigit htext
  rw [List.dropWhile_cons_of_neg (by rw [hzero]; exact Bool.false_ne_true)]
  unfold hexNumeral
  rw [h0x]
  dsimp only
  rw [hleading]
  cases digits with
  | nil => exact absurd rfl hne
  | cons d digits => rfl

/-- One digit: the doubled prefix is none, and the scan stops at its `x`. -/
theorem hexNumeral_of_prefixed_one (F : Foundation) {x : Unichar} (c : Unichar)
    (hx : x = 0x78 ∨ x = 0x58) :
    hexNumeral F ((normalizedHex [0x30, x, c]).dropWhile F.skipped) = [zeroDigit, zeroDigit] := by
  have hzero : F.skipped 0x30 = false := F.skipped_hexDigit 0x30 rfl
  have hdigit : hexDigit x = none := by
    rcases hx with rfl | rfl <;> rfl
  rw [normalizedHex_three]
  show hexNumeral F ((0x30 :: 0x30 :: x :: x :: c :: c :: NSString.ascii "ff").dropWhile F.skipped)
    = _
  rw [List.dropWhile_cons_of_neg (by rw [hzero]; exact Bool.false_ne_true)]
  -- doubled, the text starts with two zeros: no prefix any more
  have h0x : afterHexPrefix (0x30 :: 0x30 :: x :: x :: c :: c :: NSString.ascii "ff") = none := by
    show (if (0x30 : Unichar) = 0x30 ∧ ((0x30 : Unichar) = 0x78 ∨ (0x30 : Unichar) = 0x58)
      then some (x :: x :: c :: c :: NSString.ascii "ff") else none) = none
    exact if_neg (by decide)
  unfold hexNumeral
  rw [h0x]
  dsimp only
  rw [leading_cons_of_digit hexDigit (d := zeroDigit) rfl,
    leading_cons_of_digit hexDigit (d := zeroDigit) rfl, leading_cons_of_not_digit hexDigit hdigit]

/-- **Prefixed texts.** A text of `0x` and hex digits has the color of `prefixedDigits`: read
from the right, so that `0xRRGGBB` is not `RRGGBB`. -/
theorem colorFromHexString_of_prefixed (F : Foundation) (baseValue : BitVec 32) {s text : NSString}
    {x : Unichar} {digits : List (Fin 16)}
    (hs : NSString.stringByReplacingOccurrencesOfString F 0x23 [] s = 0x30 :: x :: text)
    (hx : x = 0x78 ∨ x = 0x58) (htext : text.map hexDigit = digits.map some) (hne : digits ≠ []) :
    colorFromHexString F baseValue s = scanned (prefixedDigits digits) := by
  have hlen : text.length = digits.length := by simpa using congrArg List.length htext
  -- the two units of the prefix count for the length: one digit makes 3, four make 6
  have hprefixed : (0x30 :: x :: text).length = digits.length + 2 := by
    rw [List.length_cons, List.length_cons, hlen]
  have hscanned : hexNumeral F ((normalizedHex (0x30 :: x :: text)).dropWhile F.skipped)
      = prefixedDigits digits := by
    by_cases h₁ : digits.length = 1
    · obtain ⟨d, rfl⟩ := List.length_eq_one_iff.mp h₁
      obtain ⟨c, rfl⟩ := List.length_eq_one_iff.mp (hlen.trans h₁)
      exact hexNumeral_of_prefixed_one F c hx
    · by_cases h₄ : digits.length = 4
      · -- the completing `ff` ends up behind the four digits
        have hff : (text ++ NSString.ascii "ff").map hexDigit
            = (digits ++ [Fin.last 15, Fin.last 15]).map some := by
          rw [List.map_append, List.map_append, htext]
          rfl
        have hfour : prefixedDigits digits = digits ++ [Fin.last 15, Fin.last 15] := by
          match digits, h₄ with
          | [_, _, _, _], _ => rfl
        rw [normalizedHex_of_length_six (by omega), hfour]
        exact hexNumeral_of_prefixed F hx hff (by simp)
      · have hsame : prefixedDigits digits = digits := by
          match digits, h₁, h₄ with
          | [], _, _ | [_, _], _, _ | [_, _, _], _, _ => rfl
          | _ :: _ :: _ :: _ :: _ :: _, _, _ => rfl
        rw [normalizedHex_of_length_ne (by omega) (by omega), hsame]
        exact hexNumeral_of_prefixed F hx htext hne
  -- none of the cases leaves the scanner without digits
  have hne' : prefixedDigits digits ≠ [] := by
    unfold prefixedDigits
    split
    · exact List.cons_ne_nil _ _
    · exact List.cons_ne_nil _ _
    · exact hne
  exact colorFromHexString_of_hexNumeral (hs ▸ hscanned) hne' baseValue

/-- The bot icon's color behind a `0x`: a translucent one without red. -/
theorem colorFromHexString_of_prefixed_botIcon :
    colorFromHexString Foundation.documented 0#32 (NSString.ascii "0x3C65AA")
      = ⟨0x00#8, 0x3C#8, 0x65#8, 0xAA#8⟩ := by
  have hs : NSString.stringByReplacingOccurrencesOfString Foundation.documented 0x23 []
      (NSString.ascii "0x3C65AA") = 0x30 :: 0x78 :: NSString.ascii "3C65AA" := by decide
  have htext : (NSString.ascii "3C65AA").map hexDigit
      = ([3, 12, 6, 5, 10, 10] : List (Fin 16)).map some := by decide
  have h := colorFromHexString_of_prefixed Foundation.documented 0#32 hs (Or.inl rfl) htext
    (by decide)
  rw [h]
  decide

end HybridSample
