import HybridSample.ScreenHistory

/-!
# What a logout alert says

`onLogout:` writes its code into the text of an alert and presents the alert on the chat
screen. The user sees nothing else of the logout.

* **`readDecimal_toString`** — a printed integer is read back, and `readDecimal` reads nothing
  but a sign and digits.
* **`logoutCode_message`** — so the code can be read off the alert, and two codes never show the
  same text.
* **`readsLogoutCode_iff`** — over whole runs, with any number of login screens: a code can be
  read on a screen exactly when it is reported to the object that holds the screen.
-/

namespace HybridSample

open ProjectStringConstant

/-! ## Reading a decimal integer -/

/-- The number a text of digits writes. An empty text writes none. -/
def readDigits (chars : List Char) : Option Nat :=
  if chars ≠ [] ∧ chars.all Char.isDigit = true then some (Nat.ofDigitChars 10 chars 0) else none

/-- The integer a text of digits writes, with or without a minus sign in front. -/
def readDecimal (chars : List Char) : Option Int :=
  if chars.head? = some '-' then (readDigits chars.tail).map fun n : Nat => -(n : Int)
  else (readDigits chars).map Int.ofNat

/-- A printed natural number is read back. -/
theorem readDigits_toDigits (n : Nat) : readDigits (Nat.toDigits 10 n) = some n := by
  have hne : Nat.toDigits 10 n ≠ [] := Nat.toDigits_ne_nil
  -- a printed number is a text of digits, and not an empty one
  have hall : (Nat.toDigits 10 n).all Char.isDigit = true := by
    rw [List.all_eq_true]
    intro c hc
    exact Nat.isDigit_of_mem_toDigits (by decide) (by decide) hc
  unfold readDigits
  rw [if_pos ⟨hne, hall⟩, Nat.ofDigitChars_ten_toDigits]

/-- A printed integer is read back. -/
theorem readDecimal_toString (k : Int) : readDecimal (toString k).toList = some k := by
  rw [Int.toString_eq_repr, Int.repr_eq_if]
  split
  · next hnonneg =>
    -- a digit in front is no sign
    have hsign : (Nat.toDigits 10 k.toNat).head? ≠ some '-' := by
      intro hhead
      have hdigit := Nat.isDigit_of_mem_toDigits (by decide) (by decide)
        (List.mem_of_head? hhead)
      exact absurd hdigit (by decide)
    rw [Nat.toList_repr, readDecimal, if_neg hsign, readDigits_toDigits, Option.map_some]
    exact congrArg some (Int.toNat_of_nonneg hnonneg)
  · next hneg =>
    have hchars : ("-" ++ (-k).toNat.repr).toList = '-' :: Nat.toDigits 10 (-k).toNat := by
      rw [String.toList_append, Nat.toList_repr]
      rfl
    rw [hchars, readDecimal, List.head?_cons, if_pos rfl, List.tail_cons, readDigits_toDigits,
      Option.map_some]
    exact congrArg some (by omega)

/-- It has no characters beyond one code unit. -/
theorem ascii_of_mem_toString (k : Int) : ∀ c ∈ (toString k).toList, c.toNat < 2 ^ 16 := by
  -- digits are ASCII, and so is the sign in front of them
  have hdigits : ∀ n : Nat, ∀ c ∈ Nat.toDigits 10 n, c.toNat < 2 ^ 16 := by
    intro n c hc
    have hdigit := Char.isDigit_iff_toNat.mp
      (Nat.isDigit_of_mem_toDigits (by decide) (by decide) hc)
    have hnine : '9'.toNat = 57 := rfl
    omega
  rw [Int.toString_eq_repr, Int.repr_eq_if]
  intro c hc
  split at hc
  · rw [Nat.toList_repr] at hc
    exact hdigits _ c hc
  · rw [String.toList_append, Nat.toList_repr] at hc
    rcases List.mem_append.mp hc with hsign | hdigit
    · rw [List.mem_singleton.mp hsign]
      decide
    · exact hdigits _ c hdigit

/-- A string as characters, one for each code unit. -/
def NSString.chars (text : NSString) : List Char :=
  text.map fun c => Char.ofNat c.toNat

/-- What was written as characters is read as characters. -/
theorem chars_ascii {text : String} (h : ∀ c ∈ text.toList, c.toNat < 2 ^ 16) :
    NSString.chars (.ascii text) = text.toList := by
  unfold NSString.chars NSString.ascii
  rw [List.map_map]
  refine (List.map_congr_left ?_).trans (List.map_id _)
  intro c hc
  -- a code unit holds the character without loss
  have hunit : (UInt16.ofNat c.toNat).toNat = c.toNat := by
    rw [UInt16.toNat_ofNat']
    exact Nat.mod_eq_of_lt (h c hc)
  show Char.ofNat (UInt16.ofNat c.toNat).toNat = c
  rw [hunit, Char.ofNat_toNat]

/-! ## The text of the alert -/

/-- The code in the text of an alert, if the text is that of a logout alert: the message, and
behind it an integer with nothing else. -/
def logoutCode (alert : UIAlertController) : Option Int :=
  let text := logoutAlertMessage ++ .ascii " : "
  if text <+: alert.message then readDecimal (NSString.chars (alert.message.drop text.length))
  else none

/-- The code of a logout alert can be read off it. -/
theorem logoutCode_message (logoutType : Int) :
    logoutCode (logoutAlert logoutType) = some logoutType := by
  -- the text begins as the reader expects, and the code is all that follows
  have hprefix : logoutAlertMessage ++ .ascii " : " <+: (logoutAlert logoutType).message :=
    List.prefix_append _ _
  unfold logoutCode
  dsimp only
  rw [if_pos hprefix]
  unfold logoutAlert
  rw [List.drop_left, chars_ascii (ascii_of_mem_toString logoutType), readDecimal_toString]

/-! ## The alerts of a run -/

section Runs

variable [MessagingKit] {tables : LanguageTables} (screens : Nat → Option Screen)

/-- **The code on the screen.** After any run, an alert that shows a code on a screen is put
there by the report of this code to the object that holds the screen, and by nothing else. -/
theorem readsLogoutCode_iff (F : Foundation) (baseValue : BitVec 32)
    (launchOptions : Option LaunchOptions) (events : List (ProgramEvent tables))
    (event : ProgramEvent tables) (screen : Screen) (logoutType : Int) :
    (∃ alert, (screen, alert) ∈ screenAlerts (unsigned (Program.step screens (Reactive.run
        (Program.step screens) (Program.launch F baseValue tables launchOptions) events) event).2) ∧
        logoutCode alert = some logoutType)
      ↔ ∃ controller, event.event.loggedOut = some (controller, logoutType) ∧
          ProgramEvent.references.HeldSince screens (event.holder controller) screen events := by
  rw [Program.effects_step_app, unsigned_map,
    (answers_step screens _ event.event).screenAlerts_eq]
  simp only [Option.mem_toList, Option.bind_eq_some_iff, Option.map_eq_some_iff,
    ← objWebScreen_holder, objWebScreen_program_iff, Prod.mk.injEq]
  constructor
  · intro h
    obtain ⟨_, ⟨⟨controller, reported⟩, hreport, _, hheld, rfl, rfl⟩, hcode⟩ := h
    -- the only alert on a chat screen is the logout's, and it shows the code reported
    rw [logoutCode_message] at hcode
    exact ⟨controller, Option.some.inj hcode ▸ hreport, hheld⟩
  · intro h
    obtain ⟨controller, hreport, hheld⟩ := h
    exact ⟨logoutAlert logoutType, ⟨(controller, logoutType), hreport, screen, hheld, rfl, rfl⟩,
      logoutCode_message logoutType⟩

end Runs

end HybridSample
