import HybridSample.MessagingKit

/-!
# `AppDelegate` and the delivery decision

The delegate remembers how the app was launched in two fields. They are written by
`application:didFinishLaunchingWithOptions:` only, cleared by `setPropertiesNil` after a push
tap, and read by both `startChat:` methods, which decide from them whether a session gets
its `pushData`.

* **`swallows`** — the one bit of the two fields that the decision depends on: the launch was
  flagged and no payload stored.
* **`deliverPushData_pushData`** — what the decision assigns, in terms of that bit.
* **`deliverPushData_frame`** — and that it assigns nothing else.
* **`launched_swallows_iff`** — the launches that leave the bit set.
-/

namespace HybridSample

/-- The fields of `AppDelegate` the app reads, with their initial `NO` and `nil`. -/
structure AppDelegate where
  handleNotificationOnLaunch : Bool := false
  userInfoDic : Option NSDictionary := none

def remoteNotificationKey : NSString := .ascii "UIApplicationLaunchOptionsRemoteNotificationKey"

/-- The dictionary UIKit launches an app with. Its remote notification is a dictionary; the
other keys (a URL, a location, a shortcut) hold anything. -/
structure LaunchOptions where
  dictionary : NSDictionary
  remoteNotification_isDictionary :
    ∀ userInfo, dictionary.objectForKey remoteNotificationKey = some userInfo →
      userInfo.isDictionary = true

/-- `application:didFinishLaunchingWithOptions:`, as far as it changes the delegate. -/
def AppDelegate.didFinishLaunchingWithOptions (self : AppDelegate)
    (launchOptions : Option LaunchOptions) : AppDelegate :=
  match launchOptions with
  | none => self
  | some launchOptions =>
    match h : launchOptions.dictionary.objectForKey remoteNotificationKey with
    -- a URL, a location or a shortcut raises the flag too, and nothing is stored
    | none => { self with handleNotificationOnLaunch := true }
    | some userInfo =>
      { self with
        handleNotificationOnLaunch := true
        userInfoDic := some (NSDictionary.initWithDictionary userInfo
          (launchOptions.remoteNotification_isDictionary userInfo h)) }

/-- `setPropertiesNil`, which a push tap sends when it has been dealt with. -/
def AppDelegate.setPropertiesNil (self : AppDelegate) : AppDelegate :=
  { self with handleNotificationOnLaunch := false, userInfoDic := none }

/-! ## The decision in `startChat:`

The same lines stand in both controllers. -/

/-- The assignment under its class test: a payload is a dictionary, whatever else the sender
may be. -/
def assignPushData (sender : Option NSObject) (sessionProperties : MFSDKSessionProperties) :
    MFSDKSessionProperties :=
  match sender with
  | some (.dictionary userInfo) => { sessionProperties with pushData := some userInfo }
  | _ => sessionProperties

/-- The nested condition around the assignment. -/
def deliverPushData (delegate : AppDelegate) (sender : Option NSObject)
    (sessionProperties : MFSDKSessionProperties) : MFSDKSessionProperties :=
  if delegate.handleNotificationOnLaunch then
    if delegate.userInfoDic.isSome then assignPushData sender sessionProperties
    -- no `else` in the source: the sender is not looked at
    else sessionProperties
  else assignPushData sender sessionProperties

/-! ## One bit of the delegate -/

/-- The launch was flagged, but no payload came with it. A session opened in this state gets
no `pushData`, whatever its sender. -/
def AppDelegate.swallows (delegate : AppDelegate) : Bool :=
  delegate.handleNotificationOnLaunch && delegate.userInfoDic.isNone

/-- The nested condition asks for one bit: whether the assignment is made at all. -/
theorem deliverPushData_eq (delegate : AppDelegate) (sender : Option NSObject)
    (sessionProperties : MFSDKSessionProperties) :
    deliverPushData delegate sender sessionProperties
      = if delegate.swallows then sessionProperties
        else assignPushData sender sessionProperties := by
  unfold deliverPushData AppDelegate.swallows
  cases delegate.handleNotificationOnLaunch <;> cases delegate.userInfoDic <;> rfl

/-- The payload a sender is, if it is one. -/
def payload : Option NSObject → Option NSDictionary
  | some (.dictionary userInfo) => some userInfo
  | _ => none

/-- A fresh session gets the payload of its sender unless the delegate swallows it. -/
theorem deliverPushData_pushData (delegate : AppDelegate) (sender : Option NSObject)
    (sessionProperties : MFSDKSessionProperties) (hfresh : sessionProperties.pushData = none) :
    (deliverPushData delegate sender sessionProperties).pushData
      = if delegate.swallows then none else payload sender := by
  rw [deliverPushData_eq]
  split
  · exact hfresh
  · unfold assignPushData payload
    split
    · rfl
    -- a sender that is no dictionary leaves what the session came with
    · exact hfresh

/-- The decision writes `pushData` and no other property of the session. -/
theorem deliverPushData_frame (delegate : AppDelegate) (sender : Option NSObject)
    (sessionProperties : MFSDKSessionProperties) :
    { deliverPushData delegate sender sessionProperties with
      pushData := sessionProperties.pushData } = sessionProperties := by
  rw [deliverPushData_eq]
  split
  · rfl
  · unfold assignPushData
    split <;> rfl

/-! ## Launching -/

/-- Launch options without a remote notification: the app was opened by something else. -/
def WithoutRemoteNotification (launchOptions : Option LaunchOptions) : Prop :=
  ∃ options, launchOptions = some options ∧
    options.dictionary.objectForKey remoteNotificationKey = none

/-- The delegate after a launch: untouched, flagged, or flagged with a stored payload. -/
theorem didFinishLaunching_cases (launchOptions : Option LaunchOptions) :
    let delegate := AppDelegate.didFinishLaunchingWithOptions {} launchOptions
    (launchOptions = none ∧ delegate = {}) ∨
    (WithoutRemoteNotification launchOptions ∧
      delegate = { handleNotificationOnLaunch := true }) ∨
    (¬ WithoutRemoteNotification launchOptions ∧
      ∃ userInfo, delegate = { handleNotificationOnLaunch := true, userInfoDic := some userInfo })
    := by
  intro delegate
  cases launchOptions with
  | none => exact Or.inl ⟨rfl, rfl⟩
  | some options =>
    right
    -- the lookup decides, so it is the definition that is split
    have hdelegate : delegate
        = AppDelegate.didFinishLaunchingWithOptions {} (some options) := rfl
    unfold AppDelegate.didFinishLaunchingWithOptions at hdelegate
    dsimp only at hdelegate
    split at hdelegate
    · next hnone => exact Or.inl ⟨⟨options, rfl, hnone⟩, hdelegate⟩
    · next userInfo hsome =>
      -- with the entry there, the options are none without it
      refine Or.inr ⟨?_, _, hdelegate⟩
      rintro ⟨options', heq, hnone⟩
      cases heq
      rw [hsome] at hnone
      exact Option.some_ne_none _ hnone

/-- Exactly the launches by something else than a push leave a delegate that swallows. -/
theorem launched_swallows_iff (launchOptions : Option LaunchOptions) :
    (AppDelegate.didFinishLaunchingWithOptions {} launchOptions).swallows = true
      ↔ WithoutRemoteNotification launchOptions := by
  rcases didFinishLaunching_cases launchOptions with
    ⟨rfl, hdelegate⟩ | ⟨hwithout, hdelegate⟩ | ⟨hwith, userInfo, hdelegate⟩
  · rw [hdelegate]
    simp [AppDelegate.swallows, WithoutRemoteNotification]
  · rw [hdelegate]
    simpa [AppDelegate.swallows] using hwithout
  · rw [hdelegate]
    simpa [AppDelegate.swallows] using hwith

end HybridSample
