import HybridSample.Foundation.NSObject
import HybridSample.ProjectStringConstant

/-!
# The messaging SDK as the app drives it

The frameworks under `Pods` come as headers. What the app does to them is data it builds
(`MFSDKProperties`, `MFSDKSessionProperties`, `MFSDKHeader`) and messages it sends; the
messages a handler sends, in order, are its list of `Effect`s. Fields the app never sets
are left out.

What the headers do not say is not made up here. A properties object is known by the calls it
received, and what the app takes for granted of a fresh session is the one law of
`MessagingKit`, a parameter of all that opens chats.
-/

namespace HybridSample

open ProjectStringConstant

/-- The two view controllers, as SDK delegates and as presenters. -/
inductive Controller where
  | viewController
  | loginViewController
  deriving DecidableEq

abbrev Screen := Nat

/-! ## `MFSDKHeader.h` -/

inductive ButtonAction where
  | backButton
  | navigationButton
  | homeButton
  | logoutButton
  deriving DecidableEq

inductive Alignment where
  | leftAlign
  | centerAlign
  deriving DecidableEq

structure MFSDKHeader where
  isCustomNavigationBar : Bool
  titleText : NSString
  titleAlignment : Alignment
  titleColor : NSString
  titleFontName : NSString
  titleFontSize : Nat
  backgroundColor : NSString
  rightButtonAction : ButtonAction
  rightButtonImage : NSString
  leftButtonAction : ButtonAction
  leftButtonImage : NSString
  deriving DecidableEq

/-! ## `MFSDKProperties.h` -/

/-- The messages to a properties object that assign no property of the header. -/
inductive MFSDKProperties.Call where
  | initWithDomain (domainUrl : NSString)
  | addBot (botId botName : NSString)
  | enableCheck (boolValue : Bool)
  deriving DecidableEq

/-- A properties object as the app has filled it: the calls it received, in order, and the
properties assigned so far. -/
structure MFSDKProperties where
  received : List MFSDKProperties.Call
  messagingDelegate : Option Controller := none
  appVersion : Option NSObject := none
  /-- `none` before the assignment. -/
  showNativeNavigationBar : Option Bool := none

def MFSDKProperties.initWithDomain (domainUrl : NSString) : MFSDKProperties :=
  { received := [.initWithDomain domainUrl] }

def MFSDKProperties.addBot (self : MFSDKProperties) (botId botName : NSString) :
    MFSDKProperties :=
  { self with received := self.received ++ [.addBot botId botName] }

def MFSDKProperties.enableCheck (self : MFSDKProperties) (boolValue : Bool) : MFSDKProperties :=
  { self with received := self.received ++ [.enableCheck boolValue] }

/-! ## `MFSDKSessionProperties.h` -/

structure MFSDKSessionProperties where
  userInfo : Option NSDictionary
  speechAPIKey : Option NSString
  pushData : Option NSDictionary
  language : Option NSString
  shouldSupportMultiLanguage : Bool
  header : Option MFSDKHeader

/-- What is taken for granted of the SDK, whose code is not there to be read. -/
class MessagingKit where
  /-- What `[[MFSDKSessionProperties alloc] init]` answers. -/
  freshSession : MFSDKSessionProperties
  /-- `alloc` leaves every property `nil`, and `init` puts no payload there. -/
  freshSession_pushData : freshSession.pushData = none

/-- The kit whose `init` changes nothing. -/
@[reducible] def MessagingKit.zeroed : MessagingKit where
  freshSession :=
    { userInfo := none
      speechAPIKey := none
      pushData := none
      language := none
      shouldSupportMultiLanguage := false
      header := none }
  freshSession_pushData := rfl

/-! ## What a handler does -/

/-- An alert with one button. `dismissesScreen` tells whether that button has the handler
that dismisses `objWebScreen`. -/
structure UIAlertController where
  title : NSString
  message : NSString
  primaryButton : NSString
  dismissesScreen : Bool

inductive Presenter where
  | controller (controller : Controller)
  | screen (screen : Screen)
  deriving DecidableEq

/-- A message sent to the SDK or to UIKit. `showScreen` also records the properties object
the manager was initialised with, as it is at that moment: the app goes on changing it
between the two messages. -/
inductive Effect where
  | initWithProperties (sdkProperties : MFSDKProperties)
  | showScreen (botId : NSString) (fromViewController : Controller)
      (sdkProperties : MFSDKProperties) (sessionProperties : MFSDKSessionProperties)
  | presentViewController (presenter : Presenter) (alert : UIAlertController)
  | dismissViewController (presenter : Presenter)

/-- The chats `effects` opens, each with the controller it is opened from. -/
def openedSessions (effects : List Effect) : List (Controller × MFSDKSessionProperties) :=
  effects.filterMap fun
    | .showScreen _ fromViewController _ sessionProperties =>
      some (fromViewController, sessionProperties)
    | _ => none

/-- How often `effects` asks for a screen. -/
def showScreenCount (effects : List Effect) : Nat :=
  effects.countP fun
    | .showScreen .. => true
    | _ => false

/-- `createAndSetBotHeader:withSessionProperties:`, the same in both controllers. -/
def createAndSetBotHeader (sdkProperties : MFSDKProperties)
    (sessionProperties : MFSDKSessionProperties) : MFSDKProperties × MFSDKSessionProperties :=
  let sdkProperties := { sdkProperties with showNativeNavigationBar := some true }
  let headerObject : MFSDKHeader :=
    { isCustomNavigationBar := true
      titleText := botHeaderText
      titleAlignment := .centerAlign
      titleColor := headerTitleColor
      titleFontName := headerTitleFontName
      titleFontSize := headerTitleFontSize
      backgroundColor := headerBackgroundColor
      rightButtonAction := .homeButton
      rightButtonImage := headerLeftBarImg
      leftButtonAction := .backButton
      leftButtonImage := headerLeftBarImg }
  (sdkProperties, { sessionProperties with header := some headerObject })

/-! ## The callbacks both controllers implement alike -/

/-- `onLogout:`. An alert is presented on the chat screen; with no screen the message goes to
`nil`. -/
def onLogout (objWebScreen : Option Screen) (logoutType : Int) : List Effect :=
  let alert : UIAlertController :=
    { title := alertTitle
      message := logoutAlertMessage ++ .ascii " : " ++ .ascii (toString logoutType)
      primaryButton := alertPrimaryButton
      dismissesScreen := true }
  match objWebScreen with
  | some screen => [.presentViewController (.screen screen) alert]
  | none => []

/-- `onChatClose`, after `objWebScreen` has been cleared. -/
def onChatClose (self : Controller) : List Effect :=
  [.presentViewController (.controller self)
    { title := alertTitle
      message := closeAlertMessage
      primaryButton := alertPrimaryButton
      dismissesScreen := false }]

/-- The handler of an alert that dismisses the chat screen, run when its button is tapped. -/
def dismissWebScreen (objWebScreen : Option Screen) : List Effect :=
  match objWebScreen with
  | some screen => [.dismissViewController (.screen screen)]
  | none => []

/-- The chat screens `effects` sends anything to. -/
def addressedScreens (effects : List Effect) : List Screen :=
  effects.filterMap fun
    | .presentViewController (.screen screen) _ => some screen
    | .dismissViewController (.screen screen) => some screen
    | _ => none

/-- Every screen asked for is a chat. -/
theorem showScreenCount_eq (effects : List Effect) :
    showScreenCount effects = (openedSessions effects).length := by
  unfold showScreenCount openedSessions
  rw [List.length_filterMap_eq_countP]
  -- the two observers agree on every single message
  apply List.countP_congr
  intro effect _
  cases effect <;> simp

@[simp] theorem openedSessions_onLogout (objWebScreen : Option Screen) (logoutType : Int) :
    openedSessions (onLogout objWebScreen logoutType) = [] := by
  cases objWebScreen <;> rfl

@[simp] theorem openedSessions_dismissWebScreen (objWebScreen : Option Screen) :
    openedSessions (dismissWebScreen objWebScreen) = [] := by
  cases objWebScreen <;> rfl

end HybridSample
