import HybridSample.LoginViewController
import HybridSample.Reactive.Machine

/-!
# The app

One launched app: the delegate and the two view controllers, driven by the messages UIKit
and the SDKs deliver in any order. `App.step` is the machine, and its runs start from
`App.launch`. What the SDK answers to the `n`-th `showScreenWithBotID:` is a parameter,
`screens n`.
-/

namespace HybridSample

structure App (tables : LanguageTables) where
  appDelegate : AppDelegate
  viewController : ViewController tables
  loginViewController : LoginViewController
  /-- How often `showScreenWithBotID:` has been called. -/
  screensShown : Nat

/-- A message delivered to one of the controllers, or a screen object the SDK let go: the
controllers hold their `objWebScreen` weakly. -/
inductive Event (tables : LanguageTables) where
  | viewController (message : ViewController.Message tables)
  | loginViewController (fields : LoginFields) (message : LoginViewController.Message)
  | screenReleased (screen : Screen)

/-- The sender of the chat an event opens, if it opens one. -/
def Event.chatSender {tables : LanguageTables} : Event tables → Option (Option NSObject)
  | .viewController message => message.chatSender
  | .loginViewController fields message => message.chatSender fields
  | .screenReleased _ => none

/-- The controller a message is for. -/
def Event.receiver {tables : LanguageTables} : Event tables → Option Controller
  | .viewController _ => some .viewController
  | .loginViewController _ _ => some .loginViewController
  | .screenReleased _ => none

/-- A weak reference after its object may have been released. -/
def weakAfterRelease (screen : Screen) (objWebScreen : Option Screen) : Option Screen :=
  if objWebScreen = some screen then none else objWebScreen

namespace App

variable [MessagingKit] {tables : LanguageTables}

/-- The app after `application:didFinishLaunchingWithOptions:` and `viewDidLoad`. -/
def launch (F : Foundation) (baseValue : BitVec 32) (tables : LanguageTables)
    (launchOptions : Option LaunchOptions) : App tables where
  appDelegate := AppDelegate.didFinishLaunchingWithOptions {} launchOptions
  viewController := ViewController.viewDidLoad F baseValue
  loginViewController := { objWebScreen := none }
  screensShown := 0

/-- The chat screen a controller holds. -/
def objWebScreen (app : App tables) : Controller → Option Screen
  | .viewController => app.viewController.objWebScreen
  | .loginViewController => app.loginViewController.objWebScreen

/-- One message, delivered to the controller it is for. -/
def step (screens : Nat → Option Screen) (app : App tables) :
    Event tables → App tables × List Effect
  | .viewController message =>
    let (appDelegate, viewController, effects) :=
      app.viewController.receive app.appDelegate (screens app.screensShown) message
    ({ app with
        appDelegate, viewController
        screensShown := app.screensShown + showScreenCount effects }, effects)
  | .loginViewController fields message =>
    let (appDelegate, loginViewController, effects) :=
      app.loginViewController.receive fields app.appDelegate (screens app.screensShown) message
    ({ app with
        appDelegate, loginViewController
        screensShown := app.screensShown + showScreenCount effects }, effects)
  | .screenReleased screen =>
    ({ app with
        viewController.objWebScreen := weakAfterRelease screen app.viewController.objWebScreen
        loginViewController.objWebScreen :=
          weakAfterRelease screen app.loginViewController.objWebScreen }, [])

/-! ## The chats of one answer -/

/-- `ViewController` opens the chat of a sender with the session it makes of it. -/
theorem openedSessions_step_viewController (screens : Nat → Option Screen) (app : App tables)
    (message : ViewController.Message tables) :
    openedSessions (app.step screens (.viewController message)).2
      = message.chatSender.toList.map fun sender =>
          (.viewController, app.viewController.session app.appDelegate sender) :=
  app.viewController.openedSessions_receive app.appDelegate (screens app.screensShown) message

/-- And so does `LoginViewController`, where its fields are filled. -/
theorem openedSessions_step_loginViewController (screens : Nat → Option Screen)
    (app : App tables) (fields : LoginFields) (message : LoginViewController.Message) :
    openedSessions (app.step screens (.loginViewController fields message)).2
      = (message.chatSender fields).toList.map fun sender =>
          (.loginViewController, LoginViewController.session fields app.appDelegate sender) :=
  app.loginViewController.openedSessions_receive fields app.appDelegate
    (screens app.screensShown) message

/-- Every chat asks for one screen. -/
theorem screensShown_step (screens : Nat → Option Screen) (app : App tables)
    (event : Event tables) :
    (app.step screens event).1.screensShown
      = app.screensShown + if event.chatSender.isSome then 1 else 0 := by
  cases event with
  | viewController message =>
    -- `showScreenCount` counts chats, and an event opens the one of its sender
    show app.screensShown + showScreenCount (app.step screens (.viewController message)).2
      = app.screensShown + if message.chatSender.isSome then 1 else 0
    rw [showScreenCount_eq, app.openedSessions_step_viewController, List.length_map]
    cases message.chatSender <;> rfl
  | loginViewController fields message =>
    show app.screensShown
        + showScreenCount (app.step screens (.loginViewController fields message)).2
      = app.screensShown + if (message.chatSender fields).isSome then 1 else 0
    rw [showScreenCount_eq, app.openedSessions_step_loginViewController, List.length_map]
    -- with fields that name no customer there is no sender, and no screen is asked for
    cases message.chatSender fields <;> rfl
  | screenReleased screen => rfl

/-! ## Runs -/

abbrev Transition (tables : LanguageTables) :=
  Reactive.Transition (App tables) (Event tables) (List Effect)

/-- Every answer of a run, each with the app that gives it. -/
def trace (screens : Nat → Option Screen) (app : App tables) (events : List (Event tables)) :
    List (Transition tables) :=
  Reactive.trace (step screens) app events

end App

end HybridSample
