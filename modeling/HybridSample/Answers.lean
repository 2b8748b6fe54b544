import HybridSample.ChatService
import HybridSample.Reactive.References

/-!
# One answer

All that the app can do with one event, said once: what it sends, and what becomes of the
screens its controllers hold.

* **`answers_step`** — the messages of a chat, one message to a screen, or what a controller
  shows itself.
* **`App.Answers.screenAlerts_eq`**, **`App.Answers.screenDismissals_eq`** — a logout puts its
  alert on the screen that is held, the button of an alert dismisses the one held by then, and
  nothing else gets to a chat screen.
* **`holds_step`** — which is the screen of the chat it opened last, as `Reactive.References`
  has it.
-/

namespace HybridSample

namespace Event

variable {tables : LanguageTables}

/-- The controller an event opens a chat from, if it opens one. -/
def opener (event : Event tables) : Option Controller :=
  event.chatSender.bind fun _ => event.receiver

/-- The controller an event tells of the end of its chat. -/
def closer : Event tables → Option Controller
  | .viewController .onChatClose => some .viewController
  | .loginViewController _ .onChatClose => some .loginViewController
  | _ => none

/-- The controller a logout is reported to, and its code. -/
def loggedOut : Event tables → Option (Controller × Int)
  | .viewController (.onLogout logoutType) => some (.viewController, logoutType)
  | .loginViewController _ (.onLogout logoutType) => some (.loginViewController, logoutType)
  | _ => none

/-- The controller whose alert button is tapped. -/
def dismisser : Event tables → Option Controller
  | .viewController .alertDismissHandler => some .viewController
  | .loginViewController _ .alertDismissHandler => some .loginViewController
  | _ => none

/-- The controller an event makes send a message to its screen. -/
def addresser : Event tables → Option Controller
  | .viewController (.onLogout _) => some .viewController
  | .viewController .alertDismissHandler => some .viewController
  | .loginViewController _ (.onLogout _) => some .loginViewController
  | .loginViewController _ .alertDismissHandler => some .loginViewController
  | _ => none

/-- A controller addresses its screen in these two cases. -/
theorem addresser_eq (event : Event tables) :
    event.addresser = (event.loggedOut.map Prod.fst).or event.dismisser := by
  cases event with
  | viewController message => cases message <;> rfl
  | loginViewController fields message => cases message <;> rfl
  | screenReleased screen => rfl

def released : Event tables → Option Screen
  | .screenReleased screen => some screen
  | _ => none

/-- The screens the controllers hold, as references to what the SDK hands out. -/
def references : Reactive.References (Event tables) Controller Screen where
  opener := opener
  closer := closer
  released := released

/-- Every chat is opened from a controller. -/
theorem isSome_opener (event : Event tables) : event.opener.isSome = event.chatSender.isSome := by
  cases event with
  | viewController message =>
    unfold opener
    cases (Event.viewController message).chatSender <;> rfl
  | loginViewController fields message =>
    unfold opener
    cases (Event.loginViewController fields message : Event tables).chatSender <;> rfl
  | screenReleased released => rfl

/-- An event opens and closes at the controller it is for. -/
theorem opener_of_receiver {event : Event tables} {controller : Controller}
    (h : event.receiver ≠ some controller) : event.opener ≠ some controller := by
  intro hopener
  obtain ⟨_, _, hreceiver⟩ := Option.bind_eq_some_iff.mp hopener
  exact h hreceiver

/-- Nor does it close one anywhere else. -/
theorem closer_of_receiver {event : Event tables} {controller : Controller}
    (h : event.receiver ≠ some controller) : event.closer ≠ some controller := by
  unfold closer
  split
  · exact h
  · exact h
  · exact nofun

/-- So the other controller keeps what it holds. -/
theorem next_of_receiver {event : Event tables} {controller : Controller}
    (h : event.receiver ≠ some controller) (hreleased : event.released = none)
    (answer objWebScreen : Option Screen) :
    references.next answer event controller objWebScreen = objWebScreen := by
  rw [references.next_of_not_released hreleased]
  show (if event.opener = some controller then answer
    else if event.closer = some controller then none else objWebScreen) = objWebScreen
  rw [if_neg (opener_of_receiver h), if_neg (closer_of_receiver h)]

end Event

/-! ## What is sent -/

/-- A message a controller sends to itself. -/
def Effect.isOwn : Effect → Bool
  | .presentViewController (.controller _) _ => true
  | .dismissViewController (.controller _) => true
  | _ => false

/-- An observer that does not look at what controllers show themselves sees nothing of it. -/
theorem filterMap_own {β : Type*} {observe : Effect → Option β} {effects : List Effect}
    (hown : ∀ effect ∈ effects, effect.isOwn = true)
    (hpresents : ∀ controller alert,
      observe (.presentViewController (.controller controller) alert) = none)
    (hdismisses : ∀ controller, observe (.dismissViewController (.controller controller)) = none) :
    effects.filterMap observe = [] := by
  apply List.filterMap_eq_nil_iff.mpr
  intro effect hmem
  -- own messages are of two kinds, and the observer is blind to both
  have howned := hown effect hmem
  unfold Effect.isOwn at howned
  split at howned
  · exact hpresents _ _
  · exact hdismisses _
  · cases howned

/-- The alerts put on chat screens. -/
def screenAlerts (effects : List Effect) : List (Screen × UIAlertController) :=
  effects.filterMap fun
    | .presentViewController (.screen screen) alert => some (screen, alert)
    | _ => none

/-- The chat screens that are dismissed. -/
def screenDismissals (effects : List Effect) : List Screen :=
  effects.filterMap fun
    | .dismissViewController (.screen screen) => some screen
    | _ => none

/-- The delegate the manager is told of, where it is initialised. -/
def Effect.initialisedDelegate : Effect → Option (Option Controller)
  | .initWithProperties sdkProperties => some sdkProperties.messagingDelegate
  | _ => none

variable [MessagingKit]

/-- All that the app can answer: the messages of a chat, one message to the screen of the
controller the event is for, or what the controller shows itself. -/
inductive App.Answers {tables : LanguageTables} (app : App tables) (event : Event tables) :
    List Effect → Prop where
  | opens (chat : Chat) (hopener : event.opener = some chat.openedFrom)
      (hloggedOut : event.loggedOut = none) (hdismisser : event.dismisser = none) :
      Answers app event chat.messages
  | alerts (controller : Controller) (logoutType : Int) (hopener : event.opener = none)
      (hloggedOut : event.loggedOut = some (controller, logoutType))
      (hdismisser : event.dismisser = none) :
      Answers app event (toScreen (fun screen =>
        .presentViewController (.screen screen) (logoutAlert logoutType))
        (app.objWebScreen controller))
  | dismisses (controller : Controller) (hopener : event.opener = none)
      (hloggedOut : event.loggedOut = none) (hdismisser : event.dismisser = some controller) :
      Answers app event (toScreen (fun screen => .dismissViewController (.screen screen))
        (app.objWebScreen controller))
  | own (effects : List Effect) (hown : ∀ effect ∈ effects, effect.isOwn = true)
      (hopener : event.opener = none) (hloggedOut : event.loggedOut = none)
      (hdismisser : event.dismisser = none) : Answers app event effects

section Answers

variable {tables : LanguageTables} {app : App tables} {event : Event tables}

theorem App.Answers.silent (hopener : event.opener = none) (hloggedOut : event.loggedOut = none)
    (hdismisser : event.dismisser = none) : app.Answers event [] :=
  .own [] (fun _ hmem => absurd hmem List.not_mem_nil) hopener hloggedOut hdismisser

/-- `startChat:` of `ViewController` opens a chat, -/
theorem answers_startChat (app : App tables) (event : Event tables) (delegate : AppDelegate)
    (answer : Option Screen) (sender : Option NSObject)
    (hopener : event.opener = some .viewController) (hloggedOut : event.loggedOut = none)
    (hdismisser : event.dismisser = none) :
    app.Answers event (app.viewController.startChat delegate answer sender).2 := by
  rw [ViewController.effects_startChat]
  exact .opens _ hopener hloggedOut hdismisser

/-- and that of `LoginViewController` opens one or shows its own alert. -/
theorem answers_login_startChat (app : App tables) (event : Event tables) (fields : LoginFields)
    (delegate : AppDelegate) (answer : Option Screen) (sender : Option NSObject)
    (hopener : event.opener = (if fields.filled then some sender else none).bind
      fun _ => some .loginViewController)
    (hloggedOut : event.loggedOut = none) (hdismisser : event.dismisser = none) :
    app.Answers event (app.loginViewController.startChat fields delegate answer sender).2 := by
  rw [LoginViewController.effects_startChat]
  unfold LoginFields.chat
  cases hfilled : fields.filled with
  | true =>
    rw [hfilled] at hopener
    exact .opens (Chat.postLogin _ _ _) hopener hloggedOut hdismisser
  | false =>
    rw [hfilled] at hopener
    exact .own _ (fun _ hmem => List.mem_singleton.mp hmem ▸ rfl) hopener hloggedOut hdismisser

/-- **One answer.** Each event is answered in one of the four ways. -/
theorem answers_step (screens : Nat → Option Screen) (app : App tables) (event : Event tables) :
    app.Answers event (app.step screens event).2 := by
  -- the two messages to a screen, by the controller that sends them
  have halert : ∀ controller logoutType, event.opener = none →
      event.loggedOut = some (controller, logoutType) → event.dismisser = none →
      app.Answers event (onLogout (app.objWebScreen controller) logoutType) := by
    intro controller logoutType hopener hloggedOut hdismisser
    rw [onLogout_eq_toScreen]
    exact .alerts controller logoutType hopener hloggedOut hdismisser
  have hdismiss : ∀ controller, event.opener = none → event.loggedOut = none →
      event.dismisser = some controller →
      app.Answers event (dismissWebScreen (app.objWebScreen controller)) := by
    intro controller hopener hloggedOut hdismisser
    rw [dismissWebScreen_eq_toScreen]
    exact .dismisses controller hopener hloggedOut hdismisser
  -- three messages end in a `startChat:`, two of them at either controller
  have hstart := answers_startChat app event app.appDelegate (screens app.screensShown)
  cases event with
  | viewController message =>
    cases message with
    | startChat sender => exact hstart sender.object rfl rfl rfl
    | askTohandlePushTap userInfo =>
      cases userInfo with
      | none => exact .silent rfl rfl rfl
      | some userInfo => exact hstart (some (.dictionary userInfo)) rfl rfl rfl
    | onLogout logoutType => exact halert .viewController logoutType rfl rfl rfl
    | alertDismissHandler => exact hdismiss .viewController rfl rfl rfl
    | onChatClose => exact .own _ (fun _ hmem => List.mem_singleton.mp hmem ▸ rfl) rfl rfl rfl
    | _ => exact .silent rfl rfl rfl
  | loginViewController fields message =>
    -- whatever the fields, these messages open no chat
    have hquiet : (if fields.filled then (none : Option (Option NSObject)) else none).bind
        (fun _ => some Controller.loginViewController) = none := by
      rw [ite_self]
      rfl
    -- and these end in its own `startChat:`, which looks at the fields first
    have hlogin := answers_login_startChat app (.loginViewController fields message) fields
      app.appDelegate (screens app.screensShown)
    cases message with
    | loginAction => exact hlogin none rfl rfl rfl
    | startChat sender => exact hlogin sender.object rfl rfl rfl
    | askTohandlePushTap userInfo =>
      cases userInfo with
      | none => exact .silent hquiet rfl rfl
      | some userInfo => exact hlogin (some (.dictionary userInfo)) rfl rfl rfl
    | onLogout logoutType => exact halert .loginViewController logoutType hquiet rfl rfl
    | alertDismissHandler => exact hdismiss .loginViewController hquiet rfl rfl
    | onChatClose | backAction =>
      exact .own _ (fun _ hmem => List.mem_singleton.mp hmem ▸ rfl) hquiet rfl rfl
  | screenReleased released => exact .silent rfl rfl rfl

/-- Every message to a chat screen, with what it does there left out. -/
theorem App.Answers.addressedScreens_eq {effects : List Effect} (h : app.Answers event effects) :
    addressedScreens effects = (event.addresser.bind app.objWebScreen).toList := by
  rw [event.addresser_eq]
  cases h with
  | opens chat _ hloggedOut hdismisser =>
    rw [hloggedOut, hdismisser]
    rfl
  | alerts controller logoutType _ hloggedOut _ =>
    rw [hloggedOut]
    show _ = (app.objWebScreen controller).toList
    cases app.objWebScreen controller <;> rfl
  | dismisses controller _ hloggedOut hdismisser =>
    rw [hloggedOut, hdismisser]
    show _ = (app.objWebScreen controller).toList
    cases app.objWebScreen controller <;> rfl
  | own _ hown _ hloggedOut hdismisser =>
    rw [hloggedOut, hdismisser]
    exact filterMap_own hown (fun _ _ => rfl) fun _ => rfl

/-- Only a logout puts an alert on a chat screen, and it is the one with its code. -/
theorem App.Answers.screenAlerts_eq {effects : List Effect} (h : app.Answers event effects) :
    screenAlerts effects
      = (event.loggedOut.bind fun report =>
          (app.objWebScreen report.1).map fun screen => (screen, logoutAlert report.2)).toList := by
  cases h with
  | opens chat _ hloggedOut _ =>
    rw [hloggedOut]
    rfl
  | alerts controller logoutType _ hloggedOut _ =>
    rw [hloggedOut, Option.bind_some]
    cases app.objWebScreen controller <;> rfl
  | dismisses controller _ hloggedOut _ =>
    rw [hloggedOut]
    cases app.objWebScreen controller <;> rfl
  | own _ hown _ hloggedOut _ =>
    rw [hloggedOut]
    exact filterMap_own hown (fun _ _ => rfl) fun _ => rfl

/-- Only the button of an alert dismisses a chat screen. -/
theorem App.Answers.screenDismissals_eq {effects : List Effect} (h : app.Answers event effects) :
    screenDismissals effects = (event.dismisser.bind app.objWebScreen).toList := by
  cases h with
  | opens chat _ _ hdismisser =>
    rw [hdismisser]
    rfl
  | alerts controller logoutType _ _ hdismisser =>
    rw [hdismisser]
    cases app.objWebScreen controller <;> rfl
  | dismisses controller _ _ hdismisser =>
    rw [hdismisser, Option.bind_some]
    cases app.objWebScreen controller <;> rfl
  | own _ hown _ _ hdismisser =>
    rw [hdismisser]
    exact filterMap_own hown (fun _ _ => rfl) fun _ => rfl

/-- The manager is told of the opener, as its `messagingDelegate`. -/
theorem App.Answers.initialisedDelegate_eq {effects : List Effect} (h : app.Answers event effects) :
    effects.filterMap Effect.initialisedDelegate = event.opener.toList.map some := by
  cases h with
  | opens chat hopener _ _ =>
    rw [hopener]
    rfl
  | alerts controller _ hopener _ _ =>
    rw [hopener]
    cases app.objWebScreen controller <;> rfl
  | dismisses controller hopener _ _ =>
    rw [hopener]
    cases app.objWebScreen controller <;> rfl
  | own _ hown hopener _ _ =>
    rw [hopener]
    exact filterMap_own hown (fun _ _ => rfl) fun _ => rfl

/-- A message goes to the screen of the controller it comes from. -/
theorem addressedScreens_step_eq (screens : Nat → Option Screen) (app : App tables)
    (event : Event tables) :
    addressedScreens (app.step screens event).2
      = (event.addresser.bind app.objWebScreen).toList :=
  (answers_step screens app event).addressedScreens_eq

end Answers

/-! ## What is held -/

section Steps

variable {tables : LanguageTables}

/-- `ViewController` takes the answer with a chat and gives it up with `onChatClose`. -/
theorem ViewController.objWebScreen_receive_eq (self : ViewController tables)
    (delegate : AppDelegate) (answer : Option Screen) (message : ViewController.Message tables) :
    (self.receive delegate answer message).2.1.objWebScreen
      = if (Event.viewController message).opener = some .viewController then answer
        else if (Event.viewController message).closer = some .viewController then none
        else self.objWebScreen := by
  cases message with
  | askTohandlePushTap userInfo => cases userInfo <;> rfl
  | _ => rfl

/-- `LoginViewController` does the same, where its fields let a chat be opened. -/
theorem LoginViewController.objWebScreen_receive_eq (self : LoginViewController)
    (fields : LoginFields) (delegate : AppDelegate) (answer : Option Screen)
    (message : LoginViewController.Message) :
    (self.receive fields delegate answer message).2.1.objWebScreen
      = if (Event.loginViewController fields message : Event tables).opener
            = some .loginViewController then answer
        else if (Event.loginViewController fields message : Event tables).closer
            = some .loginViewController then none
        else self.objWebScreen := by
  -- only an answered `startChat:` opens, and it does with filled fields only
  have hstart : ∀ sender, (self.startChat fields delegate answer sender).1.objWebScreen
      = if ((if fields.filled then some sender else none).bind
            fun _ => some Controller.loginViewController) = some .loginViewController then answer
        else self.objWebScreen := by
    intro sender
    rw [objWebScreen_startChat]
    cases fields.filled <;> rfl
  -- the opener as it is written in `hstart`, with the sender left open
  have hopener : (Event.loginViewController fields message : Event tables).opener
      = (if fields.filled then message.startChatSender else none).bind
          fun _ => some .loginViewController := rfl
  rw [hopener]
  cases message with
  | loginAction => exact hstart none
  | startChat sender => exact hstart sender.object
  | askTohandlePushTap userInfo =>
    cases userInfo with
    | none => cases fields.filled <;> rfl
    | some userInfo => exact hstart (some (.dictionary userInfo))
  | _ => cases fields.filled <;> rfl

/-- **One step.** A chat writes the screen of the controller that opens it, its end clears it,
and so does the release of the screen. -/
theorem holds_step (screens : Nat → Option Screen) :
    Event.references.Holds screens (@App.step _ tables screens) App.objWebScreen
      App.screensShown where
  held := by
    intro app event controller
    cases event with
    | viewController message =>
      cases controller with
      | viewController =>
        rw [Reactive.References.next_of_not_released _ rfl]
        exact app.viewController.objWebScreen_receive_eq app.appDelegate
          (screens app.screensShown) message
      | loginViewController =>
        have hreceiver : (Event.viewController message).receiver
            ≠ some .loginViewController := nofun
        exact (Event.next_of_receiver hreceiver rfl _ _).symm
    | loginViewController fields message =>
      cases controller with
      | viewController =>
        have hreceiver : (Event.loginViewController fields message : Event tables).receiver
            ≠ some .viewController := nofun
        exact (Event.next_of_receiver hreceiver rfl _ _).symm
      | loginViewController =>
        rw [Reactive.References.next_of_not_released _ rfl]
        exact app.loginViewController.objWebScreen_receive_eq fields app.appDelegate
          (screens app.screensShown) message
    | screenReleased released => cases controller <;> rfl
  asked := by
    intro app event
    rw [App.screensShown_step]
    show _ = app.screensShown + if event.opener.isSome then 1 else 0
    rw [Event.isSome_opener]

end Steps

end HybridSample
