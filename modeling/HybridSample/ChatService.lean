import HybridSample.PickerHistory
import HybridSample.PushDelivery

/-!
# The chat service

What the app is for, without controllers, sessions or delegates: messages come in, and some
of them open a chat. `ChatService` is that machine. Its state is the row selected last and
whether payloads are withheld, and its answer is at most one `Chat`. `App` refines it: the
messages a run sends to the SDK manager are those of the chats of the service.

* **`Chat.messages`** — the two messages that open a chat, in full.
* **`notice`** — what the app sends where no chat is opened.
* **`effects_step`** — one answer of the app is one answer of the service, or a notice.
* **`sdkMessages_run`** — whole runs: nothing but these chats reaches the manager, in order.
-/

namespace HybridSample

open ProjectStringConstant

/-! ## Chats -/

/-- A chat before or after login. A login chat speaks no language of the picker, and a
pre-login one names no customer. -/
inductive Chat where
  | preLogin (language : NSString) (pushData : Option NSDictionary)
  | postLogin (customerID sessionID : NSString) (pushData : Option NSDictionary)

namespace Chat

def openedFrom : Chat → Controller
  | .preLogin .. => .viewController
  | .postLogin .. => .loginViewController

def pushData : Chat → Option NSDictionary
  | .preLogin _ pushData => pushData
  | .postLogin _ _ pushData => pushData

def botID : Chat → NSString
  | .preLogin .. => preLoginExampleBotID
  | .postLogin .. => postLoginExampleBotID

/-- The properties the manager is initialised with. -/
def sdkProperties (chat : Chat) : MFSDKProperties where
  received :=
    match chat with
    | .preLogin .. =>
      [.initWithDomain preLoginExampleURL, .addBot preLoginExampleBotID preLoginBotName,
        .enableCheck true]
    | .postLogin .. =>
      [.initWithDomain postLoginExampleURL, .addBot postLoginExampleBotID postLoginBotName,
        .enableCheck true]
  messagingDelegate := some chat.openedFrom
  appVersion := some (.string (.ascii "1.3.20"))

def botHeader : MFSDKHeader where
  isCustomNavigationBar := true
  titleText := botHeaderText
  titleAlignment := .centerAlign
  titleColor := headerTitleColor
  titleFontName := headerTitleFontName
  titleFontSize := headerTitleFontSize
  backgroundColor := headerBackgroundColor
  rightButtonAction := .homeButton
  rightButtonImage := headerLeftBarImg
  leftButtonAction := .backButton
  leftButtonImage := headerLeftBarImg

variable [MessagingKit]

/-- The session the chat starts with: a fresh one, and what the app assigns. -/
def session : Chat → MFSDKSessionProperties
  | .preLogin language pushData =>
    { MessagingKit.freshSession with
      speechAPIKey := some speechAPIKey
      shouldSupportMultiLanguage := true
      language := some language
      pushData
      header := some botHeader }
  | .postLogin customerID sessionID pushData =>
    { MessagingKit.freshSession with
      speechAPIKey := some speechAPIKey
      userInfo := some [(userInfoKey1, .string customerID), (userInfoKey2, .string sessionID)]
      pushData
      header := some botHeader }

/-- The messages that open the chat. The properties object gains its navigation bar between
the two. -/
def messages (chat : Chat) : List Effect :=
  [.initWithProperties chat.sdkProperties,
    .showScreen chat.botID chat.openedFrom
      { chat.sdkProperties with showNativeNavigationBar := some true } chat.session]

end Chat

/-- The chat for the customer the two fields name, if they name one. -/
def LoginFields.chat (fields : LoginFields) (pushData : Option NSDictionary) : Option Chat :=
  if fields.filled then some (.postLogin fields.customerIDField fields.sessionIDField pushData)
  else none

/-! ## The service -/

structure ChatService (tables : LanguageTables) where
  /-- The next tapped push loses its payload. -/
  withholding : Bool
  selected : tables.Row

namespace ChatService

variable {tables : LanguageTables}

instance (launchOptions : Option LaunchOptions) :
    Decidable (WithoutRemoteNotification launchOptions) :=
  decidable_of_iff _ (launched_swallows_iff launchOptions)

def launch (launchOptions : Option LaunchOptions) : ChatService tables where
  withholding := decide (WithoutRemoteNotification launchOptions)
  selected := tables.defaultRow

def step (service : ChatService tables) (event : Event tables) : ChatService tables where
  withholding := service.withholding && !event.isPushTap
  selected := event.selectedRow.getD service.selected

/-- What a tapped push brings to the chat it opens. -/
def payload (service : ChatService tables) (userInfo : NSDictionary) : Option NSDictionary :=
  if service.withholding then none else some userInfo

/-- The chat an event opens. -/
def chat (service : ChatService tables) : Event tables → Option Chat
  | .viewController (.startChat _) => some (.preLogin (tables.code service.selected) none)
  | .viewController (.askTohandlePushTap (some userInfo)) =>
    some (.preLogin (tables.code service.selected) (service.payload userInfo))
  | .loginViewController fields .loginAction => fields.chat none
  | .loginViewController fields (.startChat _) => fields.chat none
  | .loginViewController fields (.askTohandlePushTap (some userInfo)) =>
    fields.chat (service.payload userInfo)
  | _ => none

def answer (service : ChatService tables) (event : Event tables) :
    ChatService tables × Option Chat :=
  (service.step event, service.chat event)

/-- The chats of a run. -/
def chats (service : ChatService tables) (events : List (Event tables)) : List Chat :=
  Reactive.log answer Option.toList service events

end ChatService

/-! ## Answers without a chat -/

def logoutAlert (logoutType : Int) : UIAlertController where
  title := alertTitle
  message := logoutAlertMessage ++ .ascii " : " ++ .ascii (toString logoutType)
  primaryButton := alertPrimaryButton
  dismissesScreen := true

def closeAlert : UIAlertController where
  title := alertTitle
  message := closeAlertMessage
  primaryButton := alertPrimaryButton
  dismissesScreen := false

/-- The alert in place of a chat without a customer. -/
def validationAlert : UIAlertController where
  title := alertTitle
  message := userInfoTextValidationError
  primaryButton := alertPrimaryButton
  dismissesScreen := true

/-- Messages to a screen that may be gone. -/
def toScreen (message : Screen → Effect) (screen : Option Screen) : List Effect :=
  screen.toList.map message

/-- What an event that opens no chat makes the app send, by the screens its controllers
hold. -/
def notice {tables : LanguageTables} (screen : Controller → Option Screen) :
    Event tables → List Effect
  | .viewController (.onLogout logoutType) =>
    toScreen (fun screen => .presentViewController (.screen screen) (logoutAlert logoutType))
      (screen .viewController)
  | .viewController .onChatClose =>
    [.presentViewController (.controller .viewController) closeAlert]
  | .viewController .alertDismissHandler =>
    toScreen (fun screen => .dismissViewController (.screen screen)) (screen .viewController)
  | .loginViewController _ (.onLogout logoutType) =>
    toScreen (fun screen => .presentViewController (.screen screen) (logoutAlert logoutType))
      (screen .loginViewController)
  | .loginViewController _ .onChatClose =>
    [.presentViewController (.controller .loginViewController) closeAlert]
  | .loginViewController _ .alertDismissHandler =>
    toScreen (fun screen => .dismissViewController (.screen screen)) (screen .loginViewController)
  | .loginViewController _ .backAction =>
    [.dismissViewController (.controller .loginViewController)]
  -- a chat was asked for, and the fields name no customer
  | .loginViewController _ message =>
    if message.startChatSender.isSome then
      [.presentViewController (.controller .loginViewController) validationAlert]
    else []
  | _ => []

/-- A logout puts its alert on the screen that is held, if one is, -/
theorem onLogout_eq_toScreen (objWebScreen : Option Screen) (logoutType : Int) :
    onLogout objWebScreen logoutType
      = toScreen (fun screen => .presentViewController (.screen screen) (logoutAlert logoutType))
          objWebScreen := by
  cases objWebScreen <;> rfl

/-- and the button of the alert dismisses the screen held by then. -/
theorem dismissWebScreen_eq_toScreen (objWebScreen : Option Screen) :
    dismissWebScreen objWebScreen
      = toScreen (fun screen => .dismissViewController (.screen screen)) objWebScreen := by
  cases objWebScreen <;> rfl

/-! ## What the manager is sent -/

def Effect.isForManager : Effect → Bool
  | .initWithProperties _ => true
  | .showScreen .. => true
  | _ => false

def sdkMessages (effects : List Effect) : List Effect :=
  effects.filter Effect.isForManager

/-- No message to a screen is for the manager, -/
theorem sdkMessages_toScreen {message : Screen → Effect}
    (hmessage : ∀ screen, (message screen).isForManager = false) (screen : Option Screen) :
    sdkMessages (toScreen message screen) = [] := by
  cases screen with
  | none => rfl
  | some screen => exact List.filter_cons_of_neg (by rw [hmessage]; exact Bool.false_ne_true)

/-- and nothing that is sent without a chat. -/
theorem sdkMessages_notice {tables : LanguageTables} (screen : Controller → Option Screen)
    (event : Event tables) :
    sdkMessages (notice screen event) = [] := by
  unfold notice
  split
  · exact sdkMessages_toScreen (fun _ => rfl) _
  · rfl
  · exact sdkMessages_toScreen (fun _ => rfl) _
  · exact sdkMessages_toScreen (fun _ => rfl) _
  · rfl
  · exact sdkMessages_toScreen (fun _ => rfl) _
  · rfl
  · split <;> rfl
  · rfl

/-- What a sender brings to a chat while the delegate is in this state. -/
def AppDelegate.delivered (delegate : AppDelegate) (sender : Option NSObject) :
    Option NSDictionary :=
  if delegate.swallows then none else payload sender

/-- On a fresh session the decision is one assignment. -/
theorem deliverPushData_fresh (delegate : AppDelegate) (sender : Option NSObject)
    {sessionProperties : MFSDKSessionProperties} (hfresh : sessionProperties.pushData = none) :
    deliverPushData delegate sender sessionProperties
      = { sessionProperties with pushData := delegate.delivered sender } := by
  -- the payload is known, and the frame says that nothing else has changed
  have hpushData := deliverPushData_pushData delegate sender sessionProperties hfresh
  have hframe := deliverPushData_frame delegate sender sessionProperties
  calc deliverPushData delegate sender sessionProperties
      = { deliverPushData delegate sender sessionProperties with
          pushData := delegate.delivered sender } := by
        unfold AppDelegate.delivered
        rw [← hpushData]
    _ = { sessionProperties with pushData := delegate.delivered sender } :=
        congrArg (fun properties : MFSDKSessionProperties =>
          { properties with pushData := delegate.delivered sender }) hframe

/-- On `ViewController` every `startChat:` opens its chat. -/
theorem ViewController.effects_startChat [MessagingKit] {tables : LanguageTables}
    (self : ViewController tables) (delegate : AppDelegate) (screen : Option Screen)
    (sender : Option NSObject) :
    (self.startChat delegate screen sender).2
      = (Chat.preLogin self.languageCode (delegate.delivered sender)).messages := by
  unfold startChat
  dsimp only
  rw [deliverPushData_fresh]
  · rfl
  · exact MessagingKit.freshSession_pushData

/-- On `LoginViewController` it does with filled fields, and says so otherwise. -/
theorem LoginViewController.effects_startChat [MessagingKit] (self : LoginViewController)
    (fields : LoginFields) (delegate : AppDelegate) (screen : Option Screen)
    (sender : Option NSObject) :
    (self.startChat fields delegate screen sender).2
      = match fields.chat (delegate.delivered sender) with
        | some chat => chat.messages
        | none =>
          [.presentViewController (.controller .loginViewController) validationAlert] := by
  unfold startChat LoginFields.chat
  split
  · dsimp only
    rw [deliverPushData_fresh]
    · rfl
    · exact MessagingKit.freshSession_pushData
  · rfl

/-! ## The app refines the service -/

/-- Every message a run sends, in order. -/
def App.effects [MessagingKit] {tables : LanguageTables} (app : App tables)
    (screens : Nat → Option Screen) (events : List (Event tables)) : List Effect :=
  Reactive.log (App.step screens) id app events

/-- The two fields of an app that the service keeps. -/
structure App.Serves {tables : LanguageTables} (app : App tables)
    (service : ChatService tables) : Prop where
  swallows : app.appDelegate.swallows = service.withholding
  languageCode : app.viewController.languageCode = tables.code service.selected

/-- A tap ends the withholding, and nothing else changes it. -/
theorem swallows_delegateStep {tables : LanguageTables} (delegate : AppDelegate)
    (event : Event tables) :
    (delegateStep delegate event).swallows = (delegate.swallows && !event.isPushTap) := by
  unfold delegateStep
  cases event.isPushTap with
  | false => simp
  | true => simp [AppDelegate.setPropertiesNil, AppDelegate.swallows]

/-- A control brings nothing to its chat, whatever the delegate. -/
theorem delivered_controlSender (delegate : AppDelegate) (sender : ControlSender) :
    delegate.delivered sender.object = none := by
  unfold AppDelegate.delivered
  rw [sender.payload_object, ite_self]

theorem delivered_none (delegate : AppDelegate) : delegate.delivered none = none :=
  ite_self _

/-- A tapped push brings what the service says. -/
theorem App.Serves.delivered_dictionary {tables : LanguageTables} {app : App tables}
    {service : ChatService tables} (h : app.Serves service) (userInfo : NSDictionary) :
    app.appDelegate.delivered (some (.dictionary userInfo)) = service.payload userInfo := by
  unfold AppDelegate.delivered
  rw [h.swallows]
  rfl

/-- The app as it is launched serves the service as it is launched. -/
theorem serves_launch {tables : LanguageTables} (F : Foundation) (baseValue : BitVec 32)
    (launchOptions : Option LaunchOptions) :
    (App.launch F baseValue tables launchOptions).Serves (ChatService.launch launchOptions) where
  swallows := by
    -- the one bit of the delegate, as the service spells it
    have hswallows := launched_swallows_iff launchOptions
    show (AppDelegate.didFinishLaunchingWithOptions {} launchOptions).swallows
      = decide (WithoutRemoteNotification launchOptions)
    rw [Bool.eq_iff_iff, hswallows, decide_eq_true_iff]
  languageCode := tables.code_defaultRow.symm

section Refinement

variable [MessagingKit] {tables : LanguageTables} (screens : Nat → Option Screen)

/-- **One step.** The delegate and the code of the controller keep what the service keeps. -/
theorem chatService_simulation :
    Reactive.Simulation (@App.step _ tables screens) ChatService.step App.Serves where
  preserved := by
    intro app service h event
    refine ⟨?_, ?_⟩
    · rw [step_appDelegate, swallows_delegateStep, h.swallows]
      rfl
    · -- the code follows the row selected last, as the picker’s history has it
      have hcode := (pickerFields_step screens app event).1
      rw [hcode, h.languageCode]
      unfold ChatService.step
      cases event.selectedRow <;> rfl

/-- **One answer.** The app opens the chat of the service, or does what there is to do without
one. -/
theorem effects_step {app : App tables} {service : ChatService tables} (h : app.Serves service)
    (event : Event tables) :
    (app.step screens event).2
      = match service.chat event with
        | some chat => chat.messages
        | none => notice app.objWebScreen event := by
  -- both `startChat:` methods, with the state the service keeps in place of the app’s
  have hpreLogin : ∀ sender,
      (app.viewController.startChat app.appDelegate (screens app.screensShown) sender).2
        = (Chat.preLogin (tables.code service.selected)
            (app.appDelegate.delivered sender)).messages := by
    intro sender
    rw [ViewController.effects_startChat, h.languageCode]
  have hpostLogin := fun fields sender => app.loginViewController.effects_startChat fields
    app.appDelegate (screens app.screensShown) sender
  -- what a sender brings is none for a button, and for a push what the service says
  have hquiet := delivered_controlSender app.appDelegate
  have hpush := h.delivered_dictionary
  cases event with
  | viewController message =>
    cases message with
    | startChat sender =>
      refine (hpreLogin sender.object).trans ?_
      rw [hquiet]
      rfl
    | askTohandlePushTap userInfo =>
      cases userInfo with
      | none => rfl
      | some userInfo =>
        refine (hpreLogin (some (.dictionary userInfo))).trans ?_
        rw [hpush]
        rfl
    | onLogout logoutType => exact onLogout_eq_toScreen app.viewController.objWebScreen logoutType
    | alertDismissHandler => exact dismissWebScreen_eq_toScreen app.viewController.objWebScreen
    | _ => rfl
  | loginViewController fields message =>
    cases message with
    | loginAction =>
      refine (hpostLogin fields none).trans ?_
      rw [delivered_none]
      rfl
    | startChat sender =>
      refine (hpostLogin fields sender.object).trans ?_
      rw [hquiet]
      rfl
    | askTohandlePushTap userInfo =>
      cases userInfo with
      | none => rfl
      | some userInfo =>
        refine (hpostLogin fields (some (.dictionary userInfo))).trans ?_
        rw [hpush]
        rfl
    | onLogout logoutType =>
      exact onLogout_eq_toScreen app.loginViewController.objWebScreen logoutType
    | alertDismissHandler => exact dismissWebScreen_eq_toScreen app.loginViewController.objWebScreen
    | _ => rfl
  | screenReleased screen => rfl

/-- The manager is sent the messages of the chat and nothing of the rest. -/
theorem sdkMessages_step {app : App tables} {service : ChatService tables}
    (h : app.Serves service) (event : Event tables) :
    sdkMessages (app.step screens event).2
      = (service.chat event).toList.flatMap Chat.messages := by
  rw [effects_step screens h]
  cases service.chat event with
  | none => exact sdkMessages_notice app.objWebScreen event
  | some chat => rfl

/-- What the manager hears of the app, it would hear of the service. -/
theorem chatService_refinement :
    Reactive.Refinement (@App.step _ tables screens) ChatService.answer some
      sdkMessages (fun chat => chat.toList.flatMap Chat.messages) App.Serves :=
  Reactive.Refinement.of_simulation (chatService_simulation screens)
    fun h event => sdkMessages_step screens h event

/-- From any app that serves a service, the manager is sent the chats of the service. -/
theorem sdkMessages_effects {app : App tables} {service : ChatService tables}
    (h : app.Serves service) (events : List (Event tables)) :
    sdkMessages (app.effects screens events) = (service.chats events).flatMap Chat.messages := by
  -- the refinement is about logs through an observer; `effects` is the plain log
  have hlog := (chatService_refinement screens).log_eq_of_some h events
  unfold sdkMessages App.effects ChatService.chats
  rw [Reactive.log_filter, Reactive.log_flatMap]
  exact hlog

end Refinement

/-- **Nothing but the chats.** Over a whole run the SDK manager is sent the messages that open
the chats of the service, all of them in order and nothing else. -/
theorem sdkMessages_run [MessagingKit] {tables : LanguageTables} (screens : Nat → Option Screen)
    (F : Foundation) (baseValue : BitVec 32) (launchOptions : Option LaunchOptions)
    (events : List (Event tables)) :
    sdkMessages ((App.launch F baseValue tables launchOptions).effects screens events)
      = ((ChatService.launch launchOptions).chats events).flatMap Chat.messages :=
  sdkMessages_effects screens (serves_launch F baseValue launchOptions) events

end HybridSample
