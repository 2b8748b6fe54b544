import HybridSample.ViewController

/-!
# `LoginViewController`

The post-login screen: two text fields, the button that opens a chat for the customer they
name, and the same delegate callbacks as `ViewController`. The texts of the fields are input
to a message, as the user types between any two of them.
-/

namespace HybridSample

open ProjectStringConstant

/-- The texts of the two fields when a message arrives. -/
structure LoginFields where
  customerIDField : NSString
  sessionIDField : NSString
  deriving DecidableEq

def LoginFields.filled (fields : LoginFields) : Bool :=
  fields.customerIDField.length > 0 && fields.sessionIDField.length > 0

structure LoginViewController where
  objWebScreen : Option Screen

namespace LoginViewController

variable [MessagingKit]

/-- `startChat:`. With an empty field it presents the validation alert instead of a chat. -/
def startChat (self : LoginViewController) (fields : LoginFields) (delegate : AppDelegate)
    (screen : Option Screen) (sender : Option NSObject) : LoginViewController × List Effect :=
  if fields.filled then
    let custID := fields.customerIDField
    let sessionId := fields.sessionIDField
    let params := MFSDKProperties.initWithDomain postLoginExampleURL
    let params := params.addBot postLoginExampleBotID postLoginBotName
    let params := params.enableCheck true
    let params := { params with messagingDelegate := some .loginViewController }
    let params := { params with
      appVersion := infoDictionary.objectForKey (.ascii "CFBundleShortVersionString") }
    let initialisation := Effect.initWithProperties params
    let sessionProperties := MessagingKit.freshSession
    let sessionProperties := { sessionProperties with speechAPIKey := some speechAPIKey }
    -- unlike the pre-login chat, this one sets no language
    let sessionProperties := deliverPushData delegate sender sessionProperties
    let (params, sessionProperties) := createAndSetBotHeader params sessionProperties
    let userInfo : NSDictionary := [(userInfoKey1, .string custID), (userInfoKey2, .string sessionId)]
    let sessionProperties := { sessionProperties with userInfo := some userInfo }
    ({ self with objWebScreen := screen },
      [initialisation,
        .showScreen postLoginExampleBotID .loginViewController params sessionProperties])
  else
    (self, [.presentViewController (.controller .loginViewController)
      { title := alertTitle
        message := userInfoTextValidationError
        primaryButton := alertPrimaryButton
        dismissesScreen := true }])

def loginAction (self : LoginViewController) (fields : LoginFields) (delegate : AppDelegate)
    (screen : Option Screen) : LoginViewController × List Effect :=
  self.startChat fields delegate screen none

def askTohandlePushTap (self : LoginViewController) (fields : LoginFields)
    (delegate : AppDelegate) (screen : Option Screen) (userInfo : Option NSObject) :
    AppDelegate × LoginViewController × List Effect :=
  let (self, effects) :=
    match userInfo with
    | some userInfo => self.startChat fields delegate screen (some userInfo)
    | none => (self, [])
  (delegate.setPropertiesNil, self, effects)

inductive Message where
  | backAction
  | loginAction
  | startChat (sender : ControlSender)
  | askTohandlePushTap (userInfo : Option NSDictionary)
  | onLogout (logoutType : Int)
  | onChatClose
  | alertDismissHandler

def receive (self : LoginViewController) (fields : LoginFields) (delegate : AppDelegate)
    (screen : Option Screen) : Message → AppDelegate × LoginViewController × List Effect
  | .backAction =>
    (delegate, self, [.dismissViewController (.controller .loginViewController)])
  | .loginAction => (delegate, self.loginAction fields delegate screen)
  | .startChat sender => (delegate, self.startChat fields delegate screen sender.object)
  | .askTohandlePushTap userInfo =>
    self.askTohandlePushTap fields delegate screen (userInfo.map .dictionary)
  | .onLogout logoutType => (delegate, self, HybridSample.onLogout self.objWebScreen logoutType)
  | .onChatClose =>
    (delegate, { self with objWebScreen := none }, HybridSample.onChatClose .loginViewController)
  | .alertDismissHandler => (delegate, self, dismissWebScreen self.objWebScreen)

/-! ## What `startChat:` opens -/

/-- The session of the chat, as the manager is asked to show it. -/
def session (fields : LoginFields) (delegate : AppDelegate) (sender : Option NSObject) :
    MFSDKSessionProperties :=
  { (createAndSetBotHeader (MFSDKProperties.initWithDomain postLoginExampleURL)
      (deliverPushData delegate sender
        { MessagingKit.freshSession with speechAPIKey := some speechAPIKey })).2 with
    userInfo := some [(userInfoKey1, .string fields.customerIDField),
      (userInfoKey2, .string fields.sessionIDField)] }

/-- `startChat:` opens its chat exactly when both fields are filled. -/
theorem openedSessions_startChat (self : LoginViewController) (fields : LoginFields)
    (delegate : AppDelegate) (screen : Option Screen) (sender : Option NSObject) :
    openedSessions (self.startChat fields delegate screen sender).2
      = if fields.filled then [(.loginViewController, session fields delegate sender)]
        else [] := by
  unfold startChat
  split <;> rfl

/-- The sender a message calls `startChat:` with, if it does. -/
def Message.startChatSender : Message → Option (Option NSObject)
  | .loginAction => some none
  | .startChat sender => some sender.object
  | .askTohandlePushTap (some userInfo) => some (some (.dictionary userInfo))
  | _ => none

/-- The sender of the chat a message opens, if it opens one. -/
def Message.chatSender (fields : LoginFields) (message : Message) : Option (Option NSObject) :=
  if fields.filled then message.startChatSender else none

/-- A message opens one chat or none, as `ViewController` does, and none with an empty field. -/
theorem openedSessions_receive (self : LoginViewController) (fields : LoginFields)
    (delegate : AppDelegate) (screen : Option Screen) (message : Message) :
    openedSessions (self.receive fields delegate screen message).2.2
      = (message.chatSender fields).toList.map fun sender =>
          (.loginViewController, session fields delegate sender) := by
  have hstart : ∀ sender,
      openedSessions (self.startChat fields delegate screen sender).2
        = (if fields.filled then some sender else none).toList.map fun sender =>
            (.loginViewController, session fields delegate sender) := by
    intro sender
    rw [openedSessions_startChat]
    split <;> rfl
  -- the other messages open nothing, filled fields or not
  have hquiet : ∀ effects, openedSessions effects = [] →
      openedSessions effects
        = (if fields.filled then (none : Option (Option NSObject)) else none).toList.map
            fun sender => (.loginViewController, session fields delegate sender) := by
    intro effects h
    rw [ite_self, h]
    rfl
  cases message with
  | loginAction => exact hstart none
  | startChat sender => exact hstart sender.object
  | askTohandlePushTap userInfo =>
    cases userInfo with
    | none => exact hquiet _ rfl
    | some userInfo => exact hstart (some (.dictionary userInfo))
  | onLogout logoutType => exact hquiet _ (openedSessions_onLogout self.objWebScreen logoutType)
  | alertDismissHandler => exact hquiet _ (openedSessions_dismissWebScreen self.objWebScreen)
  | backAction | onChatClose => exact hquiet _ rfl

/-! ## The chat screen -/

/-- The validation alert leaves the screen that was there. -/
theorem objWebScreen_startChat (self : LoginViewController) (fields : LoginFields)
    (delegate : AppDelegate) (answer : Option Screen) (sender : Option NSObject) :
    (self.startChat fields delegate answer sender).1.objWebScreen
      = if fields.filled then answer else self.objWebScreen := by
  unfold startChat
  split <;> rfl

/-! ## The session -/

/-- The chat gets the payload of its sender unless the delegate swallows it. -/
theorem session_pushData (fields : LoginFields) (delegate : AppDelegate)
    (sender : Option NSObject) :
    (session fields delegate sender).pushData
      = if delegate.swallows then none else payload sender :=
  deliverPushData_pushData delegate sender _ MessagingKit.freshSession_pushData

/-- A chat that is opened names the customer of the two fields. -/
theorem session_userInfo_of_chatSender {fields : LoginFields} {message : Message}
    {sender : Option NSObject} (h : message.chatSender fields = some sender)
    (delegate : AppDelegate) :
    ∃ custID sessionId, (session fields delegate sender).userInfo
        = some [(userInfoKey1, .string custID), (userInfoKey2, .string sessionId)] ∧
      custID ≠ [] ∧ sessionId ≠ [] := by
  have hfilled : fields.filled = true := by
    unfold Message.chatSender at h
    split at h
    · next hfilled => exact hfilled
    · simp at h
  simp only [LoginFields.filled, Bool.and_eq_true, decide_eq_true_eq] at hfilled
  exact ⟨fields.customerIDField, fields.sessionIDField, rfl,
    List.length_pos_iff.mp hfilled.1, List.length_pos_iff.mp hfilled.2⟩

end LoginViewController

end HybridSample
