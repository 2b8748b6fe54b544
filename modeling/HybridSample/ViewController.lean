import HybridSample.AppDelegate
import HybridSample.Color.ColorFromHexString

/-!
# `ViewController`

The pre-login screen: the language picker, the button that opens a chat, and the delegate
callbacks of the two SDKs. Every method is a function of the state it reads and returns the
state it leaves, with the `Effect`s of the messages it sends. `receive` dispatches the
messages UIKit and the SDKs deliver.

The two picker tables are a parameter. `viewDidLoad` installs them once and nothing writes
them again; `LanguageTables.installed` is the pair the shipped app has.
-/

namespace HybridSample

open ProjectStringConstant

/-- `pickerData` (codes) and `pickerDataTitle` (titles), of one length and with the English
default in row 0. -/
structure LanguageTables where
  pickerData : List NSString
  pickerDataTitle : List NSString
  length_eq : pickerDataTitle.length = pickerData.length
  pickerData_zero : pickerData[0]? = some englishLangCode
  pickerDataTitle_zero : pickerDataTitle[0]? = some english

namespace LanguageTables

/-- The tables `viewDidLoad` installs. -/
def installed : LanguageTables where
  pickerData := [englishLangCode, hindiLangCode]
  pickerDataTitle := [english, hindi]
  length_eq := rfl
  pickerData_zero := rfl
  pickerDataTitle_zero := rfl

variable (tables : LanguageTables)

def numberOfRows : Nat := tables.pickerData.length

/-- There is a row to select, the English one. -/
theorem numberOfRows_pos : 0 < tables.numberOfRows := by
  have h := tables.pickerData_zero
  by_contra hzero
  rw [List.getElem?_eq_none (by unfold numberOfRows at hzero; omega)] at h
  simp at h

abbrev Row := Fin tables.numberOfRows

def defaultRow : tables.Row := ⟨0, tables.numberOfRows_pos⟩

def code (row : tables.Row) : NSString :=
  tables.pickerData.get row

/-- `pickerDataTitle[row]`, which is also `pickerView:titleForRow:forComponent:`. Every row the
picker asks for is inside the title table too. -/
def title (row : tables.Row) : NSString :=
  tables.pickerDataTitle.get ⟨row, by rw [tables.length_eq]; exact row.isLt⟩

@[simp] theorem code_defaultRow : tables.code tables.defaultRow = englishLangCode := by
  have h := tables.pickerData_zero
  rw [List.getElem?_eq_getElem tables.numberOfRows_pos] at h
  exact Option.some.inj h

@[simp] theorem title_defaultRow : tables.title tables.defaultRow = english := by
  have h := tables.pickerDataTitle_zero
  rw [List.getElem?_eq_getElem (by rw [tables.length_eq]; exact tables.numberOfRows_pos)] at h
  exact Option.some.inj h

end LanguageTables

structure ViewController (tables : LanguageTables) where
  /-- The title of `objLanguageButton` for the normal state. -/
  objLanguageButtonTitle : NSString
  languageTitle : Option NSString
  languageCode : NSString
  languagePickerViewHidden : Bool
  askMeButtonTitleColor : UIColor
  objWebScreen : Option Screen

/-- A sender that is not a dictionary: a button, or `nil`. -/
structure ControlSender where
  object : Option NSObject
  not_dictionary : ∀ userInfo, object ≠ some (.dictionary userInfo)

/-- A control brings no payload. -/
theorem ControlSender.payload_object (sender : ControlSender) : payload sender.object = none := by
  unfold payload
  split
  · next userInfo hobject => exact absurd hobject (sender.not_dictionary userInfo)
  · rfl

/-- `CFBundleShortVersionString` and its value in `Info.plist`. -/
def infoDictionary : NSDictionary :=
  [(.ascii "CFBundleShortVersionString", .string (.ascii "1.3.20"))]

namespace ViewController

variable [MessagingKit] {tables : LanguageTables}

/-- `viewDidLoad`, with the stack content its call of `colorFromHexString:` finds. -/
def viewDidLoad (F : Foundation) (baseValue : BitVec 32) : ViewController tables where
  objLanguageButtonTitle := english
  languageTitle := none
  languageCode := englishLangCode
  languagePickerViewHidden := false
  askMeButtonTitleColor := colorFromHexString F baseValue botIconBackgroundColor
  objWebScreen := none

-- The panel disappears with what was selected in it neither confirmed nor undone.
def viewWillAppear (self : ViewController tables) : ViewController tables :=
  { self with languagePickerViewHidden := true }

/-- `startChat:`. `screen` is what the SDK answers. -/
def startChat (self : ViewController tables) (delegate : AppDelegate) (screen : Option Screen)
    (sender : Option NSObject) : ViewController tables × List Effect :=
  let params := MFSDKProperties.initWithDomain preLoginExampleURL
  let params := params.addBot preLoginExampleBotID preLoginBotName
  let params := params.enableCheck true
  let params := { params with messagingDelegate := some .viewController }
  let params := { params with
    appVersion := infoDictionary.objectForKey (.ascii "CFBundleShortVersionString") }
  let initialisation := Effect.initWithProperties params
  let sessionProperties := MessagingKit.freshSession
  let sessionProperties := { sessionProperties with speechAPIKey := some speechAPIKey }
  let sessionProperties := { sessionProperties with shouldSupportMultiLanguage := true }
  -- the row selected last, whether Done confirmed it or not
  let sessionProperties := { sessionProperties with language := some self.languageCode }
  let sessionProperties := deliverPushData delegate sender sessionProperties
  let (params, sessionProperties) := createAndSetBotHeader params sessionProperties
  ({ self with objWebScreen := screen },
    [initialisation, .showScreen preLoginExampleBotID .viewController params sessionProperties])

def languageAction (self : ViewController tables) : ViewController tables :=
  { self with languagePickerViewHidden := false }

/-- `pickerDoneAction:`. The length of a `nil` title is 0. -/
def pickerDoneAction (self : ViewController tables) : ViewController tables :=
  let title :=
    match self.languageTitle with
    | some languageTitle => if languageTitle.length > 0 then languageTitle else english
    | none => english
  { self with objLanguageButtonTitle := title, languagePickerViewHidden := true }

-- Both fields change at once. The button keeps its title until Done.
def didSelectRow (self : ViewController tables) (row : tables.Row) : ViewController tables :=
  { self with languageTitle := some (tables.title row), languageCode := tables.code row }

def askTohandlePushTap (self : ViewController tables) (delegate : AppDelegate)
    (screen : Option Screen) (userInfo : Option NSObject) :
    AppDelegate × ViewController tables × List Effect :=
  let (self, effects) :=
    match userInfo with
    | some userInfo => self.startChat delegate screen (some userInfo)
    | none => (self, [])
  -- after the chat was opened, and also when none was
  (delegate.setPropertiesNil, self, effects)

/-- What UIKit and the SDKs send to the controller. A push tap carries a dictionary or `nil`,
as the delegate protocol declares it; a selected row is one the picker shows. -/
inductive Message (tables : LanguageTables) where
  | viewWillAppear
  | languageAction
  | didSelectRow (row : tables.Row)
  | pickerDoneAction
  | startChat (sender : ControlSender)
  | askTohandlePushTap (userInfo : Option NSDictionary)
  | onLogout (logoutType : Int)
  | onChatClose
  | alertDismissHandler

def receive (self : ViewController tables) (delegate : AppDelegate) (screen : Option Screen) :
    Message tables → AppDelegate × ViewController tables × List Effect
  | .viewWillAppear => (delegate, self.viewWillAppear, [])
  | .languageAction => (delegate, self.languageAction, [])
  | .didSelectRow row => (delegate, self.didSelectRow row, [])
  | .pickerDoneAction => (delegate, self.pickerDoneAction, [])
  | .startChat sender => (delegate, self.startChat delegate screen sender.object)
  | .askTohandlePushTap userInfo =>
    self.askTohandlePushTap delegate screen (userInfo.map .dictionary)
  | .onLogout logoutType => (delegate, self, HybridSample.onLogout self.objWebScreen logoutType)
  | .onChatClose =>
    (delegate, { self with objWebScreen := none }, HybridSample.onChatClose .viewController)
  | .alertDismissHandler => (delegate, self, dismissWebScreen self.objWebScreen)

/-! ## What `startChat:` opens -/

/-- The session of the chat, as the manager is asked to show it. -/
def session (self : ViewController tables) (delegate : AppDelegate) (sender : Option NSObject) :
    MFSDKSessionProperties :=
  (createAndSetBotHeader (MFSDKProperties.initWithDomain preLoginExampleURL)
    (deliverPushData delegate sender
      { MessagingKit.freshSession with
        speechAPIKey := some speechAPIKey
        shouldSupportMultiLanguage := true
        language := some self.languageCode })).2

/-- The sender of the chat a message opens, if it opens one. -/
def Message.chatSender : Message tables → Option (Option NSObject)
  | .startChat sender => some sender.object
  | .askTohandlePushTap (some userInfo) => some (some (.dictionary userInfo))
  | _ => none

/-- A message opens one chat or none, and which chat it is depends on its sender alone. -/
theorem openedSessions_receive (self : ViewController tables) (delegate : AppDelegate)
    (screen : Option Screen) (message : Message tables) :
    openedSessions (self.receive delegate screen message).2.2
      = message.chatSender.toList.map fun sender =>
          (.viewController, self.session delegate sender) := by
  cases message with
  -- the two messages to a chat screen open none, whether there is a screen or not
  | onLogout logoutType => exact openedSessions_onLogout self.objWebScreen logoutType
  | alertDismissHandler => exact openedSessions_dismissWebScreen self.objWebScreen
  | askTohandlePushTap userInfo => cases userInfo <;> rfl
  | _ => rfl

/-! ## The session -/

/-- The chat is told the row selected last, whatever its sender. -/
theorem session_language (self : ViewController tables) (delegate : AppDelegate)
    (sender : Option NSObject) :
    (self.session delegate sender).language = some self.languageCode := by
  have hframe := deliverPushData_frame delegate sender
    { MessagingKit.freshSession with
      speechAPIKey := some speechAPIKey
      shouldSupportMultiLanguage := true
      language := some self.languageCode }
  -- the language is assigned before the decision, which leaves it alone
  exact congrArg MFSDKSessionProperties.language hframe

/-- The chat gets the payload of its sender unless the delegate swallows it. -/
theorem session_pushData (self : ViewController tables) (delegate : AppDelegate)
    (sender : Option NSObject) :
    (self.session delegate sender).pushData
      = if delegate.swallows then none else payload sender :=
  deliverPushData_pushData delegate sender _ MessagingKit.freshSession_pushData

end ViewController

end HybridSample
