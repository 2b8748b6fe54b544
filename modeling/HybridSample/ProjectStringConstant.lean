import HybridSample.Foundation.NSString

/-!
# `ProjectStringConstant.h`

The string constants the modelled code reads, under the header's names.
-/

namespace HybridSample.ProjectStringConstant

/-! ## Languages -/

def english : NSString := .ascii "English"
def hindi : NSString := .ascii "Hindi"
def englishLangCode : NSString := .ascii "en"
def hindiLangCode : NSString := .ascii "hi"

/-! ## UI constants -/

def botIconBackgroundColor : NSString := .ascii "#3C65AA"
def botHeaderText : NSString := .ascii "Active Ai Bot!"
def headerTitleColor : NSString := .ascii "#FFFFFF"
def headerTitleFontName : NSString := .ascii "Lato-Medium"
def headerBackgroundColor : NSString := .ascii "#3C65AA"
def headerTitleFontSize : Nat := 16
def headerLeftBarImg : NSString := .ascii "hdr_menu_icon"

/-! ## Alert constants -/

def alertTitle : NSString := .ascii "Alert"
def logoutAlertMessage : NSString := .ascii "logout called"
def alertPrimaryButton : NSString := .ascii "OK"
def closeAlertMessage : NSString := .ascii "close called"
def userInfoTextValidationError : NSString :=
  .ascii "Customer ID and Session ID can not be empty"

/-! ## The bots and their sessions -/

def speechAPIKey : NSString := .ascii "<SPEECH_API_KEY>"
def userInfoKey1 : NSString := .ascii "CUSTOMER_ID"
def userInfoKey2 : NSString := .ascii "SESSION_ID"

def preLoginExampleURL : NSString := .ascii "<BOT_URL>"
def preLoginExampleBotID : NSString := .ascii "<BOT_ID>"
def preLoginBotName : NSString := .ascii "<BOT_NAME>"

def postLoginExampleURL : NSString := .ascii "<BOT_URL>"
def postLoginExampleBotID : NSString := .ascii "<BOT_ID>"
def postLoginBotName : NSString := .ascii "<BOT_NAME>"

end HybridSample.ProjectStringConstant
