import HybridSample.ChatHistory

/-!
# A login screen shown more than once

The storyboard shows a `LoginViewController` of its own each time the user goes to log in, and
an earlier one may still get messages: the SDK knows it as a delegate, and an alert of it may
be up. `App` has one. `Program` has any number of them, each with its own `objWebScreen`, and
what it sends is signed by the object that sends it.

* **`effects_step_app`**, **`app_step_login`** — one event, as the object it is for has it.
* **`withoutScreens_run`** — all that a program sends, but for its messages to chat screens, is
  what `App` sends with the login screens taken for one.
-/

namespace HybridSample

/-- The objects that hold a screen. -/
inductive Holder where
  | viewController
  | loginViewController (n : Nat)
  deriving DecidableEq

structure Program (tables : LanguageTables) where
  appDelegate : AppDelegate
  viewController : ViewController tables
  /-- By the order in which they are shown, each as it is loaded until a message changes it. -/
  loginViewController : Nat → LoginViewController
  screensShown : Nat

inductive ProgramEvent (tables : LanguageTables) where
  | viewController (message : ViewController.Message tables)
  | loginViewController (n : Nat) (fields : LoginFields) (message : LoginViewController.Message)
  | screenReleased (screen : Screen)

/-- The event with all login screens taken for one. -/
def ProgramEvent.event {tables : LanguageTables} : ProgramEvent tables → Event tables
  | .viewController message => .viewController message
  | .loginViewController _ fields message => .loginViewController fields message
  | .screenReleased screen => .screenReleased screen

/-- The login screen an event is for, if it is for one. -/
def ProgramEvent.login {tables : LanguageTables} : ProgramEvent tables → Nat
  | .loginViewController n _ _ => n
  | _ => 0

/-- The object an event is for. Nothing is sent where there is none. -/
def ProgramEvent.self {tables : LanguageTables} : ProgramEvent tables → Holder
  | .loginViewController n _ _ => .loginViewController n
  | _ => .viewController

/-- Messages without their signatures. -/
def unsigned (sent : List (Holder × Effect)) : List Effect :=
  sent.map Prod.snd

@[simp] theorem unsigned_map (self : Holder) (effects : List Effect) :
    unsigned (effects.map (Prod.mk self)) = effects := by
  unfold unsigned
  rw [List.map_map]
  exact List.map_id effects

namespace Program

variable [MessagingKit] {tables : LanguageTables}

def launch (F : Foundation) (baseValue : BitVec 32) (tables : LanguageTables)
    (launchOptions : Option LaunchOptions) : Program tables where
  appDelegate := AppDelegate.didFinishLaunchingWithOptions {} launchOptions
  viewController := ViewController.viewDidLoad F baseValue
  loginViewController _ := { objWebScreen := none }
  screensShown := 0

/-- The controller an effect names is the object that signs it. -/
def step (screens : Nat → Option Screen) (program : Program tables) :
    ProgramEvent tables → Program tables × List (Holder × Effect)
  | .viewController message =>
    let (appDelegate, viewController, effects) :=
      program.viewController.receive program.appDelegate (screens program.screensShown) message
    ({ program with
        appDelegate, viewController
        screensShown := program.screensShown + showScreenCount effects },
      effects.map (Prod.mk .viewController))
  | .loginViewController n fields message =>
    let (appDelegate, loginViewController, effects) :=
      (program.loginViewController n).receive fields program.appDelegate
        (screens program.screensShown) message
    ({ program with
        appDelegate
        loginViewController := Function.update program.loginViewController n loginViewController
        screensShown := program.screensShown + showScreenCount effects },
      effects.map (Prod.mk (.loginViewController n)))
  | .screenReleased screen =>
    ({ program with
        viewController.objWebScreen := weakAfterRelease screen program.viewController.objWebScreen
        loginViewController := fun n =>
          { objWebScreen := weakAfterRelease screen (program.loginViewController n).objWebScreen } },
      [])

/-- Every message a run sends, in order. -/
def effects (program : Program tables) (screens : Nat → Option Screen)
    (events : List (ProgramEvent tables)) : List (Holder × Effect) :=
  Reactive.log (step screens) id program events

/-- The program as one login screen knows it. -/
def app (program : Program tables) (n : Nat) : App tables where
  appDelegate := program.appDelegate
  viewController := program.viewController
  loginViewController := program.loginViewController n
  screensShown := program.screensShown

/-- What an event makes the program send, as its receiver sends it. -/
theorem effects_step_app (screens : Nat → Option Screen) (program : Program tables)
    (event : ProgramEvent tables) :
    (program.step screens event).2
      = ((program.app event.login).step screens event.event).2.map (Prod.mk event.self) := by
  cases event <;> rfl

/-- The receiver of an event finds the program as it finds the app. -/
theorem app_step_login (screens : Nat → Option Screen) (program : Program tables)
    (event : ProgramEvent tables) :
    (program.step screens event).1.app event.login
      = ((program.app event.login).step screens event.event).1 := by
  cases event with
  | viewController message => rfl
  | loginViewController n fields message =>
    unfold app step
    simp only [ProgramEvent.login, Function.update_self]
    rfl
  | screenReleased screen => rfl

end Program

/-! ## Login screens taken for one -/

def Effect.isForScreen : Effect → Bool
  | .presentViewController (.screen _) _ => true
  | .dismissViewController (.screen _) => true
  | _ => false

def withoutScreens (effects : List Effect) : List Effect :=
  effects.filter fun effect => !effect.isForScreen

/-- Two apps that have the rest in common. -/
structure App.SameButLogin {tables : LanguageTables} (app app' : App tables) : Prop where
  appDelegate : app.appDelegate = app'.appDelegate
  viewController : app.viewController = app'.viewController
  screensShown : app.screensShown = app'.screensShown

/-- At the launch all login screens are alike. -/
theorem sameButLogin_launch {tables : LanguageTables} (F : Foundation)
    (baseValue : BitVec 32) (launchOptions : Option LaunchOptions) (n : Nat) :
    ((Program.launch F baseValue tables launchOptions).app n).SameButLogin
      (App.launch F baseValue tables launchOptions) :=
  ⟨rfl, rfl, rfl⟩

/-- A logout and the button of its alert concern the chat screen alone. -/
theorem withoutScreens_toScreen {message : Screen → Effect}
    (hmessage : ∀ screen, (message screen).isForScreen = true) (objWebScreen : Option Screen) :
    withoutScreens (toScreen message objWebScreen) = [] := by
  cases objWebScreen with
  | none => rfl
  | some screen => exact List.filter_cons_of_neg (by rw [hmessage]; exact Bool.false_ne_true)

section Merged

variable [MessagingKit] {tables : LanguageTables} (screens : Nat → Option Screen)

/-- Of its screen a login screen tells nobody but the screen. -/
theorem LoginViewController.withoutScreens_receive (self self' : LoginViewController)
    (fields : LoginFields) (delegate : AppDelegate) (answer : Option Screen)
    (message : LoginViewController.Message) :
    (self.receive fields delegate answer message).1
      = (self'.receive fields delegate answer message).1 ∧
    withoutScreens (self.receive fields delegate answer message).2.2
      = withoutScreens (self'.receive fields delegate answer message).2.2 := by
  -- `startChat:` overwrites the screen it holds without reading it
  have hstart : ∀ sender, (self.startChat fields delegate answer sender).2
      = (self'.startChat fields delegate answer sender).2 := by
    intro sender
    unfold startChat
    split <;> rfl
  -- the two messages a login screen sends to its chat screen
  have hquiet : ∀ logoutType, withoutScreens (onLogout self.objWebScreen logoutType)
      = withoutScreens (onLogout self'.objWebScreen logoutType) := by
    intro logoutType
    rw [onLogout_eq_toScreen, onLogout_eq_toScreen, withoutScreens_toScreen (fun _ => rfl),
      withoutScreens_toScreen (fun _ => rfl)]
  have hquiet' : withoutScreens (dismissWebScreen self.objWebScreen)
      = withoutScreens (dismissWebScreen self'.objWebScreen) := by
    rw [dismissWebScreen_eq_toScreen, dismissWebScreen_eq_toScreen,
      withoutScreens_toScreen (fun _ => rfl), withoutScreens_toScreen (fun _ => rfl)]
  cases message with
  | loginAction => exact ⟨rfl, congrArg withoutScreens (hstart none)⟩
  | startChat sender => exact ⟨rfl, congrArg withoutScreens (hstart sender.object)⟩
  | askTohandlePushTap userInfo =>
    cases userInfo with
    | none => exact ⟨rfl, rfl⟩
    | some userInfo => exact ⟨rfl, congrArg withoutScreens (hstart (some (.dictionary userInfo)))⟩
  | onLogout logoutType => exact ⟨rfl, hquiet logoutType⟩
  | alertDismissHandler => exact ⟨rfl, hquiet'⟩
  | _ => exact ⟨rfl, rfl⟩

/-- **One step.** What apps have in common but their login screens, they keep, and what they
send but for chat screens is the same. -/
theorem step_sameButLogin {app app' : App tables} (h : app.SameButLogin app')
    (event : Event tables) :
    (app.step screens event).1.SameButLogin (app'.step screens event).1 ∧
    withoutScreens (app.step screens event).2 = withoutScreens (app'.step screens event).2 := by
  -- screens are counted by the events, not by the login screen
  have hshown : (app.step screens event).1.screensShown
      = (app'.step screens event).1.screensShown := by
    rw [App.screensShown_step, App.screensShown_step, h.screensShown]
  obtain ⟨delegate, viewController, loginViewController, shown⟩ := app
  obtain ⟨_, _, loginViewController', _⟩ := app'
  obtain ⟨rfl, rfl, rfl⟩ := h
  cases event with
  | viewController message => exact ⟨⟨rfl, rfl, hshown⟩, rfl⟩
  | loginViewController fields message =>
    obtain ⟨hdelegate, heffects⟩ := loginViewController.withoutScreens_receive loginViewController'
      fields delegate (screens shown) message
    exact ⟨⟨hdelegate, rfl, hshown⟩, heffects⟩
  | screenReleased screen => exact ⟨⟨rfl, rfl, hshown⟩, rfl⟩

/-- What a message to one login screen changes for another one, it changes for all. -/
theorem app_step_sameButLogin (program : Program tables) (event : ProgramEvent tables) (n : Nat) :
    ((program.step screens event).1.app n).SameButLogin
      ((program.app event.login).step screens event.event).1 := by
  rw [← Program.app_step_login]
  exact ⟨rfl, rfl, rfl⟩

/-- The program refines the app, with its login screens taken for one. -/
theorem program_refinement :
    Reactive.Refinement (@Program.step _ tables screens) (App.step screens)
      (some ∘ ProgramEvent.event) (fun sent => withoutScreens (unsigned sent)) withoutScreens
      fun program app => ∀ n, (program.app n).SameButLogin app where
  matched := by
    intro program app h event _ hview
    cases hview
    obtain ⟨hafter, heffects⟩ := step_sameButLogin screens (h event.login) event.event
    refine ⟨fun n => ?_, ?_⟩
    · -- the receiver steps as the app does, and the other screens see the same delegate
      have hn := app_step_sameButLogin screens program event n
      exact ⟨hn.appDelegate.trans hafter.appDelegate, hn.viewController.trans hafter.viewController,
        hn.screensShown.trans hafter.screensShown⟩
    · rw [Program.effects_step_app, unsigned_map]
      exact heffects
  hidden := by
    intro program app _ event hview
    cases hview

/-- The messages of a run, but for those to chat screens. -/
theorem withoutScreens_effects {program : Program tables} {app : App tables}
    (h : ∀ n, (program.app n).SameButLogin app) (events : List (ProgramEvent tables)) :
    withoutScreens (unsigned (program.effects screens events))
      = withoutScreens (app.effects screens (events.map ProgramEvent.event)) := by
  have hlog := (program_refinement screens).log_eq h events
  rw [List.filterMap_eq_map] at hlog
  unfold withoutScreens unsigned Program.effects App.effects
  rw [Reactive.log_map, Reactive.log_filter, Reactive.log_filter]
  exact hlog

/-- **Login screens taken for one.** What a program with any number of login screens sends to
the SDK manager and presents on its own screens, it sends and presents with one. The delegate
and `ViewController` end up the same. -/
theorem withoutScreens_run (F : Foundation) (baseValue : BitVec 32)
    (launchOptions : Option LaunchOptions) (events : List (ProgramEvent tables)) :
    let program := Program.launch F baseValue tables launchOptions
    let app := App.launch F baseValue tables launchOptions
    let merged := events.map ProgramEvent.event
    withoutScreens (unsigned (program.effects screens events))
      = withoutScreens (app.effects screens merged) ∧
    ∀ n, ((Reactive.run (Program.step screens) program events).app n).SameButLogin
      (Reactive.run (App.step screens) app merged) := by
  intro program app merged
  have hlaunch : ∀ n, (program.app n).SameButLogin app :=
    sameButLogin_launch F baseValue launchOptions
  -- one refinement gives the messages and the state
  have hrun := (program_refinement screens).run hlaunch events
  rw [List.filterMap_eq_map] at hrun
  exact ⟨withoutScreens_effects screens hlaunch events, hrun⟩

/-- The payloads of the chats of a run: those of the app, whichever login screens they are
opened from. -/
theorem deliveries_program (F : Foundation) (baseValue : BitVec 32)
    (launchOptions : Option LaunchOptions) (events : List (ProgramEvent tables)) :
    deliveries (unsigned ((Program.launch F baseValue tables launchOptions).effects screens events))
      = if WithoutRemoteNotification launchOptions then
          ((events.map ProgramEvent.event).dropWhile fun event =>
            !event.isPushTap).tail.filterMap Event.delivery
        else (events.map ProgramEvent.event).filterMap Event.delivery := by
  -- no chat is opened by a message to a chat screen
  have hscreens : ∀ effects, deliveries effects = deliveries (withoutScreens effects) := by
    intro effects
    unfold deliveries openedSessions withoutScreens
    rw [List.filterMap_filter]
    refine congrArg (List.filterMap _) (List.filterMap_congr ?_)
    intro effect _
    rcases effect with _ | _ | ⟨_ | _, _⟩ | ⟨_ | _⟩ <;> rfl
  have hlaunch := @sameButLogin_launch tables F baseValue launchOptions
  rw [hscreens, withoutScreens_effects screens hlaunch, ← hscreens,
    deliveries_effects screens (serves_launch F baseValue launchOptions)]
  simp only [ChatService.launch, decide_eq_true_eq]

end Merged

end HybridSample
