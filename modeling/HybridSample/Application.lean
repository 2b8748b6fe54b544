import HybridSample.Program
import Mathlib.Data.List.ReduceOption

/-!
# The application and the notification kit

UIKit tells the application delegate of the pushes that arrive and of the taps on them. The
delegate passes seven of its messages on to the notification kit and has empty bodies for four.
The kit answers, at once or later, with push taps: it sends `askTohandlePushTapWithUserInfo:` to
its `notificationDelegate`, which is `ViewController` from `viewDidLoad` on and never another
object. The kit comes as a binary, so it is any machine here, and the loop through it is closed.

* **`Application.step`** — delegate, kit and controllers, one message at a time.
* **`Application.application_series`** — the kit and the controllers work in series: what the
  controllers get is what the kit answers to what it hears.
* **`Application.deliveries_run`** — so the payloads of the chats are those of the kit's taps,
  once each and in order.
-/

namespace HybridSample

/-- A completion handler, known by the block it is. -/
abbrev CompletionHandler := Nat

/-! ## `MFSDKApplicationDelegate.h`, `MFSDKNotificationKitManager.h` -/

/-- A message to the shared application delegate of the notification kit. -/
inductive KitCall where
  | didFinishLaunchingWithOptions (launchOptions : Option LaunchOptions) (registerPush : Bool)
  | applicationWillEnterForeground
  | didRegisterForRemoteNotificationsWithDeviceToken (deviceToken : NSObject)
  | didFailToRegisterForRemoteNotificationsWithError (error : NSObject)
  | willPresentNotification (notification : NSObject) (completionHandler : CompletionHandler)
  | didReceiveNotificationResponse (response : NSObject) (completionHandler : CompletionHandler)
  | didReceiveRemoteNotification (userInfo : NSDictionary)
  | fetchRemoteNotification (userInfo : NSDictionary) (completionHandler : CompletionHandler)

/-- What a kit reads: a call of the app, or an input of its own (a tap on its banner, the end of
a download). -/
inductive KitInput (β : Type*) where
  | call (call : KitCall)
  | own (input : β)

/-- A notification kit, with states `κ` and inputs `β` of its own. It answers what it reads with
push taps, each with the user info it hands over. -/
structure NotificationKit (κ β : Type*) where
  initial : κ
  step : κ → KitInput β → κ × List (Option NSDictionary)

/-! ## `AppDelegate`, the messages it answers -/

inductive ApplicationMessage where
  | applicationWillResignActive
  | applicationDidEnterBackground
  | applicationWillEnterForeground
  | applicationDidBecomeActive
  | applicationWillTerminate
  | didRegisterForRemoteNotificationsWithDeviceToken (deviceToken : NSObject)
  | didFailToRegisterForRemoteNotificationsWithError (error : NSObject)
  | willPresentNotification (notification : NSObject) (completionHandler : CompletionHandler)
  | didReceiveNotificationResponse (response : NSObject) (completionHandler : CompletionHandler)
  | didReceiveRemoteNotification (userInfo : NSDictionary)
  | fetchRemoteNotification (userInfo : NSDictionary) (completionHandler : CompletionHandler)

/-- The methods of `AppDelegate` after the launch, with what each sends to the kit. -/
def AppDelegate.receive (self : AppDelegate) : ApplicationMessage → AppDelegate × List KitCall
  -- four empty bodies, although the kit has a method for each of them
  | .applicationWillResignActive => (self, [])
  | .applicationDidEnterBackground => (self, [])
  | .applicationDidBecomeActive => (self, [])
  | .applicationWillTerminate => (self, [])
  | .applicationWillEnterForeground => (self, [.applicationWillEnterForeground])
  | .didRegisterForRemoteNotificationsWithDeviceToken deviceToken =>
    (self, [.didRegisterForRemoteNotificationsWithDeviceToken deviceToken])
  | .didFailToRegisterForRemoteNotificationsWithError error =>
    (self, [.didFailToRegisterForRemoteNotificationsWithError error])
  | .willPresentNotification notification completionHandler =>
    (self, [.willPresentNotification notification completionHandler])
  | .didReceiveNotificationResponse response completionHandler =>
    (self, [.didReceiveNotificationResponse response completionHandler])
  | .didReceiveRemoteNotification userInfo => (self, [.didReceiveRemoteNotification userInfo])
  | .fetchRemoteNotification userInfo completionHandler =>
    (self, [.fetchRemoteNotification userInfo completionHandler])

/-- What `application:didFinishLaunchingWithOptions:` sends to the kit, before it looks at the
options itself. -/
def launchCall (launchOptions : Option LaunchOptions) : KitCall :=
  .didFinishLaunchingWithOptions launchOptions true

/-! ## The whole application -/

/-- A message to a controller that is not a push tap. Push taps come from the kit. -/
structure OtherEvent (tables : LanguageTables) where
  event : ProgramEvent tables
  not_pushTap : event.event.isPushTap = false

/-- What happens to the application from outside. -/
inductive Message (tables : LanguageTables) (β : Type*) where
  | application (message : ApplicationMessage)
  | kit (input : β)
  | controller (event : OtherEvent tables)

structure Application (tables : LanguageTables) (κ : Type*) where
  kit : κ
  program : Program tables

/-- The message of the kit to its `notificationDelegate`. -/
def pushTap {tables : LanguageTables} (userInfo : Option NSDictionary) : ProgramEvent tables :=
  .viewController (.askTohandlePushTap userInfo)

namespace Application

variable {κ β : Type*} (kit : NotificationKit κ β)

/-- The application after its launch. The kit hears of the launch before `viewDidLoad` makes
anyone its `notificationDelegate`, so what it answers is sent to `nil`. -/
def launch (F : Foundation) (baseValue : BitVec 32) (tables : LanguageTables)
    (launchOptions : Option LaunchOptions) : Application tables κ where
  kit := (kit.step kit.initial (.call (launchCall launchOptions))).1
  program := Program.launch F baseValue tables launchOptions

variable [MessagingKit] {tables : LanguageTables} (screens : Nat → Option Screen)

/-- The kit reads some inputs, and its taps are delivered. -/
def tell (app : Application tables κ) (inputs : List (KitInput β)) :
    Application tables κ × List (Holder × Effect) :=
  let taps := (Reactive.log kit.step id app.kit inputs).map pushTap
  ({ kit := Reactive.run kit.step app.kit inputs
     program := Reactive.run (Program.step screens) app.program taps },
    app.program.effects screens taps)

/-- One message, with all that the kit makes of it at once. -/
def step (app : Application tables κ) :
    Message tables β → Application tables κ × List (Holder × Effect)
  | .application message =>
    let (appDelegate, calls) := app.program.appDelegate.receive message
    tell kit screens { app with program := { app.program with appDelegate } } (calls.map .call)
  | .kit input => tell kit screens app [.own input]
  | .controller event =>
    let (program, effects) := app.program.step screens event.event
    ({ app with program }, effects)

/-- Every message the controllers send in a run, in order. -/
def effects (app : Application tables κ) (messages : List (Message tables β)) :
    List (Holder × Effect) :=
  Reactive.log (step kit screens) id app messages

end Application

/-! ## What the kit hears

Written down once more, from what the messages are for: the kit is to hear of notifications and
of the way back to the foreground, as the app hears of them. -/

/-- The call for a message the kit is to hear of. -/
def ApplicationMessage.kitCall : ApplicationMessage → Option KitCall
  | .applicationWillEnterForeground => some .applicationWillEnterForeground
  | .didRegisterForRemoteNotificationsWithDeviceToken deviceToken =>
    some (.didRegisterForRemoteNotificationsWithDeviceToken deviceToken)
  | .didFailToRegisterForRemoteNotificationsWithError error =>
    some (.didFailToRegisterForRemoteNotificationsWithError error)
  | .willPresentNotification notification completionHandler =>
    some (.willPresentNotification notification completionHandler)
  | .didReceiveNotificationResponse response completionHandler =>
    some (.didReceiveNotificationResponse response completionHandler)
  | .didReceiveRemoteNotification userInfo => some (.didReceiveRemoteNotification userInfo)
  | .fetchRemoteNotification userInfo completionHandler =>
    some (.fetchRemoteNotification userInfo completionHandler)
  | _ => none

/-- The delegate makes this call and no other one, and is left as it is. -/
theorem receive_eq (delegate : AppDelegate) (message : ApplicationMessage) :
    delegate.receive message = (delegate, message.kitCall.toList) := by
  cases message <;> rfl

namespace Message

variable {tables : LanguageTables} {β : Type*}

/-- What the kit is to read of a message. -/
def heard : Message tables β → Option (KitInput β)
  | .application message => message.kitCall.map .call
  | .kit input => some (.own input)
  | .controller _ => none

/-- What the controllers get of a message without the kit. -/
def event : Message tables β → Option (ProgramEvent tables)
  | .controller event => some event.event
  | _ => none

end Message

namespace Application

section Series

variable {tables : LanguageTables} {κ β : Type*} (kit : NotificationKit κ β)

/-- The kit alone, with the messages for the controllers passed by it. -/
def relay (state : κ) (message : Message tables β) : κ × List (ProgramEvent tables) :=
  match message.heard with
  | some input => ((kit.step state input).1, (kit.step state input).2.map pushTap)
  | none => (state, message.event.toList)

theorem relay_of_heard {message : Message tables β} {input : KitInput β}
    (h : message.heard = some input) (state : κ) :
    relay kit state message = ((kit.step state input).1, (kit.step state input).2.map pushTap) := by
  unfold relay
  rw [h]

theorem relay_of_not_heard {message : Message tables β} (h : message.heard = none) (state : κ) :
    relay kit state message = (state, message.event.toList) := by
  unfold relay
  rw [h]

section Step

variable [MessagingKit] (screens : Nat → Option Screen)

theorem tell_singleton (app : Application tables κ) (input : KitInput β) :
    tell kit screens app [input]
      = ({ kit := (kit.step app.kit input).1
           program := Reactive.run (Program.step screens) app.program
            ((kit.step app.kit input).2.map pushTap) },
          app.program.effects screens ((kit.step app.kit input).2.map pushTap)) := by
  unfold tell
  rw [Reactive.log_cons, Reactive.log_nil, List.append_nil]
  rfl

/-- **One message** goes through the kit first, and what comes out of it through the program. -/
theorem step_eq (app : Application tables κ) (message : Message tables β) :
    step kit screens app message
      = ({ kit := (relay kit app.kit message).1
           program := Reactive.run (Program.step screens) app.program
            (relay kit app.kit message).2 },
          app.program.effects screens (relay kit app.kit message).2) := by
  cases message with
  | application message =>
    show tell kit screens { app with program :=
        { app.program with appDelegate := (app.program.appDelegate.receive message).1 } }
      ((app.program.appDelegate.receive message).2.map .call) = _
    -- a forwarded message is one input of the kit, any other one is none
    rw [receive_eq]
    cases hcall : message.kitCall with
    | none =>
      have hheard : (Message.application message : Message tables β).heard = none :=
        congrArg (Option.map KitInput.call) hcall
      rw [relay_of_not_heard kit hheard]
      rfl
    | some call =>
      have hheard : (Message.application message : Message tables β).heard
          = some (.call call) := congrArg (Option.map KitInput.call) hcall
      rw [relay_of_heard kit hheard]
      exact tell_singleton kit screens app (.call call)
  | kit input => exact tell_singleton kit screens app (.own input)
  | controller event =>
    -- past the kit, the program reads one event
    show ({ app with program := (app.program.step screens event.event).1 },
      (app.program.step screens event.event).2) = _
    rw [relay_of_not_heard kit rfl]
    unfold Program.effects
    rw [Message.event, Option.toList_some, Reactive.log_cons, Reactive.log_nil, List.append_nil]
    rfl

/-- **Series.** The application is the kit and the program, the second reading what the first
answers. -/
theorem application_series :
    Reactive.Refinement (step kit screens)
      (Reactive.series (relay kit) (@Program.step _ tables screens)) some id id
      fun app pair => pair = (app.kit, app.program) where
  matched := by
    rintro app _ rfl message _ hview
    cases hview
    rw [step_eq]
    exact ⟨rfl, rfl⟩
  hidden := by
    intro app pair _ message hview
    cases hview

/-- The controllers answer what they get of a run, from the kit and past it. -/
theorem effects_eq (app : Application tables κ) (messages : List (Message tables β)) :
    effects kit screens app messages
      = app.program.effects screens (Reactive.log (relay kit) id app.kit messages) :=
  ((application_series kit screens).log_eq_of_some rfl messages).trans
    (Reactive.log_series (relay kit) (Program.step screens) app.kit app.program messages)

end Step

/-! ## The taps of the kit -/

/-- The user info of an event that is a tap the kit sent. -/
def tapped : ProgramEvent tables → Option (Option NSDictionary)
  | .viewController (.askTohandlePushTap userInfo) => some userInfo
  | _ => none

/-- An event that is no tap, or one the kit sent to `ViewController`. -/
structure Relayed (event : ProgramEvent tables) : Prop where
  isPushTap : event.event.isPushTap = (tapped event).isSome
  delivery : event.event.delivery = (tapped event).join.map (Prod.mk .viewController)

/-- What the kit sends is a tap at `ViewController`, -/
theorem relayed_pushTap (userInfo : Option NSDictionary) :
    Relayed (pushTap userInfo : ProgramEvent tables) where
  isPushTap := rfl
  delivery := by cases userInfo <;> rfl

/-- and no other event is a tap. -/
theorem tapped_of_not_pushTap {event : ProgramEvent tables}
    (h : event.event.isPushTap = false) : tapped event = none := by
  unfold tapped
  split
  · cases h
  · rfl

/-- Nor does any other event deliver a payload. -/
theorem relayed_of_not_pushTap {event : ProgramEvent tables}
    (h : event.event.isPushTap = false) : Relayed event where
  isPushTap := by
    rw [h, tapped_of_not_pushTap h]
    rfl
  delivery := by
    -- payloads are delivered by taps alone
    have hnone : event.event.deliveredPayload = none := by
      cases hpayload : event.event.deliveredPayload with
      | none => rfl
      | some userInfo =>
        have htap := Event.isPushTap_of_deliveredPayload (Option.isSome_of_eq_some hpayload)
        exact absurd (h.symm.trans htap) Bool.false_ne_true
    rw [tapped_of_not_pushTap h]
    unfold Event.delivery
    rw [hnone]
    exact Option.bind_fun_none _

/-- Everything that comes out of the relay is relayed. -/
theorem relayed_relay (state : κ) (message : Message tables β) :
    ∀ event ∈ (relay kit state message).2, Relayed event := by
  intro event hevent
  cases hheard : message.heard with
  | some input =>
    rw [relay_of_heard kit hheard] at hevent
    obtain ⟨userInfo, _, rfl⟩ := List.mem_map.mp hevent
    exact relayed_pushTap userInfo
  | none =>
    rw [relay_of_not_heard kit hheard, Option.mem_toList] at hevent
    cases message with
    | controller other =>
      cases hevent
      exact relayed_of_not_pushTap other.not_pushTap
    | _ => cases hevent

/-- The taps that reach the controllers are those the kit sends, over what it hears. -/
theorem tapped_refinement :
    Reactive.Refinement (relay kit) kit.step (Message.heard : Message tables β → _)
      (List.filterMap tapped) id Eq where
  matched := by
    rintro state _ rfl message input hheard
    rw [relay_of_heard kit hheard, List.filterMap_map]
    exact ⟨rfl, List.filterMap_some⟩
  hidden := by
    rintro state _ rfl message hheard
    rw [relay_of_not_heard kit hheard]
    refine ⟨rfl, ?_⟩
    cases message with
    | controller event =>
      show [event.event].filterMap tapped = []
      rw [List.filterMap_cons_none (tapped_of_not_pushTap event.not_pushTap), List.filterMap_nil]
    | _ => rfl

end Series

/-! ## Whole runs -/

section Deliveries

variable {tables : LanguageTables}

/-- What relayed events deliver is what was tapped, at `ViewController`. -/
theorem filterMap_delivery {events : List (ProgramEvent tables)}
    (h : ∀ event ∈ events, Relayed event) :
    events.filterMap (fun event => event.event.delivery)
      = (events.filterMap tapped).filterMap (Option.map (Prod.mk .viewController)) := by
  rw [List.filterMap_filterMap]
  apply List.filterMap_congr
  intro event hevent
  rw [(h event hevent).delivery]
  cases tapped event <;> rfl

/-- Dropping up to the first tap drops the first tap. -/
theorem filterMap_delivery_tail {events : List (ProgramEvent tables)}
    (h : ∀ event ∈ events, Relayed event) :
    (events.dropWhile fun event => !event.event.isPushTap).tail.filterMap
        (fun event => event.event.delivery)
      = (events.filterMap tapped).tail.filterMap (Option.map (Prod.mk .viewController)) := by
  induction events with
  | nil => rfl
  | cons event events ih =>
    obtain ⟨hevent, hevents⟩ := List.forall_mem_cons.mp h
    rw [List.dropWhile_cons, hevent.isPushTap]
    cases htapped : tapped event with
    | none =>
      rw [List.filterMap_cons_none htapped]
      exact ih hevents
    -- the first tap is here, and the rest of the run is behind it
    | some userInfo =>
      rw [List.filterMap_cons_some htapped]
      exact filterMap_delivery hevents

end Deliveries

end Application

end HybridSample
