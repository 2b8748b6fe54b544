import HybridSample.ChatHost
import HybridSample.Color.BaseValue

/-!
# What the launch decides

The delegate stores the payload an app was launched with and keeps it until the first push
tap, but no controller ever reads more of it than whether it is there. And `viewDidLoad`
decodes a color with a local it did not initialise, but from a text that assigns it. In what
the controllers send after it, a launch therefore shows by one bit at most. (The notification
kit is handed the options themselves, as they are, before the delegate looks at them.)

* **`launch_eq`** — neither the framework nor the stack decides anything at a launch.
* **`launch_indistinguishable_iff`** — the launches after which the controllers send the same in
  every run.
* **`launch_confined`** — where any other two differ: in payloads, and up to the first tap.
-/

namespace HybridSample

/-! ## Launches -/

section Launches

variable (tables : LanguageTables)

/-- The color `viewDidLoad` asks for is written by its text alone. -/
theorem launch_eq (F F' : Foundation) (baseValue baseValue' : BitVec 32)
    (launchOptions : Option LaunchOptions) :
    App.launch F baseValue tables launchOptions = App.launch F' baseValue' tables launchOptions := by
  unfold App.launch ViewController.viewDidLoad
  -- a spelling is decoded whatever the stack holds
  rw [colorFromHexString_of_spells F baseValue spells_botIconBackgroundColor rfl,
    colorFromHexString_of_spells F' baseValue' spells_botIconBackgroundColor rfl]

/-- Of the launch options a host keeps whether payloads are withheld. -/
theorem chatHost_launch_eq {launchOptions launchOptions' : Option LaunchOptions}
    (h : WithoutRemoteNotification launchOptions ↔ WithoutRemoteNotification launchOptions') :
    (ChatHost.launch launchOptions : ChatHost tables) = ChatHost.launch launchOptions' := by
  unfold ChatHost.launch ChatService.launch
  simp only [h]

variable [MessagingKit]

/-- One tapped push tells the two kinds of launches apart. -/
theorem deliveries_of_one_tap (F : Foundation) (baseValue : BitVec 32)
    (launchOptions : Option LaunchOptions) (screens : Nat → Option Screen) :
    deliveries (unsigned ((Program.launch F baseValue tables launchOptions).effects screens
        [.viewController (.askTohandlePushTap (some []))]))
      = if WithoutRemoteNotification launchOptions then [] else [(.viewController, [])] :=
  deliveries_program screens F baseValue launchOptions _

/-- **The launch is one bit.** After two launches the controllers send the same messages in
every run, with any number of login screens, exactly when both launches were by something else
than a push or neither was. So the payload an app was launched with does not show in them. -/
theorem launch_indistinguishable_iff (F : Foundation) (baseValue : BitVec 32)
    (launchOptions launchOptions' : Option LaunchOptions) :
    (∀ screens (events : List (ProgramEvent tables)),
      (Program.launch F baseValue tables launchOptions).effects screens events
        = (Program.launch F baseValue tables launchOptions').effects screens events)
      ↔ (WithoutRemoteNotification launchOptions ↔ WithoutRemoteNotification launchOptions') := by
  refine ⟨fun hsame => ?_, fun h screens events => ?_⟩
  · -- one tap is enough to tell them apart: its payload arrives after one kind only
    have heffects := hsame (fun _ => none) [.viewController (.askTohandlePushTap (some []))]
    have htap := deliveries_of_one_tap tables F baseValue launchOptions fun _ => none
    have htap' := deliveries_of_one_tap tables F baseValue launchOptions' fun _ => none
    rw [heffects, htap'] at htap
    by_cases h : WithoutRemoteNotification launchOptions
    · refine iff_of_true h ?_
      by_contra h'
      rw [if_pos h, if_neg h'] at htap
      cases htap
    · refine iff_of_false h ?_
      intro h'
      rw [if_neg h, if_pos h'] at htap
      cases htap
  -- both programs send what one host answers
  · have hlog := (chatHost_refinement screens).log_eq_of_some
      (@hosts_launch tables F baseValue launchOptions) events
    have hlog' := (chatHost_refinement screens).log_eq_of_some
      (@hosts_launch tables F baseValue launchOptions') events
    rw [chatHost_launch_eq tables h] at hlog
    exact hlog.trans hlog'.symm

end Launches

/-! ## Where the bit shows -/

/-- A message with the payload of its chat taken out. -/
def Effect.erasePushData : Effect → Effect
  | .showScreen botId fromViewController sdkProperties sessionProperties =>
    .showScreen botId fromViewController sdkProperties { sessionProperties with pushData := none }
  | effect => effect

/-- Two apps whose delegates have nothing to do with each other. -/
structure App.SameControllers {tables : LanguageTables} (app app' : App tables) : Prop where
  viewController : app.viewController = app'.viewController
  loginViewController : app.loginViewController = app'.loginViewController
  screensShown : app.screensShown = app'.screensShown

/-- With the same delegate they are the same. -/
theorem App.SameControllers.eq {tables : LanguageTables} {app app' : App tables}
    (h : app.SameControllers app')
    (hdelegate : app.appDelegate = app'.appDelegate) : app = app' := by
  obtain ⟨delegate, viewController, loginViewController, shown⟩ := app
  obtain ⟨_, _, _, _⟩ := app'
  obtain ⟨rfl, rfl, rfl⟩ := h
  cases hdelegate
  rfl

section Erased

variable [MessagingKit] {tables : LanguageTables} (screens : Nat → Option Screen)

/-- The delegate decides nothing about a chat but its payload, -/
theorem ViewController.startChat_erased (self : ViewController tables)
    (delegate delegate' : AppDelegate) (answer : Option Screen) (sender : Option NSObject) :
    (self.startChat delegate answer sender).1 = (self.startChat delegate' answer sender).1 ∧
    (self.startChat delegate answer sender).2.map Effect.erasePushData
      = (self.startChat delegate' answer sender).2.map Effect.erasePushData := by
  unfold startChat
  dsimp only
  rw [deliverPushData_fresh, deliverPushData_fresh]
  · exact ⟨rfl, rfl⟩
  · exact MessagingKit.freshSession_pushData
  · exact MessagingKit.freshSession_pushData

/-- on either controller. -/
theorem LoginViewController.startChat_erased (self : LoginViewController) (fields : LoginFields)
    (delegate delegate' : AppDelegate) (answer : Option Screen) (sender : Option NSObject) :
    (self.startChat fields delegate answer sender).1
      = (self.startChat fields delegate' answer sender).1 ∧
    (self.startChat fields delegate answer sender).2.map Effect.erasePushData
      = (self.startChat fields delegate' answer sender).2.map Effect.erasePushData := by
  unfold startChat
  split
  · dsimp only
    rw [deliverPushData_fresh, deliverPushData_fresh]
    · exact ⟨rfl, rfl⟩
    · exact MessagingKit.freshSession_pushData
    · exact MessagingKit.freshSession_pushData
  · exact ⟨rfl, rfl⟩

/-- Whatever the delegate, the answer is the same but for its payload. -/
theorem step_sameControllers {app app' : App tables} (h : app.SameControllers app')
    (event : Event tables) :
    (app.step screens event).1.viewController = (app'.step screens event).1.viewController ∧
    (app.step screens event).1.loginViewController
      = (app'.step screens event).1.loginViewController ∧
    (app.step screens event).2.map Effect.erasePushData
      = (app'.step screens event).2.map Effect.erasePushData := by
  obtain ⟨delegate, viewController, loginViewController, shown⟩ := app
  obtain ⟨delegate', _, _, _⟩ := app'
  obtain ⟨rfl, rfl, rfl⟩ := h
  -- five messages reach the decision, all of them through a `startChat:`
  have hpreLogin := viewController.startChat_erased delegate delegate' (screens shown)
  have hpostLogin := fun fields => loginViewController.startChat_erased fields delegate delegate'
    (screens shown)
  cases event with
  | viewController message =>
    cases message with
    | startChat sender =>
      obtain ⟨hstate, heffects⟩ := hpreLogin sender.object
      exact ⟨hstate, rfl, heffects⟩
    | askTohandlePushTap userInfo =>
      cases userInfo with
      | none => exact ⟨rfl, rfl, rfl⟩
      | some userInfo =>
        obtain ⟨hstate, heffects⟩ := hpreLogin (some (.dictionary userInfo))
        exact ⟨hstate, rfl, heffects⟩
    | _ => exact ⟨rfl, rfl, rfl⟩
  | loginViewController fields message =>
    cases message with
    | loginAction =>
      obtain ⟨hstate, heffects⟩ := hpostLogin fields none
      exact ⟨rfl, hstate, heffects⟩
    | startChat sender =>
      obtain ⟨hstate, heffects⟩ := hpostLogin fields sender.object
      exact ⟨rfl, hstate, heffects⟩
    | askTohandlePushTap userInfo =>
      cases userInfo with
      | none => exact ⟨rfl, rfl, rfl⟩
      | some userInfo =>
        obtain ⟨hstate, heffects⟩ := hpostLogin fields (some (.dictionary userInfo))
        exact ⟨rfl, hstate, heffects⟩
    | _ => exact ⟨rfl, rfl, rfl⟩
  | screenReleased screen => exact ⟨rfl, rfl, rfl⟩

/-- So apps with the same controllers keep them the same, and send the same but for payloads. -/
theorem sameControllers_refinement :
    Reactive.Refinement (@App.step _ tables screens) (App.step screens) some
      (List.map Effect.erasePushData) (List.map Effect.erasePushData) App.SameControllers where
  matched := by
    intro app app' h event _ hview
    cases hview
    obtain ⟨hpreLogin, hpostLogin, heffects⟩ := step_sameControllers screens h event
    refine ⟨⟨hpreLogin, hpostLogin, ?_⟩, heffects⟩
    rw [App.screensShown_step, App.screensShown_step, h.screensShown]
  hidden := by
    intro app app' _ event hview
    cases hview

/-- A push tap leaves the delegate cleared, for good. -/
theorem appDelegate_run_of_tap {events : List (Event tables)}
    (htap : events.any Event.isPushTap = true) (app : App tables) :
    (Reactive.run (App.step screens) app events).appDelegate = {} := by
  -- the delegate goes its way without the controllers: a fold that a tap resets
  have hrun := (delegate_simulation screens).run (s := app) rfl events
  rw [foldl_delegateStep, if_pos htap] at hrun
  exact hrun

/-- **The launch shows in payloads only, and up to the first tap.** Whatever two launches were
by, the messages the controllers send in a run after it differ in nothing but the payloads of
its chats, and after a push tap the two apps are the same. -/
theorem launch_confined (F F' : Foundation) (baseValue baseValue' : BitVec 32)
    (launchOptions launchOptions' : Option LaunchOptions) (events : List (Event tables)) :
    let app := App.launch F baseValue tables launchOptions
    let app' := App.launch F' baseValue' tables launchOptions'
    (app.effects screens events).map Effect.erasePushData
      = (app'.effects screens events).map Effect.erasePushData ∧
    (events.any Event.isPushTap = true →
      Reactive.run (App.step screens) app events = Reactive.run (App.step screens) app' events) := by
  intro app app'
  -- the controllers do not see the options at a launch
  have hsame : app.SameControllers app' := by
    refine ⟨?_, rfl, rfl⟩
    show (App.launch F baseValue tables launchOptions).viewController
      = (App.launch F' baseValue' tables launchOptions).viewController
    rw [launch_eq tables F F' baseValue baseValue' launchOptions]
  have hrefinement := @sameControllers_refinement _ tables screens
  refine ⟨?_, fun htap => ?_⟩
  · have hlog := hrefinement.log_eq_of_some hsame events
    unfold App.effects
    rw [Reactive.log_map, Reactive.log_map]
    exact hlog
  · -- same controllers after the run, and a tap has cleared both delegates
    have hafter := hrefinement.run hsame events
    rw [List.filterMap_some] at hafter
    refine hafter.eq ?_
    rw [appDelegate_run_of_tap screens htap, appDelegate_run_of_tap screens htap]

end Erased

end HybridSample
