import HybridSample.Answers
import HybridSample.Program

/-!
# Which screen a callback reaches

An object of the program keeps the screen of the chat it opened last, and sends its alerts and
dismissals there. The screen is lost when the chat is closed or the SDK lets the screen go.
Which screen that is, for every history:

* **`program_holds_step`** — each object keeps the reference to its own screen.
* **`mem_addressedScreens_run_iff`** — which screen a message of which object reaches.
* **`screenAlerts_program_step`**, **`screenDismissals_program_step`** — what it does there: a
  logout puts its alert on the screen, the button of an alert dismisses it.
* **`dismissed_after_logout_iff`** — the button of a logout alert dismisses the screen the
  alert was put on, or that of a chat the same object opened while the alert was up.
* **`shared_screen_repeats`** — no two objects reach one screen, as far as the SDK hands out
  different ones.
* **`logoutOfRegistered_iff`** — a logout of the delegate the app named last puts its alert on
  the newest chat, and on no older one.
-/

namespace HybridSample

/-! ## Every object its own screen -/

/-- The chat screen an object holds. -/
def Program.objWebScreen {tables : LanguageTables} (program : Program tables) :
    Holder → Option Screen
  | .viewController => program.viewController.objWebScreen
  | .loginViewController n => (program.loginViewController n).objWebScreen

namespace ProgramEvent

variable {tables : LanguageTables}

/-- The object that stands for a controller where an event arrives. -/
def holder (event : ProgramEvent tables) : Controller → Holder
  | .viewController => .viewController
  | .loginViewController => .loginViewController event.login

/-- The object an event opens a chat from, if it opens one. -/
def opener (event : ProgramEvent tables) : Option Holder :=
  event.event.opener.map event.holder

/-- The object an event makes send a message to its screen. -/
def addresser (event : ProgramEvent tables) : Option Holder :=
  event.event.addresser.map event.holder

/-- The object a logout is reported to, and its code. -/
def loggedOut (event : ProgramEvent tables) : Option (Holder × Int) :=
  event.event.loggedOut.map fun report => (event.holder report.1, report.2)

/-- The object whose alert button is tapped. -/
def dismisser (event : ProgramEvent tables) : Option Holder :=
  event.event.dismisser.map event.holder

/-- The screens the objects hold, as references to what the SDK hands out. -/
def references : Reactive.References (ProgramEvent tables) Holder Screen where
  opener := opener
  closer event := event.event.closer.map event.holder
  released event := event.event.released

/-- The report of a logout to one object. -/
def onLogoutAt (fields : LoginFields) (logoutType : Int) : Holder → ProgramEvent tables
  | .viewController => .viewController (.onLogout logoutType)
  | .loginViewController n => .loginViewController n fields (.onLogout logoutType)

/-- The tap on the button of an alert one object has put up. -/
def alertDismissHandlerAt (fields : LoginFields) : Holder → ProgramEvent tables
  | .viewController => .viewController .alertDismissHandler
  | .loginViewController n => .loginViewController n fields .alertDismissHandler

theorem loggedOut_onLogoutAt (fields : LoginFields) (logoutType : Int) (holder : Holder) :
    (onLogoutAt fields logoutType holder : ProgramEvent tables).loggedOut
      = some (holder, logoutType) := by
  cases holder <;> rfl

theorem dismisser_alertDismissHandlerAt (fields : LoginFields) (holder : Holder) :
    (alertDismissHandlerAt fields holder : ProgramEvent tables).dismisser = some holder := by
  cases holder <;> rfl

/-- Reporting a logout opens nothing and loses nothing. -/
theorem keeps_onLogoutAt (fields : LoginFields) (logoutType : Int) (reported holder : Holder)
    (screen : Screen) :
    references.Keeps holder screen
      (onLogoutAt fields logoutType reported : ProgramEvent tables) where
  opener := by
    -- no chat is asked for, with or without filled fields
    have hopener : (onLogoutAt fields logoutType reported : ProgramEvent tables).event.opener
        = none := by
      cases reported with
      | viewController => rfl
      | loginViewController n =>
        show (if fields.filled then none else none).bind _ = none
        rw [ite_self]
        rfl
    show Option.map _ _ ≠ _
    rw [hopener]
    exact nofun
  closer := by cases reported <;> exact nofun
  released := by cases reported <;> exact nofun

/-- Two controllers are never one object. -/
theorem holder_injective (event : ProgramEvent tables) : Function.Injective event.holder := by
  intro controller controller' h
  cases controller <;> cases controller' <;> first | rfl | cases h

theorem map_holder_eq_iff (event : ProgramEvent tables) (controller : Controller)
    (addressee : Option Controller) :
    addressee.map event.holder = some (event.holder controller) ↔ addressee = some controller :=
  (Option.map_injective event.holder_injective).eq_iff (b := some controller)

/-- An object an event arrives at is dealt with as the app does with its controller. -/
theorem next_holder (event : ProgramEvent tables) (controller : Controller)
    (answer objWebScreen : Option Screen) :
    references.next answer event (event.holder controller) objWebScreen
      = Event.references.next answer event.event controller objWebScreen := by
  show (if event.event.opener.map event.holder = some (event.holder controller) then answer
    else if event.event.closer.map event.holder = some (event.holder controller) then none
    else _) = _
  simp only [map_holder_eq_iff]
  rfl

end ProgramEvent

/-! ## One step -/

/-- What an object holds, the app has at the controller it stands for. -/
theorem objWebScreen_holder {tables : LanguageTables} (program : Program tables)
    (event : ProgramEvent tables) (controller : Controller) :
    program.objWebScreen (event.holder controller)
      = (program.app event.login).objWebScreen controller := by
  cases controller <;> rfl

section Objects

variable [MessagingKit] {tables : LanguageTables} (screens : Nat → Option Screen)

/-- To any other object an event is of interest only if it releases a screen. -/
theorem objWebScreen_step_of_ne (program : Program tables) {event : ProgramEvent tables}
    {holder : Holder} (h : ∀ controller, event.holder controller ≠ holder) :
    (program.step screens event).1.objWebScreen holder
      = if program.objWebScreen holder = event.event.released then none
        else program.objWebScreen holder := by
  -- an event that releases nothing leaves a reference as it is
  have hkept := fun objWebScreen : Option Screen =>
    (Reactive.References.held_of_none objWebScreen).symm
  cases holder with
  | viewController => exact absurd rfl (h .viewController)
  | loginViewController n =>
    cases event with
    | viewController message => exact hkept (program.loginViewController n).objWebScreen
    | loginViewController m fields message =>
      -- a message to one login screen updates that one in place
      have hne : n ≠ m := fun heq => h .loginViewController (heq ▸ rfl)
      refine Eq.trans ?_ (hkept (program.loginViewController n).objWebScreen)
      exact congrArg LoginViewController.objWebScreen (Function.update_of_ne hne _ _)
    | screenReleased released => rfl

/-- **One step.** Every object keeps the reference to its own screen, as a controller of the
app does. -/
theorem program_holds_step :
    ProgramEvent.references.Holds screens (@Program.step _ tables screens) Program.objWebScreen
      Program.screensShown where
  held := by
    intro program event holder
    -- the app says what happens where the event arrives; elsewhere only a release counts
    by_cases hreceiver : ∃ controller, event.holder controller = holder
    · obtain ⟨controller, rfl⟩ := hreceiver
      rw [ProgramEvent.next_holder, objWebScreen_holder, objWebScreen_holder,
        Program.app_step_login]
      exact (holds_step screens).held (program.app event.login) event.event controller
    · have hother : ∀ controller, event.holder controller ≠ holder :=
        fun controller h => hreceiver ⟨controller, h⟩
      have hmapped : ∀ addressee : Option Controller, addressee.map event.holder ≠ some holder := by
        intro addressee h
        obtain ⟨controller, _, hcontroller⟩ := Option.map_eq_some_iff.mp h
        exact hother controller hcontroller
      rw [Reactive.References.next_of_ne _ (hmapped _) (hmapped _)]
      exact objWebScreen_step_of_ne screens program hother
  asked := by
    intro program event
    -- screens are counted once, whichever object asks
    have hasked := (holds_step screens).asked (program.app event.login) event.event
    rw [← Program.app_step_login] at hasked
    refine hasked.trans ?_
    show _ = program.screensShown + if (event.event.opener.map event.holder).isSome then 1 else 0
    rw [Option.isSome_map]
    rfl

/-- A message goes to the screen of the object it comes from. -/
theorem addressedScreens_program_step (program : Program tables) (event : ProgramEvent tables) :
    addressedScreens (unsigned (program.step screens event).2)
      = (event.addresser.bind program.objWebScreen).toList := by
  rw [Program.effects_step_app, unsigned_map, addressedScreens_step_eq]
  unfold ProgramEvent.addresser
  rw [Option.bind_map]
  exact congrArg (fun held => (event.event.addresser.bind held).toList)
    (funext fun controller => (objWebScreen_holder program event controller).symm)

/-- The one logout alert of an answer is on the screen of the object the logout is reported
to. -/
theorem screenAlerts_program_step (program : Program tables) (event : ProgramEvent tables) :
    screenAlerts (unsigned (program.step screens event).2)
      = (event.loggedOut.bind fun report =>
          (program.objWebScreen report.1).map fun screen =>
            (screen, logoutAlert report.2)).toList := by
  rw [Program.effects_step_app, unsigned_map, (answers_step screens _ _).screenAlerts_eq]
  unfold ProgramEvent.loggedOut
  rw [Option.bind_map]
  simp only [Function.comp_def, objWebScreen_holder]

/-- The one chat screen an answer dismisses is that of the object whose button is tapped. -/
theorem screenDismissals_program_step (program : Program tables) (event : ProgramEvent tables) :
    screenDismissals (unsigned (program.step screens event).2)
      = (event.dismisser.bind program.objWebScreen).toList := by
  rw [Program.effects_step_app, unsigned_map, (answers_step screens _ _).screenDismissals_eq]
  unfold ProgramEvent.dismisser
  rw [Option.bind_map]
  simp only [Function.comp_def, objWebScreen_holder]

/-- A logout puts its alert on the screen of the object it is reported to. -/
theorem mem_screenAlerts_onLogoutAt (program : Program tables) (fields : LoginFields)
    (logoutType : Int) (holder : Holder) (screen : Screen) :
    (screen, logoutAlert logoutType) ∈ screenAlerts (unsigned
        (program.step screens (.onLogoutAt fields logoutType holder)).2)
      ↔ program.objWebScreen holder = some screen := by
  rw [screenAlerts_program_step, ProgramEvent.loggedOut_onLogoutAt]
  simp

/-- The button of an alert dismisses the screen its object holds when it is tapped. -/
theorem mem_screenDismissals_alertDismissHandlerAt (program : Program tables)
    (fields : LoginFields) (holder : Holder) (screen : Screen) :
    screen ∈ screenDismissals (unsigned
        (program.step screens (.alertDismissHandlerAt fields holder)).2)
      ↔ program.objWebScreen holder = some screen := by
  rw [screenDismissals_program_step, ProgramEvent.dismisser_alertDismissHandlerAt]
  simp

end Objects

/-! ## Whole runs -/

theorem objWebScreen_program_launch {tables : LanguageTables} (F : Foundation)
    (baseValue : BitVec 32) (launchOptions : Option LaunchOptions) (holder : Holder) :
    (Program.launch F baseValue tables launchOptions).objWebScreen holder = none := by
  cases holder <;> rfl

section Runs

variable [MessagingKit] {tables : LanguageTables} (screens : Nat → Option Screen) (F : Foundation)
  (baseValue : BitVec 32) (launchOptions : Option LaunchOptions)

/-- After any run an object holds exactly the screen it was given and has not lost since. -/
theorem objWebScreen_program_iff (holder : Holder) (screen : Screen)
    (events : List (ProgramEvent tables)) :
    (Reactive.run (Program.step screens) (Program.launch F baseValue tables launchOptions)
        events).objWebScreen holder = some screen
      ↔ ProgramEvent.references.HeldSince screens holder screen events :=
  (program_holds_step screens).held_run_iff rfl
    (objWebScreen_program_launch F baseValue launchOptions) holder screen events

/-- **Which screen a message reaches.** It is the screen of the chat its object opened last,
unless that chat was closed or the screen let go. -/
theorem mem_addressedScreens_run_iff (screen : Screen) (events : List (ProgramEvent tables))
    (event : ProgramEvent tables) :
    screen ∈ addressedScreens (unsigned (Program.step screens (Reactive.run
        (Program.step screens) (Program.launch F baseValue tables launchOptions) events) event).2)
      ↔ ∃ holder, event.addresser = some holder ∧
          ∃ pre opening post, events = pre ++ opening :: post ∧
            ProgramEvent.references.Opens screens holder screen pre opening ∧
            ∀ later ∈ post, ProgramEvent.references.Keeps holder screen later := by
  rw [addressedScreens_program_step, Option.mem_toList, Option.bind_eq_some_iff]
  simp only [objWebScreen_program_iff]
  rfl

/-- **The button of a logout alert.** It dismisses the screen the alert was put on while
nothing in between lost it, and otherwise the screen of a chat opened in between. -/
theorem dismissed_after_logout_iff (fields fields' : LoginFields) (logoutType : Int)
    (holder : Holder) (screen : Screen) (pre mid : List (ProgramEvent tables)) :
    let logout := ProgramEvent.onLogoutAt fields logoutType holder
    let sent := fun events event => unsigned (Program.step screens (Reactive.run
      (Program.step screens) (Program.launch F baseValue tables launchOptions) events) event).2
    screen ∈ screenDismissals
        (sent (pre ++ [logout] ++ mid) (.alertDismissHandlerAt fields' holder))
      ↔ ((screen, logoutAlert logoutType) ∈ screenAlerts (sent pre logout) ∧
          ∀ event ∈ mid, ProgramEvent.references.Keeps holder screen event)
        ∨ ∃ mid' opening mid'', mid = mid' ++ opening :: mid'' ∧
            ProgramEvent.references.Opens screens holder screen (pre ++ [logout] ++ mid') opening ∧
            ∀ event ∈ mid'', ProgramEvent.references.Keeps holder screen event := by
  intro logout sent
  -- both messages reach the screen that is held, and what is held is known from the history
  have hdismissed : screen ∈ screenDismissals
        (sent (pre ++ [logout] ++ mid) (.alertDismissHandlerAt fields' holder))
      ↔ ProgramEvent.references.HeldSince screens holder screen (pre ++ [logout] ++ mid) :=
    (mem_screenDismissals_alertDismissHandlerAt screens _ fields' holder screen).trans
      (objWebScreen_program_iff screens F baseValue launchOptions holder screen _)
  have halerted : (screen, logoutAlert logoutType) ∈ screenAlerts (sent pre logout)
      ↔ ProgramEvent.references.HeldSince screens holder screen pre :=
    (mem_screenAlerts_onLogoutAt screens _ fields logoutType holder screen).trans
      (objWebScreen_program_iff screens F baseValue launchOptions holder screen pre)
  -- reporting the logout has changed no reference
  have hquiet : ProgramEvent.references.HeldSince screens holder screen (pre ++ [logout])
      ↔ ProgramEvent.references.HeldSince screens holder screen pre :=
    Reactive.References.heldSince_concat_of_keeps
      (ProgramEvent.keeps_onLogoutAt fields logoutType holder holder screen) pre
  rw [hdismissed, halerted, ← hquiet]
  -- the alert is up from the logout to the tap on its button
  exact (Reactive.since_append_iff (pre ++ [logout]) mid).trans Or.comm

/-- **No shared screen** unless the SDK answered two openings with it. So a message of one
object never reaches a screen that was handed out to another one alone. -/
theorem shared_screen_repeats (events : List (ProgramEvent tables)) {holder holder' : Holder}
    (hne : holder ≠ holder') (screen : Screen)
    (h : (Reactive.run (Program.step screens) (Program.launch F baseValue tables launchOptions)
      events).objWebScreen holder = some screen)
    (h' : (Reactive.run (Program.step screens) (Program.launch F baseValue tables launchOptions)
      events).objWebScreen holder' = some screen) :
    ∃ m n, m < n ∧ n < ProgramEvent.references.openings events ∧
      screens m = some screen ∧ screens n = some screen :=
  (program_holds_step screens).repeats_of_shared rfl
    (objWebScreen_program_launch F baseValue launchOptions) hne h h'

end Runs

/-- An SDK that answers with one screen always, and a chat from each of two login screens. -/
theorem shared_screen_repeats_twice :
    ∃ m n, m < n ∧
      n < ProgramEvent.references.openings
        [(.loginViewController 0 ⟨.ascii "1", .ascii "2"⟩ .loginAction :
          ProgramEvent LanguageTables.installed),
        .loginViewController 1 ⟨.ascii "1", .ascii "2"⟩ .loginAction] ∧
      (fun _ : Nat => some (7 : Screen)) m = some 7 ∧
      (fun _ : Nat => some (7 : Screen)) n = some 7 :=
  letI := MessagingKit.zeroed
  shared_screen_repeats (fun _ => some 7) Foundation.documented 0#32 none _
    (show Holder.loginViewController 0 ≠ Holder.loginViewController 1 by decide) 7 rfl rfl

/-! ## The delegate registered last

With every chat the app registers its controller anew, as the `messagingDelegate` of the
properties it initialises the manager with. Each of the objects implements the callbacks, and
each of them knows its own screen only. -/

/-- The object a controller names as itself. It cannot name any other one. -/
def Holder.named : Holder → Controller → Option Holder
  | .viewController, .viewController => some .viewController
  | .loginViewController n, .loginViewController => some (.loginViewController n)
  | _, _ => none

/-- The object an `initWithProperties:` registers: the `messagingDelegate` of the properties it
is sent with. -/
def registered (sent : Holder × Effect) : Option (Option Holder) :=
  sent.2.initialisedDelegate.map fun messagingDelegate => messagingDelegate.bind sent.1.named

/-- The delegate of the last `initWithProperties:`. -/
def registeredDelegate (sent : List (Holder × Effect)) : Option Holder :=
  (sent.filterMap registered).getLast?.join

/-- The object that opens a chat names itself. -/
theorem ProgramEvent.named_of_opener {tables : LanguageTables} {event : ProgramEvent tables}
    {controller : Controller} (h : event.event.opener = some controller) :
    event.self.named controller = some (event.holder controller) := by
  obtain ⟨_, _, hreceiver⟩ := Option.bind_eq_some_iff.mp h
  cases event with
  | viewController message =>
    cases hreceiver
    rfl
  | loginViewController n fields message =>
    cases hreceiver
    rfl
  | screenReleased released => cases hreceiver

section Registered

variable [MessagingKit] {tables : LanguageTables} (screens : Nat → Option Screen)

/-- What the program sends when the delegate it registered last, with the last of `sent` that
registers one, gets a logout. -/
def Program.logoutOfRegistered (program : Program tables) (sent : List (Holder × Effect))
    (fields : LoginFields) (logoutType : Int) : List (Holder × Effect) :=
  match registeredDelegate sent with
  | none => []
  | some delegate => (program.step screens (.onLogoutAt fields logoutType delegate)).2

/-- Each chat registers the object that opens it. -/
theorem registered_step (program : Program tables) (event : ProgramEvent tables) :
    (program.step screens event).2.filterMap registered = event.opener.toList.map some := by
  -- a registration is read off the properties and the signature of one message
  have hregistered : (program.step screens event).2.filterMap registered
      = (((program.app event.login).step screens event.event).2.filterMap
          Effect.initialisedDelegate).map fun messagingDelegate =>
            messagingDelegate.bind event.self.named := by
    rw [Program.effects_step_app, List.filterMap_map, List.map_filterMap]
    rfl
  rw [hregistered, (answers_step screens _ event.event).initialisedDelegate_eq]
  unfold ProgramEvent.opener
  cases hopener : event.event.opener with
  | none => rfl
  | some controller =>
    show [event.self.named controller] = [some (event.holder controller)]
    rw [ProgramEvent.named_of_opener hopener]

/-- The opener of the newest chat is the registered one. -/
theorem registeredDelegate_concat (program : Program tables) (events : List (ProgramEvent tables))
    (event : ProgramEvent tables) :
    registeredDelegate (program.effects screens (events ++ [event]))
      = event.opener.or (registeredDelegate (program.effects screens events)) := by
  unfold registeredDelegate Program.effects
  rw [Reactive.log_concat, List.filterMap_append, id_eq, registered_step]
  cases event.opener <;> simp

/-- **The newest chat and no other.** A logout of the delegate the app named last puts its
alert on the screen of the chat opened last, from whichever object, as long as that chat was
not closed and its screen not let go. -/
theorem logoutOfRegistered_iff (F : Foundation) (baseValue : BitVec 32)
    (launchOptions : Option LaunchOptions) (events : List (ProgramEvent tables))
    (fields : LoginFields) (logoutType : Int) (screen : Screen) :
    let program := Program.launch F baseValue tables launchOptions
    (screen, logoutAlert logoutType) ∈ screenAlerts (unsigned (Program.logoutOfRegistered screens
        (Reactive.run (Program.step screens) program events) (program.effects screens events) fields
        logoutType))
      ↔ ∃ holder pre opening post, events = pre ++ opening :: post ∧
          ProgramEvent.references.Opens screens holder screen pre opening ∧
          ∀ later ∈ post, later.opener = none ∧
            ProgramEvent.references.Keeps holder screen later := by
  intro program
  -- registered and holding the screen: both began with the newest chat and have lasted since
  have hnewest : ∀ holder,
      (registeredDelegate (program.effects screens events) = some holder ∧
        (Reactive.run (Program.step screens) program events).objWebScreen holder = some screen)
        ↔ Reactive.Since (ProgramEvent.references.Opens screens holder screen)
            (fun later => later.opener = none ∧ ProgramEvent.references.Keeps holder screen later)
            events := by
    intro holder
    refine Reactive.iff_since (P := fun events =>
      registeredDelegate (program.effects screens events) = some holder ∧
        (Reactive.run (Program.step screens) program events).objWebScreen holder = some screen)
      ?_ ?_ events
    -- before the first chat nobody is registered
    · rintro ⟨hdelegate, _⟩
      cases hdelegate
    · intro events event
      rw [registeredDelegate_concat, (program_holds_step screens).held_concat_iff rfl]
      cases hopener : event.opener with
      | none =>
        rw [Option.none_or]
        constructor
        · rintro ⟨hdelegate, hopens | ⟨hheld, hkeeps⟩⟩
          · exact absurd (hopener.symm.trans hopens.1) nofun
          · exact Or.inr ⟨⟨hdelegate, hheld⟩, rfl, hkeeps⟩
        · rintro (hopens | ⟨⟨hdelegate, hheld⟩, _, hkeeps⟩)
          · exact absurd (hopener.symm.trans hopens.1) nofun
          · exact ⟨hdelegate, Or.inr ⟨hheld, hkeeps⟩⟩
      -- the new opener is registered, in place of any other object
      | some opener =>
        rw [Option.some_or]
        constructor
        · rintro ⟨hdelegate, hopens | ⟨_, hkeeps⟩⟩
          · exact Or.inl hopens
          · exact absurd (hopener.trans hdelegate) hkeeps.opener
        · rintro (hopens | ⟨_, hnone, _⟩)
          · exact ⟨hopener.symm.trans hopens.1, Or.inl hopens⟩
          · cases hnone
  -- the report goes to the registered object, which addresses the screen it holds
  have hlogout : (screen, logoutAlert logoutType) ∈ screenAlerts (unsigned
        (Program.logoutOfRegistered screens (Reactive.run (Program.step screens) program events)
          (program.effects screens events) fields logoutType))
      ↔ ∃ holder, registeredDelegate (program.effects screens events) = some holder ∧
          (Reactive.run (Program.step screens) program events).objWebScreen holder
            = some screen := by
    unfold Program.logoutOfRegistered
    split
    · next hnone =>
      rw [hnone]
      simp [unsigned, screenAlerts]
    · next delegate hdelegate =>
      rw [hdelegate, mem_screenAlerts_onLogoutAt]
      simp
  rw [hlogout]
  exact exists_congr hnewest

end Registered

end HybridSample
