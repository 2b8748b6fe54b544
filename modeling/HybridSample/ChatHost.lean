import HybridSample.ScreenHistory

/-!
# The program without its objects

`ChatHost` adds to the chat service which screen each object holds, and the alerts and
dismissals. Its state is the row selected last, whether payloads are withheld, these screens and
how many chats were opened. The program sends what the host answers, message for message, in
every run.

The messages are the `Effect`s: to the SDK manager, presentations and dismissals. What the app
shows in its own views (the title on the button, the picker panel) is state of the controllers,
and what it tells the notification kit is not among them.

* **`chatHost_refinement`** — one answer of the program is one answer of the host.
* **`effects_run`** — whole runs, effect for effect.
-/

namespace HybridSample

structure ChatHost (tables : LanguageTables) where
  service : ChatService tables
  screen : Holder → Option Screen
  /-- How many chats were opened. -/
  opened : Nat

namespace ChatHost

variable [MessagingKit] {tables : LanguageTables}

def launch (launchOptions : Option LaunchOptions) : ChatHost tables where
  service := .launch launchOptions
  screen _ := none
  opened := 0

/-- One event, as far as it changes what the host keeps. -/
def step (screens : Nat → Option Screen) (host : ChatHost tables) (event : ProgramEvent tables) :
    ChatHost tables where
  service := host.service.step event.event
  screen holder :=
    ProgramEvent.references.next (screens host.opened) event holder (host.screen holder)
  opened := host.opened + if event.opener.isSome then 1 else 0

/-- What the host sends: the messages of a chat, or what there is to say without one. -/
def answer (host : ChatHost tables) (event : ProgramEvent tables) : List (Holder × Effect) :=
  let effects :=
    match host.service.chat event.event with
    | some chat => chat.messages
    | none => notice (fun controller => host.screen (event.holder controller)) event.event
  effects.map (Prod.mk event.self)

/-- Everything the host sends in a run. -/
def effects (screens : Nat → Option Screen) (host : ChatHost tables)
    (events : List (ProgramEvent tables)) : List (Holder × Effect) :=
  Reactive.log (fun host event => (step screens host event, host.answer event)) id host events

end ChatHost

/-! ## The program behaves as the host -/

structure Program.Hosts {tables : LanguageTables} (program : Program tables)
    (host : ChatHost tables) : Prop where
  serves : ∀ n, (program.app n).Serves host.service
  screen : ∀ holder, program.objWebScreen holder = host.screen holder
  screensShown : program.screensShown = host.opened

/-- The service is served without the login screen. -/
theorem App.SameButLogin.serves {tables : LanguageTables} {app app' : App tables}
    (h : app.SameButLogin app')
    {service : ChatService tables} (hserves : app'.Serves service) : app.Serves service where
  swallows := h.appDelegate ▸ hserves.swallows
  languageCode := h.viewController ▸ hserves.languageCode

theorem hosts_launch {tables : LanguageTables} (F : Foundation) (baseValue : BitVec 32)
    (launchOptions : Option LaunchOptions) :
    (Program.launch F baseValue tables launchOptions).Hosts (ChatHost.launch launchOptions) where
  serves _ := serves_launch F baseValue launchOptions
  screen := objWebScreen_program_launch F baseValue launchOptions
  screensShown := rfl

section Refinement

variable [MessagingKit] {tables : LanguageTables} (screens : Nat → Option Screen)

/-- **One step.** The objects keep their screens as the host does, and the service is served
whichever login screen is looked at. -/
theorem chatHost_simulation :
    Reactive.Simulation (@Program.step _ tables screens) (ChatHost.step screens) Program.Hosts where
  preserved := by
    intro program host h event
    refine ⟨?_, ?_, ?_⟩
    · intro n
      -- the service is stepped where the event arrives; the other login screens share all it needs
      have hserves := (chatService_simulation screens).preserved (h.serves event.login) event.event
      exact (app_step_sameButLogin screens program event n).serves hserves
    · intro holder
      rw [(program_holds_step screens).held, h.screen, h.screensShown]
      rfl
    · rw [(program_holds_step screens).asked, h.screensShown]
      rfl

/-- **One answer.** The receiver of an event answers as the host does for it. -/
theorem answer_eq {program : Program tables} {host : ChatHost tables} (h : program.Hosts host)
    (event : ProgramEvent tables) : (program.step screens event).2 = host.answer event := by
  -- the receiver of the event finds the screens of the host
  have hscreen : (program.app event.login).objWebScreen
      = fun controller => host.screen (event.holder controller) := by
    funext controller
    rw [← h.screen, objWebScreen_holder]
  rw [Program.effects_step_app, effects_step screens (h.serves event.login), hscreen]
  rfl

/-- The program refines the host, with nothing hidden. -/
theorem chatHost_refinement :
    Reactive.Refinement (@Program.step _ tables screens)
      (fun host event => (ChatHost.step screens host event, host.answer event)) some id id
      Program.Hosts :=
  Reactive.Refinement.of_simulation (chatHost_simulation screens)
    fun h event => answer_eq screens h event

/-- **Effect for effect.** In every run the program sends what the host answers, from the same
objects and in the same order. -/
theorem effects_run (F : Foundation) (baseValue : BitVec 32)
    (launchOptions : Option LaunchOptions) (events : List (ProgramEvent tables)) :
    (Program.launch F baseValue tables launchOptions).effects screens events
      = (ChatHost.launch launchOptions).effects screens events :=
  (chatHost_refinement screens).log_eq_of_some (hosts_launch F baseValue launchOptions) events

end Refinement

end HybridSample
