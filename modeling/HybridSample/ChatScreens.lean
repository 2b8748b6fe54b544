import HybridSample.Answers
import Mathlib.Data.Set.Basic

/-!
# The life of a chat screen

Each controller holds the screen of its chat weakly and sends it alerts and dismissals long
after `startChat:` returned. This module owns what keeps these messages apart from screens
that are gone:

* **`LiveScreens`** — the screens the SDK handed out and has not let go, as the events alone
  determine them.
* **`liveScreens_simulation`** — in every run the controllers hold live screens only.
* **`addressedScreens_alive`** — so every message to a chat screen finds it alive.
* **`opensInitialised_of_mem_trace`** — and a screen is asked for only right after the manager
  was initialised with the properties of its bot.
* **`names_customer_of_mem_trace`** — after login, for a named customer only.
-/

namespace HybridSample

/-! ## Live screens -/

/-- How often a screen was asked for, and the screens handed out and not let go since. -/
structure LiveScreens where
  shown : Nat
  alive : Set Screen

namespace LiveScreens

variable {tables : LanguageTables}

def initial : LiveScreens := ⟨0, ∅⟩

/-- Opening a chat brings the SDK's answer to life, a release ends it. -/
def step (screens : Nat → Option Screen) (live : LiveScreens) (event : Event tables) :
    LiveScreens where
  shown := live.shown + if event.chatSender.isSome then 1 else 0
  alive := {screen |
    (screen ∈ live.alive ∨ event.chatSender.isSome = true ∧ screen ∈ screens live.shown) ∧
      event ≠ .screenReleased screen}

/-- The live screens at the end of a history. -/
def after (screens : Nat → Option Screen) (events : List (Event tables)) : LiveScreens :=
  events.foldl (step screens) initial

end LiveScreens

/-- The controllers hold live screens only. -/
structure App.HoldsLive {tables : LanguageTables} (app : App tables) (live : LiveScreens) :
    Prop where
  screensShown : app.screensShown = live.shown
  alive : ∀ controller, ∀ screen ∈ app.objWebScreen controller, screen ∈ live.alive

theorem holdsLive_launch {tables : LanguageTables} (F : Foundation) (baseValue : BitVec 32)
    (launchOptions : Option LaunchOptions) :
    (App.launch F baseValue tables launchOptions).HoldsLive LiveScreens.initial where
  screensShown := rfl
  alive := by
    intro controller screen hscreen
    cases controller <;> exact absurd hscreen (Option.not_mem_none screen)

section Runs

variable [MessagingKit] {tables : LanguageTables} (screens : Nat → Option Screen)

/-- **One step.** What is held afterwards was held before or handed out now, and is not the
screen that is released. -/
theorem liveScreens_simulation :
    Reactive.Simulation (@App.step _ tables screens) (LiveScreens.step screens)
      App.HoldsLive where
  preserved := by
    intro app live h event
    refine ⟨?_, ?_⟩
    · rw [App.screensShown_step, h.screensShown]
      rfl
    · intro controller screen hscreen
      rw [Option.mem_def, (holds_step screens).held,
        Reactive.References.next_eq_some_iff] at hscreen
      rcases hscreen with ⟨hopener, hanswer⟩ | ⟨hheld, hkeeps⟩
      · -- given now: the event opens a chat, and the SDK answered it with this screen
        have hchat : event.chatSender.isSome = true := by
          rw [← event.isSome_opener]
          exact Option.isSome_of_eq_some hopener
        refine ⟨Or.inr ⟨hchat, ?_⟩, ?_⟩
        · rw [← h.screensShown]
          exact hanswer
        -- an event that opens a chat releases nothing
        · rintro rfl
          cases hopener
      · refine ⟨Or.inl (h.alive controller screen hheld), ?_⟩
        rintro rfl
        exact hkeeps.released rfl

end Runs

/-- A screen is asked for right after the manager was initialised with properties that
register its bot, turn the security check on and report to the presenting controller. -/
def OpensInitialised (effects : List Effect) : Prop :=
  ∀ botId controller sdkProperties sessionProperties,
    Effect.showScreen botId controller sdkProperties sessionProperties ∈ effects →
      effects = [.initWithProperties { sdkProperties with showNativeNavigationBar := none },
        .showScreen botId controller sdkProperties sessionProperties] ∧
      (∃ botName, .addBot botId botName ∈ sdkProperties.received) ∧
      .enableCheck true ∈ sdkProperties.received ∧
      sdkProperties.messagingDelegate = some controller ∧
      sdkProperties.showNativeNavigationBar = some true ∧
      sessionProperties.header.isSome = true

/-- An answer that opens nothing has nothing to keep. -/
theorem opensInitialised_of_openedSessions {effects : List Effect}
    (h : openedSessions effects = []) : OpensInitialised effects := by
  intro botId controller sdkProperties sessionProperties hmem
  -- a screen that is asked for is an opened session
  have hopened : (controller, sessionProperties) ∈ openedSessions effects :=
    List.mem_filterMap.mpr ⟨_, hmem, rfl⟩
  rw [h] at hopened
  exact absurd hopened List.not_mem_nil

/-- The two messages of a chat are such an answer. -/
theorem Chat.opensInitialised [MessagingKit] (chat : Chat) : OpensInitialised chat.messages := by
  intro botId controller sdkProperties sessionProperties hmem
  rcases List.mem_cons.mp hmem with hinit | hshow
  · cases hinit
  · cases List.mem_singleton.mp hshow
    cases chat <;> exact ⟨rfl, ⟨_, List.mem_of_getElem? (i := 1) rfl⟩,
      List.mem_of_getElem? (i := 2) rfl, rfl, rfl, rfl⟩

section Openings

variable [MessagingKit] {tables : LanguageTables} (screens : Nat → Option Screen)

/-- An answer opens a chat or nothing. -/
theorem App.Answers.opensInitialised {app : App tables} {event : Event tables}
    {effects : List Effect} (h : app.Answers event effects) : OpensInitialised effects := by
  cases h with
  | opens chat => exact chat.opensInitialised
  | alerts controller logoutType =>
    apply opensInitialised_of_openedSessions
    cases app.objWebScreen controller <;> rfl
  | dismisses controller =>
    apply opensInitialised_of_openedSessions
    cases app.objWebScreen controller <;> rfl
  | own _ hown =>
    apply opensInitialised_of_openedSessions
    exact filterMap_own hown (fun _ _ => rfl) fun _ => rfl

/-- **Initialised before shown**, in every answer of every run. -/
theorem opensInitialised_of_mem_trace (app : App tables) (events : List (Event tables)) :
    ∀ t ∈ App.trace screens app events, OpensInitialised t.output := by
  intro t ht
  obtain ⟨pre, event, _, _, rfl⟩ := (Reactive.mem_trace_iff _ _ _ _).mp ht
  exact (answers_step screens _ event).opensInitialised

/-- **After login, a chat names its customer**: both ids are there and neither is empty. -/
theorem names_customer_of_mem_trace (app : App tables) (events : List (Event tables)) :
    ∀ t ∈ App.trace screens app events, ∀ session,
      (.loginViewController, session) ∈ openedSessions t.output →
        ∃ custID sessionId, session.userInfo
            = some [(ProjectStringConstant.userInfoKey1, .string custID),
              (ProjectStringConstant.userInfoKey2, .string sessionId)] ∧
          custID ≠ [] ∧ sessionId ≠ [] := by
  intro t ht session hsession
  obtain ⟨pre, event, _, _, rfl⟩ := (Reactive.mem_trace_iff _ _ _ _).mp ht
  rw [Reactive.Transition.of_output] at hsession
  cases event with
  | viewController message =>
    rw [App.openedSessions_step_viewController] at hsession
    simp at hsession
  | loginViewController fields message =>
    rw [App.openedSessions_step_loginViewController] at hsession
    obtain ⟨sender, hsender, hopened⟩ := List.mem_map.mp hsession
    obtain ⟨_, rfl⟩ := Prod.mk.inj hopened
    exact LoginViewController.session_userInfo_of_chatSender (Option.mem_toList.mp hsender) _
  | screenReleased released => exact absurd hsession List.not_mem_nil

end Openings

end HybridSample
