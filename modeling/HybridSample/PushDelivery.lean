import HybridSample.App

/-!
# Does every tapped push reach its chat?

A push tap carries a payload, and the chat its handler opens is meant to get it. Over a
whole run this depends on the delegate alone:

* **`delegate_simulation`** — no message but a push tap changes the delegate, and every tap
  clears it, so it is as launched until the first tap and cleared from there on.
* **`keepsPayload_of_step_iff`** — one answer loses a payload exactly when the delegate
  swallows it (`AppDelegate.swallows`).

Together: only the first tap of a run can lose its payload, and it does when the app was
launched by something else than a push.
-/

namespace HybridSample

namespace Event

variable {tables : LanguageTables}

/-- A push tap, with user info or without. -/
def isPushTap : Event tables → Bool
  | .viewController (.askTohandlePushTap _) => true
  | .loginViewController _ (.askTohandlePushTap _) => true
  | _ => false

/-- The payload of a push tap whose handler opens a chat: on `LoginViewController` both text
fields have to be filled. -/
def deliveredPayload : Event tables → Option NSDictionary
  | .viewController (.askTohandlePushTap userInfo) => userInfo
  | .loginViewController fields (.askTohandlePushTap userInfo) =>
    if fields.filled then userInfo else none
  | _ => none

/-- A tap on one of the buttons that open a chat. -/
def isButton : Event tables → Bool
  | .viewController (.startChat _) => true
  | .loginViewController _ (.startChat _) => true
  | .loginViewController _ .loginAction => true
  | _ => false

/-- Payloads come by push taps. -/
theorem isPushTap_of_deliveredPayload {event : Event tables}
    (h : event.deliveredPayload.isSome = true) : event.isPushTap = true := by
  unfold deliveredPayload at h
  split at h
  · rfl
  · rfl
  · simp at h

/-- The sender of the chat an event opens carries what the event delivers. -/
theorem bind_payload_chatSender (event : Event tables) :
    event.chatSender.bind payload = event.deliveredPayload := by
  cases event with
  | viewController message =>
    cases message with
    | startChat sender => exact sender.payload_object
    | askTohandlePushTap userInfo => cases userInfo <;> rfl
    | _ => rfl
  | loginViewController fields message =>
    show (if fields.filled then message.startChatSender else none).bind payload = _
    cases message with
    | startChat sender =>
      split
      · exact sender.payload_object
      · rfl
    | askTohandlePushTap userInfo =>
      show _ = if fields.filled then userInfo else none
      cases userInfo <;> split <;> rfl
    | _ => split <;> rfl
  | screenReleased screen => rfl

/-- A button delivers nothing. -/
theorem deliveredPayload_of_isButton {event : Event tables} (h : event.isButton = true) :
    event.deliveredPayload = none := by
  unfold isButton at h
  split at h
  · rfl
  · rfl
  · rfl
  · simp at h

end Event

/-- A push tap that opens a chat opens one, with the payload it carried, and a chat opened
from a button has no payload. -/
def KeepsPayload {tables : LanguageTables} (t : App.Transition tables) : Prop :=
  (∀ userInfo, t.input.deliveredPayload = some userInfo →
    ∃ controller session, openedSessions t.output = [(controller, session)] ∧
      session.pushData = some userInfo) ∧
  (t.input.isButton = true → ∀ opened ∈ openedSessions t.output, opened.2.pushData = none)

/-- The first push tap of a run carries a payload and opens a chat. -/
def FirstTapOpensChat {tables : LanguageTables} (events : List (Event tables)) : Prop :=
  ∃ event, events.find? Event.isPushTap = some event ∧ event.deliveredPayload.isSome = true

/-- The first tap is a tap with none in front of it. -/
theorem firstTapOpensChat_iff {tables : LanguageTables} (events : List (Event tables)) :
    FirstTapOpensChat events ↔
      ∃ pre event post, events = pre ++ event :: post ∧
        (∀ e ∈ pre, e.isPushTap = false) ∧ event.deliveredPayload.isSome = true := by
  constructor
  · rintro ⟨event, hfind, hsome⟩
    obtain ⟨_, pre, post, hsplit, hpre⟩ := List.find?_eq_some_iff_append.mp hfind
    exact ⟨pre, event, post, hsplit, by simpa using hpre, hsome⟩
  · rintro ⟨pre, event, post, hsplit, hpre, hsome⟩
    refine ⟨event, List.find?_eq_some_iff_append.mpr ?_, hsome⟩
    exact ⟨Event.isPushTap_of_deliveredPayload hsome, pre, post, hsplit, by simpa using hpre⟩

/-! ## The delegate along a run -/

section Delegate

variable {tables : LanguageTables}

/-- What a message does to the delegate. -/
def delegateStep (delegate : AppDelegate) (event : Event tables) : AppDelegate :=
  if event.isPushTap then delegate.setPropertiesNil else delegate

/-- One tap clears the delegate, and no number of them does more. -/
theorem foldl_delegateStep (delegate : AppDelegate) (events : List (Event tables)) :
    events.foldl delegateStep delegate
      = if events.any Event.isPushTap then {} else delegate := by
  induction events generalizing delegate with
  | nil => rfl
  | cons event events ih =>
    rw [List.foldl_cons, ih, List.any_cons]
    unfold delegateStep
    cases hevent : event.isPushTap with
    | false => simp
    | true =>
      -- clearing a cleared delegate changes nothing
      have hcleared : delegate.setPropertiesNil = {} := rfl
      simp [hcleared]

/-- A launched delegate swallows a payload before the first push tap only, and only after a
launch by something else than a push. -/
theorem foldl_delegateStep_swallows_iff (launchOptions : Option LaunchOptions)
    (events : List (Event tables)) :
    (events.foldl delegateStep
        (AppDelegate.didFinishLaunchingWithOptions {} launchOptions)).swallows = true
      ↔ WithoutRemoteNotification launchOptions ∧ ∀ event ∈ events, event.isPushTap = false := by
  rw [foldl_delegateStep, ← launched_swallows_iff]
  cases hany : events.any Event.isPushTap with
  | true =>
    obtain ⟨event, hmem, htap⟩ := List.any_eq_true.mp hany
    -- with a tap in the history the delegate is cleared, and a cleared one swallows nothing
    have hsome : ¬ ∀ event ∈ events, event.isPushTap = false := by
      intro hnone
      rw [hnone event hmem] at htap
      exact Bool.false_ne_true htap
    simp [hsome, AppDelegate.swallows]
  | false =>
    have hnone : ∀ event ∈ events, event.isPushTap = false := by
      simpa using List.any_eq_false.mp hany
    exact ⟨fun hswallows => ⟨hswallows, hnone⟩, fun h => h.1⟩

end Delegate

section Runs

variable [MessagingKit] {tables : LanguageTables} (screens : Nat → Option Screen)

/-- A step does to the delegate what its message does, whichever controller gets it. -/
theorem step_appDelegate (app : App tables) (event : Event tables) :
    (app.step screens event).1.appDelegate = delegateStep app.appDelegate event := by
  cases event with
  | viewController message => cases message <;> rfl
  | loginViewController fields message => cases message <;> rfl
  | screenReleased screen => rfl

/-- Along every run the delegate is the one its messages make of the launched one. -/
theorem delegate_simulation :
    Reactive.Simulation (@App.step _ tables screens) delegateStep
      fun app delegate => app.appDelegate = delegate where
  preserved := by
    rintro app _ rfl event
    exact step_appDelegate screens app event

/-! ## One answer -/

/-- An answer opens the chat of its sender, with its payload unless the delegate swallows
it. -/
theorem openedSessions_step_pushData (app : App tables) (event : Event tables) :
    ∃ (controller : Controller) (session : Option NSObject → MFSDKSessionProperties),
      openedSessions (app.step screens event).2
        = event.chatSender.toList.map (fun sender => (controller, session sender)) ∧
      ∀ sender, (session sender).pushData
        = if app.appDelegate.swallows then none else payload sender := by
  cases event with
  | viewController message =>
    exact ⟨.viewController, app.viewController.session app.appDelegate,
      app.openedSessions_step_viewController screens message,
      app.viewController.session_pushData app.appDelegate⟩
  | loginViewController fields message =>
    exact ⟨.loginViewController, LoginViewController.session fields app.appDelegate,
      app.openedSessions_step_loginViewController screens fields message,
      LoginViewController.session_pushData fields app.appDelegate⟩
  | screenReleased screen =>
    exact ⟨.viewController, app.viewController.session app.appDelegate, rfl,
      app.viewController.session_pushData app.appDelegate⟩

/-- One answer loses a payload exactly when the delegate swallows the payload of a tap that
opens a chat. -/
theorem keepsPayload_of_step_iff (app : App tables) (event : Event tables) :
    KeepsPayload (Reactive.Transition.of (App.step screens) app event)
      ↔ ¬ (app.appDelegate.swallows = true ∧ event.deliveredPayload.isSome = true) := by
  obtain ⟨controller, session, hopened, hpushData⟩ :=
    openedSessions_step_pushData screens app event
  -- the sender carries what the event delivers, so the answer is read off the event
  have hpayload := event.bind_payload_chatSender
  unfold KeepsPayload
  rw [Reactive.Transition.of_input, Reactive.Transition.of_output, hopened]
  cases hsender : event.chatSender with
  -- no chat, no payload to keep
  | none =>
    rw [hsender] at hpayload
    simp [← hpayload]
  | some sender =>
    have hpayload : payload sender = event.deliveredPayload := by
      simpa [hsender] using hpayload
    have hsession := hpushData sender
    rw [hpayload] at hsession
    constructor
    -- a kept and swallowed payload would be both `some` and `none`
    · rintro ⟨htap, _⟩ ⟨hswallows, hsome⟩
      obtain ⟨userInfo, huserInfo⟩ := Option.isSome_iff_exists.mp hsome
      obtain ⟨controller', session', hone, hkept⟩ := htap userInfo huserInfo
      have hsame : session sender = session' := by
        simpa using congrArg (List.map Prod.snd) hone
      rw [← hsame, hsession, if_pos hswallows] at hkept
      exact Option.some_ne_none userInfo hkept.symm
    · intro hkept
      refine ⟨?_, ?_⟩
      · intro userInfo huserInfo
        -- a tap with a payload to keep finds a delegate that does not swallow
        have hswallows : app.appDelegate.swallows ≠ true := by
          intro hswallows
          exact hkept ⟨hswallows, by rw [huserInfo]; rfl⟩
        exact ⟨controller, session sender, rfl, by rw [hsession, if_neg hswallows, huserInfo]⟩
      · intro hbutton opened hmem
        rw [Option.toList_some, List.map_singleton, List.mem_singleton] at hmem
        rw [hmem, hsession, Event.deliveredPayload_of_isButton hbutton, ite_self]

/-! ## Whole runs -/

/-- **No tapped push loses its payload** in a run exactly when the app was not launched by
something else than a push, or its first push tap opens no chat. -/
theorem keepsPayload_iff (F : Foundation) (baseValue : BitVec 32)
    (launchOptions : Option LaunchOptions) (events : List (Event tables)) :
    (∀ t ∈ App.trace screens (App.launch F baseValue tables launchOptions) events,
      KeepsPayload t)
      ↔ ¬ WithoutRemoteNotification launchOptions ∨ ¬ FirstTapOpensChat events := by
  -- whether an answer keeps its payload is known from the delegate, and the delegate from the
  -- messages before
  have htrace := (delegate_simulation screens).forall_mem_trace_iff
    (s := App.launch F baseValue tables launchOptions) rfl
    (P := KeepsPayload)
    (Q := fun delegate event =>
      ¬ (delegate.swallows = true ∧ event.deliveredPayload.isSome = true))
    (by
      rintro app _ rfl event
      exact keepsPayload_of_step_iff screens app event)
    events
  unfold App.trace
  rw [htrace, firstTapOpensChat_iff]
  simp only [App.launch, foldl_delegateStep_swallows_iff]
  constructor
  · intro h
    by_contra hlost
    rw [not_or, not_not, not_not] at hlost
    obtain ⟨hlaunch, pre, event, post, hsplit, hpre, hsome⟩ := hlost
    exact h pre event post hsplit ⟨⟨hlaunch, hpre⟩, hsome⟩
  -- a tap that loses its payload is the first one, after a launch that swallows
  · rintro h pre event post hsplit ⟨⟨hlaunch, hpre⟩, hsome⟩
    rcases h with h | h
    · exact h hlaunch
    · exact h ⟨pre, event, post, hsplit, hpre, hsome⟩

end Runs

/-! ## A launch through a URL -/

/-- The options of an app that a link opened: a URL and no remote notification. -/
def openedByURL : LaunchOptions where
  dictionary := [(.ascii "UIApplicationLaunchOptionsURLKey", .other (.ascii "NSURL"))]
  remoteNotification_isDictionary := by
    intro userInfo h
    exact absurd h (by simp [show NSDictionary.objectForKey
      [(.ascii "UIApplicationLaunchOptionsURLKey", .other (.ascii "NSURL"))]
      remoteNotificationKey = none from rfl])

/-- The first push tapped after a launch through a URL opens a chat without its payload. -/
theorem keepsPayload_fails_openedByURL :
    letI := MessagingKit.zeroed
    ¬ ∀ t ∈ App.trace (fun _ => none)
        (App.launch Foundation.documented 0#32 .installed (some openedByURL))
        [.viewController (.askTohandlePushTap (some [(.ascii "aps", .string (.ascii "Hello"))]))],
      KeepsPayload t := by
  let := MessagingKit.zeroed
  intro hkept
  have hfirst := hkept _ List.mem_cons_self
  -- the tap is the first message, so it meets the delegate of the launch
  have hswallows := (launched_swallows_iff (some openedByURL)).mpr ⟨openedByURL, rfl, rfl⟩
  exact (keepsPayload_of_step_iff _ _ _).mp hfirst ⟨hswallows, rfl⟩

end HybridSample
