import HybridSample.ChatService

/-!
# The chats of a run

What the chats of a run get depends on its messages in two ways: a tapped push brings its
payload, unless the launch has it withheld, and a selected row its language. Both are read off
the history.

* **`ChatService.filterMap_delivery_chats`** — the payloads the chats get, out of the pushes
  tapped in the run.
* **`pushData_run`** — so every payload arrives once and in order.
* **`ChatService.isolation`** — a service looks the same to a controller without the events it
  has no part in.
* **`chatsFrom_run`** — so what one controller opens depends on the other one by the push taps
  there, which clear the delegate they share, and on these only after a launch that withholds.
-/

namespace HybridSample

/-! ## Payloads -/

section Payloads

variable {tables : LanguageTables}

/-- The payload an event delivers, with the controller it is delivered to. -/
def Event.delivery (event : Event tables) : Option (Controller × NSDictionary) :=
  event.receiver.bind fun controller => event.deliveredPayload.map (Prod.mk controller)

/-- The payload of a chat, with the controller that opens the chat. -/
def Chat.delivery (chat : Chat) : Option (Controller × NSDictionary) :=
  chat.pushData.map (Prod.mk chat.openedFrom)

/-- The payloads of the chats `effects` opens, each with the controller of its chat. -/
def deliveries (effects : List Effect) : List (Controller × NSDictionary) :=
  (openedSessions effects).filterMap fun opened => opened.2.pushData.map (Prod.mk opened.1)

/-- Only a controller delivers, so the payload is known without it. -/
theorem Event.map_snd_delivery (event : Event tables) :
    event.delivery.map Prod.snd = event.deliveredPayload := by
  -- the controller comes and goes without the payload noticing
  have hmap : ∀ (controller : Controller) (userInfo : Option NSDictionary),
      (userInfo.map (Prod.mk controller)).map Prod.snd = userInfo := by
    intro controller userInfo
    cases userInfo <;> rfl
  cases event with
  | viewController message => exact hmap .viewController _
  | loginViewController fields message => exact hmap .loginViewController _
  | screenReleased screen => rfl

end Payloads

namespace ChatService

variable {tables : LanguageTables} (service : ChatService tables)

theorem chats_cons (event : Event tables) (events : List (Event tables)) :
    service.chats (event :: events)
      = (service.chat event).toList ++ (service.step event).chats events := rfl

/-- A chat gets the payload of the tapped push that opens it, unless it is withheld. -/
theorem bind_pushData_chat (event : Event tables) :
    (service.chat event).bind Chat.pushData
      = if service.withholding then none else event.deliveredPayload := by
  -- a login chat has the payload it is asked for with, if it is opened
  have hfields : ∀ (fields : LoginFields) pushData,
      (fields.chat pushData).bind Chat.pushData = if fields.filled then pushData else none := by
    intro fields pushData
    unfold LoginFields.chat
    split <;> rfl
  -- most events have no payload, and then withholding makes no difference
  have hnone : none = if service.withholding then none else (none : Option NSDictionary) :=
    (ite_self none).symm
  cases event with
  | viewController message =>
    cases message with
    | askTohandlePushTap userInfo =>
      cases userInfo with
      | none => exact hnone
      | some userInfo => rfl
    | _ => exact hnone
  | loginViewController fields message =>
    cases message with
    | loginAction => exact (hfields fields none).trans ((ite_self none).trans hnone)
    | startChat sender => exact (hfields fields none).trans ((ite_self none).trans hnone)
    | askTohandlePushTap userInfo =>
      show _ = if service.withholding then none else if fields.filled then userInfo else none
      cases userInfo with
      | none => rw [ite_self, ite_self]; rfl
      | some userInfo =>
        refine (hfields fields (service.payload userInfo)).trans ?_
        unfold payload
        cases service.withholding <;> cases fields.filled <;> rfl
    | _ => exact hnone
  | screenReleased screen => exact hnone

/-- A chat is opened from the controller the event is for. -/
theorem openedFrom_of_chat {event : Event tables} {chat : Chat}
    (h : service.chat event = some chat) : event.receiver = some chat.openedFrom := by
  -- whatever its payload, a login chat is opened from the login screen
  have hfields : ∀ (fields : LoginFields) pushData, fields.chat pushData = some chat →
      chat.openedFrom = .loginViewController := by
    intro fields pushData hchat
    unfold LoginFields.chat at hchat
    split at hchat
    · cases hchat
      rfl
    · cases hchat
  unfold ChatService.chat at h
  split at h
  · cases h
    rfl
  · cases h
    rfl
  · rw [hfields _ _ h]
    rfl
  · rw [hfields _ _ h]
    rfl
  · rw [hfields _ _ h]
    rfl
  · cases h

/-- A chat carries the delivery of the event that opens it, unless it is withheld. -/
theorem bind_delivery_chat (event : Event tables) :
    (service.chat event).bind Chat.delivery
      = if service.withholding then none else event.delivery := by
  have hpushData := service.bind_pushData_chat event
  unfold Event.delivery
  cases hchat : service.chat event with
  | none =>
    rw [hchat, Option.bind_none] at hpushData
    split
    · rfl
    · next hopen =>
      -- where no chat is opened there was nothing to deliver
      rw [if_neg hopen] at hpushData
      rw [← hpushData]
      exact (Option.bind_fun_none _).symm
  | some chat =>
    rw [hchat, Option.bind_some] at hpushData
    rw [service.openedFrom_of_chat hchat, Option.bind_some, Option.bind_some]
    unfold Chat.delivery
    rw [hpushData]
    split <;> rfl

/-- **Payloads.** A service that withholds keeps back everything up to its first tap. -/
theorem filterMap_delivery_chats (events : List (Event tables)) :
    (service.chats events).filterMap Chat.delivery
      = if service.withholding then
          (events.dropWhile fun event => !event.isPushTap).tail.filterMap Event.delivery
        else events.filterMap Event.delivery := by
  induction events generalizing service with
  | nil => rw [List.dropWhile_nil, List.tail_nil, List.filterMap_nil, ite_self]; rfl
  | cons event events ih =>
    -- the head of the run opens at most one chat
    have hchat : (service.chat event).toList.filterMap Chat.delivery
        = ((service.chat event).bind Chat.delivery).toList := by
      cases service.chat event with
      | none => rfl
      | some chat => cases hdelivery : chat.delivery <;> simp [hdelivery]
    rw [chats_cons, List.filterMap_append, ih, hchat, bind_delivery_chat]
    cases hwithholding : service.withholding with
    | false =>
      -- once nothing is withheld, nothing ever is again
      have hafter : (service.step event).withholding = false := by simp [step, hwithholding]
      rw [hafter, if_neg Bool.false_ne_true, if_neg Bool.false_ne_true,
        if_neg Bool.false_ne_true]
      cases hdelivery : event.delivery <;> simp [hdelivery]
    | true =>
      -- the withholding goes on exactly up to the first tap
      have hafter : (service.step event).withholding = !event.isPushTap := by
        simp [step, hwithholding]
      rw [hafter, if_pos rfl, if_pos rfl, List.dropWhile_cons]
      -- the first tap is dropped with what is in front of it
      cases htap : event.isPushTap <;> simp

/-! ## What a controller sees of a service -/

/-- An event for another controller opens no chat here. -/
theorem filter_openedFrom_of_receiver {controller : Controller} {event : Event tables}
    (h : event.receiver ≠ some controller) :
    (service.chat event).toList.filter (fun chat => chat.openedFrom = controller) = [] := by
  apply List.filter_eq_nil_iff.mpr
  intro chat hchat hfrom
  -- a chat that passed the filter was opened where the event arrived
  have hreceiver := service.openedFrom_of_chat (Option.mem_toList.mp hchat)
  rw [of_decide_eq_true hfrom] at hreceiver
  exact h hreceiver

/-- Two services that no chat of this controller tells apart, where `pending` holds if a
payload may still be withheld. -/
structure Alike (controller : Controller) (pending : Prop) (service service' : ChatService tables) :
    Prop where
  withholding : service.withholding = service'.withholding
  selected : controller = .viewController → service.selected = service'.selected
  pending : service.withholding = true → pending

/-- They open the same chat there. -/
theorem Alike.chat_eq {controller : Controller} {P : Prop}
    {service service' : ChatService tables} (h : Alike controller P service service')
    {event : Event tables} (hreceiver : event.receiver = some controller) :
    service.chat event = service'.chat event := by
  -- what a tap brings depends on the withholding alone
  have hpayload : service.payload = service'.payload := by
    unfold payload
    rw [h.withholding]
  cases event with
  | viewController message =>
    have hselected := h.selected (Option.some.inj hreceiver).symm
    unfold chat
    rw [hpayload, hselected]
  | loginViewController fields message =>
    cases message with
    | askTohandlePushTap userInfo =>
      cases userInfo with
      | none => rfl
      | some userInfo => exact congrArg fields.chat (congrFun hpayload userInfo)
    | _ => rfl
  | screenReleased screen => cases hreceiver

/-- Rows are selected at `ViewController` alone. -/
theorem selectedRow_of_receiver {event : Event tables}
    (h : event.receiver ≠ some .viewController) : event.selectedRow = none := by
  unfold Event.selectedRow
  split
  · exact absurd rfl h
  · rfl

/-- **Isolation.** To a controller a run looks the same without events for the other one, as
long as no push tap is among them while a payload may be withheld. -/
theorem isolation (controller : Controller) {P : Prop} {seen : Event tables → Bool}
    (hseen : ∀ event, seen event = false →
      event.receiver ≠ some controller ∧ (P → event.isPushTap = false)) :
    Reactive.Refinement (@answer tables) answer (Option.guard seen)
      (fun chat => chat.toList.filter fun chat => chat.openedFrom = controller)
      (fun chat => chat.toList.filter fun chat => chat.openedFrom = controller)
      (Alike controller P) where
  matched := by
    intro service service' h event _ hview
    obtain ⟨rfl, _⟩ := Option.guard_eq_some_iff.mp hview
    refine ⟨⟨?_, ?_, ?_⟩, ?_⟩
    · exact congrArg (· && !event.isPushTap) h.withholding
    · intro hcontroller
      exact congrArg event.selectedRow.getD (h.selected hcontroller)
    · intro hafter
      exact h.pending (Bool.and_elim_left hafter)
    · show (service.chat event).toList.filter _ = (service'.chat event).toList.filter _
      by_cases hreceiver : event.receiver = some controller
      · rw [h.chat_eq hreceiver]
      -- a tap at the other controller opens its chat there
      · rw [filter_openedFrom_of_receiver service hreceiver,
          filter_openedFrom_of_receiver service' hreceiver]
  hidden := by
    intro service service' h event hview
    obtain ⟨hreceiver, htap⟩ := hseen event (Option.guard_eq_none_iff.mp hview)
    -- a tap that is not seen finds nothing withheld, so it ends nothing
    have hquiet : (service.withholding && !event.isPushTap) = service.withholding := by
      cases hwithholding : service.withholding with
      | false => rfl
      | true => rw [htap (h.pending hwithholding)]; rfl
    refine ⟨⟨hquiet.trans h.withholding, ?_, ?_⟩, filter_openedFrom_of_receiver service hreceiver⟩
    · intro hcontroller
      refine Eq.trans ?_ (h.selected hcontroller)
      show event.selectedRow.getD service.selected = service.selected
      rw [selectedRow_of_receiver (hcontroller ▸ hreceiver), Option.getD_none]
    · intro hafter
      exact h.pending (hquiet.symm.trans hafter)

end ChatService

/-! ## Whole runs -/

/-- The events a controller's chats can depend on: its own, and push taps at either one. -/
def Event.concerns {tables : LanguageTables} (controller : Controller) (event : Event tables) :
    Bool :=
  event.receiver = some controller || event.isPushTap

/-- The chats `effects` opens from one controller. -/
def chatsFrom (controller : Controller) (effects : List Effect) :
    List (Controller × MFSDKSessionProperties) :=
  (openedSessions effects).filter fun opened => opened.1 = controller

section Runs

variable [MessagingKit] {tables : LanguageTables} (screens : Nat → Option Screen)

/-- The sessions of a run are those of the chats of the service. -/
theorem openedSessions_effects {app : App tables} {service : ChatService tables}
    (h : app.Serves service) (events : List (Event tables)) :
    openedSessions (app.effects screens events)
      = (service.chats events).map fun chat => (chat.openedFrom, chat.session) := by
  -- sessions are opened by messages to the manager
  have hmessages : ∀ effects, openedSessions effects = openedSessions (sdkMessages effects) := by
    intro effects
    unfold openedSessions sdkMessages
    rw [List.filterMap_filter]
    apply List.filterMap_congr
    intro effect _
    cases effect <;> rfl
  rw [hmessages, sdkMessages_effects screens h]
  induction service.chats events with
  | nil => rfl
  | cons chat chats ih =>
    rw [List.flatMap_cons, List.map_cons, ← ih]
    rfl

/-- The deliveries of a run, from any app that serves a service. -/
theorem deliveries_effects {app : App tables} {service : ChatService tables}
    (h : app.Serves service) (events : List (Event tables)) :
    deliveries (app.effects screens events)
      = if service.withholding then
          (events.dropWhile fun event => !event.isPushTap).tail.filterMap Event.delivery
        else events.filterMap Event.delivery := by
  -- of its session, a chat fixes the payload whatever the kit puts there
  have hsession : ∀ chat : Chat, chat.session.pushData = chat.pushData := by
    intro chat
    cases chat <;> rfl
  unfold deliveries
  rw [openedSessions_effects screens h, List.filterMap_map]
  simp only [Function.comp_def, hsession]
  exact service.filterMap_delivery_chats events

/-- **Every payload once, in order.** The payloads the chats of a run get are those of the
tapped pushes that open one. After a launch by something else than a push, the first tap and
what is in front of it add none. -/
theorem pushData_run (F : Foundation) (baseValue : BitVec 32)
    (launchOptions : Option LaunchOptions) (events : List (Event tables)) :
    (openedSessions ((App.launch F baseValue tables launchOptions).effects screens
        events)).filterMap (fun opened => opened.2.pushData)
      = if WithoutRemoteNotification launchOptions then
          (events.dropWhile fun event => !event.isPushTap).tail.filterMap Event.deliveredPayload
        else events.filterMap Event.deliveredPayload := by
  -- the same sessions, read with their controllers and without
  have hpushData : ∀ effects, (openedSessions effects).filterMap (fun opened => opened.2.pushData)
      = (deliveries effects).map Prod.snd := by
    intro effects
    unfold deliveries
    rw [List.map_filterMap]
    simp only [Option.map_map, Function.comp_def, Option.map_id_fun', id_eq]
  have hdelivered : ∀ events : List (Event tables),
      (events.filterMap Event.delivery).map Prod.snd = events.filterMap Event.deliveredPayload := by
    intro events
    rw [List.map_filterMap]
    exact List.filterMap_congr fun event _ => event.map_snd_delivery
  rw [hpushData, deliveries_effects screens (serves_launch F baseValue launchOptions),
    apply_ite (List.map Prod.snd), hdelivered, hdelivered]
  simp only [ChatService.launch, decide_eq_true_eq]

/-- The chats a controller opens, as the service opens them. -/
theorem chatsFrom_effects {app : App tables} {service : ChatService tables}
    (h : app.Serves service) (controller : Controller) (events : List (Event tables)) :
    chatsFrom controller (app.effects screens events)
      = ((service.chats events).filter fun chat => chat.openedFrom = controller).map
          fun chat => (chat.openedFrom, chat.session) := by
  unfold chatsFrom
  rw [openedSessions_effects screens h, List.filter_map]
  rfl

/-- Events a controller has no part in can be left out, and the answers of the SDK changed. -/
theorem chatsFrom_filter (F : Foundation) (baseValue : BitVec 32)
    (launchOptions : Option LaunchOptions) (controller : Controller) {P : Prop}
    {seen : Event tables → Bool}
    (hseen : ∀ event, seen event = false →
      event.receiver ≠ some controller ∧ (P → event.isPushTap = false))
    (hpending : WithoutRemoteNotification launchOptions → P)
    (screens' : Nat → Option Screen) (events : List (Event tables)) :
    chatsFrom controller
        ((App.launch F baseValue tables launchOptions).effects screens events)
      = chatsFrom controller
        ((App.launch F baseValue tables launchOptions).effects screens' (events.filter seen)) := by
  have hserves : (App.launch F baseValue tables launchOptions).Serves
      (ChatService.launch launchOptions) := serves_launch F baseValue launchOptions
  -- the two launched services are one and the same, and the events are left out of one run
  have hlog := (ChatService.isolation controller hseen).log_eq_of_guard
    (s := (ChatService.launch launchOptions : ChatService tables))
    ⟨rfl, fun _ => rfl, fun hwithholding => hpending (of_decide_eq_true hwithholding)⟩ events
  rw [← Reactive.log_filter, ← Reactive.log_filter] at hlog
  rw [chatsFrom_effects screens hserves, chatsFrom_effects screens' hserves]
  exact congrArg (List.map fun chat => (chat.openedFrom, chat.session)) hlog

/-- A push tap with filled fields. -/
def tapAt : Controller → Event tables
  | .viewController => .viewController (.askTohandlePushTap (some []))
  | .loginViewController =>
    .loginViewController ⟨.ascii "1", .ascii "2"⟩ (.askTohandlePushTap (some []))

def Controller.other : Controller → Controller
  | .viewController => .loginViewController
  | .loginViewController => .viewController

/-- After a launch that withholds, a tap at the other controller takes the loss upon itself. -/
theorem chatsFrom_tapAt_other (F : Foundation) (baseValue : BitVec 32)
    {launchOptions : Option LaunchOptions} (h : WithoutRemoteNotification launchOptions)
    (controller : Controller) :
    let app := App.launch F baseValue tables launchOptions
    (chatsFrom controller (app.effects screens [tapAt controller.other, tapAt controller])).map
        (fun opened => opened.2.pushData) = [some []] ∧
    (chatsFrom controller (app.effects screens [tapAt controller])).map
        (fun opened => opened.2.pushData) = [none] := by
  intro app
  -- after such a launch the service withholds, and then both runs compute
  have hserves : app.Serves (⟨true, tables.defaultRow⟩ : ChatService tables) := by
    have hlaunch : app.Serves (ChatService.launch launchOptions) :=
      serves_launch F baseValue launchOptions
    unfold ChatService.launch at hlaunch
    rwa [decide_eq_true h] at hlaunch
  rw [chatsFrom_effects screens hserves, chatsFrom_effects screens hserves]
  cases controller <;> exact ⟨rfl, rfl⟩

/-- **What passes between the controllers.** All that concerns the other controller only, but
for its push taps, can be left out of a run without a change to the chats a controller opens,
whatever the SDK answers. Its push taps clear the delegate both read: they can be left out as
well, of every run, exactly when the app was not launched by something else than a push. -/
theorem chatsFrom_run (F : Foundation) (baseValue : BitVec 32)
    (launchOptions : Option LaunchOptions) (controller : Controller) :
    let chats := fun screens (events : List (Event tables)) => chatsFrom controller
      ((App.launch F baseValue tables launchOptions).effects screens events)
    (∀ screens' events,
      chats screens events = chats screens' (events.filter (Event.concerns controller))) ∧
    ((∀ events, chats screens events
        = chats screens (events.filter fun event => event.receiver = some controller))
      ↔ ¬ WithoutRemoteNotification launchOptions) := by
  intro chats
  refine ⟨fun screens' events => ?_, fun hsame hwithout => ?_, fun hpush events => ?_⟩
  · refine chatsFrom_filter (P := True) screens F baseValue launchOptions controller ?_
      (fun _ => trivial) screens' events
    intro event hevent
    simpa [Event.concerns] using hevent
  -- a tap there and a tap here: without the first one, the second one loses its payload
  · have hrun := hsame [tapAt controller.other, tapAt controller]
    -- only the second tap is for this controller
    have hfilter : [tapAt controller.other, (tapAt controller : Event tables)].filter
        (fun event => event.receiver = some controller) = [tapAt controller] := by
      cases controller <;> rfl
    obtain ⟨hkept, hlost⟩ := @chatsFrom_tapAt_other _ tables screens F baseValue _ hwithout
      controller
    rw [hfilter] at hrun
    -- so the two runs would have to agree on its payload
    have hpayloads := congrArg (List.map fun opened => opened.2.pushData) hrun
    rw [hkept, hlost] at hpayloads
    cases hpayloads
  · refine chatsFrom_filter (P := False) screens F baseValue launchOptions controller ?_ hpush
      screens events
    intro event hevent
    exact ⟨of_decide_eq_false hevent, False.elim⟩

end Runs

end HybridSample
