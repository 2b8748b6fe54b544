import HybridSample.App
import Mathlib.Data.List.DropRight
import Mathlib.Data.List.Induction

/-!
# Does a chat start in the language on the screen?

The picker keeps its choice in three places: the title on the button, `languageTitle` and
`languageCode`. Selecting a row writes the last two at once, only Done writes the first, and
hiding the panel writes nothing. `Choice` is what the events amount to, in rows:

* **`Choice.selected`** — the row selected last, whose code a chat speaks.
* **`Choice.confirmed`** — the row the button shows, the selected one as of the last Done.
* **`Choice.selected_after`**, **`Choice.title_confirmed_after`** — both read off the history:
  `lastSelected`, and its value as of the last Done.
* **`choice_simulation`** — the three fields hold exactly these two rows, in every run.
* **`speaksShownLanguage_of_step_iff`** — so a chat speaks the shown language exactly when the
  two rows agree as the chat is opened.
-/

namespace HybridSample

open ProjectStringConstant

/-! ## The messages about the picker -/

section Histories

variable {tables : LanguageTables}

namespace Event

/-- The row a message selects. -/
def selectedRow : Event tables → Option tables.Row
  | .viewController (.didSelectRow row) => some row
  | _ => none

def isPickerDone : Event tables → Bool
  | .viewController .pickerDoneAction => true
  | _ => false

def touchesPicker : Event tables → Bool
  | .viewController (.didSelectRow _) => true
  | .viewController .pickerDoneAction => true
  | _ => false

/-- Done selects nothing. -/
theorem selectedRow_of_isPickerDone {event : Event tables} (h : event.isPickerDone = true) :
    event.selectedRow = none := by
  unfold isPickerDone at h
  split at h
  · rfl
  · exact absurd h Bool.false_ne_true

end Event

/-- The row selected last, before any selection the default one. -/
def lastSelected (events : List (Event tables)) : tables.Row :=
  (events.filterMap Event.selectedRow).getLast?.getD tables.defaultRow

/-- The events up to the last Done, none if there was no Done. -/
def upToLastDone (events : List (Event tables)) : List (Event tables) :=
  events.rdropWhile fun event => !event.isPickerDone

/-- The title Done puts on the button for a row. -/
def LanguageTables.confirmedTitle (tables : LanguageTables) (row : tables.Row) : NSString :=
  if (tables.title row).length > 0 then tables.title row else english

/-- Before any Done the button says what Done would say of the default row. -/
theorem confirmedTitle_defaultRow : tables.confirmedTitle tables.defaultRow = english := by
  unfold LanguageTables.confirmedTitle
  rw [tables.title_defaultRow, ite_self]

theorem lastSelected_concat (events : List (Event tables)) (event : Event tables) :
    lastSelected (events ++ [event]) = event.selectedRow.getD (lastSelected events) := by
  unfold lastSelected
  rw [List.filterMap_append]
  cases hrow : event.selectedRow with
  | none => simp [hrow]
  | some row => simp [hrow]

theorem upToLastDone_concat (events : List (Event tables)) (event : Event tables) :
    upToLastDone (events ++ [event])
      = if event.isPickerDone then events ++ [event] else upToLastDone events := by
  unfold upToLastDone
  rw [List.rdropWhile_concat]
  cases event.isPickerDone <;> rfl

end Histories

/-! ## The choice, in rows -/

structure Choice (tables : LanguageTables) where
  selected : tables.Row
  confirmed : tables.Row
  deriving DecidableEq

namespace Choice

variable {tables : LanguageTables}

def initial : Choice tables := ⟨tables.defaultRow, tables.defaultRow⟩

/-- Selecting moves the selected row, Done confirms it. A row without a title is confirmed as
the default. -/
def step (choice : Choice tables) : Event tables → Choice tables
  | .viewController (.didSelectRow row) => { choice with selected := row }
  | .viewController .pickerDoneAction =>
    { choice with
      confirmed :=
        if (tables.title choice.selected).length > 0 then choice.selected
        else tables.defaultRow }
  | _ => choice

/-- The choice a history amounts to. -/
def after (events : List (Event tables)) : Choice tables :=
  events.foldl step initial

/-- One row of the tables has the code of the selected row and the title of the confirmed
one. -/
def Agrees (choice : Choice tables) : Prop :=
  ∃ row, tables.code row = tables.code choice.selected ∧
    tables.title row = tables.title choice.confirmed

instance (choice : Choice tables) : Decidable choice.Agrees := by
  unfold Agrees; infer_instance

/-- A choice that is confirmed agrees, whatever the tables repeat. -/
theorem agrees_of_eq {choice : Choice tables} (h : choice.selected = choice.confirmed) :
    choice.Agrees :=
  ⟨choice.selected, rfl, by rw [h]⟩

/-- In tables that repeat neither a code nor a title, nothing else does. -/
theorem agrees_iff_eq (hcode : Function.Injective tables.code)
    (htitle : Function.Injective tables.title) (choice : Choice tables) :
    choice.Agrees ↔ choice.selected = choice.confirmed := by
  constructor
  · rintro ⟨row, hrow, hrow'⟩
    exact (hcode hrow).symm.trans (htitle hrow')
  · exact agrees_of_eq

/-- Done makes the choice agree, where the selected row has a title to show. -/
theorem agrees_of_pickerDoneAction (choice : Choice tables)
    (htitle : (tables.title choice.selected).length > 0) :
    (choice.step (.viewController .pickerDoneAction)).Agrees := by
  apply agrees_of_eq
  show choice.selected
    = if (tables.title choice.selected).length > 0 then choice.selected else tables.defaultRow
  rw [if_pos htitle]

/-- No other message is about the choice. -/
theorem step_of_not_touchesPicker (choice : Choice tables) {event : Event tables}
    (h : event.touchesPicker = false) : choice.step event = choice := by
  unfold step
  split
  · cases h
  · cases h
  · rfl

/-- From Done on the choice agrees, until the picker is touched again. -/
theorem agrees_after_done (pre : List (Event tables)) {post : List (Event tables)}
    (htitle : (tables.title (after pre).selected).length > 0)
    (hpost : ∀ event ∈ post, event.touchesPicker = false) :
    (after (pre ++ .viewController .pickerDoneAction :: post)).Agrees := by
  -- what comes after Done leaves the choice as Done made it
  have hquiet : ∀ choice : Choice tables, post.foldl step choice = choice := fun choice =>
    Reactive.foldl_eq_self_of_forall fun event hevent =>
      choice.step_of_not_touchesPicker (hpost event hevent)
  unfold after
  rw [List.foldl_append, List.foldl_cons, hquiet]
  exact agrees_of_pickerDoneAction (after pre) htitle

/-! ## The choice of a history -/

/-- A selection moves the selected row, and nothing else does. -/
theorem selected_step (choice : Choice tables) (event : Event tables) :
    (choice.step event).selected = event.selectedRow.getD choice.selected := by
  cases event with
  | viewController message => cases message <;> rfl
  | loginViewController fields message => rfl
  | screenReleased screen => rfl

/-- Done shows the selected row, and no other message changes what is shown. -/
theorem title_confirmed_step (choice : Choice tables) (event : Event tables) :
    tables.title (choice.step event).confirmed
      = if event.isPickerDone then tables.confirmedTitle choice.selected
        else tables.title choice.confirmed := by
  -- the row `Choice.step` falls back to has the title the button falls back to
  have hdone : tables.title (if (tables.title choice.selected).length > 0 then choice.selected
      else tables.defaultRow) = tables.confirmedTitle choice.selected := by
    unfold LanguageTables.confirmedTitle
    rw [apply_ite tables.title, tables.title_defaultRow]
  cases event with
  | viewController message =>
    cases message with
    | pickerDoneAction => exact hdone
    | _ => rfl
  | loginViewController fields message => rfl
  | screenReleased screen => rfl

theorem after_concat (events : List (Event tables)) (event : Event tables) :
    after (events ++ [event]) = (after events).step event :=
  List.foldl_concat step initial event events

/-- The selected row is the one selected last. -/
theorem selected_after (events : List (Event tables)) :
    (after events).selected = lastSelected events := by
  induction events using List.reverseRecOn with
  | nil => rfl
  | append_singleton events event ih => rw [after_concat, selected_step, lastSelected_concat, ih]

/-- The title shown is that of the row selected last, as of the last Done. -/
theorem title_confirmed_after (events : List (Event tables)) :
    tables.title (after events).confirmed
      = tables.confirmedTitle (lastSelected (upToLastDone events)) := by
  induction events using List.reverseRecOn with
  | nil => exact tables.title_defaultRow.trans confirmedTitle_defaultRow.symm
  | append_singleton events event ih =>
    rw [after_concat, title_confirmed_step, upToLastDone_concat, selected_after]
    cases hdone : event.isPickerDone with
    | false => exact ih
    | true =>
      -- this Done is the last one, and it has selected nothing itself
      have hrow := Event.selectedRow_of_isPickerDone hdone
      show _ = tables.confirmedTitle (lastSelected (events ++ [event]))
      rw [lastSelected_concat, hrow]
      rfl

/-- Whether the choice agrees, read off the history. -/
theorem agrees_after_iff (events : List (Event tables)) :
    (after events).Agrees ↔ ∃ row, tables.code row = tables.code (lastSelected events) ∧
      tables.title row = tables.confirmedTitle (lastSelected (upToLastDone events)) := by
  unfold Agrees
  rw [selected_after, title_confirmed_after]

end Choice

/-- The shipped tables repeat nothing. -/
theorem installed_agrees_iff (choice : Choice LanguageTables.installed) :
    choice.Agrees ↔ choice.selected = choice.confirmed := by
  apply Choice.agrees_iff_eq
  · show ∀ row row', _
    decide
  · show ∀ row row', _
    decide

/-! ## The controller holds the choice -/

/-- The three fields of the controller are those of the choice. -/
structure ViewController.Shows {tables : LanguageTables} (controller : ViewController tables)
    (choice : Choice tables) : Prop where
  languageCode : controller.languageCode = tables.code choice.selected
  languageTitle : controller.languageTitle = some (tables.title choice.selected) ∨
    controller.languageTitle = none ∧ choice.selected = tables.defaultRow
  buttonTitle : controller.objLanguageButtonTitle = tables.title choice.confirmed

section Fields

variable {tables : LanguageTables}

/-- A loaded controller has chosen the default row. -/
theorem shows_viewDidLoad (F : Foundation) (baseValue : BitVec 32) :
    (ViewController.viewDidLoad F baseValue : ViewController tables).Shows Choice.initial where
  languageCode := tables.code_defaultRow.symm
  languageTitle := Or.inr ⟨rfl, rfl⟩
  buttonTitle := tables.title_defaultRow.symm

/-- Done shows the selected title, or the English one in its place. -/
theorem shows_pickerDoneAction {self : ViewController tables} {choice : Choice tables}
    (h : self.Shows choice) :
    self.pickerDoneAction.Shows (choice.step (.viewController .pickerDoneAction)) where
  languageCode := h.languageCode
  languageTitle := h.languageTitle
  buttonTitle := by
    have henglish : english.length > 0 := by decide
    have hdefault := tables.title_defaultRow
    simp only [ViewController.pickerDoneAction, Choice.step]
    rcases h.languageTitle with hsome | ⟨hnone, hselected⟩
    -- an empty title falls back to English, as `Choice.step` does to the default row
    · rw [hsome]
      dsimp only
      split
      · rfl
      · exact hdefault.symm
    -- nothing was selected yet, and the default row is the English one
    · rw [hnone, hselected, ite_self]
      exact hdefault.symm

/-- The rest of a controller does not matter. -/
theorem Shows.of_fields_eq {self self' : ViewController tables} {choice : Choice tables}
    (h : self.Shows choice) (hcode : self'.languageCode = self.languageCode)
    (htitle : self'.languageTitle = self.languageTitle)
    (hbutton : self'.objLanguageButtonTitle = self.objLanguageButtonTitle) :
    self'.Shows choice where
  languageCode := hcode.trans h.languageCode
  languageTitle := htitle ▸ h.languageTitle
  buttonTitle := hbutton.trans h.buttonTitle

end Fields

section Runs

variable [MessagingKit] {tables : LanguageTables} (screens : Nat → Option Screen)

/-- A push tap opens a chat and chooses nothing. -/
theorem shows_askTohandlePushTap {self : ViewController tables} {choice : Choice tables}
    (h : self.Shows choice) (delegate : AppDelegate) (screen : Option Screen)
    (userInfo : Option NSObject) :
    (self.askTohandlePushTap delegate screen userInfo).2.1.Shows choice := by
  cases userInfo with
  | none => exact h
  | some userInfo => exact Shows.of_fields_eq h rfl rfl rfl

/-- **Refinement.** Every message moves the fields of the controller as it moves the choice. -/
theorem choice_simulation :
    Reactive.Simulation (@App.step _ tables screens) Choice.step
      fun app choice => app.viewController.Shows choice where
  preserved := by
    intro app choice h event
    cases event with
    | viewController message =>
      cases message with
      | didSelectRow row => exact ⟨rfl, Or.inl rfl, h.buttonTitle⟩
      | pickerDoneAction => exact shows_pickerDoneAction h
      | askTohandlePushTap userInfo => exact shows_askTohandlePushTap h _ _ _
      | _ => exact Shows.of_fields_eq h rfl rfl rfl
    | loginViewController fields message => exact h
    | screenReleased screen => exact Shows.of_fields_eq h rfl rfl rfl

/-- After any run the controller holds the choice of its history. -/
theorem run_shows (F : Foundation) (baseValue : BitVec 32) (launchOptions : Option LaunchOptions)
    (events : List (Event tables)) :
    (Reactive.run (App.step screens) (App.launch F baseValue tables launchOptions)
      events).viewController.Shows (Choice.after events) :=
  (choice_simulation screens).run (shows_viewDidLoad F baseValue) events

/-! ## The chats it opens -/

/-- The event opens a chat from `ViewController`. -/
def Event.opensPreLoginChat : Event tables → Bool
  | .viewController message => message.chatSender.isSome
  | _ => false

/-- Every chat opened from `ViewController` has the code of a row whose title is on the
button. -/
def SpeaksShownLanguage (t : App.Transition tables) : Prop :=
  ∀ session, (.viewController, session) ∈ openedSessions t.output →
    ∃ row, session.language = some (tables.code row) ∧
      t.before.viewController.objLanguageButtonTitle = tables.title row

/-- Such an event does open one, and each chat it opens has the code of the controller. -/
theorem mem_openedSessions_step (app : App tables) (event : Event tables) :
    (event.opensPreLoginChat = true ↔
      ∃ session, (.viewController, session) ∈ openedSessions (app.step screens event).2) ∧
    ∀ session, (.viewController, session) ∈ openedSessions (app.step screens event).2 →
      session.language = some app.viewController.languageCode := by
  cases event with
  | viewController message =>
    show (message.chatSender.isSome = true ↔ _) ∧ _
    rw [app.openedSessions_step_viewController]
    cases message.chatSender with
    | none => simp
    | some sender => simp [ViewController.session_language]
  | loginViewController fields message =>
    rw [app.openedSessions_step_loginViewController]
    simp [Event.opensPreLoginChat]
  | screenReleased screen => simp [Event.opensPreLoginChat, App.step, openedSessions]

/-- **One chat.** In a state that holds a choice, the language of a chat opened now is the
shown one exactly when the choice agrees. -/
theorem speaksShownLanguage_of_step_iff {app : App tables} {choice : Choice tables}
    (h : app.viewController.Shows choice) (event : Event tables) :
    SpeaksShownLanguage (Reactive.Transition.of (App.step screens) app event)
      ↔ (event.opensPreLoginChat = true → choice.Agrees) := by
  obtain ⟨hopens, hlanguage⟩ := mem_openedSessions_step screens app event
  constructor
  -- the row whose code the chat has is the row that shows
  · intro hspeaks hevent
    obtain ⟨session, hsession⟩ := hopens.mp hevent
    obtain ⟨row, hrow, hshown⟩ := hspeaks session hsession
    have hcode : tables.code row = app.viewController.languageCode :=
      Option.some.inj (hrow.symm.trans (hlanguage session hsession))
    exact ⟨row, hcode.trans h.languageCode, hshown.symm.trans h.buttonTitle⟩
  · intro hagrees session hsession
    obtain ⟨row, hrow, hrow'⟩ := hagrees (hopens.mpr ⟨session, hsession⟩)
    refine ⟨row, ?_, h.buttonTitle.trans hrow'.symm⟩
    rw [hlanguage session hsession, h.languageCode, hrow]

/-! ## Whole runs -/

/-- **Every chat of a run speaks the shown language** exactly when, at each message that opens
one, some row has the code of the row selected last and the title that row `lastSelected` had
on the button at the last Done. -/
theorem speaksShownLanguage_iff (F : Foundation) (baseValue : BitVec 32)
    (launchOptions : Option LaunchOptions) (events : List (Event tables)) :
    (∀ t ∈ App.trace screens (App.launch F baseValue tables launchOptions) events,
      SpeaksShownLanguage t)
      ↔ ∀ pre event post, events = pre ++ event :: post → event.opensPreLoginChat = true →
          ∃ row, tables.code row = tables.code (lastSelected pre) ∧
            tables.title row = tables.confirmedTitle (lastSelected (upToLastDone pre)) := by
  have htrace := (choice_simulation screens).forall_mem_trace_iff
    (s := App.launch F baseValue tables launchOptions) (shows_viewDidLoad F baseValue)
    (fun h event => speaksShownLanguage_of_step_iff screens h event) events
  -- the choice at a message is the one of the messages in front of it
  have hagrees : ∀ pre : List (Event tables), (pre.foldl Choice.step Choice.initial).Agrees ↔ _ :=
    Choice.agrees_after_iff
  unfold App.trace
  simpa only [hagrees] using htrace

/-- **Confirmed chats.** Once Done was tapped on a row with a title, chats speak the shown
language until the picker is touched again. -/
theorem speaksShownLanguage_after_done (F : Foundation) (baseValue : BitVec 32)
    (launchOptions : Option LaunchOptions) (pre : List (Event tables))
    {post : List (Event tables)}
    (htitle : (tables.title (Choice.after pre).selected).length > 0)
    (hpost : ∀ event ∈ post, event.touchesPicker = false) (event : Event tables) :
    SpeaksShownLanguage (Reactive.Transition.of (App.step screens)
      (Reactive.run (App.step screens) (App.launch F baseValue tables launchOptions)
        (pre ++ .viewController .pickerDoneAction :: post)) event) := by
  have hshows := run_shows screens F baseValue launchOptions
    (pre ++ .viewController .pickerDoneAction :: post)
  apply (speaksShownLanguage_of_step_iff screens hshows event).mpr
  intro _
  exact Choice.agrees_after_done pre htitle hpost

end Runs

/-- Done on Hindi, and the push tap after it opens a chat in the Hindi the button shows. -/
theorem speaksShownLanguage_after_done_on_hindi :
    letI := MessagingKit.zeroed
    let t := Reactive.Transition.of (App.step fun _ => none)
      (Reactive.run (App.step fun _ => none)
        (App.launch Foundation.documented 0#32 LanguageTables.installed none)
        ([.viewController (.didSelectRow ⟨1, by decide⟩)]
          ++ .viewController .pickerDoneAction :: [.viewController .viewWillAppear]))
      (.viewController (.askTohandlePushTap (some [])))
    SpeaksShownLanguage t ∧
      (openedSessions t.output).map (fun opened => (opened.1, opened.2.language))
        = [(.viewController, some hindiLangCode)] ∧
      t.before.viewController.objLanguageButtonTitle = hindi := by
  let := MessagingKit.zeroed
  exact ⟨speaksShownLanguage_after_done _ _ _ _ _ (by decide) (by decide) _, rfl, rfl⟩

/-- With the picker of the shipped app open on Hindi, a push tap opens a chat in Hindi while
the button still says English. -/
theorem speaksShownLanguage_fails_unconfirmed :
    letI := MessagingKit.zeroed
    ¬ ∀ t ∈ App.trace (fun _ => none)
        (App.launch Foundation.documented 0#32 LanguageTables.installed none)
        [.viewController .viewWillAppear, .viewController .languageAction,
          .viewController (.didSelectRow ⟨1, by decide⟩),
          .viewController (.askTohandlePushTap (some []))],
      SpeaksShownLanguage t := by
  let := MessagingKit.zeroed
  intro hspeaks
  let pre : List (Event LanguageTables.installed) :=
    [.viewController .viewWillAppear, .viewController .languageAction,
      .viewController (.didSelectRow ⟨1, by decide⟩)]
  have hshows := run_shows (fun _ => none) Foundation.documented 0#32 none pre
  have hlast := hspeaks _ ((Reactive.mem_trace_iff _ _ _ _).mpr ⟨pre, _, [], rfl, rfl⟩)
  have hagrees := (speaksShownLanguage_of_step_iff _ hshows _).mp hlast rfl
  -- Hindi is selected, and no Done has confirmed it
  have hunconfirmed : ¬ (Choice.after pre).Agrees := by
    rw [installed_agrees_iff]
    decide
  exact hunconfirmed hagrees

end HybridSample
