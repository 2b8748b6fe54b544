import HybridSample.Language
import HybridSample.Reactive.Since

/-!
# What the picker remembers

Four fields of `ViewController` belong to the language picker. After any run each of them is a
function of the messages alone, whatever chats were opened and closed in between:

* **`pickerFields_step`** — what one message writes of them.
* **`languageTitle_run`** — the row selected last decides the kept title, as `Choice` has it of
  the code.
* **`pickerFields_run`** — the four fields at the end of a run.
-/

namespace HybridSample

variable [MessagingKit] {tables : LanguageTables}

/-- What a message sets `hidden` of the picker panel to. -/
def Event.panelHidden : Event tables → Option Bool
  | .viewController .viewWillAppear => some true
  | .viewController .languageAction => some false
  | .viewController .pickerDoneAction => some true
  | _ => none

/-! ## One step -/

/-- Each message overwrites a field or leaves it. -/
theorem pickerFields_step (screens : Nat → Option Screen) (app : App tables)
    (event : Event tables) :
    let before := app.viewController
    let after := (app.step screens event).1.viewController
    after.languageCode = (event.selectedRow.map tables.code).getD before.languageCode ∧
    after.languageTitle
      = (event.selectedRow.map fun row => some (tables.title row)).getD before.languageTitle ∧
    after.languagePickerViewHidden
      = event.panelHidden.getD before.languagePickerViewHidden := by
  cases event with
  | viewController message =>
    cases message with
    | askTohandlePushTap userInfo => cases userInfo <;> exact ⟨rfl, rfl, rfl⟩
    | _ => exact ⟨rfl, rfl, rfl⟩
  | loginViewController fields message => exact ⟨rfl, rfl, rfl⟩
  | screenReleased screen => exact ⟨rfl, rfl, rfl⟩

/-! ## Whole runs -/

section Runs

variable (screens : Nat → Option Screen) (F : Foundation) (baseValue : BitVec 32)
  (launchOptions : Option LaunchOptions)

/-- The kept title is written with the selection, and by nothing else. -/
theorem languageTitle_run (events : List (Event tables)) :
    (Reactive.run (App.step screens) (App.launch F baseValue tables launchOptions)
        events).viewController.languageTitle
      = (events.filterMap Event.selectedRow).getLast?.map tables.title := by
  -- a register of its own: selections overwrite it and the rest leaves it alone
  have hregister := Reactive.run_register
    (fun app : App tables => app.viewController.languageTitle)
    (fun app event => (pickerFields_step screens app event).2.1)
    (App.launch F baseValue tables launchOptions) events
  refine hregister.trans ?_
  rw [← List.map_filterMap, List.getLast?_map]
  cases (events.filterMap Event.selectedRow).getLast? <;> rfl

/-- **The picker in closed form.** After any run the code and the kept title are those of the
row selected last, the button shows the row selected last before the last Done, and the panel
is as the last message about it left it. -/
theorem pickerFields_run (events : List (Event tables)) :
    let controller := (Reactive.run (App.step screens)
      (App.launch F baseValue tables launchOptions) events).viewController
    controller.languageCode = tables.code (lastSelected events) ∧
    controller.languageTitle = (events.filterMap Event.selectedRow).getLast?.map tables.title ∧
    controller.objLanguageButtonTitle
      = tables.confirmedTitle (lastSelected (upToLastDone events)) ∧
    controller.languagePickerViewHidden
      = (events.filterMap Event.panelHidden).getLast?.getD false := by
  -- two rows make up the code and the button; the panel is a register again
  have hshows := run_shows screens F baseValue launchOptions events
  have hhidden := Reactive.run_register
    (fun app : App tables => app.viewController.languagePickerViewHidden)
    (fun app event => (pickerFields_step screens app event).2.2)
    (App.launch F baseValue tables launchOptions) events
  refine ⟨?_, languageTitle_run screens F baseValue launchOptions events, ?_, hhidden⟩
  -- the code and the button are those of the two rows of the choice
  · rw [← Choice.selected_after]
    exact hshows.languageCode
  · rw [← Choice.title_confirmed_after]
    exact hshows.buttonTitle

end Runs

end HybridSample
