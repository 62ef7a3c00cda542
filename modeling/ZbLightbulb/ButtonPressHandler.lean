/-
`button_press_handler.c`: one button's debouncer and press timer, polled at a
fixed interval.  An `int` of the handler is an `Int` here, so a run agrees with
the code for as long as no timer leaves the range of an `int`.
-/
import ZbLightbulb.Lib.Debouncer

namespace ZbLightbulb

/-- The pins `main` reads, one for each button of the dongle. -/
inductive GpioDtSpec where
  | nwkRstBtn
  | extBtn1
  | extBtn2
  | extBtn3
  | extBtn4
deriving DecidableEq, Repr

/-- `struct Button_Press_Handler`, less `time_thresh`, which nothing reads. -/
structure ButtonPressHandler where
  gpio : GpioDtSpec
  pressTimerMs : Int
  debounceTimerMs : Int
  pollIntervalMs : Int
  completedButtonPressThresh : Int
  isDebounced : Bool
  pressHandled : Bool
deriving DecidableEq, Repr

namespace ButtonPressHandler

/-- `poll_interval_ms` and `is_debounced` are not assigned: they keep what the
stack held, here the fields of `uninit`. -/
def getButtonPressHandler (uninit : ButtonPressHandler) (button : GpioDtSpec) :
    ButtonPressHandler :=
  { uninit with
    gpio := button
    pressTimerMs := 0
    debounceTimerMs := 0
    completedButtonPressThresh := 0
    pressHandled := true }

/-- The `int` of `gpio_pin_get_dt` is converted to `bool`, so every value other
than zero counts as pressed. -/
def isButtonPressed (gpioPinGetDt : GpioDtSpec → Int) (gpio : GpioDtSpec) :
    Bool :=
  gpioPinGetDt gpio != 0

def setButtonPressHandled (h : ButtonPressHandler) : ButtonPressHandler :=
  { h with completedButtonPressThresh := 0, pressHandled := true }

def getDebouncedPress (gpioPinGetDt : GpioDtSpec → Int)
    (h : ButtonPressHandler) : ButtonPressHandler :=
  let buttonIsPressed := isButtonPressed gpioPinGetDt h.gpio
  let h := if buttonIsPressed then
      { h with debounceTimerMs := h.debounceTimerMs + h.pollIntervalMs }
    else h
  -- a pressed sample that differs is added a second time here
  let h := if buttonIsPressed != h.isDebounced then
      { h with debounceTimerMs := h.debounceTimerMs + h.pollIntervalMs }
    else h
  let h := if buttonIsPressed == h.isDebounced then
      { h with debounceTimerMs := 0 }
    else h
  let h := if h.isDebounced then
      { h with pressTimerMs := h.pressTimerMs + h.pollIntervalMs }
    else h
  if 100 < h.debounceTimerMs then
    let h := { h with isDebounced := buttonIsPressed }
    if buttonIsPressed == false then
      { h with
        pressHandled := false
        completedButtonPressThresh := h.pressTimerMs
        pressTimerMs := 0 }
    else h
  else h

/-- The unit test of the repository. -/
example : (getDebouncedPress (fun _ => 0)
    { gpio := .nwkRstBtn, pressTimerMs := 4970, debounceTimerMs := 200,
      pollIntervalMs := 30, completedButtonPressThresh := 0,
      isDebounced := true,
      pressHandled := true }).completedButtonPressThresh = 5000 := by
  decide

/-- The condition under which `main` acts on a handler. -/
def hasCompletedPress (h : ButtonPressHandler) : Bool :=
  !h.pressHandled && decide (0 < h.completedButtonPressThresh)

/-- What one iteration of `main` does to a handler: the debounced poll, then,
when a press has been completed, `set_button_press_handled`. -/
def poll (gpioPinGetDt : GpioDtSpec → Int) (h : ButtonPressHandler) :
    ButtonPressHandler :=
  let h := h.getDebouncedPress gpioPinGetDt
  if h.hasCompletedPress then h.setButtonPressHandled else h

/-- The duration `main` reads in the iteration in which it acts on a press. -/
def completedPress (gpioPinGetDt : GpioDtSpec → Int) (h : ButtonPressHandler) :
    Option Int :=
  let h := h.getDebouncedPress gpioPinGetDt
  if h.hasCompletedPress then some h.completedButtonPressThresh else none

section Branches

variable {gpioPinGetDt : GpioDtSpec → Int} {h : ButtonPressHandler}

/-- A sample that agrees with the debounced state clears the debounce timer. -/
theorem getDebouncedPress_of_agree
    (hagree : isButtonPressed gpioPinGetDt h.gpio = h.isDebounced) :
    h.getDebouncedPress gpioPinGetDt =
      { h with
        debounceTimerMs := 0
        pressTimerMs :=
          if h.isDebounced then h.pressTimerMs + h.pollIntervalMs
          else h.pressTimerMs } := by
  cases hdeb : h.isDebounced <;>
    simp [getDebouncedPress, hagree, hdeb]

/-- A pressed sample while not debounced-pressed counts twice. -/
theorem getDebouncedPress_of_press
    (hpressed : isButtonPressed gpioPinGetDt h.gpio = true)
    (hdeb : h.isDebounced = false) :
    h.getDebouncedPress gpioPinGetDt =
      { h with
        debounceTimerMs := h.debounceTimerMs + 2 * h.pollIntervalMs
        isDebounced :=
          decide (100 < h.debounceTimerMs + 2 * h.pollIntervalMs) } := by
  have htwice : h.debounceTimerMs + h.pollIntervalMs + h.pollIntervalMs =
      h.debounceTimerMs + 2 * h.pollIntervalMs := by
    omega
  by_cases hlimit : 100 < h.debounceTimerMs + 2 * h.pollIntervalMs <;>
    simp [getDebouncedPress, hpressed, hdeb, htwice, hlimit]

/-- A released sample that does not yet end the press. -/
theorem getDebouncedPress_of_release
    (hreleased : isButtonPressed gpioPinGetDt h.gpio = false)
    (hdeb : h.isDebounced = true)
    (hlimit : h.debounceTimerMs + h.pollIntervalMs ≤ 100) :
    h.getDebouncedPress gpioPinGetDt =
      { h with
        debounceTimerMs := h.debounceTimerMs + h.pollIntervalMs
        pressTimerMs := h.pressTimerMs + h.pollIntervalMs } := by
  simp [getDebouncedPress, hreleased, hdeb, Int.not_lt.mpr hlimit]

/-- The released sample that ends the press. -/
theorem getDebouncedPress_of_complete
    (hreleased : isButtonPressed gpioPinGetDt h.gpio = false)
    (hdeb : h.isDebounced = true)
    (hlimit : 100 < h.debounceTimerMs + h.pollIntervalMs) :
    h.getDebouncedPress gpioPinGetDt =
      { h with
        debounceTimerMs := h.debounceTimerMs + h.pollIntervalMs
        isDebounced := false
        pressHandled := false
        completedButtonPressThresh := h.pressTimerMs + h.pollIntervalMs
        pressTimerMs := 0 } := by
  simp [getDebouncedPress, hreleased, hdeb, hlimit]

/-- A poll that does not end a press: the press timer runs on if the press is
on, and nothing is reported. -/
structure Continues (h h' : ButtonPressHandler) : Prop where
  gpio_eq : h'.gpio = h.gpio
  poll_eq : h'.pollIntervalMs = h.pollIntervalMs
  handled_eq : h'.pressHandled = h.pressHandled
  completed_eq : h'.completedButtonPressThresh = h.completedButtonPressThresh
  timer_eq : h'.pressTimerMs =
    if h.isDebounced then h.pressTimerMs + h.pollIntervalMs else h.pressTimerMs
  stays : h.isDebounced = true → h'.isDebounced = true

/-- The poll that ends a press: the press timer, this poll included, becomes the
completed duration. -/
structure Completes (h h' : ButtonPressHandler) : Prop where
  gpio_eq : h'.gpio = h.gpio
  poll_eq : h'.pollIntervalMs = h.pollIntervalMs
  held : h.isDebounced = true
  released : h'.isDebounced = false
  unhandled : h'.pressHandled = false
  completed_eq :
    h'.completedButtonPressThresh = h.pressTimerMs + h.pollIntervalMs
  timer_eq : h'.pressTimerMs = 0

/-- Everything a call of `get_debounced_press` can do to the press. -/
theorem getDebouncedPress_cases (gpioPinGetDt : GpioDtSpec → Int)
    (h : ButtonPressHandler) :
    Continues h (h.getDebouncedPress gpioPinGetDt) ∨
      Completes h (h.getDebouncedPress gpioPinGetDt) := by
  by_cases hagree : isButtonPressed gpioPinGetDt h.gpio = h.isDebounced
  · rw [getDebouncedPress_of_agree hagree]
    exact Or.inl ⟨rfl, rfl, rfl, rfl, rfl, id⟩
  · cases hdeb : h.isDebounced with
    | false =>
        have hpressed : isButtonPressed gpioPinGetDt h.gpio = true := by
          simpa [hdeb] using hagree
        rw [getDebouncedPress_of_press hpressed hdeb]
        exact Or.inl ⟨rfl, rfl, rfl, rfl, by simp [hdeb], by simp [hdeb]⟩
    | true =>
        have hreleased : isButtonPressed gpioPinGetDt h.gpio = false := by
          simpa [hdeb] using hagree
        by_cases hlimit : 100 < h.debounceTimerMs + h.pollIntervalMs
        · rw [getDebouncedPress_of_complete hreleased hdeb hlimit]
          exact Or.inr ⟨rfl, rfl, hdeb, rfl, rfl, rfl, rfl⟩
        · rw [getDebouncedPress_of_release hreleased hdeb
            (Int.not_lt.mp hlimit)]
          exact Or.inl ⟨rfl, rfl, rfl, rfl, by simp [hdeb], fun h => h⟩

end Branches

/-- The debouncer inside the handler: a press is recognised with the double
increment, a release with the single one, and the limit is 100 ms. -/
def debouncer (pollIntervalMs : Int) (hpoll : 0 < pollIntervalMs) :
    Debouncer where
  up := 2 * pollIntervalMs
  down := pollIntervalMs
  limit := 100
  up_pos := by omega
  down_pos := hpoll
  limit_nonneg := by decide

def debounceState (h : ButtonPressHandler) : Debouncer.State where
  level := h.isDebounced
  timer := h.debounceTimerMs

/-- `get_debounced_press` refines the debouncer. -/
theorem getDebouncedPress_debounceState (gpioPinGetDt : GpioDtSpec → Int)
    (h : ButtonPressHandler) (hpoll : 0 < h.pollIntervalMs) :
    (h.getDebouncedPress gpioPinGetDt).debounceState =
      (debouncer h.pollIntervalMs hpoll).step h.debounceState
        (isButtonPressed gpioPinGetDt h.gpio) := by
  by_cases hagree : isButtonPressed gpioPinGetDt h.gpio = h.isDebounced
  · rw [getDebouncedPress_of_agree hagree,
      Debouncer.step_of_eq _ (s := h.debounceState) hagree]
    rfl
  · cases hdeb : h.isDebounced with
    | false =>
        have hpressed : isButtonPressed gpioPinGetDt h.gpio = true := by
          simpa [hdeb] using hagree
        rw [getDebouncedPress_of_press hpressed hdeb, hpressed]
        simp [debounceState, Debouncer.step, Debouncer.gain, debouncer, hdeb]
        split <;> simp_all
    | true =>
        have hreleased : isButtonPressed gpioPinGetDt h.gpio = false := by
          simpa [hdeb] using hagree
        by_cases hlimit : 100 < h.debounceTimerMs + h.pollIntervalMs
        · rw [getDebouncedPress_of_complete hreleased hdeb hlimit, hreleased]
          simp [debounceState, Debouncer.step, Debouncer.gain, debouncer, hdeb,
            hlimit]
        · rw [getDebouncedPress_of_release hreleased hdeb
            (Int.not_lt.mp hlimit), hreleased]
          simp [debounceState, Debouncer.step, Debouncer.gain, debouncer, hdeb,
            hlimit]

/-- The handled check does not touch the debouncer. -/
theorem poll_debounceState (gpioPinGetDt : GpioDtSpec → Int)
    (h : ButtonPressHandler) :
    (h.poll gpioPinGetDt).debounceState =
      (h.getDebouncedPress gpioPinGetDt).debounceState := by
  simp only [poll]
  split <;> rfl

end ButtonPressHandler

end ZbLightbulb
