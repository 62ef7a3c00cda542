/-
Runs from boot on, with whatever the memory of the handlers holds in the fields
that nobody assigns: an idle dongle stays quiet only if `is_debounced` happens
to be clear.
-/
import ZbLightbulb.Dispatch

namespace ZbLightbulb

namespace ButtonPressHandler

variable {gpioPinGetDt : GpioDtSpec → Int} {h : ButtonPressHandler}

theorem poll_of_handled
    (hhandled : (h.getDebouncedPress gpioPinGetDt).pressHandled = true) :
    h.completedPress gpioPinGetDt = none ∧
      h.poll gpioPinGetDt = h.getDebouncedPress gpioPinGetDt := by
  have hnone : (h.getDebouncedPress gpioPinGetDt).hasCompletedPress =
      false := by
    rw [hasCompletedPress, hhandled]
    rfl
  constructor
  · simp only [completedPress, hnone, Bool.false_eq_true, if_false]
  · simp only [poll, hnone, Bool.false_eq_true, if_false]

/-- A handler that waits for a press, with none to be handled. -/
def Quiet (h : ButtonPressHandler) : Prop :=
  h.isDebounced = false ∧ h.pressHandled = true

/-- A quiet handler stays quiet while its button is released. -/
theorem Quiet.poll (hquiet : h.Quiet)
    (hreleased : isButtonPressed gpioPinGetDt h.gpio = false) :
    h.completedPress gpioPinGetDt = none ∧ (h.poll gpioPinGetDt).Quiet := by
  have hagree := getDebouncedPress_of_agree (hreleased.trans hquiet.1.symm)
  have hhandled : (h.getDebouncedPress gpioPinGetDt).pressHandled = true := by
    rw [hagree]
    exact hquiet.2
  rcases poll_of_handled hhandled with ⟨hnone, hpoll⟩
  rw [hpoll, hagree]
  exact ⟨hnone, hquiet⟩

/-- A handler that believes its button is pressed, `k` released polls after the
boot. -/
structure Releasing (k : Nat) (h : ButtonPressHandler) : Prop where
  held : h.isDebounced = true
  debounce_eq : h.debounceTimerMs = 25 * k
  timer_eq : h.pressTimerMs = 25 * k
  poll_eq : h.pollIntervalMs = 25
  handled : h.pressHandled = true

theorem Releasing.poll {k : Nat} (hrel : h.Releasing k) (hk : k < 4)
    (hreleased : isButtonPressed gpioPinGetDt h.gpio = false) :
    (h.poll gpioPinGetDt).Releasing (k + 1) := by
  have hstep := getDebouncedPress_of_release hreleased hrel.held
    (by rw [hrel.debounce_eq, hrel.poll_eq]; omega)
  have hpoll := (poll_of_handled (h := h) (by rw [hstep]; exact hrel.handled)).2
  rw [hpoll, hstep]
  refine ⟨hrel.held, ?_, ?_, hrel.poll_eq, hrel.handled⟩
  · simp only [hrel.debounce_eq, hrel.poll_eq]
    push_cast
    ring
  · simp only [hrel.timer_eq, hrel.poll_eq]
    push_cast
    ring

/-- The fifth released poll completes a press of 125 ms that never was. -/
theorem Releasing.completedPress (hrel : h.Releasing 4)
    (hreleased : isButtonPressed gpioPinGetDt h.gpio = false) :
    h.completedPress gpioPinGetDt = some 125 := by
  have hstep := getDebouncedPress_of_complete hreleased hrel.held
    (by rw [hrel.debounce_eq, hrel.poll_eq]; decide)
  have hthresh : h.pressTimerMs + h.pollIntervalMs = 125 := by
    rw [hrel.timer_eq, hrel.poll_eq]
    rfl
  simp only [ButtonPressHandler.completedPress, hasCompletedPress, hstep,
    hthresh]
  rfl

end ButtonPressHandler

namespace DongleState

section Boot

variable (uninit : GpioDtSpec → ButtonPressHandler) (pwm : Dongle.Pwm)
  (ticks : Nat → Tick)

/-- The state before iteration `n` of a run from boot. -/
def bootStateAt (n : Nat) : DongleState :=
  Runs.stateAt (fun s tick => (s.iteration tick).1) (boot uninit pwm) ticks n

/-- The presses `main` acts on in iteration `n`. -/
def bootPressesAt (n : Nat) : List Press :=
  ((bootStateAt uninit pwm ticks n).iteration (ticks n)).2

/-- Iteration `n` completes no press, sends no command, steps no level and resets
no network: it leaves the bulb as the requests of the Zigbee thread do. -/
structure QuietAt (n : Nat) : Prop where
  uncompleted : ∀ b, ((bootStateAt uninit pwm ticks n).handler b).completedPress
    (ticks n).gpioPinGetDt = none
  unsent : ∀ press ∈ bootPressesAt uninit pwm ticks n, press.request = none
  unstepped : (bootStateAt uninit pwm ticks (n + 1)).bulb =
    (((ticks n).betweenIterations ++ (ticks n).duringSleep).foldl deliver
      (bootStateAt uninit pwm ticks n)).bulb
  unreset : ∀ press ∈ bootPressesAt uninit pwm ticks n,
    press.action ≠ .zbBdbResetViaLocalAction

/-- No button is ever sampled as pressed. -/
def NeverPressed : Prop :=
  ∀ n b, ButtonPressHandler.isButtonPressed (ticks n).gpioPinGetDt b = false

end Boot

variable {uninit : GpioDtSpec → ButtonPressHandler} {pwm : Dongle.Pwm}
  {ticks : Nat → Tick}

theorem boot_handler (b : GpioDtSpec) :
    (boot uninit pwm).handler b =
      { ButtonPressHandler.getButtonPressHandler (uninit b) (uninit b).gpio with
        gpio := b, pollIntervalMs := runLedBlinkInterval } := by
  cases b <;> rfl

theorem bootStateAt_succ_handler (n : Nat) (b : GpioDtSpec) :
    (bootStateAt uninit pwm ticks (n + 1)).handler b =
      ((bootStateAt uninit pwm ticks n).handler b).poll
        (ticks n).gpioPinGetDt :=
  (iteration_spec (ticks n) (bootStateAt uninit pwm ticks n)).1 b

theorem bootStateAt_handler_gpio (n : Nat) (b : GpioDtSpec) :
    ((bootStateAt uninit pwm ticks n).handler b).gpio = b := by
  induction n with
  | zero =>
      rw [bootStateAt, Runs.stateAt_zero, boot_handler]
  | succ n ih => rw [bootStateAt_succ_handler, ButtonPressHandler.poll_gpio, ih]

theorem bootPressesAt_eq_nil {n : Nat}
    (h : ∀ b, ((bootStateAt uninit pwm ticks n).handler b).completedPress
      (ticks n).gpioPinGetDt = none) :
    bootPressesAt uninit pwm ticks n = [] := by
  rw [bootPressesAt, (iteration_spec _ _).2, List.filterMap_eq_nil_iff]
  intro b _
  rw [pressOf, h b]
  rfl

/-- With no press of the network button, only the Zigbee thread touches the
bulb. -/
theorem iteration_bulb {s : DongleState} {tick : Tick}
    (h : s.nwkRstBtnBp.completedPress tick.gpioPinGetDt = none) :
    (s.iteration tick).1.bulb = ((tick.betweenIterations ++
      tick.duringSleep).foldl deliver s).bulb := by
  have hdeliver : ∀ (s t : DongleState) e, s.bulb = t.bulb →
      (s.deliver e).bulb = (t.deliver e).bulb := by
    intro s t e hbulb
    cases e with
    | signal => exact hbulb
    | deviceCb param => simp only [deliver, hbulb]
  have hled : ∀ s : DongleState, s.statusLed.bulb = s.bulb := by
    intro s
    simp only [statusLed]
    split_ifs <;> rfl
  have hpoll : ∀ s : DongleState,
      s.nwkRstBtnBp.completedPress tick.gpioPinGetDt = none →
        (s.nwkRstBtnPoll tick).1.bulb = s.bulb := by
    intro s hnone
    simp only [ButtonPressHandler.completedPress] at hnone
    simp only [nwkRstBtnPoll]
    split_ifs at hnone ⊢
    rfl
  let awake := tick.duringSleep.foldl deliver
    (tick.betweenIterations.foldl deliver s).statusLed
  have hbp : awake.nwkRstBtnBp = s.nwkRstBtnBp :=
    congrFun (awake_handler tick s) .nwkRstBtn
  have hiter : (s.iteration tick).1.bulb = awake.bulb := by
    rcases extBtnLoop_frame tick [0, 1, 2, 3] (awake.nwkRstBtnPoll tick).1 with
      ⟨bps, hloop⟩
    change ((awake.nwkRstBtnPoll tick).1.extBtnLoop tick [0, 1, 2, 3]).1.bulb = _
    rw [hloop]
    exact hpoll awake (by rw [hbp]; exact h)
  rw [hiter, List.foldl_append]
  exact Runs.foldl_simulation (fun s t : DongleState => s.bulb = t.bulb)
    hdeliver tick.duringSleep (hled _)

theorem quietAt_iff (n : Nat) : QuietAt uninit pwm ticks n ↔
    ∀ b, ((bootStateAt uninit pwm ticks n).handler b).completedPress
      (ticks n).gpioPinGetDt = none := by
  constructor
  · exact QuietAt.uncompleted
  · intro h
    have hnil := bootPressesAt_eq_nil h
    refine ⟨h, ?_, iteration_bulb (h .nwkRstBtn), ?_⟩
    · rw [hnil]
      intro press hpress
      contradiction
    · rw [hnil]
      intro press hpress
      contradiction

theorem NeverPressed.released (hidle : NeverPressed ticks) (n : Nat)
    (b : GpioDtSpec) : ButtonPressHandler.isButtonPressed
      (ticks n).gpioPinGetDt ((bootStateAt uninit pwm ticks n).handler b).gpio =
        false := by
  rw [bootStateAt_handler_gpio]
  exact hidle n b

theorem bootStateAt_quiet (hidle : NeverPressed ticks) {b : GpioDtSpec}
    (hclear : (uninit b).isDebounced = false) (n : Nat) :
    ((bootStateAt uninit pwm ticks n).handler b).Quiet := by
  induction n with
  | zero =>
      rw [bootStateAt, Runs.stateAt_zero, boot_handler]
      exact ⟨hclear, rfl⟩
  | succ n ih =>
      rw [bootStateAt_succ_handler]
      exact (ih.poll (hidle.released n b)).2

theorem bootStateAt_releasing (hidle : NeverPressed ticks) {b : GpioDtSpec}
    (hset : (uninit b).isDebounced = true) {n : Nat} (hn : n ≤ 4) :
    ((bootStateAt uninit pwm ticks n).handler b).Releasing n := by
  induction n with
  | zero =>
      rw [bootStateAt, Runs.stateAt_zero, boot_handler]
      exact ⟨hset, rfl, rfl, rfl, rfl⟩
  | succ n ih =>
      rw [bootStateAt_succ_handler]
      exact (ih (Nat.le_of_succ_le hn)).poll hn (hidle.released n b)

/-- The fifth iteration completes a press of every button whose handler started
with `is_debounced` set. -/
theorem not_quietAt_of_set (hidle : NeverPressed ticks) {b : GpioDtSpec}
    (hset : (uninit b).isDebounced = true) : ¬ QuietAt uninit pwm ticks 4 := by
  intro hquiet
  have hpress := (@bootStateAt_releasing uninit pwm ticks hidle b hset 4
    (Nat.le_refl 4)).completedPress (hidle.released 4 b)
  rw [hquiet.uncompleted b] at hpress
  contradiction

/-- An idle dongle is quiet from boot on exactly if no handler starts with
`is_debounced` set, which neither `get_button_press_handler` nor `main`
clears. -/
theorem quiet_from_boot_iff (hidle : NeverPressed ticks) :
    (∀ n, QuietAt uninit pwm ticks n) ↔
      ∀ b, (uninit b).isDebounced = false := by
  constructor
  · intro hquiet b
    by_contra hset
    rw [Bool.not_eq_false] at hset
    exact not_quietAt_of_set hidle hset (hquiet 4)
  · intro hclear n
    apply (quietAt_iff n).mpr
    intro b
    exact ((bootStateAt_quiet hidle (hclear b) n).poll (hidle.released n b)).1

/-- An iteration in which every pin reads 0. -/
def idleTick : Tick where
  betweenIterations := []
  duringSleep := []
  gpioPinGetDt := fun _ => 0
  zbBufGetOutDelayedExt := fun _ => 0

theorem quiet_from_boot_clear :
    NeverPressed (fun _ => idleTick) ∧ ∀ n,
      QuietAt (fun gpio => .clean gpio 25) ⟨0, 0⟩ (fun _ => idleTick) n :=
  ⟨fun _ _ => rfl, (quiet_from_boot_iff fun _ _ => rfl).mpr fun _ => rfl⟩

/-- The memory of the network button's handler holds `true`: after five polls,
125 ms, the light steps and the switch toggles. -/
theorem not_quiet_from_boot_set :
    ¬ ∀ uninit pwm ticks, NeverPressed ticks →
      ∀ n, QuietAt uninit pwm ticks n := by
  intro h
  have hidle : NeverPressed fun _ => idleTick := fun _ _ => rfl
  let uninit : GpioDtSpec → ButtonPressHandler := fun gpio =>
    { ButtonPressHandler.clean gpio 25 with
      isDebounced := decide (gpio = .nwkRstBtn) }
  have hset : (uninit .nwkRstBtn).isDebounced = true := rfl
  exact not_quietAt_of_set hidle hset (h uninit ⟨0, 0⟩ _ hidle 4)

end DongleState

end ZbLightbulb
