/-
The main loop of `light_bulb_dongle`: one iteration polls the network button and
the four external buttons and acts on every completed press.  The Zigbee thread
delivers signals and requests between iterations and while `main` sleeps.
-/
import Mathlib.Logic.Function.Basic
import ZbLightbulb.BulbRuns
import ZbLightbulb.HandlerRun
import ZbLightbulb.StatusLed

namespace ZbLightbulb

/-! ### On/off commands -/

def haOnOffSwitchEndpoint1 : UInt16 := 12
def haOnOffSwitchEndpoint2 : UInt16 := 13
def haOnOffSwitchEndpoint3 : UInt16 := 14
def haOnOffSwitchEndpoint4 : UInt16 := 15

/-- The callbacks handed to `zb_buf_get_out_delayed_ext`. -/
inductive SendCallback where
  | lightSwitchSendOnOff1
  | lightSwitchSendOnOff2
  | lightSwitchSendOnOff3
  | lightSwitchSendOnOff4
deriving DecidableEq, Repr

/-- The endpoint the callback passes to `light_switch_send_on_off_on_endpoint`,
which sends the request from it. -/
def SendCallback.endpoint : SendCallback → UInt16
  | .lightSwitchSendOnOff1 => haOnOffSwitchEndpoint1
  | .lightSwitchSendOnOff2 => haOnOffSwitchEndpoint2
  | .lightSwitchSendOnOff3 => haOnOffSwitchEndpoint3
  | .lightSwitchSendOnOff4 => haOnOffSwitchEndpoint4

/-- One call of `zb_buf_get_out_delayed_ext` and what it returned. -/
structure OnOffRequest where
  callback : SendCallback
  cmdId : UInt16
  zbErrCode : ZbRet
deriving DecidableEq, Repr

/-- The callback runs later only if the call was accepted. -/
def OnOffRequest.Accepted (r : OnOffRequest) : Prop :=
  r.zbErrCode = retOk

instance : DecidablePred OnOffRequest.Accepted :=
  fun r => inferInstanceAs (Decidable (r.zbErrCode = retOk))

/-- The result of the call is stored in a local and returned to nobody.  An
endpoint outside the four makes no call. -/
def sendOnOffCmd (zbBufGetOutDelayedExt : ZbRet) (endpointId cmdId : UInt16) :
    Option OnOffRequest :=
  if endpointId = haOnOffSwitchEndpoint1 then
    some ⟨.lightSwitchSendOnOff1, cmdId, zbBufGetOutDelayedExt⟩
  else if endpointId = haOnOffSwitchEndpoint2 then
    some ⟨.lightSwitchSendOnOff2, cmdId, zbBufGetOutDelayedExt⟩
  else if endpointId = haOnOffSwitchEndpoint3 then
    some ⟨.lightSwitchSendOnOff3, cmdId, zbBufGetOutDelayedExt⟩
  else if endpointId = haOnOffSwitchEndpoint4 then
    some ⟨.lightSwitchSendOnOff4, cmdId, zbBufGetOutDelayedExt⟩
  else none

/-- What `main` does about one completed press. -/
inductive Action where
  | zbBdbResetViaLocalAction
  | statusFlip
  | levelStep (request : Option OnOffRequest)
  | onOffCmd (request : Option OnOffRequest)
deriving DecidableEq, Repr

/-- One pass through a branch of `main` that ends in
`set_button_press_handled`. -/
structure Press where
  button : GpioDtSpec
  action : Action
deriving DecidableEq, Repr

/-! ### State and input of the loop -/

/-- `RUN_LED_BLINK_INTERVAL`. -/
def runLedBlinkInterval : Int := 25

theorem runLedBlinkInterval_pos : 0 < runLedBlinkInterval := by decide

/-- `blink_toggle`. -/
def blinkToggle : Int := 1000 / runLedBlinkInterval

/-- The locals of `main` that live across iterations and the globals it shares
with the Zigbee thread.  `level_control_value` is assigned before every use and
is left out. -/
structure DongleState where
  bulb : Bulb Dongle.Pwm
  leds : StatusLeds
  blinkStatus : Int
  loopCount : Int
  tempStatusOn : Bool
  nwkRstBtnBp : ButtonPressHandler
  extBtnBps : Fin 4 → ButtonPressHandler

/-- What the Zigbee thread runs. -/
inductive StackEvent where
  | signal (sig : ZbZdoAppSignalType) (status : ZbRet)
  | deviceCb (param : DeviceCallbackParam Dongle.Pwm)

/-- What one iteration meets: the work of the Zigbee thread before it and during
its sleep, the value read from each pin, and the result of the one call of
`zb_buf_get_out_delayed_ext` it may make for each button. -/
structure Tick where
  betweenIterations : List StackEvent
  duringSleep : List StackEvent
  gpioPinGetDt : GpioDtSpec → Int
  zbBufGetOutDelayedExt : GpioDtSpec → ZbRet

/-- The pin of `ext_btn_bps[bp_ii]`. -/
def extBtn : Fin 4 → GpioDtSpec
  | 0 => .extBtn1
  | 1 => .extBtn2
  | 2 => .extBtn3
  | 3 => .extBtn4

namespace DongleState

def deliver (s : DongleState) : StackEvent → DongleState
  | .signal sig status =>
      { s with leds := s.leds.zbossSignalHandler sig status }
  | .deviceCb param =>
      { s with bulb := (s.bulb.zclDeviceCb Dongle.setBrightness param).1 }

/-- The status LED block at the top of the loop. -/
def statusLed (s : DongleState) : DongleState :=
  if s.leds.statusOn || s.tempStatusOn then
    let s := { s with
      leds := { s.leds with runStatusLed := s.blinkStatus.tmod 2 != 0 } }
    let s := if s.loopCount.tmod blinkToggle = 0 then
        { s with blinkStatus := s.blinkStatus + 1 }
      else s
    { s with loopCount := s.loopCount + 1 }
  else s

/-- The three branches of `main` for a press of the network button. -/
def nwkRstBtnAction (zbBufGetOutDelayedExt : ZbRet) (duration : Int)
    (s : DongleState) : DongleState × Action :=
  if 8000 < duration then
    (s, .zbBdbResetViaLocalAction)
  else if 1000 < duration then
    ({ s with leds := s.leds.statusPress }, .statusFlip)
  else
    ({ s with bulb := s.bulb.momentaryPress Dongle.setBrightness },
      .levelStep (sendOnOffCmd zbBufGetOutDelayedExt haOnOffSwitchEndpoint1
        zbZclCmdOnOffToggleId))

/-- The network button's part of an iteration. -/
def nwkRstBtnPoll (tick : Tick) (s : DongleState) : DongleState × List Press :=
  let h := s.nwkRstBtnBp.getDebouncedPress tick.gpioPinGetDt
  let s := { s with
    nwkRstBtnBp := h
    tempStatusOn := h.isDebounced && decide (1000 < h.pressTimerMs) }
  if h.hasCompletedPress then
    let (s, action) := s.nwkRstBtnAction (tick.zbBufGetOutDelayedExt .nwkRstBtn)
      h.completedButtonPressThresh
    ({ s with nwkRstBtnBp := h.setButtonPressHandled }, [⟨.nwkRstBtn, action⟩])
  else (s, [])

/-- The command an external button sends for a press of this duration. -/
def extBtnCmd (duration : Int) : UInt16 :=
  if 3000 < duration then zbZclCmdOnOffOffId
  else if 1000 < duration then zbZclCmdOnOffOnId
  else zbZclCmdOnOffToggleId

/-- The endpoint `main` passes for `ext_btn_bps[bp_ii]`. -/
def extBtnEndpoint : Fin 4 → UInt16
  | 0 => haOnOffSwitchEndpoint1
  | 1 => haOnOffSwitchEndpoint2
  | 2 => haOnOffSwitchEndpoint3
  | 3 => haOnOffSwitchEndpoint4

/-- One round of the loop over the external buttons. -/
def extBtnPoll (tick : Tick) (bpIi : Fin 4) (s : DongleState) :
    DongleState × List Press :=
  let h := (s.extBtnBps bpIi).getDebouncedPress tick.gpioPinGetDt
  let s := { s with extBtnBps := Function.update s.extBtnBps bpIi h }
  if h.hasCompletedPress then
    let request := sendOnOffCmd (tick.zbBufGetOutDelayedExt (extBtn bpIi))
      (extBtnEndpoint bpIi) (extBtnCmd h.completedButtonPressThresh)
    ({ s with extBtnBps :=
        Function.update s.extBtnBps bpIi h.setButtonPressHandled },
      [⟨extBtn bpIi, .onOffCmd request⟩])
  else (s, [])

def extBtnLoop (tick : Tick) : List (Fin 4) → DongleState →
    DongleState × List Press
  | [], s => (s, [])
  | bpIi :: rest, s =>
      let (s, presses) := s.extBtnPoll tick bpIi
      let (s, presses') := s.extBtnLoop tick rest
      (s, presses ++ presses')

/-- One iteration of `while (1)`, with the presses it acts on in order. -/
def iteration (tick : Tick) (s : DongleState) : DongleState × List Press :=
  let s := tick.betweenIterations.foldl deliver s
  let s := s.statusLed
  let s := tick.duringSleep.foldl deliver s
  let (s, presses) := s.nwkRstBtnPoll tick
  let (s, presses') := s.extBtnLoop tick [0, 1, 2, 3]
  (s, presses ++ presses')

/-- The handler that polls a pin. -/
def handler (s : DongleState) : GpioDtSpec → ButtonPressHandler
  | .nwkRstBtn => s.nwkRstBtnBp
  | .extBtn1 => s.extBtnBps 0
  | .extBtn2 => s.extBtnBps 1
  | .extBtn3 => s.extBtnBps 2
  | .extBtn4 => s.extBtnBps 3

/-- The state with all five handlers as a run starts with them. -/
def withCleanHandlers (s : DongleState) : DongleState :=
  { s with
    nwkRstBtnBp := .clean .nwkRstBtn runLedBlinkInterval
    extBtnBps := fun bpIi => .clean (extBtn bpIi) runLedBlinkInterval }

/-- The state in which `main` enters the loop.  The handlers keep what `uninit`
held in the fields nobody assigns. -/
def boot (uninit : GpioDtSpec → ButtonPressHandler) (pwm : Dongle.Pwm) :
    DongleState :=
  let handlerOf (gpio : GpioDtSpec) : ButtonPressHandler :=
    { ButtonPressHandler.getButtonPressHandler (uninit gpio) (uninit gpio).gpio
      with gpio := gpio, pollIntervalMs := runLedBlinkInterval }
  { bulb := Bulb.startUp Dongle.setBrightness pwm
    leds := StatusLeds.start
    blinkStatus := 0
    loopCount := 0
    tempStatusOn := false
    nwkRstBtnBp := handlerOf .nwkRstBtn
    extBtnBps := fun bpIi => handlerOf (extBtn bpIi) }

/-- `main` starts with clean handlers if the memory of `is_debounced` happens to
hold `false`. -/
theorem boot_withCleanHandlers {uninit : GpioDtSpec → ButtonPressHandler}
    (hdeb : ∀ gpio, (uninit gpio).isDebounced = false) (pwm : Dongle.Pwm) :
    (boot uninit pwm).withCleanHandlers = boot uninit pwm := by
  simp only [boot, withCleanHandlers,
    ButtonPressHandler.getButtonPressHandler_clean (hdeb _)]

section Run

variable (s : DongleState) (ticks : Nat → Tick)

/-- The state before iteration `n` of a run with clean handlers in place of
those of `s`. -/
def stateAt (n : Nat) : DongleState :=
  Runs.stateAt (fun s tick => (s.iteration tick).1) s.withCleanHandlers ticks n

/-- The presses `main` acts on in iteration `n`. -/
def pressesAt (n : Nat) : List Press :=
  ((s.stateAt ticks n).iteration (ticks n)).2

end Run

/-! ### The five handlers run side by side -/

@[simp] theorem handler_extBtn (s : DongleState) (bpIi : Fin 4) :
    s.handler (extBtn bpIi) = s.extBtnBps bpIi := by
  match bpIi with
  | 0 | 1 | 2 | 3 => rfl

/-- The buttons in the order `main` polls them. -/
def buttons : List GpioDtSpec :=
  [.nwkRstBtn, .extBtn1, .extBtn2, .extBtn3, .extBtn4]

theorem deliver_handler (s : DongleState) (e : StackEvent) :
    (s.deliver e).handler = s.handler := by
  cases e <;> (funext b; cases b <;> rfl)

theorem statusLed_handler (s : DongleState) :
    s.statusLed.handler = s.handler := by
  funext b
  cases b <;> simp only [statusLed] <;> split_ifs <;> rfl

theorem nwkRstBtnAction_handlers (ret : ZbRet) (duration : Int)
    (s : DongleState) :
    (s.nwkRstBtnAction ret duration).1.nwkRstBtnBp = s.nwkRstBtnBp ∧
      (s.nwkRstBtnAction ret duration).1.extBtnBps = s.extBtnBps := by
  simp only [nwkRstBtnAction]
  split_ifs <;> exact ⟨rfl, rfl⟩

/-- What `main` does about a press, by its button and its duration. -/
def actionOf (tick : Tick) (duration : Int) : GpioDtSpec → Action
  | .nwkRstBtn =>
      if 8000 < duration then .zbBdbResetViaLocalAction
      else if 1000 < duration then .statusFlip
      else .levelStep (some ⟨.lightSwitchSendOnOff1, zbZclCmdOnOffToggleId,
        tick.zbBufGetOutDelayedExt .nwkRstBtn⟩)
  | .extBtn1 => .onOffCmd (some ⟨.lightSwitchSendOnOff1, extBtnCmd duration,
      tick.zbBufGetOutDelayedExt .extBtn1⟩)
  | .extBtn2 => .onOffCmd (some ⟨.lightSwitchSendOnOff2, extBtnCmd duration,
      tick.zbBufGetOutDelayedExt .extBtn2⟩)
  | .extBtn3 => .onOffCmd (some ⟨.lightSwitchSendOnOff3, extBtnCmd duration,
      tick.zbBufGetOutDelayedExt .extBtn3⟩)
  | .extBtn4 => .onOffCmd (some ⟨.lightSwitchSendOnOff4, extBtnCmd duration,
      tick.zbBufGetOutDelayedExt .extBtn4⟩)

/-- The endpoint and the command `main` passes for an external button select
the callback of that button. -/
theorem actionOf_extBtn (tick : Tick) (duration : Int) (bpIi : Fin 4) :
    actionOf tick duration (extBtn bpIi) =
      .onOffCmd (sendOnOffCmd (tick.zbBufGetOutDelayedExt (extBtn bpIi))
        (extBtnEndpoint bpIi) (extBtnCmd duration)) := by
  match bpIi with
  | 0 | 1 | 2 | 3 => rfl

/-- The press an iteration acts on for one button, if any. -/
def pressOf (tick : Tick) (h : ButtonPressHandler) (button : GpioDtSpec) :
    Option Press :=
  (h.completedPress tick.gpioPinGetDt).map fun duration =>
    ⟨button, actionOf tick duration button⟩

theorem nwkRstBtnPoll_spec (tick : Tick) (s : DongleState) :
    (s.nwkRstBtnPoll tick).1.nwkRstBtnBp =
        s.nwkRstBtnBp.poll tick.gpioPinGetDt ∧
      (s.nwkRstBtnPoll tick).1.extBtnBps = s.extBtnBps ∧
      (s.nwkRstBtnPoll tick).2 =
        (pressOf tick s.nwkRstBtnBp .nwkRstBtn).toList := by
  by_cases h :
      (s.nwkRstBtnBp.getDebouncedPress tick.gpioPinGetDt).hasCompletedPress
  · simp only [nwkRstBtnPoll, h, if_true, pressOf,
      ButtonPressHandler.completedPress, ButtonPressHandler.poll]
    refine ⟨trivial, ?_, ?_⟩
    · exact (nwkRstBtnAction_handlers _ _ _).2
    · simp only [nwkRstBtnAction, Option.map_some, Option.toList_some, actionOf]
      split_ifs <;> rfl
  · simp [nwkRstBtnPoll, h, pressOf, ButtonPressHandler.completedPress,
      ButtonPressHandler.poll]

theorem extBtnPoll_spec (tick : Tick) (bpIi : Fin 4) (s : DongleState) :
    (s.extBtnPoll tick bpIi).1.nwkRstBtnBp = s.nwkRstBtnBp ∧
      (s.extBtnPoll tick bpIi).1.extBtnBps = Function.update s.extBtnBps bpIi
        ((s.extBtnBps bpIi).poll tick.gpioPinGetDt) ∧
      (s.extBtnPoll tick bpIi).2 =
        (pressOf tick (s.extBtnBps bpIi) (extBtn bpIi)).toList := by
  by_cases h :
      ((s.extBtnBps bpIi).getDebouncedPress tick.gpioPinGetDt).hasCompletedPress
  · simp only [extBtnPoll, h, if_true, pressOf,
      ButtonPressHandler.completedPress, ButtonPressHandler.poll,
      Function.update_idem, Option.map_some, Option.toList_some,
      actionOf_extBtn]
    exact ⟨trivial, trivial, trivial⟩
  · simp [extBtnPoll, h, pressOf, ButtonPressHandler.completedPress,
      ButtonPressHandler.poll]

/-- Over distinct buttons the loop polls each handler once. -/
theorem extBtnLoop_spec (tick : Tick) (rest : List (Fin 4)) (hrest : rest.Nodup)
    (s : DongleState) :
    (s.extBtnLoop tick rest).1.nwkRstBtnBp = s.nwkRstBtnBp ∧
      (∀ bpIi, bpIi ∈ rest → (s.extBtnLoop tick rest).1.extBtnBps bpIi =
        (s.extBtnBps bpIi).poll tick.gpioPinGetDt) ∧
      (∀ bpIi, bpIi ∉ rest → (s.extBtnLoop tick rest).1.extBtnBps bpIi =
        s.extBtnBps bpIi) ∧
      (s.extBtnLoop tick rest).2 = rest.filterMap fun bpIi =>
        pressOf tick (s.extBtnBps bpIi) (extBtn bpIi) := by
  induction rest generalizing s with
  | nil => simp [extBtnLoop]
  | cons first rest ih =>
      obtain ⟨hfirst, hnodup⟩ := List.nodup_cons.mp hrest
      obtain ⟨hnwk, hext, hpress⟩ := extBtnPoll_spec tick first s
      obtain ⟨hnwk', hpolled, hkept, hpress'⟩ :=
        ih hnodup (s.extBtnPoll tick first).1
      have hother : ∀ bpIi, bpIi ≠ first →
          (s.extBtnPoll tick first).1.extBtnBps bpIi = s.extBtnBps bpIi := by
        intro bpIi hne
        rw [hext, Function.update_of_ne hne]
      have hrestNe : ∀ bpIi, bpIi ∈ rest → bpIi ≠ first :=
        fun bpIi hmem heq => hfirst (heq ▸ hmem)
      refine ⟨hnwk'.trans hnwk, ?_, ?_, ?_⟩
      · intro bpIi hmem
        rcases List.mem_cons.mp hmem with heq | hmem
        · subst heq
          exact (hkept bpIi hfirst).trans (by rw [hext, Function.update_self])
        · exact (hpolled bpIi hmem).trans
            (by rw [hother bpIi (hrestNe bpIi hmem)])
      · intro bpIi hnot
        rw [List.mem_cons, not_or] at hnot
        exact (hkept bpIi hnot.2).trans (hother bpIi hnot.1)
      · change (s.extBtnPoll tick first).2 ++
          ((s.extBtnPoll tick first).1.extBtnLoop tick rest).2 = _
        have hsame : ∀ bpIi, bpIi ∈ rest →
            pressOf tick ((s.extBtnPoll tick first).1.extBtnBps bpIi)
              (extBtn bpIi) = pressOf tick (s.extBtnBps bpIi) (extBtn bpIi) := by
          intro bpIi hmem
          rw [hother bpIi (hrestNe bpIi hmem)]
        rw [hpress, hpress', List.filterMap_cons, List.filterMap_congr hsame]
        cases pressOf tick (s.extBtnBps first) (extBtn first) <;> rfl

/-- The external buttons change their own handlers only. -/
theorem extBtnLoop_frame (tick : Tick) (rest : List (Fin 4)) (s : DongleState) :
    ∃ bps, (s.extBtnLoop tick rest).1 = { s with extBtnBps := bps } := by
  induction rest generalizing s with
  | nil => exact ⟨s.extBtnBps, rfl⟩
  | cons first rest ih =>
      have hpoll : ∃ bps, (s.extBtnPoll tick first).1 =
          { s with extBtnBps := bps } := by
        simp only [extBtnPoll]
        split
        · exact ⟨_, rfl⟩
        · exact ⟨_, rfl⟩
      rcases hpoll with ⟨bps, hpoll⟩
      rcases ih (s.extBtnPoll tick first).1 with ⟨bps', hloop⟩
      exact ⟨bps', hloop.trans (by rw [hpoll])⟩

/-- Until the polls of an iteration no handler changes. -/
theorem awake_handler (tick : Tick) (s : DongleState) :
    (tick.duringSleep.foldl deliver
      (tick.betweenIterations.foldl deliver s).statusLed).handler =
        s.handler := by
  rw [Runs.foldl_frame handler deliver_handler, statusLed_handler,
    Runs.foldl_frame handler deliver_handler]

/-- One iteration polls every handler once, and acts on the completed presses in
the order of the buttons. -/
theorem iteration_spec (tick : Tick) (s : DongleState) :
    (∀ b, (s.iteration tick).1.handler b =
        (s.handler b).poll tick.gpioPinGetDt) ∧
      (s.iteration tick).2 =
        buttons.filterMap fun b => pressOf tick (s.handler b) b := by
  let awake := tick.duringSleep.foldl deliver
    (tick.betweenIterations.foldl deliver s).statusLed
  have hawake : awake.handler = s.handler := awake_handler tick s
  obtain ⟨hnwk, hext, hpress⟩ := nwkRstBtnPoll_spec tick awake
  obtain ⟨hnwk', hext', -, hpress'⟩ := extBtnLoop_spec tick [0, 1, 2, 3]
    (by decide) (awake.nwkRstBtnPoll tick).1
  rw [hext] at hext' hpress'
  have hbps : ∀ bpIi, awake.extBtnBps bpIi = s.handler (extBtn bpIi) := by
    intro bpIi
    rw [← hawake, handler_extBtn]
  have hpolled : ∀ bpIi, (s.iteration tick).1.handler (extBtn bpIi) =
      (s.handler (extBtn bpIi)).poll tick.gpioPinGetDt := by
    intro bpIi
    rw [handler_extBtn, ← hbps bpIi]
    have hmem : ∀ bpIi : Fin 4, bpIi ∈ [0, 1, 2, 3] := by decide
    exact hext' bpIi (hmem bpIi)
  constructor
  · intro b
    cases b with
    | nwkRstBtn =>
        rw [← hawake]
        exact hnwk'.trans hnwk
    | extBtn1 => exact hpolled 0
    | extBtn2 => exact hpolled 1
    | extBtn3 => exact hpolled 2
    | extBtn4 => exact hpolled 3
  · change (awake.nwkRstBtnPoll tick).2 ++
      ((awake.nwkRstBtnPoll tick).1.extBtnLoop tick [0, 1, 2, 3]).2 = _
    have hnwkBp : awake.nwkRstBtnBp = s.handler .nwkRstBtn :=
      congrFun hawake .nwkRstBtn
    rw [hpress, hpress', hnwkBp]
    simp only [hbps]
    simp only [buttons, List.filterMap_cons (a := GpioDtSpec.nwkRstBtn)]
    cases pressOf tick (s.handler .nwkRstBtn) .nwkRstBtn <;> rfl

/-- Along a run every handler runs on its own, on the samples of its own pin. -/
theorem stateAt_handler (s : DongleState) (ticks : Nat → Tick) (n : Nat)
    (b : GpioDtSpec) :
    (s.stateAt ticks n).handler b =
      ButtonPressHandler.handlerAt runLedBlinkInterval b
        (fun m => (ticks m).gpioPinGetDt) n := by
  have hstart : s.withCleanHandlers.handler b =
      .clean b runLedBlinkInterval := by
    cases b <;> rfl
  rw [ButtonPressHandler.handlerAt, ← hstart]
  exact Runs.stateAt_proj (fun h pins => h.poll pins) (fun _ => True)
    (fun s => s.handler b) Tick.gpioPinGetDt trivial (fun _ _ _ => trivial)
    (fun s tick _ => (iteration_spec tick s).1 b) ticks n

end DongleState

end ZbLightbulb
