/-
Whole runs of the main loop: every completed press is acted on once, in order and
by its duration, and what becomes of a press whose command gets no buffer.
-/
import ZbLightbulb.DongleMain

namespace ZbLightbulb

open BoolStream

/-- The command `cmdId`, sent from `endpoint`, for which the stack returned
`zbErrCode`. -/
def OnOffRequest.IsFor (endpoint cmdId : UInt16) (zbErrCode : ZbRet)
    (r : OnOffRequest) : Prop :=
  r.callback.endpoint = endpoint ∧ r.cmdId = cmdId ∧ r.zbErrCode = zbErrCode

/-- The call of `zb_buf_get_out_delayed_ext` made for a press. -/
def Press.request (press : Press) : Option OnOffRequest :=
  match press.action with
  | .zbBdbResetViaLocalAction => none
  | .statusFlip => none
  | .levelStep request => request
  | .onOffCmd request => request

namespace DongleState

variable (s : DongleState) (ticks : Nat → Tick)

/-- `is_debounced` of the handler of `b` before iteration `n`. -/
def debouncedAt (b : GpioDtSpec) (n : Nat) : Bool :=
  ((s.stateAt ticks n).handler b).isDebounced

theorem debouncedAt_eq (b : GpioDtSpec) :
    s.debouncedAt ticks b =
      ButtonPressHandler.debouncedAt runLedBlinkInterval b
        (fun m => (ticks m).gpioPinGetDt) := by
  funext n
  rw [debouncedAt, stateAt_handler]
  rfl

theorem handler_ready (b : GpioDtSpec) (n : Nat) :
    ((s.stateAt ticks n).handler b).Ready runLedBlinkInterval := by
  rw [stateAt_handler]
  exact ButtonPressHandler.handlerAt_ready runLedBlinkInterval_pos n

/-- The presses of an iteration, handler by handler. -/
theorem pressesAt_eq (n : Nat) :
    s.pressesAt ticks n = buttons.filterMap fun b =>
      (ButtonPressHandler.pressAt runLedBlinkInterval b
        (fun m => (ticks m).gpioPinGetDt) n).map fun duration =>
          ⟨b, actionOf (ticks n) duration b⟩ := by
  rw [pressesAt, (iteration_spec _ _).2]
  simp only [pressOf, stateAt_handler]
  rfl

theorem mem_pressesAt {n : Nat} {press : Press} :
    press ∈ s.pressesAt ticks n ↔
      ∃ duration, ButtonPressHandler.pressAt runLedBlinkInterval press.button
          (fun m => (ticks m).gpioPinGetDt) n = some duration ∧
        press.action = actionOf (ticks n) duration press.button := by
  have hall : ∀ b, b ∈ buttons := by
    intro b
    cases b <;> decide
  rw [pressesAt_eq, List.mem_filterMap]
  constructor
  · rintro ⟨b, _, hb⟩
    obtain ⟨duration, hduration, rfl⟩ := Option.map_eq_some_iff.mp hb
    exact ⟨duration, hduration, rfl⟩
  · rintro ⟨duration, hduration, haction⟩
    refine ⟨press.button, hall press.button, ?_⟩
    rw [hduration, Option.map_some, ← haction]

/-- `main` acts on a press of a button in the iterations that end one. -/
theorem exists_press_iff {n : Nat} {b : GpioDtSpec} :
    (∃ press ∈ s.pressesAt ticks n, press.button = b) ↔
      ((s.stateAt ticks n).handler b).Completing (ticks n).gpioPinGetDt := by
  have hnone : (((s.stateAt ticks n).handler b).completedPress
        (ticks n).gpioPinGetDt = none ↔ _) :=
    (s.handler_ready ticks b n).completedPress_eq_none_iff
      runLedBlinkInterval_pos
  rw [ButtonPressHandler.poll_falls_iff] at hnone
  rw [← not_iff_not, ← hnone, stateAt_handler]
  simp only [mem_pressesAt, not_exists, not_and]
  constructor
  · intro hpress
    by_contra hne
    rcases Option.ne_none_iff_exists'.mp hne with ⟨duration, hduration⟩
    exact hpress ⟨b, actionOf (ticks n) duration b⟩ ⟨duration, hduration, rfl⟩
      rfl
  · rintro hpress press ⟨duration, hduration, _⟩ hbutton
    rw [hbutton] at hduration
    exact Option.some_ne_none _ (hduration.symm.trans hpress)

/-! ### Exactly one action for every completed press -/

/-- What a press of `duration` ms should make `main` do.  The network button
resets the network, flips the status display, or steps the level and toggles
from endpoint 12; external button `k` sends its command from endpoint
`11 + k`. -/
def HandledAs (zbErrCode : ZbRet) (duration : Int) :
    GpioDtSpec → Action → Prop
  | .nwkRstBtn, action =>
      if 8000 < duration then action = .zbBdbResetViaLocalAction
      else if 1000 < duration then action = .statusFlip
      else ∃ r, action = .levelStep (some r) ∧ r.IsFor 12 0x02 zbErrCode
  | .extBtn1, action => SendsFrom 12 action
  | .extBtn2, action => SendsFrom 13 action
  | .extBtn3, action => SendsFrom 14 action
  | .extBtn4, action => SendsFrom 15 action
where
  /-- OFF above 3000 ms, ON above 1000 ms, TOGGLE otherwise. -/
  SendsFrom (endpoint : UInt16) (action : Action) : Prop :=
    ∃ r, action = .onOffCmd (some r) ∧
      r.IsFor endpoint
        (if 3000 < duration then 0x00 else if 1000 < duration then 0x01
          else 0x02)
        zbErrCode

theorem actionOf_handledAs (tick : Tick) (duration : Int) (b : GpioDtSpec) :
    HandledAs (tick.zbBufGetOutDelayedExt b) duration b
      (actionOf tick duration b) := by
  cases b with
  | nwkRstBtn =>
      simp only [HandledAs, actionOf]
      split_ifs
      · trivial
      · trivial
      · exact ⟨_, rfl, rfl, rfl, rfl⟩
  | extBtn1 => exact ⟨_, rfl, rfl, rfl, rfl⟩
  | extBtn2 => exact ⟨_, rfl, rfl, rfl, rfl⟩
  | extBtn3 => exact ⟨_, rfl, rfl, rfl, rfl⟩
  | extBtn4 => exact ⟨_, rfl, rfl, rfl, rfl⟩

/-- From clean handlers, on any samples and any work of the Zigbee thread: after
every iteration no press waits and an idle press timer is zero; the presses of
iteration `n` are those of the handlers whose `is_debounced` falls in it, in
the order of the buttons; and each is handled by the time between its two
debounced edges. -/
theorem iteration_dispatches (n : Nat) :
    (∀ b, let h := (s.stateAt ticks (n + 1)).handler b
      h.pressHandled = true ∧ h.completedButtonPressThresh = 0 ∧
        (h.isDebounced = false → h.pressTimerMs = 0)) ∧
    (s.pressesAt ticks n).map Press.button =
      buttons.filter (fun b =>
        s.debouncedAt ticks b n && !s.debouncedAt ticks b (n + 1)) ∧
    ∀ press ∈ s.pressesAt ticks n, ∃ rise,
      Pulse (s.debouncedAt ticks press.button) rise n ∧
        HandledAs ((ticks n).zbBufGetOutDelayedExt press.button)
          (25 * (n - rise : Int)) press.button press.action := by
  have hp := runLedBlinkInterval_pos
  refine ⟨?_, ?_, ?_⟩
  · intro b
    have hready := s.handler_ready ticks b (n + 1)
    exact ⟨hready.handled, hready.completed, hready.timer_idle⟩
  · rw [pressesAt_eq, List.map_filterMap, ← List.filterMap_eq_filter]
    apply List.filterMap_congr
    intro b _
    simp only [debouncedAt_eq]
    cases hpress : ButtonPressHandler.pressAt runLedBlinkInterval b
        (fun m => (ticks m).gpioPinGetDt) n with
    | none =>
        have hnot := (ButtonPressHandler.pressAt_eq_none_iff hp n).mp hpress
        rw [Option.map_none, Option.map_none, eq_comm,
          Option.guard_eq_none_iff]
        simpa using hnot
    | some duration =>
        obtain ⟨rise, hpulse, _⟩ :=
          (ButtonPressHandler.pressAt_eq_some_iff hp).mp hpress
        rw [Option.map_some, Option.map_some, eq_comm,
          Option.guard_eq_some_iff]
        simp [hpulse.high_last, hpulse.falls]
  · intro press hmem
    obtain ⟨duration, hpress, haction⟩ := (mem_pressesAt s ticks).mp hmem
    obtain ⟨rise, hpulse, rfl⟩ :=
      (ButtonPressHandler.pressAt_eq_some_iff hp).mp hpress
    rw [debouncedAt_eq, haction]
    exact ⟨rise, hpulse, actionOf_handledAs (ticks n) _ press.button⟩

/-! ### A command that gets no buffer -/

/-- The presses handled before iteration `n`, in order. -/
def pressesBefore (n : Nat) : List Press :=
  (List.range n).flatMap (s.pressesAt ticks)

/-- The accepted commands of an endpoint before iteration `n`. -/
def acceptedBefore (endpoint : UInt16) (n : Nat) : Nat :=
  (s.pressesBefore ticks n).countP fun press =>
    press.request.any fun r =>
      decide (r.callback.endpoint = endpoint) && decide r.Accepted

/-- The presses of a button marked handled before iteration `n`. -/
def handledBefore (b : GpioDtSpec) (n : Nat) : Nat :=
  (s.pressesBefore ticks n).countP fun press => decide (press.button = b)

/-- No press of an external button is lost to a full buffer pool: it is marked
handled only in an iteration in which its command is accepted, so that the
endpoints of the buttons 2 to 4 count as many accepted commands as their
buttons count handled presses. -/
structure KeepsPresses : Prop where
  accepted : ∀ n, ∀ press ∈ s.pressesAt ticks n, press.button ≠ .nwkRstBtn →
    ∃ r, press.request = some r ∧ r.Accepted
  conserved : ∀ bpIi : Fin 4, bpIi ≠ 0 → ∀ n,
    s.acceptedBefore ticks (extBtnEndpoint bpIi) n =
      s.handledBefore ticks (extBtn bpIi) n

theorem sendOnOffCmd_extBtnEndpoint (ret : ZbRet) (bpIi : Fin 4)
    (cmdId : UInt16) :
    ∃ callback, sendOnOffCmd ret (extBtnEndpoint bpIi) cmdId =
        some ⟨callback, cmdId, ret⟩ ∧
      callback.endpoint = extBtnEndpoint bpIi := by
  match bpIi with
  | 0 | 1 | 2 | 3 => exact ⟨_, rfl, rfl⟩

theorem extBtn_ne_nwkRstBtn (bpIi : Fin 4) : extBtn bpIi ≠ .nwkRstBtn := by
  match bpIi with
  | 0 | 1 | 2 | 3 => decide

theorem exists_extBtn {b : GpioDtSpec} (h : b ≠ .nwkRstBtn) :
    ∃ bpIi, b = extBtn bpIi := by
  cases b with
  | nwkRstBtn => contradiction
  | extBtn1 => exact ⟨0, rfl⟩
  | extBtn2 => exact ⟨1, rfl⟩
  | extBtn3 => exact ⟨2, rfl⟩
  | extBtn4 => exact ⟨3, rfl⟩

/-- The command of a press of an external button, with the result the stack
returned for it. -/
theorem request_of_mem_pressesAt {n : Nat} {press : Press}
    (hmem : press ∈ s.pressesAt ticks n) {bpIi : Fin 4}
    (hbutton : press.button = extBtn bpIi) :
    ∃ r, press.request = some r ∧
      r.callback.endpoint = extBtnEndpoint bpIi ∧
      r.zbErrCode = (ticks n).zbBufGetOutDelayedExt (extBtn bpIi) := by
  obtain ⟨duration, _, haction⟩ := (mem_pressesAt s ticks).mp hmem
  obtain ⟨callback, hsend, hendpoint⟩ := sendOnOffCmd_extBtnEndpoint
    ((ticks n).zbBufGetOutDelayedExt (extBtn bpIi)) bpIi (extBtnCmd duration)
  rw [hbutton, actionOf_extBtn, hsend] at haction
  exact ⟨_, by rw [Press.request, haction], hendpoint, rfl⟩

/-- A press of the network button sends from endpoint 12, if at all. -/
theorem endpoint_of_nwkRstBtn {n : Nat} {press : Press}
    (hmem : press ∈ s.pressesAt ticks n) (hbutton : press.button = .nwkRstBtn)
    {r : OnOffRequest} (hr : press.request = some r) :
    r.callback.endpoint = haOnOffSwitchEndpoint1 := by
  obtain ⟨duration, _, haction⟩ := (mem_pressesAt s ticks).mp hmem
  rw [Press.request, haction, hbutton] at hr
  simp only [actionOf] at hr
  split_ifs at hr
  simp only [Option.some.injEq] at hr
  rw [← hr]
  rfl

theorem extBtnEndpoint_eq_iff (i j : Fin 4) :
    extBtnEndpoint i = extBtnEndpoint j ↔ extBtn i = extBtn j := by
  revert i j
  decide

/-- If every handled press had its command accepted, the counts agree. -/
theorem conserved_of_accepted
    (haccepted : ∀ n, ∀ press ∈ s.pressesAt ticks n,
      press.button ≠ .nwkRstBtn → ∃ r, press.request = some r ∧ r.Accepted)
    {bpIi : Fin 4} (hbpIi : bpIi ≠ 0) (n : Nat) :
    s.acceptedBefore ticks (extBtnEndpoint bpIi) n =
      s.handledBefore ticks (extBtn bpIi) n := by
  apply List.countP_congr
  intro press hmem
  obtain ⟨m, _, hmem⟩ := List.mem_flatMap.mp hmem
  by_cases hbutton : press.button = .nwkRstBtn
  · have hne := extBtn_ne_nwkRstBtn bpIi
    have hendpoint : extBtnEndpoint bpIi ≠ haOnOffSwitchEndpoint1 := by
      revert bpIi
      decide
    cases hr : press.request with
    | none => simp [hbutton, hne.symm]
    | some r =>
        have h12 := s.endpoint_of_nwkRstBtn ticks hmem hbutton hr
        simp [hbutton, hne.symm, h12, hendpoint.symm]
  · obtain ⟨own, hown⟩ := exists_extBtn hbutton
    obtain ⟨r, hr, hendpoint, _⟩ := s.request_of_mem_pressesAt ticks hmem hown
    obtain ⟨r', hr', hacc⟩ := haccepted m press hmem hbutton
    rw [hr, Option.some.injEq] at hr'
    subst hr'
    simp [hr, hacc, hown, hendpoint, extBtnEndpoint_eq_iff]

/-- `send_on_off_cmd` drops the result of the stack, and `main` marks the press
handled whatever it was.  A run keeps every press exactly if the stack has a
buffer in each iteration in which a press of an external button ends. -/
theorem keepsPresses_iff :
    s.KeepsPresses ticks ↔ ∀ n (bpIi : Fin 4),
      ((s.stateAt ticks n).handler (extBtn bpIi)).Completing
          (ticks n).gpioPinGetDt →
        (ticks n).zbBufGetOutDelayedExt (extBtn bpIi) = retOk := by
  constructor
  · intro hkeeps n bpIi hending
    rcases (s.exists_press_iff ticks).mpr hending with ⟨press, hmem, hbutton⟩
    rcases s.request_of_mem_pressesAt ticks hmem hbutton with ⟨r, hr, _, hcode⟩
    have hne : press.button ≠ .nwkRstBtn := by
      rw [hbutton]
      exact extBtn_ne_nwkRstBtn bpIi
    rcases hkeeps.accepted n press hmem hne with ⟨r', hr', hacc⟩
    rw [hr, Option.some.injEq] at hr'
    rw [← hcode, hr']
    exact hacc
  · intro hbuffer
    have haccepted : ∀ n, ∀ press ∈ s.pressesAt ticks n,
        press.button ≠ .nwkRstBtn →
          ∃ r, press.request = some r ∧ r.Accepted := by
      intro n press hmem hbutton
      rcases exists_extBtn hbutton with ⟨bpIi, hext⟩
      rcases s.request_of_mem_pressesAt ticks hmem hext with ⟨r, hr, _, hcode⟩
      have hending := (s.exists_press_iff ticks).mp ⟨press, hmem, hext⟩
      exact ⟨r, hr, hcode.trans (hbuffer n bpIi hending)⟩
    exact ⟨haccepted, fun bpIi hbpIi n =>
      s.conserved_of_accepted ticks haccepted hbpIi n⟩

/-- Button 2 is pressed for 100 ms while the buffer pool is empty:
the press is marked handled and no command is accepted. -/
theorem not_keepsPresses_no_buffer :
    ¬ ∀ (s : DongleState) (ticks : Nat → Tick), s.KeepsPresses ticks := by
  intro h
  have hcount := (h
    (boot (fun gpio => .clean gpio 25) { ledPulse := 0, pinPulse := 0 })
    fun n =>
      { betweenIterations := []
        duringSleep := []
        gpioPinGetDt := fun gpio => if gpio = .extBtn2 ∧ n < 4 then 1 else 0
        zbBufGetOutDelayedExt := fun _ => -1 }).conserved 1 (by decide) 9
  revert hcount
  decide

end DongleState

end ZbLightbulb
