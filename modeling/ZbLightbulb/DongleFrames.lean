/-
From a press of the dongle to the frame on the air.  An accepted command waits
for a buffer of the stack, and its callback then sends it to the address in
`bulb_ctx`, which nothing assigns.
-/
import ZbLightbulb.Lib.Outputs
import ZbLightbulb.PressCode

namespace ZbLightbulb

open BoolStream

/-- `struct bulb_context` of the dongle, less the timer, which nothing uses. -/
structure DongleBulbContext where
  endpoint : UInt8
  shortAddr : UInt16
deriving DecidableEq, Repr

/-- `bulb_ctx` is static and no code assigns it. -/
def bulbCtx : DongleBulbContext where
  endpoint := 0
  shortAddr := 0

/-- What `ZB_ZCL_ON_OFF_SEND_REQ` is given. -/
structure OnOffFrame where
  dstAddr : UInt16
  dstEndpoint : UInt8
  srcEndpoint : UInt16
  cmdId : UInt16
deriving DecidableEq, Repr

def lightSwitchSendOnOffOnEndpoint (cmdId endpoint : UInt16) : OnOffFrame :=
  ⟨bulbCtx.shortAddr, bulbCtx.endpoint, endpoint, cmdId⟩

/-- The four callbacks `light_switch_send_on_off_1` to `_4`. -/
def SendCallback.run (callback : SendCallback) (cmdId : UInt16) : OnOffFrame :=
  lightSwitchSendOnOffOnEndpoint cmdId callback.endpoint

/-- The frame a request becomes when its callback runs. -/
def OnOffRequest.frame (r : OnOffRequest) : OnOffFrame :=
  r.callback.run r.cmdId

/-- The request of a press, if the stack has accepted it. -/
def Press.accepted (press : Press) : Option OnOffRequest :=
  press.request.filter fun r => decide r.Accepted

/-- The main loop, and the requests whose callbacks wait for a buffer. -/
structure DongleRadio where
  dongle : DongleState
  delayed : List OnOffRequest

/-- What an iteration meets, and which of the callbacks the stack has a buffer
for before `main` acts on the presses of the iteration. -/
structure RadioTick where
  tick : Tick
  runs : List Nat

namespace DongleRadio

/-- The stack runs callbacks that wait, one after the other: those that have
run, and those that still wait. -/
def runDelayed :
    List Nat → List OnOffRequest → List OnOffRequest × List OnOffRequest
  | [], delayed => ([], delayed)
  | index :: rest, delayed =>
      match delayed[index]? with
      | none => runDelayed rest delayed
      | some r =>
          let (ran, waiting) := runDelayed rest (delayed.eraseIdx index)
          (r :: ran, waiting)

/-- The requests an iteration puts into the queue. -/
def queues (s : DongleRadio) (t : RadioTick) : List OnOffRequest :=
  (s.dongle.iteration t.tick).2.filterMap Press.accepted

/-- The requests whose callbacks run in an iteration. -/
def ran (s : DongleRadio) (t : RadioTick) : List OnOffRequest :=
  (runDelayed t.runs s.delayed).1

def iteration (s : DongleRadio) (t : RadioTick) : DongleRadio where
  dongle := (s.dongle.iteration t.tick).1
  delayed := (runDelayed t.runs s.delayed).2 ++ s.queues t

theorem runDelayed_perm (runs : List Nat) (delayed : List OnOffRequest) :
    delayed.Perm
      ((runDelayed runs delayed).1 ++ (runDelayed runs delayed).2) := by
  induction runs generalizing delayed with
  | nil => exact List.Perm.refl _
  | cons index rest ih =>
      rw [runDelayed]
      cases hget : delayed[index]? with
      | none => exact ih delayed
      | some r =>
          have htaken := Runs.eraseIdx_perm delayed index
          rw [hget] at htaken
          exact htaken.trans ((ih (delayed.eraseIdx index)).cons r)

theorem conserves :
    Runs.Conserves iteration DongleRadio.delayed queues ran := by
  intro s t
  have hruns := (runDelayed_perm t.runs s.delayed).append_right (s.queues t)
  rw [List.append_assoc] at hruns
  exact hruns

/-! ### Runs -/

section Run

variable (s : DongleState) (ticks : Nat → RadioTick)

/-- The state before iteration `n` of a run with clean handlers and nothing in
the queue. -/
def stateAt (n : Nat) : DongleRadio :=
  Runs.stateAt iteration ⟨s.withCleanHandlers, []⟩ ticks n

/-- The requests whose callbacks have run before iteration `n`. -/
def ranBefore (n : Nat) : List OnOffRequest :=
  (List.range n).flatMap fun m => (stateAt s ticks m).ran (ticks m)

/-- The frames sent before iteration `n`, in order. -/
def sentBefore (n : Nat) : List OnOffFrame :=
  (ranBefore s ticks n).map OnOffRequest.frame

/-- The frames of the callbacks that wait before iteration `n`. -/
def waitingAt (n : Nat) : List OnOffFrame :=
  (stateAt s ticks n).delayed.map OnOffRequest.frame

/-- What the main loop alone makes of the run. -/
abbrev loopTicks (m : Nat) : Tick := (ticks m).tick

/-- The frames of the presses handled before iteration `n`. -/
def acceptedBefore (n : Nat) : List OnOffFrame :=
  ((s.pressesBefore (loopTicks ticks) n).filterMap Press.accepted).map
    OnOffRequest.frame

theorem stateAt_dongle (n : Nat) :
    (stateAt s ticks n).dongle = s.stateAt (loopTicks ticks) n :=
  Runs.stateAt_proj (fun s tick => (DongleState.iteration tick s).1)
    (fun _ => True) DongleRadio.dongle RadioTick.tick trivial
    (fun _ _ _ => trivial) (fun _ _ _ => rfl) ticks n

/-- The frames of the handled presses have been sent or wait. -/
theorem acceptedBefore_perm (n : Nat) : (acceptedBefore s ticks n).Perm
    (sentBefore s ticks n ++ waitingAt s ticks n) := by
  have hperm := conserves.stateAt ⟨s.withCleanHandlers, []⟩ ticks n
  have hqueued : ((List.range n).flatMap fun m =>
      (stateAt s ticks m).queues (ticks m)) =
        (s.pressesBefore (loopTicks ticks) n).filterMap Press.accepted := by
    rw [DongleState.pressesBefore, List.filterMap_flatMap]
    simp only [queues, stateAt_dongle]
    rfl
  rw [acceptedBefore, ← hqueued, sentBefore, waitingAt, ← List.map_append]
  exact hperm.map OnOffRequest.frame

/-! ### Which press sends what -/

/-- The frame a press of `duration` ms should send, from the endpoint of its
button to endpoint 0 of the coordinator: TOGGLE, or above 1000 ms ON and above
3000 ms OFF.  The network button sends only TOGGLE, for a momentary press. -/
def frameOf (duration : Int) : GpioDtSpec → Option OnOffFrame
  | .nwkRstBtn => if 1000 < duration then none else some ⟨0, 0, 12, 0x02⟩
  | .extBtn1 => some ⟨0, 0, 12, extCmd⟩
  | .extBtn2 => some ⟨0, 0, 13, extCmd⟩
  | .extBtn3 => some ⟨0, 0, 14, extCmd⟩
  | .extBtn4 => some ⟨0, 0, 15, extCmd⟩
where
  extCmd : UInt16 :=
    if 3000 < duration then 0x00 else if 1000 < duration then 0x01 else 0x02

/-- What a press handled by its duration sends. -/
theorem accepted_handledAs {duration : Int} {b : GpioDtSpec} {action : Action}
    (h : DongleState.HandledAs retOk duration b action) :
    (Press.accepted ⟨b, action⟩).map OnOffRequest.frame =
      frameOf duration b := by
  have hsend : ∀ {endpoint cmdId : UInt16} {r : OnOffRequest},
      r.IsFor endpoint cmdId retOk →
        ((some r).filter fun r => decide r.Accepted).map OnOffRequest.frame =
          some ⟨0, 0, endpoint, cmdId⟩ := by
    rintro endpoint cmdId r ⟨rfl, rfl, hcode⟩
    simp [Option.filter, OnOffRequest.Accepted, hcode]
    rfl
  cases b with
  | nwkRstBtn =>
      simp only [DongleState.HandledAs] at h
      split_ifs at h with hreset hlong
      · have hlong : 1000 < duration := by omega
        rw [h, frameOf, if_pos hlong]
        rfl
      · rw [h, frameOf, if_pos hlong]
        rfl
      · obtain ⟨r, rfl, hr⟩ := h
        rw [frameOf, if_neg hlong]
        exact hsend hr
  | extBtn1 | extBtn2 | extBtn3 | extBtn4 =>
      obtain ⟨r, rfl, hr⟩ := h
      exact hsend hr

theorem accepted_actionOf (tick : Tick) (duration : Int) (b : GpioDtSpec) :
    (Press.accepted ⟨b, DongleState.actionOf tick duration b⟩).map
        OnOffRequest.frame =
      if tick.zbBufGetOutDelayedExt b = retOk then frameOf duration b
      else none := by
  by_cases hcode : tick.zbBufGetOutDelayedExt b = retOk
  · have hhandled := DongleState.actionOf_handledAs tick duration b
    rw [hcode] at hhandled
    rw [if_pos hcode]
    exact accepted_handledAs hhandled
  · rw [if_neg hcode]
    cases b with
    | nwkRstBtn =>
        simp only [Press.accepted, Press.request, DongleState.actionOf]
        split_ifs
        · rfl
        · rfl
        · simp [Option.filter, OnOffRequest.Accepted, hcode]
    | extBtn1 | extBtn2 | extBtn3 | extBtn4 =>
        simp [Press.accepted, Press.request, DongleState.actionOf,
          Option.filter, OnOffRequest.Accepted, hcode]

/-- A button had its debounced press end before iteration `n` while the stack
took the command, and a press of that duration sends `f`. -/
def Causes (n : Nat) (f : OnOffFrame) : Prop :=
  ∃ m < n, ∃ b rise,
    Pulse (s.debouncedAt (loopTicks ticks) b) rise m ∧
      (ticks m).tick.zbBufGetOutDelayedExt b = retOk ∧
      frameOf (25 * (m - rise : Int)) b = some f

theorem mem_acceptedBefore {n : Nat} {f : OnOffFrame} :
    f ∈ acceptedBefore s ticks n ↔ Causes s ticks n f := by
  have hp := runLedBlinkInterval_pos
  have hmem : f ∈ acceptedBefore s ticks n ↔
      ∃ m < n, ∃ press ∈ s.pressesAt (loopTicks ticks) m,
        press.accepted.map OnOffRequest.frame = some f := by
    simp only [acceptedBefore, DongleState.pressesBefore, List.mem_map,
      List.mem_filterMap, List.mem_flatMap, List.mem_range,
      Option.map_eq_some_iff]
    constructor
    · rintro ⟨r, ⟨press, ⟨m, hm, hpress⟩, hr⟩, hf⟩
      exact ⟨m, hm, press, hpress, r, hr, hf⟩
    · rintro ⟨m, hm, press, hpress, r, hr, hf⟩
      exact ⟨r, ⟨press, ⟨m, hm, hpress⟩, hr⟩, hf⟩
  rw [hmem]
  constructor
  · rintro ⟨m, hm, ⟨b, action⟩, hpress, hf⟩
    obtain ⟨duration, hduration, haction⟩ :=
      (DongleState.mem_pressesAt s _).mp hpress
    obtain ⟨rise, hpulse, rfl⟩ :=
      (ButtonPressHandler.pressAt_eq_some_iff hp).mp hduration
    simp only at haction hpulse
    rw [haction, accepted_actionOf] at hf
    split at hf
    · next hcode =>
        rw [← DongleState.debouncedAt_eq] at hpulse
        exact ⟨m, hm, b, rise, hpulse, hcode, hf⟩
    · contradiction
  · rintro ⟨m, hm, b, rise, hpulse, hcode, hf⟩
    rw [DongleState.debouncedAt_eq] at hpulse
    have hduration :=
      (ButtonPressHandler.pressAt_eq_some_iff hp).mpr ⟨rise, hpulse, rfl⟩
    let press : Press := ⟨b, DongleState.actionOf (loopTicks ticks m)
      (runLedBlinkInterval * (m - rise : Int)) b⟩
    have hpress : press ∈ s.pressesAt (loopTicks ticks) m :=
      (DongleState.mem_pressesAt s _).mpr ⟨_, hduration, rfl⟩
    refine ⟨m, hm, press, hpress, ?_⟩
    rw [accepted_actionOf, if_pos hcode]
    exact hf

/-- In every run the frames sent and the frames that wait are those of the
handled presses whose commands the stack took, each once; each of these is the
frame of a debounced press by its button and its duration, and each such press
has one. -/
theorem frames_accounted (n : Nat) :
    (acceptedBefore s ticks n).Perm
        (sentBefore s ticks n ++ waitingAt s ticks n) ∧
      ∀ f, (f ∈ sentBefore s ticks n ∨ f ∈ waitingAt s ticks n) ↔
        Causes s ticks n f := by
  have hperm := acceptedBefore_perm s ticks n
  refine ⟨hperm, ?_⟩
  intro f
  rw [← mem_acceptedBefore, hperm.mem_iff, List.mem_append]

/-! ### From the pin to the air -/

/-- An accepted command is the command of its press. -/
theorem request_of_accepted {press : Press} {r : OnOffRequest}
    (h : press.accepted = some r) : press.request = some r :=
  (Option.filter_eq_some_iff.mp h).1

/-- Endpoint 12 is shared with the network button; the other three are each used
by one button. -/
theorem endpoint_iff_button {m : Nat} {press : Press} {r : OnOffRequest}
    (hmem : press ∈ s.pressesAt (loopTicks ticks) m)
    (hr : press.request = some r) {bpIi : Fin 4} (hbpIi : bpIi ≠ 0) :
    r.frame.srcEndpoint = DongleState.extBtnEndpoint bpIi ↔
      press.button = extBtn bpIi := by
  have hsrc : r.frame.srcEndpoint = r.callback.endpoint := rfl
  rw [hsrc]
  by_cases hbutton : press.button = .nwkRstBtn
  · have hshared : DongleState.extBtnEndpoint bpIi ≠
        haOnOffSwitchEndpoint1 := by
      revert bpIi
      decide
    rw [s.endpoint_of_nwkRstBtn _ hmem hbutton hr, hbutton]
    exact iff_of_false hshared.symm (DongleState.extBtn_ne_nwkRstBtn bpIi).symm
  · obtain ⟨own, hown⟩ := DongleState.exists_extBtn hbutton
    obtain ⟨r', hr', hendpoint, -⟩ := s.request_of_mem_pressesAt _ hmem hown
    rw [hr, Option.some.injEq] at hr'
    rw [hr', hendpoint, hown, DongleState.extBtnEndpoint_eq_iff]

/-- The frames from the endpoint of an external button are those of its
presses. -/
theorem filter_acceptedBefore {bpIi : Fin 4} (hbpIi : bpIi ≠ 0) (n : Nat) :
    (acceptedBefore s ticks n).filter (fun f =>
        decide (f.srcEndpoint = DongleState.extBtnEndpoint bpIi)) =
      ((s.pressesOf (loopTicks ticks) (extBtn bpIi) n).filterMap
        Press.accepted).map OnOffRequest.frame := by
  rw [acceptedBefore, List.filter_map, List.filter_filterMap,
    DongleState.pressesOf, List.filterMap_filter]
  apply congrArg (List.map OnOffRequest.frame)
  apply List.filterMap_congr
  intro press hpress
  obtain ⟨m, -, hmem⟩ := List.mem_flatMap.mp hpress
  cases hr : press.accepted with
  | none => simp
  | some r =>
      have hiff := endpoint_iff_button s ticks hmem (request_of_accepted hr)
        hbpIi
      by_cases hbutton : press.button = extBtn bpIi
      · simp [Option.filter, hbutton, hiff.mpr hbutton]
      · simp [Option.filter, hbutton, mt hiff.mp hbutton]

theorem filterMap_accepted {b : GpioDtSpec} {n : Nat}
    (hbuf : ∀ m < n, (ticks m).tick.zbBufGetOutDelayedExt b = retOk)
    {durations : List Int} {presses : List Press}
    (h : List.Forall₂ (DongleState.Decodes (loopTicks ticks) b n) durations
      presses) :
    (presses.filterMap Press.accepted).map OnOffRequest.frame =
      durations.filterMap fun duration => frameOf duration b := by
  rw [List.map_filterMap]
  induction h with
  | nil => rfl
  | @cons duration press durations presses hfirst _ ih =>
      obtain ⟨rfl, m, hm, hhandled⟩ := hfirst
      have hcode : (loopTicks ticks m).zbBufGetOutDelayedExt press.button =
          retOk := hbuf m hm
      rw [hcode] at hhandled
      rw [List.filterMap_cons, List.filterMap_cons, ih,
        accepted_handledAs hhandled]

/-- If external button 2, 3 or 4 reads a list of holds and the stack always
takes its commands, the frames from its endpoint, sent or waiting, are those
of the holds: each once, whatever else happens. -/
theorem gestures_to_frames {bpIi : Fin 4} (hbpIi : bpIi ≠ 0)
    (gestures : List ButtonPressHandler.Gesture) (n : Nat)
    (hreads : (List.range n).map (ButtonPressHandler.sampleAt (extBtn bpIi)
        fun m => (ticks m).tick.gpioPinGetDt) =
      gestures.flatMap ButtonPressHandler.Gesture.samples)
    (hbuf : ∀ m < n,
      (ticks m).tick.zbBufGetOutDelayedExt (extBtn bpIi) = retOk) :
    ((sentBefore s ticks n ++ waitingAt s ticks n).filter fun f =>
        decide (f.srcEndpoint = DongleState.extBtnEndpoint bpIi)).Perm
      ((gestures.filterMap ButtonPressHandler.Gesture.duration).filterMap
        fun duration => frameOf duration (extBtn bpIi)) := by
  have hdecodes := s.pressesOf_durations (loopTicks ticks) (extBtn bpIi) n
  rw [show runLedBlinkInterval = 25 from rfl,
    ButtonPressHandler.pressAt_gestures _ hreads] at hdecodes
  rw [← filterMap_accepted ticks hbuf hdecodes,
    ← filter_acceptedBefore s ticks hbpIi]
  exact ((acceptedBefore_perm s ticks n).filter _).symm

/-- Button 3 is tapped, and then held for 1125 ms: TOGGLE and ON from endpoint
14, in one order or the other. -/
theorem gestures_to_frames_two :
    let ticks : Nat → RadioTick := fun n =>
      { tick :=
          { betweenIterations := []
            duringSleep := []
            gpioPinGetDt := fun gpio =>
              if gpio = .extBtn3 then if n < 4 ∨ 10 ≤ n ∧ n < 55 then 1 else 0
              else n
            zbBufGetOutDelayedExt := fun gpio =>
              if gpio = .extBtn3 then retOk else -1 }
        runs := [n % 2] }
    let s := DongleState.boot (fun gpio => .clean gpio 25)
      { ledPulse := 0, pinPulse := 0 }
    ((sentBefore s ticks 61 ++ waitingAt s ticks 61).filter fun f =>
        decide (f.srcEndpoint = DongleState.extBtnEndpoint 2)).Perm
      [⟨0, 0, 14, 0x02⟩, ⟨0, 0, 14, 0x01⟩] := by
  intro ticks s
  exact gestures_to_frames s ticks (show (2 : Fin 4) ≠ 0 by decide)
    [⟨4, 6, Nat.le_refl 6⟩, ⟨45, 6, Nat.le_refl 6⟩] 61 (by decide)
    fun m _ => rfl

end Run

end DongleRadio

end ZbLightbulb
