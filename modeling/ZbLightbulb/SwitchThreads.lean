/-
`button_handler` of the switch as the separate steps it takes in the system work
queue, and the expiries of the two kernel timers between any two of them.  No
other thread of the switch runs in between: the work queue has the highest
priority and does not give up the processor, and the callbacks of the stack and
the work of the NUS commands wait for its end.
-/
import ZbLightbulb.Lib.Outputs
import ZbLightbulb.LightSwitch

namespace ZbLightbulb

/-- What `button_handler` is called with, and what the library says of the
factory reset. -/
structure ButtonCall where
  buttonState : UInt32
  hasChanged : UInt32
  wasFactoryResetDone : Bool
deriving DecidableEq, Repr

namespace ButtonCall

def event (n : ButtonCall) : SwitchEvent :=
  .buttons n.buttonState n.hasChanged n.wasFactoryResetDone

/-- The command of the button that has changed. -/
def Changes (n : ButtonCall) (cmdId : UInt16) : Prop :=
  n.hasChanged = buttonOn ∧ cmdId = zbZclCmdOnOffOnId ∨
    n.hasChanged = buttonOff ∧ cmdId = zbZclCmdOnOffOffId

end ButtonCall

/-- Where `button_handler` stands, with what it has read. -/
inductive HandlerStep where
  | outside
  | addrRead (n : ButtonCall)
  | stateStored (n : ButtonCall)
  | alarmStopped (n : ButtonCall) (cmdId : UInt16)
  | longPollCleared (n : ButtonCall) (cmdId : UInt16) (longPoll : Bool)
deriving DecidableEq, Repr

/-- The notification that is being handled. -/
def HandlerStep.call : HandlerStep → Option ButtonCall
  | outside => none
  | addrRead n | stateStored n | alarmStopped n _ | longPollCleared n _ _ =>
      some n

structure SwitchThreads where
  switch : LightSwitch
  handler : HandlerStep

/-- `button_handler` takes its next step, which outside of it is the first one
for `n`; or something else happens to the switch. -/
inductive SwitchThreadEvent where
  | handler (n : ButtonCall)
  | event (e : SwitchEvent)
deriving DecidableEq, Repr

namespace SwitchThreads

/-- The first step of the second `switch` of `button_handler`. -/
def edgeStep (s : SwitchThreads) (n : ButtonCall) (cmdId : UInt16) :
    SwitchThreads :=
  if n.buttonState = buttonOn ∨ n.buttonState = buttonOff then
    { switch := { s.switch with
        buttonsCtx := { s.switch.buttonsCtx with state := n.buttonState } }
      handler := .stateStored n }
  else if n.buttonState = 0 then
    { switch := { s.switch with
        buttonsCtx := { s.switch.buttonsCtx with alarm := false } }
      handler := .alarmStopped n cmdId }
  else { s with handler := .outside }

/-- The next step of `button_handler`. -/
def handlerStep (s : SwitchThreads) (n : ButtonCall) : SwitchThreads :=
  match s.handler with
  | .outside =>
      if s.switch.bulbCtx.shortAddr = noBulb then s
      else { s with handler := .addrRead n }
  | .addrRead n =>
      if n.hasChanged = buttonOn then s.edgeStep n zbZclCmdOnOffOnId
      else if n.hasChanged = buttonOff then s.edgeStep n zbZclCmdOnOffOffId
      else if n.hasChanged = identifyModeButton then
        if identifyModeButton &&& n.buttonState ≠ 0 then
          { s with handler := .outside }
        else if n.wasFactoryResetDone then { s with handler := .outside }
        else
          { switch := s.switch.getOutDelayed .buttons [.startIdentifying]
            handler := .outside }
      else { s with handler := .outside }
  | .stateStored _ =>
      { switch := { s.switch with
          buttonsCtx := { s.switch.buttonsCtx with alarm := true } }
        handler := .outside }
  | .alarmStopped n cmdId =>
      -- `atomic_set` gives back what it overwrites
      { switch := { s.switch with
          buttonsCtx := { s.switch.buttonsCtx with longPoll := false } }
        handler := .longPollCleared n cmdId s.switch.buttonsCtx.longPoll }
  | .longPollCleared _ cmdId longPoll =>
      if longPoll = false then
        { switch := s.switch.getOutDelayed .buttons
            [.lightSwitchSendOnOff cmdId]
          handler := .outside }
      else { s with handler := .outside }

def step (s : SwitchThreads) : SwitchThreadEvent → SwitchThreads
  | .handler n => s.handlerStep n
  | .event e => { s with switch := s.switch.step e }

def start : SwitchThreads where
  switch := LightSwitch.start
  handler := .outside

def run (events : List SwitchThreadEvent) : SwitchThreads :=
  events.foldl step start

/-- Only the timers interrupt `button_handler`.  The library scans the buttons
in the same work queue, so until the handler returns `dk_get_buttons` gives the
state it was called with. -/
def Allows (s : SwitchThreads) : SwitchThreadEvent → Prop
  | .handler _ => True
  | .event .findAlarm => True
  | .event (.buttonsAlarm dkGetButtons) =>
      ∀ n, s.handler.call = some n → dkGetButtons = n.buttonState
  | .event (.buttons _ _ _) => False
  | .event _ => s.handler = .outside

/-- The events as they take effect.  A notification does when its state is
stored, and that of a release when its command is queued; the timer does not
expire while it is stopped. -/
def inTurn (s : SwitchThreads) : SwitchThreadEvent → List SwitchEvent
  | .event (.buttonsAlarm dkGetButtons) =>
      if s.switch.buttonsCtx.alarm then [.buttonsAlarm dkGetButtons] else []
  | .event e => [e]
  | .handler n =>
      match s.handler with
      | .outside =>
          if s.switch.bulbCtx.shortAddr = noBulb then [n.event] else []
      | .addrRead n =>
          if n.buttonState = 0 ∧
            (n.hasChanged = buttonOn ∨ n.hasChanged = buttonOff) then []
          else [n.event]
      | .longPollCleared n _ _ => [n.event]
      | .stateStored _ | .alarmStopped _ _ => []

/-! ### The switch that handles a notification in one step -/

/-- Where the switch that takes each notification as one step is meanwhile. -/
def Meanwhile : HandlerStep → LightSwitch → LightSwitch → Prop
  | .outside, own, s => own = s
  | .addrRead _, own, s => own = s ∧ s.bulbCtx.shortAddr ≠ noBulb
  | .stateStored n, own, s =>
      s = { own with buttonsCtx := { own.buttonsCtx with alarm := true } } ∧
        own.buttonsCtx.state = n.buttonState ∧
        (n.buttonState = buttonOn ∨ n.buttonState = buttonOff)
  | .alarmStopped n cmdId, own, s =>
      own = { s with buttonsCtx := { s.buttonsCtx with alarm := false } } ∧
        s.bulbCtx.shortAddr ≠ noBulb ∧ n.buttonState = 0 ∧ n.Changes cmdId
  | .longPollCleared n cmdId longPoll, own, s =>
      own = { s with buttonsCtx :=
        { s.buttonsCtx with alarm := false, longPoll := false } } ∧
        longPoll = s.buttonsCtx.longPoll ∧ s.bulbCtx.shortAddr ≠ noBulb ∧
        n.buttonState = 0 ∧ n.Changes cmdId

theorem step_of_noBulb {s : LightSwitch} (hnone : s.bulbCtx.shortAddr = noBulb)
    (n : ButtonCall) : s.step n.event = s := by
  simp [ButtonCall.event, LightSwitch.step, ButtonsContext.buttonHandler,
    hnone, LightSwitch.getOutDelayed]

theorem step_of_changes {s : LightSwitch}
    (hknown : s.bulbCtx.shortAddr ≠ noBulb) {n : ButtonCall} {cmdId : UInt16}
    (h : n.Changes cmdId) : s.step n.event =
      { s with buttonsCtx :=
        (s.buttonsCtx.buttonEdge n.buttonState cmdId).1 }.getOutDelayed .buttons
          (s.buttonsCtx.buttonEdge n.buttonState cmdId).2 := by
  obtain ⟨buttonState, hasChanged, done⟩ := n
  obtain ⟨rfl, rfl⟩ | ⟨rfl, rfl⟩ := h
  · simp [ButtonCall.event, LightSwitch.step, ButtonsContext.buttonHandler,
      hknown]
  · simp [ButtonCall.event, LightSwitch.step, ButtonsContext.buttonHandler,
      hknown, buttonOn, buttonOff]

/-- The two steps that a notification of a known button takes first, or all of
it. -/
theorem meanwhile_edgeStep {s : LightSwitch}
    (hknown : s.bulbCtx.shortAddr ≠ noBulb) {n : ButtonCall} {cmdId : UInt16}
    (h : n.Changes cmdId) (handler : HandlerStep) :
    Meanwhile (edgeStep ⟨s, handler⟩ n cmdId).handler
      (edgeStep ⟨s, handler⟩ n cmdId).switch
      (if n.buttonState = 0 then s else s.step n.event) := by
  rw [step_of_changes hknown h]
  by_cases hpressed : n.buttonState = buttonOn ∨ n.buttonState = buttonOff
  · have hne : n.buttonState ≠ 0 := by
      rcases hpressed with heq | heq <;> simp [heq, buttonOn, buttonOff]
    simp [edgeStep, ButtonsContext.buttonEdge, hpressed, hne, Meanwhile,
      LightSwitch.getOutDelayed]
  · by_cases hzero : n.buttonState = 0
    · rw [edgeStep, if_neg hpressed, if_pos hzero, if_pos hzero]
      exact ⟨rfl, hknown, hzero, h⟩
    · simp [edgeStep, ButtonsContext.buttonEdge, hpressed, hzero, Meanwhile,
        LightSwitch.getOutDelayed]

/-- A notification that changes neither ON nor OFF ends with the step after the
check of the address. -/
theorem meanwhile_identify {s : LightSwitch}
    (hknown : s.bulbCtx.shortAddr ≠ noBulb) {n : ButtonCall}
    (hon : n.hasChanged ≠ buttonOn) (hoff : n.hasChanged ≠ buttonOff)
    (n' : ButtonCall) :
    Meanwhile ((⟨s, .addrRead n⟩ : SwitchThreads).handlerStep n').handler
      ((⟨s, .addrRead n⟩ : SwitchThreads).handlerStep n').switch
      (s.step n.event) := by
  obtain ⟨buttonState, hasChanged, done⟩ := n
  simp only [SwitchThreads.handlerStep, ButtonCall.event, LightSwitch.step,
    ButtonsContext.buttonHandler, if_neg hknown, if_neg hon, if_neg hoff]
  by_cases hident : hasChanged = identifyModeButton
  · by_cases hpressed : identifyModeButton &&& buttonState ≠ 0
    · simp [hident, hpressed, Meanwhile, LightSwitch.getOutDelayed]
    · cases done <;>
        simp [hident, hpressed, Meanwhile, LightSwitch.getOutDelayed]
  · simp [hident, Meanwhile, LightSwitch.getOutDelayed]

theorem Meanwhile.handlerStep {own s : LightSwitch} {handler : HandlerStep}
    (h : Meanwhile handler own s) (n' : ButtonCall) :
    Meanwhile ((⟨own, handler⟩ : SwitchThreads).handlerStep n').handler
      ((⟨own, handler⟩ : SwitchThreads).handlerStep n').switch
      ((inTurn ⟨own, handler⟩ (.handler n')).foldl LightSwitch.step s) := by
  cases handler with
  | outside =>
      obtain rfl : own = s := h
      by_cases hnone : own.bulbCtx.shortAddr = noBulb
      · simp [SwitchThreads.handlerStep, inTurn, hnone, Meanwhile,
          step_of_noBulb hnone]
      · simp [SwitchThreads.handlerStep, inTurn, hnone, Meanwhile]
  | addrRead n =>
      obtain ⟨rfl, hknown⟩ := h
      have hturn : n.hasChanged = buttonOn ∨ n.hasChanged = buttonOff →
          (inTurn ⟨own, .addrRead n⟩ (.handler n')).foldl LightSwitch.step own =
            if n.buttonState = 0 then own else own.step n.event := by
        intro hchanged
        by_cases hzero : n.buttonState = 0 <;>
          simp [inTurn, hchanged, hzero]
      by_cases hon : n.hasChanged = buttonOn
      · rw [hturn (Or.inl hon)]
        simp only [SwitchThreads.handlerStep, if_pos hon]
        exact meanwhile_edgeStep hknown (Or.inl ⟨hon, rfl⟩) (.addrRead n)
      · by_cases hoff : n.hasChanged = buttonOff
        · rw [hturn (Or.inr hoff)]
          simp only [SwitchThreads.handlerStep, if_neg hon, if_pos hoff]
          exact meanwhile_edgeStep hknown (Or.inr ⟨hoff, rfl⟩) (.addrRead n)
        · have hturn' : inTurn ⟨own, .addrRead n⟩ (.handler n') =
              [n.event] := by
            simp [inTurn, hon, hoff]
          rw [hturn', List.foldl_cons, List.foldl_nil]
          exact meanwhile_identify hknown hon hoff n'
  | stateStored n =>
      obtain ⟨rfl, hstate, hpressed⟩ := h
      rfl
  | alarmStopped n cmdId =>
      obtain ⟨rfl, hknown, hzero, hchanges⟩ := h
      exact ⟨rfl, rfl, hknown, hzero, hchanges⟩
  | longPollCleared n cmdId longPoll =>
      obtain ⟨rfl, rfl, hknown, hzero, hchanges⟩ := h
      have hstep := step_of_changes hknown hchanges
      have hedge : s.buttonsCtx.buttonEdge n.buttonState cmdId =
          ({ s.buttonsCtx with alarm := false, longPoll := false },
            if s.buttonsCtx.longPoll = false then
              [.lightSwitchSendOnOff cmdId] else []) := by
        rw [hzero]
        rfl
      rw [hedge] at hstep
      change Meanwhile _ _ (s.step n.event)
      rw [hstep]
      cases hpoll : s.buttonsCtx.longPoll with
      | false => rfl
      | true =>
          simp [SwitchThreads.handlerStep, Meanwhile, LightSwitch.getOutDelayed]

theorem step_findAlarm (s : LightSwitch) : s.step .findAlarm =
    { s with delayed := s.delayed ++
      if s.bulbCtx.findAlarm then [⟨.findLightBulb, .findAlarm⟩] else [] } := by
  cases h : s.bulbCtx.findAlarm <;>
    simp [LightSwitch.step, LightSwitch.getOutDelayed, h]

theorem step_alarm_stopped {s : LightSwitch} (h : s.buttonsCtx.alarm = false)
    (dkGetButtons : UInt32) : s.step (.buttonsAlarm dkGetButtons) = s := by
  simp [LightSwitch.step, ButtonsContext.alarmExpiry, h,
    LightSwitch.getOutDelayed]

theorem foldl_inTurn_alarm {own s : LightSwitch} (handler : HandlerStep)
    (dkGetButtons : UInt32) :
    (inTurn ⟨own, handler⟩ (.event (.buttonsAlarm dkGetButtons))).foldl
        LightSwitch.step s =
      if own.buttonsCtx.alarm then s.step (.buttonsAlarm dkGetButtons)
      else s := by
  cases h : own.buttonsCtx.alarm <;> simp [inTurn, h]

/-- An expiry while the button is down arms the timer again. -/
theorem step_alarm_down {s : LightSwitch}
    (hpressed : s.buttonsCtx.state = buttonOn ∨ s.buttonsCtx.state = buttonOff)
    (halarm : s.buttonsCtx.alarm = true) :
    (s.step (.buttonsAlarm s.buttonsCtx.state)).buttonsCtx =
      { s.buttonsCtx with longPoll := true } := by
  have hdown : s.buttonsCtx.state ≠ 0 := by
    rcases hpressed with heq | heq <;> rw [heq] <;> decide
  simp [LightSwitch.step, ButtonsContext.alarmExpiry, halarm,
    ButtonsContext.lightSwitchButtonHandler, hdown, LightSwitch.getOutDelayed]

theorem Meanwhile.event {own s : LightSwitch} {handler : HandlerStep}
    (h : Meanwhile handler own s) (e : SwitchEvent)
    (hallows : Allows ⟨own, handler⟩ (.event e)) :
    Meanwhile handler (own.step e)
      ((inTurn ⟨own, handler⟩ (.event e)).foldl LightSwitch.step s) := by
  cases e with
  | findAlarm =>
      change Meanwhile handler _ (s.step .findAlarm)
      rw [step_findAlarm, step_findAlarm]
      cases handler with
      | outside =>
          obtain rfl : own = s := h
          rfl
      | addrRead n =>
          obtain ⟨rfl, hknown⟩ := h
          exact ⟨rfl, hknown⟩
      | stateStored n =>
          obtain ⟨rfl, hstate, hpressed⟩ := h
          exact ⟨rfl, hstate, hpressed⟩
      | alarmStopped n cmdId =>
          obtain ⟨rfl, hrest⟩ := h
          exact ⟨rfl, hrest⟩
      | longPollCleared n cmdId longPoll =>
          obtain ⟨rfl, hrest⟩ := h
          exact ⟨rfl, hrest⟩
  | buttonsAlarm dkGetButtons =>
      rw [foldl_inTurn_alarm]
      cases halarm : own.buttonsCtx.alarm with
      | false =>
          rw [step_alarm_stopped halarm]
          exact h
      | true =>
          cases handler with
          | outside =>
              obtain rfl : own = s := h
              rfl
          | addrRead n =>
              obtain ⟨rfl, hknown⟩ := h
              exact ⟨rfl, hknown⟩
          | stateStored n =>
              obtain ⟨rfl, hstate, hpressed⟩ := h
              obtain rfl : dkGetButtons = own.buttonsCtx.state :=
                (hallows n rfl).trans hstate.symm
              have hctx := step_alarm_down (hstate ▸ hpressed) halarm
              have harmed : ∀ s : LightSwitch, s.buttonsCtx.alarm = true →
                  { s with buttonsCtx := { s.buttonsCtx with alarm := true } } =
                    s := by
                rintro ⟨_, ⟨_, _, _⟩, _, _, _, _⟩ rfl
                rfl
              rw [if_pos rfl, harmed own halarm]
              refine ⟨(harmed _ ?_).symm, ?_, hpressed⟩
              · rw [hctx]
                exact halarm
              · rw [hctx]
                exact hstate
          | alarmStopped n cmdId =>
              obtain ⟨rfl, -⟩ := h
              contradiction
          | longPollCleared n cmdId longPoll =>
              obtain ⟨rfl, -⟩ := h
              contradiction
  | buttons => exact hallows.elim
  | matchDescResp | signal | nusWork | delayed =>
      obtain rfl : handler = .outside := hallows
      obtain rfl : own = s := h
      rfl

theorem Meanwhile.step {own : SwitchThreads} {s : LightSwitch}
    (h : Meanwhile own.handler own.switch s) (e : SwitchThreadEvent)
    (hallows : own.Allows e) :
    Meanwhile (own.step e).handler (own.step e).switch
      ((own.inTurn e).foldl LightSwitch.step s) := by
  cases e with
  | handler n => exact h.handlerStep n
  | event e => exact h.event e hallows

/-- What the switch sends in a step. -/
def sent (s : SwitchThreads) : SwitchThreadEvent → List ZclRequest
  | .handler _ => []
  | .event e => (s.switch.sent e).toList

/-- Only a callback that waits sends anything. -/
def RunsNothing : SwitchEvent → Prop
  | .delayed _ => False
  | _ => True

theorem sent_of_runsNothing {s : LightSwitch} {e : SwitchEvent}
    (h : RunsNothing e) : s.sent e = none := by
  cases e with
  | delayed => exact h.elim
  | _ => rfl

theorem outputs_of_runsNothing {events : List SwitchEvent}
    (h : ∀ e ∈ events, RunsNothing e) (s : LightSwitch) :
    Runs.outputs LightSwitch.step (fun s e => (s.sent e).toList) s events =
      [] := by
  induction events generalizing s with
  | nil => rfl
  | cons e events ih =>
      rw [Runs.outputs_cons, sent_of_runsNothing (h e (List.mem_cons_self ..)),
        ih fun e he => h e (List.mem_cons_of_mem _ he)]
      rfl

theorem inTurn_handler_runsNothing (s : SwitchThreads) (n : ButtonCall) :
    ∀ e ∈ s.inTurn (.handler n), RunsNothing e := by
  obtain ⟨own, handler⟩ := s
  intro e he
  have hcall : ∀ call : ButtonCall, e ∈ [call.event] → RunsNothing e := by
    intro call he
    rw [List.mem_singleton.mp he]
    exact trivial
  cases handler with
  | outside =>
      simp only [inTurn] at he
      split at he
      · exact hcall n he
      · contradiction
  | addrRead call =>
      simp only [inTurn] at he
      split at he
      · contradiction
      · exact hcall call he
  | longPollCleared call => exact hcall call he
  | stateStored | alarmStopped => contradiction

theorem Meanwhile.sent {own : SwitchThreads} {s : LightSwitch}
    (h : Meanwhile own.handler own.switch s) (e : SwitchThreadEvent)
    (hallows : own.Allows e) :
    own.sent e = Runs.outputs LightSwitch.step (fun s e => (s.sent e).toList) s
      (own.inTurn e) := by
  cases e with
  | handler n =>
      exact (outputs_of_runsNothing (own.inTurn_handler_runsNothing n) s).symm
  | event e =>
      cases e with
      | findAlarm => rfl
      | buttonsAlarm dkGetButtons =>
          cases halarm : own.switch.buttonsCtx.alarm <;>
            simp [SwitchThreads.sent, inTurn, halarm, Runs.outputs_cons,
              LightSwitch.sent, LightSwitch.running]
      | buttons => exact hallows.elim
      | matchDescResp | signal | nusWork | delayed =>
          obtain ⟨own, handler⟩ := own
          obtain rfl : handler = .outside := hallows
          obtain rfl : own = s := h
          exact (List.append_nil _).symm

/-- In every run, whichever expiries come between the steps of
`button_handler`: outside of it, the switch is where the events lead if each
notification is one step, and at every point it has sent what they send. -/
theorem run_inTurn (events : List SwitchThreadEvent)
    (hallows : ∀ before e, before ++ [e] <+: events → (run before).Allows e) :
    ((run events).handler = .outside →
      (run events).switch =
        LightSwitch.run (Runs.outputs step inTurn start events)) ∧
      Runs.outputs step sent start events =
        Runs.outputs LightSwitch.step (fun s e => (s.sent e).toList)
          LightSwitch.start (Runs.outputs step inTurn start events) := by
  have hstart : Meanwhile start.handler start.switch LightSwitch.start := rfl
  constructor
  · intro houtside
    have h := Runs.outputs_refine inTurn Allows
      (fun own s => Meanwhile own.handler own.switch s)
      (fun _ _ e h => h.step e) hstart hallows
    change Meanwhile (run events).handler (run events).switch _ at h
    rw [houtside] at h
    exact h
  · exact Runs.outputs_refine_outputs inTurn Allows
      (fun own s => Meanwhile own.handler own.switch s)
      (fun _ _ e h => h.step e) (fun _ _ e h => h.sent e) hstart hallows

/-- The hold timer expires while a release is being handled, before it is
stopped: it comes before the release, and the release queues its command. -/
theorem run_inTurn_expiry :
    let press : ButtonCall := ⟨buttonOn, buttonOn, false⟩
    let release : ButtonCall := ⟨0, buttonOn, false⟩
    let found : List SwitchEvent :=
      [.signal .bdbSignalSteering 0 0, .findAlarm, .delayed 0,
        .matchDescResp ⟨0, 1, 10, 0x1234⟩]
    let events : List SwitchThreadEvent :=
      found.map .event ++ [.handler press, .handler press, .handler press,
        .handler release, .event (.buttonsAlarm 0), .handler release,
        .handler release, .handler release]
    (run events).switch =
      LightSwitch.run (found ++
        [press.event, .buttonsAlarm 0, release.event]) := by
  refine (run_inTurn _ ?_).1 rfl
  iterate 4 refine Runs.allowed_cons Allows (by first | rfl | exact trivial) ?_
  iterate 4 refine Runs.allowed_cons Allows trivial ?_
  refine Runs.allowed_cons Allows (by rintro n ⟨⟩; rfl) ?_
  iterate 3 refine Runs.allowed_cons Allows trivial ?_
  exact Runs.allowed_nil Allows

end SwitchThreads

end ZbLightbulb
