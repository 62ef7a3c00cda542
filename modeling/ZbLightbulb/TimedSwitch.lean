/-
The switch in time.  Its two timers count down in milliseconds, and an expiry is
served only once it is due; time does not pass a due expiry.  Every run in time
is a run of the switch.
-/
import ZbLightbulb.Dimming
import ZbLightbulb.Lib.KTimer
import ZbLightbulb.SwitchCallbacks

namespace ZbLightbulb

/-- `MATCH_DESC_REQ_START_DELAY`, in ms. -/
def matchDescReqStartDelay : Nat := 2000

/-- `MATCH_DESC_REQ_TIMEOUT`, in ms. -/
def matchDescReqTimeout : Nat := 5000

/-- `BUTTON_LONG_POLL_TMO`, in ms. -/
def buttonLongPollTmo : Nat := 500

namespace LightSwitch

/-- `bulb_ctx.find_alarm` after an event.  A signal starts it, an accepted
response stops it, and its own expiry finds it armed for the next. -/
def findAlarmAfter (s : LightSwitch) (timer : KTimer) : SwitchEvent → KTimer
  | .findAlarm => timer.expire
  | .matchDescResp resp =>
      if 0 < s.matchDescReqs ∧ s.bulbCtx.Accepts resp then .stopped else timer
  | .signal sig status _ =>
      match sig with
      | .bdbSignalDeviceReboot | .bdbSignalSteering =>
          if status = retOk ∧ s.bulbCtx.shortAddr = noBulb then
            .start matchDescReqStartDelay matchDescReqTimeout
          else timer
      | _ => timer
  | _ => timer

/-- `buttons_ctx.alarm` after an event.  A press starts it, a release stops
it, and its own expiry starts it again while the button is down. -/
def alarmAfter (s : LightSwitch) (timer : KTimer) : SwitchEvent → KTimer
  | .buttons buttonState hasChanged _ =>
      if s.bulbCtx.shortAddr = noBulb then timer
      else if hasChanged = buttonOn ∨ hasChanged = buttonOff then
        if buttonState = buttonOn ∨ buttonState = buttonOff then
          .start buttonLongPollTmo 0
        else if buttonState = 0 then .stopped
        else timer
      else timer
  | .buttonsAlarm dkGetButtons =>
      if dkGetButtons &&& s.buttonsCtx.state ≠ 0 then
        .start buttonLongPollTmo 0
      else timer.expire
  | _ => timer

end LightSwitch

/-- The switch and its timers. -/
structure TimedSwitch where
  switch : LightSwitch
  findAlarm : KTimer
  alarm : KTimer
deriving DecidableEq, Repr

/-- A millisecond passes, or something happens. -/
inductive TimedEvent where
  | tick
  | switch (e : SwitchEvent)
deriving DecidableEq, Repr

namespace TimedSwitch

def start : TimedSwitch where
  switch := LightSwitch.start
  findAlarm := .stopped
  alarm := .stopped

/-- No expiry waits to be served. -/
def served (t : TimedSwitch) : Bool :=
  !t.findAlarm.isDue && !t.alarm.isDue

/-- An expiry happens only when it is due. -/
def enabled (t : TimedSwitch) : SwitchEvent → Bool
  | .findAlarm => t.findAlarm.isDue
  | .buttonsAlarm _ => t.alarm.isDue
  | _ => true

def step (t : TimedSwitch) : TimedEvent → TimedSwitch
  | .tick =>
      if t.served then
        { t with findAlarm := t.findAlarm.tick, alarm := t.alarm.tick }
      else t
  | .switch e =>
      if t.enabled e then
        { switch := t.switch.step e
          findAlarm := t.switch.findAlarmAfter t.findAlarm e
          alarm := t.switch.alarmAfter t.alarm e }
      else t

def run (events : List TimedEvent) : TimedSwitch :=
  events.foldl step start

/-- What an event is to the switch. -/
def happens (t : TimedSwitch) : TimedEvent → List SwitchEvent
  | .tick => []
  | .switch e => if t.enabled e then [e] else []

/-- Whether a millisecond passes. -/
def passes (t : TimedSwitch) : TimedEvent → List Unit
  | .tick => if t.served then [()] else []
  | .switch _ => []

/-- What happens to the switch over the events. -/
def untimed (t : TimedSwitch) (events : List TimedEvent) : List SwitchEvent :=
  Runs.outputs step happens t events

/-- The milliseconds that pass over the events. -/
def elapsed (t : TimedSwitch) (events : List TimedEvent) : Nat :=
  (Runs.outputs step passes t events).length

theorem step_of_enabled {t : TimedSwitch} {e : SwitchEvent}
    (h : t.enabled e = true) : t.step (.switch e) =
      { switch := t.switch.step e
        findAlarm := t.switch.findAlarmAfter t.findAlarm e
        alarm := t.switch.alarmAfter t.alarm e } :=
  if_pos h

theorem step_of_not_enabled {t : TimedSwitch} {e : SwitchEvent}
    (h : ¬ t.enabled e = true) : t.step (.switch e) = t :=
  if_neg h

theorem elapsed_append (t : TimedSwitch) (before after : List TimedEvent) :
    t.elapsed (before ++ after) =
      t.elapsed before + (before.foldl step t).elapsed after := by
  rw [elapsed, Runs.outputs_append, List.length_append]
  rfl

theorem elapsed_tick {t : TimedSwitch} (hserved : t.served = true)
    (events : List TimedEvent) :
    t.elapsed (.tick :: events) = (t.step .tick).elapsed events + 1 := by
  rw [elapsed, Runs.outputs_cons, List.length_append, passes, if_pos hserved,
    List.length_singleton, Nat.add_comm]
  rfl

/-- What happens takes no time. -/
theorem elapsed_switch (t : TimedSwitch) (e : SwitchEvent)
    (events : List TimedEvent) : t.elapsed (.switch e :: events) =
      (t.step (.switch e)).elapsed events := rfl

/-! ### A run in time is a run -/

theorem step_switch (t : TimedSwitch) (e : TimedEvent) :
    (t.step e).switch = (t.happens e).foldl LightSwitch.step t.switch := by
  cases e with
  | tick =>
      simp only [step, happens]
      split <;> rfl
  | switch e =>
      simp only [step, happens]
      split <;> rfl

theorem foldl_switch (t : TimedSwitch) (events : List TimedEvent) :
    (events.foldl step t).switch =
      (t.untimed events).foldl LightSwitch.step t.switch :=
  Runs.foldl_project step_switch t events

/-- The timers run when the switch says so; the search alarm is periodic and the
hold timer is not. -/
structure Timers (t : TimedSwitch) : Prop where
  findAlarm : t.findAlarm.isRunning = t.switch.bulbCtx.findAlarm
  alarm : t.alarm.isRunning = t.switch.buttonsCtx.alarm
  findAlarm_period : t.findAlarm.HasPeriod matchDescReqTimeout
  alarm_period : t.alarm.HasPeriod 0

/-- The search alarm, after an event that may happen. -/
theorem findAlarmAfter_spec {s : LightSwitch} {timer : KTimer}
    (hrun : timer.isRunning = s.bulbCtx.findAlarm)
    (hperiod : timer.HasPeriod matchDescReqTimeout) {e : SwitchEvent}
    (hdue : e = .findAlarm → timer.isDue = true) :
    (s.findAlarmAfter timer e).isRunning = (s.step e).bulbCtx.findAlarm ∧
      (s.findAlarmAfter timer e).HasPeriod matchDescReqTimeout := by
  cases e with
  | findAlarm =>
      have hrunning := KTimer.isRunning_of_isDue (hdue rfl)
      refine ⟨?_, hperiod.expire⟩
      simp only [LightSwitch.findAlarmAfter, LightSwitch.step, ← hrun, hrunning,
        if_true, hperiod.expire_of_isDue (hdue rfl)]
      exact hrunning.symm.trans hrun
  | matchDescResp resp =>
      simp only [LightSwitch.findAlarmAfter, LightSwitch.step,
        LightSwitch.findLightBulbCb]
      split_ifs with hboth hreq haccept hreq haccept
      · exact ⟨rfl, trivial⟩
      · exact absurd hboth.2 ‹_›
      · exact absurd hboth.1 ‹_›
      · exact absurd ⟨hreq, haccept⟩ hboth
      · exact ⟨hrun, hperiod⟩
      · exact ⟨hrun, hperiod⟩
  | signal sig status leaveType =>
      cases sig with
      | bdbSignalDeviceReboot | bdbSignalSteering =>
          simp only [LightSwitch.findAlarmAfter, LightSwitch.step,
            LightSwitch.zbossSignalHandler]
          split_ifs
          · exact ⟨rfl, rfl⟩
          · exact ⟨hrun, hperiod⟩
      | zdoSignalLeave =>
          simp only [LightSwitch.findAlarmAfter, LightSwitch.step,
            LightSwitch.zbossSignalHandler]
          split_ifs <;> exact ⟨hrun, hperiod⟩
      | commonSignalCanSleep | other id => exact ⟨hrun, hperiod⟩
  | buttons | buttonsAlarm | nusWork => exact ⟨hrun, hperiod⟩
  | delayed index =>
      simp only [LightSwitch.findAlarmAfter, LightSwitch.step]
      cases s.delayed[index]? with
      | none => exact ⟨hrun, hperiod⟩
      | some d =>
          simp only
          cases d.callback <;> exact ⟨hrun, hperiod⟩

/-- The edge of a button starts the hold timer, stops it or leaves it alone. -/
theorem alarmEdge_spec {ctx : ButtonsContext} {timer : KTimer}
    (hrun : timer.isRunning = ctx.alarm) (hperiod : timer.HasPeriod 0)
    (buttonState : UInt32) (cmdId : UInt16) :
    let after := if buttonState = buttonOn ∨ buttonState = buttonOff then
        KTimer.start buttonLongPollTmo 0
      else if buttonState = 0 then .stopped
      else timer
    after.isRunning = (ctx.buttonEdge buttonState cmdId).1.alarm ∧
      after.HasPeriod 0 := by
  simp only [ButtonsContext.buttonEdge]
  split_ifs
  · exact ⟨rfl, rfl⟩
  · exact ⟨rfl, trivial⟩
  · exact ⟨rfl, trivial⟩
  · exact ⟨hrun, hperiod⟩

/-- The hold timer, after an event that may happen. -/
theorem alarmAfter_spec {s : LightSwitch} {timer : KTimer}
    (hrun : timer.isRunning = s.buttonsCtx.alarm)
    (hperiod : timer.HasPeriod 0) {e : SwitchEvent}
    (hdue : ∀ dkGetButtons, e = .buttonsAlarm dkGetButtons →
      timer.isDue = true) :
    (s.alarmAfter timer e).isRunning = (s.step e).buttonsCtx.alarm ∧
      (s.alarmAfter timer e).HasPeriod 0 := by
  have hother : s.buttonEvent e = none → s.alarmAfter timer e = timer →
      (s.alarmAfter timer e).isRunning = (s.step e).buttonsCtx.alarm ∧
        (s.alarmAfter timer e).HasPeriod 0 := by
    intro hevent hsame
    rw [hsame, (LightSwitch.step_of_not_buttonEvent hevent).1]
    exact ⟨hrun, hperiod⟩
  cases e with
  | buttons buttonState hasChanged wasFactoryResetDone =>
      simp only [LightSwitch.alarmAfter, LightSwitch.step,
        LightSwitch.getOutDelayed, ButtonsContext.buttonHandler]
      by_cases hknown : s.bulbCtx.shortAddr = noBulb
      · simp only [if_pos hknown]
        exact ⟨hrun, hperiod⟩
      · by_cases hon : hasChanged = buttonOn
        · simp only [if_neg hknown, hon, true_or, if_true]
          exact alarmEdge_spec hrun hperiod buttonState _
        · by_cases hoff : hasChanged = buttonOff
          · have hne : buttonOff ≠ buttonOn := by decide
            simp only [if_neg hknown, hoff, or_true, if_true, if_neg hne]
            exact alarmEdge_spec hrun hperiod buttonState _
          · simp only [if_neg hknown, hon, hoff, or_self, if_false]
            split_ifs <;> exact ⟨hrun, hperiod⟩
  | buttonsAlarm dkGetButtons =>
      have hrunning := KTimer.isRunning_of_isDue (hdue dkGetButtons rfl)
      simp only [LightSwitch.alarmAfter, LightSwitch.step,
        LightSwitch.getOutDelayed, ButtonsContext.alarmExpiry, ← hrun, hrunning,
        if_true, ButtonsContext.lightSwitchButtonHandler]
      by_cases hdown : dkGetButtons &&& s.buttonsCtx.state ≠ 0
      · simp only [if_pos hdown]
        exact ⟨rfl, rfl⟩
      · simp only [if_neg hdown]
        rw [hperiod.expire_of_isDue (hdue dkGetButtons rfl)]
        exact ⟨rfl, trivial⟩
  | findAlarm | matchDescResp | signal | nusWork | delayed =>
      exact hother rfl rfl

theorem Timers.step {t : TimedSwitch} (h : t.Timers) (e : TimedEvent) :
    (t.step e).Timers := by
  cases e with
  | tick =>
      simp only [TimedSwitch.step]
      split
      · exact ⟨(KTimer.tick_isRunning _).trans h.findAlarm,
          (KTimer.tick_isRunning _).trans h.alarm, h.findAlarm_period.tick,
          h.alarm_period.tick⟩
      · exact h
  | switch e =>
      simp only [TimedSwitch.step]
      split
      · next henabled =>
          have hfind := findAlarmAfter_spec h.findAlarm h.findAlarm_period
            (e := e) (by rintro rfl; exact henabled)
          have halarm := alarmAfter_spec h.alarm h.alarm_period (e := e)
            (by rintro dkGetButtons rfl; exact henabled)
          exact ⟨hfind.1, halarm.1, hfind.2, halarm.2⟩
      · exact h

theorem foldl_timers {t : TimedSwitch} (h : t.Timers)
    (events : List TimedEvent) : (events.foldl TimedSwitch.step t).Timers :=
  List.foldlRecOn events TimedSwitch.step h fun _ hs e _ => hs.step e

theorem start_timers : start.Timers :=
  ⟨rfl, rfl, trivial, trivial⟩

/-- Serving an expiry leaves nothing due. -/
theorem findAlarm_not_isDue {t : TimedSwitch} (h : t.Timers) :
    (t.step (.switch .findAlarm)).findAlarm.isDue = false := by
  by_cases hdue : t.findAlarm.isDue = true
  · rw [step_of_enabled (e := .findAlarm) hdue]
    simp only [LightSwitch.findAlarmAfter,
      h.findAlarm_period.expire_of_isDue hdue]
    rfl
  · rw [step_of_not_enabled (e := .findAlarm) hdue]
    simpa using hdue

theorem alarm_not_isDue {t : TimedSwitch} (h : t.Timers)
    (dkGetButtons : UInt32) :
    (t.step (.switch (.buttonsAlarm dkGetButtons))).alarm.isDue = false := by
  by_cases hdue : t.alarm.isDue = true
  · rw [step_of_enabled (e := .buttonsAlarm dkGetButtons) hdue]
    simp only [LightSwitch.alarmAfter]
    split
    · rfl
    · rw [h.alarm_period.expire_of_isDue hdue]
      rfl
  · rw [step_of_not_enabled (e := .buttonsAlarm dkGetButtons) hdue]
    simpa using hdue

/-- A run in time is a run of the switch in which every expiry is one of a
running timer, and once the expiries that are due have been served time
passes. -/
structure Refines (events : List TimedEvent) : Prop where
  run : (run events).switch = LightSwitch.run (start.untimed events)
  timers : (TimedSwitch.run events).Timers
  advances : ∀ dkGetButtons,
    (((TimedSwitch.run events).step (.switch .findAlarm)).step
      (.switch (.buttonsAlarm dkGetButtons))).served = true

theorem run_refines (events : List TimedEvent) : Refines events := by
  have htimers := foldl_timers start_timers events
  refine ⟨foldl_switch start events, htimers, ?_⟩
  intro dkGetButtons
  have hfind : (((run events).step (.switch .findAlarm)).step
      (.switch (.buttonsAlarm dkGetButtons))).findAlarm.isDue = false := by
    have hserved := findAlarm_not_isDue htimers
    rw [step]
    split <;> exact hserved
  have halarm := alarm_not_isDue (htimers.step (.switch .findAlarm))
    dkGetButtons
  rw [served, hfind]
  change (true && !KTimer.isDue _) = true
  rw [Bool.true_and]
  exact congrArg not halarm

end TimedSwitch

end ZbLightbulb
