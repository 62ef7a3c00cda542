/-
How the switch behaves in time: how far a hold of a button dims, and when the
search for a bulb is repeated.
-/
import ZbLightbulb.TimedSwitch

namespace ZbLightbulb

namespace TimedSwitch

/-- The callbacks an event queues because `requester` asks for them. -/
def asks (requester : Requester) (t : TimedSwitch) :
    TimedEvent → List Callback
  | .tick => []
  | .switch e =>
      if t.enabled e then
        ((t.switch.enqueues e).filter fun d => d.requester == requester).map
          Delayed.callback
      else []

/-- All that `requester` asks for over the events. -/
def askedBy (requester : Requester) (t : TimedSwitch)
    (events : List TimedEvent) : List Callback :=
  Runs.outputs step (asks requester) t events

/-! ### A hold -/

/-- A button is held: it is not notified, and every scan shows it. -/
def Holding (button : BulbButton) : TimedEvent → Prop
  | .switch (.buttons _ _ _) => False
  | .switch (.buttonsAlarm dkGetButtons) => dkGetButtons &&& button.mask ≠ 0
  | _ => True

/-- A button has been down for `ticks` ms, in which `served` expiries of the
hold timer have found it down. -/
structure Held (button : BulbButton) (ticks served : Nat) (t : TimedSwitch) :
    Prop where
  timer : KTimer.Since buttonLongPollTmo buttonLongPollTmo ticks served t.alarm
  ctx : t.switch.buttonsCtx = ⟨button.mask, decide (0 < served), true⟩

section Hold

variable {button : BulbButton} {t : TimedSwitch}

/-- What the buttons ask for in an event that may happen. -/
theorem asks_buttons {e : SwitchEvent} (henabled : t.enabled e = true)
    {b : ButtonEvent} (h : t.switch.buttonEvent e = some b) :
    t.asks .buttons (.switch e) = (t.switch.buttonsCtx.handle b).2 := by
  simp [asks, henabled, LightSwitch.enqueues_of_buttonEvent h, List.filter_map,
    Function.comp_def]

theorem asks_buttons_none {e : SwitchEvent}
    (h : t.switch.buttonEvent e = none) :
    t.asks .buttons (.switch e) = [] := by
  rw [asks, LightSwitch.enqueues_of_not_buttonEvent h]
  split <;> rfl

/-- The press starts the hold timer. -/
theorem held_press (hknown : t.switch.bulbCtx.shortAddr ≠ noBulb)
    (hlong : t.switch.buttonsCtx.longPoll = false)
    (wasFactoryResetDone : Bool) :
    (t.step (.switch (.buttons button.mask button.mask
        wasFactoryResetDone))).Held button 0 0 ∧
      t.asks .buttons (.switch (.buttons button.mask button.mask
        wasFactoryResetDone)) = [] := by
  have hevent := LightSwitch.buttonEvent_of_known hknown button.mask button.mask
    wasFactoryResetDone
  have hhandle := ButtonsContext.handle_press t.switch.buttonsCtx
    ⟨t.switch.bulbCtx.shortAddr, hknown, wasFactoryResetDone⟩ button
  have henabled : t.enabled (.buttons button.mask button.mask
    wasFactoryResetDone) = true := rfl
  refine ⟨?_, ?_⟩
  · rw [step_of_enabled henabled]
    constructor
    · have hedge : button.mask = buttonOn ∨ button.mask = buttonOff := by
        cases button <;> decide
      simp only [LightSwitch.alarmAfter, if_neg hknown, if_pos hedge]
      exact KTimer.Since.start _ _ _
    · rw [(LightSwitch.step_of_buttonEvent hevent).1, hhandle]
      simp only [hlong]
      rfl
  · rw [asks_buttons henabled hevent, hhandle]

/-- An expiry that finds the button down asks for a step and starts the timer
again. -/
theorem handle_expiry_down {ctx : ButtonsContext}
    (hstate : ctx.state = button.mask) (halarm : ctx.alarm = true)
    {dkGetButtons : UInt32} (hdown : dkGetButtons &&& button.mask ≠ 0) :
    ctx.handle (.expiry dkGetButtons) =
      ({ ctx with longPoll := true, alarm := true },
        [.lightSwitchSendStep button.stepMode]) := by
  cases button <;>
    simp_all [ButtonsContext.handle, ButtonsContext.alarmExpiry,
      ButtonsContext.lightSwitchButtonHandler, BulbButton.mask,
      BulbButton.stepMode, buttonOn, buttonOff]

theorem Held.step {ticks served : Nat} (h : t.Held button ticks served)
    {e : TimedEvent} (hholding : Holding button e) :
    ∃ more, (t.step e).Held button (ticks + (t.passes e).length)
        (served + more) ∧
      t.asks .buttons e =
        List.replicate more (.lightSwitchSendStep button.stepMode) := by
  cases e with
  | tick =>
      refine ⟨0, ?_, rfl⟩
      by_cases hserved : t.served = true
      · have hdue : t.alarm.isDue = false := by
          simp only [TimedSwitch.served, Bool.and_eq_true,
            Bool.not_eq_true'] at hserved
          exact hserved.2
        simp only [TimedSwitch.step, passes, if_pos hserved,
          List.length_singleton]
        exact ⟨h.timer.tick hdue, h.ctx⟩
      · simp only [TimedSwitch.step, passes, if_neg hserved, List.length_nil]
        exact h
  | switch e =>
      by_cases henabled : t.enabled e = true
      · have hother : t.switch.buttonEvent e = none →
            t.switch.alarmAfter t.alarm e = t.alarm →
            (t.step (.switch e)).Held button ticks served := by
          intro hevent hsame
          rw [step_of_enabled henabled, hsame]
          exact ⟨h.timer, by
            rw [(LightSwitch.step_of_not_buttonEvent hevent).1]
            exact h.ctx⟩
        cases e with
        | buttons => contradiction
        | buttonsAlarm dkGetButtons =>
            have hevent : t.switch.buttonEvent (.buttonsAlarm dkGetButtons) =
              some (.expiry dkGetButtons) := rfl
            have hhandle := handle_expiry_down
              (congrArg ButtonsContext.state h.ctx)
              (congrArg ButtonsContext.alarm h.ctx) hholding
            refine ⟨1, ?_, ?_⟩
            · rw [step_of_enabled henabled]
              constructor
              · have hdown :
                    dkGetButtons &&& t.switch.buttonsCtx.state ≠ 0 := by
                  rw [h.ctx]
                  exact hholding
                simp only [LightSwitch.alarmAfter, if_pos hdown]
                exact h.timer.serve henabled 0
              · rw [(LightSwitch.step_of_buttonEvent hevent).1, hhandle, h.ctx]
                simp
            · rw [asks_buttons henabled hevent, hhandle]
              rfl
        | findAlarm | matchDescResp | signal | nusWork | delayed =>
            exact ⟨0, hother rfl rfl, asks_buttons_none rfl⟩
      · refine ⟨0, ?_, ?_⟩
        · rw [step_of_not_enabled henabled]
          exact h
        · simp only [asks, if_neg henabled, List.replicate_zero]

theorem Held.run {ticks served : Nat} (h : t.Held button ticks served)
    {during : List TimedEvent} (hholding : ∀ e ∈ during, Holding button e) :
    ∃ more, (during.foldl TimedSwitch.step t).Held button
        (ticks + t.elapsed during) (served + more) ∧
      t.askedBy .buttons during =
        List.replicate more (.lightSwitchSendStep button.stepMode) :=
  Runs.outputs_counted (Held button) (fun _ e => Holding button e)
    (fun _ _ _ _ h hholding => h.step hholding) h
    fun _ e hpre => hholding e (Runs.mem_iff_prefix.mpr ⟨_, hpre⟩)

/-- The release asks for the on/off command unless an expiry was served. -/
theorem Held.release {ticks served : Nat} (h : t.Held button ticks served)
    (hknown : t.switch.bulbCtx.shortAddr ≠ noBulb)
    (wasFactoryResetDone : Bool) :
    t.asks .buttons (.switch (.buttons 0 button.mask wasFactoryResetDone)) =
      if served = 0 then [.lightSwitchSendOnOff button.cmdId] else [] := by
  have hevent := LightSwitch.buttonEvent_of_known hknown 0 button.mask
    wasFactoryResetDone
  have hhandle := ButtonsContext.handle_release t.switch.buttonsCtx
    ⟨t.switch.bulbCtx.shortAddr, hknown, wasFactoryResetDone⟩ button
  rw [asks_buttons rfl hevent, hhandle, h.ctx]
  simp

/-- A hold that lasts `ms` milliseconds between its notifications dims by one
step for every 500 of them, and a hold without a step switches.  Only an
expiry that is due and not served when the release is notified is left out. -/
theorem hold_dims_by_time (t : TimedSwitch) (button : BulbButton)
    (hlong : t.switch.buttonsCtx.longPoll = false)
    (hpress : t.switch.bulbCtx.shortAddr ≠ noBulb)
    (during : List TimedEvent) (hholding : ∀ e ∈ during, Holding button e)
    (done done' : Bool) :
    let pressed := t.step (.switch (.buttons button.mask button.mask done))
    let held := during.foldl step pressed
    held.switch.bulbCtx.shortAddr ≠ noBulb →
      ∃ steps, steps + held.alarm.isDue.toNat =
          pressed.elapsed during / 500 ∧
        t.askedBy .buttons
            (.switch (.buttons button.mask button.mask done) ::
              (during ++ [.switch (.buttons 0 button.mask done')])) =
          List.replicate steps (.lightSwitchSendStep button.stepMode) ++
            if steps = 0 then [.lightSwitchSendOnOff button.cmdId] else [] := by
  intro pressed held hrelease
  obtain ⟨hheld, hnone⟩ : pressed.Held button 0 0 ∧ _ :=
    held_press hpress hlong done
  obtain ⟨steps, hsteps, hasked⟩ := hheld.run hholding
  rw [Nat.zero_add, Nat.zero_add] at hsteps
  refine ⟨steps, ?_, ?_⟩
  · rw [← hsteps.timer.expiries_eq (by decide), KTimer.expiries]
    change (if pressed.elapsed during < 500 then 0
      else 1 + (pressed.elapsed during - 500) / 500) = _
    split <;> omega
  · rw [askedBy, Runs.outputs_cons, hnone, List.nil_append, Runs.outputs_concat]
    change pressed.askedBy .buttons during ++ held.asks .buttons _ = _
    rw [hasked, hsteps.release hrelease]

/-- ON is held for 520 ms: one step up and no command. -/
theorem hold_dims_by_time_520 :
    let t : TimedSwitch :=
      { start with switch :=
          { LightSwitch.start with bulbCtx := ⟨10, 0x1234, false⟩ } }
    let during := List.replicate 500 TimedEvent.tick ++
      .switch (.buttonsAlarm 1) :: List.replicate 20 .tick
    t.askedBy .buttons (.switch (.buttons 1 1 false) ::
        (during ++ [.switch (.buttons 0 1 false)])) =
      [.lightSwitchSendStep 0] := by
  intro t during
  have hholding : ∀ e ∈ during, Holding .on e := by
    intro e he
    simp only [during, List.mem_append, List.mem_cons,
      List.mem_replicate] at he
    rcases he with ⟨-, rfl⟩ | rfl | ⟨-, rfl⟩
    · trivial
    · exact (by decide : (1 : UInt32) &&& buttonOn ≠ 0)
    · trivial
  obtain ⟨steps, hsteps, hasked⟩ := hold_dims_by_time t .on rfl (by decide)
    during hholding false false (by decide +kernel)
  have helapsed : (t.step (.switch (.buttons 1 1 false))).elapsed during =
    520 := by decide +kernel
  have hserved : (during.foldl step
    (t.step (.switch (.buttons 1 1 false)))).alarm.isDue = false := by
      decide +kernel
  change steps + (KTimer.isDue (during.foldl step
    (t.step (.switch (.buttons 1 1 false)))).alarm).toNat =
      (t.step (.switch (.buttons 1 1 false))).elapsed during / 500 at hsteps
  rw [helapsed, hserved] at hsteps
  subst hsteps
  exact hasked

end Hold

/-! ### The search -/

/-- The search goes on: no signal starts it anew and no response is accepted. -/
def Undisturbed (t : TimedSwitch) : TimedEvent → Prop
  | .tick => True
  | .switch e => ¬ LightSwitch.Joins e ∧ ∀ resp, ¬ t.switch.AcceptsResp e resp

/-- The search alarm was started `ticks` ms ago, and `served` of its expiries
have been served. -/
structure Searching (ticks served : Nat) (t : TimedSwitch) : Prop where
  timer : KTimer.Since matchDescReqStartDelay matchDescReqTimeout ticks served
    t.findAlarm
  period : t.findAlarm.HasPeriod matchDescReqTimeout
  runs : t.switch.bulbCtx.findAlarm = true

section Search

variable {t : TimedSwitch}

theorem asks_findAlarm_none {e : SwitchEvent} (h : e ≠ .findAlarm) :
    t.asks .findAlarm (.switch e) = [] := by
  have hnone : ∀ d ∈ t.switch.enqueues e,
      ¬ (d.requester == .findAlarm) = true := by
    intro d hd hfind
    have hown := LightSwitch.requester_of_mem_enqueues hd
    rw [eq_of_beq hfind] at hown
    cases e with
    | findAlarm => contradiction
    | buttons | buttonsAlarm | nusWork | matchDescResp | signal | delayed =>
        simp [SwitchEvent.requester] at hown
  rw [asks, List.filter_eq_nil_iff.mpr hnone]
  split <;> rfl

/-- What is not accepted and does not join leaves the search alarm alone. -/
theorem findAlarmAfter_undisturbed {e : SwitchEvent} (hnot : e ≠ .findAlarm)
    (h : Undisturbed t (.switch e)) :
    t.switch.findAlarmAfter t.findAlarm e = t.findAlarm := by
  cases e with
  | findAlarm => contradiction
  | matchDescResp resp =>
      apply if_neg
      intro haccept
      exact h.2 resp ⟨rfl, haccept⟩
  | signal sig status leaveType =>
      have hjoin := h.1
      rw [LightSwitch.joins_signal, not_and] at hjoin
      cases sig with
      | bdbSignalDeviceReboot =>
          exact if_neg fun hstart => hjoin hstart.1 (Or.inl rfl)
      | bdbSignalSteering =>
          exact if_neg fun hstart => hjoin hstart.1 (Or.inr rfl)
      | zdoSignalLeave | commonSignalCanSleep | other => rfl
  | buttons | buttonsAlarm | nusWork | delayed => rfl

theorem runs_undisturbed {e : SwitchEvent} (h : Undisturbed t (.switch e))
    (hruns : t.switch.bulbCtx.findAlarm = true) :
    (t.switch.step e).bulbCtx.findAlarm = true := by
  have hstep := t.switch.step_bulbCtx e
  generalize (t.switch.step e).bulbCtx = ctx at hstep
  cases hstep with
  | accepts resp haccept => exact absurd haccept (h.2 resp)
  | forgets => exact hruns
  | arms => rfl
  | keeps => exact hruns

theorem Searching.step {ticks served : Nat} (h : t.Searching ticks served)
    {e : TimedEvent} (hsearch : Undisturbed t e) :
    ∃ more, (t.step e).Searching (ticks + (t.passes e).length)
        (served + more) ∧
      t.asks .findAlarm e = List.replicate more .findLightBulb := by
  cases e with
  | tick =>
      refine ⟨0, ?_, rfl⟩
      by_cases hserved : t.served = true
      · have hdue : t.findAlarm.isDue = false := by
          simp only [TimedSwitch.served, Bool.and_eq_true,
            Bool.not_eq_true'] at hserved
          exact hserved.1
        simp only [TimedSwitch.step, passes, if_pos hserved,
          List.length_singleton]
        exact ⟨h.timer.tick hdue, h.period.tick, h.runs⟩
      · simp only [TimedSwitch.step, passes, if_neg hserved, List.length_nil]
        exact h
  | switch e =>
      by_cases henabled : t.enabled e = true
      · have hruns := runs_undisturbed hsearch h.runs
        by_cases hfind : e = .findAlarm
        · subst hfind
          refine ⟨1, ?_, ?_⟩
          · rw [step_of_enabled henabled]
            refine ⟨?_, h.period.expire, hruns⟩
            simp only [LightSwitch.findAlarmAfter,
              h.period.expire_of_isDue henabled]
            exact h.timer.serve henabled matchDescReqTimeout
          · simp [asks, henabled, LightSwitch.enqueues, h.runs]
        · refine ⟨0, ?_, asks_findAlarm_none hfind⟩
          rw [step_of_enabled henabled,
            findAlarmAfter_undisturbed hfind hsearch]
          exact ⟨h.timer, h.period, hruns⟩
      · refine ⟨0, ?_, ?_⟩
        · rw [step_of_not_enabled henabled]
          exact h
        · simp only [asks, if_neg henabled, List.replicate_zero]

/-- A signal that joins without a bulb starts the search alarm. -/
theorem searching_join (hnone : t.switch.bulbCtx.shortAddr = noBulb)
    {e : SwitchEvent} (hjoin : LightSwitch.Joins e) :
    (t.step (.switch e)).Searching 0 0 := by
  obtain ⟨sig, leaveType, rfl, hsig⟩ := hjoin
  rw [step_of_enabled rfl]
  rcases hsig with rfl | rfl
  · simp only [LightSwitch.findAlarmAfter, LightSwitch.step,
      LightSwitch.zbossSignalHandler, hnone, and_self, if_true]
    exact ⟨KTimer.Since.start _ _ _, rfl, rfl⟩
  · simp only [LightSwitch.findAlarmAfter, LightSwitch.step,
      LightSwitch.zbossSignalHandler, hnone, and_self, if_true]
    exact ⟨KTimer.Since.start _ _ _, rfl, rfl⟩

/-- After the switch has joined without a bulb, `find_light_bulb` is queued
after 2 seconds and then every 5, for as long as no response is accepted and
no signal starts the alarm anew.  Only an expiry that is due and not served is
left out. -/
theorem search_repeats (t : TimedSwitch)
    (hnone : t.switch.bulbCtx.shortAddr = noBulb) (e : SwitchEvent)
    (hjoin : LightSwitch.Joins e) (during : List TimedEvent) :
    let joined := t.step (.switch e)
    (∀ passed later, passed ++ [later] <+: during →
      Undisturbed (passed.foldl step joined) later) →
      ∃ searches,
        searches + (during.foldl step joined).findAlarm.isDue.toNat =
          (if joined.elapsed during < 2000 then 0
            else 1 + (joined.elapsed during - 2000) / 5000) ∧
        joined.askedBy .findAlarm during =
          List.replicate searches .findLightBulb := by
  intro joined hsearch
  obtain ⟨searches, hsearches, hasked⟩ :=
    Runs.outputs_counted Searching Undisturbed
      (fun _ _ _ _ h hsearch => h.step hsearch) (searching_join hnone hjoin)
      hsearch
  rw [Nat.zero_add, Nat.zero_add] at hsearches
  exact ⟨searches, (hsearches.timer.expiries_eq (by decide)).symm, hasked⟩

/-- With the hold timer stopped, time passes until the search alarm is due. -/
theorem foldl_ticks {left period : Nat} (halarm : t.alarm = .stopped)
    (ticks : Nat) (hfind : t.findAlarm = .running (left + ticks) period) :
    (List.replicate ticks TimedEvent.tick).foldl step t =
        { t with findAlarm := .running left period } ∧
      t.elapsed (List.replicate ticks .tick) = ticks := by
  induction ticks generalizing t with
  | zero =>
      rw [Nat.add_zero] at hfind
      exact ⟨by rw [← hfind]; rfl, rfl⟩
  | succ ticks ih =>
      have hserved : t.served = true := by
        rw [served, hfind, halarm]
        rfl
      have hstep : t.step .tick =
          { t with findAlarm := .running (left + ticks) period } := by
        simp only [TimedSwitch.step, if_pos hserved, hfind, halarm]
        rfl
      rcases ih (t := t.step .tick) (by rw [hstep]; exact halarm)
        (by rw [hstep]) with ⟨hfold, helapsed⟩
      rw [List.replicate_succ, List.foldl_cons, hfold, elapsed_tick hserved,
        helapsed, hstep]
      exact ⟨rfl, rfl⟩

/-- The search alarm and what waits for a buffer do not end a search. -/
theorem undisturbed_of_quiet {e : SwitchEvent}
    (h : e = .findAlarm ∨ ∃ index, e = .delayed index) :
    Undisturbed t (.switch e) := by
  constructor
  · rintro ⟨sig, leaveType, rfl, -⟩
    simp at h
  · rintro resp ⟨rfl, -⟩
    simp at h

/-- Nobody answers: the search is asked for at 2 and at 7 seconds. -/
theorem search_repeats_unanswered :
    let joined := start.step (.switch (.signal .bdbSignalSteering 0 0))
    let during := List.replicate 2000 TimedEvent.tick ++
      .switch .findAlarm :: .switch (.delayed 0) ::
        (List.replicate 5000 .tick ++ [.switch .findAlarm])
    joined.askedBy .findAlarm during = [.findLightBulb, .findLightBulb] := by
  intro joined during
  have hsearch : ∀ passed later, passed ++ [later] <+: during →
      Undisturbed (passed.foldl step joined) later := by
    intro passed later hpre
    have hmem : later = .tick ∨ later = .switch .findAlarm ∨
        later = .switch (.delayed 0) := by
      have hmem := Runs.mem_iff_prefix.mpr ⟨passed, hpre⟩
      simp only [during, List.mem_append, List.mem_cons, List.mem_replicate,
        List.not_mem_nil, or_false] at hmem
      tauto
    rcases hmem with rfl | rfl | rfl
    · trivial
    · exact undisturbed_of_quiet (Or.inl rfl)
    · exact undisturbed_of_quiet (Or.inr ⟨0, rfl⟩)
  obtain ⟨searches, hsearches, hasked⟩ := search_repeats start rfl
    (.signal .bdbSignalSteering 0 0)
    (LightSwitch.joins_signal.mpr ⟨rfl, Or.inr rfl⟩) during hsearch
  let due : TimedSwitch :=
    { joined with findAlarm := .running 0 matchDescReqTimeout }
  let asked := (due.step (.switch .findAlarm)).step (.switch (.delayed 0))
  have hfirst : (List.replicate 2000 TimedEvent.tick).foldl step joined = due ∧
      joined.elapsed (List.replicate 2000 .tick) = 2000 :=
    foldl_ticks rfl 2000 rfl
  have hsecond : (List.replicate 5000 TimedEvent.tick).foldl step asked =
        { asked with findAlarm := .running 0 matchDescReqTimeout } ∧
      asked.elapsed (List.replicate 5000 .tick) = 5000 :=
    foldl_ticks rfl 5000 rfl
  have helapsed : joined.elapsed during = 7000 := by
    rw [elapsed_append, hfirst.2, hfirst.1, elapsed_switch, elapsed_switch,
      elapsed_append]
    change 2000 + (asked.elapsed _ + _) = 7000
    rw [hsecond.2]
    rfl
  have hlast : (during.foldl step joined).findAlarm.isDue = false := by
    rw [List.foldl_append, hfirst.1, List.foldl_cons, List.foldl_cons,
      List.foldl_append]
    change KTimer.isDue (List.foldl step (List.foldl step asked _) _).findAlarm =
      false
    rw [hsecond.1]
    rfl
  change searches + (KTimer.isDue (during.foldl step joined).findAlarm).toNat =
    if joined.elapsed during < 2000 then 0
    else 1 + (joined.elapsed during - 2000) / 5000 at hsearches
  rw [helapsed, hlast] at hsearches
  subst hsearches
  exact hasked

end Search

end TimedSwitch

end ZbLightbulb
