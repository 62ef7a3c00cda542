/-
Dimming by the buttons of the switch over arbitrary runs: which expiry of the
hold timer queues which step, and how the timer comes to rest once the buttons
are up.
-/
import ZbLightbulb.SwitchButtons

namespace ZbLightbulb

namespace ButtonsContext

/-- What `state` can hold. -/
def StateKnown (ctx : ButtonsContext) : Prop :=
  ctx.state = 0 ∨ ctx.state = buttonOn ∨ ctx.state = buttonOff

theorem buttonEdge_stateKnown {ctx : ButtonsContext} (h : ctx.StateKnown)
    (buttonState : UInt32) (cmdId : UInt16) :
    (ctx.buttonEdge buttonState cmdId).1.StateKnown := by
  simp only [buttonEdge]
  split_ifs with hpress
  · exact Or.inr hpress
  · exact h
  · exact h
  · exact h

/-- `state` is assigned only a mask of a single button. -/
theorem handle_stateKnown {ctx : ButtonsContext} (h : ctx.StateKnown)
    (b : ButtonEvent) : (ctx.handle b).1.StateKnown := by
  cases b with
  | notify n buttonState hasChanged =>
      simp only [handle, buttonHandler]
      split_ifs
      · exact h
      · exact buttonEdge_stateKnown h _ _
      · exact buttonEdge_stateKnown h _ _
      · exact h
      · exact h
      · exact h
      · exact h
  | expiry dkGetButtons =>
      simp only [handle, alarmExpiry, lightSwitchButtonHandler]
      split_ifs <;> exact h

/-- No notification queues a step. -/
theorem not_step_of_notify (ctx : ButtonsContext) (n : Notification)
    (buttonState hasChanged : UInt32) (cmdId : UInt16) :
    .lightSwitchSendStep cmdId ∉
      (ctx.handle (.notify n buttonState hasChanged)).2 := by
  simp only [handle, buttonHandler, buttonEdge]
  split_ifs <;> simp

/-- An expiry that finds the button down queues the step of that button. -/
theorem alarmExpiry_step {ctx : ButtonsContext} (h : ctx.StateKnown)
    {dkGetButtons : UInt32} {cmdId : UInt16}
    (hstep : .lightSwitchSendStep cmdId ∈ (ctx.alarmExpiry dkGetButtons).2) :
    ctx.alarm = true ∧
      ((cmdId = zbZclLevelControlStepModeUp ∧
          dkGetButtons &&& buttonOn ≠ 0) ∨
        (cmdId = zbZclLevelControlStepModeDown ∧
          dkGetButtons &&& buttonOff ≠ 0)) := by
  simp only [alarmExpiry, lightSwitchButtonHandler] at hstep
  split_ifs at hstep with halarm hdown hon
  · rw [hon] at hdown
    simp at hstep
    exact ⟨halarm, Or.inl ⟨hstep, hdown⟩⟩
  · simp at hstep
    rcases h with hzero | hon' | hoff
    · rw [hzero, UInt32.and_zero] at hdown
      contradiction
    · contradiction
    · rw [hoff] at hdown
      exact ⟨halarm, Or.inr ⟨hstep, hdown⟩⟩
  · contradiction
  · contradiction

/-- With both buttons up an expiry clears the flag and leaves the timer
stopped. -/
theorem alarmExpiry_up {ctx : ButtonsContext} (h : ctx.StateKnown)
    {dkGetButtons : UInt32} (hon : dkGetButtons &&& buttonOn = 0)
    (hoff : dkGetButtons &&& buttonOff = 0) :
    ctx.alarmExpiry dkGetButtons =
      (if ctx.alarm then { ctx with longPoll := false, alarm := false }
        else ctx, []) := by
  have hup : dkGetButtons &&& ctx.state = 0 := by
    rcases h with hzero | hon' | hoff'
    · rw [hzero, UInt32.and_zero]
    · rw [hon', hon]
    · rw [hoff', hoff]
  simp only [alarmExpiry, lightSwitchButtonHandler, hup, ne_eq,
    not_true_eq_false, if_false]
  split <;> rfl

end ButtonsContext

namespace LightSwitch

/-- What an event queues for the buttons. -/
def queues (s : LightSwitch) (e : SwitchEvent) : List Callback :=
  match s.buttonEvent e with
  | none => []
  | some b => (s.buttonsCtx.handle b).2

/-- The event is an expiry of the running hold timer. -/
def expires (s : LightSwitch) : SwitchEvent → Bool
  | .buttonsAlarm _ => s.buttonsCtx.alarm
  | _ => false

/-- A step is queued for the buttons only at an expiry of the running timer that
finds its button down: ON for a step up, OFF for a step down. -/
def StepsByButton (s : LightSwitch) : Prop :=
  ∀ e cmdId, .lightSwitchSendStep cmdId ∈ s.queues e →
    ∃ dkGetButtons, e = .buttonsAlarm dkGetButtons ∧
      s.buttonsCtx.alarm = true ∧
      ((cmdId = zbZclLevelControlStepModeUp ∧
          dkGetButtons &&& buttonOn ≠ 0) ∨
        (cmdId = zbZclLevelControlStepModeDown ∧
          dkGetButtons &&& buttonOff ≠ 0))

/-- No notification, and no scan that shows one of the two buttons. -/
def ButtonsUp : SwitchEvent → Prop
  | .buttons _ _ _ => False
  | .buttonsAlarm dkGetButtons =>
      dkGetButtons &&& buttonOn = 0 ∧ dkGetButtons &&& buttonOff = 0
  | _ => True

/-- The expiries of the running timer among the events. -/
def expiries (s : LightSwitch) (events : List SwitchEvent) :
    List SwitchEvent :=
  (Runs.emit (fun s e => (s.step e, if s.expires e then [e] else [])) s
    events).2

/-- All that the events queue for the buttons. -/
def queuedOver (s : LightSwitch) (events : List SwitchEvent) : List Callback :=
  (Runs.emit (fun s e => (s.step e, s.queues e)) s events).2

/-- The timer expires at most once more and nothing is queued; an expiry leaves
it stopped and `long_poll` clear. -/
structure ComesToRest (s : LightSwitch) (events : List SwitchEvent) :
    Prop where
  once : (s.expiries events).length ≤ 1
  silent : s.queuedOver events = []
  rests : s.expiries events ≠ [] → (events.foldl step s).buttonsCtx.Idle

theorem run_stateKnown (events : List SwitchEvent) :
    (run events).buttonsCtx.StateKnown := by
  have hstart : start.buttonsCtx.StateKnown := Or.inl rfl
  rw [(run_buttons events).1]
  apply Runs.emit_invariant _ (buttonEvents events) hstart
  intro ctx b h
  exact ButtonsContext.handle_stateKnown h b

theorem stepsByButton_of_stateKnown {s : LightSwitch}
    (h : s.buttonsCtx.StateKnown) : s.StepsByButton := by
  intro e cmdId hstep
  cases hevent : s.buttonEvent e with
  | none =>
      simp only [queues, hevent] at hstep
      contradiction
  | some b =>
      simp only [queues, hevent] at hstep
      cases e with
      | buttons buttonState hasChanged wasFactoryResetDone =>
          by_cases hknown : s.bulbCtx.shortAddr = noBulb
          · simp only [buttonEvent, dif_pos hknown] at hevent
            contradiction
          · simp only [buttonEvent, dif_neg hknown, Option.some.injEq] at hevent
            rw [← hevent] at hstep
            exact absurd hstep (ButtonsContext.not_step_of_notify _ _ _ _ _)
      | buttonsAlarm dkGetButtons =>
          simp only [buttonEvent, Option.some.injEq] at hevent
          rw [← hevent] at hstep
          exact ⟨dkGetButtons, rfl, ButtonsContext.alarmExpiry_step h hstep⟩
      | findAlarm | matchDescResp | signal | nusWork | delayed => contradiction

/-- With the buttons up an event touches `buttons_ctx` only as an expiry. -/
theorem step_up {s : LightSwitch} (h : s.buttonsCtx.StateKnown)
    {e : SwitchEvent} (hup : ButtonsUp e) :
    s.queues e = [] ∧ (s.step e).buttonsCtx =
      if s.expires e then
        { s.buttonsCtx with longPoll := false, alarm := false }
      else s.buttonsCtx := by
  have hother : s.buttonEvent e = none → s.expires e = false →
      s.queues e = [] ∧ (s.step e).buttonsCtx =
        if s.expires e then
          { s.buttonsCtx with longPoll := false, alarm := false }
        else s.buttonsCtx := by
    intro hevent hnot
    simp only [queues, hevent, hnot, Bool.false_eq_true, if_false, true_and]
    exact (step_of_not_buttonEvent hevent).1
  cases e with
  | buttons => contradiction
  | buttonsAlarm dkGetButtons =>
      have hexpiry := ButtonsContext.alarmExpiry_up h hup.1 hup.2
      constructor
      · exact congrArg Prod.snd hexpiry
      · exact congrArg Prod.fst hexpiry
  | findAlarm | matchDescResp | signal | nusWork | delayed =>
      exact hother rfl rfl

theorem alarm_of_expires {s : LightSwitch} {e : SwitchEvent}
    (h : s.expires e = true) : s.buttonsCtx.alarm = true := by
  cases e with
  | buttonsAlarm => exact h
  | _ => contradiction

/-- With the buttons up only a running timer expires, only once, and nothing
else changes `buttons_ctx`. -/
theorem run_up {events : List SwitchEvent} (hup : ∀ e ∈ events, ButtonsUp e)
    {s : LightSwitch} (h : s.buttonsCtx.StateKnown) :
    s.queuedOver events = [] ∧
      (s.expiries events).length ≤ s.buttonsCtx.alarm.toNat ∧
      (s.expiries events = [] ∧
          (events.foldl step s).buttonsCtx = s.buttonsCtx ∨
        (events.foldl step s).buttonsCtx.Idle) := by
  induction events generalizing s with
  | nil => exact ⟨rfl, Nat.zero_le _, Or.inl ⟨rfl, rfl⟩⟩
  | cons e events ih =>
      rcases step_up h (hup e List.mem_cons_self) with ⟨hqueue, hctx⟩
      have hknown : (s.step e).buttonsCtx.StateKnown := by
        rw [hctx]
        split <;> exact h
      rcases ih (fun later hlater => hup later (List.mem_cons_of_mem e hlater))
        hknown with ⟨hqueued, honce, hlast⟩
      have hexpiries : s.expiries (e :: events) =
          (if s.expires e then [e] else []) ++
            (s.step e).expiries events := rfl
      constructor
      · simp only [queuedOver, Runs.emit_cons, hqueue, List.nil_append]
        exact hqueued
      · rw [hexpiries, List.foldl_cons]
        cases hexpires : s.expires e with
        | true =>
            rw [hexpires, if_pos rfl] at hctx
            rw [hctx] at honce hlast
            have hnone : (s.step e).expiries events = [] :=
              List.eq_nil_of_length_eq_zero (Nat.le_zero.mp honce)
            rw [hnone, alarm_of_expires hexpires]
            refine ⟨Nat.le_refl 1, Or.inr ?_⟩
            rcases hlast with ⟨-, hstays⟩ | hidle
            · rw [hstays]
              exact ⟨rfl, rfl⟩
            · exact hidle
        | false =>
            rw [hexpires, if_neg (by decide)] at hctx
            rw [hctx] at honce hlast
            exact ⟨honce, hlast⟩

theorem comesToRest_up {events : List SwitchEvent}
    (hup : ∀ e ∈ events, ButtonsUp e) {s : LightSwitch}
    (h : s.buttonsCtx.StateKnown) : s.ComesToRest events := by
  rcases run_up hup h with ⟨hsilent, honce, hlast⟩
  refine ⟨Nat.le_trans honce (Bool.toNat_le _), hsilent, ?_⟩
  intro hexpired
  exact hlast.resolve_left fun hnone => hexpired hnone.1

/-- No run-away and no wrong-way dimming: after any run steps are queued only by
the button that is down, and with both buttons up and no further notification
the timer comes to rest. -/
theorem no_runaway_dimming (before : List SwitchEvent) :
    (run before).StepsByButton ∧
      ∀ after, (∀ e ∈ after, ButtonsUp e) →
        (run before).ComesToRest after := by
  have hknown := run_stateKnown before
  exact ⟨stepsByButton_of_stateKnown hknown,
    fun _ hup => comesToRest_up hup hknown⟩

/-- ON is pressed, and up again at the next two scans. -/
theorem no_runaway_dimming_pressed :
    let before : List SwitchEvent :=
      [.signal .bdbSignalSteering 0 0, .findAlarm, .delayed 0,
        .matchDescResp ⟨0, 1, 10, 0x1234⟩, .buttons 1 1 false]
    (run before).buttonsCtx.alarm = true ∧
      (run before).ComesToRest [.buttonsAlarm 0, .buttonsAlarm 0] := by
  intro before
  refine ⟨by decide, (no_runaway_dimming before).2 _ ?_⟩
  intro e he
  have he : e = .buttonsAlarm 0 := by simpa using he
  rw [he]
  exact ⟨rfl, rfl⟩

end LightSwitch

end ZbLightbulb
