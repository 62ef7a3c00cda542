/-
The callbacks of the switch over a run: whoever asks for one, it waits until the
stack has a buffer, and then runs once.
-/
import ZbLightbulb.Lib.Outputs
import ZbLightbulb.SwitchButtons

namespace ZbLightbulb

/-- The command a callback sends. -/
def Callback.command : Callback → Option ZclCommand
  | .lightSwitchSendOnOff cmdId => some (.onOff cmdId)
  | .lightSwitchSendStep cmdId =>
      some (.levelControlStep cmdId dimmStep dimmTransactionTime)
  | .findLightBulb => none
  | .startIdentifying => none

/-- The callback was asked for by `requester` and sends the command. -/
def Delayed.sends (requester : Requester) (c : ZclCommand) (d : Delayed) :
    Bool :=
  d.requester == requester && d.callback.command == some c

/-- In whose name an event asks for callbacks. -/
def SwitchEvent.requester : SwitchEvent → Option Requester
  | .findAlarm => some .findAlarm
  | .buttons _ _ _ | .buttonsAlarm _ => some .buttons
  | .nusWork _ => some .nus
  | .matchDescResp _ | .signal _ _ _ | .delayed _ => none

namespace LightSwitch

/-- The callbacks an event asks for. -/
def enqueues (s : LightSwitch) : SwitchEvent → List Delayed
  | .findAlarm =>
      if s.bulbCtx.findAlarm then [⟨.findLightBulb, .findAlarm⟩] else []
  | .buttons buttonState hasChanged wasFactoryResetDone =>
      (s.buttonsCtx.buttonHandler s.bulbCtx.shortAddr buttonState hasChanged
        wasFactoryResetDone).2.map fun c => ⟨c, .buttons⟩
  | .buttonsAlarm dkGetButtons =>
      (s.buttonsCtx.alarmExpiry dkGetButtons).2.map fun c => ⟨c, .buttons⟩
  | .nusWork work => [⟨work.callback, .nus⟩]
  | .matchDescResp _ | .signal _ _ _ | .delayed _ => []

theorem requester_of_mem_enqueues {s : LightSwitch} {e : SwitchEvent}
    {d : Delayed} (h : d ∈ s.enqueues e) : e.requester = some d.requester := by
  cases e with
  | findAlarm =>
      simp only [enqueues] at h
      split at h
      · rw [List.mem_singleton.mp h]
        rfl
      · contradiction
  | buttons | buttonsAlarm =>
      obtain ⟨callback, -, rfl⟩ := List.mem_map.mp h
      rfl
  | nusWork work =>
      rw [List.mem_singleton.mp h]
      rfl
  | matchDescResp | signal | delayed => contradiction

/-- An event appends what it asks for, or takes one callback out and runs it. -/
theorem step_delayed (s : LightSwitch) (e : SwitchEvent) :
    (s.delayed ++ s.enqueues e).Perm
      ((s.running e).toList ++ (s.step e).delayed) := by
  have happend : s.running e = none →
      (s.step e).delayed = s.delayed ++ s.enqueues e →
      (s.delayed ++ s.enqueues e).Perm
        ((s.running e).toList ++ (s.step e).delayed) := by
    intro hrun hdelayed
    rw [hrun, hdelayed]
    exact List.Perm.refl _
  cases e with
  | findAlarm =>
      apply happend rfl
      simp only [step, enqueues]
      split
      · rfl
      · exact (List.append_nil _).symm
  | matchDescResp resp =>
      apply happend rfl
      simp only [step, findLightBulbCb, enqueues, List.append_nil]
      split_ifs <;> rfl
  | signal sig status leaveType =>
      apply happend rfl
      simp only [step, enqueues, List.append_nil]
      exact (s.zbossSignalHandler_frame sig status leaveType).2
  | buttons buttonState hasChanged wasFactoryResetDone => exact happend rfl rfl
  | buttonsAlarm dkGetButtons => exact happend rfl rfl
  | nusWork work => exact happend rfl rfl
  | delayed index =>
      simp only [enqueues, List.append_nil, running, step]
      cases hget : s.delayed[index]? with
      | none => exact List.Perm.refl _
      | some d =>
          have htaken := Runs.eraseIdx_perm s.delayed index
          rw [hget] at htaken
          simp only [runCallback_frame]
          exact htaken

/-- The request is the command of the callback, with the address and the
endpoint of the moment. -/
theorem runCallback_request (s : LightSwitch) (callback : Callback) :
    (s.runCallback callback).2 = callback.command.map fun c =>
      ⟨s.bulbCtx.shortAddr, s.bulbCtx.endpoint, c⟩ := by
  cases callback <;> rfl

theorem sent_eq (s : LightSwitch) (e : SwitchEvent) :
    s.sent e = ((s.running e).bind fun d => d.callback.command).map fun c =>
      ⟨s.bulbCtx.shortAddr, s.bulbCtx.endpoint, c⟩ := by
  rw [sent]
  cases s.running e with
  | none => rfl
  | some d => exact s.runCallback_request d.callback

theorem buttonEvent_of_known {s : LightSwitch}
    (hknown : s.bulbCtx.shortAddr ≠ noBulb)
    (buttonState hasChanged : UInt32) (wasFactoryResetDone : Bool) :
    s.buttonEvent (.buttons buttonState hasChanged wasFactoryResetDone) =
      some (.notify ⟨s.bulbCtx.shortAddr, hknown, wasFactoryResetDone⟩
        buttonState hasChanged) :=
  dif_neg hknown

/-- What the buttons ask for. -/
theorem enqueues_of_buttonEvent {s : LightSwitch} {e : SwitchEvent}
    {b : ButtonEvent} (h : s.buttonEvent e = some b) :
    s.enqueues e = (s.buttonsCtx.handle b).2.map fun c => ⟨c, .buttons⟩ := by
  cases e with
  | buttons buttonState hasChanged wasFactoryResetDone =>
      by_cases hknown : s.bulbCtx.shortAddr = noBulb
      · simp only [buttonEvent, dif_pos hknown] at h
        contradiction
      · simp only [buttonEvent, dif_neg hknown, Option.some.injEq] at h
        subst h
        rfl
  | buttonsAlarm dkGetButtons =>
      simp only [buttonEvent, Option.some.injEq] at h
      subst h
      rfl
  | findAlarm | matchDescResp | signal | nusWork | delayed => contradiction

/-- Nothing else asks in their name. -/
theorem enqueues_of_not_buttonEvent {s : LightSwitch} {e : SwitchEvent}
    (h : s.buttonEvent e = none) :
    (s.enqueues e).filter (fun d => d.requester == .buttons) = [] := by
  cases e with
  | findAlarm =>
      simp only [enqueues]
      split <;> rfl
  | buttons buttonState hasChanged wasFactoryResetDone =>
      by_cases hknown : s.bulbCtx.shortAddr = noBulb
      · simp [enqueues, ButtonsContext.buttonHandler, hknown]
      · simp only [buttonEvent, dif_neg hknown] at h
        contradiction
  | buttonsAlarm => contradiction
  | matchDescResp | signal | nusWork | delayed => rfl

/-! ### Over a run -/

/-- The callbacks asked for in a run. -/
def enqueued (events : List SwitchEvent) : List Delayed :=
  Runs.outputs step enqueues start events

/-- The callbacks that have run. -/
def ran (events : List SwitchEvent) : List Delayed :=
  Runs.outputs step (fun s e => (s.running e).toList) start events

/-- The request an event sends because `requester` asked for it. -/
def sentFor (requester : Requester) (s : LightSwitch) (e : SwitchEvent) :
    Option ZclRequest :=
  if (s.running e).any fun d => d.requester == requester then s.sent e
  else none

/-- The requests sent in a run because `requester` asked for them. -/
def requestsFor (requester : Requester) (events : List SwitchEvent) :
    List ZclRequest :=
  Runs.outputs step (fun s e => (s.sentFor requester e).toList) start events

theorem enqueued_perm (events : List SwitchEvent) :
    (enqueued events).Perm (ran events ++ (run events).delayed) := by
  have hconserves : Runs.Conserves step delayed enqueues
      fun s e => (s.running e).toList := step_delayed
  exact hconserves.run start events

/-- The command an event sends is that of the callback it runs. -/
theorem sentFor_command (requester : Requester) (s : LightSwitch)
    (e : SwitchEvent) :
    (s.sentFor requester e).toList.map ZclRequest.command =
      (s.running e).toList.filterMap fun d =>
        if d.requester == requester then d.callback.command else none := by
  rw [sentFor, sent_eq]
  cases s.running e with
  | none => rfl
  | some d =>
      by_cases h : d.requester = requester
      · cases hcommand : d.callback.command <;> simp [h, hcommand]
      · simp [h]

theorem count_requestsFor (requester : Requester) (c : ZclCommand)
    (events : List SwitchEvent) :
    ((requestsFor requester events).map ZclRequest.command).count c =
      (ran events).countP (Delayed.sends requester c) := by
  rw [requestsFor, Runs.map_outputs]
  simp only [sentFor_command]
  rw [← Runs.filterMap_outputs, List.count_filterMap]
  apply List.countP_congr
  intro d _
  by_cases h : d.requester = requester <;> simp [Delayed.sends, h]

/-- The commands asked for have been sent or wait. -/
theorem countP_enqueued (requester : Requester) (c : ZclCommand)
    (events : List SwitchEvent) :
    (enqueued events).countP (Delayed.sends requester c) =
      ((requestsFor requester events).map ZclRequest.command).count c +
        (run events).delayed.countP (Delayed.sends requester c) := by
  rw [(enqueued_perm events).countP_eq, List.countP_append, count_requestsFor]

/-! ### Running what waits -/

/-- The stack has a buffer for each callback that waits. -/
def drain (s : LightSwitch) : List SwitchEvent :=
  List.replicate s.delayed.length (.delayed 0)

theorem step_delayed_zero (s : LightSwitch) :
    (s.step (.delayed 0)).delayed = s.delayed.tail := by
  simp only [step]
  cases h : s.delayed with
  | nil => simp [h]
  | cons d rest =>
      simp only [List.getElem?_cons_zero, runCallback_frame,
        List.eraseIdx_cons_zero, List.tail_cons]

/-- A callback asks for no other, so what waits runs out. -/
theorem foldl_drain (s : LightSwitch) :
    (s.drain.foldl step s).delayed = [] := by
  rw [drain]
  generalize hlength : s.delayed.length = n
  induction n generalizing s with
  | zero => exact List.eq_nil_of_length_eq_zero hlength
  | succ n ih =>
      rw [List.replicate_succ, List.foldl_cons]
      apply ih
      rw [step_delayed_zero, List.length_tail, hlength, Nat.add_sub_cancel]

theorem outputs_enqueues_drain (s : LightSwitch) (n : Nat) :
    Runs.outputs step enqueues s (List.replicate n (.delayed 0)) = [] := by
  induction n generalizing s with
  | zero => rfl
  | succ n ih =>
      rw [List.replicate_succ, Runs.outputs_cons, ih]
      rfl

/-- Every callback that was asked for has run once or still waits; and once
those that wait have run, every command has been sent as often as the alarm,
the buttons or the service asked for it. -/
structure CallbacksConserved (events : List SwitchEvent) : Prop where
  callbacks : ∀ d, (enqueued events).count d =
    (ran events).count d + (run events).delayed.count d
  commands : ∀ requester c,
    ((requestsFor requester (events ++ (run events).drain)).map
        ZclRequest.command).count c =
      (enqueued events).countP (Delayed.sends requester c)

theorem callbacksConserved (events : List SwitchEvent) :
    CallbacksConserved events := by
  constructor
  · intro d
    rw [(enqueued_perm events).count_eq, List.count_append]
  · intro requester c
    have hnone : (run (events ++ (run events).drain)).delayed = [] := by
      rw [run, List.foldl_append]
      exact foldl_drain (run events)
    have hall := countP_enqueued requester c (events ++ (run events).drain)
    rw [hnone, List.countP_nil, Nat.add_zero] at hall
    rw [← hall, enqueued, Runs.outputs_append, drain, outputs_enqueues_drain,
      List.append_nil]
    rfl

end LightSwitch

end ZbLightbulb
