/-
The ON and OFF buttons of the switch with a bulb known throughout: a tap
switches, a hold dims.  The handler and the hold timer share `long_poll`, and
each of them may be the last to write it before a release is notified.
-/
import ZbLightbulb.LightSwitch

namespace ZbLightbulb

/-- What a notification meets outside `buttons_ctx`: the address of a known
bulb, and whether a factory reset has just been done. -/
structure Notification where
  shortAddr : UInt16
  known : shortAddr ≠ noBulb
  wasFactoryResetDone : Bool

/-- What happens to `buttons_ctx`: a call of `button_handler`, or an expiry of
the hold timer with what `dk_get_buttons` returns. -/
inductive ButtonEvent where
  | notify (n : Notification) (buttonState hasChanged : UInt32)
  | expiry (dkGetButtons : UInt32)

namespace ButtonsContext

def handle (ctx : ButtonsContext) : ButtonEvent → ButtonsContext × List Callback
  | .notify n buttonState hasChanged =>
      ctx.buttonHandler n.shortAddr buttonState hasChanged n.wasFactoryResetDone
  | .expiry dkGetButtons => ctx.alarmExpiry dkGetButtons

end ButtonsContext

/-! ### The buttons in a run of the switch -/

namespace LightSwitch

/-- What an event is to the buttons.  Without a bulb `button_handler` returns
before it looks at them. -/
def buttonEvent (s : LightSwitch) : SwitchEvent → Option ButtonEvent
  | .buttons buttonState hasChanged wasFactoryResetDone =>
      if h : s.bulbCtx.shortAddr = noBulb then none
      else some (.notify ⟨s.bulbCtx.shortAddr, h, wasFactoryResetDone⟩
        buttonState hasChanged)
  | .buttonsAlarm dkGetButtons => some (.expiry dkGetButtons)
  | _ => none

theorem zbossSignalHandler_frame (s : LightSwitch) (sig : ZbZdoAppSignalType)
    (status : ZbRet) (leaveType : UInt8) :
    (s.zbossSignalHandler sig status leaveType).buttonsCtx = s.buttonsCtx ∧
      (s.zbossSignalHandler sig status leaveType).delayed = s.delayed := by
  simp only [zbossSignalHandler]
  split <;> (try split) <;> exact ⟨rfl, rfl⟩

/-- Running a callback changes neither the buttons nor those that wait. -/
theorem runCallback_frame (s : LightSwitch) (callback : Callback) :
    (s.runCallback callback).1.buttonsCtx = s.buttonsCtx ∧
      (s.runCallback callback).1.delayed = s.delayed := by
  cases callback <;> exact ⟨rfl, rfl⟩

theorem mem_getOutDelayed_of_buttons {s : LightSwitch} {requester : Requester}
    {callbacks : List Callback} (hother : requester ≠ .buttons) {d : Delayed}
    (hd : d ∈ (s.getOutDelayed requester callbacks).delayed)
    (hrequester : d.requester = .buttons) : d ∈ s.delayed := by
  rcases List.mem_append.mp hd with hd | hd
  · exact hd
  · rcases List.mem_map.mp hd with ⟨callback, -, rfl⟩
    exact absurd hrequester hother

/-- An event that is nothing to the buttons leaves them alone and queues nothing
for them. -/
theorem step_of_not_buttonEvent {s : LightSwitch} {e : SwitchEvent}
    (h : s.buttonEvent e = none) : (s.step e).buttonsCtx = s.buttonsCtx ∧
      ∀ d ∈ (s.step e).delayed, d.requester = .buttons → d ∈ s.delayed := by
  cases e with
  | findAlarm =>
      simp only [step]
      split
      · refine ⟨rfl, ?_⟩
        intro d
        exact mem_getOutDelayed_of_buttons (by decide)
      · exact ⟨rfl, fun d hd _ => hd⟩
  | matchDescResp resp =>
      simp only [step, findLightBulbCb]
      split_ifs <;> exact ⟨rfl, fun d hd _ => hd⟩
  | signal sig status leaveType =>
      rcases s.zbossSignalHandler_frame sig status leaveType with
        ⟨hbuttons, hdelayed⟩
      simp only [step, hbuttons, hdelayed]
      exact ⟨trivial, fun d hd _ => hd⟩
  | buttons buttonState hasChanged wasFactoryResetDone =>
      by_cases hknown : s.bulbCtx.shortAddr = noBulb
      · simp only [step, ButtonsContext.buttonHandler, if_pos hknown,
          getOutDelayed, List.map_nil, List.append_nil]
        exact ⟨trivial, fun d hd _ => hd⟩
      · simp only [buttonEvent, dif_neg hknown] at h
        contradiction
  | buttonsAlarm dkGetButtons => contradiction
  | nusWork work =>
      refine ⟨rfl, ?_⟩
      intro d
      exact mem_getOutDelayed_of_buttons (by decide)
  | delayed index =>
      cases hget : s.delayed[index]? with
      | none =>
          simp only [step, hget]
          exact ⟨trivial, fun d hd _ => hd⟩
      | some d =>
          simp only [step, hget, runCallback_frame]
          exact ⟨trivial, fun d hd _ => List.mem_of_mem_eraseIdx hd⟩

/-- Any other event is one of the machine of the buttons. -/
theorem step_of_buttonEvent {s : LightSwitch} {e : SwitchEvent}
    {b : ButtonEvent} (h : s.buttonEvent e = some b) :
    (s.step e).buttonsCtx = (s.buttonsCtx.handle b).1 ∧
      (s.step e).delayed = s.delayed ++
        (s.buttonsCtx.handle b).2.map fun c => ⟨c, .buttons⟩ := by
  cases e with
  | buttons buttonState hasChanged wasFactoryResetDone =>
      by_cases hknown : s.bulbCtx.shortAddr = noBulb
      · simp only [buttonEvent, dif_pos hknown] at h
        contradiction
      · simp only [buttonEvent, dif_neg hknown, Option.some.injEq] at h
        subst h
        exact ⟨rfl, rfl⟩
  | buttonsAlarm dkGetButtons =>
      simp only [buttonEvent, Option.some.injEq] at h
      subst h
      exact ⟨rfl, rfl⟩
  | findAlarm | matchDescResp | signal | nusWork | delayed => contradiction

/-- The handler is notified with the address of the known bulb. -/
theorem shortAddr_of_notify {s : LightSwitch} {e : SwitchEvent}
    {n : Notification} {buttonState hasChanged : UInt32}
    (h : s.buttonEvent e = some (.notify n buttonState hasChanged)) :
    s.bulbCtx.shortAddr = n.shortAddr := by
  cases e with
  | buttons buttonState hasChanged wasFactoryResetDone =>
      by_cases hknown : s.bulbCtx.shortAddr = noBulb
      · simp only [buttonEvent, dif_pos hknown] at h
        contradiction
      · simp only [buttonEvent, dif_neg hknown, Option.some.injEq,
          ButtonEvent.notify.injEq] at h
        rw [← h.1]
  | buttonsAlarm => simp [buttonEvent] at h
  | findAlarm | matchDescResp | signal | nusWork | delayed => contradiction

/-- The events of a run that are something to the buttons. -/
def buttonEvents (events : List SwitchEvent) : List ButtonEvent :=
  (Runs.emit (fun s e => (s.step e, (s.buttonEvent e).toList)) start events).2

theorem buttonEvents_append (before : List SwitchEvent) (e : SwitchEvent) :
    buttonEvents (before ++ [e]) =
      buttonEvents before ++ ((run before).buttonEvent e).toList := by
  simp only [buttonEvents, Runs.emit_append, Runs.emit_fst, Runs.emit,
    List.append_nil]
  rfl

/-- Along a run the buttons are a run of their own machine, and every callback
that waits for them was queued by it. -/
theorem run_buttons (events : List SwitchEvent) :
    (run events).buttonsCtx = (Runs.emit ButtonsContext.handle start.buttonsCtx
        (buttonEvents events)).1 ∧
      ∀ d ∈ (run events).delayed, d.requester = .buttons →
        d.callback ∈ (Runs.emit ButtonsContext.handle start.buttonsCtx
          (buttonEvents events)).2 := by
  induction events using List.reverseRecOn with
  | nil =>
      refine ⟨rfl, ?_⟩
      intro d hd
      contradiction
  | append_singleton before e ih =>
      rcases ih with ⟨hctx, hqueued⟩
      rw [run_append, buttonEvents_append, Runs.emit_append]
      cases hevent : (run before).buttonEvent e with
      | none =>
          rcases step_of_not_buttonEvent hevent with ⟨hkept, hmem⟩
          simp only [Option.toList_none, Runs.emit, List.append_nil]
          refine ⟨hkept.trans hctx, ?_⟩
          intro d hd hrequester
          exact hqueued d (hmem d hd hrequester) hrequester
      | some b =>
          rcases step_of_buttonEvent hevent with ⟨hhandle, hdelayed⟩
          rw [hctx] at hhandle hdelayed
          simp only [Option.toList_some, Runs.emit_cons, Runs.emit,
            List.append_nil, hdelayed]
          refine ⟨hhandle, ?_⟩
          intro d hd hrequester
          apply List.mem_append.mpr
          rcases List.mem_append.mp hd with hd | hd
          · exact Or.inl (hqueued d hd hrequester)
          · rcases List.mem_map.mp hd with ⟨callback, hcallback, rfl⟩
            exact Or.inr hcallback

end LightSwitch

/-! ### One button at a time -/

/-- The two buttons that send commands. -/
inductive BulbButton where
  | on
  | off
deriving DecidableEq, Repr

namespace BulbButton

def mask : BulbButton → UInt32
  | .on => buttonOn
  | .off => buttonOff

def cmdId : BulbButton → UInt16
  | .on => zbZclCmdOnOffOnId
  | .off => zbZclCmdOnOffOffId

def stepMode : BulbButton → UInt16
  | .on => zbZclLevelControlStepModeUp
  | .off => zbZclLevelControlStepModeDown

end BulbButton

/-- A press and its release.  An expiry of the hold timer may fall before the
scan that sees the button, between this scan and its notification, while the
button is held, and between the scan that sees the release and its
notification. -/
structure ButtonPress where
  button : BulbButton
  press : Notification
  release : Notification
  idle : Nat
  pressing : Nat
  held : Nat
  releasing : Nat

def ButtonPress.events (p : ButtonPress) : List ButtonEvent :=
  List.replicate p.idle (.expiry 0) ++
    List.replicate p.pressing (.expiry p.button.mask) ++
    [.notify p.press p.button.mask p.button.mask] ++
    List.replicate p.held (.expiry p.button.mask) ++
    List.replicate p.releasing (.expiry 0) ++
    [.notify p.release 0 p.button.mask]

namespace ButtonsContext

/-- Between two presses the timer is stopped and the flag clear. -/
def Idle (ctx : ButtonsContext) : Prop :=
  ctx.longPoll = false ∧ ctx.alarm = false

theorem handle_expiry_stopped {ctx : ButtonsContext} (h : ctx.alarm = false)
    (dkGetButtons : UInt32) :
    ctx.handle (.expiry dkGetButtons) = (ctx, []) := by
  simp only [handle, alarmExpiry, h, Bool.false_eq_true, if_false]

theorem handle_press (ctx : ButtonsContext) (n : Notification)
    (button : BulbButton) :
    ctx.handle (.notify n button.mask button.mask) =
      ({ ctx with state := button.mask, alarm := true }, []) := by
  cases button <;>
    simp [handle, buttonHandler, n.known, buttonEdge, BulbButton.mask,
      buttonOn, buttonOff]

theorem handle_release (ctx : ButtonsContext) (n : Notification)
    (button : BulbButton) :
    ctx.handle (.notify n 0 button.mask) =
      ({ ctx with alarm := false, longPoll := false },
        if ctx.longPoll = false then [.lightSwitchSendOnOff button.cmdId]
        else []) := by
  cases button <;>
    simp [handle, buttonHandler, n.known, buttonEdge, BulbButton.mask,
      BulbButton.cmdId, buttonOn, buttonOff]

/-- An expiry that finds the button down sends a step and restarts the timer. -/
theorem handle_expiry_held {ctx : ButtonsContext} {button : BulbButton}
    (hstate : ctx.state = button.mask) (halarm : ctx.alarm = true) :
    ctx.handle (.expiry button.mask) =
      ({ ctx with longPoll := true },
        [.lightSwitchSendStep button.stepMode]) := by
  cases button <;>
    simp [handle, alarmExpiry, lightSwitchButtonHandler, hstate, halarm,
      BulbButton.mask, BulbButton.stepMode, buttonOn, buttonOff]

/-- An expiry that finds no button down clears the flag and leaves the timer
stopped. -/
theorem handle_expiry_up {ctx : ButtonsContext} (halarm : ctx.alarm = true) :
    ctx.handle (.expiry 0) =
      ({ ctx with longPoll := false, alarm := false }, []) := by
  simp [handle, alarmExpiry, halarm, lightSwitchButtonHandler]

theorem emit_stopped (state dkGetButtons : UInt32) (longPoll : Bool) (n : Nat) :
    Runs.emit handle ⟨state, longPoll, false⟩
        (List.replicate n (.expiry dkGetButtons)) =
      (⟨state, longPoll, false⟩, []) :=
  Runs.emit_replicate_silent (handle_expiry_stopped rfl dkGetButtons) n

theorem emit_held {button : BulbButton} (longPoll : Bool) (held : Nat) :
    Runs.emit handle ⟨button.mask, longPoll, true⟩
        (List.replicate held (.expiry button.mask)) =
      (⟨button.mask, if held = 0 then longPoll else true, true⟩,
        List.replicate held (.lightSwitchSendStep button.stepMode)) := by
  cases held with
  | zero => rfl
  | succ held =>
      rw [List.replicate_succ, Runs.emit_cons, handle_expiry_held rfl rfl,
        Runs.emit_replicate (handle_expiry_held rfl rfl)]
      rfl

theorem emit_releasing {button : BulbButton} (longPoll : Bool)
    (releasing : Nat) :
    Runs.emit handle ⟨button.mask, longPoll, true⟩
        (List.replicate releasing (.expiry 0)) =
      (if releasing = 0 then ⟨button.mask, longPoll, true⟩
        else ⟨button.mask, false, false⟩, []) := by
  cases releasing with
  | zero => rfl
  | succ releasing =>
      rw [List.replicate_succ, Runs.emit_cons, handle_expiry_up rfl,
        emit_stopped]
      rfl

/-- A press queues a step for every expiry while it is held, and the command if
it had none or if an expiry has seen the release before the handler. -/
theorem emit_press {ctx : ButtonsContext} (h : ctx.Idle) (p : ButtonPress) :
    Runs.emit handle ctx p.events =
      (⟨p.button.mask, false, false⟩,
        List.replicate p.held (.lightSwitchSendStep p.button.stepMode) ++
          if p.held = 0 ∨ p.releasing ≠ 0 then
            [.lightSwitchSendOnOff p.button.cmdId]
          else []) := by
  rcases ctx with ⟨state, longPoll, alarm⟩
  rcases h with ⟨rfl, rfl⟩
  simp only [ButtonPress.events, Runs.emit_append, emit_stopped, handle_press,
    Runs.emit, emit_held, emit_releasing]
  by_cases hreleasing : p.releasing = 0 <;> by_cases hheld : p.held = 0 <;>
    simp [hreleasing, hheld, handle_release]

end ButtonsContext

/-- The commands a press queues, after those before it. -/
def queuedBy (before : List ButtonPress) (p : ButtonPress) : List Callback :=
  (Runs.emit ButtonsContext.handle
    (Runs.emit ButtonsContext.handle LightSwitch.start.buttonsCtx
      (before.flatMap ButtonPress.events)).1 p.events).2

def Callback.isOnOff : Callback → Bool
  | .lightSwitchSendOnOff _ => true
  | _ => false

def Callback.isStep : Callback → Bool
  | .lightSwitchSendStep _ => true
  | _ => false

/-- Either exactly one on/off command and no step, or steps and no on/off
command. -/
def TapOrHold (queued : List Callback) : Prop :=
  (queued.countP Callback.isOnOff = 1 ∧ queued.countP Callback.isStep = 0) ∨
    (0 < queued.countP Callback.isStep ∧ queued.countP Callback.isOnOff = 0)

theorem idle_after (presses : List ButtonPress) :
    (Runs.emit ButtonsContext.handle LightSwitch.start.buttonsCtx
      (presses.flatMap ButtonPress.events)).1.Idle := by
  induction presses using List.reverseRecOn with
  | nil => exact ⟨rfl, rfl⟩
  | append_singleton presses p ih =>
      rw [List.flatMap_append, Runs.emit_append, List.flatMap_singleton,
        ButtonsContext.emit_press ih]
      exact ⟨rfl, rfl⟩

theorem tapOrHold_queuedBy_iff (before : List ButtonPress) (p : ButtonPress) :
    TapOrHold (queuedBy before p) ↔ p.held = 0 ∨ p.releasing = 0 := by
  rw [queuedBy, ButtonsContext.emit_press (idle_after before), TapOrHold]
  simp only [List.countP_append, List.countP_replicate, Callback.isOnOff,
    Callback.isStep]
  by_cases hheld : p.held = 0
  · simp [hheld, Callback.isOnOff, Callback.isStep]
  · by_cases hreleasing : p.releasing = 0
    · simp [hheld, hreleasing, Nat.pos_of_ne_zero hheld]
    · simp [hheld, hreleasing, Callback.isOnOff, Callback.isStep]

/-- Every press either taps or holds exactly in the runs in which no expiry
falls between the scan that sees the release of a hold and its notification:
this expiry clears the flag that tells the handler of the hold. -/
theorem tapOrHold_iff (presses : List ButtonPress) :
    (∀ before p, before ++ [p] <+: presses → TapOrHold (queuedBy before p)) ↔
      ∀ p ∈ presses, p.held = 0 ∨ p.releasing = 0 := by
  constructor
  · intro h p hp
    rcases Runs.mem_iff_prefix.mp hp with ⟨before, hprefix⟩
    exact (tapOrHold_queuedBy_iff before p).mp (h before p hprefix)
  · intro h before p hprefix
    apply (tapOrHold_queuedBy_iff before p).mpr
    exact h p (Runs.mem_iff_prefix.mpr ⟨before, hprefix⟩)

/-- The ON button is held for one step, and the timer expires once more between
the scan and the handler of the release. -/
theorem not_tapOrHold_late_expiry :
    ¬ ∀ presses before p, before ++ [p] <+: presses →
      TapOrHold (queuedBy before p) := by
  intro h
  let p : ButtonPress :=
    { button := .on
      press := ⟨0x1234, by decide, false⟩
      release := ⟨0x1234, by decide, false⟩
      idle := 0, pressing := 0, held := 1, releasing := 1 }
  have htap := h [p] [] p (List.prefix_refl _)
  rw [TapOrHold] at htap
  revert htap
  decide

end ZbLightbulb
