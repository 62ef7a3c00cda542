/-
The hold state of the switch across arbitrary notifications: what `long_poll`
says when the last button is released, and when it tells of another hold than
the one `buttons_ctx.state` was assigned for.
-/
import ZbLightbulb.SwitchButtons

namespace ZbLightbulb

/-- `buttons_ctx`, and the buttons last notified, which `dk_get_buttons`
returns. -/
structure HeldButtons where
  ctx : ButtonsContext
  dkGetButtons : UInt32
deriving DecidableEq, Repr

/-- A notification of the buttons that are down, or an expiry of the timer. -/
inductive HoldEvent where
  | notify (n : Notification) (buttonState : UInt32)
  | expiry

namespace HeldButtons

def start : HeldButtons where
  ctx := LightSwitch.start.buttonsCtx
  dkGetButtons := 0

/-- The call an event makes. -/
def call (s : HeldButtons) : HoldEvent → ButtonsContext × List Callback
  | .notify n buttonState =>
      s.ctx.handle (.notify n buttonState (s.dkGetButtons ^^^ buttonState))
  | .expiry => s.ctx.handle (.expiry s.dkGetButtons)

def step (s : HeldButtons) (e : HoldEvent) : HeldButtons where
  ctx := (s.call e).1
  dkGetButtons :=
    match e with
    | .notify _ buttonState => buttonState
    | .expiry => s.dkGetButtons

def run (events : List HoldEvent) : HeldButtons :=
  events.foldl step start

theorem run_append (before : List HoldEvent) (e : HoldEvent) :
    run (before ++ [e]) = (run before).step e :=
  List.foldl_concat step start e before

/-- One of the two buttons, and nothing else, has changed. -/
def Edge (s : HeldButtons) (buttonState : UInt32) : Prop :=
  s.dkGetButtons ^^^ buttonState = buttonOn ∨
    s.dkGetButtons ^^^ buttonState = buttonOff

instance (s : HeldButtons) (buttonState : UInt32) :
    Decidable (s.Edge buttonState) :=
  inferInstanceAs (Decidable (_ ∨ _))

/-- The event assigns `buttons_ctx.state` and starts the timer. -/
def Assigns (s : HeldButtons) : HoldEvent → Prop
  | .notify _ buttonState =>
      s.Edge buttonState ∧ (buttonState = buttonOn ∨ buttonState = buttonOff)
  | .expiry => False

/-- The event clears `long_poll`: the release of the last button is notified, or
the timer finds the button up. -/
def Ends (s : HeldButtons) : HoldEvent → Prop
  | .notify _ buttonState => s.Edge buttonState ∧ buttonState = 0
  | .expiry => s.ctx.alarm = true ∧ s.dkGetButtons &&& s.ctx.state = 0

/-- The event queues a step command. -/
def QueuesStep (s : HeldButtons) (e : HoldEvent) : Prop :=
  ∃ cmdId, .lightSwitchSendStep cmdId ∈ (s.call e).2

/-- Everything an event can do to `buttons_ctx`. -/
inductive HoldStep (s : HeldButtons) (e : HoldEvent) : ButtonsContext → Prop
  | assigns (h : s.Assigns e) (hstep : ¬ s.QueuesStep e) (hend : ¬ s.Ends e)
      (buttonState : UInt32) :
      HoldStep s e { s.ctx with state := buttonState, alarm := true }
  | ends (h : s.Ends e) (hassign : ¬ s.Assigns e) (hstep : ¬ s.QueuesStep e) :
      HoldStep s e { s.ctx with longPoll := false, alarm := false }
  | steps (h : s.QueuesStep e) (hassign : ¬ s.Assigns e) (hend : ¬ s.Ends e)
      (halarm : s.ctx.alarm = true) :
      HoldStep s e { s.ctx with longPoll := true, alarm := true }
  | keeps (hassign : ¬ s.Assigns e) (hend : ¬ s.Ends e)
      (hstep : ¬ s.QueuesStep e) : HoldStep s e s.ctx

/-- The command of the button that changed. -/
def edgeCmdId (hasChanged : UInt32) : UInt16 :=
  if hasChanged = buttonOn then zbZclCmdOnOffOnId else zbZclCmdOnOffOffId

theorem call_notify_of_edge {s : HeldButtons} {buttonState : UInt32}
    (h : s.Edge buttonState) (n : Notification) :
    s.call (.notify n buttonState) =
      s.ctx.buttonEdge buttonState
        (edgeCmdId (s.dkGetButtons ^^^ buttonState)) := by
  simp only [call, ButtonsContext.handle, ButtonsContext.buttonHandler, n.known,
    if_false, edgeCmdId]
  rcases h with h | h
  · rw [h, if_pos rfl, if_pos rfl]
  · rw [h, if_neg (by decide), if_pos rfl, if_neg (by decide)]

theorem call_notify_of_not_edge {s : HeldButtons} {buttonState : UInt32}
    (h : ¬ s.Edge buttonState) (n : Notification) :
    (s.call (.notify n buttonState)).1 = s.ctx := by
  rw [Edge, not_or] at h
  simp only [call, ButtonsContext.handle, ButtonsContext.buttonHandler, n.known,
    h.1, h.2, if_false]
  split_ifs <;> rfl

theorem not_queuesStep_notify (s : HeldButtons) (n : Notification)
    (buttonState : UInt32) : ¬ s.QueuesStep (.notify n buttonState) := by
  rintro ⟨cmdId, hmem⟩
  simp only [call, ButtonsContext.handle, ButtonsContext.buttonHandler,
    ButtonsContext.buttonEdge, n.known, if_false] at hmem
  split_ifs at hmem <;> simp at hmem

theorem step_ctx (s : HeldButtons) (e : HoldEvent) :
    HoldStep s e (s.step e).ctx := by
  cases e with
  | notify n buttonState =>
      have hstep := s.not_queuesStep_notify n buttonState
      change HoldStep s _ (s.call (.notify n buttonState)).1
      by_cases hedge : s.Edge buttonState
      · rw [call_notify_of_edge hedge, ButtonsContext.buttonEdge]
        by_cases hpress : buttonState = buttonOn ∨ buttonState = buttonOff
        · rw [if_pos hpress]
          have hassign : s.Assigns (.notify n buttonState) := ⟨hedge, hpress⟩
          apply HoldStep.assigns hassign hstep
          rintro ⟨-, rfl⟩
          revert hpress
          decide
        · rw [if_neg hpress]
          by_cases hrelease : buttonState = 0
          · rw [if_pos hrelease]
            exact HoldStep.ends ⟨hedge, hrelease⟩ (fun h => hpress h.2) hstep
          · rw [if_neg hrelease]
            exact HoldStep.keeps (fun h => hpress h.2) (fun h => hrelease h.2)
              hstep
      · rw [call_notify_of_not_edge hedge]
        exact HoldStep.keeps (fun h => hedge h.1) (fun h => hedge h.1) hstep
  | expiry =>
      change HoldStep s _ (s.call .expiry).1
      by_cases halarm : s.ctx.alarm = true
      · by_cases hdown : s.dkGetButtons &&& s.ctx.state ≠ 0
        · have hcall : s.call .expiry =
              ({ s.ctx with longPoll := true, alarm := true },
                [.lightSwitchSendStep (if s.ctx.state = buttonOn then
                  zbZclLevelControlStepModeUp
                  else zbZclLevelControlStepModeDown)]) := by
            simp only [call, ButtonsContext.handle, ButtonsContext.alarmExpiry,
              if_pos halarm, ButtonsContext.lightSwitchButtonHandler,
              if_pos hdown]
          have hstep : s.QueuesStep .expiry := by
            rw [QueuesStep, hcall]
            exact ⟨_, List.mem_singleton_self _⟩
          rw [hcall]
          exact HoldStep.steps hstep id (fun h => hdown h.2) halarm
        · have hcall : s.call .expiry =
              ({ s.ctx with longPoll := false, alarm := false }, []) := by
            simp only [call, ButtonsContext.handle, ButtonsContext.alarmExpiry,
              if_pos halarm, ButtonsContext.lightSwitchButtonHandler,
              if_neg hdown]
          have hstep : ¬ s.QueuesStep .expiry := by
            rw [QueuesStep, hcall]
            simp
          rw [hcall]
          exact HoldStep.ends ⟨halarm, not_not.mp hdown⟩ id hstep
      · have hcall : s.call .expiry = (s.ctx, []) := by
          simp only [call, ButtonsContext.handle, ButtonsContext.alarmExpiry,
            if_neg halarm]
        have hstep : ¬ s.QueuesStep .expiry := by
          rw [QueuesStep, hcall]
          simp
        rw [hcall]
        exact HoldStep.keeps id (fun h => halarm h.1) hstep

/-! ### Since `buttons_ctx.state` was last assigned -/

/-- A step has been queued since the last assignment. -/
def Stepped (events : List HoldEvent) : Prop :=
  Runs.Since (fun before e => (run before).QueuesStep e)
    (fun before e => (run before).Assigns e) events

/-- `long_poll` has been cleared since the last assignment. -/
def Ended (events : List HoldEvent) : Prop :=
  Runs.Since (fun before e => (run before).Ends e)
    (fun before e => (run before).Assigns e) events

/-- The last assignment found `long_poll` set, by an earlier hold. -/
def Stale (events : List HoldEvent) : Prop :=
  Runs.Since
    (fun before e => (run before).Assigns e ∧ (run before).ctx.longPoll = true)
    (fun before e => (run before).Assigns e) events

section Append

variable {before : List HoldEvent} {e : HoldEvent}

theorem stepped_append : Stepped (before ++ [e]) ↔
    (run before).QueuesStep e ∨ Stepped before ∧ ¬ (run before).Assigns e :=
  Runs.since_append

theorem ended_append : Ended (before ++ [e]) ↔
    (run before).Ends e ∨ Ended before ∧ ¬ (run before).Assigns e :=
  Runs.since_append

theorem stale_append : Stale (before ++ [e]) ↔
    ((run before).Assigns e ∧ (run before).ctx.longPoll = true) ∨
      Stale before ∧ ¬ (run before).Assigns e :=
  Runs.since_append

end Append

/-- What `long_poll` says: a step since the last assignment, or the flag this
assignment found, unless cleared since.  Once cleared, the timer is stopped
until the next assignment. -/
structure Tells (events : List HoldEvent) : Prop where
  longPoll : (run events).ctx.longPoll = true ↔
    ¬ Ended events ∧ (Stepped events ∨ Stale events)
  stopped : Ended events → (run events).ctx.alarm = false

theorem tells (events : List HoldEvent) : Tells events := by
  induction events using List.reverseRecOn with
  | nil =>
      constructor
      · constructor
        · intro h
          contradiction
        · rintro ⟨-, h | h⟩
          · exact absurd h Runs.not_since_nil
          · exact absurd h Runs.not_since_nil
      · intro h
        exact absurd h Runs.not_since_nil
  | append_singleton before e ih =>
      rcases ih with ⟨hlong, hstopped⟩
      generalize hctx : (run (before ++ [e])).ctx = ctx
      have hstep := step_ctx (run before) e
      rw [← run_append, hctx] at hstep
      constructor
      · rw [hctx, ended_append, stepped_append, stale_append]
        cases hstep with
        | assigns hassign hqueue hend buttonState =>
            simp [hassign, hqueue, hend]
        | ends hend hassign hqueue => simp [hend]
        | steps hqueue hassign hend halarm =>
            have hlive : ¬ Ended before := by
              intro h
              rw [hstopped h] at halarm
              contradiction
            simp [hqueue, hassign, hend, hlive]
        | keeps hassign hend hqueue => simp [hassign, hend, hqueue, hlong]
      · rw [hctx, ended_append]
        cases hstep with
        | assigns hassign hqueue hend buttonState => simp [hassign, hend]
        | ends => exact fun _ => rfl
        | steps hqueue hassign hend halarm =>
            rintro (h | ⟨h, -⟩)
            · exact absurd h hend
            · exact absurd (halarm.symm.trans (hstopped h)) (by decide)
        | keeps hassign hend hqueue =>
            rintro (h | ⟨h, -⟩)
            · exact absurd h hend
            · exact hstopped h

/-! ### The release of the last button -/

/-- The event is the release of the last button, held alone and the one recorded
in `buttons_ctx.state`. -/
def ReleasesLast (s : HeldButtons) (e : HoldEvent) (button : BulbButton) :
    Prop :=
  s.dkGetButtons = button.mask ∧ s.ctx.state = button.mask ∧
    ∃ n, e = .notify n 0

/-- The release queues the command of its button exactly if no step has been
queued since the button was recorded. -/
def HoldsSeparate (events : List HoldEvent) : Prop :=
  ∀ before e button, before ++ [e] <+: events →
    (run before).ReleasesLast e button →
      (.lightSwitchSendOnOff button.cmdId ∈ ((run before).call e).2 ↔
        ¬ Stepped before)

theorem mem_call_of_releasesLast {s : HeldButtons} {e : HoldEvent}
    {button : BulbButton} (h : s.ReleasesLast e button) :
    .lightSwitchSendOnOff button.cmdId ∈ (s.call e).2 ↔
      ¬ s.ctx.longPoll = true := by
  rcases h with ⟨hdown, -, n, rfl⟩
  have hcall : s.call (.notify n 0) =
      s.ctx.handle (.notify n 0 button.mask) := by
    simp only [call, hdown, UInt32.xor_zero]
  rw [hcall, ButtonsContext.handle_release]
  cases hlong : s.ctx.longPoll <;> simp

/-- Holds stay separate exactly in the runs in which, at every such release, a
step since the assignment has not been followed by what clears `long_poll`, and
a flag that the assignment found set has been, or has been set again. -/
theorem holdsSeparate_iff (events : List HoldEvent) :
    HoldsSeparate events ↔
      ∀ before e button, before ++ [e] <+: events →
        (run before).ReleasesLast e button →
          (Stepped before → ¬ Ended before) ∧
            (Stale before → Stepped before ∨ Ended before) := by
  have hrelease : ∀ before e button, (run before).ReleasesLast e button →
      ((.lightSwitchSendOnOff button.cmdId ∈ ((run before).call e).2 ↔
          ¬ Stepped before) ↔
        (Stepped before → ¬ Ended before) ∧
          (Stale before → Stepped before ∨ Ended before)) := by
    intro before e button h
    rw [mem_call_of_releasesLast h, (tells before).longPoll]
    tauto
  constructor
  · intro h before e button hprefix hlast
    exact (hrelease before e button hlast).mp (h before e button hprefix hlast)
  · intro h before e button hprefix hlast
    exact (hrelease before e button hlast).mpr (h before e button hprefix hlast)

/-- ON is held for one step, OFF is tapped meanwhile, which records ON again, and
ON is released: no command is queued, although no step has been since. -/
theorem not_holdsSeparate_tap_in_hold : ¬ ∀ events, HoldsSeparate events := by
  intro h
  let bulb : Notification := ⟨0x1234, by decide, false⟩
  let before : List HoldEvent :=
    [.notify bulb 1, .expiry, .notify bulb 3] ++ [.notify bulb 1]
  have hseparate := h (before ++ [.notify bulb 0]) before (.notify bulb 0) .on
    (List.prefix_refl _) ⟨by decide, by decide, bulb, rfl⟩
  have hnone : ¬ Stepped before := by
    intro hstepped
    rcases stepped_append.mp hstepped with hqueue | ⟨-, hassign⟩
    · exact not_queuesStep_notify _ _ _ hqueue
    · exact hassign ⟨Or.inr (by decide), Or.inl rfl⟩
  have hmem := hseparate.mpr hnone
  revert hmem
  decide

end HeldButtons

end ZbLightbulb
