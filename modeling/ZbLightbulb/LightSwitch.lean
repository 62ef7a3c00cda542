/-
`main.c` of `light_switch2`: the handlers that share `bulb_ctx` and
`buttons_ctx`, and the switch as a machine whose events are the timers, the
buttons, the network and the callbacks that wait for a buffer of the stack.
Allocating a buffer is taken to succeed.
-/
import ZbLightbulb.Lib.Runs
import ZbLightbulb.Zboss

namespace ZbLightbulb

def zbZclLevelControlStepModeUp : UInt16 := 0x00
def zbZclLevelControlStepModeDown : UInt16 := 0x01
def zbZdpStatusSuccess : UInt8 := 0x00
def zbNwkLeaveTypeReset : UInt8 := 0x00

def dimmStep : UInt8 := 15
def dimmTransactionTime : UInt16 := 2

def buttonOn : UInt32 := 1
def buttonOff : UInt32 := 2
def identifyModeButton : UInt32 := 8

/-- The address of a bulb that is not known. -/
def noBulb : UInt16 := 0xFFFF

/-- What is handed to `zb_buf_get_out_delayed`, to its variant with a parameter
and to `ZB_SCHEDULE_APP_CALLBACK`, to run later. -/
inductive Callback where
  | findLightBulb
  | lightSwitchSendOnOff (cmdId : UInt16)
  | lightSwitchSendStep (cmdId : UInt16)
  | startIdentifying
deriving DecidableEq, Repr

/-! ### Discovery -/

/-- `struct bulb_context`; of the timer, whether it runs. -/
structure BulbContext where
  endpoint : UInt8
  shortAddr : UInt16
  findAlarm : Bool
deriving DecidableEq, Repr

/-- `zb_zdo_match_desc_resp_t`, the byte after it, and the source address of the
indication. -/
structure MatchDescResp where
  status : UInt8
  matchLen : UInt8
  matchEp : UInt8
  srcAddr : UInt16
deriving DecidableEq, Repr

/-- The condition of `find_light_bulb_cb`. -/
def BulbContext.Accepts (ctx : BulbContext) (resp : MatchDescResp) : Prop :=
  resp.status = zbZdpStatusSuccess ∧ 0 < resp.matchLen ∧ ctx.shortAddr = noBulb

instance (ctx : BulbContext) (resp : MatchDescResp) :
    Decidable (ctx.Accepts resp) :=
  inferInstanceAs (Decidable (_ ∧ _ ∧ _))

/-! ### Buttons -/

/-- `struct buttons_context`; of the timer, whether it runs. -/
structure ButtonsContext where
  state : UInt32
  longPoll : Bool
  alarm : Bool
deriving DecidableEq, Repr

namespace ButtonsContext

/-- The second `switch` of `button_handler`. -/
def buttonEdge (buttonState : UInt32) (cmdId : UInt16) (ctx : ButtonsContext) :
    ButtonsContext × List Callback :=
  if buttonState = buttonOn ∨ buttonState = buttonOff then
    ({ ctx with state := buttonState, alarm := true }, [])
  else if buttonState = 0 then
    ({ ctx with alarm := false, longPoll := false },
      if ctx.longPoll = false then [.lightSwitchSendOnOff cmdId] else [])
  else (ctx, [])

/-- `button_handler`, with the callbacks it queues.  What it tells the default
signal handler and the factory reset stays in the library. -/
def buttonHandler (shortAddr : UInt16) (buttonState hasChanged : UInt32)
    (wasFactoryResetDone : Bool) (ctx : ButtonsContext) :
    ButtonsContext × List Callback :=
  if shortAddr = noBulb then (ctx, [])
  else if hasChanged = buttonOn then
    ctx.buttonEdge buttonState zbZclCmdOnOffOnId
  else if hasChanged = buttonOff then
    ctx.buttonEdge buttonState zbZclCmdOnOffOffId
  else if hasChanged = identifyModeButton then
    if identifyModeButton &&& buttonState ≠ 0 then (ctx, [])
    else if wasFactoryResetDone then (ctx, [])
    else (ctx, [.startIdentifying])
  else (ctx, [])

/-- `light_switch_button_handler`. -/
def lightSwitchButtonHandler (dkGetButtons : UInt32) (ctx : ButtonsContext) :
    ButtonsContext × List Callback :=
  if dkGetButtons &&& ctx.state ≠ 0 then
    let cmdId := if ctx.state = buttonOn then zbZclLevelControlStepModeUp
      else zbZclLevelControlStepModeDown
    ({ ctx with longPoll := true, alarm := true }, [.lightSwitchSendStep cmdId])
  else ({ ctx with longPoll := false }, [])

/-- The timer is started without a period, so it stops when it expires; it does
not expire while it is stopped. -/
def alarmExpiry (dkGetButtons : UInt32) (ctx : ButtonsContext) :
    ButtonsContext × List Callback :=
  if ctx.alarm then
    { ctx with alarm := false }.lightSwitchButtonHandler dkGetButtons
  else (ctx, [])

end ButtonsContext

/-! ### The switch -/

/-- The work functions of the NUS commands, each of which queues one callback. -/
inductive NusWork where
  | turnOnCmd
  | turnOffCmd
  | toggleCmd
  | increaseCmd
  | decreaseCmd
deriving DecidableEq, Repr

def NusWork.callback : NusWork → Callback
  | .turnOnCmd => .lightSwitchSendOnOff zbZclCmdOnOffOnId
  | .turnOffCmd => .lightSwitchSendOnOff zbZclCmdOnOffOffId
  | .toggleCmd => .lightSwitchSendOnOff zbZclCmdOnOffToggleId
  | .increaseCmd => .lightSwitchSendStep zbZclLevelControlStepModeUp
  | .decreaseCmd => .lightSwitchSendStep zbZclLevelControlStepModeDown

/-- Who asked for a callback. -/
inductive Requester where
  | findAlarm
  | buttons
  | nus
deriving DecidableEq, Repr

structure Delayed where
  callback : Callback
  requester : Requester
deriving DecidableEq, Repr

/-- What a sent request asks of the bulb. -/
inductive ZclCommand where
  | onOff (cmdId : UInt16)
  | levelControlStep (stepMode : UInt16) (stepSize : UInt8)
    (transitionTime : UInt16)
deriving DecidableEq, Repr

structure ZclRequest where
  dstAddr : UInt16
  dstEndpoint : UInt8
  command : ZclCommand
deriving DecidableEq, Repr

/-- The globals of the switch, the callbacks that wait for a buffer, and how
many match requests have been broadcast. -/
structure LightSwitch where
  bulbCtx : BulbContext
  buttonsCtx : ButtonsContext
  bulbFoundLed : Bool
  zigbeeNetworkStateLed : Bool
  delayed : List Delayed
  matchDescReqs : Nat
deriving DecidableEq, Repr

/-- What can happen to the switch.  An expiry of a stopped timer, a response to
no request and a run of a callback that is not there change nothing. -/
inductive SwitchEvent where
  | findAlarm
  | matchDescResp (resp : MatchDescResp)
  | signal (sig : ZbZdoAppSignalType) (status : ZbRet) (leaveType : UInt8)
  | buttons (buttonState hasChanged : UInt32) (wasFactoryResetDone : Bool)
  | buttonsAlarm (dkGetButtons : UInt32)
  | nusWork (work : NusWork)
  | delayed (index : Nat)
deriving DecidableEq, Repr

namespace LightSwitch

/-- `main` stores the address of no bulb before the stack starts. -/
def start : LightSwitch where
  bulbCtx := { endpoint := 0, shortAddr := noBulb, findAlarm := false }
  buttonsCtx := { state := 0, longPoll := false, alarm := false }
  bulbFoundLed := false
  zigbeeNetworkStateLed := false
  delayed := []
  matchDescReqs := 0

def getOutDelayed (requester : Requester) (callbacks : List Callback)
    (s : LightSwitch) : LightSwitch :=
  { s with delayed := s.delayed ++ callbacks.map fun c => ⟨c, requester⟩ }

def findLightBulbCb (resp : MatchDescResp) (s : LightSwitch) : LightSwitch :=
  if s.bulbCtx.Accepts resp then
    { s with
      bulbCtx :=
        { endpoint := resp.matchEp, shortAddr := resp.srcAddr,
          findAlarm := false }
      bulbFoundLed := true }
  else s

/-- The request goes out with an address that accepts the next response. -/
def findLightBulb (s : LightSwitch) : LightSwitch :=
  { s with
    bulbCtx := { s.bulbCtx with shortAddr := noBulb }
    matchDescReqs := s.matchDescReqs + 1 }

/-- The address and the endpoint are read when the callback runs. -/
def lightSwitchSendOnOff (cmdId : UInt16) (s : LightSwitch) : ZclRequest :=
  ⟨s.bulbCtx.shortAddr, s.bulbCtx.endpoint, .onOff cmdId⟩

def lightSwitchSendStep (cmdId : UInt16) (s : LightSwitch) : ZclRequest :=
  ⟨s.bulbCtx.shortAddr, s.bulbCtx.endpoint,
    .levelControlStep cmdId dimmStep dimmTransactionTime⟩

/-- Identification does not touch the bulb and the buttons. -/
def runCallback (s : LightSwitch) : Callback → LightSwitch × Option ZclRequest
  | .findLightBulb => (s.findLightBulb, none)
  | .lightSwitchSendOnOff cmdId => (s, some (s.lightSwitchSendOnOff cmdId))
  | .lightSwitchSendStep cmdId => (s, some (s.lightSwitchSendStep cmdId))
  | .startIdentifying => (s, none)

def zbossSignalHandler (sig : ZbZdoAppSignalType) (status : ZbRet)
    (leaveType : UInt8) (s : LightSwitch) : LightSwitch :=
  let s := { s with zigbeeNetworkStateLed :=
    zigbeeLedStatusUpdate sig status s.zigbeeNetworkStateLed }
  match sig with
  | .bdbSignalDeviceReboot | .bdbSignalSteering =>
      if status = retOk ∧ s.bulbCtx.shortAddr = noBulb then
        { s with bulbCtx := { s.bulbCtx with findAlarm := true } }
      else s
  | .zdoSignalLeave =>
      if status = retOk ∧ leaveType = zbNwkLeaveTypeReset then
        { s with bulbCtx := { s.bulbCtx with shortAddr := noBulb } }
      else s
  | _ => s

/-- The callback an event takes from those that wait. -/
def running (s : LightSwitch) : SwitchEvent → Option Delayed
  | .delayed index => s.delayed[index]?
  | _ => none

def step (s : LightSwitch) : SwitchEvent → LightSwitch
  | .findAlarm =>
      if s.bulbCtx.findAlarm then s.getOutDelayed .findAlarm [.findLightBulb]
      else s
  | .matchDescResp resp =>
      if 0 < s.matchDescReqs then s.findLightBulbCb resp else s
  | .signal sig status leaveType => s.zbossSignalHandler sig status leaveType
  | .buttons buttonState hasChanged wasFactoryResetDone =>
      let (ctx, callbacks) := s.buttonsCtx.buttonHandler s.bulbCtx.shortAddr
        buttonState hasChanged wasFactoryResetDone
      { s with buttonsCtx := ctx }.getOutDelayed .buttons callbacks
  | .buttonsAlarm dkGetButtons =>
      let (ctx, callbacks) := s.buttonsCtx.alarmExpiry dkGetButtons
      { s with buttonsCtx := ctx }.getOutDelayed .buttons callbacks
  | .nusWork work => s.getOutDelayed .nus [work.callback]
  | .delayed index =>
      match s.delayed[index]? with
      | none => s
      | some d =>
          ({ s with delayed := s.delayed.eraseIdx index }.runCallback
            d.callback).1

/-- The request an event sends. -/
def sent (s : LightSwitch) (e : SwitchEvent) : Option ZclRequest :=
  (s.running e).bind fun d => (s.runCallback d.callback).2

def run (events : List SwitchEvent) : LightSwitch :=
  events.foldl step start

/-! ### What an event does to `bulb_ctx` -/

/-- The event runs a `find_light_bulb`. -/
def RunsFind (s : LightSwitch) (e : SwitchEvent) : Prop :=
  ∃ requester, s.running e = some ⟨.findLightBulb, requester⟩

/-- The event is a successful leave signal of type `RESET`. -/
def LeavesReset (e : SwitchEvent) : Prop :=
  e = .signal .zdoSignalLeave retOk zbNwkLeaveTypeReset

/-- The event is a response that `find_light_bulb_cb` accepts. -/
def AcceptsResp (s : LightSwitch) (e : SwitchEvent) (resp : MatchDescResp) :
    Prop :=
  e = .matchDescResp resp ∧ 0 < s.matchDescReqs ∧ s.bulbCtx.Accepts resp

/-- The event is a reboot or steering signal that reports success. -/
def Joins (e : SwitchEvent) : Prop :=
  ∃ sig leaveType, e = .signal sig retOk leaveType ∧
    (sig = .bdbSignalDeviceReboot ∨ sig = .bdbSignalSteering)

/-- Everything an event can do to `bulb_ctx`. -/
inductive BulbStep (s : LightSwitch) (e : SwitchEvent) : BulbContext → Prop
  | accepts (resp : MatchDescResp) (h : s.AcceptsResp e resp) :
      BulbStep s e ⟨resp.matchEp, resp.srcAddr, false⟩
  | forgets (h : s.RunsFind e ∨ LeavesReset e) :
      BulbStep s e { s.bulbCtx with shortAddr := noBulb }
  | arms (h : Joins e) (hnone : s.bulbCtx.shortAddr = noBulb) :
      BulbStep s e { s.bulbCtx with findAlarm := true }
  | keeps (haccept : ∀ resp, ¬ s.AcceptsResp e resp) (hfind : ¬ s.RunsFind e)
      (hleave : ¬ LeavesReset e)
      (hjoin : Joins e → s.bulbCtx.shortAddr ≠ noBulb) :
      BulbStep s e s.bulbCtx

theorem not_runsFind {s : LightSwitch} {e : SwitchEvent}
    (h : s.running e = none) : ¬ s.RunsFind e := by
  intro hfind
  rcases hfind with ⟨requester, hrun⟩
  rw [h] at hrun
  contradiction

theorem joins_signal {sig : ZbZdoAppSignalType} {status : ZbRet}
    {leaveType : UInt8} : Joins (.signal sig status leaveType) ↔
      status = retOk ∧
        (sig = .bdbSignalDeviceReboot ∨ sig = .bdbSignalSteering) := by
  constructor
  · intro h
    rcases h with ⟨sig', leaveType', heq, hsig⟩
    rw [SwitchEvent.signal.injEq] at heq
    rw [heq.1]
    exact ⟨heq.2.1, hsig⟩
  · intro h
    exact ⟨sig, leaveType, by rw [h.1], h.2⟩

theorem leavesReset_signal {sig : ZbZdoAppSignalType} {status : ZbRet}
    {leaveType : UInt8} : LeavesReset (.signal sig status leaveType) ↔
      sig = .zdoSignalLeave ∧ status = retOk ∧
        leaveType = zbNwkLeaveTypeReset := by
  rw [LeavesReset, SwitchEvent.signal.injEq]

/-- Only signals, accepted responses and runs of `find_light_bulb` touch
`bulb_ctx`. -/
theorem BulbStep.of_eq {s : LightSwitch} {e : SwitchEvent} {ctx : BulbContext}
    (hctx : ctx = s.bulbCtx) (haccept : ∀ resp, ¬ s.AcceptsResp e resp)
    (hfind : ¬ s.RunsFind e)
    (hsig : ∀ sig status leaveType, e ≠ .signal sig status leaveType) :
    BulbStep s e ctx := by
  subst hctx
  apply BulbStep.keeps haccept hfind
  · exact hsig _ _ _
  · intro hjoin
    rcases hjoin with ⟨sig, leaveType, h, -⟩
    exact absurd h (hsig _ _ _)

theorem zbossSignalHandler_bulbCtx (s : LightSwitch) (sig : ZbZdoAppSignalType)
    (status : ZbRet) (leaveType : UInt8) :
    BulbStep s (.signal sig status leaveType)
      (s.zbossSignalHandler sig status leaveType).bulbCtx := by
  have hkeeps : ¬ LeavesReset (.signal sig status leaveType) →
      (Joins (.signal sig status leaveType) → s.bulbCtx.shortAddr ≠ noBulb) →
      BulbStep s (.signal sig status leaveType) s.bulbCtx := by
    intro hleave hjoin
    apply BulbStep.keeps _ (not_runsFind rfl) hleave hjoin
    intro resp haccept
    exact absurd haccept.1 (by simp)
  have hstart : sig = .bdbSignalDeviceReboot ∨ sig = .bdbSignalSteering →
      BulbStep s (.signal sig status leaveType)
        (if status = retOk ∧ s.bulbCtx.shortAddr = noBulb then
          { s.bulbCtx with findAlarm := true } else s.bulbCtx) := by
    intro hsig
    split
    · next h => exact BulbStep.arms (joins_signal.mpr ⟨h.1, hsig⟩) h.2
    · next h =>
        apply hkeeps
        · rw [leavesReset_signal]
          rcases hsig with rfl | rfl <;> simp
        · intro hjoin hnone
          exact h ⟨(joins_signal.mp hjoin).1, hnone⟩
  cases sig with
  | bdbSignalDeviceReboot =>
      have h := hstart (Or.inl rfl)
      simp only [zbossSignalHandler, apply_ite LightSwitch.bulbCtx]
      exact h
  | bdbSignalSteering =>
      have h := hstart (Or.inr rfl)
      simp only [zbossSignalHandler, apply_ite LightSwitch.bulbCtx]
      exact h
  | zdoSignalLeave =>
      simp only [zbossSignalHandler]
      split
      · next h =>
          exact BulbStep.forgets (Or.inr (leavesReset_signal.mpr ⟨rfl, h⟩))
      · next h =>
          apply hkeeps
          · intro hleave
            exact h (leavesReset_signal.mp hleave).2
          · intro hjoin
            simp [joins_signal] at hjoin
  | commonSignalCanSleep | other id =>
      apply hkeeps
      · simp [leavesReset_signal]
      · simp [joins_signal]

theorem step_bulbCtx (s : LightSwitch) (e : SwitchEvent) :
    BulbStep s e (s.step e).bulbCtx := by
  have hother : s.running e = none → (∀ resp, e ≠ .matchDescResp resp) →
      (∀ sig status leaveType, e ≠ .signal sig status leaveType) →
      (s.step e).bulbCtx = s.bulbCtx → BulbStep s e (s.step e).bulbCtx := by
    intro hrun hresp hsig hctx
    apply BulbStep.of_eq hctx _ (not_runsFind hrun) hsig
    intro resp haccept
    exact hresp resp haccept.1
  cases e with
  | findAlarm =>
      apply hother rfl (by simp) (by simp)
      simp only [step]
      split <;> rfl
  | matchDescResp resp =>
      by_cases h : 0 < s.matchDescReqs ∧ s.bulbCtx.Accepts resp
      · simp only [step, findLightBulbCb, h.1, h.2, if_true]
        exact BulbStep.accepts resp ⟨rfl, h⟩
      · apply BulbStep.of_eq _ _ (not_runsFind rfl) (by simp)
        · simp only [step, findLightBulbCb]
          split_ifs with hreq haccept
          · exact absurd ⟨hreq, haccept⟩ h
          · rfl
          · rfl
        · intro resp' haccept
          rw [AcceptsResp, SwitchEvent.matchDescResp.injEq] at haccept
          rw [haccept.1] at h
          exact h haccept.2
  | signal sig status leaveType =>
      exact s.zbossSignalHandler_bulbCtx sig status leaveType
  | buttons buttonState hasChanged wasFactoryResetDone =>
      exact hother rfl (by simp) (by simp) rfl
  | buttonsAlarm dkGetButtons => exact hother rfl (by simp) (by simp) rfl
  | nusWork work => exact hother rfl (by simp) (by simp) rfl
  | delayed index =>
      cases hget : s.delayed[index]? with
      | none =>
          apply hother hget (by simp) (by simp)
          simp only [step, hget]
      | some d =>
          by_cases hfind : d.callback = .findLightBulb
          · have hctx : (s.step (.delayed index)).bulbCtx =
                { s.bulbCtx with shortAddr := noBulb } := by
              simp only [step, hget, hfind, runCallback, findLightBulb]
            rw [hctx]
            apply BulbStep.forgets
            left
            exact ⟨d.requester, hget.trans (by rw [← hfind])⟩
          · apply BulbStep.of_eq _ _ _ (by simp)
            · simp only [step, hget]
              cases hd : d.callback with
              | findLightBulb => exact absurd hd hfind
              | lightSwitchSendOnOff cmdId => rfl
              | lightSwitchSendStep cmdId => rfl
              | startIdentifying => rfl
            · intro resp haccept
              exact absurd haccept.1 (by simp)
            · intro hruns
              rcases hruns with ⟨requester, h⟩
              rw [running, hget, Option.some.injEq] at h
              exact hfind (congrArg Delayed.callback h)

theorem run_append (before : List SwitchEvent) (e : SwitchEvent) :
    run (before ++ [e]) = (run before).step e :=
  List.foldl_concat step start e before

theorem run_bulbCtx (before : List SwitchEvent) (e : SwitchEvent) :
    BulbStep (run before) e (run (before ++ [e])).bulbCtx := by
  rw [run_append]
  exact step_bulbCtx (run before) e

theorem AcceptsResp.not_runsFind {s : LightSwitch} {e : SwitchEvent}
    {resp : MatchDescResp} (h : s.AcceptsResp e resp) : ¬ s.RunsFind e := by
  rcases h with ⟨rfl, -⟩
  exact LightSwitch.not_runsFind rfl

/-- An accepted response is stored, and stops the alarm. -/
theorem AcceptsResp.bulbCtx {s : LightSwitch} {e : SwitchEvent}
    {resp : MatchDescResp} (h : s.AcceptsResp e resp) {ctx : BulbContext}
    (hstep : BulbStep s e ctx) : ctx = ⟨resp.matchEp, resp.srcAddr, false⟩ := by
  cases hstep with
  | accepts resp' haccept =>
      have hsame := h.1.symm.trans haccept.1
      rw [SwitchEvent.matchDescResp.injEq] at hsame
      rw [hsame]
  | forgets hforget =>
      rcases hforget with hfind | hleave
      · exact absurd hfind h.not_runsFind
      · exact absurd (h.1.symm.trans hleave) (by simp)
  | arms hjoin =>
      rcases hjoin with ⟨sig, leaveType, hjoin, -⟩
      exact absurd (h.1.symm.trans hjoin) (by simp)
  | keeps hnot => exact absurd h (hnot resp)

theorem RunsFind.not_signal {s : LightSwitch} {e : SwitchEvent}
    (h : s.RunsFind e) (sig : ZbZdoAppSignalType) (status : ZbRet)
    (leaveType : UInt8) : e ≠ .signal sig status leaveType := by
  intro heq
  subst heq
  exact LightSwitch.not_runsFind rfl h

theorem RunsFind.not_joins {s : LightSwitch} {e : SwitchEvent}
    (h : s.RunsFind e) : ¬ Joins e := by
  intro hjoin
  rcases hjoin with ⟨sig, leaveType, heq, -⟩
  exact h.not_signal _ _ _ heq

theorem Joins.not_leavesReset {e : SwitchEvent} (h : Joins e) :
    ¬ LeavesReset e := by
  intro hleave
  rcases h with ⟨sig, leaveType, rfl, hsig⟩
  rw [leavesReset_signal] at hleave
  rcases hsig with rfl | rfl <;> simp at hleave

/-! ### By the address before and after -/

namespace BulbStep

variable {s : LightSwitch} {e : SwitchEvent} {ctx : BulbContext}

/-- What forgets the address changes nothing else. -/
theorem of_forgets (h : BulbStep s e ctx)
    (hforget : s.RunsFind e ∨ LeavesReset e) :
    ctx = { s.bulbCtx with shortAddr := noBulb } := by
  cases h with
  | accepts resp haccept =>
      rcases hforget with hfind | hleave
      · exact absurd hfind haccept.not_runsFind
      · exact absurd (haccept.1.symm.trans hleave) (by simp)
  | forgets => rfl
  | arms hjoin =>
      rcases hforget with hfind | hleave
      · exact absurd hjoin hfind.not_joins
      · exact absurd hleave hjoin.not_leavesReset
  | keeps _ hfind hleave =>
      rcases hforget with h | h
      · exact absurd h hfind
      · exact absurd h hleave

/-- A known bulb is forgotten or kept. -/
theorem of_known (h : BulbStep s e ctx)
    (hknown : s.bulbCtx.shortAddr ≠ noBulb) :
    (s.RunsFind e ∨ LeavesReset e) ∨ ctx = s.bulbCtx := by
  cases h with
  | accepts resp haccept => exact absurd haccept.2.2.2.2 hknown
  | forgets hforget => exact Or.inl hforget
  | arms _ hnone => exact absurd hnone hknown
  | keeps => exact Or.inr rfl

/-- Only an accepted response makes an address known. -/
theorem of_unknown (h : BulbStep s e ctx)
    (hnone : s.bulbCtx.shortAddr = noBulb) :
    (∃ resp, s.AcceptsResp e resp ∧ ctx.shortAddr = resp.srcAddr) ∨
      ctx.shortAddr = noBulb := by
  cases h with
  | accepts resp haccept => exact Or.inl ⟨resp, haccept, rfl⟩
  | forgets => exact Or.inr rfl
  | arms => exact Or.inr hnone
  | keeps => exact Or.inr hnone

/-- An address known after the event comes from a response the event brings, or
was known before. -/
theorem known_after (h : BulbStep s e ctx) (hknown : ctx.shortAddr ≠ noBulb) :
    (∃ resp, s.AcceptsResp e resp ∧
        ctx = ⟨resp.matchEp, resp.srcAddr, false⟩) ∨
      (∀ resp, ¬ s.AcceptsResp e resp) ∧ ¬ LeavesReset e ∧ ctx = s.bulbCtx := by
  cases h with
  | accepts resp haccept => exact Or.inl ⟨resp, haccept, rfl⟩
  | forgets => exact absurd rfl hknown
  | arms _ hnone => exact absurd hnone hknown
  | keeps hnot _ hleave => exact Or.inr ⟨hnot, hleave, rfl⟩

end BulbStep

end LightSwitch

end ZbLightbulb
