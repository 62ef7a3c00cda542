/-
The switches and the dongles of one network, and the frames between them.  Each
device runs its own program and keeps its address; a frame may arrive late, in
any order or not at all; and what the stack of a dongle makes of a command is a
parameter.
-/
import Mathlib.Logic.Function.Basic
import ZbLightbulb.BulbRuns
import ZbLightbulb.MatchDesc
import ZbLightbulb.SwitchCallbacks

namespace ZbLightbulb

/-- What a device sends to others: the match request of `find_light_bulb`, a
response to it, or a command. -/
inductive Frame where
  | matchDescReq (src : UInt16)
  | matchDescResp (dst : UInt16) (resp : MatchDescResp)
  | command (src : UInt16) (request : ZclRequest)
deriving DecidableEq, Repr

/-- The frame that carries a request of the switch at `addr`. -/
def Frame.requestOf (addr : UInt16) : Frame → Option ZclRequest
  | .command src request => if src = addr then some request else none
  | _ => none

/-- What the callback an event runs sends from `addr`. -/
def LightSwitch.transmits (addr : UInt16) (s : LightSwitch) (e : SwitchEvent) :
    List Frame :=
  match s.running e with
  | none => []
  | some d =>
      match d.callback with
      | .findLightBulb => [.matchDescReq addr]
      | _ => ((s.runCallback d.callback).2.map (Frame.command addr)).toList

/-- The devices of a network, when their stacks answer a match request, with
which callbacks that of a dongle serves a command, and what the outputs of the
dongles held before they started. -/
structure Devices where
  network : ZigbeeNetwork
  rule : MatchRule
  serve : ZclCommand → Bulb Dongle.Pwm → List BulbEvent
  pwm : UInt16 → Dongle.Pwm

/-- The switches and the bulbs by their addresses, and the frames in flight. -/
structure LightNetwork where
  switches : UInt16 → LightSwitch
  bulbs : UInt16 → Bulb Dongle.Pwm
  inFlight : List Frame

/-- Something happens to a switch; a match request in flight is answered or
times out; a frame arrives; a dongle hears a command to all devices; a frame is
lost; or something else happens to a bulb. -/
inductive NetworkEvent where
  | switch (addr : UInt16) (e : SwitchEvent)
  | answer (index : Nat) (resp : MatchDescResp)
  | arrive (index : Nat)
  | overhear (index : Nat) (addr : UInt16)
  | lose (index : Nat)
  | bulb (addr : UInt16) (e : BulbEvent)
deriving DecidableEq, Repr

namespace LightNetwork

variable (d : Devices)

def start : LightNetwork where
  switches := fun _ => LightSwitch.start
  bulbs := fun addr => Bulb.startUp Dongle.setBrightness (d.pwm addr)
  inFlight := []

/-- A switch handles an event and sends what this makes it send. -/
def handleSwitch (addr : UInt16) (e : SwitchEvent) (n : LightNetwork) :
    LightNetwork :=
  { n with
    switches := Function.update n.switches addr ((n.switches addr).step e)
    inFlight := n.inFlight ++ (n.switches addr).transmits addr e }

def handleBulb (addr : UInt16) (events : List BulbEvent) (n : LightNetwork) :
    LightNetwork :=
  { n with
    bulbs := Function.update n.bulbs addr
      (events.foldl (Bulb.handle Dongle.setBrightness) (n.bulbs addr)) }

/-- The callbacks with which the device at `addr` serves a request: only a
dongle does, and only on its light endpoint. -/
def callbacksAt (addr : UInt16) (request : ZclRequest) (n : LightNetwork) :
    List BulbEvent :=
  if d.network addr = some .lightBulbDongle ∧
      request.dstEndpoint = haDimmableLightEndpoint then
    d.serve request.command (n.bulbs addr)
  else []

/-- A request reaches the device it is addressed to. -/
def receive (n : LightNetwork) : Frame → LightNetwork
  | .matchDescReq _ => n
  | .matchDescResp dst resp => n.handleSwitch dst (.matchDescResp resp)
  | .command _ request =>
      n.handleBulb request.dstAddr (n.callbacksAt d request.dstAddr request)

/-- An index at which no such frame is in flight changes nothing.  A match
request and a command to all devices stay in flight for the next device until
they arrive everywhere or are lost. -/
def step (n : LightNetwork) : NetworkEvent → LightNetwork
  | .switch addr e => n.handleSwitch addr e
  | .answer index resp =>
      match n.inFlight[index]? with
      | some (.matchDescReq src) =>
          { n with inFlight := n.inFlight ++ [.matchDescResp src resp] }
      | _ => n
  | .arrive index =>
      match n.inFlight[index]? with
      | some f => { n with inFlight := n.inFlight.eraseIdx index }.receive d f
      | none => n
  | .overhear index addr =>
      match n.inFlight[index]? with
      | some (.command _ request) =>
          if request.dstAddr = noBulb then
            n.handleBulb addr (n.callbacksAt d addr request)
          else n
      | _ => n
  | .lose index => { n with inFlight := n.inFlight.eraseIdx index }
  | .bulb addr e => n.handleBulb addr [e]

def run (events : List NetworkEvent) : LightNetwork :=
  events.foldl (step d) (start d)

theorem run_append (before : List NetworkEvent) (e : NetworkEvent) :
    run d (before ++ [e]) = (run d before).step d e :=
  List.foldl_concat (step d) (start d) e before

/-- The event can happen among these devices: at a device that is there, a
response to a switch only by a frame, and an answer only as the rule has it. -/
def Allows : NetworkEvent → Prop
  | .switch addr e => d.network addr = some .lightSwitch2 ∧
      ∀ resp, e ≠ .matchDescResp resp
  | .answer _ resp =>
      (SwitchEvent.matchDescResp resp).FromNetwork d.rule d.network
  | .bulb addr _ => d.network addr = some .lightBulbDongle
  | .arrive _ | .overhear _ _ | .lose _ => True

/-! ### Each device runs its own program -/

/-- What an event is to the switch at `addr`. -/
def switchSees (addr : UInt16) (n : LightNetwork) :
    NetworkEvent → List SwitchEvent
  | .switch addr' e => if addr' = addr then [e] else []
  | .arrive index =>
      match n.inFlight[index]? with
      | some (.matchDescResp dst resp) =>
          if dst = addr then [.matchDescResp resp] else []
      | _ => []
  | _ => []

/-- What an event is to the bulb at `addr`. -/
def bulbSees (addr : UInt16) (n : LightNetwork) :
    NetworkEvent → List BulbEvent
  | .arrive index =>
      match n.inFlight[index]? with
      | some (.command _ request) =>
          if request.dstAddr = addr then n.callbacksAt d addr request else []
      | _ => []
  | .overhear index addr' =>
      match n.inFlight[index]? with
      | some (.command _ request) =>
          if request.dstAddr = noBulb ∧ addr' = addr then
            n.callbacksAt d addr request
          else []
      | _ => []
  | .bulb addr' e => if addr' = addr then [e] else []
  | _ => []

/-- What has happened to the switch at `addr`. -/
def switchEvents (addr : UInt16) (events : List NetworkEvent) :
    List SwitchEvent :=
  Runs.outputs (step d) (switchSees addr) (start d) events

/-- What has happened to the bulb at `addr`. -/
def bulbEvents (addr : UInt16) (events : List NetworkEvent) :
    List BulbEvent :=
  Runs.outputs (step d) (bulbSees d addr) (start d) events

theorem handleSwitch_switches (addr addr' : UInt16) (e : SwitchEvent)
    (n : LightNetwork) : (n.handleSwitch addr' e).switches addr =
      (if addr' = addr then [e] else []).foldl LightSwitch.step
        (n.switches addr) := by
  by_cases h : addr' = addr
  · subst h
    simp [handleSwitch]
  · simp [handleSwitch, h, Function.update_of_ne (Ne.symm h)]

theorem handleBulb_bulbs (addr addr' : UInt16) (events : List BulbEvent)
    (n : LightNetwork) : (n.handleBulb addr' events).bulbs addr =
      (if addr' = addr then events else []).foldl
        (Bulb.handle Dongle.setBrightness) (n.bulbs addr) := by
  by_cases h : addr' = addr
  · subst h
    simp [handleBulb]
  · simp [handleBulb, h, Function.update_of_ne (Ne.symm h)]

theorem step_switches (addr : UInt16) (n : LightNetwork) (e : NetworkEvent) :
    (n.step d e).switches addr =
      (n.switchSees addr e).foldl LightSwitch.step (n.switches addr) := by
  cases e with
  | switch addr' e => exact handleSwitch_switches addr addr' e n
  | answer index resp =>
      simp only [step, switchSees]
      split <;> rfl
  | arrive index =>
      simp only [step, switchSees]
      cases n.inFlight[index]? with
      | none => rfl
      | some f =>
          cases f with
          | matchDescReq src => rfl
          | matchDescResp dst resp => exact handleSwitch_switches addr dst _ _
          | command src request => rfl
  | overhear index addr' =>
      simp only [step, switchSees]
      split
      · split <;> rfl
      · rfl
  | lose index => rfl
  | bulb addr' e => rfl

theorem step_bulbs (addr : UInt16) (n : LightNetwork) (e : NetworkEvent) :
    (n.step d e).bulbs addr = (n.bulbSees d addr e).foldl
      (Bulb.handle Dongle.setBrightness) (n.bulbs addr) := by
  cases e with
  | switch addr' e => rfl
  | answer index resp =>
      simp only [step, bulbSees]
      split <;> rfl
  | arrive index =>
      simp only [step, bulbSees]
      cases n.inFlight[index]? with
      | none => rfl
      | some f =>
          cases f with
          | matchDescReq src => rfl
          | matchDescResp dst resp => rfl
          | command src request =>
              simp only [receive]
              rw [handleBulb_bulbs]
              split
              · next h =>
                  rw [h]
                  rfl
              · rfl
  | overhear index addr' =>
      simp only [step, bulbSees]
      cases n.inFlight[index]? with
      | none => rfl
      | some f =>
          cases f with
          | matchDescReq src => rfl
          | matchDescResp dst resp => rfl
          | command src request =>
              by_cases hall : request.dstAddr = noBulb
              · simp only [hall, if_true, true_and]
                rw [handleBulb_bulbs]
                split
                · next h => rw [h]
                · rfl
              · simp only [hall, if_false, false_and]
                rfl
  | lose index => rfl
  | bulb addr' e => exact handleBulb_bulbs addr addr' [e] n

theorem run_switches (addr : UInt16) (events : List NetworkEvent) :
    (run d events).switches addr =
      LightSwitch.run (switchEvents d addr events) :=
  Runs.foldl_project (f := fun n => n.switches addr) (step_switches d addr)
    (start d) events

theorem run_bulbs (addr : UInt16) (events : List NetworkEvent) :
    (run d events).bulbs addr =
      Bulb.run Dongle.setBrightness (d.pwm addr) (bulbEvents d addr events) :=
  Runs.foldl_project (f := fun n => n.bulbs addr) (step_bulbs d addr)
    (start d) events

/-! ### The frames in flight -/

/-- The frames an event puts in flight. -/
def sends (n : LightNetwork) : NetworkEvent → List Frame
  | .switch addr e => (n.switches addr).transmits addr e
  | .answer index resp =>
      match n.inFlight[index]? with
      | some (.matchDescReq src) => [.matchDescResp src resp]
      | _ => []
  | _ => []

/-- The frame that arrives. -/
def arrives (n : LightNetwork) : NetworkEvent → List Frame
  | .arrive index => n.inFlight[index]?.toList
  | _ => []

/-- The frame that is lost. -/
def loses (n : LightNetwork) : NetworkEvent → List Frame
  | .lose index => n.inFlight[index]?.toList
  | _ => []

theorem receive_inFlight (n : LightNetwork) (f : Frame) :
    (n.receive d f).inFlight = n.inFlight := by
  cases f with
  | matchDescReq src => rfl
  | matchDescResp dst resp => exact List.append_nil _
  | command src request => rfl

/-- A frame in flight stays there, arrives or is lost. -/
theorem conserves : Runs.Conserves (step d) inFlight sends
    fun n e => n.arrives e ++ n.loses e := by
  intro n e
  have hsends : n.arrives e ++ n.loses e = [] →
      (n.step d e).inFlight = n.inFlight ++ n.sends e →
      (n.inFlight ++ n.sends e).Perm
        ((n.arrives e ++ n.loses e) ++ (n.step d e).inFlight) := by
    intro hnone hflight
    rw [hnone, hflight]
    exact List.Perm.refl _
  cases e with
  | switch addr e => exact hsends rfl rfl
  | answer index resp =>
      apply hsends rfl
      simp only [step, sends]
      split
      · rfl
      · exact (List.append_nil _).symm
  | arrive index =>
      have hafter : (n.step d (.arrive index)).inFlight =
          n.inFlight.eraseIdx index := by
        simp only [step]
        cases hget : n.inFlight[index]? with
        | none =>
            rw [List.eraseIdx_of_length_le (List.getElem?_eq_none_iff.mp hget)]
        | some f => exact receive_inFlight d _ f
      rw [hafter]
      change (n.inFlight ++ []).Perm ((n.inFlight[index]?.toList ++ []) ++ _)
      rw [List.append_nil, List.append_nil]
      exact Runs.eraseIdx_perm n.inFlight index
  | overhear index addr =>
      apply hsends rfl
      simp only [step, sends, List.append_nil]
      split
      · split <;> rfl
      · rfl
  | lose index =>
      change (n.inFlight ++ []).Perm _
      rw [List.append_nil]
      exact Runs.eraseIdx_perm n.inFlight index
  | bulb addr e => exact hsends rfl (List.append_nil _).symm

/-- What is in flight after an event was in flight before it or was sent. -/
theorem mem_inFlight_step {n : LightNetwork} {e : NetworkEvent} {f : Frame}
    (h : f ∈ (n.step d e).inFlight) : f ∈ n.inFlight ∨ f ∈ n.sends e := by
  rw [← List.mem_append, (conserves d n e).mem_iff]
  exact List.mem_append_right _ h

/-! ### What a switch sends -/

section Transmits

variable {addr : UInt16} {s : LightSwitch} {e : SwitchEvent}

theorem transmits_requests (addr addr' : UInt16) (s : LightSwitch)
    (e : SwitchEvent) :
    (s.transmits addr' e).filterMap (Frame.requestOf addr) =
      if addr' = addr then (s.sent e).toList else [] := by
  simp only [LightSwitch.transmits, LightSwitch.sent]
  cases s.running e with
  | none => exact (ite_self []).symm
  | some d =>
      simp only [Option.bind_some]
      cases d.callback with
      | findLightBulb | startIdentifying => exact (ite_self []).symm
      | lightSwitchSendOnOff cmdId | lightSwitchSendStep cmdId =>
          by_cases h : addr' = addr <;>
            simp [LightSwitch.runCallback, Frame.requestOf, h]

/-- A command goes out under the address of its switch. -/
theorem sent_of_mem_transmits {src : UInt16} {request : ZclRequest}
    (h : .command src request ∈ s.transmits addr e) :
    src = addr ∧ s.sent e = some request := by
  have hsrc : src = addr := by
    simp only [LightSwitch.transmits] at h
    cases hrun : s.running e with
    | none =>
        rw [hrun] at h
        contradiction
    | some d =>
        rw [hrun] at h
        cases hd : d.callback <;>
          simp [hd, LightSwitch.runCallback] at h
        · exact h.1
        · exact h.1
  refine ⟨hsrc, ?_⟩
  subst hsrc
  have hmem : request ∈ (s.transmits src e).filterMap (Frame.requestOf src) :=
    List.mem_filterMap.mpr ⟨_, h, if_pos rfl⟩
  rw [transmits_requests, if_pos rfl] at hmem
  exact Option.mem_toList.mp hmem

theorem not_mem_transmits_resp {dst : UInt16} {resp : MatchDescResp} :
    .matchDescResp dst resp ∉ s.transmits addr e := by
  intro h
  simp only [LightSwitch.transmits] at h
  cases hrun : s.running e with
  | none =>
      rw [hrun] at h
      contradiction
  | some d =>
      rw [hrun] at h
      cases hd : d.callback <;> simp [hd, LightSwitch.runCallback] at h

end Transmits

end LightNetwork

end ZbLightbulb
