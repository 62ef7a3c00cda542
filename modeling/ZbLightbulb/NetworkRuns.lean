/-
What holds of a whole network in every run: where its commands go, what has
become of each of them, and that no run takes a switch to a state from which it
cannot command a light.
-/
import ZbLightbulb.LightNetwork

namespace ZbLightbulb

namespace LightSwitch

/-- No event takes a request back. -/
theorem matchDescReqs_le_step (s : LightSwitch) (e : SwitchEvent) :
    s.matchDescReqs ≤ (s.step e).matchDescReqs := by
  cases e with
  | findAlarm =>
      simp only [step]
      split <;> exact Nat.le_refl _
  | matchDescResp resp =>
      simp only [step, findLightBulbCb]
      split_ifs <;> exact Nat.le_refl _
  | signal sig status leaveType =>
      simp only [step, zbossSignalHandler]
      split <;> (try split) <;> exact Nat.le_refl _
  | buttons | buttonsAlarm | nusWork => exact Nat.le_refl _
  | delayed index =>
      simp only [step]
      cases s.delayed[index]? with
      | none => exact Nat.le_refl _
      | some d =>
          cases hd : d.callback <;> simp [runCallback, findLightBulb, hd]

theorem matchDescReqs_le_foldl (s : LightSwitch) (events : List SwitchEvent) :
    s.matchDescReqs ≤ (events.foldl step s).matchDescReqs := by
  induction events generalizing s with
  | nil => exact Nat.le_refl _
  | cons e events ih => exact (s.matchDescReqs_le_step e).trans (ih (s.step e))

/-- A match request that goes out is counted. -/
theorem asked_of_mem_transmits {addr src : UInt16} {s : LightSwitch}
    {e : SwitchEvent} (h : .matchDescReq src ∈ s.transmits addr e) :
    src = addr ∧ 0 < (s.step e).matchDescReqs := by
  cases e with
  | delayed index =>
      simp only [transmits, running] at h
      simp only [step]
      cases hget : s.delayed[index]? with
      | none =>
          rw [hget] at h
          contradiction
      | some d =>
          rw [hget] at h
          cases hd : d.callback <;>
            simp [hd, runCallback, findLightBulb] at h ⊢
          exact h
  | findAlarm | matchDescResp | signal | buttons | buttonsAlarm | nusWork =>
      contradiction

end LightSwitch

/-- The switch that waits for a match response because of the frame. -/
def Frame.asker : Frame → Option UInt16
  | .matchDescReq src => some src
  | .matchDescResp dst _ => some dst
  | .command _ _ => none

namespace LightNetwork

variable (d : Devices)

/-! ### Where the commands go -/

/-- A switch knows no bulb or a light; a response in flight that reports a match
names a light; a command in flight goes to all devices or to a light; and a
switch that is being answered has asked. -/
structure Sound (n : LightNetwork) : Prop where
  knows : ∀ addr, LightSwitch.KnowsLight d.network (n.switches addr).bulbCtx
  responses : ∀ dst resp, .matchDescResp dst resp ∈ n.inFlight →
    (SwitchEvent.matchDescResp resp).FromNetwork d.rule d.network
  commands : ∀ src request, .command src request ∈ n.inFlight →
    request.dstAddr ≠ noBulb →
      d.network request.dstAddr = some .lightBulbDongle ∧
        request.dstEndpoint = haDimmableLightEndpoint
  asked : ∀ f ∈ n.inFlight, ∀ addr, f.asker = some addr →
    0 < (n.switches addr).matchDescReqs

section Step

variable {d} {n : LightNetwork} {e : NetworkEvent}

/-- A response reaches a switch only by a frame. -/
theorem Sound.switchSees_fromNetwork (h : n.Sound d) (hallows : Allows d e)
    (addr : UInt16) :
    ∀ e' ∈ n.switchSees addr e, e'.FromNetwork d.rule d.network := by
  intro e' he'
  cases e with
  | switch addr' e =>
      simp only [switchSees] at he'
      split at he'
      · rw [List.mem_singleton.mp he']
        cases e with
        | matchDescResp resp => exact absurd rfl (hallows.2 resp)
        | findAlarm | signal | buttons | buttonsAlarm | nusWork | delayed =>
            trivial
      · contradiction
  | arrive index =>
      simp only [switchSees] at he'
      split at he'
      · next dst resp hget =>
          split at he'
          · rw [List.mem_singleton.mp he']
            exact h.responses dst resp (List.mem_of_getElem? hget)
          · contradiction
      · contradiction
  | answer | overhear | lose | bulb => contradiction

theorem Sound.responses_step (h : n.Sound d) (hallows : Allows d e)
    (dst : UInt16) (resp : MatchDescResp)
    (hmem : .matchDescResp dst resp ∈ (n.step d e).inFlight) :
    (SwitchEvent.matchDescResp resp).FromNetwork d.rule d.network := by
  rcases mem_inFlight_step d hmem with hbefore | hsent
  · exact h.responses dst resp hbefore
  · cases e with
    | switch addr e => exact absurd hsent not_mem_transmits_resp
    | answer index resp' =>
        simp only [sends] at hsent
        split at hsent
        · have hsame := List.mem_singleton.mp hsent
          rw [Frame.matchDescResp.injEq] at hsame
          rw [hsame.2]
          exact hallows
        · contradiction
    | arrive | overhear | lose | bulb => contradiction

theorem Sound.commands_step (h : n.Sound d) (src : UInt16)
    (request : ZclRequest)
    (hmem : .command src request ∈ (n.step d e).inFlight)
    (hknown : request.dstAddr ≠ noBulb) :
    d.network request.dstAddr = some .lightBulbDongle ∧
      request.dstEndpoint = haDimmableLightEndpoint := by
  rcases mem_inFlight_step d hmem with hbefore | hsent
  · exact h.commands src request hbefore hknown
  · cases e with
    | switch addr e =>
        have hsent := (sent_of_mem_transmits hsent).2
        rw [LightSwitch.sent_eq, Option.map_eq_some_iff] at hsent
        obtain ⟨c, -, rfl⟩ := hsent
        exact h.knows addr hknown
    | answer index resp =>
        simp only [sends] at hsent
        split at hsent
        · exact absurd (List.mem_singleton.mp hsent) (by simp)
        · contradiction
    | arrive | overhear | lose | bulb => contradiction

theorem Sound.asked_step (h : n.Sound d) (f : Frame)
    (hmem : f ∈ (n.step d e).inFlight) (addr : UInt16)
    (hasker : f.asker = some addr) :
    0 < ((n.step d e).switches addr).matchDescReqs := by
  rcases mem_inFlight_step d hmem with hbefore | hsent
  · rw [step_switches]
    exact (h.asked f hbefore addr hasker).trans_le
      (LightSwitch.matchDescReqs_le_foldl _ _)
  · cases e with
    | switch addr' e =>
        cases f with
        | matchDescReq src =>
            obtain ⟨rfl, hasked⟩ := LightSwitch.asked_of_mem_transmits hsent
            have hsame : src = addr := Option.some.inj hasker
            rw [step_switches, switchSees, if_pos hsame, ← hsame]
            exact hasked
        | matchDescResp dst resp => exact absurd hsent not_mem_transmits_resp
        | command src request => contradiction
    | answer index resp =>
        simp only [sends] at hsent
        split at hsent
        · next src hget =>
            rw [List.mem_singleton.mp hsent] at hasker
            rw [step_switches]
            exact h.asked _ (List.mem_of_getElem? hget) addr hasker
        · contradiction
    | arrive | overhear | lose | bulb => contradiction

theorem Sound.step (h : n.Sound d) (hallows : Allows d e) :
    (n.step d e).Sound d where
  knows addr := by
    rw [step_switches]
    exact (h.knows addr).foldl (h.switchSees_fromNetwork hallows addr)
  responses := h.responses_step hallows
  commands := h.commands_step
  asked := h.asked_step

end Step

theorem start_sound : (start d).Sound d where
  knows _ := LightSwitch.start_knowsLight
  responses _ _ hmem := absurd hmem List.not_mem_nil
  commands _ _ hmem := absurd hmem List.not_mem_nil
  asked _ hmem := absurd hmem List.not_mem_nil

theorem run_sound (events : List NetworkEvent)
    (hallows : ∀ e ∈ events, Allows d e) : (run d events).Sound d :=
  List.foldlRecOn events (step d) (start_sound d) fun _ hn e he =>
    hn.step (hallows e he)

/-- In every run of switches and dongles, whatever arrives late, in another
order or not at all: the network stays sound, a match that is reported to a
switch is a light, and the endpoint a command goes to serves its cluster. -/
theorem run_goes_to_lights (events : List NetworkEvent)
    (hallows : ∀ e ∈ events, Allows d e) :
    (run d events).Sound d ∧
      (∀ dst resp, .matchDescResp dst resp ∈ (run d events).inFlight →
        resp.status = zbZdpStatusSuccess → 0 < resp.matchLen →
          d.network resp.srcAddr = some .lightBulbDongle ∧
            resp.matchEp = haDimmableLightEndpoint) ∧
      ∀ src request, .command src request ∈ (run d events).inFlight →
        request.dstAddr ≠ noBulb →
          dimmableLightEp.epId = request.dstEndpoint ∧
            ∃ desc ∈ dimmableLightEp.clusterDescList,
              desc.clusterId = request.command.clusterId ∧
                desc.role = .server := by
  have hsound := run_sound d events hallows
  refine ⟨hsound, ?_, ?_⟩
  · intro dst resp hmem hstatus hlen
    exact (hsound.responses dst resp hmem).light hstatus hlen
  · intro src request hmem hknown
    have hendpoint := (hsound.commands src request hmem hknown).2
    exact ⟨hendpoint.symm, dimmableLightEp_serves request.command⟩

/-- A switch at address 1 and a dongle, whose stack passes ON and OFF on. -/
def oneSwitch : Devices where
  network addr := if addr = 1 then some .lightSwitch2
    else if addr = 0x1234 then some .lightBulbDongle else none
  rule := .whenever
  serve c _ :=
    match c with
    | .onOff cmdId =>
        [.setAttr zbZclClusterIdOnOff zbZclAttrOnOffOnOffId cmdId]
    | .levelControlStep _ _ _ => []
  pwm _ := { ledPulse := 0, pinPulse := 0 }

/-- The switch finds the light and its OFF button is tapped. -/
def oneTap : List NetworkEvent :=
  [.switch 1 (.signal .bdbSignalSteering retOk 0), .switch 1 .findAlarm,
    .switch 1 (.delayed 0), .answer 0 ⟨0, 1, 10, 0x1234⟩, .arrive 1,
    .switch 1 (.buttons 2 2 false), .switch 1 (.buttons 0 2 false),
    .switch 1 (.delayed 0), .arrive 1]

example : ((run oneSwitch oneTap).bulbs 0x1234).onOff = 0 := by decide

theorem oneTap_allowed : ∀ e ∈ oneTap, Allows oneSwitch e := by
  have hanswer : SwitchEvent.FromNetwork .whenever oneSwitch.network
      (.matchDescResp ⟨0, 1, 10, 0x1234⟩) := fun _ _ =>
    ⟨.lightBulbDongle, rfl, zbZclDeclareHaDimmableLightSimpleDesc 10,
      by decide, rfl, rfl, by decide⟩
  simp only [oneTap, List.forall_mem_cons]
  exact ⟨⟨rfl, by simp⟩, ⟨rfl, by simp⟩, ⟨rfl, by simp⟩, hanswer, trivial,
    ⟨rfl, by simp⟩, ⟨rfl, by simp⟩, ⟨rfl, by simp⟩, trivial, by simp⟩

theorem run_goes_to_lights_oneTap : (run oneSwitch oneTap).Sound oneSwitch :=
  (run_goes_to_lights oneSwitch oneTap oneTap_allowed).1

/-- The switch of each address is in a run of its own, in which every response
is one of the network, and the bulb of each address too. -/
structure RunAlone (events : List NetworkEvent) : Prop where
  switches : ∀ addr, (run d events).switches addr =
    LightSwitch.run (switchEvents d addr events)
  responses : ∀ addr, ∀ e ∈ switchEvents d addr events,
    e.FromNetwork d.rule d.network
  bulbs : ∀ addr, (run d events).bulbs addr =
    Bulb.run Dongle.setBrightness (d.pwm addr) (bulbEvents d addr events)

/-- Whatever holds of one switch in every run of its own, and of one bulb, holds
of each of them in the network. -/
theorem devices_run_alone (events : List NetworkEvent)
    (hallows : ∀ e ∈ events, Allows d e) : RunAlone d events := by
  refine ⟨fun addr => run_switches d addr events, ?_,
    fun addr => run_bulbs d addr events⟩
  intro addr
  induction events using List.reverseRecOn with
  | nil =>
      intro e he
      contradiction
  | append_singleton before last ih =>
      have hbefore : ∀ e ∈ before, Allows d e :=
        fun e he => hallows e (List.mem_append_left _ he)
      intro e he
      rw [switchEvents, Runs.outputs_concat, List.mem_append] at he
      rcases he with he | he
      · exact ih hbefore e he
      · exact (run_sound d before hbefore).switchSees_fromNetwork
          (hallows last (by simp)) addr e he

theorem devices_run_alone_oneTap : RunAlone oneSwitch oneTap :=
  devices_run_alone oneSwitch oneTap oneTap_allowed

end LightNetwork

/-! ### What becomes of a command -/

/-- The callback sends the command. -/
def Delayed.carries (c : ZclCommand) (d : Delayed) : Bool :=
  d.callback.command == some c

/-- The frame carries the command from the switch at `addr`. -/
def Frame.carries (addr : UInt16) (c : ZclCommand) (f : Frame) : Bool :=
  (f.requestOf addr).any fun request => request.command == c

namespace LightSwitch

/-- The requests a switch has sent over a run. -/
def requests (events : List SwitchEvent) : List ZclRequest :=
  Runs.outputs step (fun s e => (s.sent e).toList) start events

theorem countP_requests (c : ZclCommand) (events : List SwitchEvent) :
    (requests events).countP (fun request => request.command == c) =
      (ran events).countP (Delayed.carries c) := by
  have hcommands : (requests events).map ZclRequest.command =
      (ran events).filterMap fun d => d.callback.command := by
    rw [requests, ran, Runs.map_outputs, Runs.filterMap_outputs]
    congr 1
    funext s e
    rw [sent_eq]
    cases s.running e with
    | none => rfl
    | some d => cases hcommand : d.callback.command <;> simp [hcommand]
  have hcount : (requests events).countP (fun request => request.command == c) =
      ((requests events).map ZclRequest.command).count c := by
    rw [List.count, List.countP_map]
    rfl
  rw [hcount, hcommands, List.count_filterMap]
  rfl

end LightSwitch

namespace LightNetwork

variable (d : Devices)

/-- The frames put in flight over a run. -/
def sentOver (events : List NetworkEvent) : List Frame :=
  Runs.outputs (step d) sends (start d) events

def arrivedOver (events : List NetworkEvent) : List Frame :=
  Runs.outputs (step d) arrives (start d) events

def lostOver (events : List NetworkEvent) : List Frame :=
  Runs.outputs (step d) loses (start d) events

theorem requestOf_sends (addr : UInt16) (n : LightNetwork) (e : NetworkEvent) :
    (n.sends e).filterMap (Frame.requestOf addr) =
      Runs.outputs LightSwitch.step (fun s e => (s.sent e).toList)
        (n.switches addr) (n.switchSees addr e) := by
  cases e with
  | switch addr' e =>
      rw [sends, transmits_requests, switchSees]
      by_cases h : addr' = addr
      · subst h
        rw [if_pos rfl, if_pos rfl, Runs.outputs_cons, Runs.outputs_nil,
          List.append_nil]
      · rw [if_neg h, if_neg h, Runs.outputs_nil]
  | answer index resp =>
      simp only [sends, switchSees]
      split <;> rfl
  | arrive index =>
      simp only [sends, switchSees]
      split
      · split <;> rfl
      · rfl
  | overhear | lose | bulb => rfl

/-- The requests of a switch are those it has sent in its own run. -/
theorem requestOf_sentOver (addr : UInt16) (events : List NetworkEvent) :
    (sentOver d events).filterMap (Frame.requestOf addr) =
      LightSwitch.requests (switchEvents d addr events) := by
  have hproject := Runs.filterMap_outputs_project
    (f := fun n => n.switches addr)
    (Frame.requestOf addr) (step_switches d addr) (requestOf_sends addr)
    (start d) events
  exact hproject

theorem countP_sentOver (addr : UInt16) (c : ZclCommand)
    (events : List NetworkEvent) :
    (sentOver d events).countP (Frame.carries addr c) =
      (LightSwitch.ran (switchEvents d addr events)).countP
        (Delayed.carries c) := by
  rw [← LightSwitch.countP_requests, ← requestOf_sentOver,
    List.countP_filterMap]
  apply List.countP_congr
  intro f _
  cases hrequest : f.requestOf addr <;> simp [Frame.carries, hrequest]

/-- What has been sent has arrived, is lost or is in flight. -/
theorem countP_ended (p : Frame → Bool) (events : List NetworkEvent) :
    (sentOver d events).countP p = (arrivedOver d events).countP p +
      (lostOver d events).countP p + (run d events).inFlight.countP p := by
  have hperm := (conserves d).run (start d) events
  change (sentOver d events).Perm (_ ++ (run d events).inFlight) at hperm
  rw [hperm.countP_eq, List.countP_append, Runs.countP_outputs_append]
  rfl

/-- What becomes of the commands that are asked for: of a switch and a command,
how many wait, are in flight, have been lost and have arrived; and a command
that arrives anywhere is served there. -/
structure CommandsAccounted (events : List NetworkEvent) : Prop where
  counts : ∀ addr c,
    (LightSwitch.enqueued (switchEvents d addr events)).countP
        (Delayed.carries c) =
      ((run d events).switches addr).delayed.countP (Delayed.carries c) +
        (run d events).inFlight.countP (Frame.carries addr c) +
        (lostOver d events).countP (Frame.carries addr c) +
        (arrivedOver d events).countP (Frame.carries addr c)
  served : ∀ before e, before ++ [e] <+: events → ∀ src request,
    .command src request ∈ (run d before).arrives e →
      request.dstAddr ≠ noBulb →
        d.network request.dstAddr = some .lightBulbDongle ∧
          (run d before).bulbSees d request.dstAddr e =
            d.serve request.command ((run d before).bulbs request.dstAddr)

/-- In every run: each command that the buttons or the service of a switch have
asked for waits in the switch, is in flight, has been lost, or has arrived,
once; and every one that arrives at an address has been served by the light of a
dongle there. -/
theorem commandsAccounted (events : List NetworkEvent)
    (hallows : ∀ e ∈ events, Allows d e) : CommandsAccounted d events := by
  constructor
  · intro addr c
    rw [(LightSwitch.enqueued_perm _).countP_eq, List.countP_append,
      ← countP_sentOver, countP_ended, run_switches]
    omega
  · intro before e hpart src request harrives hknown
    have hbefore : ∀ e ∈ before, Allows d e := fun e he =>
      hallows e (hpart.subset (List.mem_append_left _ he))
    cases e with
    | arrive index =>
        have hget : (run d before).inFlight[index]? =
            some (.command src request) := Option.mem_toList.mp harrives
        obtain ⟨hlight, hendpoint⟩ := (run_sound d before hbefore).commands src
          request (List.mem_of_getElem? hget) hknown
        refine ⟨hlight, ?_⟩
        simp only [bulbSees, hget, if_true, callbacksAt, hlight, hendpoint,
          and_self]
    | switch | answer | overhear | lose | bulb => contradiction

theorem commandsAccounted_oneTap : CommandsAccounted oneSwitch oneTap :=
  commandsAccounted oneSwitch oneTap oneTap_allowed

end LightNetwork

end ZbLightbulb
