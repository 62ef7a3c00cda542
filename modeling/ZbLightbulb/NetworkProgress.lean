/-
No run of a network takes a switch to a state from which it cannot command a
light: there is always a way to find one and to have it serve a button.
-/
import ZbLightbulb.NetworkRuns

namespace ZbLightbulb

namespace LightSwitch

variable {s : LightSwitch}

/-- A release clears the flag of the hold timer, and without it asks for the
command of the button. -/
theorem step_release (hknown : s.bulbCtx.shortAddr ≠ noBulb)
    (button : BulbButton) :
    let released := s.step (.buttons 0 button.mask false)
    released.buttonsCtx.longPoll = false ∧
      (s.buttonsCtx.longPoll = false →
        ⟨.lightSwitchSendOnOff button.cmdId, .buttons⟩ ∈ released.delayed) := by
  intro released
  obtain ⟨hctx, hdelayed⟩ := step_of_buttonEvent
    (buttonEvent_of_known hknown 0 button.mask false)
  rw [ButtonsContext.handle_release] at hctx hdelayed
  refine ⟨congrArg ButtonsContext.longPoll hctx, ?_⟩
  intro hlong
  rw [hdelayed]
  simp [hlong]

theorem step_press_longPoll (hknown : s.bulbCtx.shortAddr ≠ noBulb)
    (button : BulbButton) :
    (s.step (.buttons button.mask button.mask false)).buttonsCtx.longPoll =
      s.buttonsCtx.longPoll := by
  have hctx := (step_of_buttonEvent
    (buttonEvent_of_known hknown button.mask button.mask false)).1
  rw [ButtonsContext.handle_press] at hctx
  rw [hctx]

theorem step_buttons_bulbCtx (s : LightSwitch) (buttonState hasChanged : UInt32)
    (wasFactoryResetDone : Bool) :
    (s.step (.buttons buttonState hasChanged wasFactoryResetDone)).bulbCtx =
      s.bulbCtx := rfl

/-- The second of two taps asks for its command, whatever the first one
finds. -/
theorem mem_delayed_of_taps (hknown : s.bulbCtx.shortAddr ≠ noBulb)
    (button : BulbButton) :
    let press := SwitchEvent.buttons button.mask button.mask false
    let release := SwitchEvent.buttons 0 button.mask false
    ⟨.lightSwitchSendOnOff button.cmdId, .buttons⟩ ∈
      ((((s.step press).step release).step press).step release).delayed := by
  intro press release
  let tapped := (s.step press).step release
  -- no notification touches `bulb_ctx`, so the bulb stays known
  have hfirst : tapped.buttonsCtx.longPoll = false :=
    (step_release (s := s.step press) hknown button).1
  have hsecond : (tapped.step press).buttonsCtx.longPoll = false :=
    (step_press_longPoll (s := tapped) hknown button).trans hfirst
  exact (step_release (s := tapped.step press) hknown button).2 hsecond

/-- Without a bulb a join starts the alarm, whose expiry asks for a search. -/
theorem mem_delayed_of_join (hnone : s.bulbCtx.shortAddr = noBulb) :
    let joined := s.step (.signal .bdbSignalSteering retOk 0)
    ⟨.findLightBulb, .findAlarm⟩ ∈ (joined.step .findAlarm).delayed := by
  simp [step, zbossSignalHandler, getOutDelayed, hnone]

/-- A search that runs sends its request and waits for the answer. -/
theorem step_find {index : Nat} {requester : Requester}
    (h : s.delayed[index]? = some ⟨.findLightBulb, requester⟩) (addr : UInt16) :
    s.transmits addr (.delayed index) = [.matchDescReq addr] ∧
      (s.step (.delayed index)).bulbCtx.shortAddr = noBulb ∧
      0 < (s.step (.delayed index)).matchDescReqs := by
  simp [transmits, running, step, runCallback, findLightBulb, h]

theorem step_send {index : Nat} {requester : Requester} {cmdId : UInt16}
    (h : s.delayed[index]? = some ⟨.lightSwitchSendOnOff cmdId, requester⟩)
    (addr : UInt16) :
    s.transmits addr (.delayed index) = [.command addr
      ⟨s.bulbCtx.shortAddr, s.bulbCtx.endpoint, .onOff cmdId⟩] := by
  simp [transmits, running, runCallback, lightSwitchSendOnOff, h]

end LightSwitch

namespace LightNetwork

variable {d : Devices} {n : LightNetwork} {addr light : UInt16}

theorem step_switch_self (n : LightNetwork) (e : SwitchEvent) :
    (n.step d (.switch addr e)).switches addr = (n.switches addr).step e :=
  Function.update_self ..

theorem step_answer {index : Nat} {src : UInt16}
    (h : n.inFlight[index]? = some (.matchDescReq src)) (resp : MatchDescResp) :
    n.step d (.answer index resp) =
      { n with inFlight := n.inFlight ++ [.matchDescResp src resp] } := by
  simp only [step, h]

theorem step_arrive {index : Nat} {f : Frame}
    (h : n.inFlight[index]? = some f) : n.step d (.arrive index) =
      { n with inFlight := n.inFlight.eraseIdx index }.receive d f := by
  simp only [step, h]

/-- A switch that knows no bulb can find the one at `light`: it joins, its alarm
expires, its request goes out and is answered. -/
theorem canReach_known (hswitch : d.network addr = some .lightSwitch2)
    (hlight : d.network light = some .lightBulbDongle)
    (hanswers : d.rule.answers
      (zbZclDeclareHaDimmableLightSimpleDesc haDimmableLightEndpoint)
      findLightBulbParam)
    (hnone : (n.switches addr).bulbCtx.shortAddr = noBulb) :
    Runs.CanReach (step d) (Allows d) n fun n' =>
      (n'.switches addr).bulbCtx.shortAddr = light ∧ n'.bulbs = n.bulbs := by
  let joined := n.step d (.switch addr (.signal .bdbSignalSteering retOk 0))
  let expired := joined.step d (.switch addr .findAlarm)
  have hdelayed : ⟨.findLightBulb, .findAlarm⟩ ∈
      (expired.switches addr).delayed := by
    rw [step_switch_self, step_switch_self]
    exact LightSwitch.mem_delayed_of_join hnone
  obtain ⟨find, hfind⟩ := List.mem_iff_getElem?.mp hdelayed
  let asked := expired.step d (.switch addr (.delayed find))
  obtain ⟨hsent, hforgot, hasked⟩ := LightSwitch.step_find hfind addr
  have hrequest : .matchDescReq addr ∈ asked.inFlight := by
    apply List.mem_append_right
    rw [hsent]
    exact List.mem_singleton_self _
  obtain ⟨request, hrequest⟩ := List.mem_iff_getElem?.mp hrequest
  let resp : MatchDescResp :=
    ⟨zbZdpStatusSuccess, 1, haDimmableLightEndpoint, light⟩
  let answered := asked.step d (.answer request resp)
  have hanswered : answered =
      { asked with inFlight := asked.inFlight ++ [.matchDescResp addr resp] } :=
    step_answer hrequest resp
  have hresponse : .matchDescResp addr resp ∈ answered.inFlight := by
    rw [hanswered]
    exact List.mem_append_right _ (List.mem_singleton_self _)
  obtain ⟨response, hresponse⟩ := List.mem_iff_getElem?.mp hresponse
  refine .after (i := .switch addr (.signal .bdbSignalSteering retOk 0))
    ⟨hswitch, by simp⟩ ?_
  refine .after (i := .switch addr .findAlarm) ⟨hswitch, by simp⟩ ?_
  refine .after (i := .switch addr (.delayed find)) ⟨hswitch, by simp⟩ ?_
  refine .after (i := .answer request resp) ?_ ?_
  · intro _ _
    exact ⟨.lightBulbDongle, hlight, _, List.mem_cons_self, rfl, hanswers⟩
  refine .after (i := .arrive response) trivial (.now ⟨?_, ?_⟩)
  · have haccept : (asked.switches addr).AcceptsResp (.matchDescResp resp)
        resp := by
      rw [step_switch_self]
      exact ⟨rfl, hasked, rfl, Nat.one_pos, hforgot⟩
    have hctx := haccept.bulbCtx (LightSwitch.step_bulbCtx _ _)
    have hfound : (answered.step d (.arrive response)).switches addr =
        (asked.switches addr).step (.matchDescResp resp) := by
      rw [step_arrive hresponse, hanswered]
      exact Function.update_self ..
    change ((answered.step d (.arrive response)).switches addr
      ).bulbCtx.shortAddr = light
    rw [hfound, haccept.bulbCtx (LightSwitch.step_bulbCtx _ _)]
  · change (answered.step d (.arrive response)).bulbs = n.bulbs
    rw [step_arrive hresponse, hanswered]
    rfl

/-- One light has served the command once, and no other bulb has changed. -/
def ServesOnce (d : Devices) (n : LightNetwork) (c : ZclCommand)
    (n' : LightNetwork) : Prop :=
  ∃ served, d.network served = some .lightBulbDongle ∧
    n'.bulbs = Function.update n.bulbs served
      ((d.serve c (n.bulbs served)).foldl (Bulb.handle Dongle.setBrightness)
        (n.bulbs served))

/-- A switch that knows a bulb can have it serve the command of a button: the
button is tapped twice, the command goes out and arrives. -/
theorem canReach_served (h : n.Sound d)
    (hswitch : d.network addr = some .lightSwitch2)
    (hknown : (n.switches addr).bulbCtx.shortAddr ≠ noBulb)
    (button : BulbButton) :
    Runs.CanReach (step d) (Allows d) n
      (n.ServesOnce d (.onOff button.cmdId)) := by
  let press := SwitchEvent.buttons button.mask button.mask false
  let release := SwitchEvent.buttons 0 button.mask false
  let tapped := (((n.step d (.switch addr press)).step d
    (.switch addr release)).step d (.switch addr press)).step d
      (.switch addr release)
  have htapped : tapped.switches addr =
      ((((n.switches addr).step press).step release).step press).step release :=
    by simp only [tapped, step_switch_self]
  have hdelayed : ⟨.lightSwitchSendOnOff button.cmdId, .buttons⟩ ∈
      (tapped.switches addr).delayed := by
    rw [htapped]
    exact LightSwitch.mem_delayed_of_taps hknown button
  obtain ⟨send, hsend⟩ := List.mem_iff_getElem?.mp hdelayed
  let ctx := (n.switches addr).bulbCtx
  let request : ZclRequest := ⟨ctx.shortAddr, ctx.endpoint,
    .onOff button.cmdId⟩
  have hctx : (tapped.switches addr).bulbCtx = ctx := by
    rw [htapped]
    simp only [press, release, LightSwitch.step_buttons_bulbCtx, ctx]
  let sent := tapped.step d (.switch addr (.delayed send))
  have hframe : .command addr request ∈ sent.inFlight := by
    apply List.mem_append_right
    rw [LightSwitch.step_send hsend addr, hctx]
    exact List.mem_singleton_self _
  obtain ⟨command, hcommand⟩ := List.mem_iff_getElem?.mp hframe
  refine .after (i := .switch addr press) ⟨hswitch, by simp [press]⟩ ?_
  refine .after (i := .switch addr release) ⟨hswitch, by simp [release]⟩ ?_
  refine .after (i := .switch addr press) ⟨hswitch, by simp [press]⟩ ?_
  refine .after (i := .switch addr release) ⟨hswitch, by simp [release]⟩ ?_
  refine .after (i := .switch addr (.delayed send)) ⟨hswitch, by simp⟩ ?_
  refine .after (i := .arrive command) trivial (.now ?_)
  obtain ⟨hlight, hendpoint⟩ := h.knows addr hknown
  refine ⟨ctx.shortAddr, hlight, ?_⟩
  change (sent.step d (.arrive command)).bulbs = _
  rw [step_arrive hcommand]
  simp only [receive, handleBulb, callbacksAt]
  rw [if_pos ⟨hlight, hendpoint⟩]
  rfl

/-- From every state of every run: as long as there is a dongle whose light
answers, each switch can find a light and have it serve the command of either
button, whatever is still in flight and whatever has happened before. -/
theorem can_command (events : List NetworkEvent)
    (hallows : ∀ e ∈ events, Allows d e)
    (hswitch : d.network addr = some .lightSwitch2)
    (hlight : d.network light = some .lightBulbDongle)
    (hlight' : light ≠ noBulb)
    (hanswers : d.rule.answers
      (zbZclDeclareHaDimmableLightSimpleDesc haDimmableLightEndpoint)
      findLightBulbParam) (button : BulbButton) :
    Runs.CanReach (step d) (Allows d) (run d events)
      ((run d events).ServesOnce d (.onOff button.cmdId)) := by
  have hsound := run_sound d events hallows
  by_cases hknown :
      ((run d events).switches addr).bulbCtx.shortAddr = noBulb
  · have hkeep : ∀ (n : LightNetwork) (e : NetworkEvent), n.Sound d →
        Allows d e → (n.step d e).Sound d := fun _ _ hn he => hn.step he
    have hfound := canReach_known hswitch hlight hanswers hknown
    refine (hfound.keeps hkeep hsound).trans ?_
    rintro n' ⟨⟨hshort, hbulbs⟩, hsound'⟩
    rw [← hshort] at hlight'
    have hsame : (run d events).ServesOnce d (.onOff button.cmdId) =
        n'.ServesOnce d (.onOff button.cmdId) := by
      funext served
      rw [ServesOnce, ServesOnce, hbulbs]
    rw [hsame]
    exact canReach_served hsound' hswitch hlight' button
  · exact canReach_served hsound hswitch hknown button

theorem can_command_oneTap :
    Runs.CanReach (step oneSwitch) (Allows oneSwitch) (run oneSwitch oneTap)
      ((run oneSwitch oneTap).ServesOnce oneSwitch (.onOff 1)) := by
  have hanswers : MatchRule.whenever.answers
      (zbZclDeclareHaDimmableLightSimpleDesc haDimmableLightEndpoint)
      findLightBulbParam := ⟨rfl, by decide⟩
  exact @can_command oneSwitch 1 0x1234 oneTap oneTap_allowed rfl rfl
    (by decide) hanswers .on

end LightNetwork

end ZbLightbulb
