/-
Where the commands of the buttons go: the guard of `button_handler` looks at the
address when a button changes, the request is addressed when its callback runs.
-/
import ZbLightbulb.Discovery
import ZbLightbulb.SwitchButtons

namespace ZbLightbulb

namespace LightSwitch

/-- The response is the last one accepted. -/
def LastAccepted (events : List SwitchEvent) (resp : MatchDescResp) : Prop :=
  Runs.Since (fun before e => (run before).AcceptsResp e resp)
    (fun before e => ∃ other, (run before).AcceptsResp e other) events

/-- A known address and its endpoint come from the last accepted response. -/
theorem exists_lastAccepted_of_known (events : List SwitchEvent)
    (hknown : (run events).bulbCtx.shortAddr ≠ noBulb) :
    ∃ resp, LastAccepted events resp ∧
      (run events).bulbCtx.shortAddr = resp.srcAddr ∧
      (run events).bulbCtx.endpoint = resp.matchEp := by
  induction events using List.reverseRecOn with
  | nil => exact absurd rfl hknown
  | append_singleton events last ih =>
      rcases (run_bulbCtx events last).known_after hknown with
        ⟨resp, haccept, hctx⟩ | ⟨hnot, -, hctx⟩
      · rw [hctx]
        exact ⟨resp, Runs.Since.marks haccept, rfl, rfl⟩
      · rw [hctx] at hknown ⊢
        rcases ih hknown with ⟨resp, hlast, hpair⟩
        exact ⟨resp, Runs.Since.keeps hlast (not_exists.mpr hnot), hpair⟩

/-- The event is a response that `find_light_bulb_cb` accepts, with an
address. -/
def AcceptsBulb (s : LightSwitch) (e : SwitchEvent) : Prop :=
  ∃ resp, s.AcceptsResp e resp ∧ resp.srcAddr ≠ noBulb

/-- The address has been forgotten, by a `find_light_bulb` or by leaving the
network, and no response with an address has been accepted since. -/
def Forgotten (events : List SwitchEvent) : Prop :=
  Runs.Since (fun before e => (run before).RunsFind e ∨ LeavesReset e)
    (fun before e => (run before).AcceptsBulb e) events

theorem Forgotten.shortAddr {events : List SwitchEvent} (h : Forgotten events) :
    (run events).bulbCtx.shortAddr = noBulb := by
  induction h with
  | @marks before e hforget =>
      rw [(run_bulbCtx before e).of_forgets hforget]
  | @keeps before e _ hnot ih =>
      rcases (run_bulbCtx before e).of_unknown ih with
        ⟨resp, haccept, haddr⟩ | hnone
      · by_contra hknown
        rw [haddr] at hknown
        exact hnot ⟨resp, haccept, hknown⟩
      · exact hnone

/-! ### Pending commands -/

/-- A command of the buttons waits for its buffer, or the hold timer, which will
queue one, runs. -/
def CommandPending (s : LightSwitch) : Prop :=
  s.buttonsCtx.alarm = true ∨
    ∃ d ∈ s.delayed, d.requester = .buttons ∧ d.callback ≠ .startIdentifying

/-- Only the buttons make a command pending, and only with a bulb known. -/
theorem step_commandPending {s : LightSwitch} {e : SwitchEvent}
    (h : (s.step e).CommandPending) :
    s.CommandPending ∨ s.bulbCtx.shortAddr ≠ noBulb := by
  cases hevent : s.buttonEvent e with
  | none =>
      left
      rcases step_of_not_buttonEvent hevent with ⟨hctx, hdelayed⟩
      rcases h with halarm | ⟨d, hd, hrequester, hcallback⟩
      · rw [hctx] at halarm
        exact Or.inl halarm
      · exact Or.inr ⟨d, hdelayed d hd hrequester, hrequester, hcallback⟩
  | some b =>
      rcases step_of_buttonEvent hevent with ⟨hctx, hdelayed⟩
      cases b with
      | notify n buttonState hasChanged =>
          right
          rw [shortAddr_of_notify hevent]
          exact n.known
      | expiry dkGetButtons =>
          left
          by_cases halarm : s.buttonsCtx.alarm = true
          · exact Or.inl halarm
          · rw [Bool.not_eq_true] at halarm
            rw [ButtonsContext.handle_expiry_stopped halarm] at hctx hdelayed
            simpa only [CommandPending, hctx, hdelayed, List.map_nil,
              List.append_nil] using h

theorem start_not_commandPending : ¬ start.CommandPending := by
  rintro (halarm | ⟨d, hd, -⟩)
  · contradiction
  · contradiction

/-- While a command is pending, the address is known or has been forgotten. -/
theorem known_of_commandPending (events : List SwitchEvent)
    (hpending : (run events).CommandPending) :
    (run events).bulbCtx.shortAddr ≠ noBulb ∨ Forgotten events := by
  induction events using List.reverseRecOn with
  | nil => exact absurd hpending start_not_commandPending
  | append_singleton before e ih =>
      rw [run_append] at hpending
      have hbefore : (run before).bulbCtx.shortAddr ≠ noBulb ∨
          Forgotten before := by
        rcases step_commandPending hpending with h | hknown
        · exact ih h
        · exact Or.inl hknown
      by_cases hbulb : (run before).AcceptsBulb e
      · rcases hbulb with ⟨resp, haccept, haddr⟩
        left
        rw [haccept.bulbCtx (run_bulbCtx before e)]
        exact haddr
      · rcases hbefore with hknown | hforgotten
        · rcases (run_bulbCtx before e).of_known hknown with hforget | hctx
          · exact Or.inr (Runs.Since.marks hforget)
          · rw [hctx]
            exact Or.inl hknown
        · right
          exact Runs.Since.keeps hforgotten hbulb

/-! ### The commands -/

/-- The event sends this request for the buttons. -/
def SendsForButtons (s : LightSwitch) (e : SwitchEvent) (request : ZclRequest) :
    Prop :=
  s.sent e = some request ∧
    ∃ callback, s.running e = some ⟨callback, .buttons⟩

/-- A request goes to what `bulb_ctx` holds at that moment. -/
theorem sent_dst {s : LightSwitch} {e : SwitchEvent} {request : ZclRequest}
    (h : s.sent e = some request) :
    request.dstAddr = s.bulbCtx.shortAddr ∧
      request.dstEndpoint = s.bulbCtx.endpoint := by
  rw [sent, Option.bind_eq_some_iff] at h
  rcases h with ⟨d, -, hrun⟩
  cases hd : d.callback with
  | findLightBulb | startIdentifying => simp [runCallback, hd] at hrun
  | lightSwitchSendOnOff cmdId | lightSwitchSendStep cmdId =>
      simp only [runCallback, hd, Option.some.injEq] at hrun
      subst hrun
      exact ⟨rfl, rfl⟩

/-- Every request for the buttons goes to the bulb of the last accepted
response, and never to the address of no bulb. -/
def CommandsReachBulb (events : List SwitchEvent) : Prop :=
  ∀ before e request, before ++ [e] <+: events →
    (run before).SendsForButtons e request →
      request.dstAddr ≠ noBulb ∧
        ∃ resp, LastAccepted before resp ∧ request.dstAddr = resp.srcAddr ∧
          request.dstEndpoint = resp.matchEp

/-- A command that is sent was pending. -/
theorem SendsForButtons.commandPending {s : LightSwitch} {e : SwitchEvent}
    {request : ZclRequest} (h : s.SendsForButtons e request) :
    s.CommandPending := by
  rcases h with ⟨hsent, callback, hrun⟩
  right
  refine ⟨⟨callback, .buttons⟩, ?_, rfl, ?_⟩
  · cases e with
    | delayed index => exact List.mem_of_getElem? hrun
    | findAlarm | matchDescResp | signal | buttons | buttonsAlarm | nusWork =>
        contradiction
  · intro hcallback
    change callback = .startIdentifying at hcallback
    rw [sent, hrun, hcallback] at hsent
    contradiction

/-- The commands of the buttons reach the bulb exactly in the runs in which
none of their callbacks runs between an event that forgets the address and the
next response with one. -/
theorem commandsReachBulb_iff (events : List SwitchEvent) :
    CommandsReachBulb events ↔
      ∀ before e request, before ++ [e] <+: events →
        (run before).SendsForButtons e request → ¬ Forgotten before := by
  constructor
  · intro hreach before e request hprefix hsend hforgotten
    have hdst := (hreach before e request hprefix hsend).1
    rw [(sent_dst hsend.1).1] at hdst
    exact hdst hforgotten.shortAddr
  · intro hnot before e request hprefix hsend
    have hknown : (run before).bulbCtx.shortAddr ≠ noBulb := by
      rcases known_of_commandPending before hsend.commandPending with
        hknown | hforgotten
      · exact hknown
      · exact absurd hforgotten (hnot before e request hprefix hsend)
    rcases sent_dst hsend.1 with ⟨hdst, hdstEp⟩
    rcases exists_lastAccepted_of_known before hknown with
      ⟨resp, hlast, haddr, hep⟩
    rw [hdst, hdstEp]
    exact ⟨hknown, resp, hlast, haddr, hep⟩

/-- The ON button is pressed and released, and the switch leaves the network
before the command runs: it goes out as a broadcast. -/
theorem not_commandsReachBulb_leave : ¬ ∀ events, CommandsReachBulb events := by
  intro h
  let before : List SwitchEvent :=
    [.signal .bdbSignalSteering 0 0, .findAlarm, .delayed 0,
      .matchDescResp ⟨0, 1, 10, 0x1234⟩, .buttons 1 1 false,
      .buttons 0 1 false, .signal .zdoSignalLeave 0 0]
  have hreach := h (before ++ [.delayed 0]) before (.delayed 0)
    ⟨0xFFFF, 10, .onOff 1⟩ (List.prefix_refl _)
    ⟨by decide, .lightSwitchSendOnOff 1, by decide⟩
  exact absurd rfl hreach.1

end LightSwitch

end ZbLightbulb
