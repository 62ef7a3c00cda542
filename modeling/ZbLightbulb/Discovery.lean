/-
How the switch finds its bulb and keeps it: which runs keep an accepted bulb
until the switch leaves the network, which keep the search alive while there is
none, and in which the LED says whether there is one.
-/
import ZbLightbulb.LightSwitch

namespace ZbLightbulb

namespace LightSwitch

/-! ### A found bulb -/

/-- Once a response with an address has been accepted, `bulb_ctx` holds its
address and its endpoint until the switch leaves the network for good. -/
def BulbKept (events : List SwitchEvent) : Prop :=
  ∀ before e during resp, before ++ e :: during <+: events →
    (run before).AcceptsResp e resp → resp.srcAddr ≠ noBulb →
      (∀ later ∈ during, ¬ LeavesReset later) →
        (run (before ++ e :: during)).bulbCtx.shortAddr = resp.srcAddr ∧
          (run (before ++ e :: during)).bulbCtx.endpoint = resp.matchEp

/-- Every run of `find_light_bulb` finds the address unknown. -/
def FindsWhileUnknown (events : List SwitchEvent) : Prop :=
  ∀ before e, before ++ [e] <+: events → (run before).RunsFind e →
    (run before).bulbCtx.shortAddr = noBulb

/-- A known address was accepted, and the switch has not left since. -/
theorem exists_accepted_of_known (events : List SwitchEvent)
    (hknown : (run events).bulbCtx.shortAddr ≠ noBulb) :
    ∃ before e during resp, events = before ++ e :: during ∧
      (run before).AcceptsResp e resp ∧ resp.srcAddr ≠ noBulb ∧
      ∀ later ∈ during, ¬ LeavesReset later := by
  induction events using List.reverseRecOn with
  | nil => exact absurd rfl hknown
  | append_singleton events last ih =>
      rcases (run_bulbCtx events last).known_after hknown with
        ⟨resp, haccept, hctx⟩ | ⟨-, hleave, hctx⟩
      · rw [hctx] at hknown
        refine ⟨events, last, [], resp, rfl, haccept, hknown, ?_⟩
        intro later hlater
        contradiction
      · rw [hctx] at hknown
        rcases ih hknown with ⟨before, e, during, resp, rfl, haccept, haddr,
          hduring⟩
        refine ⟨before, e, during ++ [last], resp, by simp, haccept, haddr, ?_⟩
        intro later hlater
        rcases List.mem_append.mp hlater with hlater | hlater
        · exact hduring later hlater
        · rw [List.mem_singleton.mp hlater]
          exact hleave

/-- A found bulb is kept exactly in the runs in which no `find_light_bulb`,
queued before the response came, runs after it. -/
theorem bulbKept_iff (events : List SwitchEvent) :
    BulbKept events ↔ FindsWhileUnknown events := by
  constructor
  · intro hkept before e hprefix hfind
    by_contra hknown
    rcases exists_accepted_of_known before hknown with
      ⟨before', e', during, resp, rfl, haccept, haddr, hduring⟩
    have hkeeps := hkept before' e' (during ++ [e]) resp (by simpa using hprefix)
      haccept haddr
      (by
        intro later hlater
        rcases List.mem_append.mp hlater with hlater | hlater
        · exact hduring later hlater
        · rw [List.mem_singleton.mp hlater]
          exact hfind.not_signal _ _ _)
    have hforgets := (run_bulbCtx _ e).of_forgets (Or.inl hfind)
    rw [Runs.append_cons_concat, hforgets] at hkeeps
    exact haddr hkeeps.1.symm
  · intro hunknown before e during resp hprefix haccept haddr
    induction during using List.reverseRecOn with
    | nil =>
        intro _
        rw [haccept.bulbCtx (run_bulbCtx before e)]
        exact ⟨rfl, rfl⟩
    | append_singleton during last ih =>
        intro hduring
        rw [Runs.append_cons_concat] at hprefix ⊢
        have hbefore := ih ((List.prefix_append _ [last]).trans hprefix)
          fun later hlater => hduring later (List.mem_append_left _ hlater)
        have hknown : (run (before ++ e :: during)).bulbCtx.shortAddr ≠
            noBulb := by
          rw [hbefore.1]
          exact haddr
        rcases (run_bulbCtx (before ++ e :: during) last).of_known hknown with
          (hfind | hleave) | hctx
        · exact absurd (hunknown _ last hprefix hfind) hknown
        · exact absurd hleave (hduring last (by simp))
        · rw [hctx]
          exact hbefore

/-- The alarm expires again before the first response comes; the second
`find_light_bulb` runs after it. -/
theorem not_bulbKept_late_find : ¬ ∀ events, BulbKept events := by
  intro h
  have hkept := h
    [.signal .bdbSignalSteering 0 0, .findAlarm, .delayed 0, .findAlarm,
      .matchDescResp ⟨0, 1, 10, 0x1234⟩, .delayed 0]
    [.signal .bdbSignalSteering 0 0, .findAlarm, .delayed 0, .findAlarm]
    (.matchDescResp ⟨0, 1, 10, 0x1234⟩) [.delayed 0] ⟨0, 1, 10, 0x1234⟩
    (List.prefix_refl _) ⟨rfl, by decide, by decide⟩ (by decide)
    (by
      intro later hlater
      rw [List.mem_singleton.mp hlater]
      rintro ⟨⟩)
  exact absurd hkept.1 (by decide)

/-! ### The search -/

/-- The event is a leave signal of any status and type. -/
def IsLeave (e : SwitchEvent) : Prop :=
  ∃ status leaveType, e = .signal .zdoSignalLeave status leaveType

theorem AcceptsResp.not_isLeave {s : LightSwitch} {e : SwitchEvent}
    {resp : MatchDescResp} (h : s.AcceptsResp e resp) : ¬ IsLeave e := by
  intro hleave
  rcases hleave with ⟨status, leaveType, heq⟩
  exact absurd (h.1.symm.trans heq) (by simp)

theorem RunsFind.not_isLeave {s : LightSwitch} {e : SwitchEvent}
    (h : s.RunsFind e) : ¬ IsLeave e := by
  intro hleave
  rcases hleave with ⟨status, leaveType, heq⟩
  exact h.not_signal _ _ _ heq

/-- A reboot or steering signal has reported success, and no leave signal has
come since. -/
def Joined (events : List SwitchEvent) : Prop :=
  Runs.Since (fun _ e => Joins e) (fun _ e => IsLeave e) events

theorem Joins.not_isLeave {e : SwitchEvent} (h : Joins e) : ¬ IsLeave e := by
  intro hleave
  rcases hleave with ⟨status, leaveType, rfl⟩
  simp [joins_signal] at h

/-- While the switch is joined and knows no bulb, the alarm that queues the next
`find_light_bulb` runs. -/
def SearchAlive (events : List SwitchEvent) : Prop :=
  ∀ before, before <+: events → Joined before →
    (run before).bulbCtx.shortAddr = noBulb →
      (run before).bulbCtx.findAlarm = true

/-- While the switch is joined, no `find_light_bulb` runs with the address known
and no response is accepted from the address of no bulb. -/
def SearchUndisturbed (before : List SwitchEvent) (e : SwitchEvent) : Prop :=
  Joined before →
    ((run before).RunsFind e → (run before).bulbCtx.shortAddr = noBulb) ∧
      ∀ resp, (run before).AcceptsResp e resp → resp.srcAddr ≠ noBulb

/-- A known bulb has stopped the alarm. -/
theorem findAlarm_of_known (events : List SwitchEvent)
    (hknown : (run events).bulbCtx.shortAddr ≠ noBulb) :
    (run events).bulbCtx.findAlarm = false := by
  induction events using List.reverseRecOn with
  | nil => rfl
  | append_singleton events last ih =>
      rcases (run_bulbCtx events last).known_after hknown with
        ⟨resp, -, hctx⟩ | ⟨-, -, hctx⟩
      · rw [hctx]
      · rw [hctx] at hknown ⊢
        exact ih hknown

/-- The search stays alive exactly in the runs in which, while joined, no
`find_light_bulb` runs after a bulb has been found, and no accepted response
comes from the address of no bulb.  Either leaves the switch without a bulb and
with the alarm stopped. -/
theorem searchAlive_iff (events : List SwitchEvent) :
    SearchAlive events ↔
      ∀ before e, before ++ [e] <+: events → SearchUndisturbed before e := by
  apply Runs.prefix_always_iff (fun before => Joined before →
    (run before).bulbCtx.shortAddr = noBulb →
      (run before).bulbCtx.findAlarm = true) SearchUndisturbed
  · intro hjoined
    exact absurd hjoined Runs.not_since_nil
  · intro before e halive hallowed hjoined
    rw [Joined, Runs.since_append] at hjoined
    generalize hctx : (run (before ++ [e])).bulbCtx = ctx
    have hstep := run_bulbCtx before e
    rw [hctx] at hstep
    cases hstep with
    | accepts resp haccept =>
        rcases hjoined with hjoin | ⟨hjoined, -⟩
        · rcases hjoin with ⟨sig, leaveType, heq, -⟩
          exact absurd (haccept.1.symm.trans heq) (by simp)
        · intro hnone
          exact absurd hnone ((hallowed hjoined).2 resp haccept)
    | forgets h =>
        intro _
        rcases h with hfind | hleave
        · rcases hjoined with hjoin | ⟨hjoined, -⟩
          · exact absurd hjoin hfind.not_joins
          · exact halive hjoined ((hallowed hjoined).1 hfind)
        · have hisLeave : IsLeave e := ⟨_, _, hleave⟩
          rcases hjoined with hjoin | ⟨-, hnot⟩
          · exact absurd hisLeave hjoin.not_isLeave
          · exact absurd hisLeave hnot
    | arms => exact fun _ => rfl
    | keeps _ _ _ hknown =>
        intro hnone
        rcases hjoined with hjoin | ⟨hjoined, -⟩
        · exact absurd hnone (hknown hjoin)
        · exact halive hjoined hnone
  · intro before e _ hnot hnext
    rw [SearchUndisturbed, Classical.not_imp] at hnot
    rcases hnot with ⟨hjoined, hnot⟩
    apply hnot
    constructor
    · intro hfind
      by_contra hknown
      have hctx := (run_bulbCtx before e).of_forgets (Or.inl hfind)
      have hstopped := findAlarm_of_known before hknown
      have halarm := hnext
        (Runs.Since.keeps hjoined hfind.not_isLeave)
        (by rw [hctx])
      rw [hctx] at halarm
      exact absurd (hstopped.symm.trans halarm) (by decide)
    · intro resp haccept hnone
      have hctx := haccept.bulbCtx (run_bulbCtx before e)
      have halarm := hnext
        (Runs.Since.keeps hjoined haccept.not_isLeave)
        (by rw [hctx]; exact hnone)
      rw [hctx] at halarm
      contradiction

/-- The second `find_light_bulb` forgets the bulb after the alarm has been
stopped, and no event but a new signal starts it again. -/
theorem not_searchAlive_late_find : ¬ ∀ events, SearchAlive events := by
  intro h
  have halarm := h
    [.signal .bdbSignalSteering 0 0, .findAlarm, .delayed 0, .findAlarm,
      .matchDescResp ⟨0, 1, 10, 0x1234⟩, .delayed 0] _ (List.prefix_refl _)
    (@Runs.since_of_mark _ _ _ [] _ ⟨_, _, rfl, Or.inr rfl⟩ _ (by
      rintro passed later hlater ⟨status, leaveType, rfl⟩
      simp at hlater))
    (by decide)
  exact absurd halarm (by decide)

/-! ### `BULB_FOUND_LED` -/

/-- `BULB_FOUND_LED` is on while a bulb is known, and only then. -/
def LedTells (events : List SwitchEvent) : Prop :=
  ∀ before, before <+: events →
    ((run before).bulbFoundLed = true ↔
      (run before).bulbCtx.shortAddr ≠ noBulb)

/-- No known bulb is forgotten, and no response is accepted from the address of
no bulb. -/
def BulbUndisturbed (before : List SwitchEvent) (e : SwitchEvent) : Prop :=
  ((run before).RunsFind e ∨ LeavesReset e →
      (run before).bulbCtx.shortAddr = noBulb) ∧
    ∀ resp, (run before).AcceptsResp e resp → resp.srcAddr ≠ noBulb

/-- No event but a response touches the LED. -/
theorem step_bulbFoundLed {s : LightSwitch} {e : SwitchEvent}
    (h : ∀ resp, e ≠ .matchDescResp resp) :
    (s.step e).bulbFoundLed = s.bulbFoundLed := by
  cases e with
  | matchDescResp resp => exact absurd rfl (h resp)
  | findAlarm =>
      simp only [step]
      split <;> rfl
  | signal sig status leaveType =>
      simp only [step, zbossSignalHandler]
      split
      · split <;> rfl
      · split <;> rfl
      · split <;> rfl
      · rfl
  | buttons | buttonsAlarm | nusWork => rfl
  | delayed index =>
      simp only [step]
      cases s.delayed[index]? with
      | none => rfl
      | some d =>
          simp only
          cases d.callback <;> rfl

/-- An accepted response switches it on, and any other leaves it alone. -/
theorem step_matchDescResp_bulbFoundLed (s : LightSwitch)
    (resp : MatchDescResp) :
    (s.step (.matchDescResp resp)).bulbFoundLed = true ↔
      s.bulbFoundLed = true ∨
        0 < s.matchDescReqs ∧ s.bulbCtx.Accepts resp := by
  simp only [step, findLightBulbCb]
  split_ifs with hreq haccept
  · simp [hreq, haccept]
  · simp [haccept]
  · simp [hreq]

/-- Only an accepted response touches the LED, and switches it on. -/
theorem run_bulbFoundLed (before : List SwitchEvent) (e : SwitchEvent) :
    (run (before ++ [e])).bulbFoundLed = true ↔
      (run before).bulbFoundLed = true ∨
        ∃ resp, (run before).AcceptsResp e resp := by
  rw [run_append]
  by_cases hresp : ∃ resp, e = .matchDescResp resp
  · rcases hresp with ⟨resp, rfl⟩
    rw [step_matchDescResp_bulbFoundLed]
    apply or_congr_right
    constructor
    · intro haccept
      exact ⟨resp, rfl, haccept⟩
    · intro haccept
      rcases haccept with ⟨resp', heq, haccept⟩
      rw [SwitchEvent.matchDescResp.injEq] at heq
      rw [heq]
      exact haccept
  · have hnot : ¬ ∃ resp, (run before).AcceptsResp e resp := by
      intro haccept
      rcases haccept with ⟨resp, haccept⟩
      exact hresp ⟨resp, haccept.1⟩
    rw [step_bulbFoundLed fun resp heq => hresp ⟨resp, heq⟩]
    simp only [hnot, or_false]

/-- The LED tells the truth exactly in the runs in which a known bulb is never
forgotten, by a late `find_light_bulb` or by leaving the network, and no
response is accepted from the address of no bulb: nothing switches it off. -/
theorem ledTells_iff (events : List SwitchEvent) :
    LedTells events ↔
      ∀ before e, before ++ [e] <+: events → BulbUndisturbed before e := by
  apply Runs.prefix_always_iff (fun before =>
    (run before).bulbFoundLed = true ↔
      (run before).bulbCtx.shortAddr ≠ noBulb) BulbUndisturbed
  · simp [run, start]
  · intro before e htells hallowed
    have hstep := run_bulbCtx before e
    rw [run_bulbFoundLed]
    by_cases haccept : ∃ resp, (run before).AcceptsResp e resp
    · simp only [haccept, or_true, true_iff]
      rcases haccept with ⟨resp, haccept⟩
      rw [haccept.bulbCtx hstep]
      exact hallowed.2 resp haccept
    · simp only [haccept, or_false, htells]
      by_cases hnone : (run before).bulbCtx.shortAddr = noBulb
      · rcases hstep.of_unknown hnone with ⟨resp, h, -⟩ | hstill
        · exact absurd ⟨resp, h⟩ haccept
        · rw [hnone, hstill]
      · rcases hstep.of_known hnone with hforget | hsame
        · exact absurd (hallowed.1 hforget) hnone
        · rw [hsame]
  · intro before e htells hnot hnext
    rw [run_bulbFoundLed] at hnext
    apply hnot
    constructor
    · intro hforget
      by_contra hknown
      apply hnext.mp (Or.inl (htells.mpr hknown))
      rw [(run_bulbCtx before e).of_forgets hforget]
    · intro resp haccept hnone
      apply hnext.mp (Or.inr ⟨resp, haccept⟩)
      rw [haccept.bulbCtx (run_bulbCtx before e)]
      exact hnone

/-- The switch leaves the network after a bulb has been found: the LED stays
on. -/
theorem not_ledTells_leave : ¬ ∀ events, LedTells events := by
  intro h
  have htells := h
    [.signal .bdbSignalSteering 0 0, .findAlarm, .delayed 0,
      .matchDescResp ⟨0, 1, 10, 0x1234⟩, .signal .zdoSignalLeave 0 0] _
    (List.prefix_refl _)
  revert htells
  decide

end LightSwitch

end ZbLightbulb
