/-
The whole program of `light_switch2`: the handlers of `main.c`, the NUS service
with its work queue, and the identify blinking.  The work functions of the
service run in the queue and call into `main.c`; the blinking and the network
status share one LED.
-/
import ZbLightbulb.Identify
import ZbLightbulb.Nus
import ZbLightbulb.SwitchCallbacks

namespace ZbLightbulb

/-- The globals of the program.  `identify.identifyLed` is the LED itself, and
`lightSwitch.zigbeeNetworkStateLed` what the signals alone make of it. -/
structure SwitchFirmware where
  lightSwitch : LightSwitch
  nus : Nus
  identify : Identify

/-- An event of one of the parts.  A work function runs only out of the queue,
so it is no event of its own. -/
inductive FirmwareEvent where
  | main (e : SwitchEvent) (h : ∀ work, e ≠ .nusWork work)
  | nus (e : NusEvent)
  | identify (e : IdentifyEvent)

/-- The work item an event runs. -/
def Nus.runs (s : Nus) : NusEvent → Option NusItem
  | .execute => s.work.queue.head?
  | _ => none

/-- The command the callback of a work function sends. -/
def NusWork.command : NusWork → ZclCommand
  | .turnOnCmd => .onOff zbZclCmdOnOffOnId
  | .turnOffCmd => .onOff zbZclCmdOnOffOffId
  | .toggleCmd => .onOff zbZclCmdOnOffToggleId
  | .increaseCmd =>
      .levelControlStep zbZclLevelControlStepModeUp dimmStep dimmTransactionTime
  | .decreaseCmd =>
      .levelControlStep zbZclLevelControlStepModeDown dimmStep
        dimmTransactionTime

/-- `zigbee_led_status_update` writes the LED the blinking uses. -/
def Identify.afterMain (s : Identify) : SwitchEvent → Identify
  | .signal sig status _ =>
      { s with identifyLed := zigbeeLedStatusUpdate sig status s.identifyLed }
  | _ => s

namespace SwitchFirmware

def start : SwitchFirmware where
  lightSwitch := LightSwitch.start
  nus := Nus.start
  identify := Identify.start

/-- What an event is to the handlers of `main.c`. -/
def switchEvents (s : SwitchFirmware) : FirmwareEvent → List SwitchEvent
  | .main e _ => [e]
  | .nus e =>
      match s.nus.runs e with
      | some (.command work) => [.nusWork work]
      | _ => []
  | .identify _ => []

def step (s : SwitchFirmware) : FirmwareEvent → SwitchFirmware
  | .main e _ =>
      { s with
        lightSwitch := s.lightSwitch.step e
        identify := s.identify.afterMain e }
  | .nus e =>
      { s with
        nus := s.nus.step e
        lightSwitch :=
          match s.nus.runs e with
          | some (.command work) => s.lightSwitch.step (.nusWork work)
          | _ => s.lightSwitch }
  | .identify e => { s with identify := s.identify.step e }

def run (events : List FirmwareEvent) : SwitchFirmware :=
  events.foldl step start

theorem run_append (before : List FirmwareEvent) (e : FirmwareEvent) :
    run (before ++ [e]) = (run before).step e :=
  List.foldl_concat step start e before

/-! ### The parts run on their own -/

/-- The events of `main.c` in a run of the program. -/
def mainEvents (events : List FirmwareEvent) : List SwitchEvent :=
  Runs.outputs step switchEvents start events

def nusEvent : FirmwareEvent → Option NusEvent
  | .nus e => some e
  | _ => none

theorem step_lightSwitch (s : SwitchFirmware) (e : FirmwareEvent) :
    (s.step e).lightSwitch =
      (s.switchEvents e).foldl LightSwitch.step s.lightSwitch := by
  cases e with
  | main e h => rfl
  | identify e => rfl
  | nus e =>
      simp only [step, switchEvents]
      cases hruns : s.nus.runs e with
      | none => rfl
      | some item => cases item <;> rfl

/-- The handlers of `main.c` run as they do alone. -/
theorem run_lightSwitch (events : List FirmwareEvent) :
    (run events).lightSwitch = LightSwitch.run (mainEvents events) :=
  Runs.foldl_project step_lightSwitch start events

theorem run_nus (events : List FirmwareEvent) :
    (run events).nus = Nus.run (events.filterMap nusEvent) := by
  induction events using List.reverseRecOn with
  | nil => rfl
  | append_singleton before e ih =>
      rw [run_append, List.filterMap_append, Nus.run, List.foldl_append]
      change _ = (List.filterMap nusEvent [e]).foldl Nus.step
        (Nus.run (before.filterMap nusEvent))
      rw [← ih]
      cases e <;> rfl

/-! ### From a message to a request -/

/-- The event is a message that matches the command. -/
def receives (work : NusWork) : FirmwareEvent → Bool
  | .nus e => Nus.receives work e
  | _ => false

/-- The message finds the work item of its command waiting. -/
def coalesces (work : NusWork) (s : SwitchFirmware) (e : FirmwareEvent) :
    Bool :=
  receives work e && s.nus.work.queue.contains (.command work)

/-- The messages of a run that found their work item waiting. -/
def coalesced (work : NusWork) (events : List FirmwareEvent) : Nat :=
  (Runs.outputs step (fun s e => if coalesces work s e then [e] else []) start
    events).length

theorem coalesced_append (work : NusWork) (before : List FirmwareEvent)
    (e : FirmwareEvent) : coalesced work (before ++ [e]) =
      coalesced work before + (coalesces work (run before) e).toNat := by
  simp only [coalesced, Runs.outputs_concat, List.length_append]
  change _ + (if coalesces work (run before) e then [e] else []).length = _
  cases coalesces work (run before) e <;> rfl

/-- A message is coalesced, or adds its work item to those that have run or
wait. -/
theorem count_trace (work : NusWork) (events : List FirmwareEvent) :
    events.countP (receives work) = coalesced work events +
      (run events).nus.work.trace.count (.command work) := by
  induction events using List.reverseRecOn with
  | nil => rfl
  | append_singleton before e ih =>
      rw [List.countP_append, List.countP_singleton, ih, coalesced_append,
        run_append]
      cases e with
      | main e h => rfl
      | identify e => rfl
      | nus e =>
          change _ = _ + ((run before).nus.step e).work.trace.count _
          rw [Nus.count_step]
          by_cases hreceives : Nus.receives work e = true
          · by_cases hqueued :
                .command work ∈ (run before).nus.work.queue
            · simp [receives, coalesces, hreceives, hqueued]
              omega
            · simp [receives, coalesces, hreceives, hqueued]
              omega
          · simp [receives, coalesces, hreceives]

/-- What an event of `main.c` asks for is not asked for by the service. -/
theorem countP_enqueues_main (s : LightSwitch) {e : SwitchEvent}
    (h : ∀ work, e ≠ .nusWork work) (c : ZclCommand) :
    (s.enqueues e).countP (Delayed.sends .nus c) = 0 := by
  rw [List.countP_eq_zero]
  intro d hd
  have hrequester : d.requester ≠ .nus := by
    intro hnus
    have hown := LightSwitch.requester_of_mem_enqueues hd
    rw [hnus] at hown
    cases e with
    | nusWork work => exact absurd rfl (h work)
    | findAlarm | buttons | buttonsAlarm | matchDescResp | signal | delayed =>
        simp [SwitchEvent.requester] at hown
  simp [Delayed.sends, hrequester]

theorem sends_callback (work other : NusWork) :
    Delayed.sends .nus work.command ⟨other.callback, .nus⟩ =
      decide (other = work) := by
  cases work <;> cases other <;> decide

theorem submit_executed (q : WorkQueue NusItem) (item : NusItem) :
    (q.submit item).executed = q.executed := by
  simp only [WorkQueue.submit]
  split <;> rfl

/-- Only the queue runs work items, the oldest first. -/
theorem nus_executed (s : Nus) (e : NusEvent) :
    (s.step e).work.executed = s.work.executed ++ (s.runs e).toList := by
  have hkeeps : s.runs e = none → (s.step e).work.executed = s.work.executed →
      (s.step e).work.executed = s.work.executed ++ (s.runs e).toList := by
    intro hruns hexecuted
    rw [hruns, hexecuted, Option.toList_none, List.append_nil]
  cases e with
  | received msg =>
      apply hkeeps rfl
      simp only [Nus.step]
      split
      · rfl
      · exact submit_executed _ _
  | connected conn err =>
      apply hkeeps rfl
      simp only [Nus.step, Nus.connected]
      split_ifs
      · rfl
      · rfl
      · exact submit_executed _ _
  | disconnected =>
      apply hkeeps rfl
      simp only [Nus.step, Nus.disconnected]
      split_ifs
      · split
        · rfl
        · exact submit_executed _ _
      · rfl
  | execute =>
      simp only [Nus.step, Nus.runs, WorkQueue.execute]
      cases s.work.queue with
      | nil => exact (List.append_nil _).symm
      | cons item rest => rfl

/-- The work items that have run have asked for their callbacks. -/
theorem count_executed (work : NusWork) (events : List FirmwareEvent) :
    (run events).nus.work.executed.count (.command work) =
      (LightSwitch.enqueued (mainEvents events)).countP
        (Delayed.sends .nus work.command) := by
  induction events using List.reverseRecOn with
  | nil => rfl
  | append_singleton before e ih =>
      rw [run_append, mainEvents, Runs.outputs_concat, LightSwitch.enqueued,
        Runs.outputs_append, List.countP_append]
      change _ = (LightSwitch.enqueued (mainEvents before)).countP _ + _
      rw [← ih]
      cases e with
      | main e h =>
          change _ = _ + (LightSwitch.enqueues _ e ++ []).countP _
          rw [List.append_nil, countP_enqueues_main _ h]
          rfl
      | identify e => rfl
      | nus e =>
          change ((run before).nus.step e).work.executed.count _ =
            _ +
              (Runs.outputs _ _ _ ((run before).switchEvents (.nus e))).countP _
          rw [nus_executed, List.count_append]
          congr 1
          simp only [switchEvents]
          cases (run before).nus.runs e with
          | none => rfl
          | some item =>
              cases item with
              | command other =>
                  simp [Runs.outputs_cons, LightSwitch.enqueues, sends_callback,
                    List.count_singleton, List.countP_singleton]
              | onConnectWork | onDisconnectWork => rfl

/-- Whatever interleaves: every message that matched a command was coalesced
with the one before it, or its work item waits, or its callback waits, or its
request has been sent. -/
theorem messages_accounted (work : NusWork) (events : List FirmwareEvent) :
    events.countP (receives work) = coalesced work events +
      (run events).nus.work.queue.count (.command work) +
      (run events).lightSwitch.delayed.countP
        (Delayed.sends .nus work.command) +
      ((LightSwitch.requestsFor .nus (mainEvents events)).map
        ZclRequest.command).count work.command := by
  have hsent :=
    LightSwitch.countP_enqueued .nus work.command (mainEvents events)
  rw [← count_executed, ← run_lightSwitch] at hsent
  rw [count_trace, WorkQueue.trace, List.count_append, hsent]
  omega

/-! ### The LED the parts share -/

/-- While no blinking is pending, the LED shows what the signals say of the
network. -/
def LedTellsNetwork (events : List FirmwareEvent) : Prop :=
  ∀ before, before <+: events → (run before).identify.pending = 0 →
    (run before).identify.identifyLed =
      (run before).lightSwitch.zigbeeNetworkStateLed

/-- A stop that leaves nothing pending finds `ZB_JOINED` to be what the signals
said last. -/
def StopAgrees (s : SwitchFirmware) : FirmwareEvent → Prop
  | .identify (.identifyCb bufid zbJoined cancelled) =>
      bufid = 0 → (s.identify.identifyCb bufid zbJoined cancelled).pending = 0 →
        zbJoined = s.lightSwitch.zigbeeNetworkStateLed
  | _ => True

/-- Of the events of `main.c` only a signal touches its side of the LED. -/
theorem step_networkStateLed (s : LightSwitch) (i : Identify) (e : SwitchEvent)
    (h : i.identifyLed = s.zigbeeNetworkStateLed) :
    (i.afterMain e).identifyLed = (s.step e).zigbeeNetworkStateLed := by
  cases e with
  | signal sig status leaveType =>
      simp only [Identify.afterMain, h, LightSwitch.step,
        LightSwitch.zbossSignalHandler]
      split <;> (try split) <;> rfl
  | findAlarm =>
      simp only [Identify.afterMain, LightSwitch.step]
      split <;> exact h
  | matchDescResp resp =>
      simp only [Identify.afterMain, LightSwitch.step,
        LightSwitch.findLightBulbCb]
      split_ifs <;> exact h
  | buttons | buttonsAlarm | nusWork => exact h
  | delayed index =>
      simp only [Identify.afterMain, LightSwitch.step]
      cases s.delayed[index]? with
      | none => exact h
      | some d =>
          simp only
          cases d.callback <;> exact h

theorem afterMain_pending (i : Identify) (e : SwitchEvent) :
    (i.afterMain e).pending = i.pending := by
  cases e <;> rfl

theorem eq_of_isStop {e : IdentifyEvent} (h : Identify.IsStop e) :
    ∃ zbJoined cancelled, e = .identifyCb 0 zbJoined cancelled := by
  cases e with
  | identifyCb bufid zbJoined cancelled =>
      have hstop : bufid = 0 := h
      exact ⟨zbJoined, cancelled, by rw [hstop]⟩
  | runCallback index => contradiction
  | runAlarm index => contradiction

/-- The LED tells the state of the network exactly in the runs in which every
stop that ends the blinking is told by `ZB_JOINED` what the last signal said. -/
theorem ledTellsNetwork_iff (events : List FirmwareEvent) :
    LedTellsNetwork events ↔
      ∀ before e, before ++ [e] <+: events → (run before).StopAgrees e := by
  apply Runs.prefix_always_iff (fun before =>
    (run before).identify.pending = 0 →
      (run before).identify.identifyLed =
        (run before).lightSwitch.zigbeeNetworkStateLed)
    (fun before e => (run before).StopAgrees e) (fun _ => rfl)
  · intro before e htells hagrees
    rw [run_append]
    cases e with
    | main e h =>
        intro hpending
        apply step_networkStateLed
        apply htells
        rw [← afterMain_pending _ e]
        exact hpending
    | nus e =>
        intro hpending
        have hsame := htells hpending
        simp only [step]
        split
        · exact hsame
        · exact hsame
    | identify e =>
        intro hpending
        change ((run before).identify.step e).pending = 0 at hpending
        change ((run before).identify.step e).identifyLed = _
        by_cases hstart : Identify.IsStart e
        · rw [Identify.pending_start hstart] at hpending
          contradiction
        · by_cases hstop : Identify.IsStop e
          · obtain ⟨zbJoined, cancelled, rfl⟩ := eq_of_isStop hstop
            exact hagrees rfl hpending
          · rcases Identify.step_run (s := (run before).identify) hstart hstop
              with ⟨hsame, hidle⟩
            rw [hsame] at hpending
            rw [hidle hpending]
            exact htells hpending
  · intro before e _ hnot hnext
    cases e with
    | main e h => exact hnot trivial
    | nus e => exact hnot trivial
    | identify e =>
        cases e with
        | runCallback index => exact hnot trivial
        | runAlarm index => exact hnot trivial
        | identifyCb bufid zbJoined cancelled =>
            apply hnot
            rintro rfl hpending
            rw [run_append] at hnext
            exact hnext hpending

end SwitchFirmware

end ZbLightbulb
