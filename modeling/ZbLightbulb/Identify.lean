/-
The identify blinking of the switch: `toggle_identify_led` starts as a callback
and goes on as an alarm that it sets itself.  A stop cancels an alarm, not a
callback.
-/
import Mathlib.Data.List.Basic
import ZbLightbulb.Lib.Runs

namespace ZbLightbulb

/-- The runs of `toggle_identify_led` that wait in the callback queue and as
alarms, each with its `bufid`, the static `blink_status`, and the LED that
`IDENTIFY_LED` and `ZIGBEE_NETWORK_STATE_LED` both name. -/
structure Identify where
  callbacks : List UInt8
  alarms : List UInt8
  blinkStatus : Int
  identifyLed : Bool
deriving DecidableEq, Repr

/-- A notification, with what `ZB_JOINED` returns and which alarm a cancellation
would remove, or one step of the scheduler: it runs a callback or an alarm that
is due, in whatever order. -/
inductive IdentifyEvent where
  | identifyCb (bufid : UInt8) (zbJoined : Bool) (cancelled : Nat)
  | runCallback (index : Nat)
  | runAlarm (index : Nat)
deriving DecidableEq, Repr

namespace Identify

def toggleIdentifyLed (bufid : UInt8) (s : Identify) : Identify :=
  { s with
    blinkStatus := s.blinkStatus + 1
    identifyLed := (s.blinkStatus + 1).tmod 2 != 0
    alarms := s.alarms ++ [bufid] }

/-- `ZB_SCHEDULE_APP_ALARM_CANCEL` with `ZB_ALARM_ANY_PARAM`: one pending alarm
goes, if there is one. -/
def scheduleAppAlarmCancel (cancelled : Nat) (s : Identify) : Identify :=
  { s with alarms := s.alarms.eraseIdx (min cancelled (s.alarms.length - 1)) }

def identifyCb (bufid : UInt8) (zbJoined : Bool) (cancelled : Nat)
    (s : Identify) : Identify :=
  if bufid ≠ 0 then
    { s with callbacks := s.callbacks ++ [bufid] }
  else
    { s.scheduleAppAlarmCancel cancelled with identifyLed := zbJoined }

def step (s : Identify) : IdentifyEvent → Identify
  | .identifyCb bufid zbJoined cancelled =>
      s.identifyCb bufid zbJoined cancelled
  | .runCallback index =>
      match s.callbacks[index]? with
      | none => s
      | some bufid =>
          { s with callbacks := s.callbacks.eraseIdx index }.toggleIdentifyLed
            bufid
  | .runAlarm index =>
      match s.alarms[index]? with
      | none => s
      | some bufid =>
          { s with alarms := s.alarms.eraseIdx index }.toggleIdentifyLed bufid

def start : Identify where
  callbacks := []
  alarms := []
  blinkStatus := 0
  identifyLed := false

def run (events : List IdentifyEvent) : Identify :=
  events.foldl step start

theorem run_append (before : List IdentifyEvent) (e : IdentifyEvent) :
    run (before ++ [e]) = (run before).step e :=
  List.foldl_concat step start e before

/-- How many runs of `toggle_identify_led` wait. -/
def pending (s : Identify) : Nat :=
  s.callbacks.length + s.alarms.length

/-- A start notification. -/
def IsStart : IdentifyEvent → Prop
  | .identifyCb bufid _ _ => bufid ≠ 0
  | _ => False

/-- A stop notification. -/
def IsStop : IdentifyEvent → Prop
  | .identifyCb bufid _ _ => bufid = 0
  | _ => False

/-- At most one run of `toggle_identify_led` ever waits.  From a stop to the next
start none does, and none takes place. -/
structure BlinksAsTold (events : List IdentifyEvent) : Prop where
  single : ∀ before, before <+: events → (run before).pending ≤ 1
  stops : ∀ before stop after, before ++ stop :: after <+: events →
    IsStop stop → (∀ later ∈ after, ¬ IsStart later) →
      (run (before ++ stop :: after)).pending = 0 ∧
        (run (before ++ stop :: after)).blinkStatus = (run before).blinkStatus

/-- A start finds nothing pending, and a stop no callback. -/
def InTurn (s : Identify) (e : IdentifyEvent) : Prop :=
  (IsStart e → s.pending = 0) ∧ (IsStop e → s.callbacks = [])

section Step

variable {s : Identify} {e : IdentifyEvent}

theorem pending_start (h : IsStart e) : (s.step e).pending = s.pending + 1 := by
  cases e with
  | identifyCb bufid zbJoined cancelled =>
      have hstart : bufid ≠ 0 := h
      simp only [step, identifyCb, if_pos hstart, pending, List.length_append,
        List.length_singleton]
      omega
  | runCallback => contradiction
  | runAlarm => contradiction

/-- A stop takes one alarm and no callback, and toggles nothing. -/
theorem step_stop (h : IsStop e) :
    (s.step e).callbacks = s.callbacks ∧
      (s.step e).alarms.length = s.alarms.length - 1 ∧
      (s.step e).blinkStatus = s.blinkStatus := by
  cases e with
  | identifyCb bufid zbJoined cancelled =>
      have hstop : bufid = 0 := h
      simp only [step, identifyCb, hstop, ne_eq, not_true_eq_false, if_false,
        scheduleAppAlarmCancel, true_and, and_true]
      cases halarms : s.alarms with
      | nil => rfl
      | cons bufid rest =>
          rw [List.length_eraseIdx_of_lt]
          rw [List.length_cons]
          omega
  | runCallback => contradiction
  | runAlarm => contradiction

theorem pending_toggle (bufid : UInt8) :
    (s.toggleIdentifyLed bufid).pending = s.pending + 1 := by
  simp only [pending, toggleIdentifyLed, List.length_append,
    List.length_singleton]
  omega

/-- What is taken out of a queue comes back as the next alarm. -/
theorem toggle_of_taken {taken : Identify}
    (h : taken.pending + 1 = s.pending) (bufid : UInt8) :
    (taken.toggleIdentifyLed bufid).pending = s.pending ∧
      (s.pending = 0 → taken.toggleIdentifyLed bufid = s) := by
  constructor
  · rw [pending_toggle]
    exact h
  · intro hnone
    omega

/-- A run of `toggle_identify_led` sets the alarm for the next one. -/
theorem step_run (hstart : ¬ IsStart e) (hstop : ¬ IsStop e) :
    (s.step e).pending = s.pending ∧ (s.pending = 0 → s.step e = s) := by
  have hwaits : ∀ {queue : List UInt8} {index bufid},
      queue[index]? = some bufid →
        (queue.eraseIdx index).length + 1 = queue.length := by
    intro queue index bufid h
    have hlt := (List.getElem?_eq_some_iff.mp h).1
    rw [List.length_eraseIdx_of_lt hlt]
    omega
  cases e with
  | identifyCb bufid zbJoined cancelled => exact absurd hstop hstart
  | runCallback index =>
      simp only [step]
      cases h : s.callbacks[index]? with
      | none => exact ⟨rfl, fun _ => rfl⟩
      | some bufid =>
          apply toggle_of_taken
          have hlength := hwaits h
          simp only [pending]
          omega
  | runAlarm index =>
      simp only [step]
      cases h : s.alarms[index]? with
      | none => exact ⟨rfl, fun _ => rfl⟩
      | some bufid =>
          apply toggle_of_taken
          have hlength := hwaits h
          simp only [pending]
          omega

/-- In turn, one chain stays one chain. -/
theorem InTurn.pending_le (h : s.InTurn e) (hsingle : s.pending ≤ 1) :
    (s.step e).pending ≤ 1 := by
  by_cases hstart : IsStart e
  · have hone := pending_start (s := s) hstart
    rw [h.1 hstart] at hone
    exact Nat.le_of_eq hone
  · by_cases hstop : IsStop e
    · rcases step_stop (s := s) hstop with ⟨hcallbacks, halarms, -⟩
      rw [pending] at hsingle ⊢
      rw [hcallbacks, halarms]
      omega
    · rw [(step_run hstart hstop).1]
      exact hsingle

/-- In turn, a stop ends the one chain there is. -/
theorem InTurn.pending_stop (h : s.InTurn e) (hsingle : s.pending ≤ 1)
    (hstop : IsStop e) : (s.step e).pending = 0 := by
  rcases step_stop (s := s) hstop with ⟨hcallbacks, halarms, -⟩
  rw [pending, h.2 hstop] at hsingle
  rw [pending, hcallbacks, halarms, h.2 hstop]
  rw [List.length_nil, Nat.zero_add] at hsingle ⊢
  omega

/-- With nothing pending only a start brings anything. -/
theorem step_of_idle (hidle : s.pending = 0) (hstart : ¬ IsStart e) :
    (s.step e).pending = 0 ∧ (s.step e).blinkStatus = s.blinkStatus := by
  by_cases hstop : IsStop e
  · rcases step_stop (s := s) hstop with ⟨hcallbacks, halarms, hblink⟩
    rw [pending] at hidle ⊢
    rw [hcallbacks, halarms]
    exact ⟨by omega, hblink⟩
  · rw [(step_run hstart hstop).2 hidle]
    exact ⟨hidle, rfl⟩

end Step

section Run

variable {events : List IdentifyEvent}
  (hturn : ∀ before e, before ++ [e] <+: events → (run before).InTurn e)

include hturn

theorem pending_le_of_inTurn (before : List IdentifyEvent)
    (hpre : before <+: events) : (run before).pending ≤ 1 := by
  induction before using List.reverseRecOn with
  | nil => exact Nat.zero_le 1
  | append_singleton before e ih =>
      rw [run_append]
      apply (hturn before e hpre).pending_le
      exact ih ((List.prefix_append before [e]).trans hpre)

/-- From a stop to the next start nothing waits and nothing is toggled. -/
theorem idle_of_inTurn {before : List IdentifyEvent} {stop : IdentifyEvent}
    {after : List IdentifyEvent} (hpre : before ++ stop :: after <+: events)
    (hstop : IsStop stop) (hquiet : ∀ later ∈ after, ¬ IsStart later) :
    (run (before ++ stop :: after)).pending = 0 ∧
      (run (before ++ stop :: after)).blinkStatus =
        (run before).blinkStatus := by
  induction after using List.reverseRecOn with
  | nil =>
      rw [run_append]
      have hbefore := (List.prefix_append before [stop]).trans hpre
      exact ⟨(hturn before stop hpre).pending_stop
        (pending_le_of_inTurn hturn before hbefore) hstop,
        (step_stop hstop).2.2⟩
  | append_singleton after last ih =>
      rw [Runs.append_cons_concat] at hpre ⊢
      rcases ih ((List.prefix_append _ [last]).trans hpre)
        (fun later hlater => hquiet later (List.mem_append_left _ hlater))
        with ⟨hidle, hblink⟩
      rcases step_of_idle hidle (hquiet last (by simp)) with ⟨hnone, hsame⟩
      rw [run_append]
      exact ⟨hnone, hsame.trans hblink⟩

end Run

/-- The blinking follows the notifications exactly if every start finds nothing
pending and every stop comes after the scheduled callback has run: a stop does
not cancel a callback, and a start does not look for one. -/
theorem blinksAsTold_iff (events : List IdentifyEvent) :
    BlinksAsTold events ↔
      ∀ before e, before ++ [e] <+: events → (run before).InTurn e := by
  constructor
  · intro h before e hprefix
    constructor
    · intro hstart
      have hsingle := h.single _ hprefix
      rw [run_append, pending_start hstart] at hsingle
      omega
    · intro hstop
      have hnone := (h.stops before e [] hprefix hstop (by simp)).1
      rw [run_append, pending, (step_stop hstop).1, Nat.add_eq_zero_iff] at hnone
      exact List.eq_nil_of_length_eq_zero hnone.1
  · intro hturn
    exact ⟨pending_le_of_inTurn hturn,
      fun _ _ _ hprefix => idle_of_inTurn hturn hprefix⟩

/-- The stop comes before the callback of the start has run: the LED blinks on
with nothing to stop it. -/
theorem not_blinksAsTold_early_stop : ¬ ∀ events, BlinksAsTold events := by
  intro h
  have hstop := (h [.identifyCb 1 true 0, .identifyCb 0 true 0,
    .runCallback 0]).stops [.identifyCb 1 true 0] (.identifyCb 0 true 0)
    [.runCallback 0] (List.prefix_refl _) rfl (by
      intro later hlater hstart
      rw [List.mem_singleton.mp hlater] at hstart
      exact hstart)
  revert hstop
  decide

end Identify

end ZbLightbulb
