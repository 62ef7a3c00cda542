/-
The NUS service of `light_switch2`: the matching of a received message against
the command table, the connection callbacks, and the work items through which
both reach the rest of the program.
-/
import ZbLightbulb.Lib.Runs
import ZbLightbulb.Lib.WorkQueue
import ZbLightbulb.LightSwitch

namespace ZbLightbulb

/-! ### Matching -/

/-- A C string: its bytes up to the terminator. -/
structure CString where
  bytes : List UInt8
  nulFree : ∀ b ∈ bytes, b ≠ 0

namespace CString

def strlen (s : CString) : Nat := s.bytes.length

/-- The byte at an offset; the one after the last is the terminator. -/
def byteAt (s : CString) (i : Nat) : UInt8 := s.bytes.getD i 0

end CString

/-- `strncmp` on the bytes from offset `i` on, with `n` left to compare. -/
def strncmp (s1 s2 : Nat → UInt8) (i : Nat) : Nat → Int
  | 0 => 0
  | n + 1 =>
      if s1 i ≠ s2 i then (s1 i).toNat - (s2 i).toNat
      else if s1 i = 0 then 0
      else strncmp s1 s2 (i + 1) n

/-- What the service passes to `nus_command_handler`: a pointer, by the bytes
behind it, and a length. -/
structure NusMessage where
  data : Nat → UInt8
  length : UInt16

/-- `struct nus_entry`, with the work item as a parameter. -/
structure NusEntry (α : Type) where
  cmd : CString
  work : α

/-- The condition in the loop of `nus_command_handler`. -/
def NusEntry.matches {α : Type} (p : NusEntry α) (msg : NusMessage) : Bool :=
  decide (p.cmd.strlen ≤ msg.length.toNat) &&
    strncmp p.cmd.byteAt msg.data 0 p.cmd.strlen == 0

/-- The work item `nus_command_handler` submits; the table ends at its `NULL`
entry. -/
def nusCommandHandler {α : Type} (nusCommands : List (NusEntry α))
    (msg : NusMessage) : Option α :=
  (nusCommands.find? fun p => p.matches msg).map NusEntry.work

/-- A string of one byte. -/
def CString.ofByte (b : UInt8) (h : b ≠ 0) : CString :=
  ⟨[b], List.forall_mem_singleton.mpr h⟩

def commandOn : CString := .ofByte 0x6E (by decide)
def commandOff : CString := .ofByte 0x66 (by decide)
def commandToggle : CString := .ofByte 0x74 (by decide)
def commandIncrease : CString := .ofByte 0x69 (by decide)
def commandDecrease : CString := .ofByte 0x64 (by decide)

/-- The table of `main.c`. -/
def commands : List (NusEntry NusWork) :=
  [⟨commandOn, .turnOnCmd⟩, ⟨commandOff, .turnOffCmd⟩,
    ⟨commandToggle, .toggleCmd⟩, ⟨commandIncrease, .increaseCmd⟩,
    ⟨commandDecrease, .decreaseCmd⟩]

/-! ### The service -/

/-- The work items on the system queue. -/
inductive NusItem where
  | command (work : NusWork)
  | onConnectWork
  | onDisconnectWork
deriving DecidableEq, Repr

/-- The connections of the Bluetooth stack. -/
abbrev BtConn := Nat

/-- The globals of `nus_cmd.c`, the references it holds, and whether the stack
has a connection, of which it allows one. -/
structure Nus where
  work : WorkQueue NusItem
  currentConn : Option BtConn
  refs : Int
  linked : Bool

/-- A connection is reported only while there is none, a disconnection only
while there is one. -/
inductive NusEvent where
  | received (msg : NusMessage)
  | connected (conn : BtConn) (err : UInt8)
  | disconnected
  | execute

namespace Nus

def start : Nus where
  work := .empty
  currentConn := none
  refs := 0
  linked := false

def connected (conn : BtConn) (err : UInt8) (s : Nus) : Nus :=
  if err ≠ 0 then s
  else
    { s with
      currentConn := some conn
      refs := s.refs + 1
      work := s.work.submit .onConnectWork }

def disconnected (s : Nus) : Nus :=
  match s.currentConn with
  | none => s
  | some _ =>
      { s with
        currentConn := none
        refs := s.refs - 1
        work := s.work.submit .onDisconnectWork }

def step (s : Nus) : NusEvent → Nus
  | .received msg =>
      match nusCommandHandler commands msg with
      | none => s
      | some work => { s with work := s.work.submit (.command work) }
  | .connected conn err =>
      if s.linked then s
      else { s.connected conn err with linked := err == 0 }
  | .disconnected =>
      if s.linked then { s.disconnected with linked := false } else s
  | .execute => { s with work := s.work.execute }

def run (events : List NusEvent) : Nus :=
  events.foldl step start

theorem run_append (before : List NusEvent) (e : NusEvent) :
    run (before ++ [e]) = (run before).step e :=
  List.foldl_concat step start e before

/-- The queue runs until it is empty. -/
def drain (s : Nus) : Nus :=
  { s with work := s.work.drain }

theorem foldl_execute (n : Nat) (s : Nus) :
    (List.replicate n .execute).foldl step s =
      { s with work := WorkQueue.execute^[n] s.work } := by
  induction n generalizing s with
  | zero => rfl
  | succ n ih =>
      rw [List.replicate_succ, List.foldl_cons, ih,
        Function.iterate_succ_apply]
      rfl

/-- Draining is a run of the queue. -/
theorem run_replicate_execute (events : List NusEvent) :
    run (events ++ List.replicate (run events).work.queue.length .execute) =
      (run events).drain := by
  rw [run, List.foldl_append]
  change (List.replicate (run events).work.queue.length .execute).foldl step
    (run events) = _
  rw [foldl_execute, WorkQueue.iterate_execute]
  rfl

/-- The requests queued to the stack by the handlers that have run. -/
def requests (s : Nus) : List Callback :=
  s.work.executed.filterMap fun
    | .command work => some work.callback
    | _ => none

/-- `NUS_STATUS_LED` after one more handler: `on_nus_connect` and
`on_nus_disconnect` write it. -/
def ledAfter (led : Bool) : NusItem → Bool
  | .onConnectWork => true
  | .onDisconnectWork => false
  | .command _ => led

def nusStatusLed (s : Nus) : Bool :=
  s.work.executed.foldl ledAfter false

/-- The work item an event submits. -/
def submits (s : Nus) : NusEvent → Option NusItem
  | .received msg => (nusCommandHandler commands msg).map .command
  | .connected _ err =>
      if s.linked = false ∧ err = 0 then some .onConnectWork else none
  | .disconnected =>
      if s.linked = true ∧ s.currentConn ≠ none then some .onDisconnectWork
      else none
  | .execute => none

/-- Everything an event can do to the service. -/
inductive NusStep (s : Nus) (e : NusEvent) : Nus → Prop
  | silent (work : WorkQueue NusItem) (h : s.submits e = none)
      (htrace : work.trace = s.work.trace) : NusStep s e { s with work := work }
  | receives (work : NusWork) (h : s.submits e = some (.command work)) :
      NusStep s e { s with work := s.work.submit (.command work) }
  | connects (conn : BtConn) (h : s.submits e = some .onConnectWork)
      (hlinked : s.linked = false) :
      NusStep s e
        { work := s.work.submit .onConnectWork
          currentConn := some conn
          refs := s.refs + 1
          linked := true }
  | disconnects (h : s.submits e = some .onDisconnectWork)
      (hlinked : s.linked = true) (hconn : s.currentConn ≠ none) :
      NusStep s e
        { work := s.work.submit .onDisconnectWork
          currentConn := none
          refs := s.refs - 1
          linked := false }
  | unlinks (h : s.submits e = none) (hlinked : s.linked = true)
      (hconn : s.currentConn = none) :
      NusStep s e { s with currentConn := none, linked := false }

theorem NusStep.of_eq {s t : Nus} {e : NusEvent} (h : s.submits e = none)
    (heq : t = s) : NusStep s e t := by
  subst heq
  exact NusStep.silent t.work h rfl

theorem step_cases (s : Nus) (e : NusEvent) : NusStep s e (s.step e) := by
  cases e with
  | received msg =>
      cases hwork : nusCommandHandler commands msg with
      | none =>
          apply NusStep.of_eq
          · simp only [submits, hwork, Option.map_none]
          · simp only [step, hwork]
      | some work =>
          simp only [step, hwork]
          apply NusStep.receives
          simp only [submits, hwork, Option.map_some]
  | connected conn err =>
      by_cases hlinked : s.linked = true
      · apply NusStep.of_eq
        · simp [submits, hlinked]
        · simp only [step, if_pos hlinked]
      · rw [Bool.not_eq_true] at hlinked
        by_cases herr : err = 0
        · subst herr
          simp only [step, connected, hlinked, Bool.false_eq_true, if_false,
            ne_eq, not_true]
          apply NusStep.connects _ _ hlinked
          simp only [submits, hlinked, and_self, if_true]
        · apply NusStep.of_eq
          · simp [submits, herr]
          · rcases s with ⟨work, currentConn, refs, linked⟩
            subst hlinked
            simp [step, connected, herr]
  | disconnected =>
      by_cases hlinked : s.linked = true
      · simp only [step, if_pos hlinked]
        cases hconn : s.currentConn with
        | none =>
            simp only [disconnected, hconn]
            apply NusStep.unlinks _ hlinked hconn
            simp [submits, hconn]
        | some conn =>
            simp only [disconnected, hconn]
            apply NusStep.disconnects _ hlinked
            · rw [hconn]
              exact Option.some_ne_none conn
            · simp [submits, hlinked, hconn]
      · apply NusStep.of_eq
        · simp [submits, hlinked]
        · simp only [step, if_neg hlinked]
  | execute =>
      exact NusStep.silent s.work.execute rfl (WorkQueue.execute_trace s.work)

/-- Only a submission that finds its item idle adds to what has run and what
will. -/
theorem step_trace (s : Nus) (e : NusEvent) :
    (s.step e).work.trace =
      match s.submits e with
      | none => s.work.trace
      | some item => (s.work.submit item).trace := by
  have hstep := s.step_cases e
  generalize s.step e = t at hstep ⊢
  cases hstep with
  | silent work h htrace => simp only [h, htrace]
  | receives work h => simp only [h]
  | connects conn h => simp only [h]
  | disconnects h => simp only [h]
  | unlinks h => simp only [h]

/-! ### Commands -/

/-- The event is a message that matches the command. -/
def receives (work : NusWork) : NusEvent → Bool
  | .received msg => nusCommandHandler commands msg == some work
  | _ => false

/-- Once the queue has drained, every kind of command has been requested as
often as a message matched it. -/
def CommandsConserved (events : List NusEvent) : Prop :=
  ∀ work, (run events).drain.requests.count work.callback =
    events.countP (receives work)

theorem callback_injective : Function.Injective NusWork.callback := by
  intro work other h
  cases work <;> cases other <;> first | rfl | exact absurd h (by decide)

theorem count_requests (s : Nus) (work : NusWork) :
    s.requests.count work.callback =
      s.work.executed.count (.command work) := by
  simp only [requests]
  induction s.work.executed with
  | nil => rfl
  | cons item items ih =>
      cases item with
      | command other =>
          by_cases h : other = work
          · subst h
            simp [ih]
          · have hcallback : other.callback ≠ work.callback := fun heq =>
              h (callback_injective heq)
            simp [ih, h, hcallback]
      | onConnectWork | onDisconnectWork => simpa using ih

theorem count_submit (q : WorkQueue NusItem) (item other : NusItem) :
    (q.submit item).trace.count other = q.trace.count other +
      if item = other ∧ item ∉ q.queue then 1 else 0 := by
  by_cases hqueued : item ∈ q.queue
  · simp [WorkQueue.submit_of_queued hqueued, hqueued]
  · by_cases h : item = other
    · subst h
      simp [WorkQueue.submit_trace_of_idle hqueued, hqueued]
    · simp [WorkQueue.submit_trace_of_idle hqueued, h]

theorem receives_iff (s : Nus) (e : NusEvent) (work : NusWork) :
    receives work e = true ↔ s.submits e = some (.command work) := by
  cases e with
  | received msg =>
      simp only [receives, submits]
      cases nusCommandHandler commands msg <;> simp
  | connected conn err =>
      simp only [receives, submits]
      split <;> simp
  | disconnected =>
      simp only [receives, submits]
      split <;> simp
  | execute => simp [receives, submits]

/-- A message adds its command unless it still waits; no other event adds
one. -/
theorem count_step (s : Nus) (e : NusEvent) (work : NusWork) :
    (s.step e).work.trace.count (.command work) =
      s.work.trace.count (.command work) +
        if receives work e = true ∧ .command work ∉ s.work.queue then 1
        else 0 := by
  rw [step_trace]
  cases hsubmits : s.submits e with
  | none => simp [receives_iff s, hsubmits]
  | some item =>
      simp only [receives_iff s, hsubmits, Option.some.injEq, count_submit]
      by_cases h : item = .command work
      · subst h
        rfl
      · simp [h]

theorem count_le (events : List NusEvent) (work : NusWork) :
    (run events).work.trace.count (.command work) ≤
      events.countP (receives work) := by
  induction events using List.reverseRecOn with
  | nil => exact Nat.le_refl 0
  | append_singleton before e ih =>
      rw [run_append, count_step, List.countP_append, List.countP_singleton]
      by_cases hreceives : receives work e = true
      · simp only [hreceives, true_and, if_true]
        split <;> omega
      · simpa [hreceives] using ih

/-- The commands are conserved exactly in the runs in which no message comes
while the work item of its command still waits: every command has a single
item. -/
theorem commandsConserved_iff (events : List NusEvent) :
    CommandsConserved events ↔
      ∀ before e, before ++ [e] <+: events → ∀ work,
        receives work e = true → .command work ∉ (run before).work.queue := by
  have hcount : CommandsConserved events ↔ ∀ work,
      (run events).work.trace.count (.command work) =
        events.countP (receives work) := by
    simp only [CommandsConserved, count_requests, drain,
      WorkQueue.drain_executed]
  rw [hcount]
  apply Runs.prefix_iff (fun events => ∀ work,
    (run events).work.trace.count (.command work) =
      events.countP (receives work))
    (fun before e => ∀ work, receives work e = true →
      .command work ∉ (run before).work.queue)
  · exact fun _ => rfl
  · intro before e
    rw [← forall_and]
    apply forall_congr'
    intro work
    have hle := count_le before work
    rw [run_append, count_step, List.countP_append, List.countP_singleton]
    by_cases hreceives : receives work e = true
    · by_cases hqueued : .command work ∈ (run before).work.queue
      · simp [hreceives, hqueued]
        omega
      · simp [hreceives, hqueued]
    · simp [hreceives]

/-- Two messages `t` come before the queue runs: one toggle. -/
theorem not_commandsConserved_two_toggles :
    ¬ ∀ events, CommandsConserved events := by
  intro h
  let toggle : NusEvent := .received ⟨fun _ => 0x74, 1⟩
  have hconserved := h [toggle, toggle] .toggleCmd
  revert hconserved
  decide

/-! ### The connection -/

/-- Whatever has happened so far: if the queue now runs empty, the LED is then
lit exactly while there is a connection, and one reference is held for it.  The
point of the run need not be one at which the queue is empty already: two
callbacks whose items were still queued can cancel until there is one. -/
def FollowsConnection (events : List NusEvent) : Prop :=
  ∀ before, before <+: events →
    ((run before).drain.nusStatusLed = true ↔
        (run before).currentConn ≠ none) ∧
      (run before).refs = if (run before).currentConn = none then 0 else 1

/-- What always holds of the connection. -/
structure Linked (s : Nus) : Prop where
  linked : s.linked = s.currentConn.isSome
  refs : s.refs = if s.currentConn = none then 0 else 1

theorem run_linked (events : List NusEvent) : (run events).Linked := by
  induction events using List.reverseRecOn with
  | nil => exact ⟨rfl, rfl⟩
  | append_singleton before e ih =>
      rcases ih with ⟨hlinked, hrefs⟩
      have hstep := (run before).step_cases e
      rw [← run_append] at hstep
      generalize run (before ++ [e]) = t at hstep ⊢
      cases hstep with
      | silent => exact ⟨hlinked, hrefs⟩
      | receives => exact ⟨hlinked, hrefs⟩
      | connects conn _ hnone =>
          have hconn : (run before).currentConn = none := by
            rw [← Option.not_isSome_iff_eq_none, ← hlinked, hnone]
            decide
          constructor
          · rfl
          · simp [hrefs, hconn]
      | disconnects _ _ hconn =>
          constructor
          · rfl
          · simp [hrefs, hconn]
      | unlinks _ _ hconn =>
          constructor
          · rfl
          · simp [hrefs, hconn]

/-- The connection after an event is told by the item it submits. -/
theorem step_currentConn (s : Nus) (e : NusEvent) :
    (s.step e).currentConn.isSome =
      (s.submits e).elim s.currentConn.isSome
        (ledAfter s.currentConn.isSome) := by
  have hstep := s.step_cases e
  generalize s.step e = t at hstep ⊢
  cases hstep with
  | silent work h => simp only [h, Option.elim_none]
  | receives work h => simp only [h, Option.elim_some, ledAfter]
  | connects conn h =>
      simp only [h, Option.elim_some, ledAfter, Option.isSome_some]
  | disconnects h =>
      simp only [h, Option.elim_some, ledAfter, Option.isSome_none]
  | unlinks h _ hconn => simp only [h, Option.elim_none, hconn]

/-- A connection callback changes the connection. -/
theorem ledAfter_ne_of_submits {s : Nus} (h : s.Linked) {e : NusEvent}
    {item : NusItem} (hsubmits : s.submits e = some item)
    (hconn : ∀ work, item ≠ .command work) :
    ledAfter s.currentConn.isSome item ≠ s.currentConn.isSome := by
  have hstep := s.step_cases e
  generalize s.step e = t at hstep
  cases hstep with
  | silent _ hnone | unlinks hnone =>
      rw [hnone] at hsubmits
      contradiction
  | receives work hcommand =>
      rw [hcommand, Option.some.injEq] at hsubmits
      exact absurd hsubmits.symm (hconn work)
  | connects _ hconnects hlinked =>
      rw [hconnects, Option.some.injEq] at hsubmits
      rw [← hsubmits, ← h.linked, hlinked]
      decide
  | disconnects hdisconnects hlinked =>
      rw [hdisconnects, Option.some.injEq] at hsubmits
      rw [← hsubmits, ← h.linked, hlinked]
      decide

/-- A connection callback finds its work item idle. -/
def FindsIdle (s : Nus) (e : NusEvent) : Prop :=
  ∀ item, s.submits e = some item → (∀ work, item ≠ .command work) →
    item ∉ s.work.queue

theorem ledAfter_command (led : Bool) {item : NusItem}
    (h : ¬ ∀ work, item ≠ .command work) : ledAfter led item = led := by
  cases item with
  | command work => rfl
  | onConnectWork | onDisconnectWork => exact absurd (fun _ => by simp) h

/-- The LED once the queue has drained, after one more event. -/
theorem step_drain_nusStatusLed (s : Nus) (e : NusEvent) :
    ((s.step e).drain.nusStatusLed = s.drain.nusStatusLed ∧ ¬ s.FindsIdle e) ∨
      ((s.step e).drain.nusStatusLed =
        (s.submits e).elim s.drain.nusStatusLed
          (ledAfter s.drain.nusStatusLed) ∧ s.FindsIdle e) := by
  have hled : ∀ s : Nus, s.drain.nusStatusLed =
      s.work.trace.foldl ledAfter false := fun _ => rfl
  rw [hled, hled, step_trace]
  cases hsubmits : s.submits e with
  | none =>
      right
      refine ⟨rfl, ?_⟩
      intro item hitem
      rw [hsubmits] at hitem
      contradiction
  | some item =>
      by_cases hqueued : item ∈ s.work.queue
      · simp only [WorkQueue.submit_of_queued hqueued]
        by_cases hconn : ∀ work, item ≠ .command work
        · left
          exact ⟨trivial, fun h => h item hsubmits hconn hqueued⟩
        · right
          refine ⟨(ledAfter_command _ hconn).symm, ?_⟩
          intro other hother hnot
          rw [hsubmits, Option.some.injEq] at hother
          exact absurd (hother ▸ hnot) hconn
      · right
        simp only [WorkQueue.submit_trace_of_idle hqueued, List.foldl_append]
        refine ⟨rfl, ?_⟩
        intro other hother _
        rw [hsubmits, Option.some.injEq] at hother
        exact hother ▸ hqueued

/-- At every point of a run the LED will have followed the connection once the
queue has drained, exactly if no connection callback comes while its work item
still waits.  So in such a run it has followed wherever the queue is empty.  The
references always agree. -/
theorem followsConnection_iff (events : List NusEvent) :
    FollowsConnection events ↔
      ∀ before e, before ++ [e] <+: events → (run before).FindsIdle e := by
  have hsame : FollowsConnection events ↔ ∀ before, before <+: events →
      (run before).drain.nusStatusLed = (run before).currentConn.isSome := by
    apply forall₂_congr
    intro before _
    have hled : (run before).drain.nusStatusLed =
        (run before).currentConn.isSome ↔
          ((run before).drain.nusStatusLed = true ↔
            (run before).currentConn ≠ none) := by
      rw [← Option.isSome_iff_ne_none]
      exact Bool.eq_iff_iff
    rw [hled]
    exact and_iff_left (run_linked before).refs
  rw [hsame]
  apply Runs.prefix_always_iff
    (fun before => (run before).drain.nusStatusLed =
      (run before).currentConn.isSome)
    (fun before e => (run before).FindsIdle e) rfl
  · intro before e hinv hidle
    rw [run_append, step_currentConn]
    rcases step_drain_nusStatusLed (run before) e with ⟨-, hnot⟩ | ⟨hled, -⟩
    · exact absurd hidle hnot
    · rw [hled, hinv]
  · intro before e hinv hnot
    rw [run_append, step_currentConn]
    rcases step_drain_nusStatusLed (run before) e with ⟨hled, -⟩ | ⟨-, hidle⟩
    · rw [FindsIdle, not_forall] at hnot
      rcases hnot with ⟨item, hnot⟩
      rw [Classical.not_imp, Classical.not_imp] at hnot
      rcases hnot with ⟨hsubmits, hconn, -⟩
      rw [hled, hinv, hsubmits]
      exact (ledAfter_ne_of_submits (run_linked before) hsubmits hconn).symm
    · exact absurd hidle hnot

/-- The central connects, leaves and connects again before the queue runs: the
LED ends dark. -/
theorem not_followsConnection_reconnect :
    ¬ ∀ events, FollowsConnection events := by
  intro h
  have hfollows := h [.connected 1 0, .disconnected, .connected 1 0] _
    (List.prefix_refl _)
  revert hfollows
  decide

end Nus

end ZbLightbulb
