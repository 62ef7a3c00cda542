/-
Runs of a machine that reads one input a round, and of one that consumes a
finite list of events.  The rules here are the ones a proof about a loop
needs: an invariant, a component that runs on its own, and two machines that
keep a relation.
-/
import Mathlib.Data.List.Basic
import Mathlib.Data.List.Induction

namespace Runs

universe u v w

variable {S : Type u} {T : Type v} {I : Type w}

/-- The state before round `n` of a machine that reads `inputs m` in round
`m`. -/
def stateAt (step : S → I → S) (start : S) (inputs : Nat → I) : Nat → S
  | 0 => start
  | n + 1 => step (stateAt step start inputs n) (inputs n)

@[simp] theorem stateAt_zero (step : S → I → S) (start : S) (inputs : Nat → I) :
    stateAt step start inputs 0 = start := rfl

theorem stateAt_succ (step : S → I → S) (start : S) (inputs : Nat → I)
    (n : Nat) :
    stateAt step start inputs (n + 1) =
      step (stateAt step start inputs n) (inputs n) := rfl

/-- What holds at the start and is kept by every round holds before every
round. -/
theorem stateAt_invariant {step : S → I → S} {start : S} (Inv : S → Prop)
    (hstart : Inv start) (hstep : ∀ s i, Inv s → Inv (step s i))
    (inputs : Nat → I) (n : Nat) : Inv (stateAt step start inputs n) := by
  induction n with
  | zero => exact hstart
  | succ n ih => exact hstep _ _ ih

/-- A component whose next value depends only on itself and on its own part
of the input runs on its own. -/
theorem stateAt_proj {J : Type*} {step : S → I → S} (step' : T → J → T)
    (Inv : S → Prop) (f : S → T) (g : I → J) {start : S} (hstart : Inv start)
    (hstep : ∀ s i, Inv s → Inv (step s i))
    (hproj : ∀ s i, Inv s → f (step s i) = step' (f s) (g i))
    (inputs : Nat → I) (n : Nat) :
    f (stateAt step start inputs n) =
      stateAt step' (f start) (fun m => g (inputs m)) n := by
  induction n with
  | zero => rfl
  | succ n ih =>
      have hinv := stateAt_invariant Inv hstart hstep inputs n
      rw [stateAt_succ, hproj _ _ hinv, ih, stateAt_succ]

/-- An invariant that allowed rounds keep and any other round breaks: it holds
before every round exactly if every round is allowed. -/
theorem stateAt_always_iff (step : S → I → S) (Inv : S → Prop)
    (Allowed : S → I → Prop)
    (hkeep : ∀ s i, Inv s → Allowed s i → Inv (step s i))
    (hbreak : ∀ s i, Inv s → ¬ Allowed s i → ¬ Inv (step s i))
    {start : S} (hstart : Inv start) (inputs : Nat → I) :
    (∀ n, Inv (stateAt step start inputs n)) ↔
      ∀ n, Allowed (stateAt step start inputs n) (inputs n) := by
  constructor
  · intro hinv n
    by_contra hnot
    apply hbreak _ _ (hinv n) hnot
    exact hinv (n + 1)
  · intro hallowed n
    induction n with
    | zero => exact hstart
    | succ n ih => exact hkeep _ _ ih (hallowed n)

/-- Two machines that consume the same events keep a relation which every
event keeps. -/
theorem foldl_simulation {step : S → I → S} {step' : T → I → T}
    (R : S → T → Prop)
    (hstep : ∀ s t e, R s t → R (step s e) (step' t e)) (events : List I)
    {start : S} {start' : T} (hstart : R start start') :
    R (events.foldl step start) (events.foldl step' start') := by
  induction events generalizing start start' with
  | nil => exact hstart
  | cons e events ih => exact ih (hstep start start' e hstart)

/-- What no event changes is what it was at the start. -/
theorem foldl_frame {step : S → I → S} (f : S → T)
    (hstep : ∀ s e, f (step s e) = f s) (events : List I) (start : S) :
    f (events.foldl step start) = f start := by
  induction events generalizing start with
  | nil => rfl
  | cons e events ih => rw [List.foldl_cons, ih, hstep]

/-- A property of the events so far that allowed events keep and any other
event breaks: it holds after every part of a list of events exactly if all of
them are allowed where they happen. -/
theorem prefix_always_iff (Inv : List I → Prop) (Allowed : List I → I → Prop)
    (hnil : Inv [])
    (hkeep : ∀ before e, Inv before → Allowed before e → Inv (before ++ [e]))
    (hbreak : ∀ before e, Inv before → ¬ Allowed before e →
      ¬ Inv (before ++ [e])) (events : List I) :
    (∀ before, before <+: events → Inv before) ↔
      ∀ before e, before ++ [e] <+: events → Allowed before e := by
  constructor
  · intro hinv before e hprefix
    by_contra hnot
    have hbefore := hinv before ((List.prefix_append before [e]).trans hprefix)
    exact hbreak before e hbefore hnot (hinv (before ++ [e]) hprefix)
  · intro hallowed before
    induction before using List.reverseRecOn with
    | nil => exact fun _ => hnil
    | append_singleton before e ih =>
        intro hprefix
        apply hkeep before e
        · exact ih ((List.prefix_append before [e]).trans hprefix)
        · exact hallowed before e hprefix

/-- A property of the events so far that an event keeps exactly if it is
allowed, and that never comes back. -/
theorem prefix_iff (Inv : List I → Prop) (Allowed : List I → I → Prop)
    (hnil : Inv [])
    (hstep : ∀ before e, Inv (before ++ [e]) ↔ Inv before ∧ Allowed before e)
    (events : List I) :
    Inv events ↔ ∀ before e, before ++ [e] <+: events → Allowed before e := by
  have hback : ∀ before, before <+: events → Inv events → Inv before := by
    rintro before ⟨after, rfl⟩ hinv
    induction after using List.reverseRecOn with
    | nil => simpa using hinv
    | append_singleton after e ih =>
        rw [← List.append_assoc] at hinv
        exact ih ((hstep _ e).mp hinv).1
  rw [← prefix_always_iff Inv Allowed hnil
    (fun before e hinv hallowed => (hstep before e).mpr ⟨hinv, hallowed⟩)
    (fun before e _ hnot hinv => hnot ((hstep before e).mp hinv).2) events]
  constructor
  · intro hinv before hprefix
    exact hback before hprefix hinv
  · intro hinv
    exact hinv events (List.prefix_refl events)

/-- `prefix_always_iff` for an invariant of the state. -/
theorem foldl_prefix_iff (step : S → I → S) (Inv : S → Prop)
    (Allowed : S → I → Prop)
    (hkeep : ∀ s e, Inv s → Allowed s e → Inv (step s e))
    (hbreak : ∀ s e, Inv s → ¬ Allowed s e → ¬ Inv (step s e))
    (events : List I) (start : S) (hstart : Inv start) :
    (∀ before, before <+: events → Inv (before.foldl step start)) ↔
      ∀ before e, before ++ [e] <+: events →
        Allowed (before.foldl step start) e := by
  apply prefix_always_iff (fun before => Inv (before.foldl step start))
    (fun before e => Allowed (before.foldl step start) e) hstart
  · intro before e hinv hallowed
    rw [List.foldl_concat]
    exact hkeep _ e hinv hallowed
  · intro before e hinv hnot
    rw [List.foldl_concat]
    exact hbreak _ e hinv hnot

/-- A machine that also emits: the state after the events, and all that was
emitted on the way. -/
def emit (step : S → I → S × List T) : S → List I → S × List T
  | s, [] => (s, [])
  | s, e :: events =>
      let (s, out) := step s e
      let (s, rest) := emit step s events
      (s, out ++ rest)

theorem emit_cons (step : S → I → S × List T) (s : S) (e : I)
    (events : List I) : emit step s (e :: events) =
      ((emit step (step s e).1 events).1,
        (step s e).2 ++ (emit step (step s e).1 events).2) := rfl

theorem emit_append (step : S → I → S × List T) (s : S)
    (before after : List I) : emit step s (before ++ after) =
      ((emit step (emit step s before).1 after).1,
        (emit step s before).2 ++
          (emit step (emit step s before).1 after).2) := by
  induction before generalizing s with
  | nil => rfl
  | cons e before ih =>
      rw [List.cons_append, emit_cons, emit_cons, ih]
      simp only [List.append_assoc]

/-- What is emitted does not change where the machine goes. -/
theorem emit_fst (step : S → I → S × List T) (s : S) (events : List I) :
    (emit step s events).1 = events.foldl (fun s e => (step s e).1) s := by
  induction events generalizing s with
  | nil => rfl
  | cons e events ih =>
      rw [emit_cons, List.foldl_cons]
      exact ih (step s e).1

/-- What every event keeps holds after the events. -/
theorem emit_invariant {step : S → I → S × List T} {Inv : S → Prop}
    (hstep : ∀ s e, Inv s → Inv (step s e).1) (events : List I) {start : S}
    (hstart : Inv start) : Inv (emit step start events).1 := by
  induction events generalizing start with
  | nil => exact hstart
  | cons e events ih => exact ih (hstep start e hstart)

/-- An event that leaves the state alone and always emits the same. -/
theorem emit_replicate {step : S → I → S × List T} {s : S} {e : I} {out : T}
    (h : step s e = (s, [out])) (n : Nat) :
    emit step s (List.replicate n e) = (s, List.replicate n out) := by
  induction n with
  | zero => rfl
  | succ n ih =>
      rw [List.replicate_succ, List.replicate_succ, emit_cons, h, ih]
      rfl

/-- An event that leaves the state alone and emits nothing. -/
theorem emit_replicate_silent {step : S → I → S × List T} {s : S} {e : I}
    (h : step s e = (s, [])) (n : Nat) :
    emit step s (List.replicate n e) = (s, []) := by
  induction n with
  | zero => rfl
  | succ n ih =>
      rw [List.replicate_succ, emit_cons, h, ih]
      rfl

/-- Among the events so far there is one that marks, and none since then that
resets. -/
inductive Since (mark reset : List I → I → Prop) : List I → Prop
  | marks {before : List I} {e : I} (h : mark before e) :
      Since mark reset (before ++ [e])
  | keeps {before : List I} {e : I} (h : Since mark reset before)
      (hreset : ¬ reset before e) : Since mark reset (before ++ [e])

theorem not_since_nil {mark reset : List I → I → Prop} :
    ¬ Since mark reset [] := by
  intro h
  generalize heq : ([] : List I) = events at h
  cases h with
  | marks => simp at heq
  | keeps => simp at heq

theorem since_append {mark reset : List I → I → Prop} {before : List I}
    {e : I} : Since mark reset (before ++ [e]) ↔
      mark before e ∨ (Since mark reset before ∧ ¬ reset before e) := by
  constructor
  · intro h
    generalize heq : before ++ [e] = events at h
    cases h with
    | marks h =>
        rcases List.append_inj' heq rfl with ⟨rfl, he⟩
        rw [List.cons.injEq] at he
        rw [he.1]
        exact Or.inl h
    | keeps h hreset =>
        rcases List.append_inj' heq rfl with ⟨rfl, he⟩
        rw [List.cons.injEq] at he
        rw [he.1]
        exact Or.inr ⟨h, hreset⟩
  · rintro (h | ⟨h, hreset⟩)
    · exact Since.marks h
    · exact Since.keeps h hreset

/-- The last of the events after `e`, taken off. -/
theorem append_cons_concat (before : List I) (e : I) (after : List I)
    (last : I) : before ++ e :: (after ++ [last]) =
      before ++ e :: after ++ [last] := by
  rw [List.append_assoc, List.cons_append]

/-- A mark stays while no later event resets. -/
theorem since_of_mark {mark reset : List I → I → Prop} {before : List I} {e : I}
    (h : mark before e) {after : List I}
    (hreset : ∀ passed later, later ∈ after → ¬ reset passed later) :
    Since mark reset (before ++ e :: after) := by
  induction after using List.reverseRecOn with
  | nil => exact Since.marks h
  | append_singleton after last ih =>
      rw [append_cons_concat]
      apply Since.keeps
      · exact ih fun passed later hlater =>
          hreset passed later (List.mem_append_left _ hlater)
      · exact hreset _ last (by simp)

theorem mem_iff_prefix {events : List I} {e : I} :
    e ∈ events ↔ ∃ before, before ++ [e] <+: events := by
  constructor
  · intro hmem
    obtain ⟨before, after, rfl⟩ := List.append_of_mem hmem
    exact ⟨before, after, by simp⟩
  · rintro ⟨before, after, rfl⟩
    simp

end Runs
