/-
What a run puts out, what one component sees of it, machines that take items in,
let them wait and give them out again, and what some run can reach.
-/
import Mathlib.Data.List.Perm.Basic
import ZbLightbulb.Lib.Runs

namespace Runs

universe u v w

variable {S : Type u} {I : Type v} {A : Type w}

/-- All that `out` says over a run. -/
def outputs (step : S → I → S) (out : S → I → List A) (s : S)
    (inputs : List I) : List A :=
  (emit (fun s i => (step s i, out s i)) s inputs).2

section Over

variable (step : S → I → S) (out : S → I → List A) (s : S)

@[simp] theorem outputs_nil : outputs step out s [] = [] := rfl

theorem outputs_cons (i : I) (inputs : List I) :
    outputs step out s (i :: inputs) =
      out s i ++ outputs step out (step s i) inputs := rfl

theorem outputs_append (before after : List I) :
    outputs step out s (before ++ after) =
      outputs step out s before ++
        outputs step out (before.foldl step s) after := by
  simp only [outputs, emit_append, emit_fst]

theorem outputs_concat (before : List I) (i : I) :
    outputs step out s (before ++ [i]) =
      outputs step out s before ++ out (before.foldl step s) i := by
  rw [outputs_append, outputs_cons, outputs_nil, List.append_nil]

theorem map_outputs {B : Type*} (f : A → B) (inputs : List I) :
    (outputs step out s inputs).map f =
      outputs step (fun s i => (out s i).map f) s inputs := by
  induction inputs generalizing s with
  | nil => rfl
  | cons i inputs ih => rw [outputs_cons, List.map_append, ih, outputs_cons]

theorem filterMap_outputs {B : Type*} (f : A → Option B) (inputs : List I) :
    (outputs step out s inputs).filterMap f =
      outputs step (fun s i => (out s i).filterMap f) s inputs := by
  induction inputs generalizing s with
  | nil => rfl
  | cons i inputs ih =>
      rw [outputs_cons, List.filterMap_append, ih, outputs_cons]

theorem countP_outputs_append (out' : S → I → List A) (p : A → Bool)
    (inputs : List I) :
    (outputs step (fun s i => out s i ++ out' s i) s inputs).countP p =
      (outputs step out s inputs).countP p +
        (outputs step out' s inputs).countP p := by
  induction inputs generalizing s with
  | nil => rfl
  | cons i inputs ih =>
      simp only [outputs_cons, List.countP_append, ih]
      omega

end Over

/-- A component that sees some inputs of its own in each step of the whole
runs on these. -/
theorem foldl_project {T J : Type*} {step : S → I → S} {step' : T → J → T}
    {f : S → T} {sees : S → I → List J}
    (h : ∀ s i, f (step s i) = (sees s i).foldl step' (f s)) (s : S)
    (inputs : List I) :
    f (inputs.foldl step s) =
      (outputs step sees s inputs).foldl step' (f s) := by
  induction inputs generalizing s with
  | nil => rfl
  | cons i inputs ih =>
      rw [List.foldl_cons, ih, h, outputs_cons, List.foldl_append]

/-- What of a run comes from the component is what the component puts out. -/
theorem filterMap_outputs_project {T J B : Type*} {step : S → I → S}
    {step' : T → J → T} {f : S → T} {sees : S → I → List J}
    {out : S → I → List A} {out' : T → J → List B} (g : A → Option B)
    (hstep : ∀ s i, f (step s i) = (sees s i).foldl step' (f s))
    (hout : ∀ s i, (out s i).filterMap g = outputs step' out' (f s) (sees s i))
    (s : S) (inputs : List I) : (outputs step out s inputs).filterMap g =
      outputs step' out' (f s) (outputs step sees s inputs) := by
  induction inputs generalizing s with
  | nil => rfl
  | cons i inputs ih =>
      rw [outputs_cons, List.filterMap_append, hout, ih, hstep, outputs_cons,
        outputs_append]

/-- Whether the steps of a run are allowed, one after the other. -/
theorem allowed_nil (Allowed : S → I → Prop) {step : S → I → S} {s : S} :
    ∀ before i, before ++ [i] <+: ([] : List I) →
      Allowed (before.foldl step s) i := by
  intro before i hbefore
  simp at hbefore

theorem allowed_cons (Allowed : S → I → Prop) {step : S → I → S} {s : S}
    {first : I} {inputs : List I} (hfirst : Allowed s first)
    (hrest : ∀ before i, before ++ [i] <+: inputs →
      Allowed (before.foldl step (step s first)) i) :
    ∀ before i, before ++ [i] <+: first :: inputs →
      Allowed (before.foldl step s) i := by
  intro before i hbefore
  cases before with
  | nil =>
      obtain ⟨rfl, -⟩ := List.cons_prefix_cons.mp hbefore
      exact hfirst
  | cons passed before =>
      obtain ⟨rfl, htail⟩ := List.cons_prefix_cons.mp hbefore
      exact hrest before i htail

section Refinement

variable {T J B : Type*} {step : S → I → S} {step' : T → J → T}
  (sees : S → I → List J) (Allowed : S → I → Prop) (R : S → T → Prop)

/-- A machine that runs on what another puts out keeps a relation to it which
every allowed step keeps. -/
theorem outputs_refine
    (hstep : ∀ s t i, R s t → Allowed s i →
      R (step s i) ((sees s i).foldl step' t))
    {start : S} {start' : T} (hstart : R start start') {inputs : List I}
    (hallowed : ∀ before i, before ++ [i] <+: inputs →
      Allowed (before.foldl step start) i) :
    R (inputs.foldl step start)
      ((outputs step sees start inputs).foldl step' start') := by
  induction inputs using List.reverseRecOn with
  | nil => exact hstart
  | append_singleton before i ih =>
      rw [List.foldl_concat, outputs_concat, List.foldl_append]
      apply hstep
      · exact ih fun passed later hpre =>
          hallowed passed later (hpre.trans (List.prefix_append _ _))
      · exact hallowed before i (List.prefix_refl _)

/-- And both put out the same. -/
theorem outputs_refine_outputs {out : S → I → List B} {out' : T → J → List B}
    (hstep : ∀ s t i, R s t → Allowed s i →
      R (step s i) ((sees s i).foldl step' t))
    (hout : ∀ s t i, R s t → Allowed s i →
      out s i = outputs step' out' t (sees s i))
    {start : S} {start' : T} (hstart : R start start') {inputs : List I}
    (hallowed : ∀ before i, before ++ [i] <+: inputs →
      Allowed (before.foldl step start) i) :
    outputs step out start inputs =
      outputs step' out' start' (outputs step sees start inputs) := by
  induction inputs using List.reverseRecOn with
  | nil => rfl
  | append_singleton before i ih =>
      have hbefore : ∀ passed later, passed ++ [later] <+: before →
          Allowed (passed.foldl step start) later := fun passed later hpre =>
        hallowed passed later (hpre.trans (List.prefix_append _ _))
      have hrel := outputs_refine sees Allowed R hstep hstart hbefore
      rw [outputs_concat, outputs_concat, outputs_append, ih hbefore,
        hout _ _ i hrel (hallowed before i (List.prefix_refl _))]

end Refinement

/-- A machine that runs on what another puts out keeps a relation to it, in
which it counts whether anything has been marked and not been reset since. -/
theorem outputs_simulation {T J : Type*} {step : S → I → S}
    (sees : S → I → List J) (step' : T → J → T) (mark reset : S → I → Prop)
    (R : Prop → S → T → Prop)
    (hstep : ∀ marked s t i, R marked s t →
      R (mark s i ∨ (marked ∧ ¬ reset s i)) (step s i)
        ((sees s i).foldl step' t))
    (start : S) (start' : T) (hstart : R False start start')
    (inputs : List I) :
    R (Since (fun before i => mark (before.foldl step start) i)
        (fun before i => reset (before.foldl step start) i) inputs)
      (inputs.foldl step start)
      ((outputs step sees start inputs).foldl step' start') := by
  induction inputs using List.reverseRecOn with
  | nil =>
      rw [eq_false not_since_nil]
      exact hstart
  | append_singleton before i ih =>
      rw [propext since_append, List.foldl_concat, outputs_concat,
        List.foldl_append]
      exact hstep _ _ _ i ih

/-- The same of one machine. -/
theorem since_invariant {step : S → I → S} (mark reset : S → I → Prop)
    (Inv : Prop → S → Prop)
    (hstep : ∀ marked s i, Inv marked s →
      Inv (mark s i ∨ (marked ∧ ¬ reset s i)) (step s i))
    (start : S) (hstart : Inv False start) (inputs : List I) :
    Inv (Since (fun before i => mark (before.foldl step start) i)
        (fun before i => reset (before.foldl step start) i) inputs)
      (inputs.foldl step start) :=
  outputs_simulation (fun _ _ => ([] : List Unit)) (fun t _ => t) mark reset
    (fun marked s (_ : Unit) => Inv marked s) (fun marked s _ => hstep marked s)
    start () hstart inputs

/-- A relation between the state, what has been counted and what has been put
out, of which every allowed step counts some and puts out some more of the
same. -/
theorem outputs_counted {B : Type*} {step : S → I → S} {counts : S → I → List B}
    {out : S → I → List A} {a : A} (P : Nat → Nat → S → Prop)
    (Allowed : S → I → Prop)
    (hstep : ∀ k c s i, P k c s → Allowed s i →
      ∃ more, P (k + (counts s i).length) (c + more) (step s i) ∧
        out s i = List.replicate more a)
    {k c : Nat} {s : S} (h : P k c s) {inputs : List I}
    (hallowed : ∀ passed i, passed ++ [i] <+: inputs →
      Allowed (passed.foldl step s) i) :
    ∃ more, P (k + (outputs step counts s inputs).length) (c + more)
        (inputs.foldl step s) ∧
      outputs step out s inputs = List.replicate more a := by
  induction inputs generalizing k c s with
  | nil => exact ⟨0, h, rfl⟩
  | cons i inputs ih =>
      obtain ⟨first, hfirst, hout⟩ := hstep k c s i h (hallowed [] i (by simp))
      obtain ⟨rest, hrest, hover⟩ := ih hfirst fun passed later hpre =>
        hallowed (i :: passed) later (List.cons_prefix_cons.mpr ⟨rfl, hpre⟩)
      refine ⟨first + rest, ?_, ?_⟩
      · rw [outputs_cons, List.length_append, List.foldl_cons, ← Nat.add_assoc,
          ← Nat.add_assoc]
        exact hrest
      · rw [outputs_cons, hout, hover, List.replicate_append_replicate]

/-- What is taken out at an index, if anything, and what is left. -/
theorem eraseIdx_perm (items : List A) (index : Nat) :
    items.Perm (items[index]?.toList ++ items.eraseIdx index) := by
  cases hget : items[index]? with
  | none =>
      rw [List.eraseIdx_of_length_le (List.getElem?_eq_none_iff.mp hget)]
      exact List.Perm.refl _
  | some item =>
      obtain ⟨hlt, rfl⟩ := List.getElem?_eq_some_iff.mp hget
      exact (List.getElem_cons_eraseIdx_perm hlt).symm

/-- In every step, what waits and what comes in is what goes out and what waits
afterwards. -/
def Conserves (step : S → I → S) (waiting : S → List A)
    (comesIn goesOut : S → I → List A) : Prop :=
  ∀ s i, (waiting s ++ comesIn s i).Perm (goesOut s i ++ waiting (step s i))

/-- Over a run nothing is lost and nothing is given out twice. -/
theorem Conserves.run {step : S → I → S} {waiting : S → List A}
    {comesIn goesOut : S → I → List A}
    (h : Conserves step waiting comesIn goesOut) (s : S) (inputs : List I) :
    (waiting s ++ outputs step comesIn s inputs).Perm
      (outputs step goesOut s inputs ++ waiting (inputs.foldl step s)) := by
  induction inputs generalizing s with
  | nil => exact List.perm_append_comm
  | cons i inputs ih =>
      rw [outputs_cons, outputs_cons, List.foldl_cons, ← List.append_assoc,
        List.append_assoc (goesOut s i)]
      have hstep := (h s i).append_right
        (outputs step comesIn (step s i) inputs)
      rw [List.append_assoc (goesOut s i)] at hstep
      exact hstep.trans ((ih (step s i)).append_left (goesOut s i))

/-- The same of a machine that reads one input a round, before round `n`. -/
theorem Conserves.stateAt {step : S → I → S} {waiting : S → List A}
    {comesIn goesOut : S → I → List A}
    (h : Conserves step waiting comesIn goesOut) (s : S) (inputs : Nat → I)
    (n : Nat) :
    (waiting s ++ (List.range n).flatMap fun m =>
        comesIn (Runs.stateAt step s inputs m) (inputs m)).Perm
      (((List.range n).flatMap fun m =>
          goesOut (Runs.stateAt step s inputs m) (inputs m)) ++
        waiting (Runs.stateAt step s inputs n)) := by
  induction n with
  | zero => exact List.perm_append_comm
  | succ n ih =>
      simp only [List.range_succ, List.flatMap_append, List.flatMap_singleton]
      rw [← List.append_assoc, List.append_assoc _ (goesOut _ _)]
      refine (ih.append_right _).trans ?_
      rw [List.append_assoc]
      exact (h (Runs.stateAt step s inputs n) (inputs n)).append_left _

/-! ### What can be reached -/

/-- Some allowed inputs take the machine to a state with the property. -/
def CanReach (step : S → I → S) (Allowed : I → Prop) (s : S) (P : S → Prop) :
    Prop :=
  ∃ inputs : List I, (∀ i ∈ inputs, Allowed i) ∧ P (inputs.foldl step s)

section CanReach

variable {step : S → I → S} {Allowed : I → Prop} {s : S} {P Q : S → Prop}

theorem CanReach.now (h : P s) : CanReach step Allowed s P :=
  ⟨[], fun _ hmem => absurd hmem List.not_mem_nil, h⟩

theorem CanReach.after {i : I} (hi : Allowed i)
    (h : CanReach step Allowed (step s i) P) : CanReach step Allowed s P := by
  obtain ⟨inputs, hinputs, hP⟩ := h
  exact ⟨i :: inputs, List.forall_mem_cons.mpr ⟨hi, hinputs⟩, hP⟩

theorem CanReach.trans (h : CanReach step Allowed s P)
    (hnext : ∀ s', P s' → CanReach step Allowed s' Q) :
    CanReach step Allowed s Q := by
  obtain ⟨first, hfirst, hP⟩ := h
  obtain ⟨rest, hrest, hQ⟩ := hnext _ hP
  refine ⟨first ++ rest, List.forall_mem_append.mpr ⟨hfirst, hrest⟩, ?_⟩
  rw [List.foldl_append]
  exact hQ

/-- What allowed inputs keep holds where they lead. -/
theorem CanReach.keeps {Inv : S → Prop}
    (hkeep : ∀ s i, Inv s → Allowed i → Inv (step s i)) (hs : Inv s)
    (h : CanReach step Allowed s P) :
    CanReach step Allowed s fun s' => P s' ∧ Inv s' := by
  obtain ⟨inputs, hinputs, hP⟩ := h
  refine ⟨inputs, hinputs, hP, ?_⟩
  exact List.foldlRecOn inputs step hs fun s' hs' i hi =>
    hkeep s' i hs' (hinputs i hi)

end CanReach

end Runs
