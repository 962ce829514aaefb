import Mathlib

/-! # Runs of a step relation

A run starts in one of the start states and takes one labelled step after
another.  `Run step start h s` says that some run reaches `s` after the events
`h`, the newest first.  The history is part of the judgement, so that an
invariant can speak about everything that happened, and two runs can be glued
at the state where the second one starts.

Where each step has a cost, a potential bounds what a run costs (`Run.total_le`).
The runs whose every step meets a condition are the runs of the step relation
with that condition added (`Guarded`, `Within`).
-/

namespace ShapingRouter.Library

variable {σ ε : Type}

/-- `Run step start h s`: a run from a `start` state reaches `s`, and `h` is
what happened on the way, the newest event first. -/
inductive Run (step : σ → ε → σ → Prop) (start : σ → Prop) : List ε → σ → Prop
  | start {s : σ} : start s → Run step start [] s
  | step {h : List ε} {s s' : σ} {e : ε} :
      Run step start h s → step s e s' → Run step start (e :: h) s'

/-- The step relation `step` with a condition on the state and the event. -/
def Guarded (step : σ → ε → σ → Prop) (guard : σ → ε → Prop) (s : σ) (e : ε) (s' : σ) : Prop :=
  step s e s' ∧ guard s e

/-- The step relation `step`, kept inside the states that satisfy `good`. -/
def Within (step : σ → ε → σ → Prop) (good : σ → Prop) (s : σ) (e : ε) (s' : σ) : Prop :=
  step s e s' ∧ good s'

namespace Run

variable {step step' : σ → ε → σ → Prop} {start : σ → Prop}

/-- **The induction every invariant goes through**: what holds at the start and
is kept by each step holds of every history and state a run reaches. -/
theorem invariant {I : List ε → σ → Prop} (hstart : ∀ s, start s → I [] s)
    (hstep : ∀ h s e s', Run step start h s → I h s → step s e s' → I (e :: h) s')
    {h : List ε} {s : σ} (run : Run step start h s) : I h s := by
  induction run with
  | start hs => exact hstart _ hs
  | step run hs ih => exact hstep _ _ _ _ run ih hs

/-- The steps of a run may be weakened. -/
theorem mono (himp : ∀ s e s', step s e s' → step' s e s') {h : List ε} {s : σ}
    (run : Run step start h s) : Run step' start h s := by
  induction run with
  | start hs => exact .start hs
  | step _ hs ih => exact .step ih (himp _ _ _ hs)

theorem of_guarded {guard : σ → ε → Prop} {h : List ε} {s : σ}
    (run : Run (Guarded step guard) start h s) : Run step start h s :=
  run.mono fun _ _ _ hs => hs.1

theorem of_within {good : σ → Prop} {h : List ε} {s : σ}
    (run : Run (Within step good) start h s) : Run step start h s :=
  run.mono fun _ _ _ hs => hs.1

/-- **A run continues**: a run from `s` goes on from a run that reached `s`. -/
theorem trans {h h' : List ε} {s s' : σ} (run : Run step start h s)
    (next : Run step (· = s) h' s') : Run step start (h' ++ h) s' := by
  induction next with
  | start hs => subst hs; exact run
  | step _ hs ih => exact .step ih hs

/-- **What a potential pays for**: if no step costs more than the potential falls by,
then no run does. -/
theorem total_le {M : Type} [AddCommMonoid M] [PartialOrder M] [IsOrderedAddMonoid M]
    (φ : σ → M) (cost : ε → M) (hstep : ∀ s e s', step s e s' → cost e + φ s' ≤ φ s)
    {h : List ε} {s s' : σ} (run : Run step (· = s) h s') : (h.map cost).sum + φ s' ≤ φ s := by
  induction run with
  | start hs =>
    subst hs
    simp
  | @step h s₁ s₂ e run hs ih =>
    calc ((e :: h).map cost).sum + φ s₂ = (h.map cost).sum + (cost e + φ s₂) := by
          rw [List.map_cons, List.sum_cons, add_comm (cost e), add_assoc]
      _ ≤ (h.map cost).sum + φ s₁ := add_le_add_right (hstep _ _ _ hs) _
      _ ≤ φ s := ih

/-- **A replayed list of events is a run**, with the events as its history. -/
theorem of_replay (f : σ → ε → Option σ) (hf : ∀ s e s', f s e = some s' → step s e s')
    (es : List ε) {s s' : σ} (hs : start s) (h : es.foldlM f s = some s') :
    Run step start es.reverse s' := by
  suffices key : ∀ (es : List ε) (h : List ε) (s : σ), Run step start h s →
      es.foldlM f s = some s' → Run step start (es.reverse ++ h) s' by
    simpa using key es [] s (.start hs) h
  intro es
  induction es with
  | nil =>
    intro h s run hr
    obtain rfl := Option.some.inj hr
    exact run
  | cons e es ih =>
    intro h s run hr
    obtain ⟨s₁, hs₁, hr⟩ := Option.bind_eq_some_iff.mp hr
    simpa using ih (e :: h) s₁ (.step run (hf s e s₁ hs₁)) hr

/-- **When a condition is exactly what keeps a run good.**  If from good states
a step leads to a good state if and only if it meets `guard`, then the runs that
stay good are the runs whose every step meets `guard`.  The inductive fact `I`
is what every run is known to keep, good or not. -/
theorem within_iff_guarded {good : σ → Prop} {guard : σ → ε → Prop} {I : List ε → σ → Prop}
    (hI : ∀ {h s}, Run step start h s → I h s) (hstart : ∀ s, start s → good s)
    (hstep : ∀ h s e s', I h s → good s → step s e s' → (good s' ↔ guard s e))
    {h : List ε} {s : σ} :
    Run (Within step good) start h s ↔ Run (Guarded step guard) start h s := by
  constructor
  · intro run
    suffices key : Run (Guarded step guard) start h s ∧ good s from key.1
    induction run with
    | start hs => exact ⟨.start hs, hstart _ hs⟩
    | step run hs ih =>
      have hg := (hstep _ _ _ _ (hI run.of_within) ih.2 hs.1).mp hs.2
      exact ⟨.step ih.1 ⟨hs.1, hg⟩, hs.2⟩
  · intro run
    suffices key : Run (Within step good) start h s ∧ good s from key.1
    induction run with
    | start hs => exact ⟨.start hs, hstart _ hs⟩
    | step run hs ih =>
      have hg := (hstep _ _ _ _ (hI run.of_guarded) ih.2 hs.1).mpr hs.2
      exact ⟨.step ih.1 ⟨hs.1, hg⟩, hg⟩

end Run
end ShapingRouter.Library
