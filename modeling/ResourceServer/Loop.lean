/-
Loops as repeated steps.

A step either moves on to another state or stops with a result. `Loop.run` repeats it a bounded number of times, and
`Loop.Reaches` relates a start to every state that the repetition passes.
- `Reaches.keeps`: what a step keeps holds of every state that a loop passes.
- `exists_reaches_of_run`: a run stops at one of these states.
- `run_of_measure`: a loop whose steps keep an invariant and make a measure smaller comes to an end within its bound,
  and it ends at a state that keeps the invariant.
-/
namespace ResourceServer.Loop

variable {σ ρ : Type}

/-- repeats the step until it stops, at most `fuel` times -/
def run (step : σ → σ ⊕ ρ) : Nat → σ → Option ρ
  | 0, _ => none
  | fuel + 1, s =>
    match step s with
    | .inl s' => run step fuel s'
    | .inr r => some r

/-- the states that repeating the step passes, the start included -/
inductive Reaches (step : σ → σ ⊕ ρ) (s : σ) : σ → Prop where
  | start : Reaches step s s
  | next {t u : σ} : Reaches step s t → step t = .inl u → Reaches step s u

/-! ## Rules -/

variable {step : σ → σ ⊕ ρ}

/-- **What a step keeps holds of every state passed**, if it holds at the start -/
theorem Reaches.keeps (Inv : σ → Prop) (hstep : ∀ s t, Inv s → step s = .inl t → Inv t) {s t : σ}
    (h : Reaches step s t) (hs : Inv s) : Inv t := by
  induction h with
  | start => exact hs
  | next _ ht ih => exact hstep _ _ ih ht

/-- what is passed from the next state on is passed from this one on -/
theorem Reaches.cons {s t u : σ} (ht : step s = .inl t) (h : Reaches step t u) : Reaches step s u := by
  induction h with
  | start => exact .next .start ht
  | next _ hu ih => exact .next ih hu

/-- a run stops at a state that it passes -/
theorem exists_reaches_of_run {fuel : Nat} {s : σ} {r : ρ} (h : run step fuel s = some r) :
    ∃ t, Reaches step s t ∧ step t = .inr r := by
  induction fuel generalizing s with
  | zero => cases h
  | succ fuel ih =>
    rw [run] at h
    cases hs : step s with
    | inl s' =>
      rw [hs] at h
      obtain ⟨t, ht, hr⟩ := ih h
      exact ⟨t, ht.cons hs, hr⟩
    | inr r' =>
      rw [hs] at h
      cases h
      exact ⟨s, .start, hs⟩

/-- **A loop with a measure ends.** With more fuel than the measure at the start, the run gives the result of a state
that keeps the invariant. -/
theorem run_of_measure (Inv : σ → Prop) (size : σ → Nat)
    (hstep : ∀ s t, Inv s → step s = .inl t → Inv t ∧ size t < size s) (fuel : Nat) (s : σ) (h : Inv s)
    (hf : size s < fuel) : ∃ t r, Inv t ∧ step t = .inr r ∧ run step fuel s = some r := by
  induction fuel generalizing s with
  | zero => omega
  | succ fuel ih =>
    simp only [run]
    cases hs : step s with
    | inl t =>
      obtain ⟨ht, hlt⟩ := hstep s t h hs
      exact ih t ht (by omega)
    | inr r => exact ⟨s, r, h, hs, rfl⟩

end ResourceServer.Loop
