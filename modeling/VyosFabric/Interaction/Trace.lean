import Mathlib.Data.List.Induction

/-!
# Labelled traces

`Trace step s tr s'`: the actions of the list `tr`, taken one after the other, lead from `s` to
`s'`. A trace can be cut anywhere (`trace_append`). Properties of the state reached, and of the way
there, are proved from the end, where the last action meets the state it was taken in
(`Trace.from_end`).
-/

namespace Interaction

variable {σ A : Type}

/-- The actions of a list, taken one after the other. -/
inductive Trace (step : σ → A → σ → Prop) : σ → List A → σ → Prop
  | nil (s : σ) : Trace step s [] s
  | cons {s m s' : σ} {a : A} {tr : List A} :
      step s a m → Trace step m tr s' → Trace step s (a :: tr) s'

variable {step : σ → A → σ → Prop} {s s' : σ} {a : A} {tr tr₁ tr₂ : List A}

@[simp] theorem trace_nil : Trace step s [] s' ↔ s' = s := by
  constructor
  · intro h
    cases h
    rfl
  · rintro rfl
    exact Trace.nil _

theorem trace_cons :
    Trace step s (a :: tr) s' ↔ ∃ m, step s a m ∧ Trace step m tr s' := by
  constructor
  · intro h
    cases h with
    | cons ha htr => exact ⟨_, ha, htr⟩
  · rintro ⟨m, ha, htr⟩
    exact Trace.cons ha htr

/-- **A trace can be cut anywhere.** -/
theorem trace_append :
    Trace step s (tr₁ ++ tr₂) s' ↔ ∃ m, Trace step s tr₁ m ∧ Trace step m tr₂ s' := by
  induction tr₁ generalizing s with
  | nil => simp
  | cons b tr₁ ih =>
    rw [List.cons_append, trace_cons]
    constructor
    · rintro ⟨m, hb, hrest⟩
      obtain ⟨n, hn, htr₂⟩ := ih.1 hrest
      exact ⟨n, Trace.cons hb hn, htr₂⟩
    · rintro ⟨n, hn, htr₂⟩
      obtain ⟨m, hb, hrest⟩ := trace_cons.1 hn
      exact ⟨m, hb, ih.2 ⟨n, hrest, htr₂⟩⟩

/-- The last action of a trace. -/
theorem trace_snoc :
    Trace step s (tr ++ [a]) s' ↔ ∃ m, Trace step s tr m ∧ step m a s' := by
  rw [trace_append]
  constructor
  · rintro ⟨m, htr, ha⟩
    obtain ⟨n, hn, hnil⟩ := trace_cons.1 ha
    obtain rfl := trace_nil.1 hnil
    exact ⟨m, htr, hn⟩
  · rintro ⟨m, htr, ha⟩
    exact ⟨m, htr, Trace.cons ha (Trace.nil _)⟩

/-- **Induction from the end.** -/
theorem Trace.from_end {P : List A → σ → Prop} (h : Trace step s tr s') (hnil : P [] s)
    (hsnoc : ∀ tr m a m', Trace step s tr m → step m a m' → P tr m → P (tr ++ [a]) m') :
    P tr s' := by
  induction tr using List.reverseRecOn generalizing s' with
  | nil =>
    obtain rfl := trace_nil.1 h
    exact hnil
  | append_singleton tr a ih =>
    obtain ⟨m, htr, ha⟩ := trace_snoc.1 h
    exact hsnoc tr m a s' htr ha (ih htr)

/-- **Invariants.** What every action of the list preserves, the trace preserves. -/
theorem Trace.invariant {P : σ → Prop} (h : Trace step s tr s')
    (hstep : ∀ a ∈ tr, ∀ m m', step m a m' → P m → P m') (hs : P s) : P s' := by
  induction h with
  | nil => exact hs
  | cons ha _ ih =>
    exact ih (fun b hb ↦ hstep b (List.mem_cons_of_mem _ hb)) (hstep _ List.mem_cons_self _ _ ha hs)

end Interaction
