import VyosFabric.Interaction.Contracts
import VyosFabric.Interaction.Trace

/-!
# Programs that do not look behind a mask

A mask rewrites replies. `Alike mask m p p'`: whatever `p` is answered, `p'` goes the same way when
it is answered by the masked replies, and returns what `m` makes of the value `p` returns. A program
whose statements the mask leaves alone is alike itself (`Issues.alike`), and sequences are taken
apart (`Alike.bind`), so a handler is alike itself if what it reads through the mask only reaches
its value.

`Trace.simulation` carries a trace over to another system, step by step, with some of its actions
left out.
-/

namespace Interaction

namespace Prog

variable {E : Type} {R : E → Type} {ε α α' β β' : Type}

/-- The programs go the same way, one answered by replies and the other by the masked ones. -/
inductive Alike (mask : (e : E) → R e → R e) (m : α → α') :
    Prog E R ε α → Prog E R ε α' → Prop
  | ret (a : α) : Alike mask m (.ret a) (.ret (m a))
  | fail (err : ε) : Alike mask m (.fail err) (.fail err)
  | call (e : E) {k : R e → Prog E R ε α} {k' : R e → Prog E R ε α'} :
      (∀ v, Alike mask m (k v) (k' (mask e v))) → Alike mask m (.call e k) (.call e k')

variable {mask : (e : E) → R e → R e} {m : α → α'} {n : β → β'}

/-- **Sequencing.** -/
theorem Alike.bind {p : Prog E R ε α} {p' : Prog E R ε α'} {f : α → Prog E R ε β}
    {f' : α' → Prog E R ε β'} (hp : Alike mask m p p')
    (hf : ∀ a, Alike mask n (f a) (f' (m a))) : Alike mask n (p.bind f) (p'.bind f') := by
  induction hp with
  | ret a => exact hf a
  | fail err => exact .fail err
  | call e _ ih => exact .call e ih

/-- A program whose statements the mask leaves alone. -/
theorem Issues.alike {p : Prog E R ε α} (hp : p.Issues fun e ↦ ∀ v, mask e v = v) :
    Alike mask id p p := by
  induction p with
  | ret a => exact .ret a
  | fail err => exact .fail err
  | call e k ih =>
    refine .call e fun v ↦ ?_
    rw [hp.1 v]
    exact ih v (hp.2 v)

/-- Programs that are alike issue the same statements. -/
theorem Alike.of_call {e : E} {k : R e → Prog E R ε α} {p' : Prog E R ε α'}
    (h : Alike mask m (.call e k) p') :
    ∃ k', p' = .call e k' ∧ ∀ v, Alike mask m (k v) (k' (mask e v)) := by
  cases h with
  | call _ hk => exact ⟨_, rfl, hk⟩

/-- And come to the same end. -/
theorem Alike.outcome {p : Prog E R ε α} {p' : Prog E R ε α'} (h : Alike mask m p p') :
    p'.outcome = p.outcome.map (Except.map m) := by
  cases h <;> rfl

end Prog

section Simulation

variable {σ τ A B : Type} {step : σ → A → σ → Prop} {step' : τ → B → τ → Prop}
  {R R' : σ → τ → Prop}

/-- The other system keeps up with a step that led to `m`, by an action of its own or by none. -/
def KeepsUp (step' : τ → B → τ → Prop) (R : σ → τ → Prop) (m : σ) (t : τ) : Option B → Prop
  | some b => ∃ n, step' t b n ∧ R m n
  | none => R m t

theorem KeepsUp.mono {m : σ} {t : τ} {o : Option B} (h : KeepsUp step' R m t o)
    (hR : ∀ n, R m n → R' m n) : KeepsUp step' R' m t o := by
  cases o with
  | none => exact hR t h
  | some b =>
    obtain ⟨n, hn, hmn⟩ := h
    exact ⟨n, hn, hR n hmn⟩

/-- **Simulation of traces.** A system that keeps up with every step keeps up with a trace. -/
theorem Trace.simulation {f : A → Option B}
    (hstep : ∀ s a m t, step s a m → R s t → KeepsUp step' R m t (f a))
    {s s' : σ} {t : τ} {acts : List A} (h : Trace step s acts s') (hrel : R s t) :
    ∃ t', Trace step' t (acts.filterMap f) t' ∧ R s' t' := by
  induction h generalizing t with
  | nil s => exact ⟨t, Trace.nil t, hrel⟩
  | @cons s m s' a acts ha _ ih =>
    have hone := hstep s a m t ha hrel
    rw [List.filterMap_cons]
    cases hf : f a with
    | none =>
      rw [hf] at hone
      exact ih hone
    | some b =>
      rw [hf] at hone
      obtain ⟨n, hn, hmn⟩ := hone
      obtain ⟨t', ht', hrel'⟩ := ih hmn
      exact ⟨t', Trace.cons hn ht', hrel'⟩

end Simulation

end Interaction
