import VyosFabric.Interaction.Pool

/-!
# What a program does as long as it is answered properly

`p.Meets adm P Q`: as long as every reply is one that `adm` admits, the program issues statements
of `P` only, and if it returns, a value of `Q`. Programs are sequenced by handing `Q` on
(`Meets.bind`), and a history shows the contract at every exchange whose predecessors were admitted
(`Meets.at`). Read from the other end, a statement outside `P` has a reply outside `adm` before it
(`Meets.exists_before`): with `adm` for "not a permission" this says that nothing happens without
one.

Over a shared state the replies come from the state. If an invariant makes all of them admitted, and
the statements of `P` keep the invariant, every run of programs with the contract stays inside it
(`Run.meets`).

`embed` runs a program over one kind of statements as one over a larger kind.
-/

namespace Interaction

namespace Prog

variable {E E' : Type} {R : E → Type} {R' : E' → Type} {ε α β : Type}

/-- While the replies are admitted, the program issues `P` and returns `Q`. -/
def Meets (adm : (e : E) → R e → Prop) (P : E → Prop) (Q : α → Prop) : Prog E R ε α → Prop
  | ret a => Q a
  | fail _ => True
  | call e k => P e ∧ ∀ v, adm e v → (k v).Meets adm P Q

variable {adm : (e : E) → R e → Prop} {P : E → Prop} {Q : α → Prop}

/-- **Sequencing.** -/
theorem Meets.bind {Q' : β → Prop} {p : Prog E R ε α} {f : α → Prog E R ε β}
    (hp : p.Meets adm P Q) (hf : ∀ a, Q a → (f a).Meets adm P Q') :
    (p.bind f).Meets adm P Q' := by
  induction p with
  | ret a => exact hf a hp
  | fail err => trivial
  | call e k ih => exact ⟨hp.1, fun v hv ↦ ih v (hp.2 v hv)⟩

theorem Meets.mono {P' : E → Prop} {Q' : α → Prop} (hP : ∀ e, P e → P' e) (hQ : ∀ a, Q a → Q' a)
    {p : Prog E R ε α} (hp : p.Meets adm P Q) : p.Meets adm P' Q' := by
  induction p with
  | ret a => exact hQ a hp
  | fail err => trivial
  | call e k ih => exact ⟨hP e hp.1, fun v hv ↦ ih v (hp.2 v hv)⟩

/-- A program that issues only `P` does so under every contract. -/
theorem Issues.meets {p : Prog E R ε α} (hp : p.Issues P) : p.Meets adm P fun _ ↦ True := by
  induction p with
  | ret a => trivial
  | fail err => trivial
  | call e k ih => exact ⟨hp.1, fun v _ ↦ ih v (hp.2 v)⟩

/-- **Along a history.** The statement of an exchange is as the contract says if all replies before
it were admitted. -/
theorem Meets.at {p q : Prog E R ε α} {h₁ h₂ : List (Exchange R)} {x : Exchange R}
    (hp : p.Meets adm P Q) (hf : Follows p (h₁ ++ x :: h₂) q) (hadm : ∀ y ∈ h₁, adm y.1 y.2) :
    P x.1 := by
  induction h₁ generalizing p with
  | nil =>
    cases hf with
    | call v _ => exact hp.1
  | cons y h₁ ih =>
    cases hf with
    | call v hf =>
      exact ih (hp.2 v (hadm _ List.mem_cons_self)) hf
        fun z hz ↦ hadm z (List.mem_cons_of_mem _ hz)

/-- A history whose replies were all admitted. -/
theorem Meets.of_follows {p q : Prog E R ε α} {h : List (Exchange R)} (hp : p.Meets adm P Q)
    (hf : Follows p h q) (hadm : ∀ y ∈ h, adm y.1 y.2) : ∀ x ∈ h, P x.1 := by
  intro x hx
  obtain ⟨h₁, h₂, rfl⟩ := List.append_of_mem hx
  exact hp.at hf fun y hy ↦ hadm y (List.mem_append_left _ hy)

/-- What such a history returned. -/
theorem Meets.of_returned {p : Prog E R ε α} {h : List (Exchange R)} {a : α}
    (hp : p.Meets adm P Q) (hf : Follows p h (ret a)) (hadm : ∀ y ∈ h, adm y.1 y.2) : Q a := by
  induction h generalizing p with
  | nil =>
    cases hf
    exact hp
  | cons y h ih =>
    cases hf with
    | call v hf =>
      exact ih (hp.2 v (hadm _ List.mem_cons_self)) hf
        fun z hz ↦ hadm z (List.mem_cons_of_mem _ hz)

/-- **What a history must have shown first.** -/
theorem Meets.exists_before {p q : Prog E R ε α} {h₁ h₂ : List (Exchange R)} {x : Exchange R}
    (hp : p.Meets adm P Q) (hf : Follows p (h₁ ++ x :: h₂) q) (hx : ¬P x.1) :
    ∃ y ∈ h₁, ¬adm y.1 y.2 := by
  by_contra hall
  exact hx (hp.at hf fun y hy ↦ by_contra fun hne ↦ hall ⟨y, hy, hne⟩)

/-! ### A larger kind of statements -/

/-- The program over a larger kind of statements. -/
def embed (f : E → E') (g : ∀ e, R' (f e) → R e) : Prog E R ε α → Prog E' R' ε α
  | ret a => ret a
  | fail err => fail err
  | call e k => call (f e) fun v ↦ (k (g e v)).embed f g

variable {f : E → E'} {g : ∀ e, R' (f e) → R e}

/-- A contract of the larger kind that is one of the smaller. -/
theorem Meets.embed {adm' : (e : E') → R' e → Prop} {P' : E' → Prop} {p : Prog E R ε α}
    (hadm : ∀ e v, adm' (f e) v → adm e (g e v)) (hP : ∀ e, P e → P' (f e))
    (hp : p.Meets adm P Q) : (p.embed f g).Meets adm' P' Q := by
  induction p with
  | ret a => exact hp
  | fail err => trivial
  | call e k ih => exact ⟨hP e hp.1, fun v hv ↦ ih _ (hp.2 _ (hadm e v hv))⟩

end Prog

/-! ### Over a shared state -/

/-- **Contracts in a run.** An invariant under which the state gives only admitted replies, and
which the statements of the contract keep, holds throughout. -/
theorem Run.meets {E : Type} {R : E → Type} {ε α σ Pid : Type} [DecidableEq Pid]
    {exec : (e : E) → R e → σ → Option σ} {adm : (e : E) → R e → Prop} {P : E → Prop}
    {Q : α → Prop} {Inv : σ → Prop}
    (hstep : ∀ e v m m', exec e v m = some m' → P e → Inv m → adm e v ∧ Inv m')
    {s s' : Pool E R ε α σ Pid} {tr : List (Pid × Exchange R)} (h : Run exec s tr s')
    (hs : Inv s.state) (hp : ∀ i, (s.prog i).Meets adm P Q) :
    Inv s'.state ∧ ∀ x ∈ tr, P x.2.1 := by
  induction h with
  | nil s => exact ⟨hs, fun x hx ↦ absurd hx List.not_mem_nil⟩
  | @step s s' tr i e k v m hcall hexec hrun ih =>
    have hi := hp i
    rw [hcall] at hi
    obtain ⟨hadm, hm⟩ := hstep e v s.state m hexec hi.1 hs
    -- the process that moved goes on under its contract
    obtain ⟨hs', htr⟩ := ih hm fun j ↦ by
      show Prog.Meets adm P Q (Function.update s.prog i (k v) j)
      by_cases hj : j = i
      · subst hj
        rw [Function.update_self]
        exact hi.2 v hadm
      · rw [Function.update_of_ne hj]
        exact hp j
    refine ⟨hs', fun x hx ↦ ?_⟩
    rcases List.mem_cons.1 hx with rfl | hx
    · exact hi.1
    · exact htr x hx

end Interaction
