import VyosFabric.Interaction.Prog

/-!
# Programs against fixed answers

`eval answer p` is what the program `p` comes to when every statement `e` is answered by `answer e`.
A program whose history was answered so has no choice left: it ends as `eval` says
(`Follows.eval_eq`). Two runs with the same answers therefore end the same way. What a sequence
comes to is what its two programs come to (`eval_bind_eq_ok`).
-/

namespace Interaction

namespace Prog

variable {E : Type} {R : E → Type} {ε α β : Type} {answer : (e : E) → R e}

/-- What the program comes to when every statement `e` is answered by `answer e`. -/
def eval (answer : (e : E) → R e) : Prog E R ε α → Except ε α
  | ret a => .ok a
  | fail err => .error err
  | call e k => (k (answer e)).eval answer

/-- **A sequence returns** where its first program does, and the second after it. -/
theorem eval_bind_eq_ok {p : Prog E R ε α} {f : α → Prog E R ε β} {b : β} :
    (p.bind f).eval answer = .ok b ↔ ∃ a, p.eval answer = .ok a ∧ (f a).eval answer = .ok b := by
  induction p with
  | ret a =>
    constructor
    · exact fun h ↦ ⟨a, rfl, h⟩
    · rintro ⟨a', ha, h⟩
      obtain rfl := Except.ok.inj ha
      exact h
  | fail err =>
    constructor
    · exact fun h ↦ nomatch h
    · rintro ⟨a, ha, -⟩
      cases ha
  | call e k ih => exact ih (answer e)

/-- A program behind a check returns where the check is passed. -/
theorem eval_guard_eq_ok {c : Prop} [Decidable c] {err : ε} {p : Prog E R ε α} {a : α} :
    (if c then fail err else p).eval answer = .ok a ↔ ¬c ∧ p.eval answer = .ok a := by
  by_cases hc : c
  · rw [if_pos hc]
    refine iff_of_false (fun h ↦ ?_) fun h ↦ h.1 hc
    cases h
  · rw [if_neg hc, and_iff_right hc]

/-- **Answered as `answer` says**, a program stays on its way to `eval`. -/
theorem Follows.eval_eq {p q : Prog E R ε α} {h : List (Exchange R)} (hf : Follows p h q)
    (hans : ∀ x ∈ h, x.2 = answer x.1) : q.eval answer = p.eval answer := by
  induction hf with
  | nil p => rfl
  | call v hf ih =>
    have hv : v = answer _ := hans _ List.mem_cons_self
    rw [ih fun x hx ↦ hans x (List.mem_cons_of_mem _ hx), hv]
    rfl

/-- What holds of every value a program returns holds of this one. -/
theorem Returns.of_eval {P : α → Prop} {p : Prog E R ε α} {a : α} (hp : p.Returns P)
    (h : p.eval answer = .ok a) : P a := by
  induction p with
  | ret b =>
    obtain rfl := Except.ok.inj h
    exact hp
  | fail err => cases h
  | call e k ih => exact ih (answer e) (hp (answer e)) h

end Prog

end Interaction
