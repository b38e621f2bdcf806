import Mathlib.Logic.Function.Basic
import VyosFabric.Interaction.Prog

/-!
# Programs interleaved over a shared state

`exec e v s` is the effect of statement `e` on the shared state `s` when it is answered by `v`, and
`none` when `s` cannot give that answer. The environment's choices (which row an insert returns,
whether a reply is lost) are therefore part of the exchange, and a run is determined by its trace.

A `Pool` is a shared state with one program for each process identifier. `Run exec s tr s'` executes
the trace `tr`, one statement of one process at a time and in any order; there is no scheduler and
no fairness. `run_iff` takes a run apart into the two things proofs work with: the shared state is
the fold of the exchanges, and every process has followed its own projection of the trace. What one
process does is then a fact about its program, and what the others do to it in between is a fact
about `exec`.

A process that runs alone is the special case `Completes`.
-/

namespace Interaction

variable {E : Type} {R : E → Type} {ε α σ Pid : Type}

/-! ### The shared state along a list of exchanges -/

/-- The shared state after a list of exchanges, or `none` when one of them was not possible. -/
def execAll (exec : (e : E) → R e → σ → Option σ) : List (Exchange R) → σ → Option σ
  | [], s => some s
  | x :: h, s => (exec x.1 x.2 s).bind (execAll exec h)

variable {exec : (e : E) → R e → σ → Option σ}

@[simp] theorem execAll_nil (s : σ) : execAll exec [] s = some s := rfl

theorem execAll_cons (x : Exchange R) (h : List (Exchange R)) (s : σ) :
    execAll exec (x :: h) s = (exec x.1 x.2 s).bind (execAll exec h) := rfl

theorem execAll_cons_eq_some {x : Exchange R} {h : List (Exchange R)} {s s' : σ} :
    execAll exec (x :: h) s = some s' ↔
      ∃ m, exec x.1 x.2 s = some m ∧ execAll exec h m = some s' := by
  rw [execAll_cons, Option.bind_eq_some_iff]

theorem execAll_append_eq_some {h₁ h₂ : List (Exchange R)} {s s' : σ} :
    execAll exec (h₁ ++ h₂) s = some s' ↔
      ∃ m, execAll exec h₁ s = some m ∧ execAll exec h₂ m = some s' := by
  induction h₁ generalizing s with
  | nil => simp
  | cons x h₁ ih =>
    rw [List.cons_append, execAll_cons_eq_some]
    constructor
    · rintro ⟨m, hm, hrest⟩
      obtain ⟨n, hn, hs'⟩ := ih.1 hrest
      exact ⟨n, execAll_cons_eq_some.2 ⟨m, hm, hn⟩, hs'⟩
    · rintro ⟨n, hn, hs'⟩
      obtain ⟨m, hm, hrest⟩ := execAll_cons_eq_some.1 hn
      exact ⟨m, hm, ih.2 ⟨n, hrest, hs'⟩⟩

/-- **Invariants along a list of exchanges.** What every exchange of the list preserves, the list
preserves. -/
theorem execAll_invariant {P : σ → Prop} {h : List (Exchange R)}
    (hstep : ∀ x ∈ h, ∀ s s', exec x.1 x.2 s = some s' → P s → P s') {s s' : σ}
    (hexec : execAll exec h s = some s') (hs : P s) : P s' := by
  induction h generalizing s with
  | nil =>
    obtain rfl := Option.some.inj hexec
    exact hs
  | cons x h ih =>
    obtain ⟨m, hm, hrest⟩ := execAll_cons_eq_some.1 hexec
    exact ih (fun y hy ↦ hstep y (List.mem_cons_of_mem x hy)) hrest
      (hstep x List.mem_cons_self s m hm hs)

/-- **Simulation.** What every exchange of the list carries over from one state to the other, the
list carries over. -/
theorem execAll_simulation {Rel : σ → σ → Prop} {h : List (Exchange R)}
    (hstep : ∀ x ∈ h, ∀ s t s', exec x.1 x.2 s = some s' → Rel s t →
      ∃ t', exec x.1 x.2 t = some t' ∧ Rel s' t') {s t s' : σ}
    (hexec : execAll exec h s = some s') (hrel : Rel s t) :
    ∃ t', execAll exec h t = some t' ∧ Rel s' t' := by
  induction h generalizing s t with
  | nil =>
    obtain rfl := Option.some.inj hexec
    exact ⟨t, rfl, hrel⟩
  | cons x h ih =>
    obtain ⟨m, hm, hrest⟩ := execAll_cons_eq_some.1 hexec
    obtain ⟨n, hn, hmn⟩ := hstep x List.mem_cons_self s t m hm hrel
    obtain ⟨t', ht', hrel'⟩ :=
      ih (fun y hy ↦ hstep y (List.mem_cons_of_mem x hy)) hrest hmn
    exact ⟨t', execAll_cons_eq_some.2 ⟨n, hn, ht'⟩, hrel'⟩

/-- Exchanges that leave the state alone can be dropped from the list. -/
theorem execAll_visible {vis : E → Bool}
    (hsilent : ∀ e v s s', vis e = false → exec e v s = some s' → s' = s) {h : List (Exchange R)}
    {s s' : σ} (hexec : execAll exec h s = some s') :
    execAll exec (Prog.visible vis h) s = some s' := by
  induction h generalizing s with
  | nil => exact hexec
  | cons x h ih =>
    obtain ⟨m, hm, hrest⟩ := execAll_cons_eq_some.1 hexec
    rw [Prog.visible_cons]
    cases hv : vis x.1 with
    | true =>
      rw [if_pos rfl]
      exact execAll_cons_eq_some.2 ⟨m, hm, ih hrest⟩
    | false =>
      obtain rfl := hsilent _ _ _ _ hv hm
      rw [if_neg (by simp)]
      exact ih hrest

/-! ### One program alone -/

/-- The program `p`, alone on the state `s`, makes the exchanges `h`, ends with `r` and leaves
`s'`. -/
structure Completes (exec : (e : E) → R e → σ → Option σ) (p : Prog E R ε α) (s : σ)
    (h : List (Exchange R)) (r : Except ε α) (s' : σ) : Prop where
  /-- The program went through the exchanges and ended with `r`. -/
  ends : ∃ q, Prog.Follows p h q ∧ q.outcome = some r
  /-- The state answered them. -/
  execs : execAll exec h s = some s'

/-! ### Many programs interleaved -/

/-- A shared state and one program for each process. -/
structure Pool (E : Type) (R : E → Type) (ε α σ Pid : Type) where
  /-- The shared state. -/
  state : σ
  /-- What each process will do from here. -/
  prog : Pid → Prog E R ε α

variable [DecidableEq Pid]

/-- Executing a trace: at each entry one process issues its next statement and gets the reply. -/
inductive Run (exec : (e : E) → R e → σ → Option σ) :
    Pool E R ε α σ Pid → List (Pid × Exchange R) → Pool E R ε α σ Pid → Prop
  | nil (s : Pool E R ε α σ Pid) : Run exec s [] s
  | step {s s' : Pool E R ε α σ Pid} {tr : List (Pid × Exchange R)} (i : Pid) {e : E}
      {k : R e → Prog E R ε α} (v : R e) {w : σ} :
      s.prog i = .call e k → exec e v s.state = some w →
      Run exec ⟨w, Function.update s.prog i (k v)⟩ tr s' → Run exec s ((i, ⟨e, v⟩) :: tr) s'

/-- The exchanges of one process. -/
def proj (i : Pid) (tr : List (Pid × Exchange R)) : List (Exchange R) :=
  tr.filterMap fun x ↦ if x.1 = i then some x.2 else none

@[simp] theorem proj_nil (i : Pid) : proj i ([] : List (Pid × Exchange R)) = [] := rfl

@[simp] theorem proj_cons_self (i : Pid) (x : Exchange R) (tr : List (Pid × Exchange R)) :
    proj i ((i, x) :: tr) = x :: proj i tr := by
  simp [proj]

theorem proj_cons_of_ne {i j : Pid} (hne : j ≠ i) (x : Exchange R)
    (tr : List (Pid × Exchange R)) : proj i ((j, x) :: tr) = proj i tr := by
  simp [proj, hne]

@[simp] theorem proj_append (i : Pid) (tr₁ tr₂ : List (Pid × Exchange R)) :
    proj i (tr₁ ++ tr₂) = proj i tr₁ ++ proj i tr₂ :=
  List.filterMap_append

theorem mem_proj {i : Pid} {x : Exchange R} {tr : List (Pid × Exchange R)} :
    x ∈ proj i tr ↔ (i, x) ∈ tr := by
  induction tr with
  | nil => simp
  | cons y tr ih =>
    obtain ⟨j, y⟩ := y
    by_cases hj : j = i
    · subst hj
      simp [ih]
    · rw [proj_cons_of_ne hj, ih]
      simp [Ne.symm hj]

/-- An occurrence in the projection is an occurrence in the trace, with the projection split at the
same place. -/
theorem exists_split_of_proj {i : Pid} {x : Exchange R} :
    ∀ {tr : List (Pid × Exchange R)} {h₁ h₂ : List (Exchange R)}, proj i tr = h₁ ++ x :: h₂ →
      ∃ tr₁ tr₂, tr = tr₁ ++ (i, x) :: tr₂ ∧ proj i tr₁ = h₁ ∧ proj i tr₂ = h₂ := by
  intro tr
  induction tr with
  | nil => intro h₁ h₂ h; simp at h
  | cons y tr ih =>
    intro h₁ h₂ h
    obtain ⟨j, y⟩ := y
    by_cases hj : j = i
    · subst hj
      rw [proj_cons_self] at h
      cases h₁ with
      | nil =>
        obtain ⟨rfl, rfl⟩ := List.cons.inj h
        exact ⟨[], tr, rfl, rfl, rfl⟩
      | cons z h₁ =>
        rw [List.cons_append] at h
        obtain ⟨rfl, htl⟩ := List.cons.inj h
        obtain ⟨tr₁, tr₂, rfl, h₁', h₂'⟩ := ih htl
        exact ⟨(j, y) :: tr₁, tr₂, rfl, by rw [proj_cons_self, h₁'], h₂'⟩
    · rw [proj_cons_of_ne hj] at h
      obtain ⟨tr₁, tr₂, rfl, h₁', h₂'⟩ := ih h
      exact ⟨(j, y) :: tr₁, tr₂, rfl, by rw [proj_cons_of_ne hj, h₁'], h₂'⟩

/-- The same through a selection of the exchanges. -/
theorem exists_split_of_visible_proj {i : Pid} {vis : E → Bool} {x : Exchange R}
    {tr : List (Pid × Exchange R)} {h₁ h₂ : List (Exchange R)}
    (hsplit : Prog.visible vis (proj i tr) = h₁ ++ x :: h₂) :
    ∃ tr₁ tr₂, tr = tr₁ ++ (i, x) :: tr₂ ∧ Prog.visible vis (proj i tr₁) = h₁ ∧
      Prog.visible vis (proj i tr₂) = h₂ := by
  obtain ⟨a, b, hproj, ha, hb⟩ := Prog.exists_split_of_visible hsplit
  obtain ⟨tr₁, tr₂, rfl, rfl, rfl⟩ := exists_split_of_proj hproj
  exact ⟨tr₁, tr₂, rfl, ha, hb⟩

/-- **A run is its trace.** The shared state is the fold of the exchanges, and each process follows
its own projection. -/
theorem run_iff {s s' : Pool E R ε α σ Pid} {tr : List (Pid × Exchange R)} :
    Run exec s tr s' ↔ execAll exec (tr.map Prod.snd) s.state = some s'.state ∧
      ∀ i, Prog.Follows (s.prog i) (proj i tr) (s'.prog i) := by
  induction tr generalizing s with
  | nil =>
    constructor
    · intro h
      cases h
      exact ⟨rfl, fun i ↦ Prog.Follows.nil _⟩
    · rintro ⟨hs, hp⟩
      have hprog : s'.prog = s.prog := funext fun i ↦ Prog.follows_nil.1 (hp i)
      have hstate : s.state = s'.state := Option.some.inj hs
      obtain ⟨w, p⟩ := s
      obtain ⟨w', p'⟩ := s'
      obtain rfl : p' = p := hprog
      obtain rfl : w = w' := hstate
      exact Run.nil _
  | cons x tr ih =>
    obtain ⟨j, ⟨e, v⟩⟩ := x
    constructor
    · intro h
      cases h with
      | step _ _ hcall hexec hrest =>
        -- the process that moved follows one exchange more, the others follow what they did
        obtain ⟨hs, hp⟩ := ih.1 hrest
        refine ⟨execAll_cons_eq_some.2 ⟨_, hexec, hs⟩, fun i ↦ ?_⟩
        by_cases hi : j = i
        · subst hi
          rw [proj_cons_self, hcall]
          exact Prog.Follows.call v (by simpa using hp j)
        · rw [proj_cons_of_ne hi]
          simpa [Function.update_of_ne (Ne.symm hi)] using hp i
    · rintro ⟨hs, hp⟩
      obtain ⟨w, hexec, hs⟩ := execAll_cons_eq_some.1 hs
      obtain ⟨k, hcall, hk⟩ := Prog.follows_cons.1 (proj_cons_self j ⟨e, v⟩ tr ▸ hp j)
      refine Run.step j v hcall hexec (ih.2 ⟨hs, fun i ↦ ?_⟩)
      by_cases hi : i = j
      · subst hi
        simpa using hk
      · have h := hp i
        rw [proj_cons_of_ne (Ne.symm hi)] at h
        simpa [Function.update_of_ne hi] using h

/-- Two places of one trace: the second is after the first, or before it. -/
theorem split_cases {α : Type} {x y : α} (hne : x ≠ y) {a b c d : List α}
    (heq : a ++ x :: b = c ++ y :: d) :
    (∃ e, c = a ++ x :: e ∧ b = e ++ y :: d) ∨ ∃ e, a = c ++ y :: e ∧ d = e ++ x :: b := by
  rcases List.append_eq_append_iff.1 heq with ⟨e, rfl, he⟩ | ⟨e, rfl, he⟩
  · cases e with
    | nil => exact absurd (List.cons.inj he).1 hne
    | cons z e =>
      obtain ⟨rfl, rfl⟩ := List.cons.inj he
      exact Or.inl ⟨e, rfl, rfl⟩
  · cases e with
    | nil => exact absurd (List.cons.inj he).1.symm hne
    | cons z e =>
      obtain ⟨rfl, rfl⟩ := List.cons.inj he
      exact Or.inr ⟨e, rfl, rfl⟩

/-- The shared state of a run. -/
theorem Run.execs {s s' : Pool E R ε α σ Pid} {tr : List (Pid × Exchange R)}
    (h : Run exec s tr s') : execAll exec (tr.map Prod.snd) s.state = some s'.state :=
  (run_iff.1 h).1

/-- What one process of a run went through. -/
theorem Run.follows {s s' : Pool E R ε α σ Pid} {tr : List (Pid × Exchange R)}
    (h : Run exec s tr s') (i : Pid) : Prog.Follows (s.prog i) (proj i tr) (s'.prog i) :=
  (run_iff.1 h).2 i

/-- Every exchange of a run was issued by the program of its process. -/
theorem Run.issued {P : Pid → E → Prop} {s s' : Pool E R ε α σ Pid}
    {tr : List (Pid × Exchange R)} (h : Run exec s tr s') (hp : ∀ i, (s.prog i).Issues (P i))
    {i : Pid} {x : Exchange R} (hx : (i, x) ∈ tr) : P i x.1 :=
  ((hp i).of_follows (h.follows i)).1 x (mem_proj.2 hx)

end Interaction
