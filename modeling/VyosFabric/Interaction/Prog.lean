import Mathlib.Data.List.Basic

/-!
# Resumption programs

A program over an interface of *statements*: it returns, fails, or issues one statement and
continues with whatever reply comes back. The replies are not computed here. A program is only the
tree of what it will do next for every reply, so the same tree can be run alone, interleaved with
others, or against an environment that loses messages.

## What a program did: `Follows`

`Follows p h q` says that after the exchanges `h` (a list of statements with the replies they got)
the program `p` has become `q`. It is the only relation between a program and its past that the
concurrent semantics needs. It is deterministic (`Follows.unique`), and through `bind` it splits at
the point where the first program returned (`follows_bind`).

## Silent statements

Most programs open with statements that only look. `visible vis h` drops the exchanges that `vis`
does not select, and `Silent` programs issue no other kind. `follows_silent_bind` removes a silent
prefix in one step, which is how a long handler is reduced to the statements that matter.
-/

namespace Interaction

/-- A program over statements `E` with replies `R`: it returns a value, fails, or issues a statement
and continues with the reply. -/
inductive Prog (E : Type) (R : E → Type) (ε α : Type) : Type where
  /-- The program has returned. -/
  | ret (a : α)
  /-- The program has failed. -/
  | fail (err : ε)
  /-- Issue `e`, then continue with its reply. -/
  | call (e : E) (k : R e → Prog E R ε α)

/-- One exchange: a statement together with the reply it got. -/
abbrev Exchange {E : Type} (R : E → Type) : Type := (e : E) × R e

namespace Prog

variable {E : Type} {R : E → Type} {ε α β γ : Type}

/-- Sequencing. A failure ends the whole program. -/
def bind : Prog E R ε α → (α → Prog E R ε β) → Prog E R ε β
  | ret a, f => f a
  | fail err, _ => fail err
  | call e k, f => call e fun v ↦ (k v).bind f

instance : Monad (Prog E R ε) where
  pure := ret
  bind := bind

@[simp] theorem pure_eq (a : α) : (Pure.pure a : Prog E R ε α) = ret a := rfl

@[simp] theorem bind_eq (p : Prog E R ε α) (f : α → Prog E R ε β) : (p >>= f) = p.bind f := rfl

@[simp] theorem map_eq (f : α → β) (p : Prog E R ε α) : (f <$> p) = p.bind fun a ↦ ret (f a) := rfl

@[simp] theorem ret_bind (a : α) (f : α → Prog E R ε β) : (ret a).bind f = f a := rfl

@[simp] theorem fail_bind (err : ε) (f : α → Prog E R ε β) : (fail err).bind f = fail err := rfl

@[simp] theorem call_bind (e : E) (k : R e → Prog E R ε α) (f : α → Prog E R ε β) :
    (call e k).bind f = call e fun v ↦ (k v).bind f := rfl

theorem bind_assoc (p : Prog E R ε α) (f : α → Prog E R ε β) (g : β → Prog E R ε γ) :
    (p.bind f).bind g = p.bind fun a ↦ (f a).bind g := by
  induction p with
  | ret a => rfl
  | fail err => rfl
  | call e k ih => simp only [call_bind, ih]

/-- How the program ended, if it did. -/
def outcome : Prog E R ε α → Option (Except ε α)
  | ret a => some (.ok a)
  | fail err => some (.error err)
  | call _ _ => none

@[simp] theorem outcome_ret (a : α) : (ret a : Prog E R ε α).outcome = some (.ok a) := rfl

@[simp] theorem outcome_fail (err : ε) :
    (fail err : Prog E R ε α).outcome = some (.error err) := rfl

@[simp] theorem outcome_call (e : E) (k : R e → Prog E R ε α) : (call e k).outcome = none := rfl

theorem outcome_eq_ok {p : Prog E R ε α} {a : α} : p.outcome = some (.ok a) ↔ p = .ret a := by
  constructor
  · intro h
    cases p with
    | ret b =>
      obtain rfl := Except.ok.inj (Option.some.inj h)
      rfl
    | fail e => cases h
    | call e k => cases h
  · rintro rfl
    rfl

/-! ### Following a history -/

/-- After the exchanges `h`, the program `p` has become `q`. -/
inductive Follows : Prog E R ε α → List (Exchange R) → Prog E R ε α → Prop
  | nil (p : Prog E R ε α) : Follows p [] p
  | call {e : E} {k : R e → Prog E R ε α} (v : R e) {h : List (Exchange R)} {q : Prog E R ε α} :
      Follows (k v) h q → Follows (.call e k) (⟨e, v⟩ :: h) q

@[simp] theorem follows_nil {p q : Prog E R ε α} : Follows p [] q ↔ q = p := by
  constructor
  · intro h
    cases h
    rfl
  · rintro rfl
    exact Follows.nil q

@[simp] theorem follows_ret {a : α} {h : List (Exchange R)} {q : Prog E R ε α} :
    Follows (ret a) h q ↔ h = [] ∧ q = ret a := by
  constructor
  · intro hf
    cases hf
    exact ⟨rfl, rfl⟩
  · rintro ⟨rfl, rfl⟩
    exact Follows.nil _

@[simp] theorem follows_fail {err : ε} {h : List (Exchange R)} {q : Prog E R ε α} :
    Follows (fail err) h q ↔ h = [] ∧ q = fail err := by
  constructor
  · intro hf
    cases hf
    exact ⟨rfl, rfl⟩
  · rintro ⟨rfl, rfl⟩
    exact Follows.nil _

/-- A pending statement: either nothing happened yet, or it was answered and the rest of the
history follows the continuation. -/
theorem follows_call {e : E} {k : R e → Prog E R ε α} {h : List (Exchange R)}
    {q : Prog E R ε α} :
    Follows (call e k) h q ↔
      (h = [] ∧ q = call e k) ∨ ∃ v h', h = ⟨e, v⟩ :: h' ∧ Follows (k v) h' q := by
  constructor
  · intro hf
    cases hf with
    | nil => exact Or.inl ⟨rfl, rfl⟩
    | call v hf => exact Or.inr ⟨v, _, rfl, hf⟩
  · rintro (⟨rfl, rfl⟩ | ⟨v, h', rfl, hf⟩)
    · exact Follows.nil _
    · exact Follows.call v hf

/-- Following an explicit first exchange. -/
theorem follows_cons {p q : Prog E R ε α} {x : Exchange R} {h : List (Exchange R)} :
    Follows p (x :: h) q ↔ ∃ k : R x.1 → Prog E R ε α, p = call x.1 k ∧ Follows (k x.2) h q := by
  constructor
  · intro hf
    cases hf with
    | call v hf => exact ⟨_, rfl, hf⟩
  · rintro ⟨k, rfl, hf⟩
    exact Follows.call x.2 hf

/-- **A history determines where the program is.** -/
theorem Follows.unique {p q q' : Prog E R ε α} {h : List (Exchange R)} (hq : Follows p h q)
    (hq' : Follows p h q') : q = q' := by
  induction hq with
  | nil p => exact (follows_nil.1 hq').symm
  | call v hf ih =>
    cases hq' with
    | call v hf' => exact ih hf'

/-- **Following a sequence.** Either the first program is still running, or it returned somewhere
along the history and the rest follows the second. -/
theorem follows_bind {p : Prog E R ε α} {f : α → Prog E R ε β} {h : List (Exchange R)}
    {q : Prog E R ε β} (hf : Follows (p.bind f) h q) :
    (∃ p', Follows p h p' ∧ q = p'.bind f ∧ ∀ a, p' ≠ ret a) ∨
      ∃ h₁ h₂ a, h = h₁ ++ h₂ ∧ Follows p h₁ (ret a) ∧ Follows (f a) h₂ q := by
  induction p generalizing h with
  | ret a => exact Or.inr ⟨[], h, a, rfl, Follows.nil _, hf⟩
  | fail err =>
    obtain ⟨rfl, rfl⟩ := follows_fail.1 hf
    exact Or.inl ⟨fail err, Follows.nil _, rfl, by simp⟩
  | call e k ih =>
    rcases follows_call.1 hf with ⟨rfl, rfl⟩ | ⟨v, h', rfl, hf'⟩
    · exact Or.inl ⟨call e k, Follows.nil _, rfl, by simp⟩
    · rcases ih v hf' with ⟨p', hp, rfl, hne⟩ | ⟨h₁, h₂, a, rfl, hp, hq⟩
      · exact Or.inl ⟨p', hp.call v, rfl, hne⟩
      · exact Or.inr ⟨⟨e, v⟩ :: h₁, h₂, a, rfl, hp.call v, hq⟩

/-- A program whose value is only rewritten. -/
theorem follows_map {p : Prog E R ε α} {f : α → β} {h : List (Exchange R)} {q : Prog E R ε β} :
    Follows (p.bind fun a ↦ ret (f a)) h q →
      ∃ p', Follows p h p' ∧ q = p'.bind fun a ↦ ret (f a) := by
  intro hf
  rcases follows_bind hf with ⟨p', hp, rfl, -⟩ | ⟨h₁, h₂, a, rfl, hp, hq⟩
  · exact ⟨p', hp, rfl⟩
  · obtain ⟨rfl, rfl⟩ := follows_ret.1 hq
    exact ⟨ret a, by rwa [List.append_nil], rfl⟩

/-- The converse direction used to build runs: a returned prefix is followed by the rest. -/
theorem Follows.bind {p : Prog E R ε α} {f : α → Prog E R ε β} {h₁ h₂ : List (Exchange R)} {a : α}
    {q : Prog E R ε β} (hp : Follows p h₁ (ret a)) (hq : Follows (f a) h₂ q) :
    Follows (p.bind f) (h₁ ++ h₂) q := by
  generalize hr : (ret a : Prog E R ε α) = r at hp
  induction hp with
  | nil p =>
    subst hr
    exact hq
  | call v _ ih => exact (ih hr).call v

/-! ### What a program can issue at all -/

/-- Every statement the program can ever issue, whatever the replies, satisfies `P`. -/
def Issues (P : E → Prop) : Prog E R ε α → Prop
  | ret _ => True
  | fail _ => True
  | call e k => P e ∧ ∀ v, (k v).Issues P

theorem Issues.bind {P : E → Prop} {p : Prog E R ε α} {f : α → Prog E R ε β} (hp : p.Issues P)
    (hf : ∀ a, (f a).Issues P) : (p.bind f).Issues P := by
  induction p with
  | ret a => exact hf a
  | fail err => trivial
  | call e k ih => exact ⟨hp.1, fun v ↦ ih v (hp.2 v)⟩

theorem Issues.mono {P Q : E → Prop} (hPQ : ∀ e, P e → Q e) {p : Prog E R ε α} (hp : p.Issues P) :
    p.Issues Q := by
  induction p with
  | ret a => trivial
  | fail err => trivial
  | call e k ih => exact ⟨hPQ e hp.1, fun v ↦ ih v (hp.2 v)⟩

/-- Every exchange of a history was issued by the program that followed it. -/
theorem Issues.of_follows {P : E → Prop} {p q : Prog E R ε α} {h : List (Exchange R)}
    (hp : p.Issues P) (hf : Follows p h q) : (∀ x ∈ h, P x.1) ∧ q.Issues P := by
  induction hf with
  | nil p => exact ⟨by simp, hp⟩
  | call v _ ih =>
    obtain ⟨hall, hq⟩ := ih (hp.2 v)
    refine ⟨?_, hq⟩
    intro x hx
    rcases List.mem_cons.1 hx with rfl | hx
    · exact hp.1
    · exact hall x hx

/-! ### What a program can return at all -/

/-- Every value the program can return, whatever the replies, satisfies `P`. -/
def Returns (P : α → Prop) : Prog E R ε α → Prop
  | ret a => P a
  | fail _ => True
  | call _ k => ∀ v, (k v).Returns P

theorem returns_true (p : Prog E R ε α) : p.Returns fun _ ↦ True := by
  induction p with
  | ret a => trivial
  | fail err => trivial
  | call e k ih => exact fun v ↦ ih v

theorem Returns.mono {P Q : α → Prop} (hPQ : ∀ a, P a → Q a) {p : Prog E R ε α}
    (hp : p.Returns P) : p.Returns Q := by
  induction p with
  | ret a => exact hPQ a hp
  | fail err => trivial
  | call e k ih => exact fun v ↦ ih v (hp v)

theorem Returns.bind {Q : α → Prop} {P : β → Prop} {p : Prog E R ε α} {f : α → Prog E R ε β}
    (hp : p.Returns Q) (hf : ∀ a, Q a → (f a).Returns P) : (p.bind f).Returns P := by
  induction p with
  | ret a => exact hf a hp
  | fail err => trivial
  | call e k ih => exact fun v ↦ ih v (hp v)

/-- The second program of a sequence is run on what the first returns. -/
theorem Issues.bind_of_returns {P : E → Prop} {Q : α → Prop} {p : Prog E R ε α}
    {f : α → Prog E R ε β} (hp : p.Issues P) (hq : p.Returns Q) (hf : ∀ a, Q a → (f a).Issues P) :
    (p.bind f).Issues P := by
  induction p with
  | ret a => exact hf a hq
  | fail err => trivial
  | call e k ih => exact ⟨hp.1, fun v ↦ ih v (hp.2 v) (hq v)⟩

/-! ### Silent prefixes -/

/-- The exchanges whose statement `vis` selects. -/
def visible (vis : E → Bool) (h : List (Exchange R)) : List (Exchange R) :=
  h.filter fun x ↦ vis x.1

@[simp] theorem visible_nil (vis : E → Bool) : visible vis ([] : List (Exchange R)) = [] := rfl

@[simp] theorem visible_cons (vis : E → Bool) (x : Exchange R) (h : List (Exchange R)) :
    visible vis (x :: h) = if vis x.1 then x :: visible vis h else visible vis h := by
  rw [visible, List.filter_cons]
  rfl

theorem visible_cons_of_pos {vis : E → Bool} {x : Exchange R} (hx : vis x.1 = true)
    (h : List (Exchange R)) : visible vis (x :: h) = x :: visible vis h := by
  rw [visible_cons, if_pos hx]

@[simp] theorem visible_append (vis : E → Bool) (h₁ h₂ : List (Exchange R)) :
    visible vis (h₁ ++ h₂) = visible vis h₁ ++ visible vis h₂ :=
  List.filter_append h₁ h₂

theorem mem_visible {vis : E → Bool} {x : Exchange R} {h : List (Exchange R)} :
    x ∈ visible vis h ↔ x ∈ h ∧ vis x.1 = true :=
  List.mem_filter

/-- An occurrence among the selected exchanges is an occurrence in the history, with the selection
split at the same place. -/
theorem exists_split_of_visible {vis : E → Bool} {x : Exchange R} {h h₁ h₂ : List (Exchange R)}
    (hsplit : visible vis h = h₁ ++ x :: h₂) :
    ∃ a b, h = a ++ x :: b ∧ visible vis a = h₁ ∧ visible vis b = h₂ := by
  obtain ⟨a, t, rfl, ha, ht⟩ := List.filter_eq_append_iff.1 hsplit
  obtain ⟨c, b, rfl, hc, -, hb⟩ := List.filter_eq_cons_iff.1 ht
  refine ⟨a ++ c, b, (List.append_assoc a c (x :: b)).symm, ?_, hb⟩
  rw [visible_append, visible, visible, ha, List.filter_eq_nil_iff.2 hc, List.append_nil]

/-- The program issues only statements that `vis` does not select. -/
def Silent (vis : E → Bool) (p : Prog E R ε α) : Prop :=
  p.Issues fun e ↦ vis e = false

theorem Silent.visible_eq_nil {vis : E → Bool} {p q : Prog E R ε α} {h : List (Exchange R)}
    (hp : p.Silent vis) (hf : Follows p h q) : visible vis h = [] := by
  refine List.filter_eq_nil_iff.2 fun x hx ↦ ?_
  have hx := (hp.of_follows hf).1 x hx
  simp [hx]

/-- **Removing a silent prefix.** Either the history is still inside the prefix and shows nothing,
or the prefix returned and the visible part of the history is that of the rest. -/
theorem follows_silent_bind {vis : E → Bool} {p : Prog E R ε α} (hp : p.Silent vis)
    {f : α → Prog E R ε β} {h : List (Exchange R)} {q : Prog E R ε β}
    (hf : Follows (p.bind f) h q) :
    (visible vis h = [] ∧ ∀ b, q ≠ ret b) ∨
      ∃ s h' a, h = s ++ h' ∧ Follows p s (ret a) ∧ visible vis h = visible vis h' ∧
        Follows (f a) h' q := by
  rcases follows_bind hf with ⟨p', hp', rfl, hne⟩ | ⟨s, h', a, rfl, hs, hq⟩
  · refine Or.inl ⟨hp.visible_eq_nil hp', fun b hb ↦ ?_⟩
    cases p' with
    | ret a => exact hne a rfl
    | fail err => simp at hb
    | call e k => simp at hb
  · refine Or.inr ⟨s, h', a, rfl, hs, ?_, hq⟩
    rw [visible_append, hp.visible_eq_nil hs, List.nil_append]

end Prog

end Interaction
