import VyosFabric.Model.Database

/-!
# Handlers, their errors, and access to a device

A handler is a program over `Statement` that fails with an `AppError`. `sql` and `device` are the
`.await?` of a database statement and of a device call: a fault ends the handler with the error the
source maps it to. `attempt` hands the answer over instead, for the one call whose failure the
source matches on.

`authorizeRouter` and `fetchClient` stand in front of every handler of this system. They only look
(`authorizeRouter_inspects`, `fetchClient_inspects`).

## What became of a handler

`follows_sql_bind` and `follows_device_bind` step over one `.await?`. A handler that is nothing but
such steps is *straight* (`IsStraight`): its history is a prefix of a fixed list of statements, all
answered with values but the last, and it ends where the list does or at the first fault.
-/

namespace VyosFabric

open Interaction

/-- `AppError`. -/
inductive AppError where
  | notFound
  | badRequest (msg : String)
  | unauthorized
  | forbidden
  | gateway (msg : String)
  | database (msg : String)
  | internal (msg : String)
  deriving DecidableEq, Repr

/-- What a session token says about the user: `sub` and `role`. -/
structure Claims where
  sub : Uuid
  role : String
  deriving DecidableEq, Repr

def Claims.isAdmin (claims : Claims) : Bool := claims.role == "admin"

/-- A request handler. -/
abbrev Handler (α : Type) : Type := Prog Statement Statement.Reply AppError α

/-- A database statement followed by `?`. -/
def sql (s : Statement) : Handler s.Value :=
  .call s fun v ↦ match v with
    | .ok x => .ret x
    | .error e => .fail (.database e.text)

/-- A device call followed by `map_err(gateway_err)?`. -/
def device (s : Statement) : Handler s.Value :=
  .call s fun v ↦ match v with
    | .ok x => .ret x
    | .error e => .fail (.gateway e.text)

/-- A call whose failure the handler looks at itself. -/
def attempt (s : Statement) : Handler s.Reply := .call s .ret

/-- Ok if the user may act on the given router. Admins bypass; otherwise the router's site must be
among the user's grants. -/
def authorizeRouter (claims : Claims) (routerId : Uuid) : Handler Unit :=
  if claims.isAdmin then .ret ()
  else do
    let row ← sql (.authorizeRouter routerId claims.sub)
    match row with
    | some _ => .ret ()
    | none => .fail .forbidden

/-- Builds a VyOS client for a device, enforcing that `claims` may access it. -/
def fetchClient (claims : Claims) (id : Uuid) : Handler VyosClient := do
  authorizeRouter claims id
  let row ← sql (.selectRouter id)
  match row with
  | none => .fail .notFound
  | some router =>
    match router.apiKey.filter fun k ↦ k ≠ "" with
    | none => .fail (.gateway "no API key configured for this device")
    | some key =>
      .ret (VyosClient.new router.apiProtocol router.mgmtIp router.apiPort key router.version)

/-! ### These only look -/

theorem sql_issues {P : Statement → Prop} {s : Statement} (hs : P s) : (sql s).Issues P := by
  refine ⟨hs, fun v ↦ ?_⟩
  cases v <;> trivial

theorem device_issues {P : Statement → Prop} {s : Statement} (hs : P s) : (device s).Issues P := by
  refine ⟨hs, fun v ↦ ?_⟩
  cases v <;> trivial

/-- The handler looks up and looks at, and does nothing else. -/
abbrev Inspects {α : Type} (p : Handler α) : Prop := p.Issues fun s ↦ s.inspects = true

/-- The handler looks at the live config of one device, and does nothing else. -/
abbrev Shows {α : Type} (client : VyosClient) (p : Handler α) : Prop :=
  p.Issues fun s ↦ ∃ path, s = .showConfig client path

theorem Shows.inspects {α : Type} {client : VyosClient} {p : Handler α} (hp : Shows client p) :
    Inspects p := by
  refine hp.mono ?_
  rintro _ ⟨path, rfl⟩
  rfl

/-- Looking changes nothing. -/
theorem Inspects.silent {α : Type} {p : Handler α} (hp : Inspects p) :
    p.Silent Statement.touches := by
  refine hp.mono fun s hs ↦ ?_
  cases s <;> first | rfl | cases hs

theorem authorizeRouter_inspects (claims : Claims) (routerId : Uuid) :
    Inspects (authorizeRouter claims routerId) := by
  rw [authorizeRouter]
  split
  · trivial
  · refine Prog.Issues.bind (sql_issues rfl) fun row ↦ ?_
    cases row <;> trivial

theorem fetchClient_inspects (claims : Claims) (id : Uuid) :
    Inspects (fetchClient claims id) := by
  refine Prog.Issues.bind (authorizeRouter_inspects claims id) fun _ ↦ ?_
  refine Prog.Issues.bind (sql_issues rfl) fun row ↦ ?_
  cases row with
  | none => trivial
  | some router =>
    show Prog.Issues _ (match router.apiKey.filter fun k ↦ k ≠ "" with
      | none => _
      | some key => _)
    split <;> trivial

/-! ### One step of a handler -/

section Steps

variable {α β : Type} {s : Statement} {f : s.Value → Handler β} {h : List Event} {q : Handler β}

/-- A call followed by `?`: not answered yet, answered with a fault, or answered with a value. -/
theorem follows_answered_bind {k : s.Reply → Handler s.Value} {err : Fault → AppError}
    (hok : ∀ x, k (.ok x) = .ret x) (herr : ∀ e, k (.error e) = .fail (err e))
    (hf : Prog.Follows ((Prog.call s k).bind f) h q) :
    (h = [] ∧ q.outcome = none) ∨
      (∃ e : Fault, h = [⟨s, .error e⟩] ∧ q = .fail (err e)) ∨
      ∃ (x : s.Value) (h' : List Event), h = ⟨s, .ok x⟩ :: h' ∧ Prog.Follows (f x) h' q := by
  rcases Prog.follows_call.1 hf with ⟨rfl, rfl⟩ | ⟨v, h', rfl, hf'⟩
  · exact Or.inl ⟨rfl, rfl⟩
  · cases v with
    | error e =>
      rw [herr] at hf'
      obtain ⟨rfl, rfl⟩ := Prog.follows_fail.1 hf'
      exact Or.inr (Or.inl ⟨e, rfl, rfl⟩)
    | ok x =>
      rw [hok] at hf'
      exact Or.inr (Or.inr ⟨x, h', rfl, hf'⟩)

theorem follows_sql_bind (hf : Prog.Follows ((sql s).bind f) h q) :
    (h = [] ∧ q.outcome = none) ∨
      (∃ e : Fault, h = [⟨s, .error e⟩] ∧ q = .fail (.database e.text)) ∨
      ∃ (x : s.Value) (h' : List Event), h = ⟨s, .ok x⟩ :: h' ∧ Prog.Follows (f x) h' q :=
  follows_answered_bind (fun _ ↦ rfl) (fun _ ↦ rfl) hf

theorem follows_device_bind (hf : Prog.Follows ((device s).bind f) h q) :
    (h = [] ∧ q.outcome = none) ∨
      (∃ e : Fault, h = [⟨s, .error e⟩] ∧ q = .fail (.gateway e.text)) ∨
      ∃ (x : s.Value) (h' : List Event), h = ⟨s, .ok x⟩ :: h' ∧ Prog.Follows (f x) h' q :=
  follows_answered_bind (fun _ ↦ rfl) (fun _ ↦ rfl) hf

end Steps

/-! ### Straight-line handlers -/

/-- What a handler came to, its value aside. -/
def ending {α : Type} (q : Handler α) : Option (Except AppError Unit) :=
  q.outcome.map (Except.map fun _ ↦ ())

@[simp] theorem ending_ret {α : Type} (a : α) : ending (.ret a : Handler α) = some (.ok ()) := rfl

@[simp] theorem ending_fail {α : Type} (e : AppError) :
    ending (.fail e : Handler α) = some (.error e) := rfl

/-- `Straight l h o`: going through the statements `l` in order and stopping at the first fault made
the exchanges `h` and came to `o`. -/
inductive Straight : List Statement → List Event → Option (Except AppError Unit) → Prop
  | done : Straight [] [] (some (.ok ()))
  | waiting (s : Statement) (l : List Statement) : Straight (s :: l) [] none
  | failed (s : Statement) (l : List Statement) (e : Fault) :
      Straight (s :: l) [⟨s, .error e⟩] (some (.error (.database e.text)))
  | next {s : Statement} {l : List Statement} (x : s.Value) {h : List Event}
      {o : Option (Except AppError Unit)} : Straight l h o → Straight (s :: l) (⟨s, .ok x⟩ :: h) o

theorem Straight.append {l₁ l₂ : List Statement} {h₁ h₂ : List Event}
    {o : Option (Except AppError Unit)} (hs₁ : Straight l₁ h₁ (some (.ok ())))
    (hs₂ : Straight l₂ h₂ o) : Straight (l₁ ++ l₂) (h₁ ++ h₂) o := by
  generalize hr : some (Except.ok ()) = r at hs₁
  induction hs₁ with
  | done => exact hs₂
  | waiting => cases hr
  | failed => cases hr
  | next x _ ih => exact (ih hr).next x

/-- What stopped early stops early in a longer list. -/
theorem Straight.of_not_done {l₁ : List Statement} {h : List Event}
    {o : Option (Except AppError Unit)} (hs : Straight l₁ h o) (ho : o ≠ some (.ok ()))
    (l₂ : List Statement) : Straight (l₁ ++ l₂) h o := by
  induction hs with
  | done => exact absurd rfl ho
  | waiting s l => exact Straight.waiting s _
  | failed s l e => exact Straight.failed s _ e
  | next x _ ih => exact (ih ho).next x

/-- Straight statements that were all answered came to their end. -/
theorem Straight.eq_ok_of_answered {l : List Statement} {h : List Event}
    {o : Option (Except AppError Unit)} (hs : Straight l h o)
    (hans : ∀ s f, (⟨s, .error f⟩ : Event) ∉ h) (ho : o ≠ none) : o = some (.ok ()) := by
  induction hs with
  | done => rfl
  | waiting => exact absurd rfl ho
  | failed s l f => exact absurd List.mem_cons_self (hans s f)
  | next x _ ih => exact ih (fun s f hmem ↦ hans s f (List.mem_cons_of_mem _ hmem)) ho

/-- Whatever it is answered, the handler goes through `l` in order. -/
def IsStraight {α : Type} (p : Handler α) (l : List Statement) : Prop :=
  ∀ h q, Prog.Follows p h q → Straight l h (ending q)

theorem isStraight_ret {α : Type} (a : α) : IsStraight (.ret a) [] := by
  intro h q hf
  obtain ⟨rfl, rfl⟩ := Prog.follows_ret.1 hf
  exact Straight.done

theorem isStraight_sql (s : Statement) : IsStraight (sql s) [s] := by
  intro h q hf
  rcases Prog.follows_call.1 hf with ⟨rfl, rfl⟩ | ⟨v, h', rfl, hf'⟩
  · exact Straight.waiting s []
  · cases v with
    | error e =>
      obtain ⟨rfl, rfl⟩ := Prog.follows_fail.1 hf'
      exact Straight.failed s [] e
    | ok x =>
      obtain ⟨rfl, rfl⟩ := Prog.follows_ret.1 hf'
      exact Straight.done.next x

theorem IsStraight.bind {α β : Type} {p : Handler α} {f : α → Handler β} {l₁ l₂ : List Statement}
    (hp : IsStraight p l₁) (hf : ∀ a, IsStraight (f a) l₂) :
    IsStraight (p.bind f) (l₁ ++ l₂) := by
  intro h q hq
  rcases Prog.follows_bind hq with ⟨p', hp', rfl, hne⟩ | ⟨h₁, h₂, a, rfl, hp', hq'⟩
  · have hs := hp h p' hp'
    cases p' with
    | ret a => exact absurd rfl (hne a)
    | fail e => exact hs.of_not_done (by simp) l₂
    | call e k => exact hs.of_not_done (by simp [ending]) l₂
  · exact (hp h₁ (.ret a) hp').append (hf a h₂ q hq')

end VyosFabric
