import VyosFabric.Access.Passwords
import VyosFabric.Interaction.Trace
import VyosFabric.Routes.Routers
import Mathlib.Logic.Function.Basic

/-!
# Revocation of admin

The server with the tokens it has issued. A request is let in with the claims of an issued token,
and whether it is an admin's is read off the claims from then on; `users` is not looked at again.

So an admin stays one until the token expires (`not_current_admin`). What holds instead is
`admin_since_login`: the claims are those of a user row that a login read, and they still describe
the user as long as no role was changed and no user deleted since.
-/

namespace VyosFabric

open Interaction

/-- The tables, the tokens in circulation, and what is in service: what arrived, and what is left of
it. -/
structure Service (Pid : Type) where
  state : Fabric
  issued : List Claims
  serving : Pid → Option (Arrival × FabricHandler (LoginAnswer ⊕ Answer))

namespace Service

/-- What can happen. -/
inductive Act (Pid : Type) where
  /-- A login or a request arrives. -/
  | enter (i : Pid) (a : Arrival)
  /-- One statement of it is answered. -/
  | exchange (i : Pid) (x : FabricEvent)
  /-- It is answered. -/
  | finish (i : Pid)

/-- The tokens an outcome hands out. -/
def tokens : Except AppError (LoginAnswer ⊕ Answer) → List Claims
  | .ok (.inl answer) => [answer.claims]
  | _ => []

variable {Pid : Type} [DecidableEq Pid] (A : Argon2)

/-- One step of the server. A request comes with the claims of a token that was issued. -/
inductive Step : Service Pid → Act Pid → Service Pid → Prop
  | enter {s : Service Pid} (i : Pid) (a : Arrival) :
      s.serving i = none → (∀ c, a = .call c → c.claims ∈ s.issued) →
      Step s (.enter i a)
        { s with serving := Function.update s.serving i (some (a, a.handle A)) }
  | exchange {s : Service Pid} (i : Pid) {a : Arrival} {e : FabricStatement}
      {k : e.Reply → FabricHandler (LoginAnswer ⊕ Answer)} (v : e.Reply) {w : Fabric} :
      s.serving i = some (a, .call e k) → s.state.exec A e v = some w →
      Step s (.exchange i ⟨e, v⟩)
        { s with state := w, serving := Function.update s.serving i (some (a, k v)) }
  | finish {s : Service Pid} (i : Pid) {a : Arrival} {p : FabricHandler (LoginAnswer ⊕ Answer)}
      {r : Except AppError (LoginAnswer ⊕ Answer)} :
      s.serving i = some (a, p) → p.outcome = some r →
      Step s (.finish i)
        { s with issued := tokens r ++ s.issued, serving := Function.update s.serving i none }

/-- Nothing issued and nothing in service. -/
def start (w : Fabric) : Service Pid where
  state := w
  issued := []
  serving := fun _ ↦ none

end Service

/-! ### Where claims come from -/

section

variable {Pid : Type} {A : Argon2} {claims : Claims} {acts : List (Service.Act Pid)}

/-- A login read a user that is what the claims say; `rest` is what happened since. -/
def ReadAs (claims : Claims) (acts rest : List (Service.Act Pid)) : Prop :=
  ∃ before j n u, acts = before ++ .exchange j ⟨.selectUserByName n, .ok (some u)⟩ :: rest ∧
    u.id = claims.sub ∧ u.role = claims.role

/-- Some login read the user of the claims. -/
def WasRead (claims : Claims) (acts : List (Service.Act Pid)) : Prop :=
  ∃ rest, ReadAs claims acts rest

theorem WasRead.append (h : WasRead claims acts) (more : List (Service.Act Pid)) :
    WasRead claims (acts ++ more) := by
  obtain ⟨rest, before, j, n, u, rfl, hid, hrole⟩ := h
  exact ⟨rest ++ more, before, j, n, u, by simp, hid, hrole⟩

/-- The tokens a program can still hand out were read. -/
def Issuing (acts : List (Service.Act Pid)) (p : FabricHandler (LoginAnswer ⊕ Answer)) : Prop :=
  p.Returns fun r ↦ ∀ answer, r = .inl answer → WasRead answer.claims acts

theorem Issuing.append {p : FabricHandler (LoginAnswer ⊕ Answer)} (h : Issuing acts p)
    (more : List (Service.Act Pid)) : Issuing (acts ++ more) p :=
  h.mono fun _ hr answer heq ↦ (hr answer heq).append more

/-- A request hands out no token. -/
theorem issuing_call (c : FabricCall) : Issuing acts ((Arrival.call c).handle A) :=
  Prog.Returns.bind (Prog.returns_true c.handle) fun _ _ _ heq ↦ nomatch heq

/-- A login hands out a token for the user it has read. -/
theorem afterRead_returns (u : User) (password : String) :
    (afterRead A u password).Returns fun answer ↦ answer.claims = ⟨u.id, u.role⟩ := by
  have hopen : (openSession u).Returns fun answer ↦ answer.claims = ⟨u.id, u.role⟩ :=
    Prog.Returns.bind (Prog.returns_true _) fun _ _ ↦ rfl
  rw [afterRead]
  cases A.verifyPassword u.passwordHash password with
  | valid => exact hopen
  | invalid => trivial
  | legacyPlaintext => exact Prog.Returns.bind (Prog.returns_true _) fun _ _ ↦ hopen

/-- **Every token was read off a user**, those in use included. -/
structure Traced (A : Argon2) (acts : List (Service.Act Pid)) (s : Service Pid) : Prop where
  issued : ∀ claims ∈ s.issued, WasRead claims acts
  calls : ∀ i c p, s.serving i = some (.call c, p) → WasRead c.claims acts
  programs : ∀ i a p, s.serving i = some (a, p) → p = a.handle A ∨ Issuing acts p

variable [DecidableEq Pid] {s s' : Service Pid} {act : Service.Act Pid}

omit [DecidableEq Pid] in
/-- What one statement leaves of a program that hands out tokens. -/
theorem issuing_of_exchange {i : Pid} {a : Arrival} {e : FabricStatement}
    {k : e.Reply → FabricHandler (LoginAnswer ⊕ Answer)} (v : e.Reply)
    (h : .call e k = a.handle A ∨ Issuing acts (.call e k)) :
    Issuing (acts ++ [.exchange i ⟨e, v⟩]) (k v) := by
  rcases h with hstart | hissuing
  · cases a with
    | call c =>
      have hcall : Issuing acts (.call e k) := hstart ▸ issuing_call c
      exact Issuing.append (hcall v) _
    | login body =>
      obtain ⟨rfl, hk⟩ := Prog.call.inj hstart
      obtain rfl := eq_of_heq hk
      cases v with
      | error err => trivial
      | ok found =>
        cases found with
        | none => trivial
        | some u =>
          -- this is the read: what is handed out later is about `u`
          refine Prog.Returns.bind (afterRead_returns (A := A) u body.password) ?_
          rintro answer hclaims _ ⟨⟩
          exact ⟨[], acts, i, body.username, u, rfl, by rw [hclaims], by rw [hclaims]⟩
  · exact Issuing.append (hissuing v) _

omit [DecidableEq Pid] in
/-- An arrival that returns at once is no login. -/
theorem issuing_of_ret {a : Arrival} {r : LoginAnswer ⊕ Answer} (h : .ret r = a.handle A) :
    Issuing acts (.ret r) := by
  cases a with
  | call c => exact h ▸ issuing_call c
  | login body =>
    have hout := congrArg Prog.outcome h
    cases hout

/-- What is in service after a change at one place. -/
theorem update_eq_some {α : Type} {f : Pid → Option α} {i j : Pid} {x : Option α} {y : α}
    (h : Function.update f i x j = some y) : x = some y ∨ f j = some y := by
  by_cases hji : j = i
  · subst hji
    rw [Function.update_self] at h
    exact Or.inl h
  · rw [Function.update_of_ne hji] at h
    exact Or.inr h

/-- **One step.** -/
theorem Traced.step (h : Traced A acts s) (hs : Service.Step A s act s') :
    Traced A (acts ++ [act]) s' := by
  cases hs with
  | enter i a hfree htoken =>
    refine ⟨fun claims hc ↦ (h.issued claims hc).append _, fun j c p hj ↦ ?_, fun j b p hj ↦ ?_⟩
    · rcases update_eq_some hj with hnew | hold
      · obtain ⟨rfl, -⟩ := Prod.mk.inj (Option.some.inj hnew)
        exact (h.issued _ (htoken c rfl)).append _
      · exact (h.calls j c p hold).append _
    · rcases update_eq_some hj with hnew | hold
      · obtain ⟨rfl, rfl⟩ := Prod.mk.inj (Option.some.inj hnew)
        exact Or.inl rfl
      · exact (h.programs j b p hold).imp_right fun hp ↦ hp.append _
  | exchange i v hcall hexec =>
    refine ⟨fun claims hc ↦ (h.issued claims hc).append _, fun j c p hj ↦ ?_, fun j b p hj ↦ ?_⟩
    · rcases update_eq_some hj with hnew | hold
      · obtain ⟨rfl, -⟩ := Prod.mk.inj (Option.some.inj hnew)
        exact (h.calls i c _ hcall).append _
      · exact (h.calls j c p hold).append _
    · rcases update_eq_some hj with hnew | hold
      · obtain ⟨rfl, rfl⟩ := Prod.mk.inj (Option.some.inj hnew)
        exact Or.inr (issuing_of_exchange v (h.programs i _ _ hcall))
      · exact (h.programs j b p hold).imp_right fun hp ↦ hp.append _
  | @finish i a p r hserve hout =>
    refine ⟨fun claims hc ↦ ?_, fun j c p hj ↦ ?_, fun j b p hj ↦ ?_⟩
    · rcases List.mem_append.1 hc with hnew | hold
      · -- the claims of a login that returned
        obtain ⟨answer, rfl, rfl⟩ : ∃ answer, r = .ok (.inl answer) ∧ claims = answer.claims := by
          unfold Service.tokens at hnew
          split at hnew
          · exact ⟨_, rfl, List.mem_singleton.1 hnew⟩
          · cases hnew
        obtain rfl := Prog.outcome_eq_ok.1 hout
        exact ((h.programs i a _ hserve).elim issuing_of_ret id answer rfl).append _
      · exact (h.issued claims hold).append _
    · rcases update_eq_some hj with hnew | hold
      · cases hnew
      · exact (h.calls j c p hold).append _
    · rcases update_eq_some hj with hnew | hold
      · cases hnew
      · exact (h.programs j b p hold).imp_right fun hp ↦ hp.append _

/-- **Along a trace.** -/
theorem traced_of_trace {w : Fabric} (h : Trace (Service.Step A) (.start w) acts s) :
    Traced A acts s := by
  refine h.from_end (P := Traced A) ⟨?_, ?_, ?_⟩ ?_
  · intro claims hc
    exact absurd hc List.not_mem_nil
  · intro i c p hp
    exact absurd hp (Option.some_ne_none _).symm
  · intro i a p hp
    exact absurd hp (Option.some_ne_none _).symm
  · intro tr m a m' _ hstep htraced
    exact htraced.step hstep

/-! ### What the claims still say -/

/-- Nothing of the list takes the admin role from the user: no update gives another role, and the
user is not deleted. -/
def Unrevoked (id : Uuid) (acts : List (Service.Act Pid)) : Prop :=
  (∀ j patch row r, .exchange j ⟨.updateUser id patch, .ok (some row)⟩ ∈ acts →
    patch.role = some r → r = "admin") ∧
  ∀ j n, .exchange j ⟨.deleteUser id, .ok n⟩ ∉ acts

omit [DecidableEq Pid] in
/-- What an update that gives no other role makes of an admin's row. -/
theorem admin_of_rowEffect {e : FabricStatement} {v : e.Reply} {u : User} (hu : u.role = "admin")
    (hrole : ∀ patch row r, (⟨e, v⟩ : FabricEvent) = ⟨.updateUser u.id patch, .ok (some row)⟩ →
      patch.role = some r → r = "admin") : (e.rowEffect v u).role = "admin" := by
  unfold FabricStatement.rowEffect
  split
  · rename_i k patch row
    split
    · rename_i hid
      cases hpatch : patch.role with
      | none => rw [UserPatch.apply, hpatch]; exact hu
      | some r =>
        rw [UserPatch.apply, hpatch]
        exact hrole patch row r (by rw [hid]) hpatch
    · exact hu
  · split <;> exact hu
  · exact hu

/-- **An admin stays one** while nothing takes the role away. -/
theorem admin_of_unrevoked {id : Uuid} (h : Trace (Service.Step A) s acts s')
    (hun : Unrevoked id acts) (hs : ∃ u, s.state.user id = some u ∧ u.role = "admin") :
    ∃ u, s'.state.user id = some u ∧ u.role = "admin" := by
  refine h.invariant (P := fun s ↦ ∃ u, s.state.user id = some u ∧ u.role = "admin") ?_ hs
  rintro act hact m m' hstep ⟨u, hu, hrole⟩
  cases hstep with
  | enter => exact ⟨u, hu, hrole⟩
  | finish => exact ⟨u, hu, hrole⟩
  | @exchange i a e k v w _ hexec =>
    have hid : u.id = id := by simpa using List.find?_some hu
    refine ⟨_, user_of_exec hexec hu ?_, ?_⟩
    · intro n hdel
      exact hun.2 i n (hdel ▸ hact)
    · refine admin_of_rowEffect hrole fun patch row r hupdate hr ↦ ?_
      rw [hid] at hupdate
      exact hun.1 i patch row r (hupdate ▸ hact) hr

/-- Keys stay keys along a trace. -/
theorem keyed_of_trace (h : Trace (Service.Step A) s acts s') (hs : s.state.Keyed) :
    s'.state.Keyed := by
  refine h.invariant (P := fun s ↦ s.state.Keyed) ?_ hs
  intro act _ m m' hstep hm
  cases hstep with
  | enter => exact hm
  | finish => exact hm
  | exchange i v _ hexec => exact exec_keyed hexec hm

/-- **Who is taken for an admin.** The claims of a request in service were read off a user row by a
login, and so at every check that a request passes as an admin's: it was the row of an admin. And
while nothing took the role away since that read, the user is an admin at this moment. -/
theorem admin_since_login {w : Fabric} (hw : w.Keyed)
    (h : Trace (Service.Step A) (.start w) acts s) {i : Pid} {c : FabricCall}
    {p : FabricHandler (LoginAnswer ⊕ Answer)} (hi : s.serving i = some (.call c, p))
    (hadmin : c.claims.isAdmin = true) :
    ∃ before j n u since,
      acts = before ++ .exchange j ⟨.selectUserByName n, .ok (some u)⟩ :: since ∧
      u.id = c.claims.sub ∧ u.role = "admin" ∧
      (Unrevoked c.claims.sub since →
        ∃ u', s.state.user c.claims.sub = some u' ∧ u'.role = "admin") := by
  obtain ⟨since, before, j, n, u, rfl, hid, hrole⟩ := (traced_of_trace h).calls i c p hi
  have hrole : u.role = "admin" := hrole.trans (beq_iff_eq.1 hadmin)
  refine ⟨before, j, n, u, since, rfl, hid, hrole, fun hun ↦ ?_⟩
  obtain ⟨m, hbefore, hrest⟩ := trace_append.1 h
  obtain ⟨m', hread, hsince⟩ := trace_cons.1 hrest
  refine admin_of_unrevoked hsince hun ?_
  -- the row that was read is the row of its identifier
  cases hread with
  | exchange _ _ _ hexec =>
    obtain ⟨hfound, rfl⟩ := of_guarded hexec
    have hmem : u ∈ m.state.users := List.mem_of_find?_eq_some hfound.symm
    refine ⟨u, ?_, hrole⟩
    exact find?_eq_of_nodup (keyed_of_trace hbefore hw).users.nodup hmem fun b ↦ by
      rw [hid]
      exact beq_iff_eq

end

/-! ### An admin who is none any more -/

def sampleStaffr (role : String) : User := { sampleUser "$pw" with role := role }

def sampleStaff (role : String) : Fabric :=
  { sampleFabric "" with users := [sampleStaffr role] }

/-- The admin logs in. -/
def sampleLogin : List (Service.Act Bool) :=
  [.enter false (.login ⟨"bob", "pw"⟩),
    .exchange false ⟨.selectUserByName "bob", .ok (some (sampleStaffr "admin"))⟩,
    .exchange false ⟨.selectUser 1, .ok (some (sampleStaffr "admin"))⟩,
    .exchange false ⟨.selectAccess 1, .ok []⟩, .finish false]

/-- The admin's role is changed. -/
def sampleDemotion : List (Service.Act Bool) :=
  [.enter false (.update ⟨1, "admin"⟩ 1 ⟨none, none, none, none, none, some "operator"⟩),
    .exchange false ⟨.updateUser 1 ⟨none, none, none, none, none, some "operator"⟩,
      .ok (some (sampleStaffr "operator"))⟩,
    .exchange false ⟨.selectAllAccess, .ok []⟩, .finish false]

/-- A request of the user routes, with the token of the login. -/
def sampleUserList : FabricCall := ⟨⟨1, "admin"⟩, .users .list⟩

theorem sampleStaff_keyed (role : String) : (sampleStaff role).Keyed where
  users := ⟨by simp [sampleStaff], by simp [sampleStaff, sampleStaffr, sampleUser, sampleFabric]⟩
  usernames := by simp [sampleStaff]
  sites := ⟨by simp [sampleStaff, sampleFabric], by simp [sampleStaff, sampleFabric]⟩
  routers := ⟨by simp [sampleStaff, sampleFabric], by simp [sampleStaff, sampleFabric]⟩

/-- The login as a trace. -/
theorem trace_sampleLogin : ∃ s : Service Bool,
    Trace (Service.Step sampleArgon2) (.start (sampleStaff "admin")) sampleLogin s ∧
      s.state = sampleStaff "admin" ∧ s.issued = [⟨1, "admin"⟩] ∧ ∀ i, s.serving i = none := by
  refine ⟨_, Trace.cons (.enter false _ rfl ?_) <| Trace.cons (.exchange false _ rfl rfl) <|
    Trace.cons (.exchange false _ rfl rfl) <| Trace.cons (.exchange false _ rfl rfl) <|
    Trace.cons (.finish false rfl rfl) <| Trace.nil _, rfl, rfl, ?_⟩
  · intro c hc
    cases hc
  · intro i
    cases i <;> rfl

/-- A request enters with the token. -/
theorem enter_sampleUserList {s : Service Bool} (hissued : s.issued = [⟨1, "admin"⟩])
    (hfree : ∀ i, s.serving i = none) :
    Service.Step sampleArgon2 s (.enter true (.call sampleUserList)) { s with
      serving := Function.update s.serving true
        (some (.call sampleUserList, (Arrival.call sampleUserList).handle sampleArgon2)) } := by
  refine .enter true _ (hfree true) ?_
  rintro c ⟨⟩
  rw [hissued]
  exact List.mem_singleton_self _

/-- Nothing came between. -/
theorem admin_since_login_sample : ∃ before j n u since,
    sampleLogin ++ [.enter true (.call sampleUserList)] =
      before ++ .exchange j ⟨.selectUserByName n, .ok (some u)⟩ :: since ∧
      u.id = 1 ∧ u.role = "admin" ∧
      (Unrevoked 1 since → ∃ u', (sampleStaff "admin").user 1 = some u' ∧ u'.role = "admin") := by
  obtain ⟨s, htrace, hstate, hissued, hfree⟩ := trace_sampleLogin
  have hsince := admin_since_login (sampleStaff_keyed "admin")
    (trace_snoc.2 ⟨s, htrace, enter_sampleUserList hissued hfree⟩)
    (i := true) (c := sampleUserList) rfl rfl
  rw [hstate] at hsince
  exact hsince

/-- The admin logs in and the role is changed; the token still opens the user routes. -/
theorem not_current_admin : ∃ (s : Service Bool) (k : _ → FabricHandler (LoginAnswer ⊕ Answer)),
    Trace (Service.Step sampleArgon2) (.start (sampleStaff "admin"))
      (sampleLogin ++ (sampleDemotion ++ [.enter true (.call sampleUserList)])) s ∧
    s.serving true = some (.call sampleUserList, .call .selectUsers k) ∧
    ¬∃ u, s.state.user 1 = some u ∧ u.role = "admin" := by
  obtain ⟨s, htrace, hstate, hissued, hfree⟩ := trace_sampleLogin
  -- the demotion, from where the login left the server
  obtain ⟨s', hdemotion, hstate', hissued', hfree'⟩ : ∃ s' : Service Bool,
      Trace (Service.Step sampleArgon2) s sampleDemotion s' ∧
        s'.state = sampleStaff "operator" ∧ s'.issued = [⟨1, "admin"⟩] ∧
        ∀ i, s'.serving i = none := by
    obtain ⟨state, issued, serving⟩ := s
    obtain rfl : state = _ := hstate
    obtain rfl : issued = _ := hissued
    obtain rfl : serving = fun _ ↦ none := funext hfree
    refine ⟨_, Trace.cons (.enter false _ rfl ?_) <| Trace.cons (.exchange false _ rfl rfl) <|
      Trace.cons (.exchange false _ rfl rfl) <| Trace.cons (.finish false rfl rfl) <| Trace.nil _,
      rfl, rfl, ?_⟩
    · rintro c ⟨⟩
      exact List.mem_singleton_self _
    · intro i
      cases i <;> rfl
  refine ⟨_, _, trace_append.2 ⟨s, htrace, trace_snoc.2 ⟨s', hdemotion,
    enter_sampleUserList hissued' hfree'⟩⟩, rfl, ?_⟩
  rintro ⟨u, hu, hrole⟩
  rw [hstate'] at hu
  obtain rfl := Option.some.inj hu
  exact absurd hrole (by decide)

end VyosFabric
