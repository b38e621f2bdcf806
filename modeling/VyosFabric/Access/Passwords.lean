import VyosFabric.Access.Keys
import VyosFabric.Routes.Routers

/-!
# A password change against the logins in flight

A login that finds legacy plaintext replaces it by a hash, with an `UPDATE` by user id two
statements after its read. An `update_user` in between is overwritten. `changeKept_iff` finds that
the change is kept exactly when no such `UPDATE` comes after it, or the plaintext was the new
password anyway.

Everything follows from where stored values come from: a hash in the table was made from the
password its writer was given (`stored_of_run`), so plaintext can only be what was stored from the
start, and what a login writes is a hash of that (`rehash_of_run`).
-/

namespace VyosFabric

open Interaction

variable {A : Argon2}

/-! ### What one request does -/

/-- The statement writes a stored password. -/
def FabricStatement.writesPassword : FabricStatement → Bool
  | .updatePasswordHash _ _ => true
  | .updateUser _ _ => true
  | _ => false

theorem loadUser_issues {P : FabricStatement → Prop} {id : Uuid} (huser : P (.selectUser id))
    (haccess : P (.selectAccess id)) : (loadUser id).Issues P := by
  refine Prog.Issues.bind (query_issues huser) fun found ↦ ?_
  cases found with
  | none => trivial
  | some u => exact Prog.Issues.bind (query_issues haccess) fun _ ↦ trivial

theorem openSession_issues {P : FabricStatement → Prop} {user : User}
    (huser : P (.selectUser user.id)) (haccess : P (.selectAccess user.id)) :
    (openSession user).Issues P :=
  Prog.Issues.bind (loadUser_issues huser haccess) fun _ ↦ trivial

/-- What a login does once it has read the user. -/
def afterRead (A : Argon2) (user : User) (password : String) : FabricHandler LoginAnswer :=
  match A.verifyPassword user.passwordHash password with
  | .valid => openSession user
  | .legacyPlaintext => (upgrade user.id password).bind fun _ ↦ openSession user
  | .invalid => .fail .unauthorized

theorem follows_login_read {body : LoginRequest} {u : User} {h : List FabricEvent}
    {q : FabricHandler LoginAnswer} :
    Prog.Follows (login A body) (⟨.selectUserByName body.username, .ok (some u)⟩ :: h) q ↔
      Prog.Follows (afterRead A u body.password) h q := by
  constructor
  · intro hf
    obtain ⟨k, hk, hf⟩ := Prog.follows_cons.1 hf
    obtain ⟨-, rfl⟩ := Prog.call.inj hk
    exact hf
  · exact fun hf ↦ Prog.follows_cons.2 ⟨_, rfl, hf⟩

/-- An upgrade, statement by statement. -/
theorem follows_upgrade_bind {α : Type} {id : Uuid} {password : String} {p : FabricHandler α}
    {h : List FabricEvent} {q : FabricHandler α}
    (hf : Prog.Follows ((upgrade id password).bind fun _ ↦ p) h q) :
    (h = [] ∧ q.outcome = none) ∨
      (∃ (e : Fault) (h' : List FabricEvent), h = ⟨.hashPassword password, .error e⟩ :: h' ∧
        Prog.Follows p h' q) ∨
      (∃ hash : String, h = [⟨.hashPassword password, .ok hash⟩] ∧ q.outcome = none) ∨
      ∃ (hash : String) (v : Except Fault ℕ) (h' : List FabricEvent),
        h = ⟨.hashPassword password, .ok hash⟩ :: ⟨.updatePasswordHash id hash, v⟩ :: h' ∧
        Prog.Follows p h' q := by
  rw [upgrade, Prog.bind_eq, Prog.bind_assoc] at hf
  rcases follows_result_bind hf with ⟨rfl, hq⟩ | ⟨hashed, h', rfl, hf'⟩
  · exact Or.inl ⟨rfl, hq⟩
  · cases hashed with
    | error e => exact Or.inr (Or.inl ⟨e, h', rfl, hf'⟩)
    | ok hash =>
      rcases follows_result_bind hf' with ⟨rfl, hq⟩ | ⟨v, h'', rfl, hrest⟩
      · exact Or.inr (Or.inr (Or.inl ⟨hash, rfl, hq⟩))
      · exact Or.inr (Or.inr (Or.inr ⟨hash, v, h'', rfl, hrest⟩))

/-- **What a login writes** is a hash of its own password, which it has found stored as
plaintext. -/
theorem login_rehash {body : LoginRequest} {h₁ h₂ : List FabricEvent}
    {q : FabricHandler LoginAnswer}
    {id : Uuid} {hash : String} {v : Except Fault ℕ}
    (hf : Prog.Follows (login A body) (h₁ ++ ⟨.updatePasswordHash id hash, v⟩ :: h₂) q) :
    ∃ u : User, h₁ = [⟨.selectUserByName body.username, .ok (some u)⟩,
        ⟨.hashPassword body.password, .ok hash⟩] ∧ u.id = id ∧
      A.verifyPassword u.passwordHash body.password = .legacyPlaintext := by
  -- once the session is opened nothing is written
  have hquiet : ∀ {user : User} {h : List FabricEvent}, Prog.Follows (openSession user) h q →
      (⟨.updatePasswordHash id hash, v⟩ : FabricEvent) ∉ h := by
    intro user h hopen hmem
    have hno := ((openSession_issues (P := fun s ↦ s.writesPassword = false) rfl rfl).of_follows
      hopen).1 _ hmem
    cases hno
  cases h₁ with
  | nil =>
    obtain ⟨k, hk, -⟩ := Prog.follows_cons.1 hf
    cases (Prog.call.inj hk).1
  | cons x h₁ =>
    rcases follows_query_bind hf with ⟨hnil, -⟩ | ⟨e, hone, -⟩ | ⟨found, h', hcons, hfound⟩
    · cases hnil
    · exact absurd (List.cons.inj hone).2 (by simp)
    · obtain ⟨rfl, rfl⟩ := List.cons.inj hcons
      cases found with
      | none => exact absurd (Prog.follows_fail.1 hfound).1 (by simp)
      | some u =>
        have hread : Prog.Follows (afterRead A u body.password)
          (h₁ ++ ⟨.updatePasswordHash id hash, v⟩ :: h₂) q := hfound
        rw [afterRead] at hread
        cases hverify : A.verifyPassword u.passwordHash body.password with
        | valid =>
          rw [hverify] at hread
          exact absurd (List.mem_append_right _ List.mem_cons_self) (hquiet hread)
        | invalid =>
          rw [hverify] at hread
          exact absurd (Prog.follows_fail.1 hread).1 (by simp)
        | legacyPlaintext =>
          rw [hverify] at hread
          obtain ⟨y, h₁, rfl⟩ : ∃ y t, h₁ = y :: t := by
            cases h₁ with
            | nil =>
              obtain ⟨k, hk, -⟩ := Prog.follows_cons.1 hread
              cases (Prog.call.inj hk).1
            | cons y t => exact ⟨y, t, rfl⟩
          rcases follows_upgrade_bind hread with ⟨hnil, -⟩ | ⟨e, h', heq, hopen⟩ |
            ⟨hash', heq, -⟩ | ⟨hash', v', h', heq, hopen⟩
          · cases hnil
          · obtain ⟨rfl, rfl⟩ := List.cons.inj heq
            exact absurd (List.mem_append_right _ List.mem_cons_self) (hquiet hopen)
          · exact absurd (List.cons.inj heq).2 (by simp)
          · obtain ⟨rfl, hrest⟩ := List.cons.inj heq
            cases h₁ with
            | nil =>
              obtain ⟨hwrite, -⟩ := List.cons.inj hrest
              cases hwrite
              exact ⟨u, rfl, rfl, hverify⟩
            | cons z h₁ =>
              obtain ⟨-, rfl⟩ := List.cons.inj hrest
              exact absurd (List.mem_append_right _ List.mem_cons_self) (hquiet hopen)

theorem follows_newHash_bind {α : Type} {password : Option String}
    {f : Option String → FabricHandler α} {h : List FabricEvent} {q : FabricHandler α}
    (hf : Prog.Follows ((newHash password).bind f) h q) :
    ((∀ p, password = some p → p = "") ∧ Prog.Follows (f none) h q) ∨
      ∃ p, password = some p ∧ p ≠ "" ∧ (h = [] ∨ (∃ e, h = [⟨.hashPassword p, .error e⟩]) ∨
        ∃ hash h', h = ⟨.hashPassword p, .ok hash⟩ :: h' ∧ Prog.Follows (f (some hash)) h' q) := by
  cases password with
  | none => exact Or.inl ⟨nofun, hf⟩
  | some p =>
    by_cases hp : p = ""
    · rw [newHash, if_pos hp] at hf
      refine Or.inl ⟨?_, hf⟩
      rintro _ ⟨⟩
      exact hp
    · rw [newHash, if_neg hp] at hf
      refine Or.inr ⟨p, rfl, hp, ?_⟩
      rcases Prog.follows_call.1 hf with ⟨rfl, -⟩ | ⟨v, h', rfl, hf'⟩
      · exact Or.inl rfl
      · cases v with
        | error e =>
          obtain ⟨rfl, -⟩ := Prog.follows_fail.1 hf'
          exact Or.inr (Or.inl ⟨e, rfl⟩)
        | ok hash => exact Or.inr (Or.inr ⟨hash, h', rfl, hf'⟩)

theorem fetchAccessMap_issues {P : FabricStatement → Prop} (h : P .selectAllAccess) :
    fetchAccessMap.Issues P :=
  Prog.Issues.bind (query_issues h) fun _ ↦ trivial

/-- The only writing statement of a handler is its first. -/
theorem follows_first_write {α : Type} {id k : Uuid} {patch patch' : UserPatch}
    {f : Option User → FabricHandler α}
    {h₁ h₂ : List FabricEvent} {q : FabricHandler α} {v : Except Fault (Option User)}
    (hf : Prog.Follows ((query (.updateUser id patch)).bind f)
      (h₁ ++ ⟨.updateUser k patch', v⟩ :: h₂) q)
    (hquiet : ∀ found, (f found).Issues fun s ↦ s.writesPassword = false) :
    h₁ = [] ∧ k = id ∧ patch' = patch := by
  cases h₁ with
  | nil =>
    obtain ⟨k', hk, -⟩ := Prog.follows_cons.1 hf
    obtain ⟨rfl, rfl⟩ := FabricStatement.updateUser.inj (Prog.call.inj hk).1
    exact ⟨rfl, rfl, rfl⟩
  | cons x h₁ =>
    rcases follows_query_bind hf with ⟨hnil, -⟩ | ⟨e, hone, -⟩ | ⟨found, h', hcons, hfound⟩
    · cases hnil
    · exact absurd (List.cons.inj hone).2 (by simp)
    · obtain ⟨rfl, rfl⟩ := List.cons.inj hcons
      have hno : FabricStatement.writesPassword (.updateUser k patch') = false :=
        ((hquiet found).of_follows hfound).1 _ (List.mem_append_right _ List.mem_cons_self)
      cases hno

/-- **What an update writes** is a hash of the password it was given, or nothing if it was given
none. -/
theorem updateUser_patch {id k : Uuid} {body : UpdateUser} {h₁ h₂ : List FabricEvent}
    {q : FabricHandler UserWithAccess} {patch : UserPatch} {v : Except Fault (Option User)}
    (hf : Prog.Follows (updateUser id body) (h₁ ++ ⟨.updateUser k patch, v⟩ :: h₂) q) :
    k = id ∧ ((patch.passwordHash = none ∧ ∀ p, body.password = some p → p = "") ∨
      ∃ p hash, body.password = some p ∧ p ≠ "" ∧ patch.passwordHash = some hash ∧
        (⟨.hashPassword p, .ok hash⟩ : FabricEvent) ∈ h₁) := by
  -- after the `UPDATE` only the access map is read
  have hmap : ∀ f : (Uuid → List SiteAccessEntry) → FabricHandler UserWithAccess,
      (∀ m, ∃ u, f m = .ret u) →
      (fetchAccessMap.bind f).Issues fun s ↦ s.writesPassword = false := by
    intro f hret
    refine Prog.Issues.bind (fetchAccessMap_issues rfl) fun m ↦ ?_
    obtain ⟨u, hu⟩ := hret m
    rw [hu]
    trivial
  rcases follows_newHash_bind hf with
    ⟨hnone, hf⟩ | ⟨p, hp, hne, hnil | ⟨e, hone⟩ | ⟨hash, h', heq, hf⟩⟩
  · obtain ⟨-, rfl, rfl⟩ := follows_first_write hf (by
      rintro (_ | user)
      · trivial
      · exact hmap _ fun _ ↦ ⟨_, rfl⟩)
    exact ⟨rfl, Or.inl ⟨rfl, hnone⟩⟩
  · simp at hnil
  · cases h₁ with
    | nil =>
      obtain ⟨hwrite, -⟩ := List.cons.inj hone
      cases hwrite
    | cons x h₁ => exact absurd (List.cons.inj hone).2 (by simp)
  · cases h₁ with
    | nil =>
      obtain ⟨hwrite, -⟩ := List.cons.inj heq
      cases hwrite
    | cons x h₁ =>
      obtain ⟨rfl, rfl⟩ := List.cons.inj heq
      obtain ⟨rfl, rfl, rfl⟩ := follows_first_write hf (by
        rintro (_ | user)
        · trivial
        · exact hmap _ fun _ ↦ ⟨_, rfl⟩)
      exact ⟨rfl, Or.inr ⟨p, hash, hp, hne, rfl, List.mem_cons_self⟩⟩

/-! ### Runs of logins and updates -/

/-- An `update_user` with the claims of its token. -/
def Arrival.update (claims : Claims) (id : Uuid) (body : UpdateUser) : Arrival :=
  .call ⟨claims, .users (.update id body)⟩

theorem follows_login {body : LoginRequest} {h : List FabricEvent}
    {q : FabricHandler (LoginAnswer ⊕ Answer)}
    (hf : Prog.Follows ((Arrival.login body).handle A) h q) :
    ∃ q', Prog.Follows (login A body) h q' := by
  obtain ⟨q', hq, -⟩ := Prog.follows_map hf
  exact ⟨q', hq⟩

/-- A request of somebody who is no admin does nothing. -/
theorem follows_update {claims : Claims} {id : Uuid} {body : UpdateUser} {h : List FabricEvent}
    {q : FabricHandler (LoginAnswer ⊕ Answer)}
    (hf : Prog.Follows ((Arrival.update claims id body).handle A) h q) :
    h = [] ∨ ∃ q', Prog.Follows (updateUser id body) h q' := by
  obtain ⟨q₁, hq, -⟩ := Prog.follows_map hf
  cases hadmin : claims.isAdmin with
  | false =>
    have hforbidden : FabricCall.handle ⟨claims, .users (.update id body)⟩ =
        .fail .forbidden := by
      simp [FabricCall.handle, requireAdmin, hadmin]
    rw [hforbidden] at hq
    exact Or.inl (Prog.follows_fail.1 hq).1
  | true =>
    have hallowed : FabricCall.handle ⟨claims, .users (.update id body)⟩ =
        ((updateUser id body).bind fun u ↦ .ret (UserAnswer.user u)).bind
          fun r ↦ .ret (Answer.users r) := by
      simp [FabricCall.handle, requireAdmin, hadmin, UserRequest.handle]
    rw [hallowed] at hq
    obtain ⟨q₂, hq, -⟩ := Prog.follows_map hq
    obtain ⟨q₃, hq, -⟩ := Prog.follows_map hq
    exact Or.inr ⟨q₃, hq⟩

/-- A run of logins and updates of users, in any interleaving. -/
structure PasswordRun {Pid : Type} [DecidableEq Pid] (A : Argon2) (w : Fabric)
    (arrivals : Pid → Arrival) (tr : List (Pid × FabricEvent)) (w' : Fabric) : Prop where
  arrives : ∀ j, (∃ body, arrivals j = .login body) ∨
    ∃ claims id body, arrivals j = .update claims id body
  run : ∃ s' :
      Pool FabricStatement FabricStatement.Reply AppError (LoginAnswer ⊕ Answer) Fabric Pid,
    s'.state = w' ∧ Run (Fabric.exec A) ⟨w, fun j ↦ (arrivals j).handle A⟩ tr s'

section Runs

variable {Pid : Type} [DecidableEq Pid] {w w' : Fabric} {arrivals : Pid → Arrival}
  {tr a b : List (Pid × FabricEvent)} {j : Pid} {x : FabricEvent}

theorem PasswordRun.execs (h : PasswordRun A w arrivals tr w') :
    execAll (Fabric.exec A) (tr.map Prod.snd) w = some w' := by
  obtain ⟨s', rfl, hrun⟩ := h.run
  exact hrun.execs

theorem PasswordRun.follows (h : PasswordRun A w arrivals tr w') (j : Pid) :
    ∃ q, Prog.Follows ((arrivals j).handle A) (proj j tr) q := by
  obtain ⟨s', -, hrun⟩ := h.run
  exact ⟨s'.prog j, hrun.follows j⟩

/-- The statements of logins. -/
def FabricStatement.ofLogin : FabricStatement → Bool
  | .selectUserByName _ => true
  | .hashPassword _ => true
  | .updatePasswordHash _ _ => true
  | .selectUser _ => true
  | .selectAccess _ => true
  | _ => false

/-- The statements of updates. -/
def FabricStatement.ofUpdate : FabricStatement → Bool
  | .hashPassword _ => true
  | .updateUser _ _ => true
  | .selectAllAccess => true
  | _ => false

theorem login_issues (body : LoginRequest) : (login A body).Issues fun s ↦ s.ofLogin = true := by
  refine Prog.Issues.bind (query_issues rfl) fun found ↦ ?_
  cases found with
  | none => trivial
  | some u =>
    show Prog.Issues _ (afterRead A u body.password)
    rw [afterRead]
    cases A.verifyPassword u.passwordHash body.password with
    | valid => exact openSession_issues rfl rfl
    | invalid => trivial
    | legacyPlaintext =>
      refine Prog.Issues.bind ⟨rfl, fun hashed ↦ ?_⟩ fun _ ↦ openSession_issues rfl rfl
      cases hashed with
      | error e => trivial
      | ok hash => exact ⟨rfl, fun _ ↦ trivial⟩

theorem updateUser_issues (id : Uuid) (body : UpdateUser) :
    (updateUser id body).Issues fun s ↦ s.ofUpdate = true := by
  have hhash : (newHash body.password).Issues fun s ↦ s.ofUpdate = true := by
    cases body.password with
    | none => trivial
    | some p =>
      rw [newHash]
      split
      · trivial
      · refine Prog.Issues.bind ⟨rfl, fun v ↦ ?_⟩ fun _ ↦ trivial
        cases v <;> trivial
  refine Prog.Issues.bind hhash fun hash ↦ Prog.Issues.bind (query_issues rfl) fun found ↦ ?_
  cases found with
  | none => trivial
  | some u => exact Prog.Issues.bind (fetchAccessMap_issues rfl) fun _ ↦ trivial

/-- The place of an exchange in the history of its process. -/
theorem PasswordRun.follows_split (h : PasswordRun A w arrivals (a ++ (j, x) :: b) w') :
    ∃ q, Prog.Follows ((arrivals j).handle A) (proj j a ++ x :: proj j b) q := by
  obtain ⟨q, hq⟩ := h.follows j
  rw [proj_append, proj_cons_self] at hq
  exact ⟨q, hq⟩

/-- **Who re-hashes**: a login that has read the user and found its own password as plaintext. -/
theorem PasswordRun.rehash {id : Uuid} {hash : String} {v : Except Fault ℕ}
    (h : PasswordRun A w arrivals (a ++ (j, ⟨.updatePasswordHash id hash, v⟩) :: b) w') :
    ∃ (body : LoginRequest) (u : User),
      (j, (⟨.selectUserByName body.username, .ok (some u)⟩ : FabricEvent)) ∈ a ∧
      (j, (⟨.hashPassword body.password, .ok hash⟩ : FabricEvent)) ∈ a ∧ u.id = id ∧
      A.verifyPassword u.passwordHash body.password = .legacyPlaintext := by
  obtain ⟨q, hq⟩ := h.follows_split
  rcases h.arrives j with ⟨body, hj⟩ | ⟨claims, k, body, hj⟩
  · rw [hj] at hq
    obtain ⟨q', hq⟩ := follows_login hq
    obtain ⟨u, hhist, hid, hverify⟩ := login_rehash hq
    refine ⟨body, u, ?_, ?_, hid, hverify⟩
    · exact mem_proj.1 (hhist ▸ List.mem_cons_self)
    · exact mem_proj.1 (hhist ▸ List.mem_cons_of_mem _ List.mem_cons_self)
  · rw [hj] at hq
    rcases follows_update hq with hnil | ⟨q', hq⟩
    · simp at hnil
    · have hof := ((updateUser_issues k body).of_follows hq).1 _
        (List.mem_append_right _ List.mem_cons_self)
      cases hof

/-- **Who updates**: an `update_user`, with a hash of the password it was given. -/
theorem PasswordRun.update {k : Uuid} {patch : UserPatch} {v : Except Fault (Option User)}
    (h : PasswordRun A w arrivals (a ++ (j, ⟨.updateUser k patch, v⟩) :: b) w') :
    ∃ claims body, arrivals j = .update claims k body ∧
      ((patch.passwordHash = none ∧ ∀ p, body.password = some p → p = "") ∨
        ∃ p hash, body.password = some p ∧ p ≠ "" ∧ patch.passwordHash = some hash ∧
          (j, (⟨.hashPassword p, .ok hash⟩ : FabricEvent)) ∈ a) := by
  obtain ⟨q, hq⟩ := h.follows_split
  rcases h.arrives j with ⟨body, hj⟩ | ⟨claims, id, body, hj⟩
  · rw [hj] at hq
    obtain ⟨q', hq⟩ := follows_login hq
    have hof := ((login_issues body).of_follows hq).1 _
      (List.mem_append_right _ List.mem_cons_self)
    cases hof
  · rw [hj] at hq
    rcases follows_update hq with hnil | ⟨q', hq⟩
    · simp at hnil
    · obtain ⟨rfl, hpatch⟩ := updateUser_patch hq
      refine ⟨claims, body, hj, hpatch.imp_right ?_⟩
      rintro ⟨p, hash, hp, hne, hsome, hmem⟩
      exact ⟨p, hash, hp, hne, hsome, mem_proj.1 hmem⟩

/-- No user is deleted. -/
theorem PasswordRun.not_delete (h : PasswordRun A w arrivals tr w') {id : Uuid}
    {v : Except Fault ℕ} : (j, (⟨.deleteUser id, v⟩ : FabricEvent)) ∉ tr := by
  intro hmem
  obtain ⟨q, hq⟩ := h.follows j
  rcases h.arrives j with ⟨body, hj⟩ | ⟨claims, k, body, hj⟩
  · rw [hj] at hq
    obtain ⟨q', hq⟩ := follows_login hq
    cases ((login_issues body).of_follows hq).1 _ (mem_proj.2 hmem)
  · rw [hj] at hq
    rcases follows_update hq with hnil | ⟨q', hq⟩
    · rw [← mem_proj, hnil] at hmem
      cases hmem
    · cases ((updateUser_issues k body).of_follows hq).1 _ (mem_proj.2 hmem)

/-- A hash that was answered was made from the password. -/
theorem PasswordRun.makes (h : PasswordRun A w arrivals tr w') {p hash : String}
    (hmem : (j, (⟨.hashPassword p, .ok hash⟩ : FabricEvent)) ∈ tr) : A.makes p hash = true := by
  obtain ⟨a, b, hsplit⟩ := List.append_of_mem (List.mem_map_of_mem (f := Prod.snd) hmem)
  have hexec := h.execs
  rw [hsplit] at hexec
  obtain ⟨m, -, hrest⟩ := execAll_append_eq_some.1 hexec
  obtain ⟨m', hstep, -⟩ := execAll_cons_eq_some.1 hrest
  exact (of_guarded hstep).1

/-! ### What is stored -/

theorem apply_passwordHash_of_none {patch : UserPatch} (h : patch.passwordHash = none) (u : User) :
    (patch.apply u).passwordHash = u.passwordHash := by
  rw [UserPatch.apply, h]
  rfl

theorem apply_passwordHash_of_some {patch : UserPatch} {hash : String}
    (h : patch.passwordHash = some hash) (hne : hash ≠ "") (u : User) :
    (patch.apply u).passwordHash = hash := by
  rw [UserPatch.apply, h]
  show (if hash = "" then some u.passwordHash else some hash).getD u.passwordHash = hash
  rw [if_neg hne]
  rfl

/-- A hash is not empty. -/
theorem Argon2.Ideal.ne_empty (hA : A.Ideal) {p hash : String} (h : A.makes p hash = true) :
    hash ≠ "" := by
  rintro rfl
  have hparse := hA.parses p "" h
  rw [hA.empty] at hparse
  cases hparse

/-- **A hash that was made lets its password in**, and no other. -/
theorem Argon2.Ideal.lets (hA : A.Ideal) {p hash : String} (h : A.makes p hash = true)
    (q : String) : A.verifyPassword hash q ≠ .invalid ↔ q = p := by
  rw [Argon2.verifyPassword, if_pos (hA.parses p hash h), ← hA.verifies p hash q h]
  cases A.verifies hash q <;> simp

/-- **A write leaves the stored value or puts a hash in its place.** -/
theorem PasswordRun.effect (hA : A.Ideal) (h : PasswordRun A w arrivals tr w')
    (hx : (j, x) ∈ tr) (u : User) :
    (x.1.rowEffect x.2 u).passwordHash = u.passwordHash ∨
      A.parses (x.1.rowEffect x.2 u).passwordHash = true := by
  obtain ⟨a, b, rfl⟩ := List.append_of_mem hx
  obtain ⟨s, v⟩ := x
  cases v with
  | error e => cases s <;> exact Or.inl rfl
  | ok y =>
    cases s with
    | updateUser k patch =>
      cases y with
      | none => exact Or.inl rfl
      | some row =>
        obtain ⟨claims, body, -, hpatch⟩ := h.update
        by_cases hk : u.id = k
        · have hrow : FabricStatement.rowEffect (.updateUser k patch) (.ok (some row)) u =
              patch.apply u :=
            if_pos hk
          rw [hrow]
          rcases hpatch with ⟨hnone, -⟩ | ⟨p, hash, -, -, hsome, hmem⟩
          · exact Or.inl (apply_passwordHash_of_none hnone u)
          · have hmakes := h.makes (List.mem_append_left _ hmem)
            rw [apply_passwordHash_of_some hsome (hA.ne_empty hmakes)]
            exact Or.inr (hA.parses p hash hmakes)
        · exact Or.inl (congrArg User.passwordHash (if_neg hk))
    | updatePasswordHash k hash =>
      obtain ⟨body, found, -, hmem, -, -⟩ := h.rehash
      by_cases hk : u.id = k
      · have hrow : FabricStatement.rowEffect (.updatePasswordHash k hash) (.ok y) u =
            { u with passwordHash := hash } :=
          if_pos hk
        rw [hrow]
        exact Or.inr (hA.parses _ hash (h.makes (List.mem_append_left _ hmem)))
      · exact Or.inl (congrArg User.passwordHash (if_neg hk))
    | _ => exact Or.inl rfl

/-- **The row of the user along the run.** What every exchange preserves of it, the run does. -/
theorem PasswordRun.row_invariant (h : PasswordRun A w arrivals tr w') {P : User → Prop}
    {l : List (Pid × FabricEvent)} (hl : l ⊆ tr) {id : Uuid} {u : User} {m m' : Fabric}
    (hu : m.user id = some u) (hP : P u)
    (hstep : ∀ y ∈ l, ∀ u : User, u.id = id → P u → P (y.2.1.rowEffect y.2.2 u))
    (hm : execAll (Fabric.exec A) (l.map Prod.snd) m = some m') :
    ∃ u', m'.user id = some u' ∧ P u' := by
  refine execAll_invariant (P := fun m ↦ ∃ u, m.user id = some u ∧ P u) ?_ hm ⟨u, hu, hP⟩
  rintro x hx s s' hexec ⟨u, hu, hP⟩
  obtain ⟨⟨i, y⟩, hy, rfl⟩ := List.mem_map.1 hx
  have hid : u.id = id := by simpa using List.find?_some hu
  refine ⟨_, user_of_exec hexec hu ?_, hstep _ hy u hid hP⟩
  intro n hdel
  have hmem := hl hy
  obtain ⟨s, v⟩ := y
  rw [hdel] at hmem
  exact h.not_delete hmem

/-- **Stored values.** What is stored was stored from the start, or it is a hash. -/
theorem PasswordRun.stored (hA : A.Ideal) (h : PasswordRun A w arrivals (a ++ b) w') {id : Uuid}
    {u : User} (hu : w.user id = some u) {m : Fabric}
    (hm : execAll (Fabric.exec A) (a.map Prod.snd) w = some m) :
    ∃ u', m.user id = some u' ∧
      (u'.passwordHash = u.passwordHash ∨ A.parses u'.passwordHash = true) := by
  refine h.row_invariant (List.subset_append_left a b) hu (Or.inl rfl) ?_ hm
  rintro ⟨j, y⟩ hy u' - hstored
  rcases h.effect hA (List.mem_append_left b hy) u' with hsame | hhash
  · rw [hsame]
    exact hstored
  · exact Or.inr hhash

theorem of_legacyPlaintext {stored candidate : String}
    (h : A.verifyPassword stored candidate = .legacyPlaintext) :
    A.parses stored = false ∧ stored = candidate := by
  rw [Argon2.verifyPassword] at h
  split at h
  · split at h <;> cases h
  · split at h
    · exact ⟨by simpa using ‹¬A.parses stored = true›, ‹_›⟩
    · cases h

/-- **What is re-hashed** is the plaintext that was stored from the start. -/
theorem PasswordRun.rehash_origin (hA : A.Ideal) (hw : w.Keyed) {id : Uuid} {hash : String}
    {v : Except Fault ℕ}
    (h : PasswordRun A w arrivals (a ++ (j, ⟨.updatePasswordHash id hash, v⟩) :: b) w') {u : User}
    (hu : w.user id = some u) : A.makes u.passwordHash hash = true := by
  obtain ⟨body, found, hread, hhash, hid, hverify⟩ := h.rehash
  have hmakes := h.makes (List.mem_append_left _ hhash)
  obtain ⟨hplain, hpassword⟩ := of_legacyPlaintext hverify
  obtain ⟨c, d, rfl⟩ := List.append_of_mem hread
  rw [List.append_assoc, List.cons_append] at h
  -- the tables at the read
  have hexec := h.execs
  rw [List.map_append] at hexec
  obtain ⟨m, hm, hrest⟩ := execAll_append_eq_some.1 hexec
  obtain ⟨m', hstep, -⟩ := execAll_cons_eq_some.1 hrest
  have hfound : found ∈ m.users := List.mem_of_find?_eq_some (of_guarded hstep).1.symm
  have hkeyed : m.Keyed := execAll_invariant (fun x _ s s' ↦ exec_keyed) hm hw
  obtain ⟨u', hu', hstored⟩ := h.stored hA hu hm
  have huser : m.user id = some found := find?_eq_of_nodup hkeyed.users.nodup hfound fun b ↦ by
    rw [hid]
    exact beq_iff_eq
  obtain rfl : u' = found := Option.some.inj (hu'.symm.trans huser)
  rcases hstored with hsame | hparse
  · rw [← hsame, hpassword]
    exact hmakes
  · rw [hplain] at hparse
    cases hparse

end Runs

/-! ### Who gets in -/

/-- Nothing stood in the way of a login after its read: the user was still there, and what it loads
could be loaded. -/
structure Loaded (h : List FabricEvent) : Prop where
  user : ∀ id v, (⟨.selectUser id, v⟩ : FabricEvent) ∈ h → ∃ u, v = .ok (some u)
  access : ∀ id v, (⟨.selectAccess id, v⟩ : FabricEvent) ∈ h → ∃ rows, v = .ok rows

/-- Every login that reads the user now succeeds if and only if it presents `p`, whatever happens
after the read. -/
def Fabric.Recognizes (A : Argon2) (w : Fabric) (id : Uuid) (p : String) : Prop :=
  ∀ (body : LoginRequest) (u : User) (h : List FabricEvent) (q : FabricHandler LoginAnswer)
    (r : Except AppError LoginAnswer), u.id = id →
    w.exec A (.selectUserByName body.username) (.ok (some u)) = some w →
    Prog.Follows (login A body) (⟨.selectUserByName body.username, .ok (some u)⟩ :: h) q →
    q.outcome = some r → Loaded h → ((∃ a, r = .ok a) ↔ body.password = p)

theorem Loaded.tail {x : FabricEvent} {h : List FabricEvent} (hl : Loaded (x :: h)) : Loaded h :=
  ⟨fun id v hx ↦ hl.user id v (List.mem_cons_of_mem _ hx),
    fun id v hx ↦ hl.access id v (List.mem_cons_of_mem _ hx)⟩

/-- A session that can be opened is. -/
theorem openSession_ends {u : User} {h : List FabricEvent} {q : FabricHandler LoginAnswer}
    {r : Except AppError LoginAnswer} (hf : Prog.Follows (openSession u) h q)
    (hr : q.outcome = some r) (hl : Loaded h) : ∃ a, r = .ok a := by
  rw [openSession, loadUser, Prog.bind_eq, Prog.bind_eq, Prog.bind_assoc] at hf
  rcases follows_query_bind hf with ⟨-, hq⟩ | ⟨e, rfl, -⟩ | ⟨found, h', rfl, hfound⟩
  · rw [hq] at hr
    cases hr
  · obtain ⟨u', hu'⟩ := hl.user _ _ List.mem_cons_self
    cases hu'
  · obtain ⟨u', hu'⟩ := hl.user _ _ List.mem_cons_self
    obtain rfl := Except.ok.inj hu'
    simp only [Prog.bind_eq, Prog.bind_assoc] at hfound
    rcases follows_query_bind hfound with ⟨-, hq⟩ | ⟨e, rfl, -⟩ | ⟨rows, h'', rfl, hrows⟩
    · rw [hq] at hr
      cases hr
    · obtain ⟨rows, hrows⟩ := hl.tail.access _ _ List.mem_cons_self
      cases hrows
    · obtain ⟨-, rfl⟩ := Prog.follows_ret.1 hrows
      exact ⟨_, (Option.some.inj hr).symm⟩

/-- **What a login comes to** is decided by the value it reads. -/
theorem login_ends {body : LoginRequest} {u : User} {h : List FabricEvent}
    {q : FabricHandler LoginAnswer} {r : Except AppError LoginAnswer}
    (hf : Prog.Follows (login A body) (⟨.selectUserByName body.username, .ok (some u)⟩ :: h) q)
    (hr : q.outcome = some r) (hl : Loaded h) :
    (∃ a, r = .ok a) ↔ A.verifyPassword u.passwordHash body.password ≠ .invalid := by
  rw [follows_login_read, afterRead] at hf
  cases hverify : A.verifyPassword u.passwordHash body.password with
  | valid =>
    rw [hverify] at hf
    exact iff_of_true (openSession_ends hf hr hl) nofun
  | invalid =>
    rw [hverify] at hf
    obtain ⟨-, rfl⟩ := Prog.follows_fail.1 hf
    obtain rfl := Option.some.inj hr
    exact iff_of_false (fun ⟨a, ha⟩ ↦ nomatch ha) fun hne ↦ hne rfl
  | legacyPlaintext =>
    rw [hverify] at hf
    refine iff_of_true ?_ nofun
    rcases follows_upgrade_bind hf with ⟨-, hq⟩ | ⟨e, h', rfl, hopen⟩ | ⟨hash, -, hq⟩ |
      ⟨hash, v, h', rfl, hopen⟩
    · rw [hq] at hr
      cases hr
    · exact openSession_ends hopen hr hl.tail
    · rw [hq] at hr
      cases hr
    · exact openSession_ends hopen hr hl.tail.tail

/-- A session can be opened. -/
theorem openSession_can_end (u : User) : ∃ h q r,
    Prog.Follows (openSession u) h q ∧ q.outcome = some r ∧ Loaded h := by
  refine ⟨[⟨.selectUser u.id, .ok (some u)⟩, ⟨.selectAccess u.id, .ok []⟩], _, _,
    Prog.follows_cons.2 ⟨_, rfl, Prog.follows_cons.2 ⟨_, rfl, Prog.Follows.nil _⟩⟩, rfl, ?_, ?_⟩
  · intro id v hmem
    rcases List.mem_cons.1 hmem with heq | hmem
    · cases heq
      exact ⟨u, rfl⟩
    · cases List.mem_singleton.1 hmem
  · intro id v hmem
    rcases List.mem_cons.1 hmem with heq | hmem
    · cases heq
    · cases List.mem_singleton.1 hmem
      exact ⟨[], rfl⟩

/-- Every value a login can read leads to an end. -/
theorem login_can_end (body : LoginRequest) (u : User) : ∃ h q r,
    Prog.Follows (login A body) (⟨.selectUserByName body.username, .ok (some u)⟩ :: h) q ∧
      q.outcome = some r ∧ Loaded h := by
  suffices hafter : ∃ h q r, Prog.Follows (afterRead A u body.password) h q ∧
      q.outcome = some r ∧ Loaded h by
    obtain ⟨h, q, r, hf, hr, hl⟩ := hafter
    exact ⟨h, q, r, follows_login_read.2 hf, hr, hl⟩
  obtain ⟨h, q, r, hf, hr, hl⟩ := openSession_can_end u
  rw [afterRead]
  cases A.verifyPassword u.passwordHash body.password with
  | valid => exact ⟨h, q, r, hf, hr, hl⟩
  | invalid => exact ⟨[], _, _, Prog.Follows.nil _, rfl, nofun, nofun⟩
  | legacyPlaintext =>
    -- hashing fails, the login goes on
    refine ⟨⟨.hashPassword body.password, .error ⟨"", .unsent⟩⟩ :: h, q, r,
      Prog.follows_cons.2 ⟨_, rfl, hf⟩, hr, ?_, ?_⟩
    · intro id v hmem
      rcases List.mem_cons.1 hmem with heq | hmem
      · cases heq
      · exact hl.user id v hmem
    · intro id v hmem
      rcases List.mem_cons.1 hmem with heq | hmem
      · cases heq
      · exact hl.access id v hmem

/-- **Who gets in** is decided by the stored value. -/
theorem recognizes_iff {w : Fabric} (hw : w.Keyed) {id : Uuid} {u : User} (hu : w.user id = some u)
    {p : String} :
    w.Recognizes A id p ↔ ∀ q, A.verifyPassword u.passwordHash q ≠ .invalid ↔ q = p := by
  have hmem : u ∈ w.users := List.mem_of_find?_eq_some hu
  have hid : u.id = id := by simpa using List.find?_some hu
  constructor
  · intro hrec q
    obtain ⟨h, q', r, hf, hr, hl⟩ := login_can_end (A := A) ⟨u.username, q⟩ u
    have hread : w.exec A (.selectUserByName u.username) (.ok (some u)) = some w := by
      refine if_pos (Eq.symm (find?_eq_of_nodup hw.usernames hmem fun b ↦ ?_))
      exact beq_iff_eq
    exact (login_ends hf hr hl).symm.trans (hrec ⟨u.username, q⟩ u h q' r hid hread hf hr hl)
  · intro hlets body found h q r hfound hread hf hr hl
    -- the user that was read is the row of that identifier
    have hin : found ∈ w.users := List.mem_of_find?_eq_some (of_guarded hread).1.symm
    obtain rfl : found = u :=
      List.inj_on_of_nodup_map hw.users.nodup hin hmem (hfound.trans hid.symm)
    exact (login_ends hf hr hl).trans (hlets body.password)

/-! ### The change and what comes after it -/

section Kept

variable {Pid : Type} [DecidableEq Pid] {w w' : Fabric} {arrivals : Pid → Arrival}
  {tr a b : List (Pid × FabricEvent)} {j : Pid} {id : Uuid}

/-- No update of the list sets a password of the user. -/
def NoNewPassword (arrivals : Pid → Arrival) (id : Uuid) (l : List (Pid × FabricEvent)) : Prop :=
  ∀ j claims body patch row, arrivals j = .update claims id body →
    (j, (⟨.updateUser id patch, .ok (some row)⟩ : FabricEvent)) ∈ l →
    ∀ p, body.password = some p → p = ""

/-- No login of the list replaces what is stored for the user. -/
def NoRehash (id : Uuid) (l : List (Pid × FabricEvent)) : Prop :=
  ∀ j hash n, (j, (⟨.updatePasswordHash id hash, .ok n⟩ : FabricEvent)) ∉ l

/-- **After the last change of a password** only a re-hash changes what is stored. -/
theorem PasswordRun.kept_or_rehashed (h : PasswordRun A w arrivals tr w')
    {l : List (Pid × FabricEvent)} (hl : l ⊆ tr) (hlast : NoNewPassword arrivals id l)
    {y : FabricEvent} (hy : (j, y) ∈ l) {u : User} (hid : u.id = id) :
    (y.1.rowEffect y.2 u).passwordHash = u.passwordHash ∨
      ∃ hash n, y = ⟨.updatePasswordHash id hash, .ok n⟩ ∧
        (y.1.rowEffect y.2 u).passwordHash = hash := by
  obtain ⟨s, v⟩ := y
  cases v with
  | error e => cases s <;> exact Or.inl rfl
  | ok x =>
    cases s with
    | updateUser k patch =>
      cases x with
      | none => exact Or.inl rfl
      | some row =>
        by_cases hk : u.id = k
        · have hrow : FabricStatement.rowEffect (.updateUser k patch) (.ok (some row)) u =
              patch.apply u :=
            if_pos hk
          obtain rfl : id = k := hid.symm.trans hk
          obtain ⟨a, b, rfl⟩ := List.append_of_mem (hl hy)
          obtain ⟨claims, body, hj, ⟨hnone, -⟩ | ⟨p, hash, hp, hne, -, -⟩⟩ := h.update
          · rw [hrow]
            exact Or.inl (apply_passwordHash_of_none hnone u)
          · exact absurd (hlast j claims body patch row hj hy p hp) hne
        · exact Or.inl (congrArg User.passwordHash (if_neg hk))
    | updatePasswordHash k hash =>
      by_cases hk : u.id = k
      · obtain rfl : id = k := hid.symm.trans hk
        exact Or.inr ⟨hash, x, rfl, congrArg User.passwordHash (if_pos hk)⟩
      · exact Or.inl (congrArg User.passwordHash (if_neg hk))
    | _ => exact Or.inl rfl

/-- Nothing re-hashed: the value is the one the change stored. -/
theorem PasswordRun.stored_of_noRehash (h : PasswordRun A w arrivals tr w')
    {l : List (Pid × FabricEvent)} (hl : l ⊆ tr) (hlast : NoNewPassword arrivals id l)
    (hno : NoRehash id l) {m m' : Fabric} {u : User} (hu : m.user id = some u)
    (hm : execAll (Fabric.exec A) (l.map Prod.snd) m = some m') :
    ∃ u', m'.user id = some u' ∧ u'.passwordHash = u.passwordHash := by
  refine h.row_invariant hl hu rfl ?_ hm
  rintro ⟨j, y⟩ hy u' hid hsame
  rcases h.kept_or_rehashed hl hlast hy hid with hkept | ⟨hash, n, rfl, -⟩
  · exact hkept.trans hsame
  · exact absurd hy (hno j hash n)

/-- Something re-hashed: from there on the value is a hash of the old plaintext. -/
theorem PasswordRun.stored_of_rehash (hA : A.Ideal) (hw : w.Keyed)
    (h : PasswordRun A w arrivals tr w') {u : User} (hu : w.user id = some u)
    {l : List (Pid × FabricEvent)} (hl : l ⊆ tr) (hlast : NoNewPassword arrivals id l)
    {m m' : Fabric} {u₁ : User} (hu₁ : m.user id = some u₁)
    (hmakes : A.makes u.passwordHash u₁.passwordHash = true)
    (hm : execAll (Fabric.exec A) (l.map Prod.snd) m = some m') :
    ∃ u', m'.user id = some u' ∧ A.makes u.passwordHash u'.passwordHash = true := by
  refine h.row_invariant hl hu₁ hmakes ?_ hm
  rintro ⟨j, y⟩ hy u' hid hmade
  rcases h.kept_or_rehashed hl hlast hy hid with hkept | ⟨hash, n, rfl, hrow⟩
  · rw [hkept]
    exact hmade
  · rw [hrow]
    obtain ⟨a, b, rfl⟩ := List.append_of_mem (hl hy)
    exact h.rehash_origin hA hw hu

/-- **A password change is kept** — every login that reads the user from then on gets in with the
new password and no other — if and only if no login writes its re-hash after it, or the plaintext
stored at the start was the new password itself. -/
theorem changeKept_iff (hA : A.Ideal) (hw : w.Keyed) {u : User} (hu : w.user id = some u) {i : Pid}
    {claims : Claims} {body : UpdateUser} {p : String} (hi : arrivals i = .update claims id body)
    (hp : body.password = some p) (hne : p ≠ "") {patch : UserPatch} {row : User}
    (hrun : PasswordRun A w arrivals (a ++ (i, ⟨.updateUser id patch, .ok (some row)⟩) :: b) w')
    (hlast : NoNewPassword arrivals id b) :
    w'.Recognizes A id p ↔ NoRehash id b ∨ u.passwordHash = p := by
  -- the hash that is written
  obtain ⟨claims', body', hi', hpatch⟩ := hrun.update
  obtain ⟨-, rfl⟩ : claims' = claims ∧ body' = body := by
    simpa [Arrival.update] using hi'.symm.trans hi
  obtain ⟨hash, hsome, hmakes⟩ : ∃ hash, patch.passwordHash = some hash ∧
      A.makes p hash = true := by
    rcases hpatch with ⟨-, hnone⟩ | ⟨p', hash, hp', -, hsome, hmem⟩
    · exact absurd (hnone p hp) hne
    · obtain rfl : p' = p := Option.some.inj (hp'.symm.trans hp)
      exact ⟨hash, hsome, hrun.makes (List.mem_append_left _ hmem)⟩
  -- the tables around the `UPDATE`
  have hexec := hrun.execs
  rw [List.map_append] at hexec
  obtain ⟨m₁, hm₁, hrest⟩ := execAll_append_eq_some.1 hexec
  obtain ⟨m₂, hstep, hm₂⟩ := execAll_cons_eq_some.1 hrest
  have hkeyed : w'.Keyed := execAll_invariant (fun x _ s s' ↦ exec_keyed) hexec hw
  obtain ⟨u₁, hu₁, -⟩ := hrun.stored hA hu hm₁
  have hid : u₁.id = id := by simpa using List.find?_some hu₁
  have hu₂ : m₂.user id = some (patch.apply u₁) := by
    refine (user_of_exec hstep hu₁ nofun).trans (congrArg some (if_pos hid))
  have hstored : (patch.apply u₁).passwordHash = hash :=
    apply_passwordHash_of_some hsome (hA.ne_empty hmakes) u₁
  have hsub : b ⊆ a ++ (i, ⟨.updateUser id patch, .ok (some row)⟩) :: b :=
    fun y hy ↦ List.mem_append_right _ (List.mem_cons_of_mem _ hy)
  by_cases hno : NoRehash id b
  · obtain ⟨u', hu', hsame⟩ := hrun.stored_of_noRehash hsub hlast hno hu₂ hm₂
    refine iff_of_true ((recognizes_iff hkeyed hu').2 ?_) (Or.inl hno)
    rw [hsame, hstored]
    exact hA.lets hmakes
  · -- a re-hash came after it: from there on the old plaintext is what gets in
    obtain ⟨j, hash', n, hmem⟩ : ∃ j hash' n,
        (j, (⟨.updatePasswordHash id hash', .ok n⟩ : FabricEvent)) ∈ b := by
      simpa [NoRehash] using hno
    obtain ⟨c, d, rfl⟩ := List.append_of_mem hmem
    have hold : A.makes u.passwordHash hash' = true := by
      have hrun' := hrun
      rw [← List.cons_append, ← List.append_assoc] at hrun'
      exact hrun'.rehash_origin hA hw hu
    rw [List.map_append] at hm₂
    obtain ⟨m₃, hm₃, hrest⟩ := execAll_append_eq_some.1 hm₂
    obtain ⟨m₄, hstep', hm₄⟩ := execAll_cons_eq_some.1 hrest
    obtain ⟨u₃, hu₃, -⟩ := hrun.row_invariant (P := fun _ ↦ True)
      (fun y hy ↦ hsub (List.mem_append_left _ hy)) hu₂ trivial (fun _ _ _ _ _ ↦ trivial) hm₃
    have hid₃ : u₃.id = id := by simpa using List.find?_some hu₃
    have hu₄ : m₄.user id = some { u₃ with passwordHash := hash' } :=
      (user_of_exec hstep' hu₃ nofun).trans (congrArg some (if_pos hid₃))
    have htail : d ⊆ c ++ (j, ⟨.updatePasswordHash id hash', .ok n⟩) :: d :=
      fun y hy ↦ List.mem_append_right _ (List.mem_cons_of_mem _ hy)
    obtain ⟨u', hu', hmade⟩ := hrun.stored_of_rehash hA hw hu (fun y hy ↦ hsub (htail hy))
      (fun j claims body patch row hj hy ↦ hlast j claims body patch row hj (htail hy)) hu₄ hold hm₄
    rw [recognizes_iff hkeyed hu', or_iff_right hno]
    constructor
    · intro hlets
      exact (hlets _).1 ((hA.lets hmade _).2 rfl)
    · rintro rfl
      exact hA.lets hmade

end Kept

/-! ### A change that is overtaken -/

/-- Hashes are passwords behind a dollar sign. -/
def sampleArgon2 : Argon2 where
  parses h := h.toList.head? == some '$'
  verifies h q := h == "$" ++ q
  makes p h := h == "$" ++ p

theorem sampleArgon2_ideal : sampleArgon2.Ideal where
  empty := by decide
  parses p h hmakes := by
    obtain rfl : h = "$" ++ p := beq_iff_eq.1 hmakes
    simp [sampleArgon2]
  verifies p h q hmakes := by
    obtain rfl : h = "$" ++ p := beq_iff_eq.1 hmakes
    refine beq_iff_eq.trans ⟨fun heq ↦ ?_, fun heq ↦ by rw [heq]⟩
    have hpq : p = q := by simpa using heq
    exact hpq.symm

def sampleUser (stored : String) : User := ⟨1, "", "", none, "bob", stored, "operator", 0⟩

/-- One user, with the value stored for their password. -/
def sampleFabric (stored : String) : Fabric where
  sites := []
  users := [sampleUser stored]
  routers := []
  userSiteAccess := []
  configChanges := []
  configCommits := []
  nextChange := 0
  nextCommit := 0
  nextId := 2

theorem sampleFabric_keyed (stored : String) : (sampleFabric stored).Keyed where
  users := ⟨by simp [sampleFabric], by simp [sampleFabric, sampleUser]⟩
  usernames := by simp [sampleFabric]
  sites := ⟨by simp [sampleFabric], by simp [sampleFabric]⟩
  routers := ⟨by simp [sampleFabric], by simp [sampleFabric]⟩

def sampleNewPassword : UpdateUser := ⟨none, none, none, none, some "new", none⟩

/-- The user logs in with the old password while an admin sets a new one. -/
def sampleArrivals : Bool → Arrival
  | false => .login ⟨"bob", "old"⟩
  | true => .update ⟨0, "admin"⟩ 1 sampleNewPassword

theorem sampleArrivals_arrive (j : Bool) : (∃ body, sampleArrivals j = .login body) ∨
    ∃ claims id body, sampleArrivals j = .update claims id body := by
  cases j with
  | false => exact Or.inl ⟨_, rfl⟩
  | true => exact Or.inr ⟨_, _, _, rfl⟩

def sampleUpdate : FabricEvent :=
  ⟨.updateUser 1 ⟨none, none, none, none, some "$new", none⟩, .ok (some (sampleUser "$new"))⟩

/-- Nothing in between: the new password gets in. -/
theorem changeKept_alone : (sampleFabric "$new").Recognizes sampleArgon2 1 "new" := by
  have hrun : PasswordRun sampleArgon2 (sampleFabric "old") sampleArrivals
      ([(true, ⟨.hashPassword "new", .ok "$new"⟩)] ++ (true, sampleUpdate) :: [])
      (sampleFabric "$new") :=
    ⟨sampleArrivals_arrive, _, rfl,
      Run.step true _ rfl rfl <| Run.step true _ rfl rfl <| Run.nil _⟩
  have hi : sampleArrivals true = .update ⟨0, "admin"⟩ 1 sampleNewPassword := rfl
  have hlast : NoNewPassword sampleArrivals 1 [] := by
    intro j claims body patch row _ hmem
    cases hmem
  have hno : NoRehash 1 ([] : List (Bool × FabricEvent)) := by
    intro j hash n hmem
    cases hmem
  exact (changeKept_iff sampleArgon2_ideal (sampleFabric_keyed "old") (u := sampleUser "old") rfl hi
    rfl (by decide) hrun hlast).2 (Or.inl hno)

/-- The login reads the plaintext and hashes it, the change comes, and the login writes its hash:
both have come to their ends, no other change was made, and the new password is refused. -/
theorem not_changeKept_overtaken : ∃ a b w',
    PasswordRun sampleArgon2 (sampleFabric "old") sampleArrivals
      (a ++ (true, sampleUpdate) :: b) w' ∧
      NoNewPassword sampleArrivals 1 b ∧ ¬w'.Recognizes sampleArgon2 1 "new" := by
  refine ⟨[(false, ⟨.selectUserByName "bob", .ok (some (sampleUser "old"))⟩),
      (false, ⟨.hashPassword "old", .ok "$old"⟩), (true, ⟨.hashPassword "new", .ok "$new"⟩)],
    [(true, ⟨.selectAllAccess, .ok []⟩), (false, ⟨.updatePasswordHash 1 "$old", .ok 1⟩),
      (false, ⟨.selectUser 1, .ok (some (sampleUser "$old"))⟩),
      (false, ⟨.selectAccess 1, .ok []⟩)], sampleFabric "$old", ?_, ?_, ?_⟩
  · exact ⟨sampleArrivals_arrive, _, rfl,
      Run.step false _ rfl rfl <| Run.step false _ rfl rfl <| Run.step true _ rfl rfl <|
      Run.step true _ rfl rfl <| Run.step true _ rfl rfl <| Run.step false _ rfl rfl <|
      Run.step false _ rfl rfl <| Run.step false _ rfl rfl <| Run.nil _⟩
  · intro j claims body patch row _ hmem
    simp at hmem
  · rw [recognizes_iff (sampleFabric_keyed "$old") (u := sampleUser "$old") rfl]
    intro hlets
    have hold : ("old" : String) = "new" := (hlets "old").1 (by decide)
    exact absurd hold (by decide)

end VyosFabric
