import VyosFabric.Model.Fabric
import VyosFabric.Model.Keyed

/-!
# What a statement does to the tables around the review system

Few statements write `users`, `sites` or `routers`, and each writes one of them in one way
(`userEffect`, `siteEffect`, `routerEffect`). From that the keys of these tables stay keys
(`exec_keyed`): the primary keys by the supply of fresh identifiers, the unique name of a user by
the check of the database.
-/

namespace VyosFabric

open Interaction

namespace FabricStatement

/-- What a statement does to `users`. -/
def userEffect : (s : FabricStatement) → s.Reply → List User → List User
  | insertUser _, .ok u, l => l ++ [u]
  | updateUser id patch, .ok _, l => l.map fun u ↦ if u.id = id then patch.apply u else u
  | updatePasswordHash id hash, .ok _, l =>
    l.map fun u ↦ if u.id = id then { u with passwordHash := hash } else u
  | deleteUser id, .ok _, l => l.filter fun u ↦ u.id != id
  | _, _, l => l

/-- What a statement does to `sites`. -/
def siteEffect : (s : FabricStatement) → s.Reply → List Site → List Site
  | insertSite _, .ok s, l => l ++ [s]
  | updateSite id body, .ok _, l => l.map fun s ↦ if s.id = id then body.apply s else s
  | deleteSite id, .ok _, l => l.filter fun s ↦ s.id != id
  | _, _, l => l

/-- What a statement does to `routers`. -/
def routerEffect : (s : FabricStatement) → s.Reply → List RouterRow → List RouterRow
  | insertRouter _, .ok r, l => l ++ [r]
  | updateRouter id body, .ok (some row), l =>
    l.map fun r ↦ if r.id = id then body.apply row.updatedAt r else r
  | deleteRouter id, .ok _, l => l.filter fun r ↦ !(r.id == id)
  | deleteSite id, .ok _, l => l.filter fun r ↦ !(r.siteId == id)
  | _, _, l => l

/-- What a statement does to the supply of identifiers. -/
def idEffect : (s : FabricStatement) → s.Reply → Uuid → Uuid
  | insertUser _, .ok _, n => n + 1
  | insertSite _, .ok _, n => n + 1
  | insertRouter _, .ok _, n => n + 1
  | _, _, n => n

end FabricStatement

section

variable {A : Argon2} {s : FabricStatement} {v : s.Reply} {w w' : Fabric}

/-- A fault changes nothing. -/
theorem exec_fault {e : Fault} (h : w.exec A s (.error e) = some w') : w' = w := by
  cases s with
  | review s =>
    obtain ⟨db, hdb, rfl⟩ := Option.map_eq_some_iff.1 h
    cases s <;> (obtain rfl := Option.some.inj hdb; rfl)
  | _ => exact (Option.some.inj h).symm

/-- **What one statement does** to the tables around the review system. -/
theorem exec_around (h : w.exec A s v = some w') :
    w'.users = s.userEffect v w.users ∧ w'.sites = s.siteEffect v w.sites ∧
      w'.routers = s.routerEffect v w.routers ∧ w'.nextId = s.idEffect v w.nextId := by
  cases v with
  | error e =>
    obtain rfl := exec_fault h
    cases s <;> exact ⟨rfl, rfl, rfl, rfl⟩
  | ok x =>
    cases s with
    | review s =>
      obtain ⟨db, -, rfl⟩ := Option.map_eq_some_iff.1 h
      exact ⟨rfl, rfl, rfl, rfl⟩
    | post | info =>
      obtain rfl := Option.some.inj h
      exact ⟨rfl, rfl, rfl, rfl⟩
    | updateRouter id body =>
      cases x with
      | none =>
        obtain ⟨-, rfl⟩ := of_guarded h
        exact ⟨rfl, rfl, rfl, rfl⟩
      | some row =>
        obtain ⟨-, rfl⟩ := of_guarded h
        exact ⟨rfl, rfl, rfl, rfl⟩
    | _ =>
      obtain ⟨-, rfl⟩ := of_guarded h
      exact ⟨rfl, rfl, rfl, rfl⟩

end

/-! ### Keys -/

/-- The identifiers of the rows are keys, and were drawn from a supply that continues at `next`. -/
structure Drawn {α : Type} (id : α → Uuid) (next : Uuid) (rows : List α) : Prop where
  nodup : (rows.map id).Nodup
  lt : ∀ a ∈ rows, id a < next

namespace Drawn

variable {α : Type} {id : α → Uuid} {n m : Uuid} {rows : List α}

theorem mono (h : Drawn id n rows) (hnm : n ≤ m) : Drawn id m rows :=
  ⟨h.nodup, fun a ha ↦ Nat.lt_of_lt_of_le (h.lt a ha) hnm⟩

/-- A row with a fresh identifier. -/
theorem append (h : Drawn id n rows) {a : α} (ha : id a = n) : Drawn id (n + 1) (rows ++ [a]) := by
  constructor
  · rw [List.map_append, List.nodup_append]
    refine ⟨h.nodup, List.nodup_singleton _, ?_⟩
    intro x hx y hy
    obtain ⟨b, hb, rfl⟩ := List.mem_map.1 hx
    obtain rfl := List.mem_singleton.1 hy
    rw [ha]
    exact (h.lt b hb).ne
  · intro b hb
    rcases List.mem_append.1 hb with hb | hb
    · exact Nat.lt_succ_of_lt (h.lt b hb)
    · obtain rfl := List.mem_singleton.1 hb
      rw [ha]
      exact Nat.lt_succ_self n

theorem filter (h : Drawn id n rows) (p : α → Bool) : Drawn id n (rows.filter p) :=
  ⟨h.nodup.sublist (List.filter_sublist.map id), fun a ha ↦ h.lt a (List.mem_of_mem_filter ha)⟩

/-- Rows that are rewritten and keep their identifiers. -/
theorem map (h : Drawn id n rows) {f : α → α} (hf : ∀ a, id (f a) = id a) :
    Drawn id n (rows.map f) := by
  refine ⟨(map_key hf rows).symm ▸ h.nodup, fun b hb ↦ ?_⟩
  obtain ⟨a, ha, rfl⟩ := List.mem_map.1 hb
  rw [hf]
  exact h.lt a ha

end Drawn

/-- Identifiers are keys, and no two users share a name. -/
structure Fabric.Keyed (w : Fabric) : Prop where
  users : Drawn User.id w.nextId w.users
  usernames : (w.users.map User.username).Nodup
  sites : Drawn Site.id w.nextId w.sites
  routers : Drawn RouterRow.id w.nextId w.routers

section

variable {A : Argon2} {s : FabricStatement} {v : s.Reply} {w w' : Fabric}

/-- **Keys stay keys.** -/
theorem exec_keyed (h : w.exec A s v = some w') (hw : w.Keyed) : w'.Keyed := by
  obtain ⟨husers, hsites, hrouters, hnext⟩ := exec_around h
  cases v with
  | error e =>
    obtain rfl := exec_fault h
    exact hw
  | ok x =>
    cases s with
    | insertUser n =>
      obtain ⟨⟨hrow, hname⟩, rfl⟩ := of_guarded h
      have hid : x.id = w.nextId := congrArg User.id hrow
      have husername : x.username = n.username := congrArg User.username hrow
      refine ⟨hw.users.append hid, ?_, hw.sites.mono (Nat.le_succ _),
        hw.routers.mono (Nat.le_succ _)⟩
      rw [List.map_append, List.nodup_append]
      refine ⟨hw.usernames, List.nodup_singleton _, ?_⟩
      intro a ha b hb
      obtain rfl := List.mem_singleton.1 hb
      rintro rfl
      exact hname (husername ▸ ha)
    | updateUser id patch =>
      obtain ⟨⟨-, hnames⟩, rfl⟩ := of_guarded h
      exact ⟨hw.users.map (ite_key fun _ ↦ rfl), hnames, hw.sites, hw.routers⟩
    | updatePasswordHash id hash =>
      obtain ⟨-, rfl⟩ := of_guarded h
      have hnames : List.map User.username (List.map (fun u : User ↦
          if u.id = id then { u with passwordHash := hash } else u) w.users) =
          w.users.map User.username := by
        refine map_key (ite_key ?_) w.users
        exact fun _ ↦ rfl
      exact ⟨hw.users.map (ite_key fun _ ↦ rfl), hnames.symm ▸ hw.usernames, hw.sites, hw.routers⟩
    | deleteUser id =>
      obtain ⟨-, rfl⟩ := of_guarded h
      exact ⟨hw.users.filter _, hw.usernames.sublist (List.filter_sublist.map _), hw.sites,
        hw.routers⟩
    | insertSite body =>
      obtain ⟨⟨hrow, -⟩, rfl⟩ := of_guarded h
      exact ⟨hw.users.mono (Nat.le_succ _), hw.usernames,
        hw.sites.append (congrArg Site.id hrow), hw.routers.mono (Nat.le_succ _)⟩
    | updateSite id body =>
      obtain ⟨-, rfl⟩ := of_guarded h
      exact ⟨hw.users, hw.usernames, hw.sites.map (ite_key fun _ ↦ rfl), hw.routers⟩
    | deleteSite id =>
      obtain ⟨-, rfl⟩ := of_guarded h
      exact ⟨hw.users, hw.usernames, hw.sites.filter _, hw.routers.filter _⟩
    | insertRouter body =>
      obtain ⟨⟨hrow, -⟩, rfl⟩ := of_guarded h
      exact ⟨hw.users.mono (Nat.le_succ _), hw.usernames, hw.sites.mono (Nat.le_succ _),
        hw.routers.append (congrArg RouterRow.id hrow)⟩
    | updateRouter id body =>
      refine ⟨hnext ▸ husers ▸ hw.users, husers ▸ hw.usernames, hnext ▸ hsites ▸ hw.sites, ?_⟩
      rw [hrouters, hnext]
      cases x with
      | none => exact hw.routers
      | some row => exact hw.routers.map (ite_key fun _ ↦ rfl)
    | deleteRouter id =>
      obtain ⟨-, rfl⟩ := of_guarded h
      exact ⟨hw.users, hw.usernames, hw.sites, hw.routers.filter _⟩
    | _ =>
      refine ⟨?_, ?_, ?_, ?_⟩
      · rw [husers, hnext]
        exact hw.users
      · rw [husers]
        exact hw.usernames
      · rw [hsites, hnext]
        exact hw.sites
      · rw [hrouters, hnext]
        exact hw.routers

/-! ### The row of one user -/

/-- What a statement makes of a user's row, deletion aside. -/
def FabricStatement.rowEffect : (s : FabricStatement) → s.Reply → User → User
  | updateUser id patch, .ok (some _), u => if u.id = id then patch.apply u else u
  | updatePasswordHash id hash, .ok _, u =>
    if u.id = id then { u with passwordHash := hash } else u
  | _, _, u => u

theorem rowEffect_id (s : FabricStatement) (v : s.Reply) (u : User) :
    (s.rowEffect v u).id = u.id := by
  unfold FabricStatement.rowEffect
  split
  · split <;> rfl
  · split <;> rfl
  · rfl

theorem find?_map_id {l : List User} {f : User → User} (hf : ∀ u, (f u).id = u.id) (id : Uuid) :
    (l.map f).find? (fun u ↦ u.id == id) = (l.find? fun u ↦ u.id == id).map f := by
  rw [List.find?_map]
  congr 2
  funext u
  exact congrArg (· == id) (hf u)

/-- **The row of a user that is not deleted.** -/
theorem user_of_exec (h : w.exec A s v = some w') {id : Uuid} {u : User} (hu : w.user id = some u)
    (hdel : ∀ n, (⟨s, v⟩ : FabricEvent) ≠ ⟨.deleteUser id, .ok n⟩) :
    w'.user id = some (s.rowEffect v u) := by
  have husers := (exec_around h).1
  rw [Fabric.user, husers]
  cases v with
  | error e =>
    cases s <;> exact hu
  | ok x =>
    cases s with
    | insertUser n => exact List.find?_append.trans (by rw [Fabric.user] at hu; rw [hu]; rfl)
    | updateUser k patch =>
      refine (find?_map_id (f := fun u : User ↦ if u.id = k then patch.apply u else u)
        (ite_key fun _ ↦ rfl) id).trans ?_
      have hid : u.id = id := by simpa using List.find?_some hu
      obtain ⟨⟨hx, -⟩, -⟩ := of_guarded h
      rw [← Fabric.user, hu]
      cases x with
      | some row => rfl
      | none =>
        -- the user exists, so another one was to be updated
        have hk : u.id ≠ k := by
          rintro rfl
          rw [hid, hu] at hx
          cases hx
        exact congrArg some (if_neg hk)
    | updatePasswordHash k hash =>
      refine (find?_map_id (rowEffect_id (.updatePasswordHash k hash) (.ok x)) id).trans ?_
      rw [Fabric.user] at hu
      rw [hu]
      rfl
    | deleteUser k =>
      -- another user is deleted
      have hne : id ≠ k := fun heq ↦ hdel x (by rw [heq])
      have hid : u.id = id := by simpa using List.find?_some hu
      rw [Fabric.user] at hu
      refine (List.find?_filter).trans (Eq.trans ?_ hu)
      congr 1
      funext a
      by_cases ha : a.id = id
      · simp [ha, hne]
      · simp [ha]
    | _ => exact hu

end

end VyosFabric
