import Mathlib.Data.List.Nodup
import Mathlib.Logic.Function.Basic

/-!
# Rows under keys

Rows are told apart by a column, such as an identifier. A rewrite that keeps the column keeps the
keys (`map_key`), and where no key occurs twice a row is found by its own (`find?_eq_of_nodup`).
What a table says of a key is the value of the first row under it (`valueAt`), and a rewrite of one
key, a deletion or an insertion changes that for one key only.
-/

namespace VyosFabric

variable {α β : Type}

/-- A rewrite of some rows that keeps a column. -/
theorem ite_key {key : α → β} {p : α → Prop} [DecidablePred p] {f : α → α}
    (hf : ∀ a, key (f a) = key a) (a : α) : key (if p a then f a else a) = key a := by
  split
  · exact hf a
  · rfl

/-- A column that a rewrite of the rows keeps. -/
theorem map_key {key : α → β} {f : α → α} (hf : ∀ a, key (f a) = key a)
    (rows : List α) : (rows.map f).map key = rows.map key := by
  rw [List.map_map]
  exact List.map_congr_left fun a _ ↦ hf a

/-- The row of a key. -/
theorem find?_eq_of_nodup {key : α → β} {rows : List α} (h : (rows.map key).Nodup)
    {a : α} (ha : a ∈ rows) {p : α → Bool} (hp : ∀ b, p b = true ↔ key b = key a) :
    rows.find? p = some a := by
  cases hfind : rows.find? p with
  | none => exact absurd ((hp a).2 rfl) (List.find?_eq_none.1 hfind a ha)
  | some b =>
    have hb : key b = key a := (hp b).1 (List.find?_some hfind)
    exact congrArg some (List.inj_on_of_nodup_map h (List.mem_of_find?_eq_some hfind) ha hb)

/-! ### The value of a key -/

section ValueAt

variable {κ γ : Type} [DecidableEq κ] {key : α → κ} {val : α → γ} {rows : List α}

/-- The value of the first row under a key. -/
def valueAt (key : α → κ) (val : α → γ) (rows : List α) (k : κ) : Option γ :=
  (rows.find? fun a ↦ key a == k).map val

theorem valueAt_eq_none {k : κ} (h : k ∉ rows.map key) : valueAt key val rows k = none := by
  have hnone : rows.find? (fun a ↦ key a == k) = none :=
    List.find?_eq_none.2 fun a ha heq ↦ h (beq_iff_eq.1 heq ▸ List.mem_map_of_mem ha)
  rw [valueAt, hnone]
  rfl

/-- A rewrite of the rows of one key. -/
theorem valueAt_rewrite {f : α → α} {k : κ} {x : γ} (hkey : ∀ a, key (f a) = key a)
    (hval : ∀ a, val (f a) = x) (hk : k ∈ rows.map key) :
    valueAt key val (rows.map fun a ↦ if key a = k then f a else a) =
      Function.update (valueAt key val rows) k (some x) := by
  have hsame : ∀ k', (fun a ↦ key a == k') ∘ (fun a ↦ if key a = k then f a else a) =
      fun a ↦ key a == k' := by
    intro k'
    funext a
    show (key (if key a = k then f a else a) == k') = _
    split
    · rw [hkey]
    · rfl
  funext k'
  rw [valueAt, List.find?_map, hsame, Option.map_map]
  cases hfind : rows.find? fun a ↦ key a == k' with
  | none =>
    -- the key that is rewritten is there
    have hne : k' ≠ k := by
      rintro rfl
      obtain ⟨a, ha, hak⟩ := List.mem_map.1 hk
      exact List.find?_eq_none.1 hfind a ha (beq_iff_eq.2 hak)
    rw [Function.update_of_ne hne, valueAt, hfind]
    rfl
  | some a =>
    have hak : key a = k' := beq_iff_eq.1 (List.find?_some (p := fun b ↦ key b == k') hfind)
    rw [Option.map_some, Function.comp_apply]
    by_cases hne : k' = k
    · rw [if_pos (hak.trans hne), hval, hne, Function.update_self]
    · rw [if_neg fun h ↦ hne (hak.symm.trans h), Function.update_of_ne hne, valueAt, hfind]
      rfl

/-- A deletion of the rows of one key. -/
theorem valueAt_filter (key : α → κ) (val : α → γ) (rows : List α) (k : κ) :
    valueAt key val (rows.filter fun a ↦ key a != k) =
      Function.update (valueAt key val rows) k none := by
  funext k'
  by_cases hk : k' = k
  · subst hk
    rw [Function.update_self]
    refine valueAt_eq_none fun h ↦ ?_
    obtain ⟨a, ha, hak⟩ := List.mem_map.1 h
    exact bne_iff_ne.1 (List.mem_filter.1 ha).2 hak
  · rw [Function.update_of_ne hk, valueAt, valueAt, List.find?_filter]
    congr 2
    funext a
    by_cases ha : key a = k'
    · simp [ha, hk]
    · simp [ha]

/-- A row under a new key. -/
theorem valueAt_append {a : α} (h : key a ∉ rows.map key) :
    valueAt key val (rows ++ [a]) =
      Function.update (valueAt key val rows) (key a) (some (val a)) := by
  funext k
  rw [valueAt, List.find?_append]
  by_cases hk : k = key a
  · subst hk
    have hnone : rows.find? (fun b ↦ key b == key a) = none :=
      List.find?_eq_none.2 fun b hb heq ↦ h (beq_iff_eq.1 heq ▸ List.mem_map_of_mem hb)
    rw [Function.update_self, hnone, Option.none_or, List.find?_cons, beq_self_eq_true]
    rfl
  · have hother : [a].find? (fun b ↦ key b == k) = none :=
      List.find?_eq_none.2 fun b hb heq ↦ hk (by
        rw [← beq_iff_eq.1 heq, List.mem_singleton.1 hb])
    rw [Function.update_of_ne hk, hother, Option.or_none]
    rfl

end ValueAt

end VyosFabric
