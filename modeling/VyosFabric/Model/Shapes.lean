import Mathlib
import VyosFabric.Model.LiveConfig
import VyosFabric.Model.Text

/-!
# The shapes of nodes

A node of a config is a branch, whose children are named, or a leaf with one value or several. What
shape a node has is the device's schema, and a device shows each shape in one form of JSON
(`Shape.Shows`). Where the shape is known, what stands below a node can be read off its JSON: the
children of a branch (`mem_nodes_branch`), the value of a leaf (`mem_nodes_leaf`), and so on.
-/

namespace VyosFabric

namespace Json

/-- A subtree, in two steps. -/
theorem subtree_append_eq (p q : Path) (v : Json) :
    v.subtree (p ++ q) = (v.subtree p).bind (subtree q) := by
  induction p generalizing v with
  | nil => rfl
  | cons k p ih =>
    show (v.get k).bind (subtree (p ++ q)) = ((v.get k).bind (subtree p)).bind (subtree q)
    cases v.get k with
    | none => rfl
    | some u => exact ih u

/-- The nodes below a subtree are its nodes. -/
theorem isNode_append {p r : Path} {v w : Json} (h : v.subtree p = some w) :
    v.isNode (p ++ r) = w.isNode r := by
  induction p generalizing v with
  | nil =>
    obtain rfl := Option.some.inj h
    rfl
  | cons k p ih =>
    obtain ⟨u, hget, hrest⟩ := Option.bind_eq_some_iff.1 h
    cases v with
    | obj m =>
      rw [List.cons_append, isNode, show m.lookup k = some u from hget]
      exact ih hrest
    | null | bool | int | real | str | arr => cases hget

/-- Nothing is below a path without a subtree. -/
theorem isNode_eq_false {p : Path} {v : Json} (h : v.subtree p = none) (k : String) (r : Path) :
    v.isNode (p ++ k :: r) = false := by
  induction p generalizing v with
  | nil => cases h
  | cons k' p ih =>
    cases v with
    | obj m =>
      rw [List.cons_append, isNode]
      cases hlookup : m.lookup k' with
      | none => rfl
      | some u =>
        have hget : (Json.obj m).get k' = some u := hlookup
        rw [subtree, hget] at h
        exact ih h
    | null | bool | int | real | str | arr =>
      -- a leaf has its values below it and nothing else
      cases p <;> rfl

/-- Ancestors of nodes are nodes. -/
theorem isNode_of_append {p r : Path} {v : Json} (h : v.isNode (p ++ r) = true) :
    v.isNode p = true := by
  cases r with
  | nil => rwa [List.append_nil] at h
  | cons k r =>
    cases hsub : v.subtree p with
    | none =>
      rw [isNode_eq_false hsub] at h
      cases h
    | some w => exact isNode_of_subtree hsub

end Json

/-- What a node is. -/
inductive Shape where
  /-- Its children are named. -/
  | branch
  /-- It holds one value. -/
  | leaf
  /-- It holds one number. -/
  | number
  /-- It holds any number of values. -/
  | leaves
  deriving DecidableEq

/-- The JSON a device shows for a node of a shape: objects with distinct keys for branches, a string
for one value, and an array of distinct strings for several. A number may be a number. -/
def Shape.Shows : Shape → Json → Prop
  | branch, v => ∃ m, v = .obj m ∧ (m.map Prod.fst).Nodup
  | leaf, v => ∃ s, v = .str s
  | number, v => (∃ s, v = .str s) ∨ ∃ n, v = .int n
  | leaves, v => (∃ s, v = .str s) ∨ ∃ l : List String, v = .arr (l.map .str) ∧ l.Nodup

namespace LiveConfig

/-- The node at `p`, if there is one, has the shape. -/
def HasShape (L : LiveConfig) (p : Path) (shape : Shape) : Prop :=
  ∀ v, L.tree.subtree p = some v → shape.Shows v

/-- The text of a leaf, as the backend reads it. -/
def text (L : LiveConfig) (p : Path) : Option String :=
  trimmed ((L.tree.subtree p).bind Json.asStr)

/-- The values of a leaf. -/
def values (L : LiveConfig) (p : Path) : List String :=
  match L.tree.subtree p with
  | some (.str s) => [s]
  | some (.arr l) => l.filterMap Json.asStr
  | _ => []

/-- The number of a leaf. -/
def number (L : LiveConfig) (p : Path) : Option Int :=
  match L.tree.subtree p with
  | some (.str s) => parseI32 (trim s)
  | some n => n.asI64.map asI32
  | none => none

variable {L : LiveConfig} {p r : Path} {k x : String}

theorem mem_nodes_append {v : Json} (h : L.tree.subtree p = some v) :
    p ++ r ∈ L.nodes ↔ v.isNode r = true := by
  show L.tree.isNode (p ++ r) = true ↔ _
  rw [Json.isNode_append h]

theorem not_mem_nodes (h : L.tree.subtree p = none) (k : String) (r : Path) :
    p ++ k :: r ∉ L.nodes := by
  show ¬L.tree.isNode (p ++ k :: r) = true
  rw [Json.isNode_eq_false h]
  decide

theorem mem_nodes_of_subtree {v : Json} (h : L.tree.subtree p = some v) : p ∈ L.nodes :=
  Json.isNode_of_subtree h

theorem mem_nodes_of_append (h : p ++ r ∈ L.nodes) : p ∈ L.nodes := Json.isNode_of_append h

/-- **Below a branch** are its children. -/
theorem mem_nodes_branch (h : L.HasShape p .branch) :
    p ++ [k] ∈ L.nodes ↔ (L.tree.subtree (p ++ [k])).isSome = true := by
  cases hsub : L.tree.subtree p with
  | none =>
    rw [Json.subtree_append_eq, hsub]
    exact ⟨fun hmem ↦ absurd hmem (not_mem_nodes hsub k []), fun hsome ↦ by cases hsome⟩
  | some v =>
    obtain ⟨m, rfl, -⟩ := h v hsub
    rw [mem_nodes_append hsub, Json.subtree_append_eq, hsub, Json.isNode]
    show (m.lookup k).any (Json.isNode []) = true ↔
      ((m.lookup k).bind (Json.subtree [])).isSome = true
    cases m.lookup k with
    | none => exact Iff.rfl
    | some u => exact ⟨fun _ ↦ rfl, fun _ ↦ rfl⟩

/-- **Below a leaf** is its value. -/
theorem mem_nodes_leaf (h : L.HasShape p .leaf) :
    p ++ [x] ∈ L.nodes ↔ L.tree.subtree p = some (.str x) := by
  cases hsub : L.tree.subtree p with
  | none => exact ⟨fun hmem ↦ absurd hmem (not_mem_nodes hsub x []), fun h ↦ by cases h⟩
  | some v =>
    obtain ⟨s, rfl⟩ := h v hsub
    rw [mem_nodes_append hsub, Option.some.injEq, Json.str.injEq]
    exact beq_iff_eq.trans Option.some_inj

/-- A text that is trimmed, not blank, and not the one the backend reads, is not there. -/
theorem not_mem_nodes_of_text (h : L.HasShape p .leaf) (htrim : trim x = x) (hne : x ≠ "")
    (hdiff : some x ≠ L.text p) : p ++ [x] ∉ L.nodes := by
  rw [mem_nodes_leaf h]
  intro hsub
  refine hdiff ?_
  rw [text, hsub]
  show some x = trimmed (some x)
  rw [trimmed_some, htrim, if_neg hne]

/-- A text the backend reads is there. -/
theorem mem_nodes_of_text (h : L.text p ≠ none) : p ∈ L.nodes := by
  cases hsub : L.tree.subtree p with
  | none =>
    rw [text, hsub] at h
    exact absurd rfl h
  | some v => exact mem_nodes_of_subtree hsub

/-- **Below a leaf with several values** are its values. -/
theorem mem_nodes_leaves (h : L.HasShape p .leaves) : p ++ [x] ∈ L.nodes ↔ x ∈ L.values p := by
  unfold values
  cases hsub : L.tree.subtree p with
  | none => exact ⟨fun hmem ↦ absurd hmem (not_mem_nodes hsub x []), fun h ↦ by cases h⟩
  | some v =>
    rw [mem_nodes_append hsub]
    obtain ⟨s, rfl⟩ | ⟨l, rfl, -⟩ := h v hsub
    · rw [List.mem_singleton]
      exact (beq_iff_eq.trans Option.some_inj).trans eq_comm
    · show ((l.map Json.str).any fun v ↦ v.leafText == some x) = true ↔
        x ∈ (l.map Json.str).filterMap Json.asStr
      simp [List.any_eq_true, Json.leafText, Json.asStr]

theorem values_nodup (h : L.HasShape p .leaves) : (L.values p).Nodup := by
  unfold values
  cases hsub : L.tree.subtree p with
  | none => exact List.nodup_nil
  | some v =>
    obtain ⟨s, rfl⟩ | ⟨l, rfl, hnodup⟩ := h v hsub
    · exact List.nodup_singleton s
    · show ((l.map Json.str).filterMap Json.asStr).Nodup
      have hvalues : (l.map Json.str).filterMap Json.asStr = l := by
        rw [List.filterMap_map]
        exact List.filterMap_some
      rwa [hvalues]

/-- A number other than the one the backend reads is not there. -/
theorem not_mem_nodes_of_number (h : L.HasShape p .number) {m : Int} (hge : -2 ^ 31 ≤ m)
    (hlt : m < 2 ^ 31) (hdiff : some m ≠ L.number p) : p ++ [m.repr] ∉ L.nodes := by
  unfold number at hdiff
  cases hsub : L.tree.subtree p with
  | none => exact not_mem_nodes hsub _ []
  | some v =>
    rw [hsub] at hdiff
    rw [mem_nodes_append hsub]
    obtain ⟨s, rfl⟩ | ⟨n, rfl⟩ := h v hsub
    · intro hnode
      obtain rfl : s = m.repr := Option.some.inj (beq_iff_eq.1 hnode)
      refine hdiff ?_
      show some m = parseI32 (trim m.repr)
      rw [trim_repr, parseI32_repr hge hlt]
    · intro hnode
      obtain rfl : n = m := Int.repr_inj.1 (Option.some.inj (beq_iff_eq.1 hnode))
      refine hdiff ?_
      have hrange : -2 ^ 63 ≤ n ∧ n < 2 ^ 63 := by omega
      have hsame : asI32 n = n := by
        rw [asI32]
        exact Int.bmod_eq_of_le (by omega) (by omega)
      show some n = (if -2 ^ 63 ≤ n ∧ n < 2 ^ 63 then some n else none).map asI32
      rw [if_pos hrange, Option.map_some, hsame]

theorem mem_nodes_of_number (h : L.number p ≠ none) : p ∈ L.nodes := by
  cases hsub : L.tree.subtree p with
  | none =>
    rw [number, hsub] at h
    exact absurd rfl h
  | some v => exact mem_nodes_of_subtree hsub

/-! ### What is read back -/

/-- The text of a leaf that holds `x`. -/
theorem text_of_mem (h : L.HasShape p .leaf) (hx : p ++ [x] ∈ L.nodes) :
    L.text p = trimmed (some x) := by
  rw [text, (mem_nodes_leaf h).1 hx]
  rfl

theorem subtree_eq_none (h : p ∉ L.nodes) : L.tree.subtree p = none := by
  cases hsub : L.tree.subtree p with
  | none => rfl
  | some v => exact absurd (mem_nodes_of_subtree hsub) h

theorem text_of_not_mem (h : p ∉ L.nodes) : L.text p = none := by
  rw [text, subtree_eq_none h]
  rfl

/-- The number of a leaf that holds the numeral of `m`. -/
theorem number_of_mem (h : L.HasShape p .number) {m : Int} (hge : -2 ^ 31 ≤ m) (hlt : m < 2 ^ 31)
    (hm : p ++ [m.repr] ∈ L.nodes) : L.number p = some m := by
  by_contra hne
  exact not_mem_nodes_of_number h hge hlt (fun heq ↦ hne heq.symm) hm

theorem number_of_not_mem (h : p ∉ L.nodes) : L.number p = none := by
  rw [number, subtree_eq_none h]

end LiveConfig

end VyosFabric
