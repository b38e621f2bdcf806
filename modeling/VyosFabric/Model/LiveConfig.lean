import VyosFabric.Model.Database
import VyosFabric.PathTree.Edits

/-!
# The live config of a device

What a device holds, how it shows it, and what a configure batch does to it. The config is one JSON
tree, whose nodes are paths: the keys of objects, and below a leaf its value or values. `showConfig`
answers with subtrees of it.

A batch edits the nodes in order: `set` puts a path with its ancestors, and replaces the other value
of a leaf that holds one, `delete` cuts a path with its subtree. Which nodes hold one value is the
device's schema. Nothing is assumed of it but that the lists of NICs, VLANs and rules hold many, and
that a NIC holds more than one setting.
-/

namespace VyosFabric

open PathTree

namespace Json

/-- The subtree at a path. -/
def subtree : Path → Json → Option Json
  | [], v => some v
  | k :: r, v => (v.get k).bind (subtree r)

/-- The text of a leaf value. -/
def leafText : Json → Option String
  | .str s => some s
  | .int n => some n.repr
  | .real t => some t
  | _ => none

/-- The path is a node of the tree. -/
def isNode : Path → Json → Bool
  | [], _ => true
  | k :: r, .obj m => (m.lookup k).any (isNode r)
  | [a], .arr l => l.any fun v ↦ v.leafText == some a
  | [a], v => v.leafText == some a
  | _ :: _ :: _, _ => false

/-- Where there is a subtree there is a node. -/
theorem isNode_of_subtree {p : Path} {v w : Json} (h : v.subtree p = some w) :
    v.isNode p = true := by
  induction p generalizing v with
  | nil =>
    rw [isNode]
  | cons k r ih =>
    obtain ⟨u, hget, hrest⟩ := Option.bind_eq_some_iff.1 h
    cases v with
    | obj m =>
      rw [isNode, show m.lookup k = some u from hget]
      exact ih hrest
    | null | bool | int | real | str | arr => cases hget

theorem subtree_append {p p' : Path} {v w : Json} (h : v.subtree p = some w) :
    v.subtree (p ++ p') = w.subtree p' := by
  induction p generalizing v with
  | nil =>
    obtain rfl := Option.some.inj h
    rfl
  | cons k r ih =>
    obtain ⟨u, hget, hrest⟩ := Option.bind_eq_some_iff.1 h
    show (v.get k).bind (subtree (r ++ p')) = _
    rw [hget]
    exact ih hrest

end Json

/-- A live config, and how its device shows it: a reply that reports success carries the subtree. -/
structure LiveConfig where
  tree : Json
  reply : Path → Json
  honest : ∀ path, (reply path).succeeded = true →
    tree.subtree path = some ((reply path).idx "data")

/-- The nodes of a live config. -/
def LiveConfig.nodes (L : LiveConfig) : Set Path := {p | L.tree.isNode p = true}

instance (L : LiveConfig) (p : Path) : Decidable (p ∈ L.nodes) :=
  inferInstanceAs (Decidable (L.tree.isNode p = true))

/-- **What a reply shows is there.** -/
theorem LiveConfig.mem_nodes {L : LiveConfig} {path p : Path} {w : Json}
    (hreply : (L.reply path).succeeded = true)
    (hshown : ((L.reply path).idx "data").subtree p = some w) : path ++ p ∈ L.nodes := by
  refine Json.isNode_of_subtree (w := w) ?_
  rw [Json.subtree_append (L.honest path hreply)]
  exact hshown

/-- A device that holds `tree` and reports a path without a node as empty. -/
def LiveConfig.ofTree (tree : Json) : LiveConfig where
  tree := tree
  reply path :=
    match tree.subtree path with
    | some v => .obj [("success", .bool true), ("data", v)]
    | none =>
      .obj [("success", .bool false), ("error", .str "Configuration under specified path is empty")]
  honest path h := by
    cases hsub : tree.subtree path with
    | none =>
      rw [hsub] at h
      exact absurd h (by decide)
    | some v => rfl

/-- Which nodes hold a single value. -/
structure Schema where
  single : Path → Bool
  ethernet : single ["interfaces", "ethernet"] = false
  nic : ∀ name, single ["interfaces", "ethernet", name] = false
  vif : ∀ name, single ["interfaces", "ethernet", name, "vif"] = false
  rule : ∀ sect, single ["nat", sect, "rule"] = false

/-- What a command does to the tree. -/
def Command.edit (c : Command) : Edit String :=
  match c.op with
  | .set => .put c.path
  | .delete => .cut c.path

/-- The nodes after a batch. -/
def Schema.run (schema : Schema) (batch : List Command) (T : Set Path) : Set Path :=
  applyAll schema.single (batch.map Command.edit) T

end VyosFabric
