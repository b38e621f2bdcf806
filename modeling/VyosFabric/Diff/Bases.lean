import Mathlib
import VyosFabric.Diff.Nat44

/-!
# Where the commands of a diff live

Every command of a diff lies under a base path, and the base paths of different entities differ: the
numbers in them are written in decimal, which determines them.
-/

namespace VyosFabric

theorem ethBase_inj {name name' : String} : ethBase name = ethBase name' ↔ name = name' := by
  simp [ethBase]

/-- A VLAN is determined by its base. -/
theorem vifBase_inj {parent parent' : String} {vid vid' : Int} :
    vifBase parent vid = vifBase parent' vid' ↔ parent = parent' ∧ vid = vid' := by
  simp [vifBase, Int.repr_inj]

/-- So is a NAT rule. -/
theorem ruleBase_inj {sect sect' : String} {rule rule' : ℕ} :
    ruleBase sect rule = ruleBase sect' rule' ↔ sect = sect' ∧ rule = rule' := by
  simp [ruleBase, Nat.repr_inj]

end VyosFabric
