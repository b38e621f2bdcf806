import Mathlib.Data.List.Nodup
import Mathlib.Data.List.Perm.Basic

/-!
# Arrangements

An arrangement shows some known items in an order of its own. One that was made for other items is
brought up to date by `reconcile`: what is known keeps its place, and what is missing comes last.
That leaves a permutation of the known items (`reconcile_perm`).

An item is moved before another by taking it out and putting it back (`moveBefore`), which leaves
the others in their order (`isMoved_moveBefore`).
-/

namespace Sorting

variable {α : Type} [DecidableEq α] {known order l l' : List α} {a b : α}

/-! ### What is known -/

/-- What is known keeps its place, what is missing is added at the end. -/
def reconcile (known order : List α) : List α :=
  order.filter (· ∈ known) ++ known.filter (· ∉ order)

theorem mem_reconcile {x : α} : x ∈ reconcile known order ↔ x ∈ known := by
  rw [reconcile, List.mem_append, List.mem_filter, List.mem_filter, decide_eq_true_eq,
    decide_eq_true_eq]
  tauto

theorem reconcile_nodup (hknown : known.Nodup) (horder : order.Nodup) :
    (reconcile known order).Nodup := by
  refine List.nodup_append.2 ⟨horder.filter _, hknown.filter _, fun x hx y hy hxy ↦ ?_⟩
  have hmissing : y ∉ order := of_decide_eq_true (List.mem_filter.1 hy).2
  exact hmissing (hxy ▸ (List.mem_filter.1 hx).1)

/-- **An arrangement that is brought up to date** is a permutation of what is known. -/
theorem reconcile_perm (hknown : known.Nodup) (horder : order.Nodup) :
    (reconcile known order).Perm known :=
  (List.perm_ext_iff_of_nodup (reconcile_nodup hknown horder) hknown).2 fun _ ↦ mem_reconcile

theorem reconcile_eq_self (h : order.Perm known) : reconcile known order = order := by
  have hkept : order.filter (· ∈ known) = order :=
    List.filter_eq_self.2 fun x hx ↦ decide_eq_true (h.mem_iff.1 hx)
  have hmissing : known.filter (· ∉ order) = [] :=
    List.filter_eq_nil_iff.2 fun x hx ↦ by simpa using h.mem_iff.2 hx
  rw [reconcile, hkept, hmissing, List.append_nil]

/-- Adding what is missing, one after the other. -/
theorem foldl_add_missing (hknown : known.Nodup) (kept : List α) :
    known.foldl (fun kept x ↦ if x ∈ kept then kept else kept ++ [x]) kept =
      kept ++ known.filter (· ∉ kept) := by
  induction known generalizing kept with
  | nil => exact (List.append_nil kept).symm
  | cons x known ih =>
    obtain ⟨hx, hrest⟩ := List.nodup_cons.1 hknown
    rw [List.foldl_cons, ih hrest]
    by_cases hkept : x ∈ kept
    · rw [if_pos hkept, List.filter_cons_of_neg (by simpa using hkept)]
    · have hsame : known.filter (· ∉ kept ++ [x]) = known.filter (· ∉ kept) := by
        refine List.filter_congr fun y hy ↦ ?_
        have hne : y ≠ x := fun heq ↦ hx (heq ▸ hy)
        simp [hne]
      rw [if_neg hkept, hsame, List.filter_cons_of_pos (by simpa using hkept), List.append_assoc,
        List.singleton_append]

/-- Of several items without duplicates, one is not the given one. -/
theorem exists_mem_ne (hl : l.Nodup) (hlength : 1 < l.length) (a : α) : ∃ x ∈ l, x ≠ a := by
  by_contra hall
  have hsub : l ⊆ [a] := fun x hx ↦ by
    by_contra hne
    exact hall ⟨x, hx, fun heq ↦ hne (List.mem_singleton.2 heq)⟩
  exact absurd (List.subperm_of_subset hl hsub).length_le (Nat.not_le.2 hlength)

/-! ### Moving an item -/

/-- The item `a` is taken out, and put back before `b`. -/
def moveBefore (a b : α) (l : List α) : List α :=
  (l.erase a).insertIdx ((l.erase a).idxOf b) a

theorem idxOf?_of_mem (ha : a ∈ l) : l.idxOf? a = some (l.idxOf a) :=
  List.findIdx?_eq_some_of_exists ⟨a, ha, beq_self_eq_true a⟩

/-- Only `a` has moved, to the place before `b`. -/
structure IsMoved (a b : α) (l l' : List α) : Prop where
  others : l'.erase a = l.erase a
  before : ∃ l₁ l₂, l' = l₁ ++ a :: b :: l₂

theorem insertIdx_idxOf {l₁ : List α} (hb : b ∉ l₁) (l₂ : List α) :
    (l₁ ++ b :: l₂).insertIdx ((l₁ ++ b :: l₂).idxOf b) a = l₁ ++ a :: b :: l₂ := by
  induction l₁ with
  | nil => rw [List.nil_append, List.idxOf_cons_self, List.insertIdx_zero, List.nil_append]
  | cons x l₁ ih =>
    obtain ⟨hx, hb⟩ := not_or.1 (mt List.mem_cons.2 hb)
    rw [List.cons_append, List.idxOf_cons_ne _ (Ne.symm hx), List.insertIdx_succ_cons, ih hb,
      List.cons_append]

/-- **Moving** leaves the other items in their order. -/
theorem isMoved_moveBefore (hl : l.Nodup) (hne : a ≠ b) (hb : b ∈ l) :
    IsMoved a b l (moveBefore a b l) := by
  obtain ⟨l₁, l₂, hsplit, hfirst⟩ :=
    List.eq_append_cons_of_mem ((List.mem_erase_of_ne hne.symm).2 hb)
  have hmoved : moveBefore a b l = l₁ ++ a :: b :: l₂ := by
    rw [moveBefore, hsplit, insertIdx_idxOf hfirst]
  have ha : a ∉ l₁ := fun h ↦ hl.not_mem_erase (hsplit ▸ List.mem_append_left _ h)
  refine ⟨?_, l₁, l₂, hmoved⟩
  rw [hmoved, List.erase_append_right _ ha, List.erase_cons_head, hsplit]

theorem IsMoved.perm (h : IsMoved a b l l') (ha : a ∈ l) : l'.Perm l := by
  obtain ⟨l₁, l₂, hsplit⟩ := h.before
  have ha' : a ∈ l' := hsplit ▸ List.mem_append_right _ List.mem_cons_self
  exact (List.perm_cons_erase ha').trans (h.others ▸ (List.perm_cons_erase ha).symm)

end Sorting
