import Mathlib.Algebra.Order.Ring.Int
import Mathlib.Data.Set.Basic

/-!
# Placing boxes one by one

A box covers the cells of a rectangle (`Box.cells`). Two boxes overlap if each starts before the
other ends, in both directions, which for boxes that are not empty means that they share a cell
(`overlaps_iff`).

A box that overlaps something placed already can be pushed down a row at a time until it does not:
what is in the way ends above the lowest bottom (`lt_depth`), so the rows down to there are a
measure of the loop.

`placeEach` places a list one by one, each item where `put` finds room for it among those before.
Where `put` keeps clear of what is placed, so does the whole (`pairwise_placeEach`), and what is
clear already stays where it is (`placeEach_eq_self`).
-/

namespace Boxes

/-- The first column and row, and how many of each. Cells are whole numbers; a program that has them
as doubles computes with them exactly below `2 ^ 53`. -/
structure Box where
  x : ℤ
  y : ℤ
  w : ℤ
  h : ℤ
  deriving DecidableEq, Repr

variable {a b : Box} {placed : List Box} {n : ℕ}

namespace Box

/-- The cells of a box. -/
def cells (b : Box) : Set (ℤ × ℤ) :=
  {c | (b.x ≤ c.1 ∧ c.1 < b.x + b.w) ∧ b.y ≤ c.2 ∧ c.2 < b.y + b.h}

def Overlaps (a b : Box) : Prop :=
  (a.x < b.x + b.w ∧ b.x < a.x + a.w) ∧ a.y < b.y + b.h ∧ b.y < a.y + a.h

instance (a b : Box) : Decidable (a.Overlaps b) := inferInstanceAs (Decidable (_ ∧ _))

/-- `n` rows further down. -/
def down (b : Box) (n : ℕ) : Box := { b with y := b.y + n }

@[simp] theorem down_x : (b.down n).x = b.x := rfl

@[simp] theorem down_y : (b.down n).y = b.y + n := rfl

@[simp] theorem down_w : (b.down n).w = b.w := rfl

@[simp] theorem down_h : (b.down n).h = b.h := rfl

@[simp] theorem down_zero : b.down 0 = b := by simp [down]

theorem Overlaps.symm (h : a.Overlaps b) : b.Overlaps a := ⟨h.1.symm, h.2.symm⟩

/-- **Boxes that are not empty overlap** exactly if they share a cell. -/
theorem overlaps_iff (ha : 1 ≤ a.w ∧ 1 ≤ a.h) (hb : 1 ≤ b.w ∧ 1 ≤ b.h) :
    a.Overlaps b ↔ (a.cells ∩ b.cells).Nonempty := by
  constructor
  · rintro ⟨hx, hy⟩
    refine ⟨(max a.x b.x, max a.y b.y), ?_, ?_⟩ <;> simp only [cells, Set.mem_ofPred_eq] <;>
      omega
  · rintro ⟨c, ⟨hax, hay⟩, hbx, hby⟩
    simp only [Overlaps]
    omega

end Box

/-! ### Room below -/

/-- The row below the lowest bottom of the boxes, or the row `y` if that is lower still. -/
def depth (placed : List Box) (y : ℤ) : ℤ := placed.foldr (fun p d ↦ max (p.y + p.h) d) y

theorem bottom_le_depth {p : Box} {y : ℤ} (hp : p ∈ placed) : p.y + p.h ≤ depth placed y := by
  induction placed with
  | nil => cases hp
  | cons q placed ih =>
    rcases List.mem_cons.1 hp with rfl | hp
    · exact le_max_left _ _
    · exact (ih hp).trans (le_max_right _ _)

/-- What is in the way is above the lowest bottom. -/
theorem lt_depth {p : Box} {y : ℤ} (hp : p ∈ placed) (hoverlaps : p.Overlaps b) :
    b.y < depth placed y :=
  hoverlaps.2.2.trans_le (bottom_le_depth hp)

/-! ### One by one -/

section Placing

variable {α : Type} {R S : α → α → Prop} {put : List α → α → α} {placed rest : List α} {t : α}

/-- Place each item of `rest` where `put` puts it, given those before. -/
def placeEach (put : List α → α → α) (placed rest : List α) : List α :=
  rest.foldl (fun acc t ↦ acc ++ [put acc t]) placed

@[simp] theorem placeEach_nil : placeEach put placed [] = placed := rfl

@[simp] theorem placeEach_cons :
    placeEach put placed (t :: rest) = placeEach put (placed ++ [put placed t]) rest := rfl

/-- **Each item keeps clear of those before**, if `put` sees to that. -/
theorem pairwise_placeEach (hput : ∀ acc t, ∀ p ∈ acc, R p (put acc t)) (h : placed.Pairwise R) :
    (placeEach put placed rest).Pairwise R := by
  induction rest generalizing placed with
  | nil => exact h
  | cons t rest ih =>
    refine ih (List.pairwise_append.2 ⟨h, List.pairwise_singleton _ _, ?_⟩)
    intro p hp q hq
    rw [List.mem_singleton.1 hq]
    exact hput placed t p hp

/-- What is added are the items in order, each changed as `put` changes it. -/
theorem exists_placeEach_eq (hput : ∀ acc t, S t (put acc t)) :
    ∃ moved, List.Forall₂ S rest moved ∧ placeEach put placed rest = placed ++ moved := by
  induction rest generalizing placed with
  | nil => exact ⟨[], .nil, (List.append_nil _).symm⟩
  | cons t rest ih =>
    obtain ⟨moved, hmoved, heq⟩ := @ih (placed ++ [put placed t])
    refine ⟨put placed t :: moved, .cons (hput placed t) hmoved, ?_⟩
    rw [placeEach_cons, heq, List.append_assoc]
    rfl

theorem exists_of_mem_forall₂ {l moved : List α} (h : List.Forall₂ S l moved) (ht : t ∈ l) :
    ∃ u ∈ moved, S t u := by
  induction h with
  | nil => cases ht
  | cons hS _ ih =>
    rcases List.mem_cons.1 ht with rfl | ht
    · exact ⟨_, List.mem_cons_self, hS⟩
    · obtain ⟨u, hu, hSu⟩ := ih ht
      exact ⟨u, List.mem_cons_of_mem _ hu, hSu⟩

/-- **Items that are clear of each other** stay where they are, if `put` leaves such items alone. -/
theorem placeEach_eq_self (hput : ∀ acc t, (∀ p ∈ acc, R p t) → put acc t = t)
    (h : (placed ++ rest).Pairwise R) : placeEach put placed rest = placed ++ rest := by
  induction rest generalizing placed with
  | nil => exact (List.append_nil _).symm
  | cons t rest ih =>
    have hclear : put placed t = t :=
      hput placed t fun p hp ↦ (List.pairwise_append.1 h).2.2 p hp t List.mem_cons_self
    have happend : placed ++ t :: rest = (placed ++ [t]) ++ rest := by
      rw [List.append_assoc]
      rfl
    rw [placeEach_cons, hclear, happend]
    exact ih (happend ▸ h)

end Placing

end Boxes
