import Mathlib.Data.List.Basic
import Mathlib.Data.Prod.Basic
import VyosFabric.Boxes.Placing

/-!
# First fit

A strip has some columns, and rows without end. First fit puts a box at the first cell, row by row
and from the left, where it lies in the strip and clear of what is placed (`IsFirst`). For a box
that is not too wide there is one, since below everything there is room (`isFirst_firstCell`).

A search that looks at some rows only finds that cell, or none if it is further down
(`freeCell_eq_some_iff`, `freeCell_eq_none_iff`). A packing that puts a box into the corner then has
boxes that overlap, so it is clear of overlaps just if first fit has every box start in those rows
(`nonOverlapping_boundedFit_iff`).
-/

namespace Boxes

variable {cols w : ℤ} {rows : ℕ} {placed rest : List Box} {b : Box} {c d : ℤ × ℤ}

/-- The box, with its first column and row at a cell. -/
def Box.movedTo (b : Box) (c : ℤ × ℤ) : Box := { b with x := c.1, y := c.2 }

/-! ### Cells in order -/

/-- One cell is read before another: it is in a row above, or to the left. -/
def Before (c d : ℤ × ℤ) : Prop := c.2 < d.2 ∨ c.2 = d.2 ∧ c.1 < d.1

theorem Before.not_before (h : Before c d) : ¬Before d c := by
  simp only [Before] at h ⊢
  omega

/-- The cells of the first rows where a box of width `w` lies in the strip, as they are read. -/
def scan (cols : ℤ) (rows : ℕ) (w : ℤ) : List (ℤ × ℤ) :=
  (List.range rows).flatMap fun (y : ℕ) ↦
    (List.range (cols - w + 1).toNat).map fun (x : ℕ) ↦ ((x : ℤ), (y : ℤ))

theorem mem_scan : c ∈ scan cols rows w ↔ (0 ≤ c.1 ∧ c.1 + w ≤ cols) ∧ 0 ≤ c.2 ∧ c.2 < rows := by
  simp only [scan, List.mem_flatMap, List.mem_map, List.mem_range]
  constructor
  · rintro ⟨y, hy, x, hx, rfl⟩
    simp only
    omega
  · rintro ⟨⟨hleft, hright⟩, htop, hlow⟩
    refine ⟨c.2.toNat, by omega, c.1.toNat, by omega, Prod.ext ?_ ?_⟩
    · exact Int.toNat_of_nonneg hleft
    · exact Int.toNat_of_nonneg htop

theorem pairwise_scan : (scan cols rows w).Pairwise Before := by
  refine List.pairwise_flatMap.2 ⟨fun y _ ↦ ?_, ?_⟩
  · refine List.pairwise_map.2 (List.pairwise_lt_range.imp fun {_ _} hlt ↦ ?_)
    exact .inr ⟨rfl, Int.ofNat_lt.2 hlt⟩
  · refine List.pairwise_lt_range.imp fun {_ _} hlt ↦ ?_
    intro c hc d hd
    obtain ⟨x, -, rfl⟩ := List.mem_map.1 hc
    obtain ⟨x', -, rfl⟩ := List.mem_map.1 hd
    exact .inl (Int.ofNat_lt.2 hlt)

/-- **A search through a list in order** finds the first item there is. -/
theorem find?_eq_some_iff_of_pairwise {α : Type} {r : α → α → Prop} {p : α → Bool} {l : List α}
    (hasymm : ∀ a b, r a b → ¬r b a) (hl : l.Pairwise r) {a : α} :
    l.find? p = some a ↔ a ∈ l ∧ p a = true ∧ ∀ b ∈ l, r b a → p b = false := by
  constructor
  · intro h
    obtain ⟨hp, before, after, rfl, hbefore⟩ := List.find?_eq_some_iff_append.1 h
    refine ⟨List.mem_append_right _ List.mem_cons_self, hp, fun b hb hba ↦ ?_⟩
    rcases List.mem_append.1 hb with hb | hb
    · simpa using hbefore b hb
    · rcases List.mem_cons.1 hb with rfl | hb
      · exact absurd hba (hasymm b b hba)
      · have hab := (List.pairwise_cons.1 (List.pairwise_append.1 hl).2.1).1 b hb
        exact absurd hba (hasymm a b hab)
  · rintro ⟨hmem, hp, hfirst⟩
    cases hfind : l.find? p with
    | none => exact absurd hp (by simpa using List.find?_eq_none.1 hfind a hmem)
    | some b =>
      obtain ⟨hpb, before, after, rfl, hbefore⟩ := List.find?_eq_some_iff_append.1 hfind
      rcases List.mem_append.1 hmem with ha | ha
      · exact absurd hp (by simpa using hbefore a ha)
      · rcases List.mem_cons.1 ha with rfl | ha
        · rfl
        · have hba := (List.pairwise_cons.1 (List.pairwise_append.1 hl).2.1).1 a ha
          have hno := hfirst b (List.mem_append_right _ List.mem_cons_self) hba
          rw [hpb] at hno
          cases hno

/-! ### Room -/

/-- The box lies in the strip, clear of what is placed. -/
structure HasRoom (cols : ℤ) (placed : List Box) (b : Box) : Prop where
  left : 0 ≤ b.x
  right : b.x + b.w ≤ cols
  top : 0 ≤ b.y
  clear : ∀ p ∈ placed, ¬p.Overlaps b

/-- The first cell at which the box has room. -/
structure IsFirst (cols : ℤ) (placed : List Box) (b : Box) (c : ℤ × ℤ) : Prop where
  room : HasRoom cols placed (b.movedTo c)
  first : ∀ d, HasRoom cols placed (b.movedTo d) → ¬Before d c

/-- The first cell with room in the first rows. -/
def freeCell (cols : ℤ) (rows : ℕ) (placed : List Box) (b : Box) : Option (ℤ × ℤ) :=
  (scan cols rows b.w).find? fun c ↦ !placed.any fun p ↦ decide (p.Overlaps (b.movedTo c))

theorem not_any_overlaps_iff :
    (!placed.any fun p ↦ decide (p.Overlaps (b.movedTo c))) = true ↔
      ∀ p ∈ placed, ¬p.Overlaps (b.movedTo c) := by
  simp

/-- In a cell that is scanned, room is a matter of what is placed. -/
theorem hasRoom_iff_of_mem_scan (hc : c ∈ scan cols rows b.w) :
    HasRoom cols placed (b.movedTo c) ↔ ∀ p ∈ placed, ¬p.Overlaps (b.movedTo c) := by
  obtain ⟨⟨hleft, hright⟩, htop, -⟩ := mem_scan.1 hc
  exact ⟨HasRoom.clear, fun hclear ↦ ⟨hleft, hright, htop, hclear⟩⟩

theorem HasRoom.mem_scan (h : HasRoom cols placed (b.movedTo c)) (hrow : c.2 < rows) :
    c ∈ scan cols rows b.w :=
  Boxes.mem_scan.2 ⟨⟨h.left, h.right⟩, h.top, hrow⟩

/-- **A bounded search finds the first cell**, if it is in the rows it looks at. -/
theorem freeCell_eq_some_iff :
    freeCell cols rows placed b = some c ↔ IsFirst cols placed b c ∧ c.2 < rows := by
  rw [freeCell, find?_eq_some_iff_of_pairwise (fun _ _ ↦ Before.not_before) pairwise_scan]
  constructor
  · rintro ⟨hmem, hclear, hfirst⟩
    have hrow := (mem_scan.1 hmem).2.2
    refine ⟨⟨(hasRoom_iff_of_mem_scan hmem).2 (not_any_overlaps_iff.1 hclear), ?_⟩, hrow⟩
    intro d hd hbefore
    have hdrow : d.2 < rows := by
      simp only [Before] at hbefore
      omega
    have hno := hfirst d (hd.mem_scan hdrow) hbefore
    rw [not_any_overlaps_iff.2 hd.clear] at hno
    cases hno
  · rintro ⟨hc, hrow⟩
    refine ⟨hc.room.mem_scan hrow, not_any_overlaps_iff.2 hc.room.clear, fun d hd hbefore ↦ ?_⟩
    by_contra hclear
    have hroom := (hasRoom_iff_of_mem_scan hd).2
      (not_any_overlaps_iff.1 (Bool.eq_true_of_not_eq_false hclear))
    exact hc.first d hroom hbefore

theorem freeCell_eq_none_iff :
    freeCell cols rows placed b = none ↔
      ∀ c, HasRoom cols placed (b.movedTo c) → (rows : ℤ) ≤ c.2 := by
  rw [freeCell, List.find?_eq_none]
  constructor
  · intro h c hc
    by_contra hrow
    exact h c (hc.mem_scan (not_le.1 hrow)) (not_any_overlaps_iff.2 hc.clear)
  · intro h c hc hclear
    have hroom := (hasRoom_iff_of_mem_scan hc).2 (not_any_overlaps_iff.1 hclear)
    exact absurd (mem_scan.1 hc).2.2 (not_lt.2 (h c hroom))

/-- A first cell that is further down is not found. -/
theorem freeCell_eq_none_of_isFirst (hc : IsFirst cols placed b c) (hrow : ¬c.2 < rows) :
    freeCell cols rows placed b = none := by
  refine freeCell_eq_none_iff.2 fun d hd ↦ ?_
  have hfirst := hc.first d hd
  simp only [Before] at hfirst
  omega

/-! ### Below everything -/

theorem le_depth (placed : List Box) (y : ℤ) : y ≤ depth placed y := by
  induction placed with
  | nil => exact le_rfl
  | cons p placed ih => exact ih.trans (le_max_right _ _)

/-- Below everything there is room for a box that is not too wide. -/
theorem hasRoom_depth (hw : b.w ≤ cols) :
    HasRoom cols placed (b.movedTo (0, depth placed 0)) := by
  refine ⟨le_rfl, ?_, le_depth placed 0, fun p hp hoverlaps ↦ ?_⟩
  · exact (zero_add b.w).le.trans hw
  · exact lt_irrefl _ (lt_depth (y := 0) hp hoverlaps)

/-- The first cell with room, if the box is not too wide. -/
def firstCell (cols : ℤ) (placed : List Box) (b : Box) : ℤ × ℤ :=
  (freeCell cols (depth placed 0 + 1).toNat placed b).getD (0, 0)

theorem isFirst_firstCell (hw : b.w ≤ cols) : IsFirst cols placed b (firstCell cols placed b) := by
  rw [firstCell]
  cases hfree : freeCell cols (depth placed 0 + 1).toNat placed b with
  | none =>
    have hlow := freeCell_eq_none_iff.1 hfree _ (hasRoom_depth hw)
    have hdepth := le_depth placed 0
    simp only at hlow
    omega
  | some c => exact (freeCell_eq_some_iff.1 hfree).1

/-! ### Packing -/

/-- Each box at the first cell with room among those before. -/
def firstFit (cols : ℤ) (boxes : List Box) : List Box :=
  placeEach (fun placed b ↦ b.movedTo (firstCell cols placed b)) [] boxes

/-- Each box at the first cell with room in the first rows, or in the corner. -/
def boundedFit (cols : ℤ) (rows : ℕ) (boxes : List Box) : List Box :=
  placeEach (fun placed b ↦ b.movedTo ((freeCell cols rows placed b).getD (0, 0))) [] boxes

/-- The boxes are clear of each other. -/
def NonOverlapping (boxes : List Box) : Prop := boxes.Pairwise fun a b ↦ ¬a.Overlaps b

theorem NonOverlapping.concat (h : NonOverlapping placed) (hroom : HasRoom cols placed b) :
    NonOverlapping (placed ++ [b]) := by
  refine List.pairwise_append.2 ⟨h, List.pairwise_singleton _ _, fun p hp q hq ↦ ?_⟩
  rw [List.mem_singleton.1 hq]
  exact hroom.clear p hp

/-- If none of the rows has room, the corner has none. -/
theorem not_hasRoom_corner (hrows : 0 < rows) (hnone : freeCell cols rows placed b = none) :
    ¬HasRoom cols placed (b.movedTo (0, 0)) := by
  intro hroom
  have hlow := freeCell_eq_none_iff.1 hnone _ hroom
  simp only at hlow
  omega

theorem prefix_placeEach {α : Type} (put : List α → α → α) (placed rest : List α) :
    placed <+: placeEach put placed rest := by
  obtain ⟨moved, -, heq⟩ :=
    @exists_placeEach_eq α (fun _ _ ↦ True) put placed rest fun _ _ ↦ trivial
  exact heq ▸ List.prefix_append placed moved

/-- The rest of a packing, what is placed being clear and in the rows. -/
theorem nonOverlapping_placeEach_iff (hrows : 0 < rows) (hw : ∀ b ∈ rest, b.w ≤ cols)
    (hclear : NonOverlapping placed) (hplaced : ∀ p ∈ placed, p.y < rows) :
    NonOverlapping (placeEach (fun placed b ↦ b.movedTo ((freeCell cols rows placed b).getD (0, 0)))
        placed rest) ↔
      ∀ b ∈ placeEach (fun placed b ↦ b.movedTo (firstCell cols placed b)) placed rest,
        b.y < rows := by
  induction rest generalizing placed with
  | nil => exact iff_of_true hclear hplaced
  | cons b rest ih =>
    obtain ⟨hb, hrest⟩ := List.forall_mem_cons.1 hw
    have hfirst : IsFirst cols placed b (firstCell cols placed b) := isFirst_firstCell hb
    rw [placeEach_cons, placeEach_cons]
    by_cases hrow : (firstCell cols placed b).2 < rows
    · -- the bounded search finds the cell, too
      rw [freeCell_eq_some_iff.2 ⟨hfirst, hrow⟩, Option.getD_some]
      refine ih hrest (hclear.concat hfirst.room) fun p hp ↦ ?_
      rcases List.mem_append.1 hp with hp | hp
      · exact hplaced p hp
      · rw [List.mem_singleton.1 hp]
        exact hrow
    · have hnone := freeCell_eq_none_of_isFirst hfirst hrow
      refine iff_of_false (fun h ↦ ?_) fun h ↦ ?_
      · -- the box is put into the corner, where there is no room
        rw [hnone, Option.getD_none] at h
        have hboth := h.sublist (prefix_placeEach _ _ _).sublist
        refine not_hasRoom_corner hrows hnone
          ⟨le_rfl, (zero_add b.w).le.trans hb, le_rfl, fun p hp ↦ ?_⟩
        exact (List.pairwise_append.1 hboth).2.2 p hp _ List.mem_cons_self
      · have hmem := (prefix_placeEach (fun placed b ↦ b.movedTo (firstCell cols placed b))
          (placed ++ [b.movedTo (firstCell cols placed b)]) rest).subset
            (List.mem_append_right _ List.mem_cons_self)
        exact hrow (h _ hmem)

/-- **A bounded packing is clear of overlaps** just if first fit has every box start in the rows. -/
theorem nonOverlapping_boundedFit_iff {boxes : List Box} (hrows : 0 < rows)
    (hw : ∀ b ∈ boxes, b.w ≤ cols) :
    NonOverlapping (boundedFit cols rows boxes) ↔ ∀ b ∈ firstFit cols boxes, b.y < rows :=
  nonOverlapping_placeEach_iff hrows hw .nil fun _ hp ↦ absurd hp List.not_mem_nil

end Boxes
