import VyosFabric.Boxes.FirstFit
import VyosFabric.Dashboard.Page

/-!
# Free cells

`findFreeCell` is the search of first fit in the first 200 rows of the grid, and `packTiles` packs
with it. If there is no free cell in these rows the search falls back on the corner, where it has
just found a tile. So it is right exactly if one of these rows has a free cell
(`isFirstVacant_findFreeCell_iff`), and a packing is clear of overlaps exactly if first fit does not
need more rows (`noOverlap_packTiles_iff`).
-/

namespace VyosFabric

open Boxes

/-! ### The first free cell -/

/-- A `w`×`h` block at a cell. -/
def blockAt (c : ℤ × ℤ) (w h : ℤ) : Box := ⟨c.1, c.2, w, h⟩

/-- A block at the cell lies in the columns, and covers no cell of a tile. -/
structure Vacant (placed : List TileInstance) (w h : ℤ) (c : ℤ × ℤ) : Prop where
  left : 0 ≤ c.1
  right : c.1 + w ≤ gridCols
  top : 0 ≤ c.2
  disjoint : ∀ p ∈ placed, Disjoint p.toBox.cells (blockAt c w h).cells

/-- The first vacant cell, from top to bottom and from left to right. -/
structure IsFirstVacant (placed : List TileInstance) (w h : ℤ) (c : ℤ × ℤ) : Prop where
  vacant : Vacant placed w h c
  first : ∀ d, Vacant placed w h d → ¬Before d c

section FreeCell

variable {placed : List TileInstance} {w h : ℤ} {c : ℤ × ℤ}

theorem scannedCells_eq (w : ℤ) : scannedCells w = scan gridCols 200 w := by
  simp only [scannedCells, scan, List.pure_def, List.bind_eq_flatMap, ← List.map_eq_flatMap,
    List.flatMap_map, List.map_map, Function.comp_def]

/-- The search of the code is the bounded search of first fit. -/
theorem findFreeCell_eq (placed : List TileInstance) (w h : ℤ) :
    findFreeCell placed w h =
      (freeCell gridCols 200 (placed.map TileInstance.toBox) (blockAt (0, 0) w h)).getD (0, 0) := by
  have hcollides (c : ℤ × ℤ) : (placed.any fun p ↦ collides p.toBox ⟨c.1, c.2, w, h⟩) =
      (placed.map TileInstance.toBox).any fun p ↦
        decide (p.Overlaps ((blockAt (0, 0) w h).movedTo c)) := by
    rw [List.any_map]
    refine congrArg (placed.any ·) (funext fun p ↦ ?_)
    exact Bool.eq_iff_iff.2 (collides_iff.trans decide_eq_true_iff.symm)
  simp only [findFreeCell, freeCell, scannedCells_eq, hcollides]
  rfl

theorem hasRoom_iff_vacant (hplaced : Sized placed) (hw : 1 ≤ w) (hh : 1 ≤ h) :
    HasRoom gridCols (placed.map TileInstance.toBox) ((blockAt (0, 0) w h).movedTo c) ↔
      Vacant placed w h c := by
  have hclear (p : TileInstance) (hp : p ∈ placed) :
      ¬p.toBox.Overlaps ((blockAt (0, 0) w h).movedTo c) ↔
        Disjoint p.toBox.cells (blockAt c w h).cells := by
    rw [Box.overlaps_iff (hplaced p hp) ⟨hw, hh⟩, Set.disjoint_iff_inter_eq_empty,
      Set.not_nonempty_iff_eq_empty]
    rfl
  constructor
  · intro hroom
    refine ⟨hroom.left, hroom.right, hroom.top, fun p hp ↦ (hclear p hp).1 ?_⟩
    exact hroom.clear p.toBox (List.mem_map_of_mem hp)
  · intro hvacant
    refine ⟨hvacant.left, hvacant.right, hvacant.top, fun b hb ↦ ?_⟩
    obtain ⟨p, hp, rfl⟩ := List.mem_map.1 hb
    exact (hclear p hp).2 (hvacant.disjoint p hp)

theorem isFirst_iff_isFirstVacant (hplaced : Sized placed) (hw : 1 ≤ w) (hh : 1 ≤ h) :
    IsFirst gridCols (placed.map TileInstance.toBox) (blockAt (0, 0) w h) c ↔
      IsFirstVacant placed w h c := by
  constructor
  · intro hfirst
    refine ⟨(hasRoom_iff_vacant hplaced hw hh).1 hfirst.room, fun d hd ↦ hfirst.first d ?_⟩
    exact (hasRoom_iff_vacant hplaced hw hh).2 hd
  · intro hfirst
    refine ⟨(hasRoom_iff_vacant hplaced hw hh).2 hfirst.vacant, fun d hd ↦ hfirst.first d ?_⟩
    exact (hasRoom_iff_vacant hplaced hw hh).1 hd

/-- **The search is right** exactly if there is a vacant cell in the rows it looks at. -/
theorem isFirstVacant_findFreeCell_iff (hplaced : Sized placed) (hw : 1 ≤ w) (hh : 1 ≤ h) :
    IsFirstVacant placed w h (findFreeCell placed w h) ↔ ∃ c, Vacant placed w h c ∧ c.2 < 200 := by
  rw [findFreeCell_eq]
  cases hfree : freeCell gridCols 200 (placed.map TileInstance.toBox) (blockAt (0, 0) w h) with
  | none =>
    have hlow (c : ℤ × ℤ) (hc : Vacant placed w h c) : ¬c.2 < 200 :=
      not_lt.2 (freeCell_eq_none_iff.1 hfree c ((hasRoom_iff_vacant hplaced hw hh).2 hc))
    refine iff_of_false (fun hfirst ↦ ?_) fun ⟨c, hc, hrow⟩ ↦ hlow c hc hrow
    exact hlow _ hfirst.vacant (by norm_num)
  | some c =>
    obtain ⟨hfirst, hrow⟩ := freeCell_eq_some_iff.1 hfree
    have hvacant := (isFirst_iff_isFirstVacant hplaced hw hh).1 hfirst
    exact iff_of_true hvacant ⟨c, hvacant.vacant, hrow⟩

/-- Wherever it ends, the block lies in the columns. -/
theorem findFreeCell_fits (placed : List TileInstance) {w : ℤ} (hw : w ≤ gridCols) (h : ℤ) :
    0 ≤ (findFreeCell placed w h).1 ∧ (findFreeCell placed w h).1 + w ≤ gridCols := by
  rw [findFreeCell_eq]
  cases hfree : freeCell gridCols 200 (placed.map TileInstance.toBox) (blockAt (0, 0) w h) with
  | none => exact ⟨le_rfl, (zero_add w).le.trans hw⟩
  | some c =>
    obtain ⟨hfirst, -⟩ := freeCell_eq_some_iff.1 hfree
    exact ⟨hfirst.room.left, hfirst.room.right⟩

end FreeCell

/-! ### Packing -/

/-- The block of a tile that has no cell. -/
def StoredTile.block (t : StoredTile) : Box := blockAt (0, 0) (clamp t.w 1 gridCols) (max 1 t.h)

section Packing

variable {tiles : List StoredTile}

theorem block_w_le (t : StoredTile) : t.block.w ≤ gridCols := clamp_le (by decide)

/-- Where the tiles go is the packing with the bounded search. -/
theorem toBox_packTiles (tiles : List StoredTile) :
    (packTiles tiles).map TileInstance.toBox =
      boundedFit gridCols 200 (tiles.map StoredTile.block) := by
  have hfold (placed : List TileInstance) :
      (tiles.foldl (fun placed t ↦ placed ++ [packTile placed t]) placed).map TileInstance.toBox =
        placeEach (fun placed b ↦ b.movedTo ((freeCell gridCols 200 placed b).getD (0, 0)))
          (placed.map TileInstance.toBox) (tiles.map StoredTile.block) := by
    induction tiles generalizing placed with
    | nil => rfl
    | cons t tiles ih =>
      have hput : (packTile placed t).toBox = t.block.movedTo
          ((freeCell gridCols 200 (placed.map TileInstance.toBox) t.block).getD (0, 0)) := by
        rw [packTile, StoredTile.block, ← findFreeCell_eq]
        rfl
      rw [List.foldl_cons, ih, List.map_append, List.map_singleton, hput, List.map_cons,
        placeEach_cons]
  exact hfold []

theorem forall_mem_packTiles {P : TileInstance → Prop} (h : ∀ placed t, P (packTile placed t)) :
    ∀ u ∈ packTiles tiles, P u := by
  have hfold (placed : List TileInstance) (hplaced : ∀ u ∈ placed, P u) :
      ∀ u ∈ tiles.foldl (fun placed t ↦ placed ++ [packTile placed t]) placed, P u := by
    induction tiles generalizing placed with
    | nil => exact hplaced
    | cons t tiles ih =>
      refine ih _ fun u hu ↦ ?_
      rcases List.mem_append.1 hu with hu | hu
      · exact hplaced u hu
      · exact List.mem_singleton.1 hu ▸ h placed t
  exact hfold [] fun u hu ↦ absurd hu List.not_mem_nil

theorem sized_packTiles (tiles : List StoredTile) : Sized (packTiles tiles) :=
  forall_mem_packTiles fun _ t ↦ ⟨le_clamp t.w 1 gridCols, le_max_left 1 t.h⟩

theorem packTiles_fits (tiles : List StoredTile) :
    ∀ u ∈ packTiles tiles, 0 ≤ u.x ∧ u.x + u.w ≤ gridCols :=
  forall_mem_packTiles fun placed t ↦ findFreeCell_fits placed (clamp_le (by decide)) _

/-- **A packing is clear of overlaps** exactly if first fit has every tile start in the rows that
are looked at. -/
theorem noOverlap_packTiles_iff (tiles : List StoredTile) :
    NoOverlap (packTiles tiles) ↔
      ∀ b ∈ firstFit gridCols (tiles.map StoredTile.block), b.y < 200 := by
  have hwide : ∀ b ∈ tiles.map StoredTile.block, b.w ≤ gridCols := fun b hb ↦ by
    obtain ⟨t, -, rfl⟩ := List.mem_map.1 hb
    exact block_w_le t
  have hclear : Clear (packTiles tiles) ↔
      NonOverlapping ((packTiles tiles).map TileInstance.toBox) := by
    rw [NonOverlapping, List.pairwise_map]
    rfl
  rw [noOverlap_iff_clear (sized_packTiles tiles), hclear, toBox_packTiles]
  exact nonOverlapping_boundedFit_iff (by norm_num) hwide

end Packing

/-- **The search and the packing are right** exactly where the rows that are looked at do. A packing
keeps to the columns and to the order of the tiles in any case. -/
theorem free_cells_right_iff {placed : List TileInstance} {w h : ℤ} (hplaced : Sized placed)
    (hw : 1 ≤ w) (hh : 1 ≤ h) (tiles : List StoredTile) :
    (IsFirstVacant placed w h (findFreeCell placed w h) ↔ ∃ c, Vacant placed w h c ∧ c.2 < 200) ∧
      ((NoOverlap (packTiles tiles) ∧
        (∀ u ∈ packTiles tiles, 0 ≤ u.x ∧ u.x + u.w ≤ gridCols) ∧
          names (packTiles tiles) = tiles.map StoredTile.name) ↔
        ∀ b ∈ firstFit gridCols (tiles.map StoredTile.block), b.y < 200) := by
  refine ⟨isFirstVacant_findFreeCell_iff hplaced hw hh, ?_⟩
  rw [noOverlap_packTiles_iff tiles, and_iff_left ⟨packTiles_fits tiles, names_packTiles tiles⟩]

/-- A block beside the default tile, and a packing of two tiles. -/
theorem free_cells_right_default :
    IsFirstVacant defaultTiles 2 5 (findFreeCell defaultTiles 2 5) ∧
      NoOverlap (packTiles
        [⟨"a", "system-info", none, none, 2, 6⟩, ⟨"b", "system-info", none, none, 2, 5⟩]) := by
  have hsized : Sized defaultTiles := by decide
  obtain ⟨hcell, hpack⟩ := free_cells_right_iff hsized (w := 2) (h := 5) (by decide) (by decide)
    [⟨"a", "system-info", none, none, 2, 6⟩, ⟨"b", "system-info", none, none, 2, 5⟩]
  refine ⟨hcell.2 ⟨(2, 0), ?_, by decide⟩, (hpack.2 (by decide +kernel)).1⟩
  refine ⟨by decide, by decide, by decide, fun p hp ↦ Set.disjoint_left.2 fun c hc hc' ↦ ?_⟩
  obtain rfl := List.mem_singleton.1 hp
  simp only [Box.cells, blockAt, Set.mem_ofPred_eq] at hc hc'
  omega

/-- A tile of 200 rows that fills the columns. -/
def tallTile : StoredTile := ⟨"a", "system-info", none, none, 4, 200⟩

/-- Below it there is room, but a block goes to its corner. -/
theorem not_free_cells_right :
    ¬((∀ (placed : List TileInstance) (w h : ℤ), Sized placed → 1 ≤ w → w ≤ gridCols → 1 ≤ h →
        IsFirstVacant placed w h (findFreeCell placed w h)) ∧
      ∀ tiles : List StoredTile,
        NoOverlap (packTiles tiles) ∧ (∀ u ∈ packTiles tiles, 0 ≤ u.x ∧ u.x + u.w ≤ gridCols) ∧
          names (packTiles tiles) = tiles.map StoredTile.name) := by
  rintro ⟨-, hpack⟩
  obtain ⟨hclear, -⟩ := hpack [tallTile, ⟨"b", "system-info", none, none, 1, 1⟩]
  have hcells : packTiles [tallTile, ⟨"b", "system-info", none, none, 1, 1⟩] =
      [⟨⟨0, 0, 4, 200⟩, "a", "system-info"⟩, ⟨⟨0, 0, 1, 1⟩, "b", "system-info"⟩] := by
    decide +kernel
  rw [hcells] at hclear
  have hdisjoint := (List.pairwise_cons.1 hclear).1 _ List.mem_cons_self
  have hcorner : ((0, 0) : ℤ × ℤ) ∈ Box.cells ⟨0, 0, 4, 200⟩ := by simp [Box.cells]
  exact Set.disjoint_left.1 hdisjoint hcorner (by simp [Box.cells])

end VyosFabric
