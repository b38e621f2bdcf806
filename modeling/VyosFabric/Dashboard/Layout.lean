import Mathlib.Data.List.Pairwise
import Mathlib.Data.List.Sort
import Mathlib.Data.Set.Lattice
import Mathlib.Order.CompletePartialOrder
import VyosFabric.Boxes.Placing
import VyosFabric.Model.Keyed

/-!
# The layout of the dashboard

Tiles lie on a grid of four columns, at explicit cells. `resolveLayout` takes a layout in which one
tile has been moved or resized: that tile keeps its cell, and each other tile is pushed down until
it clears those placed before it. The push ends (`exists_pushDown_eq`), the tiles of the result do
not overlap (`clear_resolveLayout`), and a layout without overlaps is left alone
(`resolveLayout_eq_self`), so that resolving twice is resolving once.
-/

namespace VyosFabric

open Boxes

/-! ### Tiles -/

/-- A tile: where it is, in grid units, and what it shows. -/
structure TileInstance extends Box where
  id : String
  type : String
  deriving DecidableEq, Repr

/-- `GRID_COLS`. -/
def gridCols : ℤ := 4

def clamp (v lo hi : ℤ) : ℤ := max lo (min hi v)

def collides (a b : Box) : Bool :=
  a.x < b.x + b.w && a.x + a.w > b.x && a.y < b.y + b.h && a.y + a.h > b.y

theorem collides_iff {a b : Box} : collides a b = true ↔ a.Overlaps b := by
  simp only [collides, Box.Overlaps, Bool.and_eq_true, decide_eq_true_eq]
  tauto

/-- The cells `findFreeCell` tries, in order: top to bottom, left to right. -/
def scannedCells (w : ℤ) : List (ℤ × ℤ) :=
  (List.range 200).flatMap fun y ↦ (List.range (gridCols - w + 1).toNat).map fun x ↦ (↑x, ↑y)

/-- The first empty cell for a `w`×`h` block. -/
def findFreeCell (placed : List TileInstance) (w h : ℤ) : ℤ × ℤ :=
  ((scannedCells w).find? fun c ↦
    !placed.any fun p ↦ collides p.toBox ⟨c.1, c.2, w, h⟩).getD (0, 0)

/-- A tile as an older layout has it: perhaps without a cell. -/
structure StoredTile where
  id : String
  type : String
  x : Option ℤ
  y : Option ℤ
  w : ℤ
  h : ℤ
  deriving DecidableEq, Repr

/-- Where `packTiles` puts a tile. -/
def packTile (placed : List TileInstance) (t : StoredTile) : TileInstance :=
  let w := clamp t.w 1 gridCols
  let h := max 1 t.h
  let (x, y) := findFreeCell placed w h
  ⟨⟨x, y, w, h⟩, t.id, t.type⟩

/-- Cells for tiles that have none. -/
def packTiles (tiles : List StoredTile) : List TileInstance :=
  tiles.foldl (fun placed t ↦ placed ++ [packTile placed t]) []

namespace TileInstance

/-- `n` rows further down. -/
def lower (t : TileInstance) (n : ℕ) : TileInstance := { t with toBox := t.toBox.down n }

@[simp] theorem lower_toBox (t : TileInstance) (n : ℕ) : (t.lower n).toBox = t.toBox.down n := rfl

@[simp] theorem lower_id (t : TileInstance) (n : ℕ) : (t.lower n).id = t.id := rfl

@[simp] theorem lower_type (t : TileInstance) (n : ℕ) : (t.lower n).type = t.type := rfl

@[simp] theorem lower_zero (t : TileInstance) : t.lower 0 = t := by
  rw [lower, Box.down_zero]

theorem lower_lower (t : TileInstance) (m n : ℕ) : (t.lower m).lower n = t.lower (m + n) := by
  simp [lower, Box.down, add_assoc]

end TileInstance

/-! ### Pushing down -/

/-- `while (placed.some((p) => collides(p, cur))) cur = { ...cur, y: cur.y + 1 }`. -/
def pushDown (placed : List TileInstance) (cur : TileInstance) : TileInstance :=
  if _h : placed.any (fun p ↦ collides p.toBox cur.toBox) = true then
    pushDown placed (cur.lower 1)
  else cur
termination_by (depth (placed.map TileInstance.toBox) 0 - cur.y).toNat
decreasing_by
  obtain ⟨p, hp, hcollides⟩ := List.any_eq_true.1 ‹_›
  have hlt := lt_depth (y := 0) (List.mem_map_of_mem hp) (collides_iff.1 hcollides)
  simp only [TileInstance.lower_toBox, Box.down_y]
  omega

section PushDown

variable {placed : List TileInstance} {t : TileInstance}

theorem any_collides_iff {b : Box} :
    placed.any (fun p ↦ collides p.toBox b) = true ↔ ∃ p ∈ placed, p.Overlaps b := by
  simp [collides_iff]

/-- **The loop ends**, a number of rows down: at the first cell that is clear. -/
theorem exists_pushDown_eq (placed : List TileInstance) (t : TileInstance) :
    ∃ n, pushDown placed t = t.lower n ∧ (∀ p ∈ placed, ¬p.Overlaps (t.lower n).toBox) ∧
      ∀ m < n, ∃ p ∈ placed, p.Overlaps (t.lower m).toBox := by
  induction t using pushDown.induct placed with
  | case1 t hany ih =>
    obtain ⟨n, heq, hclear, hfirst⟩ := ih
    rw [TileInstance.lower_lower] at heq hclear
    refine ⟨1 + n, ?_, hclear, fun m hm ↦ ?_⟩
    · rw [pushDown, dif_pos hany, heq]
    · cases m with
      | zero => simpa using any_collides_iff.1 hany
      | succ m =>
        have hm' := hfirst m (by omega)
        rwa [TileInstance.lower_lower, Nat.add_comm] at hm'
  | case2 t hany =>
    refine ⟨0, ?_, ?_, fun m hm ↦ absurd hm (Nat.not_lt_zero m)⟩
    · rw [pushDown, dif_neg hany, TileInstance.lower_zero]
    · rw [TileInstance.lower_zero]
      exact fun p hp hover ↦ hany (any_collides_iff.2 ⟨p, hp, hover⟩)

theorem not_overlaps_pushDown {p : TileInstance} (hp : p ∈ placed) :
    ¬p.Overlaps (pushDown placed t).toBox := by
  obtain ⟨n, heq, hclear, -⟩ := exists_pushDown_eq placed t
  exact heq ▸ hclear p hp

theorem pushDown_eq_self (h : ∀ p ∈ placed, ¬p.Overlaps t.toBox) : pushDown placed t = t := by
  rw [pushDown, dif_neg]
  rw [any_collides_iff]
  exact fun ⟨p, hp, hover⟩ ↦ h p hp hover

end PushDown

/-! ### Resolving -/

/-- The order of `sort((a, b) => a.y - b.y || a.x - b.x)`. -/
def Precedes (a b : TileInstance) : Prop := a.y < b.y ∨ a.y = b.y ∧ a.x ≤ b.x

instance : DecidableRel Precedes := fun _ _ ↦ inferInstanceAs (Decidable (_ ∨ _))

/-- `rest`: the tiles to be pushed, by row and column. -/
def restOf (tiles : List TileInstance) (staticId : String) : List TileInstance :=
  (tiles.filter fun t ↦ t.id != staticId).insertionSort Precedes

/-- `placed`: the static tile, and the rest pushed down one by one. -/
def placedOf (tiles : List TileInstance) (staticId : String) : List TileInstance :=
  placeEach pushDown (tiles.find? fun t ↦ t.id == staticId).toList (restOf tiles staticId)

/-- `placed.find((p) => p.id === t.id)!`: every tile has one of its id among those placed
(`exists_mem_placedOf`). -/
def settle (tiles : List TileInstance) (staticId : String) (t : TileInstance) : TileInstance :=
  ((placedOf tiles staticId).find? fun p ↦ p.id == t.id).getD t

def resolveLayout (tiles : List TileInstance) (staticId : String) : List TileInstance :=
  tiles.map (settle tiles staticId)

section Resolve

variable {tiles : List TileInstance} {staticId : String} {t : TileInstance}

/-- The same tile, some rows further down. -/
def Lowered (t u : TileInstance) : Prop := ∃ n, u = t.lower n

theorem lowered_pushDown (placed : List TileInstance) (t : TileInstance) :
    Lowered t (pushDown placed t) :=
  let ⟨n, h, _⟩ := exists_pushDown_eq placed t
  ⟨n, h⟩

theorem Lowered.id_eq {u : TileInstance} (h : Lowered t u) : u.id = t.id := by
  obtain ⟨n, rfl⟩ := h
  rfl

/-- The tiles that have an id of their own. -/
def Distinct (tiles : List TileInstance) : Prop := (tiles.map TileInstance.id).Nodup

instance : Decidable (Distinct tiles) := inferInstanceAs (Decidable (List.Nodup _))

theorem Distinct.find? (h : Distinct tiles) (ht : t ∈ tiles) :
    (tiles.find? fun p ↦ p.id == t.id) = some t :=
  find?_eq_of_nodup h ht fun _ ↦ beq_iff_eq

/-- The static tile and the rest are the tiles, in another order. -/
theorem perm_static_append_rest (h : Distinct tiles) (staticId : String) :
    ((tiles.find? fun t ↦ t.id == staticId).toList ++ restOf tiles staticId).Perm tiles := by
  have hrest : (restOf tiles staticId).Perm (tiles.filter fun t ↦ t.id != staticId) :=
    List.perm_insertionSort _ _
  refine (hrest.append_left _).trans ?_
  induction tiles with
  | nil => exact .refl _
  | cons a tiles ih =>
    have hd := List.nodup_cons.1 h
    by_cases ha : a.id = staticId
    · -- the static tile is this one, and no other has its id
      have hothers : (tiles.filter fun t ↦ t.id != staticId) = tiles := by
        refine List.filter_eq_self.2 fun t ht ↦ bne_iff_ne.2 fun heq ↦ hd.1 ?_
        exact List.mem_map.2 ⟨t, ht, heq.trans ha.symm⟩
      simp [ha, hothers]
    · have hperm := ih hd.2 (List.perm_insertionSort _ _)
      simp only [List.find?_cons, beq_eq_false_iff_ne.2 ha]
      rw [List.filter_cons_of_pos (by simpa using ha)]
      exact List.perm_middle.trans (hperm.cons a)

/-- What is placed are the static tile as it was, and the rest further down. -/
theorem exists_placedOf_eq (tiles : List TileInstance) (staticId : String) :
    ∃ moved, List.Forall₂ Lowered (restOf tiles staticId) moved ∧
      placedOf tiles staticId = (tiles.find? fun t ↦ t.id == staticId).toList ++ moved :=
  exists_placeEach_eq lowered_pushDown

/-- No two of the tiles that are placed overlap. -/
theorem pairwise_placedOf (tiles : List TileInstance) (staticId : String) :
    (placedOf tiles staticId).Pairwise fun a b ↦ ¬a.Overlaps b.toBox := by
  refine pairwise_placeEach (fun _ _ _ hp ↦ not_overlaps_pushDown hp) ?_
  cases tiles.find? fun t ↦ t.id == staticId with
  | none => exact .nil
  | some t => exact List.pairwise_singleton _ t

/-- What does not depend on the row stays. -/
theorem map_eq_of_lowered {β : Type} {g : TileInstance → β} (hg : ∀ t n, g (t.lower n) = g t)
    {l moved : List TileInstance} (h : List.Forall₂ Lowered l moved) : moved.map g = l.map g := by
  induction h with
  | nil => rfl
  | cons hab _ ih =>
    obtain ⟨n, rfl⟩ := hab
    rw [List.map_cons, List.map_cons, hg, ih]

theorem distinct_placedOf (h : Distinct tiles) (staticId : String) :
    Distinct (placedOf tiles staticId) := by
  obtain ⟨moved, hmoved, heq⟩ := exists_placedOf_eq tiles staticId
  have hids := (perm_static_append_rest h staticId).map TileInstance.id
  rw [List.map_append, ← map_eq_of_lowered TileInstance.lower_id hmoved, ← List.map_append, ← heq]
    at hids
  exact hids.nodup_iff.2 h

/-- Every tile is among those placed, at or below where it was. -/
theorem exists_mem_placedOf (h : Distinct tiles) (ht : t ∈ tiles) (staticId : String) :
    ∃ p ∈ placedOf tiles staticId, Lowered t p ∧ (t.id = staticId → p = t) := by
  obtain ⟨moved, hmoved, heq⟩ := exists_placedOf_eq tiles staticId
  rw [heq]
  rcases List.mem_append.1 ((perm_static_append_rest h staticId).mem_iff.2 ht) with hs | hr
  · exact ⟨t, List.mem_append_left _ hs, ⟨0, t.lower_zero.symm⟩, fun _ ↦ rfl⟩
  · obtain ⟨p, hp, hlow⟩ := exists_of_mem_forall₂ hmoved hr
    refine ⟨p, List.mem_append_right _ hp, hlow, fun hid ↦ absurd hid ?_⟩
    exact bne_iff_ne.1 (List.mem_filter.1 ((List.perm_insertionSort _ _).mem_iff.1 hr)).2

theorem settle_eq (h : Distinct tiles) {p : TileInstance} (hp : p ∈ placedOf tiles staticId)
    (hid : p.id = t.id) : settle tiles staticId t = p := by
  rw [settle, ← hid, (distinct_placedOf h staticId).find? hp]
  rfl

theorem exists_settle_eq (h : Distinct tiles) (ht : t ∈ tiles) (staticId : String) :
    settle tiles staticId t ∈ placedOf tiles staticId ∧ Lowered t (settle tiles staticId t) ∧
      (t.id = staticId → settle tiles staticId t = t) := by
  obtain ⟨p, hp, hlow, hstatic⟩ := exists_mem_placedOf h ht staticId
  rw [settle_eq h hp hlow.id_eq]
  exact ⟨hp, hlow, hstatic⟩

/-- The tiles are clear of each other. -/
def Clear (tiles : List TileInstance) : Prop := tiles.Pairwise fun a b ↦ ¬a.Overlaps b.toBox

instance : Decidable (Clear tiles) := inferInstanceAs (Decidable (List.Pairwise _ _))

def Sized (tiles : List TileInstance) : Prop := ∀ t ∈ tiles, 1 ≤ t.w ∧ 1 ≤ t.h

instance : Decidable (Sized tiles) := inferInstanceAs (Decidable (∀ _ ∈ _, _))

/-- No cell is covered twice. -/
def NoOverlap (tiles : List TileInstance) : Prop :=
  tiles.Pairwise fun a b ↦ Disjoint a.toBox.cells b.toBox.cells

theorem noOverlap_iff_clear (h : Sized tiles) : NoOverlap tiles ↔ Clear tiles := by
  refine List.Pairwise.iff_of_mem fun {a b} ha hb ↦ ?_
  rw [Box.overlaps_iff (h a ha) (h b hb), Set.disjoint_iff_inter_eq_empty,
    Set.not_nonempty_iff_eq_empty]

theorem sized_resolveLayout (h : Distinct tiles) (hsized : Sized tiles) (staticId : String) :
    Sized (resolveLayout tiles staticId) := by
  intro u hu
  obtain ⟨t, ht, rfl⟩ := List.mem_map.1 hu
  obtain ⟨n, hn⟩ := (exists_settle_eq h ht staticId).2.1
  rw [hn]
  exact hsized t ht

/-- **The result**: the tiles in order, each at or below where it was and the static one where it
was. -/
theorem forall₂_resolveLayout (h : Distinct tiles) (staticId : String) :
    List.Forall₂ (fun t u ↦ Lowered t u ∧ (t.id = staticId → u = t)) tiles
      (resolveLayout tiles staticId) := by
  rw [resolveLayout, List.forall₂_map_right_iff, List.forall₂_same]
  exact fun t ht ↦ (exists_settle_eq h ht staticId).2

theorem map_resolveLayout {β : Type} {g : TileInstance → β} (hg : ∀ t n, g (t.lower n) = g t)
    (h : Distinct tiles) (staticId : String) : (resolveLayout tiles staticId).map g = tiles.map g :=
  map_eq_of_lowered hg ((forall₂_resolveLayout h staticId).imp fun _ _ h ↦ h.1)

theorem distinct_resolveLayout (h : Distinct tiles) (staticId : String) :
    Distinct (resolveLayout tiles staticId) := by
  rw [Distinct, map_resolveLayout TileInstance.lower_id h]
  exact h

/-- **No two tiles of the result overlap.** -/
theorem clear_resolveLayout (h : Distinct tiles) (staticId : String) :
    Clear (resolveLayout tiles staticId) := by
  have hsymm : Std.Symm fun a b : TileInstance ↦ ¬a.Overlaps b.toBox :=
    ⟨fun _ _ hab hba ↦ hab hba.symm⟩
  refine List.pairwise_map.2 (List.Pairwise.imp_of_mem ?_ (List.pairwise_map.1 h))
  intro a b ha hb hne
  obtain ⟨hpa, hla, -⟩ := exists_settle_eq h ha staticId
  obtain ⟨hpb, hlb, -⟩ := exists_settle_eq h hb staticId
  refine (pairwise_placedOf tiles staticId).forall hpa hpb fun heq ↦ hne ?_
  rw [← hla.id_eq, heq, hlb.id_eq]

/-- **A layout without overlaps** is left alone. -/
theorem resolveLayout_eq_self (h : Distinct tiles) (hclear : Clear tiles) (staticId : String) :
    resolveLayout tiles staticId = tiles := by
  have hperm := perm_static_append_rest h staticId
  have hplaced : placedOf tiles staticId =
      (tiles.find? fun t ↦ t.id == staticId).toList ++ restOf tiles staticId :=
    placeEach_eq_self (fun _ _ ↦ pushDown_eq_self)
      (hperm.symm.pairwise hclear fun hab hba ↦ hab hba.symm)
  refine (List.map_congr_left fun t ht ↦ ?_).trans (List.map_id tiles)
  exact settle_eq h (hplaced ▸ hperm.mem_iff.2 ht) rfl

/-- Nothing but the tiles is placed, whatever their ids. -/
theorem exists_of_mem_resolveLayout {u : TileInstance} (hu : u ∈ resolveLayout tiles staticId) :
    ∃ t ∈ tiles, Lowered t u := by
  obtain ⟨t, ht, rfl⟩ := List.mem_map.1 hu
  cases hfind : (placedOf tiles staticId).find? fun p ↦ p.id == t.id with
  | none => exact ⟨t, ht, 0, by rw [settle, hfind, TileInstance.lower_zero]; rfl⟩
  | some p =>
    rw [settle, hfind, Option.getD_some]
    obtain ⟨moved, hmoved, heq⟩ := exists_placedOf_eq tiles staticId
    rcases List.mem_append.1 (heq ▸ List.mem_of_find?_eq_some hfind) with hs | hm
    · refine ⟨p, List.mem_of_find?_eq_some (Option.mem_toList.1 hs), 0, p.lower_zero.symm⟩
    · obtain ⟨r, hr, hlow⟩ := exists_of_mem_forall₂ hmoved.flip hm
      have hrest := (List.perm_insertionSort _ _).mem_iff.1 hr
      exact ⟨r, (List.mem_filter.1 hrest).1, hlow⟩

/-- **Resolving twice** is resolving once. -/
theorem resolveLayout_resolveLayout (h : Distinct tiles) (staticId : String) :
    resolveLayout (resolveLayout tiles staticId) staticId = resolveLayout tiles staticId :=
  resolveLayout_eq_self (distinct_resolveLayout h staticId) (clear_resolveLayout h staticId)
    staticId

end Resolve

end VyosFabric
