import VyosFabric.Dashboard.ColumnLayout

/-!
# The widths of the columns

The border between two columns can be dragged: what one of them gains the other loses. A drag
remembers where it began and what the two were then, so what it makes of them depends on where the
mouse is and not on how it came there (`Drag.left_add_right`).

In any run of drags, among whatever else happens to the columns, the widths of all columns add up to
what they did, and a table whose columns are all as wide as they have to be stays so
(`resize_keeps`). A column that is too narrow can pull its neighbour below its minimum.

A position is a number of pixels, taken exactly.
-/

namespace VyosFabric

open Sorting

/-- The smallest width of a column that names none. -/
def minCol : ℚ := 60

/-- A drag of the border between two columns, as it began. -/
structure Drag where
  leftKey : String
  rightKey : String
  startX : ℚ
  startLeft : ℚ
  startRight : ℚ
  leftMin : ℚ
  rightMin : ℚ
  deriving DecidableEq, Repr

/-- How far the border has moved when the mouse is at `x`. -/
def Drag.delta (d : Drag) (x : ℚ) : ℚ :=
  min (max (x - d.startX) (-(d.startLeft - d.leftMin))) (d.startRight - d.rightMin)

def Drag.left (d : Drag) (x : ℚ) : ℚ := d.startLeft + d.delta x

def Drag.right (d : Drag) (x : ℚ) : ℚ := d.startRight - d.delta x

/-- A table whose columns are being resized. -/
structure ResizingHead (T : Type) where
  head : TableHead T
  drag : Option Drag

/-- What happens to such a table. `left` and `right` are the widths of the headers on the screen. -/
inductive ResizeEvent (T : Type) where
  | down (button : ℕ) (x : ℚ) (index : ℕ) (left right : Option ℚ)
  | move (x : ℚ)
  | up
  | head (e : HeadEvent T)

/-- Neither the layout is reset nor the page loaded again. -/
def HeadEvent.keepsLayout {T : Type} : HeadEvent T → Bool
  | .reset | .resize .. | .reload _ => false
  | _ => true

/-- So for all events. -/
def ResizeEvent.keepsLayout {T : Type} : ResizeEvent T → Bool
  | .head e => e.keepsLayout
  | _ => true

namespace ResizingHead

variable {T : Type} (minWidth : String → Option ℚ)

/-- The smallest width of a column. -/
def minOf (k : String) : ℚ := (minWidth k).getD minCol

section Model

variable (s : ResizingHead T)

/-- `onResizeDown`; the last column has no border to drag. -/
def onResizeDown (button : ℕ) (x : ℚ) (index : ℕ) (left right : Option ℚ) : ResizingHead T :=
  if button ≠ 0 then s
  else
    match s.head.visibleCols[index]?, s.head.visibleCols[index + 1]? with
    | some l, some r =>
      { s with drag := some {
          leftKey := l.key
          rightKey := r.key
          startX := x
          startLeft := ((s.head.widths.lookup l.key).or left).getD 120
          startRight := ((s.head.widths.lookup r.key).or right).getD 120
          leftMin := minOf minWidth l.key
          rightMin := minOf minWidth r.key } }
    | _, _ => s

def move (x : ℚ) : ResizingHead T :=
  match s.drag with
  | none => s
  | some d => { s with head := s.head.resize d.leftKey d.rightKey (d.left x) (d.right x) }

/-- A drag is the only thing that resizes. -/
def step : ResizeEvent T → Option (ResizingHead T)
  | .down button x index left right => some (s.onResizeDown minWidth button x index left right)
  | .move x => some (s.move x)
  | .up => some { s with drag := none }
  | .head (.resize ..) => none
  | .head e => (s.head.step e).map fun head ↦ { s with head := head }

def run (events : List (ResizeEvent T)) : Option (ResizingHead T) :=
  events.foldlM (step minWidth) s

end Model

end ResizingHead

/-! ### One drag -/

namespace Drag

variable {d : Drag} {x : ℚ}

/-- **What one column gains the other loses.** -/
theorem left_add_right (d : Drag) (x : ℚ) :
    d.left x + d.right x = d.startLeft + d.startRight := by
  rw [left, right]
  ring

/-- The right column is always as wide as it has to be. -/
theorem rightMin_le_right (d : Drag) (x : ℚ) : d.rightMin ≤ d.right x := by
  have := min_le_right (max (x - d.startX) (-(d.startLeft - d.leftMin))) (d.startRight - d.rightMin)
  rw [right, delta]
  linarith

/-- The left column is, exactly if there is room for both. -/
theorem leftMin_le_left_iff : d.leftMin ≤ d.left x ↔
    d.leftMin + d.rightMin ≤ d.startLeft + d.startRight := by
  have hle := le_max_right (x - d.startX) (-(d.startLeft - d.leftMin))
  rw [left, delta]
  constructor
  · intro h
    have := min_le_right (max (x - d.startX) (-(d.startLeft - d.leftMin)))
      (d.startRight - d.rightMin)
    linarith
  · intro h
    have hmin : -(d.startLeft - d.leftMin) ≤ min (max (x - d.startX) (-(d.startLeft - d.leftMin)))
        (d.startRight - d.rightMin) := le_min hle (by linarith)
    linarith

end Drag

/-! ### Widths -/

/-- The width of a column; one that has none counts as 0. -/
def TableHead.width {T : Type} (s : TableHead T) (k : String) : ℚ := (s.widths.lookup k).getD 0

/-- Every column has a width. -/
def TableHead.Measured {T : Type} (keys : List String) (s : TableHead T) : Prop :=
  ∀ k ∈ keys, (s.widths.lookup k).isSome = true

namespace TableHead

variable {T : Type} {keys : List String} {s s' : TableHead T}

theorem lookup_resize (a b : String) (x y : ℚ) (k : String) :
    (s.resize a b x y).widths.lookup k =
      if k = b then some y else if k = a then some x else s.widths.lookup k := by
  show List.lookup k ((b, y) :: (a, x) :: s.widths) = _
  rw [List.lookup_cons, List.lookup_cons]
  by_cases hb : k = b
  · rw [if_pos hb, beq_iff_eq.2 hb]
  · rw [if_neg hb, beq_false_of_ne hb]
    by_cases ha : k = a
    · rw [if_pos ha, beq_iff_eq.2 ha]
    · rw [if_neg ha, beq_false_of_ne ha]

theorem widths_reorderColumn (source target : String) :
    (s.reorderColumn source target).widths = s.widths := by
  rw [reorderColumn]
  split <;> rfl

theorem widths_onDrop (key : String) : (s.onDrop key).widths = s.widths := by
  rw [onDrop]
  cases s.dragCol with
  | none => rfl
  | some source =>
    dsimp only
    split
    · rfl
    · exact widths_reorderColumn source key

theorem widths_toggleColumn (key : String) : (s.toggleColumn key).widths = s.widths := by
  rw [toggleColumn]
  split
  · rfl
  · split <;> rfl

/-- An event that keeps the layout keeps the widths there are. -/
theorem lookup_step (hmeasured : s.Measured keys) {e : HeadEvent T} (he : e.keepsLayout = true)
    (hstep : s.step e = some s') {k : String} (hk : k ∈ keys) :
    s'.widths.lookup k = s.widths.lookup k := by
  cases e with
  | reset | resize | reload => cases he
  | dragStart key =>
    obtain ⟨-, heq⟩ := Option.ite_none_right_eq_some.1 hstep
    obtain rfl := Option.some.inj heq
    rfl
  | drop key =>
    obtain ⟨-, heq⟩ := Option.ite_none_right_eq_some.1 hstep
    obtain rfl := Option.some.inj heq
    rw [widths_onDrop]
  | toggle key =>
    obtain ⟨-, heq⟩ := Option.ite_none_right_eq_some.1 hstep
    obtain rfl := Option.some.inj heq
    rw [widths_toggleColumn]
  | dragEnd | persist =>
    obtain rfl := Option.some.inj hstep
    rfl
  | seed measured =>
    obtain rfl := Option.some.inj hstep
    rw [seedWidths]
    split
    · rfl
    · obtain ⟨w, hw⟩ := Option.isSome_iff_exists.1 (hmeasured k hk)
      show (s.widths ++ measured).lookup k = _
      rw [List.lookup_append, hw]
      rfl

end TableHead

/-- Two values of a sum that change against each other. -/
theorem sum_map_of_transfer {keys : List String} (hkeys : keys.Nodup) {f g : String → ℚ}
    {a b : String} (ha : a ∈ keys) (hb : b ∈ keys) (hne : a ≠ b)
    (hsum : g a + g b = f a + f b) (hrest : ∀ k ∈ keys, k ≠ a → k ≠ b → g k = f k) :
    (keys.map g).sum = (keys.map f).sum := by
  have hb' : b ∈ keys.erase a := (List.mem_erase_of_ne hne.symm).2 hb
  have hperm : keys.Perm (a :: b :: (keys.erase a).erase b) :=
    (List.perm_cons_erase ha).trans ((List.perm_cons_erase hb').cons a)
  have hmap : ((keys.erase a).erase b).map g = ((keys.erase a).erase b).map f := by
    refine List.map_congr_left fun k hk ↦ ?_
    obtain ⟨hkb, hk⟩ := (hkeys.erase a).mem_erase_iff.1 hk
    obtain ⟨hka, hk⟩ := hkeys.mem_erase_iff.1 hk
    exact hrest k hk hka hkb
  rw [(hperm.map g).sum_eq, (hperm.map f).sum_eq]
  simp only [List.map_cons, List.sum_cons, hmap]
  linarith

/-! ### Runs -/

namespace ResizingHead

open TableHead

variable {T : Type} {minWidth : String → Option ℚ} {keys : List String} {s s' : ResizingHead T}
  {total : ℚ}

/-- Every column is as wide as it has to be. -/
def Roomy (minWidth : String → Option ℚ) (keys : List String) (s : TableHead T) : Prop :=
  ∀ k ∈ keys, minOf minWidth k ≤ s.width k

/-- What a drag that goes on has to do with the table. -/
structure Under (minWidth : String → Option ℚ) (keys : List String) (wide : Prop)
    (s : TableHead T) (d : Drag) : Prop where
  left : d.leftKey ∈ keys
  right : d.rightKey ∈ keys
  ne : d.leftKey ≠ d.rightKey
  sum : s.width d.leftKey + s.width d.rightKey = d.startLeft + d.startRight
  leftMin : d.leftMin = minOf minWidth d.leftKey
  rightMin : d.rightMin = minOf minWidth d.rightKey
  room : wide → d.leftMin + d.rightMin ≤ d.startLeft + d.startRight

/-- The columns are arranged and measured, their widths add up to `total`, and they are all wide
enough if `wide` says so. -/
structure Balanced (minWidth : String → Option ℚ) (keys : List String) (total : ℚ) (wide : Prop)
    (s : ResizingHead T) : Prop where
  arranged : Arranged keys s.head
  measured : s.head.Measured keys
  sum : (keys.map s.head.width).sum = total
  roomy : wide → Roomy minWidth keys s.head
  under : ∀ d, s.drag = some d → Under minWidth keys wide s.head d

variable {wide : Prop}

theorem Balanced.of_widths (h : Balanced minWidth keys total wide s) {head : TableHead T}
    (harranged : Arranged keys head)
    (hwidths : ∀ k ∈ keys, head.widths.lookup k = s.head.widths.lookup k) :
    Balanced minWidth keys total wide { s with head := head } := by
  have hwidth : ∀ k ∈ keys, head.width k = s.head.width k := fun k hk ↦ by
    rw [TableHead.width, hwidths k hk, TableHead.width]
  refine ⟨harranged, fun k hk ↦ ?_, ?_, fun hwide k hk ↦ ?_, fun d hd ↦ ?_⟩
  · rw [hwidths k hk]
    exact h.measured k hk
  · rw [← h.sum]
    exact congrArg List.sum (List.map_congr_left hwidth)
  · rw [hwidth k hk]
    exact h.roomy hwide k hk
  · have hunder := h.under d hd
    refine { hunder with sum := ?_ }
    rw [hwidth _ hunder.left, hwidth _ hunder.right, hunder.sum]

/-- **A drag begins.** -/
theorem Balanced.onResizeDown (h : Balanced minWidth keys total wide s) (hkeys : keys.Nodup)
    (button : ℕ) (x : ℚ) (index : ℕ) (left right : Option ℚ) :
    Balanced minWidth keys total wide (s.onResizeDown minWidth button x index left right) := by
  rw [ResizingHead.onResizeDown]
  split
  · exact h
  · split
    · rename_i l r hl hr
      have hnodup : (s.head.visibleCols.map Column.key).Nodup := by
        rw [map_key_visibleCols (h.arranged.same.nodup_iff.2 hkeys)]
        exact ((h.arranged.orderedKeys_perm hkeys).nodup_iff.2 hkeys).filter _
      have hkey : ∀ (c : Column T) i, s.head.visibleCols[i]? = some c → c.key ∈ keys :=
        fun c i hc ↦ h.arranged.mem_of_visible hkeys
          (List.mem_map_of_mem (List.mem_of_getElem? hc))
      have hl' := hkey l index hl
      have hr' := hkey r (index + 1) hr
      have hne : l.key ≠ r.key := by
        intro heq
        have hi : (s.head.visibleCols.map Column.key)[index]? = some l.key := by
          rw [List.getElem?_map, hl]
          rfl
        have hj : (s.head.visibleCols.map Column.key)[index + 1]? = some l.key := by
          rw [List.getElem?_map, hr, heq]
          rfl
        have hsame : index = index + 1 :=
          (List.getElem?_inj (List.getElem?_eq_some_iff.1 hi).1 hnodup).1 (hi.trans hj.symm)
        exact absurd hsame (Nat.ne_of_lt (Nat.lt_succ_self index))
      refine ⟨h.arranged, h.measured, h.sum, h.roomy, fun d hd ↦ ?_⟩
      obtain rfl := Option.some.inj hd
      have hwidth : ∀ k ∈ keys, ∀ o : Option ℚ, ((s.head.widths.lookup k).or o).getD 120 =
          s.head.width k := by
        intro k hk o
        obtain ⟨w, hw⟩ := Option.isSome_iff_exists.1 (h.measured k hk)
        rw [TableHead.width, hw]
        rfl
      refine ⟨hl', hr', hne, ?_, rfl, rfl, fun hwide ↦ ?_⟩
      · dsimp only
        rw [hwidth _ hl', hwidth _ hr']
      · dsimp only
        rw [hwidth _ hl', hwidth _ hr']
        exact add_le_add (h.roomy hwide _ hl') (h.roomy hwide _ hr')
    · exact h

/-- **The mouse moves.** -/
theorem Balanced.move (h : Balanced minWidth keys total wide s) (hkeys : keys.Nodup) (x : ℚ) :
    Balanced minWidth keys total wide (s.move x) := by
  rw [ResizingHead.move]
  cases hdrag : s.drag with
  | none => exact h
  | some d =>
    have hunder := h.under d hdrag
    have hwidth : ∀ k, (s.head.resize d.leftKey d.rightKey (d.left x) (d.right x)).width k =
        if k = d.rightKey then d.right x else if k = d.leftKey then d.left x
          else s.head.width k := by
      intro k
      rw [TableHead.width, lookup_resize]
      split
      · rfl
      · split <;> rfl
    have hl := hwidth d.leftKey
    have hr := hwidth d.rightKey
    rw [if_neg hunder.ne, if_pos rfl] at hl
    rw [if_pos rfl] at hr
    have hkept : d.left x + d.right x = s.head.width d.leftKey + s.head.width d.rightKey := by
      rw [d.left_add_right, hunder.sum]
    refine ⟨⟨h.arranged.same, h.arranged.sound, h.arranged.dragged, h.arranged.stored⟩,
      fun k hk ↦ ?_, ?_, fun hwide k hk ↦ ?_, fun d' hd' ↦ ?_⟩
    · dsimp only
      rw [lookup_resize]
      split
      · rfl
      · split
        · rfl
        · exact h.measured k hk
    · rw [← h.sum]
      refine sum_map_of_transfer hkeys hunder.left hunder.right hunder.ne ?_ fun k _ hkl hkr ↦ ?_
      · dsimp only
        rw [hl, hr, hkept]
      · dsimp only
        rw [hwidth, if_neg hkr, if_neg hkl]
    · dsimp only
      rw [hwidth]
      split
      · rename_i heq
        rw [heq, ← hunder.rightMin]
        exact d.rightMin_le_right x
      · split
        · rename_i heq
          rw [heq, ← hunder.leftMin]
          exact Drag.leftMin_le_left_iff.2 (hunder.room hwide)
        · exact h.roomy hwide k hk
    · obtain rfl : d = d' := Option.some.inj hd'
      refine ⟨hunder.left, hunder.right, hunder.ne, ?_, hunder.leftMin, hunder.rightMin,
        hunder.room⟩
      dsimp only
      rw [hl, hr, d.left_add_right]

/-- What happens to the columns otherwise. -/
theorem step_head {e : HeadEvent T} (he : e.keepsLayout = true) :
    s.step minWidth (.head e) = (s.head.step e).map fun head ↦ { s with head := head } := by
  cases e with
  | reset | resize | reload => cases he
  | dragStart | drop | dragEnd | toggle | seed | persist => rfl

/-- **One event.** -/
theorem Balanced.step (h : Balanced minWidth keys total wide s) (hkeys : keys.Nodup)
    {e : ResizeEvent T} (he : e.keepsLayout = true) (hstep : s.step minWidth e = some s') :
    Balanced minWidth keys total wide s' := by
  cases e with
  | down button x index left right =>
    obtain rfl := Option.some.inj hstep
    exact h.onResizeDown hkeys button x index left right
  | move x =>
    obtain rfl := Option.some.inj hstep
    exact h.move hkeys x
  | up =>
    obtain rfl := Option.some.inj hstep
    exact ⟨h.arranged, h.measured, h.sum, h.roomy, fun d hd ↦ by cases hd⟩
  | head e =>
    rw [step_head he] at hstep
    obtain ⟨head, hhead, rfl⟩ := Option.map_eq_some_iff.1 hstep
    exact h.of_widths (h.arranged.step hkeys hhead) fun k hk ↦ lookup_step h.measured he hhead hk

/-- **So does a run.** -/
theorem Balanced.run (h : Balanced minWidth keys total wide s) (hkeys : keys.Nodup)
    {events : List (ResizeEvent T)} (hevents : ∀ e ∈ events, e.keepsLayout = true)
    (hrun : s.run minWidth events = some s') : Balanced minWidth keys total wide s' := by
  induction events generalizing s with
  | nil => exact Option.some.inj hrun ▸ h
  | cons e events ih =>
    obtain ⟨he, hrest⟩ := List.forall_mem_cons.1 hevents
    rw [ResizingHead.run, List.foldlM_cons] at hrun
    obtain ⟨t, hstep, hrun⟩ := Option.bind_eq_some_iff.1 hrun
    exact ih (h.step hkeys he hstep) hrest hrun

end ResizingHead

open TableHead ResizingHead in
/-- **Resizing keeps the widths together.** Take any table whose columns are arranged and measured,
and any run of drags of their borders, however the mouse moves, among columns being moved, hidden
and stored. The widths of all columns add up to what they did. If every column was as wide as it
has to be, every one still is, and the columns are still arranged. -/
theorem resize_keeps {T : Type} (minWidth : String → Option ℚ) {keys : List String}
    (hkeys : keys.Nodup) {s s' : ResizingHead T} (harranged : Arranged keys s.head)
    (hmeasured : s.head.Measured keys) (hidle : s.drag = none) {events : List (ResizeEvent T)}
    (hevents : ∀ e ∈ events, e.keepsLayout = true) (hrun : s.run minWidth events = some s') :
    (keys.map s'.head.width).sum = (keys.map s.head.width).sum ∧
      (Roomy minWidth keys s.head → Roomy minWidth keys s'.head) ∧ Arranged keys s'.head := by
  have hstart : Balanced minWidth keys (keys.map s.head.width).sum
      (Roomy minWidth keys s.head) s :=
    ⟨harranged, hmeasured, rfl, id, fun d hd ↦ by rw [hidle] at hd; cases hd⟩
  have hend := hstart.run hkeys hevents hrun
  exact ⟨hend.sum, hend.roomy, hend.arranged⟩

/-- Two columns of different minimum. -/
def sampleMinWidth : String → Option ℚ
  | "b" => some 100
  | _ => none

def sampleResizing : ResizingHead Unit where
  head := { TableHead.mount (blankColumns ["a", "b", "c"]) none with
    widths := [("a", 80), ("b", 120), ("c", 70)], seeded := true }
  drag := none

/-- The border between the first two is dragged far to the right and back to the left, and a column
is hidden meanwhile. -/
def sampleDragging : List (ResizeEvent Unit) :=
  [.down 0 80 0 none none, .move 500, .head (.toggle "c"), .move 70, .up]

open TableHead ResizingHead in
theorem resize_keeps_dragging : ∃ s', sampleResizing.run sampleMinWidth sampleDragging = some s' ∧
    (["a", "b", "c"].map s'.head.width).sum =
        (["a", "b", "c"].map sampleResizing.head.width).sum ∧
      Roomy sampleMinWidth ["a", "b", "c"] s'.head := by
  have harranged : Arranged ["a", "b", "c"] sampleResizing.head := by
    refine ⟨.refl _, ⟨by decide, fun _ ↦ ⟨"a", by decide, by decide⟩⟩, fun k hk ↦ ?_,
      fun layout hlayout ↦ ?_⟩
    · cases hk
    · cases hlayout
  have hroomy : Roomy sampleMinWidth ["a", "b", "c"] sampleResizing.head := by
    show ∀ k ∈ ["a", "b", "c"], minOf sampleMinWidth k ≤ sampleResizing.head.width k
    decide +kernel
  have hrun : ∃ s', sampleResizing.run sampleMinWidth sampleDragging = some s' := ⟨_, rfl⟩
  obtain ⟨s', hrun⟩ := hrun
  obtain ⟨hsum, hwide, -⟩ := resize_keeps sampleMinWidth (by decide) harranged (by
    show ∀ k ∈ ["a", "b", "c"], (sampleResizing.head.widths.lookup k).isSome = true
    decide) rfl (by decide) hrun
  exact ⟨s', hrun, hsum, hwide hroomy⟩

end VyosFabric
