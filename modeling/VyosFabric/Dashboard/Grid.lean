import Mathlib.Algebra.Order.Floor.Ring
import Mathlib.Data.Rat.Floor
import VyosFabric.Dashboard.Layout

/-!
# The grid of the dashboard

`DashboardGrid` lets a tile be dragged to a cell, resized by its corner and removed. What it keeps
between two pointer events are its refs (`GridRefs`); the tiles are the parent's, and an event that
changes them reports the new ones. A move of either gesture starts again from the tiles at its
beginning, `baseTiles`.

Whatever the pointers do, the tiles stay sound (`Board.sound_run`): inside the columns, at least as
large as their types allow, and clear of each other. A drag that ends where it began leaves nothing
behind (`Board.reported_drag_back`).
-/

namespace VyosFabric

open Boxes

/-! ### The types of tiles -/

/-- What a type of tile prescribes about sizes, in grid units. -/
structure TileDef where
  type : String
  defaultW : ℤ
  defaultH : ℤ
  minW : ℤ
  minH : ℤ
  deriving DecidableEq, Repr

/-- `TILE_TYPES`. -/
def tileTypes : List TileDef :=
  [⟨"system-info", 2, 6, 1, 4⟩, ⟨"interface-stats", 2, 5, 1, 3⟩, ⟨"network-speed", 2, 5, 2, 4⟩]

/-- `TILE_REGISTRY[type]`. -/
def tileRegistry (type : String) : Option TileDef := tileTypes.find? fun d ↦ d.type == type

/-- `def?.minW ?? 1`. -/
def minW (type : String) : ℤ := ((tileRegistry type).map TileDef.minW).getD 1

/-- `def?.minH ?? 1`. -/
def minH (type : String) : ℤ := ((tileRegistry type).map TileDef.minH).getD 1

/-- A new tile fits into the columns, and is large enough. -/
theorem tileRegistry_default {type : String} {d : TileDef} (h : tileRegistry type = some d) :
    d.type = type ∧ d.defaultW ≤ gridCols ∧ minW type ≤ d.defaultW ∧ minH type ≤ d.defaultH := by
  have hfound := List.find?_some h
  have hmem := List.mem_of_find?_eq_some h
  have hmin : minW type = d.minW ∧ minH type = d.minH := by simp [minW, minH, h]
  have hall : ∀ d ∈ tileTypes,
      d.defaultW ≤ gridCols ∧ d.minW ≤ d.defaultW ∧ d.minH ≤ d.defaultH := by
    decide
  rw [hmin.1, hmin.2]
  exact ⟨by simpa using hfound, hall d hmem⟩

/-- Every type asks for a column and a row at least. -/
theorem one_le_min (type : String) : 1 ≤ minW type ∧ 1 ≤ minH type := by
  cases h : tileRegistry type with
  | none => simp [minW, minH, h]
  | some d =>
    have hall : ∀ d ∈ tileTypes, 1 ≤ d.minW ∧ 1 ≤ d.minH := by decide
    simpa [minW, minH, h] using hall d (List.mem_of_find?_eq_some h)

/-! ### Pointers -/

/-- `ROW_H`. -/
def rowH : ℚ := 76

/-- `GAP`. -/
def gap : ℚ := 20

/-- `MAX_ROWS`. -/
def maxRows : ℤ := 16

/-- `Math.round`. -/
def jsRound (q : ℚ) : ℤ := ⌊q + 1 / 2⌋

/-- `clientX` and `clientY` of an event. -/
structure Pointer where
  clientX : ℚ
  clientY : ℚ
  deriving DecidableEq, Repr

/-- The corner that `getBoundingClientRect` reports. -/
structure Rect where
  left : ℚ
  top : ℚ
  deriving DecidableEq, Repr

/-- `containerRef.current`. -/
structure Container where
  rect : Rect
  clientWidth : ℕ
  deriving DecidableEq, Repr

/-- `cellWidth`. -/
def Container.cellWidth (cont : Container) : ℚ :=
  (cont.clientWidth - gap * (gridCols - 1)) / gridCols

def Container.stepX (cont : Container) : ℚ := cont.cellWidth + gap

def stepY : ℚ := rowH + gap

/-! ### Handlers -/

namespace TileInstance

/-- `{ ...t, x, y }`. -/
def moved (t : TileInstance) (x y : ℤ) : TileInstance :=
  { t with toBox := { t.toBox with x := x, y := y } }

/-- `{ ...t, w, h }`. -/
def resized (t : TileInstance) (w h : ℤ) : TileInstance :=
  { t with toBox := { t.toBox with w := w, h := h } }

end TileInstance

/-- `tiles.map((t) => (t.id === id ? f t : t))`. -/
def editTile (tiles : List TileInstance) (id : String) (f : TileInstance → TileInstance) :
    List TileInstance :=
  tiles.map fun t ↦ if t.id = id then f t else t

/-- `dragMeta`: where the pointer holds the tile. -/
structure DragMeta where
  grabX : ℚ
  grabY : ℚ
  deriving DecidableEq, Repr

/-- `resize`. -/
structure ResizeRef where
  id : String
  startX : ℚ
  startY : ℚ
  startW : ℤ
  startH : ℤ
  minW : ℤ
  minH : ℤ
  stepX : ℚ
  deriving DecidableEq, Repr

/-- What the grid keeps in refs. -/
structure GridRefs where
  dragId : Option String
  dragMeta : Option DragMeta
  baseTiles : List TileInstance
  resize : Option ResizeRef
  deriving DecidableEq, Repr

namespace GridRefs

/-- The refs of a grid that has just been mounted. -/
def fresh : GridRefs := ⟨none, none, [], none⟩

def onTileDown (g : GridRefs) (tiles : List TileInstance) (editing : Bool) (e : Pointer)
    (rect : Rect) (id : String) : GridRefs :=
  if editing then
    { g with
      dragMeta := some ⟨e.clientX - rect.left, e.clientY - rect.top⟩
      baseTiles := tiles
      dragId := some id }
  else g

/-- The cell nearest to the corner of the tile that is dragged. -/
def nearest (cont : Container) (m : DragMeta) (e : Pointer) : ℤ × ℤ :=
  (jsRound ((e.clientX - m.grabX - cont.rect.left) / cont.stepX),
    jsRound ((e.clientY - m.grabY - cont.rect.top) / stepY))

/-- The cell that the corner of a tile of width `w` snaps to. -/
def snap (cont : Container) (m : DragMeta) (e : Pointer) (w : ℤ) : ℤ × ℤ :=
  (clamp (nearest cont m e).1 0 (gridCols - w), clamp (nearest cont m e).2 0 maxRows)

/-- `onTileMove`: the layout it reports, if it does. -/
def onTileMove (g : GridRefs) (e : Pointer) (cont : Option Container) (id : String) :
    Option (List TileInstance) :=
  if g.dragId = some id then do
    let cont ← cont
    let m ← g.dragMeta
    let tile ← g.baseTiles.find? fun t ↦ t.id == id
    let (x, y) := snap cont m e tile.w
    some (resolveLayout (editTile g.baseTiles id fun t ↦ t.moved x y) id)
  else none

def endDrag (g : GridRefs) : GridRefs := { g with dragId := none, dragMeta := none }

def onResizeDown (g : GridRefs) (tiles : List TileInstance) (e : Pointer) (cont : Option Container)
    (tile : TileInstance) : GridRefs :=
  match cont with
  | none => g
  | some cont =>
    { g with
      baseTiles := tiles
      resize := some
        { id := tile.id
          startX := e.clientX
          startY := e.clientY
          startW := tile.w
          startH := tile.h
          minW := VyosFabric.minW tile.type
          minH := VyosFabric.minH tile.type
          stepX := cont.stepX } }

/-- `onResizeMove`: the layout it reports, if it does. -/
def onResizeMove (g : GridRefs) (e : Pointer) : Option (List TileInstance) := do
  let r ← g.resize
  let base ← g.baseTiles.find? fun t ↦ t.id == r.id
  let w := clamp (r.startW + jsRound ((e.clientX - r.startX) / r.stepX)) r.minW (gridCols - base.x)
  let h := clamp (r.startH + jsRound ((e.clientY - r.startY) / stepY)) r.minH maxRows
  some (resolveLayout (editTile g.baseTiles r.id fun t ↦ t.resized w h) r.id)

def endResize (g : GridRefs) : GridRefs := { g with resize := none }

end GridRefs

/-- `removeTile`, which is the parent's: the layout it updates to. -/
def removeTile (tiles : List TileInstance) (id : String) : List TileInstance :=
  tiles.filter fun t ↦ t.id != id

/-! ### Events -/

/-- The events the grid handles. The handle of a tile is only there with the tile. -/
inductive GridEvent where
  | tileDown (e : Pointer) (rect : Rect) (id : String)
  | tileMove (e : Pointer) (cont : Option Container) (id : String)
  | endDrag
  | resizeDown (e : Pointer) (cont : Option Container) (id : String)
  | resizeMove (e : Pointer)
  | endResize
  | remove (id : String)
  deriving DecidableEq, Repr

/-- The tiles of the parent, whether it edits them, and the refs of the grid. -/
structure Board where
  tiles : List TileInstance
  editing : Bool
  refs : GridRefs
  deriving DecidableEq, Repr

namespace Board

/-- A board on which no gesture has begun. -/
def start (tiles : List TileInstance) (editing : Bool) : Board := ⟨tiles, editing, .fresh⟩

/-- The refs after an event. -/
def refsAfter (b : Board) : GridEvent → GridRefs
  | .tileDown e rect id => b.refs.onTileDown b.tiles b.editing e rect id
  | .tileMove _ _ _ => b.refs
  | .endDrag => b.refs.endDrag
  | .resizeDown e cont id =>
    match b.tiles.find? fun t ↦ t.id == id with
    | some tile => b.refs.onResizeDown b.tiles e cont tile
    | none => b.refs
  | .resizeMove _ => b.refs
  | .endResize => b.refs.endResize
  | .remove _ => b.refs

/-- What the parent's `update` is called with in an event. -/
def reported (b : Board) : GridEvent → Option (List TileInstance)
  | .tileMove e cont id => b.refs.onTileMove e cont id
  | .resizeMove e => b.refs.onResizeMove e
  | .remove id => some (removeTile b.tiles id)
  | _ => none

/-- The page shows the grid only if there are tiles, so that its refs go with the last tile. -/
def mounted (b : Board) : Board := if b.tiles = [] then { b with refs := .fresh } else b

def step (b : Board) (e : GridEvent) : Board :=
  mounted ⟨(b.reported e).getD b.tiles, b.editing, b.refsAfter e⟩

def run (b : Board) (events : List GridEvent) : Board := events.foldl step b

end Board

/-! ### Sound layouts -/

theorem le_clamp (v lo hi : ℤ) : lo ≤ clamp v lo hi := le_max_left _ _

theorem clamp_le {v lo hi : ℤ} (h : lo ≤ hi) : clamp v lo hi ≤ hi := max_le h (min_le_left _ _)

theorem clamp_eq_self {v lo hi : ℤ} (h : lo ≤ v ∧ v ≤ hi) : clamp v lo hi = v := by
  rw [clamp, min_eq_right h.2, max_eq_right h.1]

/-- Inside the columns, and at least as large as its type allows. -/
structure TileInstance.Fits (t : TileInstance) : Prop where
  left : 0 ≤ t.x
  right : t.x + t.w ≤ gridCols
  wide : minW t.type ≤ t.w
  tall : minH t.type ≤ t.h

/-- A layout as the grid keeps it. -/
structure Sound (tiles : List TileInstance) : Prop where
  distinct : Distinct tiles
  fits : ∀ t ∈ tiles, t.Fits
  clear : Clear tiles

section Sound

variable {tiles : List TileInstance} {t : TileInstance} {f : TileInstance → TileInstance}
  {id : String}

/-- Which types the ids of a layout have. -/
def names (tiles : List TileInstance) : List (String × String) := tiles.map fun t ↦ (t.id, t.type)

theorem TileInstance.Fits.lower (h : t.Fits) {u : TileInstance} (hu : Lowered t u) : u.Fits := by
  obtain ⟨n, rfl⟩ := hu
  exact ⟨h.left, h.right, h.wide, h.tall⟩

theorem TileInstance.Fits.moved (h : t.Fits) (v y : ℤ) :
    (t.moved (clamp v 0 (gridCols - t.w)) y).Fits := by
  have hroom : 0 ≤ gridCols - t.w := by linarith [h.left, h.right]
  refine ⟨le_clamp v 0 _, ?_, h.wide, h.tall⟩
  have hle := clamp_le (v := v) hroom
  simp only [TileInstance.moved]
  omega

theorem TileInstance.Fits.resized (h : t.Fits) (v₁ v₂ : ℤ) :
    (t.resized (clamp v₁ (minW t.type) (gridCols - t.x))
      (clamp v₂ (minH t.type) maxRows)).Fits := by
  have hroom : minW t.type ≤ gridCols - t.x := by linarith [h.wide, h.right]
  refine ⟨h.left, ?_, le_clamp v₁ _ _, le_clamp v₂ _ _⟩
  have hle := clamp_le (v := v₁) hroom
  simp only [TileInstance.resized]
  omega

theorem names_resolveLayout (h : Distinct tiles) (id : String) :
    names (resolveLayout tiles id) = names tiles :=
  map_resolveLayout (fun _ _ ↦ rfl) h id

theorem names_editTile (hid : ∀ t, (f t).id = t.id) (htype : ∀ t, (f t).type = t.type) :
    names (editTile tiles id f) = names tiles :=
  map_key (ite_key fun t ↦ Prod.ext (hid t) (htype t)) tiles

theorem distinct_iff_of_names {l : List TileInstance} (h : names l = names tiles) :
    Distinct l ↔ Distinct tiles := by
  have hfst : ∀ l : List TileInstance, l.map TileInstance.id = (names l).map Prod.fst := fun l ↦ by
    rw [names, List.map_map]
    rfl
  rw [Distinct, Distinct, hfst, hfst, h]

theorem sound_resolveLayout (h : Distinct tiles) (hfits : ∀ t ∈ tiles, t.Fits) (id : String) :
    Sound (resolveLayout tiles id) := by
  refine ⟨distinct_resolveLayout h id, fun u hu ↦ ?_, clear_resolveLayout h id⟩
  obtain ⟨t, ht, rfl⟩ := List.mem_map.1 hu
  exact (hfits t ht).lower (exists_settle_eq h ht id).2.1

/-- **A move of a gesture** leaves the layout sound, if the tile it changes fits; the ids keep their
types. -/
theorem sound_resolveLayout_editTile {types : List (String × String)} (h : Sound tiles)
    (hsub : names tiles ⊆ types) {tile : TileInstance}
    (htile : (tiles.find? fun t ↦ t.id == id) = some tile) (hid : ∀ t, (f t).id = t.id)
    (htype : ∀ t, (f t).type = t.type) (hf : (f tile).Fits) :
    Sound (resolveLayout (editTile tiles id f) id) ∧
      names (resolveLayout (editTile tiles id f) id) ⊆ types := by
  have hnames : names (editTile tiles id f) = names tiles := names_editTile hid htype
  have hdistinct := (distinct_iff_of_names hnames).2 h.distinct
  refine ⟨sound_resolveLayout hdistinct (fun u hu ↦ ?_) id,
    ((names_resolveLayout hdistinct id).trans hnames).symm ▸ hsub⟩
  obtain ⟨t, ht, rfl⟩ := List.mem_map.1 hu
  split
  · next heq =>
    rw [← heq, h.distinct.find? ht] at htile
    exact Option.some.inj htile ▸ hf
  · exact h.fits t ht

theorem Sound.removeTile (h : Sound tiles) (id : String) : Sound (removeTile tiles id) :=
  ⟨h.distinct.sublist (List.filter_sublist.map _), fun t ht ↦ h.fits t (List.mem_filter.1 ht).1,
    h.clear.sublist List.filter_sublist⟩

end Sound

/-! ### What a gesture reports -/

namespace GridRefs

variable {g : GridRefs} {e : Pointer} {cont : Option Container} {id : String}
  {next : List TileInstance}

/-- A drag reports the layout at its beginning, with one tile elsewhere. -/
theorem of_onTileMove (h : g.onTileMove e cont id = some next) :
    ∃ c m tile, cont = some c ∧ g.dragMeta = some m ∧
      (g.baseTiles.find? fun t ↦ t.id == id) = some tile ∧
      next = resolveLayout (editTile g.baseTiles id fun t ↦
        t.moved (snap c m e tile.w).1 (snap c m e tile.w).2) id := by
  simp only [onTileMove, Option.bind_eq_bind] at h
  split at h
  · obtain ⟨c, hc, h⟩ := Option.bind_eq_some_iff.1 h
    obtain ⟨m, hm, h⟩ := Option.bind_eq_some_iff.1 h
    obtain ⟨tile, htile, h⟩ := Option.bind_eq_some_iff.1 h
    exact ⟨c, m, tile, hc, hm, htile, (Option.some.inj h).symm⟩
  · cases h

/-- So does a resize, with one tile of another size. -/
theorem of_onResizeMove (h : g.onResizeMove e = some next) :
    ∃ r base v₁ v₂, g.resize = some r ∧ (g.baseTiles.find? fun t ↦ t.id == r.id) = some base ∧
      next = resolveLayout (editTile g.baseTiles r.id fun t ↦
        t.resized (clamp v₁ r.minW (gridCols - base.x)) (clamp v₂ r.minH maxRows)) r.id := by
  simp only [onResizeMove, Option.bind_eq_bind] at h
  obtain ⟨r, hr, h⟩ := Option.bind_eq_some_iff.1 h
  obtain ⟨base, hbase, h⟩ := Option.bind_eq_some_iff.1 h
  exact ⟨r, base, _, _, hr, hbase, (Option.some.inj h).symm⟩

end GridRefs

/-! ### Runs -/

/-- What holds on a board throughout its events: its tiles are sound, and those at the beginning of
a gesture are; the ids keep their types, so that the least size a resize recorded is that of the
tile it resizes. -/
structure Board.Keeps (types : List (String × String)) (b : Board) : Prop where
  tiles : Sound b.tiles
  base : Sound b.refs.baseTiles
  names : names b.tiles ⊆ types
  baseNames : VyosFabric.names b.refs.baseTiles ⊆ types
  resize : ∀ r, b.refs.resize = some r →
    ∃ type, (r.id, type) ∈ types ∧ r.minW = minW type ∧ r.minH = minH type

namespace Board

variable {types : List (String × String)} {b : Board} {e : GridEvent} {next : List TileInstance}

theorem sound_nil : Sound [] := ⟨List.nodup_nil, fun _ h ↦ absurd h List.not_mem_nil, .nil⟩

/-- What an event reports is as sound as what the board has. -/
theorem Keeps.reported (htypes : (types.map Prod.fst).Nodup) (h : b.Keeps types)
    (hnext : b.reported e = some next) : Sound next ∧ VyosFabric.names next ⊆ types := by
  cases e with
  | tileMove e cont id =>
    obtain ⟨c, m, tile, -, -, htile, rfl⟩ := GridRefs.of_onTileMove hnext
    have hfits := h.base.fits tile (List.mem_of_find?_eq_some htile)
    exact sound_resolveLayout_editTile h.base h.baseNames htile (fun _ ↦ rfl) (fun _ ↦ rfl)
      (hfits.moved _ _)
  | resizeMove e =>
    obtain ⟨r, base, v₁, v₂, hr, hbase, rfl⟩ := GridRefs.of_onResizeMove hnext
    have hmem := List.mem_of_find?_eq_some hbase
    have hid : base.id = r.id := by simpa using List.find?_some hbase
    -- the type whose least size was recorded is that of the tile
    obtain ⟨type, htype, hminW, hminH⟩ := h.resize r hr
    have hbaseType := h.baseNames (List.mem_map.2 ⟨base, hmem, rfl⟩)
    have heq : type = base.type :=
      congrArg Prod.snd (List.inj_on_of_nodup_map htypes htype hbaseType hid.symm)
    rw [hminW, hminH, heq]
    exact sound_resolveLayout_editTile h.base h.baseNames hbase (fun _ ↦ rfl) (fun _ ↦ rfl)
      ((h.base.fits base hmem).resized v₁ v₂)
  | remove id =>
    cases hnext
    exact ⟨h.tiles.removeTile id, fun p hp ↦ h.names ((List.filter_sublist.map _).subset hp)⟩
  | _ => cases hnext

/-- A gesture that begins starts from the layout of the board. -/
theorem baseTiles_refsAfter (b : Board) (e : GridEvent) :
    (b.refsAfter e).baseTiles = b.refs.baseTiles ∨ (b.refsAfter e).baseTiles = b.tiles := by
  cases e with
  | tileDown e rect id =>
    simp only [Board.refsAfter, GridRefs.onTileDown]
    split
    · exact .inr rfl
    · exact .inl rfl
  | resizeDown e cont id =>
    simp only [Board.refsAfter, GridRefs.onResizeDown]
    split
    · split
      · exact .inl rfl
      · exact .inr rfl
    · exact .inl rfl
  | _ => exact .inl rfl

/-- A resize that begins records what the type of its tile prescribes. -/
theorem resize_refsAfter {r : ResizeRef} (h : (b.refsAfter e).resize = some r) :
    b.refs.resize = some r ∨
      ∃ tile ∈ b.tiles, r.id = tile.id ∧ r.minW = minW tile.type ∧ r.minH = minH tile.type := by
  cases e with
  | tileDown e rect id =>
    simp only [Board.refsAfter, GridRefs.onTileDown] at h
    split at h
    · exact .inl h
    · exact .inl h
  | resizeDown e cont id =>
    simp only [Board.refsAfter, GridRefs.onResizeDown] at h
    split at h
    · next tile htile =>
      split at h
      · exact .inl h
      · cases h
        exact .inr ⟨tile, List.mem_of_find?_eq_some htile, rfl, rfl, rfl⟩
    · exact .inl h
  | endResize => cases h
  | _ => exact .inl h

theorem Keeps.mounted (h : b.Keeps types) : b.mounted.Keeps types := by
  rw [Board.mounted]
  split
  · exact ⟨h.tiles, sound_nil, h.names, List.nil_subset _, fun r hr ↦ by cases hr⟩
  · exact h

/-- **An event keeps the board as it should be.** -/
theorem Keeps.step (htypes : (types.map Prod.fst).Nodup) (h : b.Keeps types) (e : GridEvent) :
    (b.step e).Keeps types := by
  have hbase : Sound (b.refsAfter e).baseTiles ∧
      VyosFabric.names (b.refsAfter e).baseTiles ⊆ types := by
    rcases baseTiles_refsAfter b e with heq | heq
    · exact heq ▸ ⟨h.base, h.baseNames⟩
    · exact heq ▸ ⟨h.tiles, h.names⟩
  have hresize : ∀ r, (b.refsAfter e).resize = some r →
      ∃ type, (r.id, type) ∈ types ∧ r.minW = minW type ∧ r.minH = minH type := by
    intro r hr
    rcases resize_refsAfter hr with hr | ⟨tile, htile, hid, hmin⟩
    · exact h.resize r hr
    · exact ⟨tile.type, h.names (List.mem_map.2 ⟨tile, htile, by rw [hid]⟩), hmin⟩
  refine Keeps.mounted ?_
  cases hnext : b.reported e with
  | none => exact ⟨h.tiles, hbase.1, h.names, hbase.2, hresize⟩
  | some next =>
    obtain ⟨htiles, hnames⟩ := h.reported htypes hnext
    exact ⟨htiles, hbase.1, hnames, hbase.2, hresize⟩

theorem Keeps.run (htypes : (types.map Prod.fst).Nodup) (h : b.Keeps types)
    (events : List GridEvent) : (b.run events).Keeps types := by
  induction events generalizing b with
  | nil => exact h
  | cons e events ih => exact ih (h.step htypes e)

theorem keeps_start {tiles : List TileInstance} (h : Sound tiles) (editing : Bool) :
    (start tiles editing).Keeps (names tiles) :=
  ⟨h, sound_nil, List.Subset.refl _, List.nil_subset _, fun r hr ↦ by cases hr⟩

/-- **Whatever the pointers do**, a sound layout stays sound. -/
theorem sound_run {tiles : List TileInstance} (h : Sound tiles) (editing : Bool)
    (events : List GridEvent) : Sound ((start tiles editing).run events).tiles := by
  have htypes : ((names tiles).map Prod.fst).Nodup := by
    rw [names, List.map_map]
    exact h.distinct
  exact ((keeps_start h editing).run htypes events).tiles

/-! ### There and back -/

/-- A move of a pointer over a tile. -/
def IsMove : GridEvent → Prop
  | .tileMove _ _ _ => True
  | _ => False

/-- Moves of pointers leave the refs alone, as long as there are tiles. -/
theorem refs_run_of_isMove {events : List GridEvent} (h : ∀ e ∈ events, IsMove e)
    (htiles : b.tiles ≠ []) (hbase : b.refs.baseTiles ≠ []) : (b.run events).refs = b.refs := by
  induction events generalizing b with
  | nil => rfl
  | cons ev events ih =>
    have hmove : IsMove ev := h ev List.mem_cons_self
    cases ev with
    | tileMove e cont id =>
      have hnext : (b.reported (.tileMove e cont id)).getD b.tiles ≠ [] := by
        cases hnext : b.reported (.tileMove e cont id) with
        | none => exact htiles
        | some next =>
          obtain ⟨c, m, tile, -, -, -, rfl⟩ := GridRefs.of_onTileMove hnext
          simpa [resolveLayout, editTile] using hbase
      have hstep : b.step (.tileMove e cont id) =
          ⟨(b.reported (.tileMove e cont id)).getD b.tiles, b.editing, b.refs⟩ := if_neg hnext
      have hrest := @ih (b.step (.tileMove e cont id)) fun e he ↦ h e (List.mem_cons_of_mem _ he)
      rw [hstep] at hrest
      exact (congrArg (fun b' : Board ↦ (b'.run events).refs) hstep).trans (hrest hnext hbase)
    | _ => exact hmove.elim

/-- **A drag that is back at the cell it began at** reports the layout it began with. -/
theorem reported_drag_back {t : TileInstance} (hediting : b.editing = true)
    (hdistinct : Distinct b.tiles) (hclear : Clear b.tiles) (ht : t ∈ b.tiles) {e₀ e : Pointer}
    {rect : Rect} {cont : Container} {events : List GridEvent} (hmoves : ∀ e ∈ events, IsMove e)
    (hcell :
      GridRefs.snap cont ⟨e₀.clientX - rect.left, e₀.clientY - rect.top⟩ e t.w = (t.x, t.y)) :
    ((b.step (.tileDown e₀ rect t.id)).run events).reported (.tileMove e (some cont) t.id) =
      some b.tiles := by
  have hne : b.tiles ≠ [] := List.ne_nil_of_mem ht
  have hdown : b.step (.tileDown e₀ rect t.id) =
      ⟨b.tiles, b.editing, b.refs.onTileDown b.tiles b.editing e₀ rect t.id⟩ := if_neg hne
  have hrefs : ((b.step (.tileDown e₀ rect t.id)).run events).refs =
      { b.refs with
        dragMeta := some ⟨e₀.clientX - rect.left, e₀.clientY - rect.top⟩
        baseTiles := b.tiles
        dragId := some t.id } := by
    rw [refs_run_of_isMove hmoves, hdown]
    · exact if_pos hediting
    · rw [hdown]
      exact hne
    · rw [hdown]
      simpa [GridRefs.onTileDown, hediting] using hne
  -- nothing is changed before the layout is resolved
  have hsame : (editTile b.tiles t.id fun u ↦ u.moved t.x t.y) = b.tiles := by
    refine (List.map_congr_left fun u hu ↦ ?_).trans (List.map_id b.tiles)
    split
    · next hid =>
      rw [List.inj_on_of_nodup_map hdistinct hu ht hid]
      rfl
    · rfl
  have hreport : ((b.step (.tileDown e₀ rect t.id)).run events).reported
      (.tileMove e (some cont) t.id) =
        some (resolveLayout (editTile b.tiles t.id fun u ↦ u.moved t.x t.y) t.id) := by
    rw [reported, hrefs, GridRefs.onTileMove]
    simp [hdistinct.find? ht, hcell]
  rw [hreport, hsame, resolveLayout_eq_self hdistinct hclear]

end Board

/-- Inside the columns and the row limit, a tile snaps to the nearest cell. -/
theorem GridRefs.snap_eq_nearest {cont : Container} {m : DragMeta} {e : Pointer} {t : TileInstance}
    (hcell : nearest cont m e = (t.x, t.y)) (hx : 0 ≤ t.x ∧ t.x + t.w ≤ gridCols)
    (hy : 0 ≤ t.y ∧ t.y ≤ maxRows) : snap cont m e t.w = (t.x, t.y) := by
  rw [snap, hcell, clamp_eq_self ⟨hx.1, by linarith [hx.2]⟩, clamp_eq_self hy]

/-! ### The layout under the gestures -/

theorem TileInstance.Fits.sized {t : TileInstance} (h : t.Fits) : 1 ≤ t.w ∧ 1 ≤ t.h :=
  ⟨(one_le_min t.type).1.trans h.wide, (one_le_min t.type).2.trans h.tall⟩

theorem Sound.noOverlap {tiles : List TileInstance} (h : Sound tiles) : NoOverlap tiles :=
  (noOverlap_iff_clear fun t ht ↦ (h.fits t ht).sized).2 h.clear

/-- **Resolving a layout ends**, without overlaps, with the same tiles at or below their rows and
the static one where it was; and so a layout stays sound under every sequence of events. -/
theorem resolve_clears_and_gestures_keep :
    (∀ (placed : List TileInstance) (cur : TileInstance), ∃ n, pushDown placed cur = cur.lower n ∧
      (∀ p ∈ placed, ¬p.Overlaps (cur.lower n).toBox) ∧
        ∀ m < n, ∃ p ∈ placed, p.Overlaps (cur.lower m).toBox) ∧
    (∀ (tiles : List TileInstance) (staticId : String), Distinct tiles → Sized tiles →
      List.Forall₂ (fun t u ↦ Lowered t u ∧ (t.id = staticId → u = t)) tiles
        (resolveLayout tiles staticId) ∧ NoOverlap (resolveLayout tiles staticId)) ∧
    ∀ (tiles : List TileInstance) (editing : Bool) (events : List GridEvent), Sound tiles →
      Sound ((Board.start tiles editing).run events).tiles ∧
        NoOverlap ((Board.start tiles editing).run events).tiles := by
  refine ⟨exists_pushDown_eq, fun tiles staticId hdistinct hsized ↦ ?_,
    fun tiles editing events h ↦ ?_⟩
  · refine ⟨forall₂_resolveLayout hdistinct staticId, ?_⟩
    rw [noOverlap_iff_clear (sized_resolveLayout hdistinct hsized staticId)]
    exact clear_resolveLayout hdistinct staticId
  · have hsound := Board.sound_run h editing events
    exact ⟨hsound, hsound.noOverlap⟩

/-- A layout of two tiles. -/
def twoTiles : List TileInstance :=
  [⟨⟨0, 0, 2, 6⟩, "system-info-1", "system-info"⟩, ⟨⟨2, 0, 2, 5⟩, "network-speed-a", "network-speed"⟩]

theorem sound_twoTiles : Sound twoTiles := by
  refine ⟨by decide, fun t ht ↦ ?_, by decide⟩
  rcases List.mem_cons.1 ht with rfl | ht
  · exact ⟨by decide, by decide, by decide, by decide⟩
  · rw [List.mem_singleton.1 ht]
    exact ⟨by decide, by decide, by decide, by decide⟩

/-- The first tile dragged over the second. -/
theorem resolve_clears_and_gestures_keep_twoTiles :
    NoOverlap (resolveLayout (editTile twoTiles "system-info-1" fun t ↦ t.moved 1 2) "system-info-1") ∧
      Sound ((Board.start twoTiles true).run
        [.tileDown ⟨10, 10⟩ ⟨0, 0⟩ "system-info-1",
          .tileMove ⟨200, 200⟩ (some ⟨⟨0, 0⟩, 700⟩) "system-info-1", .endDrag]).tiles := by
  obtain ⟨-, hresolve, hkeep⟩ := resolve_clears_and_gestures_keep
  exact ⟨(hresolve _ _ (by decide) (by decide)).2, (hkeep _ _ _ sound_twoTiles).1⟩

/-- **Moving a tile around and back changes nothing**: resolving leaves a layout without overlaps
alone, resolving again leaves any layout alone, and a drag from a layout without overlaps that is
back at the cell of its tile reports that layout. -/
theorem there_and_back :
    (∀ (tiles : List TileInstance) (id : String), Distinct tiles → Sized tiles → NoOverlap tiles →
      resolveLayout tiles id = tiles) ∧
    (∀ (tiles : List TileInstance) (id : String), Distinct tiles → Sized tiles →
      resolveLayout (resolveLayout tiles id) id = resolveLayout tiles id) ∧
    ∀ (b : Board) (t : TileInstance) (e₀ e : Pointer) (rect : Rect) (cont : Container)
      (moves : List GridEvent), b.editing = true → Distinct b.tiles → Sized b.tiles →
      NoOverlap b.tiles → t ∈ b.tiles → (∀ e ∈ moves, Board.IsMove e) →
      GridRefs.snap cont ⟨e₀.clientX - rect.left, e₀.clientY - rect.top⟩ e t.w = (t.x, t.y) →
      ((b.step (.tileDown e₀ rect t.id)).run moves).reported (.tileMove e (some cont) t.id) =
        some b.tiles := by
  refine ⟨fun tiles id hd hs ha ↦ ?_, fun tiles id hd _ ↦ resolveLayout_resolveLayout hd id, ?_⟩
  · exact resolveLayout_eq_self hd ((noOverlap_iff_clear hs).1 ha) id
  · intro b t e₀ e rect cont moves hediting hd hs ha ht hmoves hcell
    exact Board.reported_drag_back hediting hd ((noOverlap_iff_clear hs).1 ha) ht hmoves hcell

/-- The first tile dragged over the second and back. -/
theorem there_and_back_twoTiles :
    (((Board.start twoTiles true).step (.tileDown ⟨10, 10⟩ ⟨0, 0⟩ "system-info-1")).run
      [.tileMove ⟨200, 200⟩ (some ⟨⟨0, 0⟩, 700⟩) "system-info-1"]).reported
        (.tileMove ⟨11, 9⟩ (some ⟨⟨0, 0⟩, 700⟩) "system-info-1") = some twoTiles := by
  obtain ⟨-, -, hback⟩ := there_and_back
  refine hback (Board.start twoTiles true) ⟨⟨0, 0, 2, 6⟩, "system-info-1", "system-info"⟩ ⟨10, 10⟩
    ⟨11, 9⟩ ⟨0, 0⟩ ⟨⟨0, 0⟩, 700⟩ _ rfl (by decide) (by decide) sound_twoTiles.noOverlap
    List.mem_cons_self ?_ ?_
  · simp [Board.IsMove]
  · refine GridRefs.snap_eq_nearest ?_ (by decide) (by decide)
    norm_num [GridRefs.nearest, jsRound, Container.stepX, Container.cellWidth, stepY, rowH, gap,
      gridCols]

end VyosFabric
