import Mathlib.Data.Nat.Digits.Defs
import VyosFabric.Dashboard.Grid

/-!
# The page of the dashboard

The page owns the tiles: it adds one where there is room, passes on what the grid reports, and
writes every layout to the storage of its device. When it is opened it installs what the storage has
(`loadTiles`), without the tiles of unknown types and with cells for layouts that have none.

Of a layout the page has written nothing is lost that way (`loadTiles_written`), but for one case: a
layout without tiles is read as no layout at all, and the default comes back
(`DashboardPage.reloaded_iff`).
-/

namespace VyosFabric

/-- `DEFAULT_TILES`. -/
def defaultTiles : List TileInstance := [⟨⟨0, 0, 2, 6⟩, "system-info-1", "system-info"⟩]

/-! ### Storage -/

/-- A tile as it is written. -/
def TileInstance.written (t : TileInstance) : StoredTile :=
  ⟨t.id, t.type, some t.x, some t.y, t.w, t.h⟩

namespace StoredTile

/-- `t.x == null || t.y == null`. -/
def lacksCell (t : StoredTile) : Bool := t.x.isNone || t.y.isNone

/-- The tile, if it has a cell. -/
def instance? (t : StoredTile) : Option TileInstance := do
  let x ← t.x
  let y ← t.y
  some ⟨⟨x, y, t.w, t.h⟩, t.id, t.type⟩

end StoredTile

/-- What the load effect installs for what `localStorage` has: `none` is nothing, or nothing that
parses. -/
def loadTiles (stored : Option (List StoredTile)) : List TileInstance :=
  let valid := (stored.getD []).filter fun t ↦ (tileRegistry t.type).isSome
  if valid.isEmpty then defaultTiles
  else if valid.any StoredTile.lacksCell then packTiles valid
  else valid.filterMap StoredTile.instance?

/-- The tiles are of types that the registry has. -/
def Registered (tiles : List TileInstance) : Prop :=
  ∀ t ∈ tiles, (tileRegistry t.type).isSome = true

/-- **A layout that was written is read back**, if there is a tile in it. -/
theorem loadTiles_written {tiles : List TileInstance} (h : Registered tiles) (hne : tiles ≠ []) :
    loadTiles (some (tiles.map TileInstance.written)) = tiles := by
  have hvalid : ((tiles.map TileInstance.written).filter fun t ↦ (tileRegistry t.type).isSome) =
      tiles.map TileInstance.written :=
    List.filter_eq_self.2 fun s hs ↦ by
      obtain ⟨t, ht, rfl⟩ := List.mem_map.1 hs
      exact h t ht
  have hcells : (tiles.map TileInstance.written).any StoredTile.lacksCell = false :=
    List.any_eq_false.2 fun s hs ↦ by
      obtain ⟨t, -, rfl⟩ := List.mem_map.1 hs
      exact Bool.false_ne_true
  have hback : (tiles.map TileInstance.written).filterMap StoredTile.instance? = tiles := by
    rw [List.filterMap_map]
    exact List.filterMap_some
  have hsome : (tiles.map TileInstance.written).isEmpty = false := by simpa using hne
  simp [loadTiles, hvalid, hcells, hback, hsome]

/-- The id and the type of a stored tile. -/
def StoredTile.name (t : StoredTile) : String × String := (t.id, t.type)

theorem names_packTiles (tiles : List StoredTile) :
    names (packTiles tiles) = tiles.map StoredTile.name := by
  have hfold (placed : List TileInstance) :
      names (tiles.foldl (fun placed t ↦ placed ++ [packTile placed t]) placed) =
        names placed ++ tiles.map StoredTile.name := by
    induction tiles generalizing placed with
    | nil => exact (List.append_nil _).symm
    | cons t tiles ih =>
      rw [List.foldl_cons, ih, names, names, List.map_append, List.append_assoc]
      rfl
  exact hfold []

theorem names_filterMap_instance {tiles : List StoredTile}
    (h : tiles.any StoredTile.lacksCell = false) :
    names (tiles.filterMap StoredTile.instance?) = tiles.map StoredTile.name := by
  induction tiles with
  | nil => rfl
  | cons t tiles ih =>
    rw [List.any_cons, Bool.or_eq_false_iff] at h
    obtain ⟨id, type, x, y, w, height⟩ := t
    cases x with
    | none => cases h.1
    | some x =>
      cases y with
      | none => cases h.1
      | some y =>
        have hrest := ih h.2
        simp only [names] at hrest ⊢
        simp [StoredTile.instance?, StoredTile.name, hrest]

/-- What is installed are the tiles of known types, or the default if there are none. -/
theorem names_loadTiles (stored : Option (List StoredTile)) :
    loadTiles stored = defaultTiles ∨
      ∃ valid ≠ [], (∀ t ∈ valid, (tileRegistry t.type).isSome = true) ∧
        names (loadTiles stored) = valid.map StoredTile.name := by
  simp only [loadTiles]
  split
  · exact .inl rfl
  · next hsome =>
    refine .inr ⟨_, by simpa using hsome, fun t ht ↦ (List.mem_filter.1 ht).2, ?_⟩
    split
    · exact names_packTiles _
    · next hcells => exact names_filterMap_instance (Bool.eq_false_iff.2 hcells)

theorem loadTiles_ne_nil (stored : Option (List StoredTile)) : loadTiles stored ≠ [] := by
  rcases names_loadTiles stored with h | ⟨valid, hne, -, h⟩
  · exact h ▸ List.cons_ne_nil _ _
  · intro hnil
    rw [hnil] at h
    exact hne (List.map_eq_nil_iff.1 h.symm)

theorem registered_loadTiles (stored : Option (List StoredTile)) :
    Registered (loadTiles stored) := by
  rcases names_loadTiles stored with h | ⟨valid, -, hvalid, h⟩
  · rw [h]
    intro t ht
    rw [List.mem_singleton.1 ht]
    decide
  · intro t ht
    have hname : (t.id, t.type) ∈ names (loadTiles stored) := List.mem_map.2 ⟨t, ht, rfl⟩
    rw [h] at hname
    obtain ⟨s, hs, heq⟩ := List.mem_map.1 hname
    have htype : s.type = t.type := congrArg Prod.snd heq
    exact htype ▸ hvalid s hs

/-! ### The page -/

/-- A digit of `toString(36)`. -/
def base36Digit (d : ℕ) : Char := if d < 10 then .ofNat (48 + d) else .ofNat (87 + d)

/-- `n.toString(36)`. -/
def base36 (n : ℕ) : String :=
  if n = 0 then "0" else String.ofList ((Nat.digits 36 n).reverse.map base36Digit)

/-- `newId`, at the time `now`. -/
def newId (type : String) (now idCounter : ℕ) : String := s!"{type}-{base36 now}-{idCounter}"

/-- The page of a device: the board, and what it keeps for longer. -/
structure DashboardPage where
  board : Board
  deviceId : String
  storage : String → Option (List StoredTile)
  idCounter : ℕ

namespace DashboardPage

/-- The page as it is opened for a device. -/
def opened (deviceId : String) (storage : String → Option (List StoredTile)) (idCounter : ℕ) :
    DashboardPage :=
  ⟨.start (loadTiles (storage deviceId)) false, deviceId, storage, idCounter⟩

/-- `localStorage.setItem(storageKey, JSON.stringify(next))`. -/
def written (p : DashboardPage) (next : List TileInstance) : String → Option (List StoredTile) :=
  Function.update p.storage p.deviceId (some (next.map TileInstance.written))

/-- `addTile`: the layout it updates to, if the registry has the type. -/
def addTile (tiles : List TileInstance) (type id : String) : Option (List TileInstance) := do
  let d ← tileRegistry type
  let (x, y) := findFreeCell tiles d.defaultW d.defaultH
  some (tiles ++ [⟨⟨x, y, d.defaultW, d.defaultH⟩, id, type⟩])

/-- What happens on the page. The picker is there in edit mode only, and does not offer a type that
has been added. -/
inductive Event where
  | grid (e : GridEvent)
  | add (type : String) (now : ℕ)
  | edit
  | visit (deviceId : String)

def step (p : DashboardPage) : Event → DashboardPage
  | .grid e =>
    { p with
      board := p.board.step e
      storage := ((p.board.reported e).map p.written).getD p.storage }
  | .add type now =>
    if p.board.editing && !p.board.tiles.any fun t ↦ t.type == type then
      match addTile p.board.tiles type (newId type now p.idCounter) with
      | some next =>
        { p with
          board := { p.board with tiles := next }
          storage := p.written next
          idCounter := p.idCounter + 1 }
      | none => p
    else p
  | .edit => { p with board := { p.board with editing := !p.board.editing } }
  | .visit deviceId => opened deviceId p.storage p.idCounter

def run (p : DashboardPage) (events : List Event) : DashboardPage := events.foldl step p

/-! ### What is stored -/

/-- What holds throughout: the types of the tiles are known, and the storage has the layout, as it
was written or as it was loaded. -/
structure Keeps (p : DashboardPage) : Prop where
  tiles : Registered p.board.tiles
  base : Registered p.board.refs.baseTiles
  stored : p.storage p.deviceId = some (p.board.tiles.map TileInstance.written) ∨
    p.board.tiles = loadTiles (p.storage p.deviceId)

variable {p : DashboardPage} {next : List TileInstance}

theorem registered_nil : Registered [] := fun _ h ↦ absurd h List.not_mem_nil

theorem registered_resolveLayout_editTile {tiles : List TileInstance} (h : Registered tiles)
    {id : String} {f : TileInstance → TileInstance} (hf : ∀ t, (f t).type = t.type) :
    Registered (resolveLayout (editTile tiles id f) id) := by
  intro u hu
  obtain ⟨t', ht', n, rfl⟩ := exists_of_mem_resolveLayout hu
  obtain ⟨t, ht, rfl⟩ := List.mem_map.1 ht'
  have htype : (if t.id = id then f t else t).type = t.type := by
    split
    · exact hf t
    · rfl
  rw [TileInstance.lower_type, htype]
  exact h t ht

theorem Keeps.reported (h : p.Keeps) {e : GridEvent} (hnext : p.board.reported e = some next) :
    Registered next := by
  cases e with
  | tileMove e cont id =>
    obtain ⟨c, m, tile, -, -, -, rfl⟩ := GridRefs.of_onTileMove hnext
    exact registered_resolveLayout_editTile h.base fun _ ↦ rfl
  | resizeMove e =>
    obtain ⟨r, base, v₁, v₂, -, -, rfl⟩ := GridRefs.of_onResizeMove hnext
    exact registered_resolveLayout_editTile h.base fun _ ↦ rfl
  | remove id =>
    cases hnext
    exact fun t ht ↦ h.tiles t (List.mem_filter.1 ht).1
  | _ => cases hnext

/-- The layout at the beginning of a gesture is a layout of the page. -/
theorem Keeps.refsAfter (h : p.Keeps) (e : GridEvent) :
    Registered (p.board.refsAfter e).baseTiles := by
  rcases Board.baseTiles_refsAfter p.board e with heq | heq
  · exact heq ▸ h.base
  · exact heq ▸ h.tiles

theorem keeps_opened (deviceId : String) (storage : String → Option (List StoredTile))
    (idCounter : ℕ) : (opened deviceId storage idCounter).Keeps :=
  ⟨registered_loadTiles _, registered_nil, .inr rfl⟩

theorem written_self : p.written next p.deviceId = some (next.map TileInstance.written) :=
  Function.update_self _ _ _

/-- A layout that is written is kept. -/
theorem keeps_written (hnext : Registered next) {refs : GridRefs}
    (hbase : Registered refs.baseTiles)
    (editing : Bool) (idCounter : ℕ) :
    Keeps ⟨⟨next, editing, refs⟩, p.deviceId, p.written next, idCounter⟩ := by
  have hstored := @written_self p next
  exact ⟨hnext, hbase, .inl hstored⟩

theorem Keeps.mounted (h : p.Keeps) : Keeps { p with board := p.board.mounted } := by
  rw [Board.mounted]
  split
  · exact ⟨h.tiles, registered_nil, h.stored⟩
  · exact h

theorem Keeps.grid (h : p.Keeps) (e : GridEvent) : (p.step (.grid e)).Keeps := by
  have hbase := h.refsAfter e
  cases hnext : p.board.reported e with
  | none =>
    have hsame : Keeps { p with board := ⟨p.board.tiles, p.board.editing, p.board.refsAfter e⟩ } :=
      ⟨h.tiles, hbase, h.stored⟩
    simp only [step, Board.step, hnext]
    exact hsame.mounted
  | some next =>
    have hwritten := @keeps_written p next (h.reported hnext) _ hbase p.board.editing p.idCounter
    simp only [step, Board.step, hnext]
    exact hwritten.mounted

theorem Keeps.add (h : p.Keeps) (type : String) (now : ℕ) : (p.step (.add type now)).Keeps := by
  simp only [step]
  split
  · split
    · next next hnext =>
      simp only [addTile, Option.bind_eq_bind] at hnext
      obtain ⟨d, hd, hnext⟩ := Option.bind_eq_some_iff.1 hnext
      refine keeps_written (fun t ht ↦ ?_) h.base _ _
      rw [← Option.some.inj hnext] at ht
      rcases List.mem_append.1 ht with ht | ht
      · exact h.tiles t ht
      · rw [List.mem_singleton.1 ht, hd]
        rfl
    · exact h
  · exact h

theorem Keeps.run (h : p.Keeps) (events : List Event) : (p.run events).Keeps := by
  induction events generalizing p with
  | nil => exact h
  | cons e events ih =>
    refine ih ?_
    cases e with
    | grid e => exact h.grid e
    | add type now => exact h.add type now
    | edit => exact ⟨h.tiles, h.base, h.stored⟩
    | visit deviceId => exact keeps_opened deviceId _ _

/-- What the load effect installs when the page is opened again. -/
def reloaded (p : DashboardPage) : List TileInstance := loadTiles (p.storage p.deviceId)

/-- **What is loaded is what was on the page**, unless that was nothing: at any time, the storage
gives the layout of the page exactly if there is a tile in it. -/
theorem reloaded_iff (deviceId : String) (storage : String → Option (List StoredTile))
    (idCounter : ℕ) (events : List Event) :
    ((opened deviceId storage idCounter).run events).reloaded =
        ((opened deviceId storage idCounter).run events).board.tiles ↔
      ((opened deviceId storage idCounter).run events).board.tiles ≠ [] := by
  have h := (keeps_opened deviceId storage idCounter).run events
  constructor
  · intro heq
    exact heq ▸ loadTiles_ne_nil _
  · intro hne
    rcases h.stored with hstored | hstored
    · rw [reloaded, hstored, loadTiles_written h.tiles hne]
    · exact hstored.symm

/-- The default tile is removed on a page that had nothing stored. -/
theorem not_reloaded :
    ¬∀ (deviceId : String) (storage : String → Option (List StoredTile)) (idCounter : ℕ)
      (events : List Event), ((opened deviceId storage idCounter).run events).reloaded =
        ((opened deviceId storage idCounter).run events).board.tiles := by
  intro h
  have hremoved := h "router-1" (fun _ ↦ none) 0 [.edit, .grid (.remove "system-info-1")]
  exact absurd hremoved (by decide)

end DashboardPage

end VyosFabric
