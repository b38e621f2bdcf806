import Mathlib.Data.Finset.Image
import Mathlib.Data.List.Sort
import VyosFabric.Client.Number

/-!
# The rows of a data table and their selection

A table displays its rows filtered, searched and sorted (`displayed`), and lets some of them be
selected. A range goes from an anchor to the row under the pointer; the anchor is kept as an index
into the rows displayed when it was set.

As long as that index is still that of the anchored row wherever a range is drawn from it
(`AnchorHolds`), the selection consists of rows of the table, and a range of what is displayed
between its ends (`ranges_right`). Where it is not, a range is wrong: it starts at another row, or
at none.
-/

namespace VyosFabric

/-! ### Rows -/

/-- A value of a column. -/
inductive CellValue where
  | null
  | number (q : ℚ)
  | string (s : String)
  deriving DecidableEq, Repr

/-- What the browser knows of languages and numerals: `toLowerCase`, `localeCompare` with
`numeric: true`, and `String` of a number. -/
structure Locale where
  toLowerCase : String → String
  localeCompare : String → String → ℤ
  numeral : ℚ → String

/-- `String(val)`. -/
def CellValue.text (loc : Locale) : CellValue → String
  | .null => "null"
  | .number q => loc.numeral q
  | .string s => s

structure Column (T : Type) where
  key : String
  value : T → CellValue
  sortable : Bool

structure FilterDef (T : Type) where
  key : String
  predicate : T → String → Bool

/-- The properties of a `DataTable`. -/
structure DataTable (T : Type) where
  rows : List T
  columns : List (Column T)
  rowId : T → String
  filters : List (FilterDef T)

/-- What the user has asked to see. -/
structure View where
  query : String
  filterValues : String → Option String
  sortKey : Option String
  sortDesc : Bool

section Displayed

variable {T : Type} (loc : Locale) (table : DataTable T) (v : View)

/-- `ALL`. -/
def allRows : String := "__all__"

/-- The rows that pass one filter. -/
def FilterDef.apply (r : List T) (f : FilterDef T) : List T :=
  match v.filterValues f.key with
  | some value =>
    if value ≠ "" ∧ value ≠ allRows then r.filter fun row ↦ f.predicate row value else r
  | none => r

/-- The rows that show the query in a column. -/
def searchRows (r : List T) : List T :=
  let q := loc.toLowerCase (jsTrim v.query)
  if q = "" then r
  else
    r.filter fun row ↦ table.columns.any fun c ↦
      c.value row ≠ .null && isInfix q.toList (loc.toLowerCase ((c.value row).text loc)).toList

/-- The comparison of two rows by a column: rows without a value come last. -/
def Column.compare (c : Column T) (desc : Bool) (a b : T) : ℚ :=
  match c.value a, c.value b with
  | .null, .null => 0
  | .null, _ => 1
  | _, .null => -1
  | av, bv =>
    let cmp : ℚ := match av, bv with
      | .number x, .number y => x - y
      | _, _ => loc.localeCompare (av.text loc) (bv.text loc)
    if desc then -cmp else cmp

def sortRows (r : List T) : List T :=
  match v.sortKey.bind fun key ↦ table.columns.find? fun c ↦ c.key == key with
  | none => r
  | some col => r.insertionSort fun a b ↦ col.compare loc v.sortDesc a b ≤ 0

/-- `displayed`: filter, search, sort. -/
def displayed : List T :=
  sortRows loc table v (searchRows loc table v (table.filters.foldl (FilterDef.apply v) table.rows))

def displayedIds : List String := (displayed loc table v).map table.rowId

theorem apply_sublist (r : List T) (f : FilterDef T) : (f.apply v r).Sublist r := by
  rw [FilterDef.apply]
  split
  · split
    · exact List.filter_sublist
    · exact .refl r
  · exact .refl r

theorem foldl_apply_sublist (filters : List (FilterDef T)) (r : List T) :
    (filters.foldl (FilterDef.apply v) r).Sublist r := by
  induction filters generalizing r with
  | nil => exact .refl r
  | cons f filters ih => exact (ih _).trans (apply_sublist v r f)

theorem searchRows_sublist (r : List T) : (searchRows loc table v r).Sublist r := by
  rw [searchRows]
  split
  · exact .refl r
  · exact List.filter_sublist

theorem sortRows_perm (r : List T) : (sortRows loc table v r).Perm r := by
  rw [sortRows]
  split
  · exact .refl r
  · exact List.perm_insertionSort _ r

/-- **What is displayed** are rows of the table, none of them twice. -/
theorem displayedIds_subperm : (displayedIds loc table v).Subperm (table.rows.map table.rowId) :=
  ⟨_, ((sortRows_perm loc table v _).map _).symm,
    ((searchRows_sublist loc table v _).trans (foldl_apply_sublist v table.filters _)).map _⟩

end Displayed

/-! ### Selecting -/

/-- What the table keeps: the view, the selection, and the refs of a range. A selected `none` is
`undefined`. -/
structure Selecting where
  view : View
  selected : Finset (Option String)
  anchor : Option ℕ
  dragging : Bool
  additive : Bool
  dragBase : Finset (Option String)

namespace Selecting

/-- What the user does. Rows are pressed and entered at the index at which they are displayed. -/
inductive Event where
  | search (query : String)
  | filter (key value : String)
  | sort (key : String)
  | toggleAll
  | toggleOne (index : ℕ)
  | clear
  | mouseDown (button : ℕ) (shift ctrl : Bool) (index : ℕ)
  | mouseEnter (index : ℕ)
  | mouseUp
  deriving DecidableEq, Repr

/-- The table as it is first shown. -/
def fresh : Selecting := ⟨⟨"", fun _ ↦ none, none, false⟩, ∅, none, false, false, ∅⟩

section Step

variable {T : Type} (loc : Locale) (table : DataTable T) (s : Selecting)

/-- `displayedIds`. -/
def ids : List String := displayedIds loc table s.view

/-- An element in or out of a set. -/
def toggle (set : Finset (Option String)) (id : Option String) : Finset (Option String) :=
  if id ∈ set then set.erase id else insert id set

/-- The ids that `setRange` adds: what is displayed at the indices between two. -/
def range (ids : List String) (start stop : ℕ) : Finset (Option String) :=
  ((List.range' (min start stop) (max start stop + 1 - min start stop)).map fun i ↦
    ids[i]?).toFinset

def setRange (start stop : ℕ) (base : Finset (Option String)) : Selecting :=
  { s with selected := base ∪ range (s.ids loc table) start stop }

/-- The click on a header. -/
def sortBy (key : String) : View :=
  match table.columns.find? fun c ↦ c.key == key with
  | none => s.view
  | some c =>
    if !c.sortable then s.view
    else if s.view.sortKey = some key then { s.view with sortDesc := !s.view.sortDesc }
    else { s.view with sortKey := some key, sortDesc := false }

/-- `toggleAll`. -/
def toggledAll : Finset (Option String) :=
  let all := ((s.ids loc table).map some).toFinset
  if all ≠ ∅ ∧ all ⊆ s.selected then s.selected \ all else s.selected ∪ all

def onRowMouseDown (button : ℕ) (shift ctrl : Bool) (index : ℕ) : Selecting :=
  if button ≠ 0 then s
  else
    let id := (s.ids loc table)[index]?
    match if shift then s.anchor else none with
    | some start =>
      { s.setRange loc table start index ∅ with dragging := true, additive := false, dragBase := ∅ }
    | none =>
      if ctrl then
        { s with
          selected := toggle s.selected id
          anchor := some index
          dragging := true
          additive := true
          dragBase := toggle s.selected id }
      else
        { s with
          selected := {id}
          anchor := some index
          dragging := true
          additive := false
          dragBase := ∅ }

def onRowMouseEnter (index : ℕ) : Selecting :=
  match if s.dragging then s.anchor else none with
  | some start => s.setRange loc table start index (if s.additive then s.dragBase else ∅)
  | none => s

/-- What an event does. There are no events on rows that are not displayed. -/
def step : Event → Selecting
  | .search query => { s with view := { s.view with query := query } }
  | .filter key value =>
    { s with
      view := { s.view with filterValues := Function.update s.view.filterValues key (some value) } }
  | .sort key => { s with view := s.sortBy table key }
  | .toggleAll => { s with selected := s.toggledAll loc table }
  | .toggleOne index =>
    if index < (s.ids loc table).length then
      { s with selected := toggle s.selected (s.ids loc table)[index]? }
    else s
  | .clear => { s with selected := ∅ }
  | .mouseDown button shift ctrl index =>
    if index < (s.ids loc table).length then s.onRowMouseDown loc table button shift ctrl index
    else s
  | .mouseEnter index =>
    if index < (s.ids loc table).length then s.onRowMouseEnter loc table index else s
  | .mouseUp => { s with dragging := false }

/-! ### Ranges and anchors -/

/-- Where the range begins that an event draws, the index under the pointer, and what is selected
beside it. -/
def drawn : Event → Option (ℕ × ℕ × Finset (Option String))
  | .mouseDown button shift _ index =>
    if button = 0 ∧ shift = true ∧ index < (s.ids loc table).length then
      s.anchor.map fun start ↦ (start, index, ∅)
    else none
  | .mouseEnter index =>
    if s.dragging = true ∧ index < (s.ids loc table).length then
      s.anchor.map fun start ↦ (start, index, if s.additive then s.dragBase else ∅)
    else none
  | _ => none

end Step

end Selecting

/-- The row that is anchored, beside what the table keeps of it. -/
structure Tracked where
  state : Selecting
  anchorRow : Option String

namespace Tracked

variable {T : Type} (loc : Locale) (table : DataTable T) (t : Tracked)

/-- The anchored row after an event: a press on a row anchors it, unless it draws a range. -/
def anchorRowAfter : Selecting.Event → Option String
  | .mouseDown button shift ctrl index =>
    if button = 0 ∧ index < (t.state.ids loc table).length ∧
        t.state.drawn loc table (.mouseDown button shift ctrl index) = none then
      (t.state.ids loc table)[index]?
    else t.anchorRow
  | _ => t.anchorRow

def step (e : Selecting.Event) : Tracked := ⟨t.state.step loc table e, t.anchorRowAfter loc table e⟩

def run (events : List Selecting.Event) : Tracked := events.foldl (step loc table) t

def fresh : Tracked := ⟨.fresh, none⟩

/-- All that is selected are rows of the table. -/
def Rows (set : Finset (Option String)) : Prop :=
  ∀ x ∈ set, ∃ row ∈ table.rows, x = some (table.rowId row)

/-- The row lies, in the order displayed, between another and the one at the index. -/
def Between (ids : List String) (row : String) (index : ℕ) (id : String) : Prop :=
  ∃ i k, ids[i]? = some row ∧ ids[k]? = some id ∧ min i index ≤ k ∧ k ≤ max i index

/-- A range that is drawn selects the rows from the anchored one to the one under the pointer, if
the anchored one is displayed. -/
def Right (e : Selecting.Event) : Prop :=
  ∀ start index base row, t.state.drawn loc table e = some (start, index, base) →
    t.anchorRow = some row → row ∈ t.state.ids loc table →
    ∀ x, x ∈ (t.step loc table e).state.selected ↔
      x ∈ base ∨ ∃ id, x = some id ∧ Between (t.state.ids loc table) row index id

/-- Where a range is drawn, there is a row at the index of the anchor, and it is the anchored one if
that is displayed. -/
def AnchorHolds (e : Selecting.Event) : Prop :=
  ∀ start index base, t.state.drawn loc table e = some (start, index, base) →
    ∃ id, (t.state.ids loc table)[start]? = some id ∧
      ∀ row, t.anchorRow = some row → row ∈ t.state.ids loc table → id = row

section Ranges

variable {loc table t} {ids : List String} {start index : ℕ} {base : Finset (Option String)}
  {e : Selecting.Event}

theorem mem_range {x : Option String} :
    x ∈ Selecting.range ids start index ↔
      ∃ i, min start index ≤ i ∧ i ≤ max start index ∧ ids[i]? = x := by
  rw [Selecting.range, List.mem_toFinset, List.mem_map]
  refine exists_congr fun i ↦ ?_
  rw [List.mem_range'_1]
  constructor
  · rintro ⟨hi, hx⟩
    exact ⟨hi.1, by omega, hx⟩
  · rintro ⟨hge, hle, hx⟩
    exact ⟨⟨hge, by omega⟩, hx⟩

/-- An event that draws a range is on a row, and selects what is between the indices. -/
theorem of_drawn (h : t.state.drawn loc table e = some (start, index, base)) :
    index < (t.state.ids loc table).length ∧
      (t.step loc table e).state.selected =
        base ∪ Selecting.range (t.state.ids loc table) start index := by
  cases e with
  | mouseDown button shift ctrl i =>
    simp only [Selecting.drawn] at h
    split at h
    · next hdown =>
      obtain ⟨hbutton, hshift, hi⟩ := hdown
      cases hanchor : t.state.anchor with
      | none => rw [hanchor] at h; cases h
      | some a =>
        rw [hanchor] at h
        cases h
        refine ⟨hi, ?_⟩
        simp [step, Selecting.step, Selecting.onRowMouseDown, hi, hbutton, hshift, hanchor,
          Selecting.setRange]
    · cases h
  | mouseEnter i =>
    simp only [Selecting.drawn] at h
    split at h
    · next hdrag =>
      obtain ⟨hdragging, hi⟩ := hdrag
      cases hanchor : t.state.anchor with
      | none => rw [hanchor] at h; cases h
      | some a =>
        rw [hanchor] at h
        cases h
        refine ⟨hi, ?_⟩
        simp [step, Selecting.step, Selecting.onRowMouseEnter, hi, hdragging, hanchor,
          Selecting.setRange]
    · cases h
  | _ => cases h

theorem eq_of_getElem? (hnodup : ids.Nodup) {i k : ℕ} {id : String} (hi : ids[i]? = some id)
    (hk : ids[k]? = some id) : i = k :=
  (List.getElem?_inj (List.getElem?_eq_some_iff.1 hi).1 hnodup).1 (hi.trans hk.symm)

/-- The rows between another and an index, by the index of that row. -/
theorem between_iff (hnodup : ids.Nodup) {i : ℕ} {row : String} (hi : ids[i]? = some row)
    {id : String} : Between ids row index id ↔
      ∃ k, min i index ≤ k ∧ k ≤ max i index ∧ ids[k]? = some id := by
  constructor
  · rintro ⟨i', k, hi', hk, hge, hle⟩
    obtain rfl := eq_of_getElem? hnodup hi hi'
    exact ⟨k, hge, hle, hk⟩
  · rintro ⟨k, hge, hle, hk⟩
    exact ⟨i, k, hi, hk, hge, hle⟩

/-- A range between two rows consists of the rows between them. -/
theorem mem_range_iff_between (hnodup : ids.Nodup) {row : String} (hstart : ids[start]? = some row)
    (hindex : index < ids.length) {x : Option String} :
    x ∈ Selecting.range ids start index ↔ ∃ id, x = some id ∧ Between ids row index id := by
  have hlt : start < ids.length := (List.getElem?_eq_some_iff.1 hstart).1
  rw [mem_range]
  constructor
  · rintro ⟨k, hge, hle, rfl⟩
    have hk : k < ids.length := by omega
    exact ⟨ids[k], List.getElem?_eq_getElem hk,
      (between_iff hnodup hstart).2 ⟨k, hge, hle, List.getElem?_eq_getElem hk⟩⟩
  · rintro ⟨id, rfl, hbetween⟩
    exact (between_iff hnodup hstart).1 hbetween

theorem nodup_ids (loc : Locale) (hrows : (table.rows.map table.rowId).Nodup) (s : Selecting) :
    (s.ids loc table).Nodup := by
  obtain ⟨l, hperm, hsub⟩ := displayedIds_subperm loc table s.view
  exact hperm.nodup_iff.1 (hrows.sublist hsub)

theorem exists_row_of_getElem? {s : Selecting} {i : ℕ} {id : String}
    (h : (s.ids loc table)[i]? = some id) :
    ∃ row ∈ table.rows, some id = some (table.rowId row) := by
  have hmem := (displayedIds_subperm loc table s.view).subset (List.mem_of_getElem? h)
  obtain ⟨row, hrow, hid⟩ := List.mem_map.1 hmem
  exact ⟨row, hrow, congrArg some hid.symm⟩

/-- **Where the anchor holds**, a range is right. -/
theorem AnchorHolds.right (hrows : (table.rows.map table.rowId).Nodup)
    (h : t.AnchorHolds loc table e) : t.Right loc table e := by
  intro start index base row hdrawn hrow hmem x
  obtain ⟨hindex, hselected⟩ := of_drawn hdrawn
  obtain ⟨id, hid, hanchored⟩ := h start index base hdrawn
  obtain rfl := hanchored row hrow hmem
  rw [hselected, Finset.mem_union, mem_range_iff_between (nodup_ids loc hrows _) hid hindex]

theorem AnchorHolds.rows (h : t.AnchorHolds loc table e) (hbase : Rows table base)
    (hdrawn : t.state.drawn loc table e = some (start, index, base)) :
    Rows table (t.step loc table e).state.selected := by
  obtain ⟨hindex, hselected⟩ := of_drawn hdrawn
  obtain ⟨id, hid, -⟩ := h start index base hdrawn
  have hlt := (List.getElem?_eq_some_iff.1 hid).1
  intro x hx
  rw [hselected, Finset.mem_union] at hx
  rcases hx with hx | hx
  · exact hbase x hx
  · obtain ⟨i, hge, hle, rfl⟩ := mem_range.1 hx
    have hi : (t.state.ids loc table)[i]? = some _ := List.getElem?_eq_getElem (by omega)
    rw [hi]
    exact exists_row_of_getElem? hi

/-- **Where it does not**, a range that is drawn afresh is wrong, or selects what is no row. -/
theorem right_iff (hrows : (table.rows.map table.rowId).Nodup)
    (hdrawn : t.state.drawn loc table e = some (start, index, ∅)) :
    Rows table (t.step loc table e).state.selected ∧ t.Right loc table e ↔
      t.AnchorHolds loc table e := by
  have hnodup := nodup_ids loc hrows t.state
  obtain ⟨hindex, hselected⟩ := of_drawn hdrawn
  constructor
  · rintro ⟨hselectedRows, hright⟩ start' index' base' hdrawn'
    obtain ⟨rfl, rfl, rfl⟩ : start = start' ∧ index = index' ∧ ∅ = base' := by
      simpa using hdrawn.symm.trans hdrawn'
    have hlt : start < (t.state.ids loc table).length := by
      by_contra hge
      -- the index of the anchor is behind the rows, and is selected as `undefined`
      have hnone : (none : Option String) ∈ Selecting.range (t.state.ids loc table) start index :=
        mem_range.2 ⟨start, min_le_left _ _, le_max_left _ _, List.getElem?_eq_none (by omega)⟩
      obtain ⟨row, -, hrow⟩ := hselectedRows none (hselected ▸ Finset.mem_union_right _ hnone)
      cases hrow
    refine ⟨_, List.getElem?_eq_getElem hlt, fun row hrow hmem ↦ ?_⟩
    obtain ⟨i, hi, heq⟩ := List.mem_iff_getElem.1 hmem
    have hat : (t.state.ids loc table)[i]? = some row := heq ▸ List.getElem?_eq_getElem hi
    have hiff (x : Option String) : x ∈ Selecting.range (t.state.ids loc table) start index ↔
        x ∈ Selecting.range (t.state.ids loc table) i index := by
      rw [mem_range_iff_between hnodup hat hindex]
      have hx := hright start index ∅ row hdrawn hrow hmem x
      rw [hselected] at hx
      simpa using hx
    -- each of the two starts lies in the range of the other
    have hstart := (hiff (t.state.ids loc table)[start]?).1
      (mem_range.2 ⟨start, min_le_left _ _, le_max_left _ _, rfl⟩)
    have hrowStart := (hiff (t.state.ids loc table)[i]?).2
      (mem_range.2 ⟨i, min_le_left _ _, le_max_left _ _, rfl⟩)
    obtain ⟨j, hj₁, hj₂, hj⟩ := mem_range.1 hstart
    obtain ⟨k, hk₁, hk₂, hk⟩ := mem_range.1 hrowStart
    have hjs : j = start := eq_of_getElem? hnodup (hj.trans (List.getElem?_eq_getElem hlt))
      (List.getElem?_eq_getElem hlt)
    have hki : k = i := eq_of_getElem? hnodup (hk.trans hat) hat
    have hsi : start = i := by omega
    subst hsi
    exact heq
  · exact fun h ↦ ⟨h.rows (fun x hx ↦ absurd hx (Finset.notMem_empty x)) hdrawn, h.right hrows⟩

theorem rows_empty : Rows table ∅ := fun _ hx ↦ absurd hx (Finset.notMem_empty _)

theorem rows_toggle {set : Finset (Option String)} (h : Rows table set) {x : Option String}
    (hx : ∃ row ∈ table.rows, x = some (table.rowId row)) :
    Rows table (Selecting.toggle set x) := by
  rw [Selecting.toggle]
  split
  · exact fun y hy ↦ h y (Finset.mem_of_mem_erase hy)
  · intro y hy
    rcases Finset.mem_insert.1 hy with rfl | hy
    · exact hx
    · exact h y hy

theorem exists_row_of_lt {s : Selecting} {i : ℕ} (h : i < (s.ids loc table).length) :
    ∃ row ∈ table.rows, (s.ids loc table)[i]? = some (table.rowId row) := by
  have hi := List.getElem?_eq_getElem h
  rw [hi]
  exact exists_row_of_getElem? hi

/-- What is kept over a run: the selection, and what a drag adds to, are rows. -/
structure Keeps (table : DataTable T) (t : Tracked) : Prop where
  selected : Rows table t.state.selected
  dragBase : Rows table t.state.dragBase

theorem Keeps.of_eq (h : Keeps table t) (hsame : t.state.step loc table e = t.state) :
    Keeps table (t.step loc table e) := by
  refine ⟨?_, ?_⟩
  · rw [Tracked.step, hsame]
    exact h.selected
  · rw [Tracked.step, hsame]
    exact h.dragBase

theorem Keeps.mouseDown (h : Keeps table t) {button : ℕ} {shift ctrl : Bool} {i : ℕ}
    (hanchor : t.AnchorHolds loc table (.mouseDown button shift ctrl i)) :
    Keeps table (t.step loc table (.mouseDown button shift ctrl i)) := by
  by_cases hi : i < (t.state.ids loc table).length
  · by_cases hbutton : button = 0
    · cases hstart : if shift then t.state.anchor else none with
      | some start =>
        -- a range is drawn from the anchor
        have hshift : shift = true ∧ t.state.anchor = some start := by
          cases shift with
          | false => cases hstart
          | true => exact ⟨rfl, hstart⟩
        have hdrawn :
            t.state.drawn loc table (.mouseDown button shift ctrl i) = some (start, i, ∅) := by
          simp [Selecting.drawn, hbutton, hshift.1, hshift.2, hi]
        refine ⟨hanchor.rows rows_empty hdrawn, ?_⟩
        simp only [step, Selecting.step, Selecting.onRowMouseDown, hi, hbutton, hstart, if_true,
          ne_eq, not_true_eq_false, if_false]
        exact rows_empty
      | none =>
        have hpressed := exists_row_of_lt hi
        simp only [step, Selecting.step, Selecting.onRowMouseDown, hi, hbutton, hstart, if_true,
          ne_eq, not_true_eq_false, if_false]
        split
        · exact ⟨rows_toggle h.selected hpressed, rows_toggle h.selected hpressed⟩
        · refine ⟨fun x hx ↦ ?_, rows_empty⟩
          exact Finset.mem_singleton.1 hx ▸ hpressed
    · exact h.of_eq (by simp [Selecting.step, Selecting.onRowMouseDown, hbutton])
  · exact h.of_eq (if_neg hi)

theorem Keeps.mouseEnter (h : Keeps table t) {i : ℕ}
    (hanchor : t.AnchorHolds loc table (.mouseEnter i)) :
    Keeps table (t.step loc table (.mouseEnter i)) := by
  by_cases hi : i < (t.state.ids loc table).length
  · cases hstart : if t.state.dragging then t.state.anchor else none with
    | none =>
      exact h.of_eq (by simp only [Selecting.step, hi, if_true, Selecting.onRowMouseEnter, hstart])
    | some start =>
      have hdragging : t.state.dragging = true ∧ t.state.anchor = some start := by
        by_cases hd : t.state.dragging = true
        · exact ⟨hd, by rwa [if_pos hd] at hstart⟩
        · rw [if_neg hd] at hstart
          cases hstart
      have hdrawn : t.state.drawn loc table (.mouseEnter i) =
          some (start, i, if t.state.additive then t.state.dragBase else ∅) := by
        simp [Selecting.drawn, hdragging.1, hdragging.2, hi]
      have hbase : Rows table (if t.state.additive then t.state.dragBase else ∅) := by
        split
        · exact h.dragBase
        · exact rows_empty
      refine ⟨hanchor.rows hbase hdrawn, ?_⟩
      simp only [step, Selecting.step, hi, if_true, Selecting.onRowMouseEnter, hstart]
      exact h.dragBase
  · exact h.of_eq (if_neg hi)

/-- **A step keeps the selection to the rows**, where the anchor holds. -/
theorem Keeps.step (h : Keeps table t) (hanchor : t.AnchorHolds loc table e) :
    Keeps table (t.step loc table e) := by
  cases e with
  | toggleAll =>
    refine ⟨?_, h.dragBase⟩
    simp only [Tracked.step, Selecting.step, Selecting.toggledAll]
    split
    · exact fun x hx ↦ h.selected x (Finset.sdiff_subset hx)
    · intro x hx
      rcases Finset.mem_union.1 hx with hx | hx
      · exact h.selected x hx
      · obtain ⟨id, hid, rfl⟩ := List.mem_map.1 (List.mem_toFinset.1 hx)
        obtain ⟨i, hi⟩ := List.mem_iff_getElem?.1 hid
        exact exists_row_of_getElem? hi
  | toggleOne i =>
    simp only [Tracked.step, Selecting.step]
    split
    · next hi => exact ⟨rows_toggle h.selected (exists_row_of_lt hi), h.dragBase⟩
    · exact ⟨h.selected, h.dragBase⟩
  | clear => exact ⟨rows_empty, h.dragBase⟩
  | mouseDown button shift ctrl i => exact h.mouseDown hanchor
  | mouseEnter i => exact h.mouseEnter hanchor
  | _ => exact ⟨h.selected, h.dragBase⟩

end Ranges

/-- The anchor holds at every event of a run. -/
def Steady : Tracked → List Selecting.Event → Prop
  | _, [] => True
  | t, e :: events => t.AnchorHolds loc table e ∧ Steady (t.step loc table e) events

section Run

variable {loc table t} {events : List Selecting.Event}

theorem keeps_run (hsteady : Steady loc table t events) (h : Keeps table t) :
    Keeps table (t.run loc table events) := by
  induction events generalizing t with
  | nil => exact h
  | cons e events ih => exact ih hsteady.2 (h.step hsteady.1)

theorem steady_append {e : Selecting.Event} (h : Steady loc table t (events ++ [e])) :
    Steady loc table t events ∧ (t.run loc table events).AnchorHolds loc table e := by
  induction events generalizing t with
  | nil => exact ⟨trivial, h.1⟩
  | cons e' events ih => exact ⟨⟨h.1, (ih h.2).1⟩, (ih h.2).2⟩

end Run

end Tracked

/-- **The selection stays meaningful** as long as the anchor holds: all that is selected are rows of
the table, and a range that is drawn selects the rows between the anchored one and the one under the
pointer. That the anchor holds is also needed, for every range that is drawn afresh. -/
theorem ranges_right {T : Type} (loc : Locale) (table : DataTable T)
    (hrows : (table.rows.map table.rowId).Nodup) :
    (∀ events, Tracked.Steady loc table .fresh events →
      Tracked.Rows table (Tracked.fresh.run loc table events).state.selected) ∧
    (∀ events e, Tracked.Steady loc table .fresh (events ++ [e]) →
      (Tracked.fresh.run loc table events).Right loc table e) ∧
    ∀ (t : Tracked) (e : Selecting.Event) (start index : ℕ),
      t.state.drawn loc table e = some (start, index, ∅) →
      (Tracked.Rows table (t.step loc table e).state.selected ∧ t.Right loc table e ↔
        t.AnchorHolds loc table e) := by
  have hfresh : Tracked.Keeps table .fresh := ⟨Tracked.rows_empty, Tracked.rows_empty⟩
  refine ⟨fun events h ↦ (Tracked.keeps_run h hfresh).selected, fun events e h ↦ ?_,
    fun t e start index hdrawn ↦ Tracked.right_iff hrows hdrawn⟩
  exact (Tracked.steady_append h).2.right hrows

/-- A language of lower-case letters. -/
def plainLocale : Locale :=
  ⟨fun s ↦ s, fun a b ↦ if a < b then -1 else if a = b then 0 else 1, fun _ ↦ ""⟩

/-- A table of three rows. -/
def threeRows : DataTable String := ⟨["a", "b", "c"], [⟨"name", .string, true⟩], fun row ↦ row, []⟩

/-- A range over the three rows. -/
theorem ranges_right_threeRows :
    Tracked.Rows threeRows (Tracked.fresh.run plainLocale threeRows
      [.mouseDown 0 false false 0, .mouseDown 0 true false 2]).state.selected := by
  refine (ranges_right plainLocale threeRows (by decide)).1 _ ⟨?_, ?_, trivial⟩
  · intro start index base h
    cases h
  · intro start index base h
    have hdrawn :
        (Tracked.fresh.step plainLocale threeRows (.mouseDown 0 false false 0)).state.drawn
        plainLocale threeRows (.mouseDown 0 true false 2) = some (0, 2, ∅) := by decide
    obtain ⟨rfl, rfl, rfl⟩ : start = 0 ∧ index = 2 ∧ base = ∅ := by
      simpa using h.symm.trans hdrawn
    refine ⟨"a", by decide, fun row hrow _ ↦ ?_⟩
    have hanchored : (Tracked.fresh.step plainLocale threeRows
        (.mouseDown 0 false false 0)).anchorRow = some "a" := by decide
    exact Option.some.inj (hanchored.symm.trans hrow)

/-- The last row is pressed, a search leaves the first one, and a range is drawn to it. -/
theorem not_ranges_right :
    ¬∀ (loc : Locale) (table : DataTable String), (table.rows.map table.rowId).Nodup →
      (∀ events, Tracked.Rows table (Tracked.fresh.run loc table events).state.selected) ∧
      ∀ events e, (Tracked.fresh.run loc table events).Right loc table e := by
  intro h
  have hrows := (h plainLocale threeRows (by decide)).1
    [.mouseDown 0 false false 2, .search "a", .mouseDown 0 true false 0]
  obtain ⟨row, -, hrow⟩ := hrows none (by decide)
  cases hrow

end VyosFabric
