import VyosFabric.Dashboard.DataTable
import VyosFabric.Sorting.Arranging

/-!
# The columns of a data table

The columns are shown in an order that is changed by dragging their headers, and each can be hidden.
Both are stored, and read again when the page is loaded. What is stored is brought up to date with
the columns there are (`orderedKeys`), which are thus all there in any state (`Arranged`).

A drag moves the column that is dragged only, and of the columns one is always left to be seen
(`columns_arranged`).
-/

namespace VyosFabric

open Sorting

/-- A layout as it is stored. The first width of a key counts. -/
structure TableLayout where
  order : List String
  widths : List (String × ℚ)
  hidden : List String
  deriving DecidableEq, Repr

/-- A table as it is mounted, and what the browser has stored for it. -/
structure TableHead (T : Type) where
  columns : List (Column T)
  order : List String
  widths : List (String × ℚ)
  hidden : List String
  seeded : Bool
  dragCol : Option String
  storage : Option TableLayout

/-- What happens to the columns. -/
inductive HeadEvent (T : Type) where
  | dragStart (key : String)
  | drop (key : String)
  | dragEnd
  /-- A click on a column of the menu. -/
  | toggle (key : String)
  | reset
  /-- The widths of the headers are measured. -/
  | seed (measured : List (String × ℚ))
  | resize (leftKey rightKey : String) (left right : ℚ)
  /-- The effect that stores the layout has run, and storage was available. -/
  | persist
  /-- The page is loaded again, perhaps with the columns in another order. -/
  | reload (columns : List (Column T))

namespace TableHead

variable {T : Type}

section Model

variable (s : TableHead T)

def defaultOrder : List String := s.columns.map Column.key

/-- Reconcile order with the actual column set. -/
def orderedKeys : List String :=
  let kept := s.order.filter (· ∈ s.defaultOrder)
  s.defaultOrder.foldl (fun kept k ↦ if k ∈ kept then kept else kept ++ [k]) kept

/-- The last column of a key counts. -/
def byKey (k : String) : Option (Column T) := s.columns.reverse.find? fun c ↦ c.key == k

def visibleCols : List (Column T) :=
  (s.orderedKeys.filterMap s.byKey).filter fun c ↦ c.key ∉ s.hidden

/-- The state of a new mount: what is stored, or the default. -/
def mount (columns : List (Column T)) (storage : Option TableLayout) : TableHead T where
  columns := columns
  order := (storage.map TableLayout.order).getD (columns.map Column.key)
  widths := (storage.map TableLayout.widths).getD []
  hidden := ((storage.map TableLayout.hidden).getD []).eraseDups
  seeded := !((storage.map TableLayout.widths).getD []).isEmpty
  dragCol := none
  storage := storage

/-- Persist layout. -/
def persist : TableHead T := { s with storage := some ⟨s.orderedKeys, s.widths, s.hidden⟩ }

/-- Widths there are already stay. -/
def seedWidths (measured : List (String × ℚ)) : TableHead T :=
  if s.seeded then s else { s with widths := s.widths ++ measured, seeded := true }

def resize (leftKey rightKey : String) (left right : ℚ) : TableHead T :=
  { s with widths := (rightKey, right) :: (leftKey, left) :: s.widths }

def resetLayout : TableHead T :=
  { s with order := s.defaultOrder, hidden := [], widths := [], seeded := false }

/-- The splices of `reorderColumn`. -/
def spliced (arr : List String) (source target : String) : List String :=
  match arr.idxOf? source with
  | none => arr
  | some fi =>
    let arr := arr.eraseIdx fi
    match arr.idxOf? target with
    | none => arr
    | some ti => arr.insertIdx ti source

def reorderColumn (source target : String) : TableHead T :=
  if source = "" ∨ source = target then s
  else { s with order := spliced s.orderedKeys source target }

/-- Keep at least one column. -/
def toggleColumn (key : String) : TableHead T :=
  if key ∈ s.hidden then { s with hidden := s.hidden.filter (· ≠ key) }
  else if 1 < s.visibleCols.length then { s with hidden := s.hidden ++ [key] }
  else s

/-- `onDrop` of a header. -/
def onDrop (key : String) : TableHead T :=
  let s' := match s.dragCol with
    | some source => if source = "" then s else s.reorderColumn source key
    | none => s
  { s' with dragCol := none }

/-- The button of the menu is disabled. -/
def LastVisible (key : String) : Prop := key ∉ s.hidden ∧ s.visibleCols.length = 1

instance (key : String) : Decidable (s.LastVisible key) := inferInstanceAs (Decidable (_ ∧ _))

/-- Only headers that are shown can be dragged, and there is a button for each column. The table is
rendered between two events, so a handler sees the state after the last one. -/
def step : HeadEvent T → Option (TableHead T)
  | .dragStart key =>
    if key ∈ s.visibleCols.map Column.key then some { s with dragCol := some key } else none
  | .drop key => if key ∈ s.visibleCols.map Column.key then some (s.onDrop key) else none
  | .dragEnd => some { s with dragCol := none }
  | .toggle key =>
    if key ∈ s.orderedKeys ∧ ¬s.LastVisible key then some (s.toggleColumn key) else none
  | .reset => some s.resetLayout
  | .seed measured => some (s.seedWidths measured)
  | .resize leftKey rightKey left right => some (s.resize leftKey rightKey left right)
  | .persist => some s.persist
  | .reload columns =>
    if (columns.map Column.key).Perm s.defaultOrder then some (mount columns s.storage) else none

def run (events : List (HeadEvent T)) : Option (TableHead T) := events.foldlM step s

end Model

/-! ### What is shown -/

section Shown

variable {s : TableHead T}

theorem orderedKeys_eq (h : s.defaultOrder.Nodup) :
    s.orderedKeys = reconcile s.defaultOrder s.order := by
  have hmissing : s.defaultOrder.filter (· ∉ s.order.filter (· ∈ s.defaultOrder)) =
      s.defaultOrder.filter (· ∉ s.order) :=
    List.filter_congr fun k hk ↦ by simp [hk]
  rw [orderedKeys, foldl_add_missing h, hmissing, reconcile]

/-- An order of just these columns is shown as it is. -/
theorem orderedKeys_of_perm (h : s.defaultOrder.Nodup) (horder : s.order.Perm s.defaultOrder) :
    s.orderedKeys = s.order := by
  rw [orderedKeys_eq h, reconcile_eq_self horder]

theorem byKey_of_mem {k : String} (hk : k ∈ s.defaultOrder) :
    ∃ c, s.byKey k = some c ∧ c.key = k := by
  obtain ⟨c, hc, rfl⟩ := List.mem_map.1 hk
  cases hfind : s.byKey c.key with
  | none => exact absurd (List.find?_eq_none.1 hfind c (List.mem_reverse.2 hc)) (by simp)
  | some d =>
    have hkey := List.find?_some (p := fun e : Column T ↦ e.key == c.key) hfind
    exact ⟨d, rfl, beq_iff_eq.1 hkey⟩

/-- The visible columns are those that are not hidden, in order. -/
theorem map_key_visibleCols (h : s.defaultOrder.Nodup) :
    s.visibleCols.map Column.key = s.orderedKeys.filter (· ∉ s.hidden) := by
  have hall : ∀ k ∈ s.orderedKeys, k ∈ s.defaultOrder := fun k hk ↦ by
    rw [orderedKeys_eq h] at hk
    exact mem_reconcile.1 hk
  rw [visibleCols]
  generalize s.orderedKeys = keys at hall
  induction keys with
  | nil => rfl
  | cons k keys ih =>
    obtain ⟨hk, hrest⟩ := List.forall_mem_cons.1 hall
    obtain ⟨c, hc, rfl⟩ := byKey_of_mem hk
    rw [List.filterMap_cons_some hc]
    by_cases hhidden : c.key ∈ s.hidden
    · rw [List.filter_cons_of_neg (by simpa using hhidden),
        List.filter_cons_of_neg (by simpa using hhidden), ih hrest]
    · rw [List.filter_cons_of_pos (by simpa using hhidden),
        List.filter_cons_of_pos (by simpa using hhidden), List.map_cons, ih hrest]

end Shown

/-- The splices take the key out and put it back before the other. -/
theorem spliced_eq {arr : List String} {source target : String} (hsource : source ∈ arr)
    (htarget : target ∈ arr) (hne : source ≠ target) :
    spliced arr source target = moveBefore source target arr := by
  have herase : arr.eraseIdx (arr.idxOf source) = arr.erase source :=
    (List.erase_eq_eraseIdx_of_idxOf rfl).symm
  have hleft : target ∈ arr.erase source := (List.mem_erase_of_ne hne.symm).2 htarget
  simp only [spliced, idxOf?_of_mem hsource, herase, idxOf?_of_mem hleft, moveBefore]

/-! ### The invariant -/

/-- An order without duplicates, and a column that is not hidden if there is one at all. -/
structure Sound (keys order hidden : List String) : Prop where
  nodup : order.Nodup
  shown : keys ≠ [] → ∃ k ∈ keys, k ∉ hidden

/-- The columns are those with the keys, and what is shown and what is stored is sound. -/
structure Arranged (keys : List String) (s : TableHead T) : Prop where
  same : s.defaultOrder.Perm keys
  sound : Sound keys s.order s.hidden
  dragged : ∀ k ∈ s.dragCol, k ∈ keys
  stored : ∀ layout ∈ s.storage, Sound keys layout.order layout.hidden

section Arranged

variable {keys : List String} {s s' : TableHead T}

theorem Arranged.orderedKeys_perm (h : Arranged keys s) (hkeys : keys.Nodup) :
    s.orderedKeys.Perm keys := by
  have hnodup := h.same.nodup_iff.2 hkeys
  rw [orderedKeys_eq hnodup]
  exact (reconcile_perm hnodup h.sound.nodup).trans h.same

theorem Arranged.visibleCols_ne_nil (h : Arranged keys s) (hkeys : keys.Nodup) (hne : keys ≠ []) :
    s.visibleCols ≠ [] := by
  obtain ⟨k, hk, hshown⟩ := h.sound.shown hne
  have hmem : k ∈ s.visibleCols.map Column.key := by
    rw [map_key_visibleCols (h.same.nodup_iff.2 hkeys)]
    exact List.mem_filter.2 ⟨(h.orderedKeys_perm hkeys).mem_iff.2 hk, decide_eq_true hshown⟩
  exact fun hnil ↦ by simp [hnil] at hmem

theorem sound_default (hkeys : keys.Nodup) {order : List String} (horder : order.Perm keys) :
    Sound keys order [] where
  nodup := horder.nodup_iff.2 hkeys
  shown hne := by
    obtain ⟨k, hk⟩ := List.exists_mem_of_ne_nil keys hne
    exact ⟨k, hk, List.not_mem_nil⟩

theorem arranged_mount (hkeys : keys.Nodup) {columns : List (Column T)}
    (hcolumns : (columns.map Column.key).Perm keys) {storage : Option TableLayout}
    (hstored : ∀ layout ∈ storage, Sound keys layout.order layout.hidden) :
    Arranged keys (mount columns storage) where
  same := hcolumns
  sound := by
    cases storage with
    | none => exact sound_default hkeys hcolumns
    | some layout =>
      obtain ⟨hnodup, hshown⟩ := hstored layout rfl
      refine ⟨hnodup, fun hne ↦ ?_⟩
      obtain ⟨k, hk, hshown⟩ := hshown hne
      exact ⟨k, hk, fun hmem ↦ hshown (List.mem_eraseDups.1 hmem)⟩
  dragged k hk := by cases hk
  stored := hstored

/-- What is dropped on a header is moved before its column. -/
theorem Arranged.isMoved (h : Arranged keys s) (hkeys : keys.Nodup) {source target : String}
    (hsource : source ∈ keys) (htarget : target ∈ keys) (hne : source ≠ target) :
    IsMoved source target s.orderedKeys (spliced s.orderedKeys source target) := by
  have hperm := h.orderedKeys_perm hkeys
  rw [spliced_eq (hperm.mem_iff.2 hsource) (hperm.mem_iff.2 htarget) hne]
  exact isMoved_moveBefore (hperm.nodup_iff.2 hkeys) hne (hperm.mem_iff.2 htarget)

theorem Arranged.reorderColumn (h : Arranged keys s) (hkeys : keys.Nodup) {source target : String}
    (hsource : source ∈ keys) (htarget : target ∈ keys) :
    Arranged keys (s.reorderColumn source target) := by
  rw [TableHead.reorderColumn]
  split
  · exact h
  · next hmoves =>
    have hperm := h.orderedKeys_perm hkeys
    have hmoved := (h.isMoved hkeys hsource htarget (not_or.1 hmoves).2).perm
      (hperm.mem_iff.2 hsource)
    have hnodup := (hmoved.trans hperm).nodup_iff.2 hkeys
    exact ⟨h.same, ⟨hnodup, h.sound.shown⟩, h.dragged, h.stored⟩

theorem Arranged.drag (h : Arranged keys s) {dragCol : Option String}
    (hdrag : ∀ k ∈ dragCol, k ∈ keys) : Arranged keys { s with dragCol := dragCol } :=
  ⟨h.same, h.sound, hdrag, h.stored⟩

theorem Arranged.dragEnd (h : Arranged keys s) : Arranged keys { s with dragCol := none } :=
  h.drag fun _ hk ↦ absurd hk (Option.not_mem_none _)

theorem Arranged.onDrop (h : Arranged keys s) (hkeys : keys.Nodup) {key : String}
    (hkey : key ∈ keys) : Arranged keys (s.onDrop key) := by
  rw [TableHead.onDrop]
  refine Arranged.dragEnd ?_
  split
  · next source hdrag =>
    split
    · exact h
    · exact h.reorderColumn hkeys (h.dragged source hdrag) hkey
  · exact h

/-- Of two columns that are seen, one is left. -/
theorem Arranged.toggleColumn (h : Arranged keys s) (hkeys : keys.Nodup) (key : String) :
    Arranged keys (s.toggleColumn key) := by
  rw [TableHead.toggleColumn]
  split
  · refine ⟨h.same, ⟨h.sound.nodup, fun hne ↦ ?_⟩, h.dragged, h.stored⟩
    obtain ⟨k, hk, hshown⟩ := h.sound.shown hne
    exact ⟨k, hk, fun hmem ↦ hshown (List.mem_filter.1 hmem).1⟩
  · split
    · next hseveral =>
      refine ⟨h.same, ⟨h.sound.nodup, fun _ ↦ ?_⟩, h.dragged, h.stored⟩
      have hperm := h.orderedKeys_perm hkeys
      have hvisible := map_key_visibleCols (h.same.nodup_iff.2 hkeys)
      have hnodup : (s.visibleCols.map Column.key).Nodup := by
        rw [hvisible]
        exact (hperm.nodup_iff.2 hkeys).filter _
      obtain ⟨k, hk, hne⟩ := exists_mem_ne hnodup (by rwa [List.length_map]) key
      rw [hvisible] at hk
      obtain ⟨hk, hshown⟩ := List.mem_filter.1 hk
      refine ⟨k, hperm.mem_iff.1 hk, fun hmem ↦ ?_⟩
      rcases List.mem_append.1 hmem with hmem | hmem
      · exact of_decide_eq_true hshown hmem
      · exact hne (List.mem_singleton.1 hmem)
    · exact h

theorem Arranged.resetLayout (h : Arranged keys s) (hkeys : keys.Nodup) :
    Arranged keys s.resetLayout :=
  ⟨h.same, sound_default hkeys h.same, h.dragged, h.stored⟩

theorem Arranged.seedWidths (h : Arranged keys s) (measured : List (String × ℚ)) :
    Arranged keys (s.seedWidths measured) := by
  rw [TableHead.seedWidths]
  split
  · exact h
  · exact ⟨h.same, h.sound, h.dragged, h.stored⟩

theorem Arranged.persist (h : Arranged keys s) (hkeys : keys.Nodup) : Arranged keys s.persist := by
  refine ⟨h.same, h.sound, h.dragged, fun layout hlayout ↦ ?_⟩
  obtain rfl := Option.some.inj hlayout
  exact ⟨(h.orderedKeys_perm hkeys).nodup_iff.2 hkeys, h.sound.shown⟩

theorem Arranged.mem_of_visible (h : Arranged keys s) (hkeys : keys.Nodup) {key : String}
    (hkey : key ∈ s.visibleCols.map Column.key) : key ∈ keys := by
  rw [map_key_visibleCols (h.same.nodup_iff.2 hkeys)] at hkey
  exact (h.orderedKeys_perm hkeys).mem_iff.1 (List.mem_filter.1 hkey).1

/-- **A step keeps the columns arranged**, whatever happens. -/
theorem Arranged.step (h : Arranged keys s) (hkeys : keys.Nodup) {e : HeadEvent T}
    (hstep : s.step e = some s') : Arranged keys s' := by
  cases e with
  | dragStart key =>
    obtain ⟨hkey, heq⟩ := Option.ite_none_right_eq_some.1 hstep
    obtain rfl := Option.some.inj heq
    refine h.drag fun k hk ↦ ?_
    obtain rfl := Option.some.inj hk
    exact h.mem_of_visible hkeys hkey
  | drop key =>
    obtain ⟨hkey, heq⟩ := Option.ite_none_right_eq_some.1 hstep
    obtain rfl := Option.some.inj heq
    exact h.onDrop hkeys (h.mem_of_visible hkeys hkey)
  | dragEnd =>
    obtain rfl := Option.some.inj hstep
    exact h.dragEnd
  | toggle key =>
    obtain ⟨-, heq⟩ := Option.ite_none_right_eq_some.1 hstep
    obtain rfl := Option.some.inj heq
    exact h.toggleColumn hkeys key
  | reset =>
    obtain rfl := Option.some.inj hstep
    exact h.resetLayout hkeys
  | seed measured =>
    obtain rfl := Option.some.inj hstep
    exact h.seedWidths measured
  | resize leftKey rightKey left right =>
    obtain rfl := Option.some.inj hstep
    exact ⟨h.same, h.sound, h.dragged, h.stored⟩
  | persist =>
    obtain rfl := Option.some.inj hstep
    exact h.persist hkeys
  | reload columns =>
    obtain ⟨hsame, heq⟩ := Option.ite_none_right_eq_some.1 hstep
    obtain rfl := Option.some.inj heq
    exact arranged_mount hkeys (hsame.trans h.same) h.stored

/-- **So does a run.** -/
theorem Arranged.run (h : Arranged keys s) (hkeys : keys.Nodup) {events : List (HeadEvent T)}
    (hrun : s.run events = some s') : Arranged keys s' := by
  induction events generalizing s with
  | nil => exact Option.some.inj hrun ▸ h
  | cons e events ih =>
    rw [TableHead.run, List.foldlM_cons] at hrun
    obtain ⟨t, hstep, hrest⟩ := Option.bind_eq_some_iff.1 hrun
    exact ih (h.step hkeys hstep) hrest

/-- A drag of a column whose key is not empty moves it before the other. -/
theorem Arranged.isMoved_drop (h : Arranged keys s) (hkeys : keys.Nodup) {source target : String}
    (hdrag : s.dragCol = some source) (hempty : source ≠ "") (hne : source ≠ target)
    (hstep : s.step (.drop target) = some s') :
    IsMoved source target s.orderedKeys s'.orderedKeys := by
  obtain ⟨htarget, heq⟩ := Option.ite_none_right_eq_some.1 hstep
  obtain rfl := Option.some.inj heq
  have hsource := h.dragged source hdrag
  have htarget := h.mem_of_visible hkeys htarget
  have hmoved := h.isMoved hkeys hsource htarget hne
  have hperm := hmoved.perm ((h.orderedKeys_perm hkeys).mem_iff.2 hsource)
  have hdrop : (s.onDrop target).orderedKeys = spliced s.orderedKeys source target := by
    have horder : s.onDrop target =
        { s with order := spliced s.orderedKeys source target, dragCol := none } := by
      rw [TableHead.onDrop, hdrag]
      simp only [if_neg hempty, TableHead.reorderColumn, if_neg (not_or.2 ⟨hempty, hne⟩)]
    rw [horder]
    exact orderedKeys_of_perm (h.same.nodup_iff.2 hkeys)
      ((hperm.trans (h.orderedKeys_perm hkeys)).trans h.same.symm)
  rwa [hdrop]

end Arranged

end TableHead

open TableHead in
/-- **The columns stay arranged** in any run, from a first mount on. They are shown in some order,
one of them at least is seen if there is one, and a drag of a column with a key that is not empty
moves only this one, to the place before the other. -/
theorem columns_arranged {T : Type} {columns : List (Column T)}
    (hdistinct : (columns.map Column.key).Nodup) {events : List (HeadEvent T)} {s : TableHead T}
    (hrun : (mount columns none).run events = some s) :
    s.orderedKeys.Perm (columns.map Column.key) ∧
      (columns ≠ [] → s.visibleCols ≠ []) ∧
      ∀ a b s', a ≠ "" → a ≠ b → s.dragCol = some a → s.step (.drop b) = some s' →
        IsMoved a b s.orderedKeys s'.orderedKeys := by
  have hstart : Arranged (columns.map Column.key) (mount columns none) :=
    arranged_mount hdistinct (.refl _) fun _ h ↦ absurd h (Option.not_mem_none _)
  have hs := hstart.run hdistinct hrun
  refine ⟨hs.orderedKeys_perm hdistinct, fun hne ↦ ?_, fun a b s' hempty hne hdrag hstep ↦ ?_⟩
  · exact hs.visibleCols_ne_nil hdistinct (mt List.map_eq_nil_iff.1 hne)
  · exact hs.isMoved_drop hdistinct hdrag hempty hne hstep

/-- Columns that show nothing. -/
def blankColumns (keys : List String) : List (Column Unit) :=
  keys.map fun key ↦ ⟨key, fun _ ↦ .null, false⟩

/-- Of three columns one is hidden, the page is loaded again, and another is being dragged. -/
def draggedHead : TableHead Unit where
  columns := blankColumns ["a", "b", "c"]
  order := ["a", "b", "c"]
  widths := []
  hidden := ["a"]
  seeded := false
  dragCol := some "c"
  storage := some ⟨["a", "b", "c"], [], ["a"]⟩

/-- The drag ends before the other column that is shown. -/
theorem columns_arranged_threeColumns :
    draggedHead.orderedKeys.Perm ["a", "b", "c"] ∧ draggedHead.visibleCols ≠ [] ∧
      IsMoved "c" "b" draggedHead.orderedKeys (draggedHead.onDrop "b").orderedKeys := by
  have hrun : (TableHead.mount (blankColumns ["a", "b", "c"]) none).run
      [.toggle "a", .persist, .reload (blankColumns ["a", "b", "c"]), .dragStart "c"] =
        some draggedHead := by
    rfl
  obtain ⟨hperm, hvisible, hdrag⟩ := columns_arranged (by decide) hrun
  exact ⟨hperm, hvisible (by decide), hdrag "c" "b" _ (by decide) (by decide) rfl rfl⟩

/-- Without columns nothing is seen, and a column with an empty key is not moved. -/
theorem not_columns_arranged :
    (¬∀ (columns : List (Column Unit)), (columns.map Column.key).Nodup →
      ∀ (events : List (HeadEvent Unit)) (s : TableHead Unit),
        (TableHead.mount columns none).run events = some s → s.visibleCols ≠ []) ∧
    ¬∀ (columns : List (Column Unit)), (columns.map Column.key).Nodup →
      ∀ (events : List (HeadEvent Unit)) (s : TableHead Unit),
        (TableHead.mount columns none).run events = some s →
          ∀ a b s', a ≠ b → s.dragCol = some a → s.step (.drop b) = some s' →
            IsMoved a b s.orderedKeys s'.orderedKeys := by
  constructor
  · intro h
    exact h [] (by decide) [] _ rfl rfl
  · intro h
    have hmoved := h (blankColumns ["b", ""]) (by decide) [.dragStart ""] _ rfl "" "b" _
      (by decide) rfl rfl
    obtain ⟨l₁, l₂, hkeys⟩ := hmoved.before
    have hkept : ["b", ""] = l₁ ++ "" :: "b" :: l₂ := hkeys
    rcases l₁ with _ | ⟨_, _ | ⟨_, _⟩⟩ <;> simp at hkept

end VyosFabric
