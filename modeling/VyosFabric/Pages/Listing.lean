import VyosFabric.Model.Text
import VyosFabric.Routes.Partition

/-!
# Lists of named entries

Nearly every page of a device shows an object of its config: one row for each key, in the order of
the names (`listing`). What such a page shows is one row for each entry, made of the key and the
config below it alone, and the rows are in strictly increasing order of their names
(`mem_listing_iff`, `pairwise_listing`). These two say all: the order in which the device lists its
keys does not matter (`listing_of_showsRows`).

The second part says how a device shows a leaf, a leaf with several values, a valueless node and a
tag node, and that the readers take each of them back.
-/

namespace VyosFabric

variable {α β : Type}

/-- The rows of an object, one for each key, sorted by name. -/
def listing (name : α → String) (row : String → Json → α) (node : Json) : List α :=
  (node.entries.map fun x ↦ row x.1 x.2).insertionSort fun a b ↦ name a ≤ name b

/-- The rows by name, or by another key. -/
def arrange {κ : Type} [LinearOrder κ] (name : α → κ) (rows : List α) : List α :=
  rows.insertionSort fun a b ↦ name a ≤ name b

/-! ### Rows in the order of their names -/

section Arrange

variable {κ : Type} [LinearOrder κ] {name : α → κ} {l l' : List α}

theorem pairwise_arrange (name : α → κ) (l : List α) :
    (arrange name l).Pairwise fun a b ↦ name a ≤ name b := by
  have : Std.Total fun a b : α ↦ name a ≤ name b := ⟨fun a b ↦ le_total (name a) (name b)⟩
  have : IsTrans α fun a b ↦ name a ≤ name b := ⟨fun _ _ _ ↦ le_trans⟩
  exact List.pairwise_insertionSort _ l

theorem perm_arrange (name : α → κ) (l : List α) : (arrange name l).Perm l :=
  List.perm_insertionSort _ l

/-- **Distinct names have one order.** -/
theorem eq_of_perm_of_names (hnames : (l.map name).Nodup) (hperm : l.Perm l')
    (hl : l.Pairwise fun a b ↦ name a ≤ name b) (hl' : l'.Pairwise fun a b ↦ name a ≤ name b) :
    l = l' := by
  refine hperm.eq_of_pairwise (fun a b ha hb hab hba ↦ ?_) hl hl'
  exact List.inj_on_of_nodup_map hnames ha (hperm.mem_iff.2 hb) (le_antisymm hab hba)

theorem arrange_eq_of_perm (hnames : (l.map name).Nodup) (hperm : l.Perm l') :
    arrange name l = arrange name l' := by
  have hsorted := (perm_arrange name l)
  refine eq_of_perm_of_names ((hsorted.map name).nodup_iff.2 hnames) ?_ (pairwise_arrange name l)
    (pairwise_arrange name l')
  exact hsorted.trans (hperm.trans (perm_arrange name l').symm)

end Arrange

/-! ### What a listing shows -/

section Listing

variable {name : α → String} {row : String → Json → α} {node : Json}

/-- Every entry has its row, and every row its entry. -/
theorem mem_listing_iff (hname : ∀ k c, name (row k c) = k) {r : α} :
    r ∈ listing name row node ↔ ∃ c, node.get (name r) = some c ∧ r = row (name r) c := by
  rw [listing, List.mem_insertionSort, List.mem_map]
  constructor
  · rintro ⟨⟨k, c⟩, hmem, rfl⟩
    rw [hname]
    exact ⟨c, Json.mem_entries.1 hmem, rfl⟩
  · rintro ⟨c, hget, hr⟩
    exact ⟨(name r, c), Json.mem_entries.2 hget, hr.symm⟩

/-- **The names of the rows are the keys**, once each. -/
theorem nodup_listing (hname : ∀ k c, name (row k c) = k) :
    ((listing name row node).map name).Nodup := by
  refine ((List.perm_insertionSort _ _).map name).nodup_iff.2 ?_
  rw [List.map_map, List.map_congr_left fun x _ ↦ hname x.1 x.2]
  exact node.nodup_keys_entries

/-- **Strictly by name.** -/
theorem pairwise_listing (hname : ∀ k c, name (row k c) = k) :
    (listing name row node).Pairwise fun a b ↦ name a < name b := by
  have hle : (listing name row node).Pairwise fun a b ↦ name a ≤ name b := pairwise_arrange name _
  have hne : ((listing name row node).map name).Nodup := nodup_listing hname
  rw [List.Nodup, List.pairwise_map] at hne
  exact hle.imp₂ (fun {_ _} hle hne ↦ lt_of_le_of_ne hle hne) hne

/-- A field of an object with distinct keys. -/
theorem lookup_eq_some_iff_mem {m : List (String × β)} (hkeys : (m.map Prod.fst).Nodup)
    {k : String} {c : β} : m.lookup k = some c ↔ (k, c) ∈ m := by
  rw [List.lookup_eq_some_iff]
  constructor
  · rintro ⟨l₁, l₂, rfl, -⟩
    exact List.mem_append_right l₁ List.mem_cons_self
  · intro hmem
    obtain ⟨l₁, l₂, rfl⟩ := List.append_of_mem hmem
    refine ⟨l₁, l₂, rfl, fun x hx ↦ ?_⟩
    rw [List.map_append, List.nodup_append] at hkeys
    exact bne_iff_ne.2 (hkeys.2.2 x.1 (List.mem_map_of_mem hx) k List.mem_cons_self).symm

/-- The entries of an object with distinct keys. -/
theorem perm_entries {m : List (String × Json)} (hkeys : (m.map Prod.fst).Nodup) :
    (Json.obj m).entries.Perm m := by
  refine (List.perm_ext_iff_of_nodup ?_ (List.Nodup.of_map _ hkeys)).2 fun ⟨k, c⟩ ↦ ?_
  · exact List.Nodup.of_map _ (Json.nodup_keys_entries _)
  · rw [Json.mem_entries]
    exact lookup_eq_some_iff_mem hkeys

end Listing

/-! ### How a device shows what the pages read -/

namespace Json

/-- A multi-value node is a string when it holds one value and an array when it holds several. -/
def strList (v : Json) (key : String) : List String :=
  match v.get key with
  | some (.str s) => [s]
  | some (.arr l) => l.filterMap asStr
  | _ => []

/-- `str_list`, sorted for stable display. -/
def sortedList (v : Json) (key : String) : List String := (v.strList key).insertionSort (· ≤ ·)

/-- Sorted keys of a tag node. -/
def nodeKeys (v : Json) (key : String) : List String :=
  ((v.idx key).entries.map Prod.fst).insertionSort (· ≤ ·)

/-- `get(key).is_some()`, for valueless nodes and for branches. -/
def has (v : Json) (key : String) : Bool := (v.get key).isSome

/-- The leaf `key` is absent, or holds a text without blanks around it. -/
def ShowsText (v : Json) (key : String) (o : Option String) : Prop :=
  v.get key = o.map str ∧ ∀ s, o = some s → trim s = s ∧ s ≠ ""

/-- One of the leaves holds the text, and the others are absent. -/
def ShowsOneOf (v : Json) (keys : List String) (o : Option String) : Prop :=
  ∃ key ∈ keys, v.ShowsText key o ∧ ∀ k ∈ keys, k ≠ key → v.get k = none

/-- The leaf `key` holds these values: one alone, or a list. -/
inductive ShowsTexts (v : Json) (key : String) : List String → Prop
  | none : v.get key = none → ShowsTexts v key []
  | one (s : String) : v.get key = some (.str s) → ShowsTexts v key [s]
  | many (l : List String) : v.get key = some (.arr (l.map .str)) → ShowsTexts v key l

/-- The tag node `key` has these rows, in any order. -/
inductive ShowsRows (name : α → String) (shows : α → Json → Prop) (v : Json) (key : String) :
    List α → Prop
  | none : v.get key = none → ShowsRows name shows v key []
  | some (m : List (String × Json)) (rows : List α) : v.get key = some (.obj m) →
      (m.map Prod.fst).Nodup → List.Forall₂ (fun x a ↦ name a = x.1 ∧ shows a x.2) m rows →
      ShowsRows name shows v key rows

section Shows

variable {v : Json} {key : String}

theorem childStr_of_showsText {o : Option String} (h : v.ShowsText key o) :
    v.childStr key = o := by
  obtain ⟨hget, htext⟩ := h
  rw [childStr, hget]
  cases o with
  | none => rfl
  | some s =>
    obtain ⟨htrim, hne⟩ := htext s rfl
    show trimmed (some s) = some s
    rw [trimmed_some, htrim, if_neg hne]

theorem childStr_of_get (h : v.get key = none) : v.childStr key = none := by
  rw [childStr, h]
  rfl

theorem findSome_of_showsOneOf {keys : List String} {o : Option String}
    (h : v.ShowsOneOf keys o) : keys.findSome? v.childStr = o := by
  obtain ⟨key, hkey, htext, hothers⟩ := h
  have hother : ∀ k ∈ keys, k ≠ key → v.childStr k = none :=
    fun k hk hne ↦ childStr_of_get (hothers k hk hne)
  have hone := childStr_of_showsText htext
  cases o with
  | none =>
    refine List.findSome?_eq_none_iff.2 fun k hk ↦ ?_
    by_cases hne : k = key
    · rw [hne, hone]
    · exact hother k hk hne
  | some s =>
    obtain ⟨l₁, l₂, rfl⟩ := List.append_of_mem hkey
    clear hkey htext hothers
    induction l₁ with
    | nil => rw [List.nil_append, List.findSome?_cons, hone]
    | cons k l₁ ih =>
      rw [List.cons_append, List.findSome?_cons]
      by_cases hne : k = key
      · rw [hne, hone]
      · rw [hother k List.mem_cons_self hne]
        exact ih fun k' hk' ↦ hother k' (List.mem_cons_of_mem k hk')

/-- The source reads one leaf after the other. -/
theorem findSome_cons_childStr (v : Json) (k : String) (keys : List String) :
    (k :: keys).findSome? v.childStr = (v.childStr k).or (keys.findSome? v.childStr) := by
  rw [List.findSome?_cons]
  cases v.childStr k <;> rfl

theorem strList_of_showsTexts {l : List String} (h : v.ShowsTexts key l) : v.strList key = l := by
  cases h with
  | none hget => rw [strList, hget]
  | one s hget => rw [strList, hget]
  | many _ hget =>
    rw [strList, hget]
    show (l.map str).filterMap asStr = l
    rw [List.filterMap_map]
    exact List.filterMap_some

end Shows

end Json

/-- **A listing gives back what the device shows**, sorted by name. -/
theorem listing_of_showsRows {name : α → String} {shows : α → Json → Prop} {v : Json}
    {key : String} {rows : List α} {row : String → Json → β} {name' : β → String} {f : α → β}
    (h : v.ShowsRows name shows key rows) (hname : ∀ k c, name' (row k c) = k)
    (hrow : ∀ a ∈ rows, ∀ c, shows a c → row (name a) c = f a) :
    listing name' row (v.idx key) = arrange name' (rows.map f) := by
  cases h with
  | none hget =>
    rw [Json.idx, hget]
    rfl
  | some m _ hget hkeys hrows =>
    have hmap : (m.map fun x ↦ row x.1 x.2) = rows.map f := by
      clear hkeys hget
      induction hrows with
      | nil => rfl
      | @cons x a m rows hx _ ih =>
        obtain ⟨hk, hshows⟩ := hx
        rw [List.map_cons, List.map_cons, ih fun b hb ↦ hrow b (List.mem_cons_of_mem a hb), ← hk,
          hrow a List.mem_cons_self x.2 hshows]
    rw [Json.idx, hget, ← hmap]
    refine arrange_eq_of_perm ?_ ((perm_entries hkeys).map _)
    rw [List.map_map, List.map_congr_left fun x _ ↦ hname x.1 x.2]
    exact Json.nodup_keys_entries _

theorem listing_of_shows {name : α → String} {shows : α → Json → Prop} {v : Json} {key : String}
    {rows : List α} {row : String → Json → α} (h : v.ShowsRows name shows key rows)
    (hname : ∀ k c, name (row k c) = k) (hrow : ∀ a ∈ rows, ∀ c, shows a c → row (name a) c = a) :
    listing name row (v.idx key) = arrange name rows := by
  rw [listing_of_showsRows (f := id) h hname hrow, List.map_id]

end VyosFabric
