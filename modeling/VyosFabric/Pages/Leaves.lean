import VyosFabric.Diff.Interfaces
import VyosFabric.Formats.Format
import VyosFabric.Pages.Listing

/-!
# The formats of a config

How a device shows a leaf, a leaf with several values, a valueless node and a tag node, each with
the reader of the pages that takes it back. What the pages show sorted is held by a config in any
order.
-/

namespace VyosFabric

open Formats

/-- A value in a config. -/
abbrev ConfigFormat (α : Type) : Type := Format Json α

namespace ConfigFormat

/-- A number of 32 bits. -/
theorem asI32_eq_self {n : Int} (hge : -2 ^ 31 ≤ n) (hlt : n < 2 ^ 31) : asI32 n = n := by
  rw [asI32, Int.bmod_def]
  split <;> omega

/-! ### Leaves -/

/-- `child_str`. -/
def text (key : String) : ConfigFormat (Option String) where
  read v := v.childStr key
  Holds v o := v.ShowsText key o
  read_eq h := Json.childStr_of_showsText h

/-- `nested_str`. -/
def nested (parent child : String) : ConfigFormat (Option String) where
  read v := v.nestedStr parent child
  Holds v o := (∃ p, v.get parent = some p ∧ p.ShowsText child o) ∨ v.get parent = none ∧ o = none
  read_eq {v o} h := by
    rcases h with ⟨p, hget, htext⟩ | ⟨hget, rfl⟩
    · rw [Json.nestedStr, hget]
      exact Json.childStr_of_showsText htext
    · rw [Json.nestedStr, hget]
      rfl

/-- `str_list`. -/
def texts (key : String) : ConfigFormat (List String) where
  read v := v.strList key
  Holds v l := v.ShowsTexts key l
  read_eq h := Json.strList_of_showsTexts h

/-- `sorted_list`. -/
def sortedTexts (key : String) : ConfigFormat (List String) where
  read v := v.sortedList key
  Holds v l := ∃ shown, v.ShowsTexts key shown ∧ l = shown.insertionSort (· ≤ ·)
  read_eq {v l} h := by
    obtain ⟨shown, htexts, rfl⟩ := h
    rw [Json.sortedList, Json.strList_of_showsTexts htexts]

/-- `get(key).is_some()`. -/
def flag (key : String) : ConfigFormat Bool where
  read v := v.has key
  Holds v b := v.has key = b
  read_eq h := h

/-- `is_enabled`. -/
def enabled : ConfigFormat Bool where
  read v := v.isEnabled
  Holds v b := v.has "disable" = !b
  read_eq {v b} h := by
    rw [Json.isEnabled, ← Option.not_isSome, ← Json.has, h, Bool.not_not]

/-- `as_mtu`: a text or a number. -/
def mtu : ConfigFormat (Option Int) where
  read := asMtu
  Holds v o := v.get "mtu" = none ∧ o = none ∨
    ∃ n, o = some n ∧ -2 ^ 31 ≤ n ∧ n < 2 ^ 31 ∧
      (v.get "mtu" = some (.str n.repr) ∨ v.get "mtu" = some (.int n))
  read_eq {v o} h := by
    rcases h with ⟨hget, rfl⟩ | ⟨n, rfl, hge, hlt, hget | hget⟩
    · rw [asMtu, hget]
    · rw [asMtu, hget]
      show parseI32 (trim n.repr) = some n
      rw [trim_repr, parseI32_repr hge hlt]
    · rw [asMtu, hget]
      show (Json.asI64 (.int n)).map asI32 = some n
      rw [Json.asI64, if_pos (by omega), Option.map_some, asI32_eq_self hge hlt]

/-- `as_addresses`. -/
def addresses : ConfigFormat (List String) where
  read := asAddresses
  Holds v l := v.ShowsTexts "address" l
  read_eq {v l} h := by
    rw [← Json.strList_of_showsTexts h]
    rfl

/-! ### Tag nodes -/

/-- The keys of an object, sorted. -/
def keys : ConfigFormat (List String) where
  read v := (v.entries.map Prod.fst).insertionSort (· ≤ ·)
  Holds v l := ∃ m : List (String × Json), v = .obj m ∧ (m.map Prod.fst).Nodup ∧
    l = (m.map Prod.fst).insertionSort (· ≤ ·)
  read_eq {v l} h := by
    obtain ⟨m, rfl, hkeys, rfl⟩ := h
    show arrange id ((Json.obj m).entries.map Prod.fst) = arrange id (m.map Prod.fst)
    refine arrange_eq_of_perm ?_ ((perm_entries hkeys).map _)
    rw [List.map_id]
    exact Json.nodup_keys_entries _

/-- How many keys an object has, narrowed to 32 bits. -/
def count : ConfigFormat Int where
  read v := asI32 (v.entries.length : Int)
  Holds v n := ∃ m : List (String × Json), v = .obj m ∧ (m.map Prod.fst).Nodup ∧
    m.length < 2 ^ 31 ∧ n = m.length
  read_eq {v n} h := by
    obtain ⟨m, rfl, hkeys, hlt, rfl⟩ := h
    rw [(perm_entries hkeys).length_eq, (asI32_natCast_eq_iff m.length).2 hlt]

/-- `node_keys`. -/
def nodeKeys (key : String) : ConfigFormat (List String) where
  read v := v.nodeKeys key
  Holds v l := (∃ node, v.get key = some node ∧ keys.Holds node l) ∨ v.get key = none ∧ l = []
  read_eq {v l} h := by
    rcases h with ⟨node, hget, hkeys⟩ | ⟨hget, rfl⟩
    · rw [Json.nodeKeys, Json.idx, hget]
      exact keys.read_eq hkeys
    · rw [Json.nodeKeys, Json.idx, hget]
      rfl

/-- The rows of a tag node, sorted by name. -/
def rows {α : Type} (key : String) (name : α → String) (row : String → ConfigFormat α)
    (hname : ∀ k c, name ((row k).read c) = k) : ConfigFormat (List α) where
  read v := listing name (fun k c ↦ (row k).read c) (v.idx key)
  Holds v l := ∃ shown, v.ShowsRows name (fun a c ↦ (row (name a)).Holds c a) key shown ∧
    l = arrange name shown
  read_eq {v l} h := by
    obtain ⟨shown, hrows, rfl⟩ := h
    exact listing_of_shows hrows hname fun a _ c hc ↦ (row (name a)).read_eq hc

end ConfigFormat

end VyosFabric
