import Mathlib.Data.List.ReduceOption
import VyosFabric.Model.Json
import VyosFabric.Tabular.Lines

/-!
# Interfaces in the texts of `show`

`show interfaces counters` prints one interface a line, with its counters. The parser keeps every
line whose columns two to five are numbers, which gives back just the interfaces and their counters
(`parseInterfaceCounters_eq`).

`show interfaces ethernet` prints a table whose first column has the names. The parser looks at the
first word of a line instead, wherever it stands, so that it reads the names exactly if no other
line starts with a word that looks like one (`parseEthernetNames_eq_iff`).
-/

namespace VyosFabric

open Tabular

/-! ### Counters -/

structure InterfaceStat where
  name : String
  rxBytes : Option ℕ
  rxPackets : Option ℕ
  txBytes : Option ℕ
  txPackets : Option ℕ
  deriving DecidableEq, Repr

/-- `c.replace(',', "")`. -/
def withoutCommas (c : List Char) : List Char := c.filter fun d ↦ d != ','

/-- One line of `parse_interface_counters`. Fewer than five columns are not a row, and neither is a
line of which a column after the first is no number. -/
def counterRow (line : List Char) : Option InterfaceStat :=
  match words isWhitespace line with
  | name :: c₁ :: c₂ :: c₃ :: c₄ :: _ =>
    let num := fun c ↦ parseU64 (String.ofList (withoutCommas c))
    if [c₁, c₂, c₃, c₄].any fun c ↦ (num c).isNone then none
    else
      some
        { name := String.ofList name
          rxPackets := num c₁
          rxBytes := num c₂
          txPackets := num c₃
          txBytes := num c₄ }
  | _ => none

def parseInterfaceCounters (text : String) : List InterfaceStat :=
  (lines text.toList).filterMap counterRow

/-- The counters of an interface. -/
structure Counters where
  name : List Char
  rxPackets : ℕ
  rxBytes : ℕ
  txPackets : ℕ
  txBytes : ℕ
  deriving DecidableEq, Repr

namespace Counters

/-- What the parser should make of them. -/
def stat (i : Counters) : InterfaceStat :=
  { name := String.ofList i.name
    rxPackets := some i.rxPackets
    rxBytes := some i.rxBytes
    txPackets := some i.txPackets
    txBytes := some i.txBytes }

/-- The counters fit into 64 bits. -/
def Fits (i : Counters) : Prop :=
  i.rxPackets < 2 ^ 64 ∧ i.rxBytes < 2 ^ 64 ∧ i.txPackets < 2 ^ 64 ∧ i.txBytes < 2 ^ 64

end Counters

/-- A column that shows a number in decimal, perhaps with commas in it. -/
def IsNumeral (c : List Char) (n : ℕ) : Prop := withoutCommas c = Nat.toDigits 10 n

/-- A line that shows an interface: its name, its counters, and whatever else. -/
def ShowsCounters (i : Counters) (line : List Char) : Prop :=
  ∃ c₁ c₂ c₃ c₄ more, Spaced isWhitespace line (i.name :: c₁ :: c₂ :: c₃ :: c₄ :: more) ∧
    IsNumeral c₁ i.rxPackets ∧ IsNumeral c₂ i.rxBytes ∧ IsNumeral c₃ i.txPackets ∧
    IsNumeral c₄ i.txBytes

/-- A column of digits and commas, perhaps with a sign. -/
def IsNumber (c : List Char) : Prop :=
  ∃ ds ≠ [], (∀ d ∈ ds, d.isDigit = true) ∧ (withoutCommas c = ds ∨ withoutCommas c = '+' :: ds)

/-- A line that shows no interface: it has fewer than five columns, or columns two to five are not
all numbers. -/
def ShowsNone (line : List Char) : Prop :=
  (words isWhitespace line).length < 5 ∨
    ∃ c ∈ ((words isWhitespace line).take 5).drop 1, ¬IsNumber c

/-- What a line of the text is there for. -/
def Prints : Option Counters → List Char → Prop
  | some i, line => i.Fits ∧ ShowsCounters i line
  | none, line => ShowsNone line

theorem parseU64_of_isNumeral {c : List Char} {n : ℕ} (h : IsNumeral c n) (hn : n < 2 ^ 64) :
    parseU64 (String.ofList (withoutCommas c)) = some n := by
  have hdigits : ∀ d ∈ Nat.toDigits 10 n, d.isDigit = true := fun d hd ↦
    Nat.isDigit_of_mem_toDigits (by omega) (by omega) hd
  have hempty : (Nat.toDigits 10 n).isEmpty = false := by simp
  have hall : (Nat.toDigits 10 n).all Char.isDigit = true := List.all_eq_true.2 hdigits
  rw [IsNumeral] at h
  rw [h, parseU64, String.toList_ofList]
  split
  · next ds heq => exact absurd (hdigits '+' (heq ▸ List.mem_cons_self)) (by decide)
  · simpa [hempty, hall, Nat.ofDigitChars_ten_toDigits] using hn

/-- What is read as a number consists of digits. -/
theorem isNumber_of_parseU64 {c : List Char} {n : ℕ}
    (h : parseU64 (String.ofList (withoutCommas c)) = some n) : IsNumber c := by
  have hcheck {ds : List Char} (hds : ¬(ds.isEmpty || !ds.all Char.isDigit) = true) :
      ds ≠ [] ∧ ∀ d ∈ ds, d.isDigit = true := by
    simp only [Bool.or_eq_true, Bool.not_eq_true', not_or, List.isEmpty_iff] at hds
    exact ⟨hds.1, List.all_eq_true.1 (by simpa using hds.2)⟩
  simp only [parseU64, String.toList_ofList] at h
  split at h
  · next ds heq =>
    split at h
    · cases h
    · next hds => exact ⟨ds, (hcheck hds).1, (hcheck hds).2, Or.inr heq⟩
  · split at h
    · cases h
    · next hds => exact ⟨_, (hcheck hds).1, (hcheck hds).2, Or.inl rfl⟩

/-- A line that shows an interface is read as that interface. -/
theorem counterRow_of_shows {i : Counters} (hfits : i.Fits) {line : List Char}
    (h : ShowsCounters i line) : counterRow line = some i.stat := by
  obtain ⟨c₁, c₂, c₃, c₄, more, hspaced, h₁, h₂, h₃, h₄⟩ := h
  have hnum₁ := parseU64_of_isNumeral h₁ hfits.1
  have hnum₂ := parseU64_of_isNumeral h₂ hfits.2.1
  have hnum₃ := parseU64_of_isNumeral h₃ hfits.2.2.1
  have hnum₄ := parseU64_of_isNumeral h₄ hfits.2.2.2
  rw [counterRow, words_eq_of_spaced hspaced]
  simp [hnum₁, hnum₂, hnum₃, hnum₄, Counters.stat]

/-- A line that shows none is skipped. -/
theorem counterRow_of_showsNone {line : List Char} (h : ShowsNone line) :
    counterRow line = none := by
  rw [counterRow]
  split
  · next name c₁ c₂ c₃ c₄ more heq =>
    rw [ShowsNone, heq] at h
    rcases h with h | ⟨c, hc, hnumber⟩
    · simp only [List.length_cons] at h
      omega
    · refine if_pos (List.any_eq_true.2 ⟨c, hc, ?_⟩)
      cases hnum : parseU64 (String.ofList (withoutCommas c)) with
      | none => simp [hnum]
      | some n => exact absurd (isNumber_of_parseU64 hnum) hnumber
  · rfl

/-- **Counters are parsed back exactly**: of a text whose lines show interfaces or none, just the
interfaces are read, in order, each counter as its own. -/
theorem parseInterfaceCounters_eq (items : List (Option Counters)) (text : String)
    (h : List.Forall₂ Prints items (lines text.toList)) :
    parseInterfaceCounters text = items.reduceOption.map Counters.stat := by
  rw [parseInterfaceCounters]
  generalize lines text.toList = printed at h
  induction h with
  | nil => rfl
  | @cons item line items _ hprints _ ih =>
    cases item with
    | none => rw [List.filterMap_cons_none (counterRow_of_showsNone hprints), ih,
        List.reduceOption_cons_of_none]
    | some i => rw [List.filterMap_cons_some (counterRow_of_shows hprints.1 hprints.2), ih,
        List.reduceOption_cons_of_some, List.map_cons]

/-- A text with a line above the table. -/
theorem parseInterfaceCounters_eth0 :
    parseInterfaceCounters "Interface counters\neth0  1,234 56  7 8\n" =
      [Counters.stat ⟨"eth0".toList, 1234, 56, 7, 8⟩] := by
  refine parseInterfaceCounters_eq [none, some ⟨"eth0".toList, 1234, 56, 7, 8⟩] _
    (.cons ?_ (.cons ?_ .nil))
  · exact .inl (by decide)
  · refine ⟨⟨by decide, by decide, by decide, by decide⟩, "1,234".toList, "56".toList, "7".toList,
      "8".toList, [], ?_,
      ?_, ?_, ?_, ?_⟩
    · exact spaced_iff.2 (by decide)
    all_goals
      unfold IsNumeral
      decide

/-! ### Names -/

/-- `starts_with("---")`, with the blanks before it dropped. -/
def isDashed (line : List Char) : Bool :=
  "---".toList.isPrefixOf (line.dropWhile isWhitespace)

/-- No sub-interface, and `is_ascii_alphabetic` of the first character. -/
def looksLikeNic (tok : List Char) : Bool :=
  !tok.contains '.' && tok.head?.any Char.isAlpha

/-- What a line of the table is read as. -/
def nicOf (line : List Char) : Option (List Char) :=
  (words isWhitespace (line.dropWhile isWhitespace)).head?.filter looksLikeNic

/-- The loop of `parse_ethernet_names`, with its flag `in_table`. -/
def scanNames : Bool → List (List Char) → List (List Char)
  | _, [] => []
  | false, line :: ls => scanNames (isDashed line) ls
  | true, line :: ls => (nicOf line).toList ++ scanNames true ls

def parseEthernetNames (text : String) : List String :=
  (scanNames false (lines text.toList)).map String.ofList

/-- What stands in the first column of a line: nothing, in a row that continues another. -/
def firstColumn (line : List Char) : List Char := line.takeWhile fun c ↦ !isWhitespace c

/-- The names of the interfaces in a table that are no sub-interfaces. -/
def firstColumnNames (table : List (List Char)) : List (List Char) :=
  (table.map firstColumn).filter looksLikeNic

/-- A line that starts with something else, the first word of which looks like a name. -/
def Misleading (line : List Char) : Prop := firstColumn line = [] ∧ nicOf line ≠ none

theorem nicOf_of_firstColumn {line : List Char} (h : firstColumn line ≠ []) :
    nicOf line = if looksLikeNic (firstColumn line) then some (firstColumn line) else none := by
  cases line with
  | nil => exact absurd rfl h
  | cons c cs =>
    have hc : isWhitespace c = false := by
      by_contra hblank
      exact h (List.takeWhile_cons_of_neg (by simpa using hblank))
    rw [nicOf, List.dropWhile_cons_of_neg (by simp [hc]), words_cons hc]
    exact Option.filter_some

/-- A dashed line shows no name. -/
theorem nicOf_of_isDashed {line : List Char} (h : isDashed line = true) : nicOf line = none := by
  obtain ⟨rest, hrest⟩ := List.isPrefixOf_iff_prefix.1 h
  have hfirst : line.dropWhile isWhitespace = '-' :: ("--".toList ++ rest) := hrest.symm
  rw [nicOf, hfirst, words_cons (by decide), List.takeWhile_cons_of_pos (by decide)]
  exact if_neg (by simp [looksLikeNic])

theorem scanNames_true (ls : List (List Char)) : scanNames true ls = ls.filterMap nicOf := by
  induction ls with
  | nil => rfl
  | cons line ls ih =>
    rw [scanNames, ih]
    cases hnic : nicOf line with
    | none => rw [List.filterMap_cons_none hnic]; rfl
    | some name => rw [List.filterMap_cons_some hnic]; rfl

/-- The lines that follow the first dashed line of the preamble. -/
def afterDashes (pre : List (List Char)) : List (List Char) :=
  (pre.dropWhile fun line ↦ !isDashed line).tail

/-- The scan reads all lines after the first dashed one. -/
theorem scanNames_false {sep : List Char} (hsep : isDashed sep = true)
    (pre table : List (List Char)) :
    scanNames false (pre ++ sep :: table) =
      (afterDashes pre).filterMap nicOf ++ table.filterMap nicOf := by
  induction pre with
  | nil => rw [List.nil_append, scanNames, hsep, scanNames_true]; rfl
  | cons line pre ih =>
    rw [List.cons_append, scanNames]
    cases hdashed : isDashed line with
    | false =>
      rw [ih, afterDashes, afterDashes, List.dropWhile_cons_of_pos (by simpa using hdashed)]
    | true =>
      rw [scanNames_true, List.filterMap_append, List.filterMap_cons_none (nicOf_of_isDashed hsep),
        afterDashes, List.dropWhile_cons_of_neg (by simpa using hdashed)]
      rfl

section FilterMap

variable {α β : Type} {f e : α → Option β} {l : List α}

theorem length_filterMap_le (h : ∀ a, e a = f a ∨ e a = none) :
    (l.filterMap e).length ≤ (l.filterMap f).length := by
  induction l with
  | nil => exact le_refl _
  | cons a l ih =>
    cases he : e a with
    | none =>
      rw [List.filterMap_cons_none he]
      exact ih.trans ((List.sublist_cons_self a l).filterMap f).length_le
    | some b =>
      have hf : f a = some b := ((h a).resolve_right (by simp [he])).symm.trans he
      rw [List.filterMap_cons_some he, List.filterMap_cons_some hf]
      exact Nat.succ_le_succ ih

/-- Leaving some results out shows, unless there are none. -/
theorem filterMap_eq_iff (h : ∀ a, e a = f a ∨ e a = none) :
    l.filterMap f = l.filterMap e ↔ ∀ a ∈ l, f a = e a := by
  refine ⟨fun heq ↦ ?_, fun hall ↦ List.filterMap_congr hall⟩
  induction l with
  | nil => exact fun a ha ↦ absurd ha List.not_mem_nil
  | cons a l ih =>
    rw [List.forall_mem_cons]
    cases hf : f a with
    | none =>
      have he : e a = none := by
        rcases h a with he | he
        · exact he.trans hf
        · exact he
      rw [List.filterMap_cons_none hf, List.filterMap_cons_none he] at heq
      exact ⟨he.symm, ih heq⟩
    | some b =>
      rcases h a with he | he
      · rw [List.filterMap_cons_some hf, List.filterMap_cons_some (he.trans hf)] at heq
        exact ⟨(he.trans hf).symm, ih (List.cons.inj heq).2⟩
      · have hle := @length_filterMap_le _ _ _ _ l h
        rw [List.filterMap_cons_some hf, List.filterMap_cons_none he] at heq
        exact absurd (congrArg List.length heq) (by simp only [List.length_cons]; omega)

end FilterMap

/-- What the first column of a line says. -/
def nameOf (line : List Char) : Option (List Char) :=
  if looksLikeNic (firstColumn line) then some (firstColumn line) else none

theorem firstColumnNames_eq (table : List (List Char)) :
    firstColumnNames table = table.filterMap nameOf := by
  rw [firstColumnNames, List.filter_map, ← List.filterMap_eq_filter, List.map_filterMap]
  refine List.filterMap_congr fun line _ ↦ ?_
  simp only [nameOf, Option.guard, Function.comp]
  split <;> rfl

theorem nameOf_eq (line : List Char) : nameOf line = nicOf line ∨ nameOf line = none := by
  by_cases h : firstColumn line = []
  · refine .inr ?_
    rw [nameOf, h]
    rfl
  · exact .inl (nicOf_of_firstColumn h).symm

theorem nicOf_eq_nameOf_iff (line : List Char) : nicOf line = nameOf line ↔ ¬Misleading line := by
  by_cases h : firstColumn line = []
  · have hnone : nameOf line = none := by
      rw [nameOf, h]
      rfl
    rw [hnone, Misleading]
    tauto
  · exact iff_of_true (nicOf_of_firstColumn h) fun hmis ↦ h hmis.1

/-- **The names of the first column are read** exactly if no other line of the table starts with a
word that looks like a name, and no line of the preamble after a first line of dashes does. -/
theorem parseEthernetNames_eq_iff (text : String) (pre table : List (List Char)) (sep : List Char)
    (hlines : lines text.toList = pre ++ sep :: table) (hsep : isDashed sep = true) :
    parseEthernetNames text = (firstColumnNames table).map String.ofList ↔
      (∀ line ∈ table, ¬Misleading line) ∧ ∀ line ∈ afterDashes pre, nicOf line = none := by
  have hinj : Function.Injective String.ofList := fun a b h ↦ by
    simpa using congrArg String.toList h
  rw [parseEthernetNames, hlines, scanNames_false hsep, (List.map_injective_iff.2 hinj).eq_iff,
    firstColumnNames_eq]
  constructor
  · intro heq
    -- nothing can come before, since nothing is missing of the table
    have hle := @length_filterMap_le _ _ _ _ table nameOf_eq
    have hlen := congrArg List.length heq
    rw [List.length_append] at hlen
    have hnil : (afterDashes pre).filterMap nicOf = [] :=
      List.length_eq_zero_iff.1 (by omega)
    rw [hnil, List.nil_append, filterMap_eq_iff nameOf_eq] at heq
    exact ⟨fun line hline ↦ (nicOf_eq_nameOf_iff line).1 (heq line hline),
      List.filterMap_eq_nil_iff.1 hnil⟩
  · rintro ⟨htable, hpre⟩
    rw [List.filterMap_eq_nil_iff.2 hpre, List.nil_append]
    exact List.filterMap_congr fun line hline ↦ (nicOf_eq_nameOf_iff line).2 (htable line hline)

/-- A table with a second IPv4 address. -/
theorem parseEthernetNames_eth0 :
    parseEthernetNames "Interface  IP Address\n---------  ----------\neth0  192.0.2.1/24\n     10.0.0.1/8\n" =
      ["eth0"] := by
  refine (parseEthernetNames_eq_iff _ ["Interface  IP Address".toList]
    ["eth0  192.0.2.1/24".toList, "     10.0.0.1/8".toList] "---------  ----------".toList (by decide)
    (by decide)).2 ⟨?_, by decide⟩
  simp only [List.forall_mem_cons, Misleading]
  decide

/-- A link-local address in a row that continues another. -/
theorem not_parseEthernetNames_eq :
    ¬∀ (text : String) (pre table : List (List Char)) (sep : List Char),
      lines text.toList = pre ++ sep :: table → isDashed sep = true →
      (∀ line ∈ table, words isWhitespace line ≠ []) →
      parseEthernetNames text = (firstColumnNames table).map String.ofList := by
  intro h
  have hread := h "Interface  IP Address\n---------  ----------\neth0  192.0.2.1/24\n     fe80::1/64\n"
    ["Interface  IP Address".toList] ["eth0  192.0.2.1/24".toList, "     fe80::1/64".toList]
    "---------  ----------".toList (by decide) (by decide) (by decide)
  exact absurd hread (by decide)

end VyosFabric
