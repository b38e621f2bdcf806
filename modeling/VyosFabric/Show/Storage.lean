import Mathlib.Data.Rat.Floor
import VyosFabric.Model.Text
import VyosFabric.Tabular.Lines

/-!
# The blocks of `show system storage`

Each filesystem is a block of `Key: value` lines (`HasKey`) that starts with its `Filesystem` line
(`isHeader_iff`). The parser fills one mount after the other as it goes along, so its mounts are
those of the blocks, each on its own (`exists_blocks`), and texts that start a block can be put
after any others (`parseStorage_append`).

Sizes and percentages go through floating point, of which no more is assumed than that it reads a
numeral and rounds a product (`Floats`).
-/

namespace VyosFabric

open Tabular

/-- `f64`, as far as it is used: `parse::<f64>`, and `(num * mult) as u64`. -/
structure Floats (F : Type) where
  parse : String → Option F
  scaled : F → ℕ → ℕ

variable {F : Type} (fl : Floats F)

/-! ### Values -/

/-- `parse_size`. -/
def parseSize (s : String) : Option ℕ :=
  let s := (trim s).toList
  let isNumeric := fun c : Char ↦ c.isDigit || c == '.'
  let num := s.takeWhile isNumeric
  let unit := (trim (String.ofList (s.dropWhile isNumeric))).toList
  if num.isEmpty then none
  else
    let mult := match unit.head?.map Char.toUpper with
      | some 'K' => 1024
      | some 'M' => 1024 ^ 2
      | some 'G' => 1024 ^ 3
      | some 'T' => 1024 ^ 4
      | _ => 1
    (fl.parse (String.ofList num)).map fun x ↦ fl.scaled x mult

/-- `split_once`. -/
def splitOnce (sep : Char) (s : List Char) : Option (List Char × List Char) :=
  if s.contains sep then
    some (s.takeWhile fun c ↦ c != sep, (s.dropWhile fun c ↦ c != sep).tail)
  else none

theorem splitOnce_append {sep : Char} {k v : List Char} (hk : sep ∉ k) :
    splitOnce sep (k ++ sep :: v) = some (k, v) := by
  have hkept : ∀ c ∈ k, (c != sep) = true := fun c hc ↦ bne_iff_ne.2 (ne_of_mem_of_not_mem hc hk)
  have hsep : (sep != sep) = false := bne_self_eq_false sep
  rw [splitOnce, if_pos (by simp), List.takeWhile_append_of_pos hkept,
    List.dropWhile_append_of_pos hkept, List.takeWhile_cons, List.dropWhile_cons, hsep]
  simp

/-- The first separator counts. -/
theorem splitOnce_eq_some_iff {sep : Char} {s k v : List Char} :
    splitOnce sep s = some (k, v) ↔ s = k ++ sep :: v ∧ sep ∉ k := by
  constructor
  · intro h
    have hmem : sep ∈ s := by
      by_contra hnot
      rw [splitOnce, if_neg (by simpa using hnot)] at h
      cases h
    obtain ⟨k', v', rfl, hk'⟩ := List.eq_append_cons_of_mem hmem
    rw [splitOnce_append hk'] at h
    obtain ⟨rfl, rfl⟩ := Prod.mk.inj (Option.some.inj h)
    exact ⟨rfl, hk'⟩
  · rintro ⟨rfl, hk⟩
    exact splitOnce_append hk

/-- `parse_paren_pct`. -/
def parseParenPct (s : String) : Option F := do
  let (_, inner) ← splitOnce '(' s.toList
  let (pct, _) ← splitOnce '%' inner
  fl.parse (trim (String.ofList pct))

/-! ### Lines -/

structure StorageMount (F : Type) where
  filesystem : String
  sizeBytes : Option ℕ
  usedBytes : Option ℕ
  availBytes : Option ℕ
  usedPct : Option F
  mount : Option String
  deriving DecidableEq, Repr

/-- The key of a line, in lower case, and its value. -/
def keyValue (line : List Char) : Option (String × String) :=
  (splitOnce ':' line).map fun (k, v) ↦
    (String.ofList ((trim (String.ofList k)).toList.map Char.toLower), trim (String.ofList v))

/-- The line is a key, a colon and a value. A key has no colon and may be in any letter case; the
blanks around the two do not count. -/
def HasKey (line : List Char) (key val : String) : Prop :=
  ∃ k v, line = k ++ ':' :: v ∧ ':' ∉ k ∧ (strip isWhitespace k).map Char.toLower = key.toList ∧
    strip isWhitespace v = val.toList

theorem keyValue_eq_some_iff {line : List Char} {key val : String} :
    keyValue line = some (key, val) ↔ HasKey line key val := by
  rw [keyValue, Option.map_eq_some_iff]
  constructor
  · rintro ⟨⟨k, v⟩, hsplit, hkv⟩
    obtain ⟨rfl, rfl⟩ := Prod.mk.inj hkv
    obtain ⟨rfl, hk⟩ := splitOnce_eq_some_iff.1 hsplit
    exact ⟨k, v, rfl, hk, by simp [trim_eq], by simp [trim_eq]⟩
  · rintro ⟨k, v, rfl, hk, hkey, hval⟩
    refine ⟨(k, v), splitOnce_append hk, ?_⟩
    simp [trim_eq, hkey, hval]

/-- A mount of which only the name is known. -/
def StorageMount.named (val : String) : StorageMount F := ⟨val, none, none, none, none, none⟩

/-- What a line says of the mount that is being filled. -/
def StorageMount.fill (m : StorageMount F) (key val : String) : StorageMount F :=
  match key with
  | "size" => { m with sizeBytes := parseSize fl val }
  | "used" => { m with usedBytes := parseSize fl val, usedPct := parseParenPct fl val }
  | "available" | "avail" => { m with availBytes := parseSize fl val }
  | "mounted on" | "mount" => { m with mount := some val }
  | _ => m

/-- One line of `parse_storage`: the mounts that are done, and the one being filled. -/
def storageStep (st : List (StorageMount F) × Option (StorageMount F)) (line : List Char) :
    List (StorageMount F) × Option (StorageMount F) :=
  match keyValue line with
  | none => st
  | some (key, val) =>
    if key = "filesystem" then (st.1 ++ st.2.toList, some (.named val))
    else (st.1, st.2.map fun m ↦ m.fill fl key val)

/-- The mounts at the end, the last one included. -/
def flushed (st : List (StorageMount F) × Option (StorageMount F)) : List (StorageMount F) :=
  st.1 ++ st.2.toList

/-- The mounts of some lines. -/
def storageOf (ls : List (List Char)) : List (StorageMount F) :=
  flushed (ls.foldl (storageStep fl) ([], none))

def parseStorage : Option String → List (StorageMount F)
  | none => []
  | some text => storageOf fl (lines text.toList)

/-! ### One text after the other -/

/-- The line starts a block. -/
def isHeader (line : List Char) : Bool := (keyValue line).any fun kv ↦ kv.1 == "filesystem"

/-- The line has a colon, and before the first one it says `Filesystem`, in any letter case. -/
theorem isHeader_iff {line : List Char} :
    isHeader line = true ↔ ∃ val, HasKey line "filesystem" val := by
  simp only [isHeader, Option.any_eq_true, beq_iff_eq, ← keyValue_eq_some_iff, Prod.exists]
  constructor
  · rintro ⟨_, val, hkv, rfl⟩
    exact ⟨val, hkv⟩
  · rintro ⟨val, hkv⟩
    exact ⟨_, val, hkv, rfl⟩

/-- The first line with a colon, if there is one, starts a block. -/
def startsBlock (ls : List (List Char)) : Bool :=
  (ls.find? fun line ↦ (keyValue line).isSome).all isHeader

section Fold

variable {fl} {out done : List (StorageMount F)} {cur : Option (StorageMount F)} {line : List Char}
  {ls : List (List Char)}

theorem storageStep_of_none (h : keyValue line = none) :
    storageStep fl (out, cur) line = (out, cur) := by
  rw [storageStep, h]

theorem storageStep_of_header {val : String} (h : keyValue line = some ("filesystem", val)) :
    storageStep fl (out, cur) line = (out ++ cur.toList, some (.named val)) := by
  rw [storageStep, h]
  rfl

theorem storageStep_of_field {key val : String} (h : keyValue line = some (key, val))
    (hkey : key ≠ "filesystem") :
    storageStep fl (out, cur) line = (out, cur.map fun m ↦ m.fill fl key val) := by
  rw [storageStep, h]
  exact if_neg hkey

/-- The mounts that are done stay in front. -/
theorem storageStep_append :
    storageStep fl (done ++ out, cur) line =
      (done ++ (storageStep fl (out, cur) line).1, (storageStep fl (out, cur) line).2) := by
  cases h : keyValue line with
  | none => rw [storageStep_of_none h, storageStep_of_none h]
  | some kv =>
    obtain ⟨key, val⟩ := kv
    by_cases hkey : key = "filesystem"
    · subst hkey
      rw [storageStep_of_header h, storageStep_of_header h, List.append_assoc]
    · rw [storageStep_of_field h hkey, storageStep_of_field h hkey]

theorem flushed_foldl_append (st : List (StorageMount F) × Option (StorageMount F)) :
    flushed (ls.foldl (storageStep fl) (done ++ st.1, st.2)) =
      done ++ flushed (ls.foldl (storageStep fl) st) := by
  induction ls generalizing st with
  | nil => exact List.append_assoc _ _ _
  | cons line ls ih =>
    rw [List.foldl_cons, List.foldl_cons, storageStep_append]
    exact ih (storageStep fl st line)

/-- **What starts a block** is parsed on its own, whatever was being filled. -/
theorem flushed_foldl_of_startsBlock (h : startsBlock ls = true) :
    flushed (ls.foldl (storageStep fl) (out, cur)) = flushed (out, cur) ++ storageOf fl ls := by
  induction ls with
  | nil => exact (List.append_nil _).symm
  | cons line ls ih =>
    rw [storageOf, List.foldl_cons, List.foldl_cons]
    cases hkv : keyValue line with
    | none =>
      rw [storageStep_of_none hkv, storageStep_of_none hkv]
      refine ih ?_
      rwa [startsBlock, List.find?_cons_of_neg (by simp [hkv])] at h
    | some kv =>
      obtain ⟨key, val⟩ := kv
      have hkey : key = "filesystem" := by
        rw [startsBlock, List.find?_cons_of_pos (by simp [hkv])] at h
        simpa [isHeader, hkv] using h
      subst hkey
      rw [storageStep_of_header hkv, storageStep_of_header hkv]
      -- the mount that was being filled is done, and the fold goes on behind it
      have hbehind := @flushed_foldl_append F fl (out ++ cur.toList) ls ([], some (.named val))
      rwa [List.append_nil] at hbehind

end Fold

theorem storageOf_append (a b : List (List Char)) (hb : startsBlock b = true) :
    storageOf fl (a ++ b) = storageOf fl a ++ storageOf fl b := by
  rw [storageOf, List.foldl_append]
  exact flushed_foldl_of_startsBlock hb

/-- Of texts, where the first ends its last line. -/
theorem parseStorage_append (a b : String) (ha : Terminated a.toList)
    (hb : startsBlock (lines b.toList) = true) :
    parseStorage fl (some (a ++ b)) = parseStorage fl (some a) ++ parseStorage fl (some b) := by
  rw [parseStorage, String.toList_append, lines_append ha]
  exact storageOf_append fl _ _ hb

/-! ### Blocks -/

/-- A line that starts a block, and those up to the next such line. -/
structure Block where
  header : List Char
  body : List (List Char)
  isHeader_header : isHeader header = true
  not_isHeader : ∀ line ∈ body, isHeader line = false

namespace Block

def lines (b : Block) : List (List Char) := b.header :: b.body

/-- What a line of the body says of the mount. -/
def fillLine (m : StorageMount F) (line : List Char) : StorageMount F :=
  match keyValue line with
  | none => m
  | some (key, val) => m.fill fl key val

/-- The mount of a block, from its own lines. -/
def mount (b : Block) : StorageMount F :=
  b.body.foldl (fillLine fl) (.named (((keyValue b.header).map Prod.snd).getD ""))

end Block

section Blocks

variable {fl} {ls : List (List Char)}

theorem keyValue_of_isHeader {line : List Char} (h : isHeader line = true) :
    ∃ val, keyValue line = some ("filesystem", val) := by
  obtain ⟨val, hkey⟩ := isHeader_iff.1 h
  exact ⟨val, keyValue_eq_some_iff.2 hkey⟩

theorem ne_of_isHeader_eq_false {line : List Char} (h : isHeader line = false) {key val : String}
    (hkv : keyValue line = some (key, val)) : key ≠ "filesystem" := by
  rintro rfl
  rw [isHeader, hkv] at h
  cases h

/-- Lines of a body fill the mount. -/
theorem foldl_storageStep_body (h : ∀ line ∈ ls, isHeader line = false)
    (cur : Option (StorageMount F)) :
    ls.foldl (storageStep fl) ([], cur) = ([], cur.map fun m ↦ ls.foldl (Block.fillLine fl) m) := by
  induction ls generalizing cur with
  | nil => rw [List.foldl_nil]; simp
  | cons line ls ih =>
    obtain ⟨hline, hrest⟩ := List.forall_mem_cons.1 h
    cases hkv : keyValue line with
    | none =>
      rw [List.foldl_cons, storageStep_of_none hkv, ih hrest]
      simp [Block.fillLine, hkv]
    | some kv =>
      have hkey := ne_of_isHeader_eq_false hline hkv
      rw [List.foldl_cons, storageStep_of_field hkv hkey, ih hrest, Option.map_map]
      simp [Block.fillLine, hkv, Function.comp_def]

theorem storageOf_block (b : Block) : storageOf fl b.lines = [b.mount fl] := by
  obtain ⟨val, hval⟩ := keyValue_of_isHeader b.isHeader_header
  rw [storageOf, Block.lines, List.foldl_cons, storageStep_of_header hval, Option.toList_none,
    List.append_nil, foldl_storageStep_body b.not_isHeader, Block.mount, hval]
  rfl

theorem startsBlock_flatMap (blocks : List Block) :
    startsBlock (blocks.flatMap Block.lines) = true := by
  cases blocks with
  | nil => rfl
  | cons b blocks =>
    obtain ⟨val, hval⟩ := keyValue_of_isHeader b.isHeader_header
    rw [List.flatMap_cons, Block.lines, List.cons_append, startsBlock,
      List.find?_cons_of_pos (by simp [hval])]
    exact b.isHeader_header

/-- **The mounts are those of the blocks**, in order, and what comes before is ignored. -/
theorem storageOf_blocks {pre : List (List Char)} (hpre : ∀ line ∈ pre, isHeader line = false)
    (blocks : List Block) :
    storageOf fl (pre ++ blocks.flatMap Block.lines) = blocks.map (Block.mount fl) := by
  have hignored : storageOf fl pre = [] := by
    rw [storageOf, foldl_storageStep_body hpre]
    rfl
  rw [storageOf_append fl _ _ (startsBlock_flatMap blocks), hignored, List.nil_append]
  induction blocks with
  | nil => rfl
  | cons b blocks ih =>
    rw [List.flatMap_cons, storageOf_append fl _ _ (startsBlock_flatMap blocks), storageOf_block,
      ih]
    rfl

/-- Any lines are some that are ignored and then blocks. -/
theorem exists_blocks (ls : List (List Char)) :
    ∃ (pre : List (List Char)) (blocks : List Block), (∀ line ∈ pre, isHeader line = false) ∧
      ls = pre ++ blocks.flatMap Block.lines := by
  induction ls with
  | nil => exact ⟨[], [], fun _ h ↦ absurd h List.not_mem_nil, rfl⟩
  | cons line ls ih =>
    obtain ⟨pre, blocks, hpre, rfl⟩ := ih
    cases hline : isHeader line with
    | false => exact ⟨line :: pre, blocks, List.forall_mem_cons.2 ⟨hline, hpre⟩, rfl⟩
    | true =>
      exact ⟨[], ⟨line, pre, hline, hpre⟩ :: blocks, fun _ h ↦ absurd h List.not_mem_nil, rfl⟩

end Blocks

/-- **Storage blocks parse independently**: a text that starts a block can be put behind any other,
and whatever the text, its mounts are those of its blocks, each filled from its own lines. -/
theorem parseStorage_independent :
    (∀ a b : List (List Char), startsBlock b = true →
      storageOf fl (a ++ b) = storageOf fl a ++ storageOf fl b) ∧
    (∀ a b : String, Terminated a.toList → startsBlock (lines b.toList) = true →
      parseStorage fl (some (a ++ b)) = parseStorage fl (some a) ++ parseStorage fl (some b)) ∧
    ∀ text : String, ∃ (pre : List (List Char)) (blocks : List Block),
      (∀ line ∈ pre, isHeader line = false) ∧
      lines text.toList = pre ++ blocks.flatMap Block.lines ∧
      parseStorage fl (some text) = blocks.map (Block.mount fl) := by
  refine ⟨storageOf_append fl, parseStorage_append fl, fun text ↦ ?_⟩
  obtain ⟨pre, blocks, hpre, hlines⟩ := exists_blocks (lines text.toList)
  refine ⟨pre, blocks, hpre, hlines, ?_⟩
  rw [parseStorage, hlines, storageOf_blocks hpre]

/-- Whole numbers as rationals. -/
def wholeFloats : Floats ℚ where
  parse s := if s.toList.all Char.isDigit then some (Nat.ofDigitChars 10 s.toList 0) else none
  scaled x mult := ⌊x * mult⌋₊

/-- A text of one filesystem and one of another: two mounts, each with what its own block says. -/
theorem parseStorage_independent_twoMounts :
    parseStorage wholeFloats
        (some ("Filesystem: /dev/sda3\nSize: 126G\n" ++ "FILESYSTEM: /dev/sdb1\nUsed: 562M (1%)")) =
      [⟨"/dev/sda3", some (126 * 1024 ^ 3), none, none, none, none⟩,
        ⟨"/dev/sdb1", none, some (562 * 1024 ^ 2), none, some 1, none⟩] := by
  have hlast : "Filesystem: /dev/sda3\nSize: 126G\n".toList.getLast? = some '\n' := by decide
  have hsda : parseStorage wholeFloats (some "Filesystem: /dev/sda3\nSize: 126G\n") =
      [⟨"/dev/sda3", some (126 * 1024 ^ 3), none, none, none, none⟩] := by decide +kernel
  have hsdb : parseStorage wholeFloats (some "FILESYSTEM: /dev/sdb1\nUsed: 562M (1%)") =
      [⟨"/dev/sdb1", none, some (562 * 1024 ^ 2), none, some 1, none⟩] := by decide +kernel
  rw [(parseStorage_independent wholeFloats).2.1 _ _ (fun c hc ↦ ?_) (by decide), hsda, hsdb]
  · rfl
  · exact Option.some.inj (hc.symm.trans hlast)

end VyosFabric
