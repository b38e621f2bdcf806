import Mathlib.Algebra.Order.Ring.Int
import Mathlib.Data.List.Dedup
import Mathlib.Data.List.Sort
import Mathlib.Data.String.Basic

/-!
# Text and JSON values as the backend reads them

The two value types every reader goes through: Rust strings, of which only `trim` and the
case-insensitive search for `empty` matter, and `serde_json::Value`.

Objects are association lists read by first match. A number is an integer or, when it has no
integer reading, its text (`real`), which `asI64` rejects as `as_i64` does.

`childStr`, `nestedStr` and `isEnabled` stand in several route files of the source with the same
body; here each is defined once.
-/

namespace VyosFabric

/-! ### Text -/

/-- Unicode `White_Space`, the class `str::trim` strips. -/
def isWhitespace (c : Char) : Bool :=
  let n := c.toNat
  (9 ≤ n && n ≤ 13) || n == 0x20 || n == 0x85 || n == 0xA0 || n == 0x1680 ||
    (0x2000 ≤ n && n ≤ 0x200A) || n == 0x2028 || n == 0x2029 || n == 0x202F || n == 0x205F ||
    n == 0x3000

/-- `str::trim`. -/
def trim (s : String) : String :=
  String.ofList (((s.toList.dropWhile isWhitespace).reverse.dropWhile isWhitespace).reverse)

/-- `.map(|s| s.trim()).filter(|s| !s.is_empty())`, the form in which every optional text of a
request is read. -/
def trimmed (o : Option String) : Option String :=
  (o.map trim).filter fun s ↦ s ≠ ""

/-- The trimmed non-blank entries of a list, in order. -/
def trimmedList (l : List String) : List String :=
  (l.map trim).filter fun s ↦ s ≠ ""

/-- `pat` occurs in `text`. -/
def isInfix (pat : List Char) : List Char → Bool
  | [] => pat.isEmpty
  | c :: cs => pat.isPrefixOf (c :: cs) || isInfix pat cs

/-- `err.to_lowercase().contains("empty")`. Only the ASCII letters of the text matter: no other
character lowercases to a letter of the pattern. -/
def saysEmpty (err : String) : Bool :=
  isInfix "empty".toList (err.toList.map Char.toLower)

/-! ### JSON values -/

/-- `serde_json::Value`. -/
inductive Json where
  | null
  | bool (b : Bool)
  | int (n : Int)
  | real (text : String)
  | str (s : String)
  | arr (l : List Json)
  | obj (m : List (String × Json))

namespace Json

mutual

/-- Equality of values is decided structurally. -/
def decEq : (a b : Json) → Decidable (a = b)
  | .null, .null => isTrue rfl
  | .bool a, .bool b => decidable_of_iff (a = b) (by simp)
  | .int a, .int b => decidable_of_iff (a = b) (by simp)
  | .real a, .real b => decidable_of_iff (a = b) (by simp)
  | .str a, .str b => decidable_of_iff (a = b) (by simp)
  | .arr a, .arr b =>
    match decEqList a b with
    | isTrue h => isTrue (by rw [h])
    | isFalse h => isFalse (by simpa using h)
  | .obj a, .obj b =>
    match decEqFields a b with
    | isTrue h => isTrue (by rw [h])
    | isFalse h => isFalse (by simpa using h)
  | .null, .bool _ | .null, .int _ | .null, .real _ | .null, .str _ | .null, .arr _
  | .null, .obj _ => isFalse (by simp)
  | .bool _, .null | .bool _, .int _ | .bool _, .real _ | .bool _, .str _ | .bool _, .arr _
  | .bool _, .obj _ => isFalse (by simp)
  | .int _, .null | .int _, .bool _ | .int _, .real _ | .int _, .str _ | .int _, .arr _
  | .int _, .obj _ => isFalse (by simp)
  | .real _, .null | .real _, .bool _ | .real _, .int _ | .real _, .str _ | .real _, .arr _
  | .real _, .obj _ => isFalse (by simp)
  | .str _, .null | .str _, .bool _ | .str _, .int _ | .str _, .real _ | .str _, .arr _
  | .str _, .obj _ => isFalse (by simp)
  | .arr _, .null | .arr _, .bool _ | .arr _, .int _ | .arr _, .real _ | .arr _, .str _
  | .arr _, .obj _ => isFalse (by simp)
  | .obj _, .null | .obj _, .bool _ | .obj _, .int _ | .obj _, .real _ | .obj _, .str _
  | .obj _, .arr _ => isFalse (by simp)

/-- Equality of arrays. -/
def decEqList : (a b : List Json) → Decidable (a = b)
  | [], [] => isTrue rfl
  | [], _ :: _ => isFalse (by simp)
  | _ :: _, [] => isFalse (by simp)
  | x :: xs, y :: ys =>
    match decEq x y, decEqList xs ys with
    | isTrue h, isTrue h' => isTrue (by rw [h, h'])
    | isFalse h, _ => isFalse (by simp [h])
    | _, isFalse h => isFalse (by simp [h])

/-- Equality of objects, as lists of fields. -/
def decEqFields : (a b : List (String × Json)) → Decidable (a = b)
  | [], [] => isTrue rfl
  | [], _ :: _ => isFalse (by simp)
  | _ :: _, [] => isFalse (by simp)
  | (k, x) :: xs, (k', y) :: ys =>
    match decEq x y, decEqFields xs ys with
    | isTrue h, isTrue h' =>
      if hk : k = k' then isTrue (by rw [hk, h, h']) else isFalse (by simp [hk])
    | isFalse h, _ => isFalse (by simp [h])
    | _, isFalse h => isFalse (by simp [h])

end

instance : DecidableEq Json := decEq

/-- `v.get(key)`: a field of an object, and nothing on any other value. -/
def get (v : Json) (key : String) : Option Json :=
  match v with
  | .obj m => m.lookup key
  | _ => none

/-- `v[key]`: `Null` where `get` finds nothing. -/
def idx (v : Json) (key : String) : Json := (v.get key).getD .null

def asStr : Json → Option String
  | .str s => some s
  | _ => none

def asBool : Json → Option Bool
  | .bool b => some b
  | _ => none

def asObject : Json → Option (List (String × Json))
  | .obj m => some m
  | _ => none

/-- The fields of an object in the order of `serde_json::Map`, which is that of their keys; none on
any other value. -/
def entries : Json → List (String × Json)
  | .obj m =>
    ((m.map Prod.fst).dedup.insertionSort (· ≤ ·)).filterMap fun k ↦
      (m.lookup k).map fun v ↦ (k, v)
  | _ => []

/-- `as_i64`: an integer within 64 signed bits. -/
def asI64 : Json → Option Int
  | .int n => if -2 ^ 63 ≤ n ∧ n < 2 ^ 63 then some n else none
  | _ => none

def isNull : Json → Bool
  | .null => true
  | _ => false

/-- `resp["success"].as_bool() == Some(true)`. -/
def succeeded (resp : Json) : Bool := (resp.idx "success").asBool == some true

/-- A string-valued child, trimmed, if present and non-empty. -/
def childStr (v : Json) (key : String) : Option String :=
  trimmed ((v.get key).bind asStr)

/-- `<parent> <child>` as a trimmed non-empty string. -/
def nestedStr (v : Json) (parent child : String) : Option String :=
  (v.get parent).bind fun p ↦ p.childStr child

/-- `disable` is a valueless leaf: its presence means down. -/
def isEnabled (v : Json) : Bool := (v.get "disable").isNone

/-- The entries of a value are what `get` finds. -/
theorem mem_entries {v w : Json} {key : String} : (key, w) ∈ v.entries ↔ v.get key = some w := by
  cases v with
  | obj m =>
    have hkey : m.lookup key = some w → key ∈ m.map Prod.fst := by
      intro hlookup
      rw [List.lookup_eq_some_iff] at hlookup
      obtain ⟨l₁, l₂, rfl, -⟩ := hlookup
      simp
    simp only [entries, get, List.mem_filterMap, List.mem_insertionSort, List.mem_dedup,
      Option.map_eq_some_iff, Prod.mk.injEq]
    constructor
    · rintro ⟨k, -, w', hlookup, rfl, rfl⟩
      exact hlookup
    · exact fun hlookup ↦ ⟨key, hkey hlookup, w, hlookup, rfl, rfl⟩
  | null | bool | int | real | str | arr => simp [entries, get]

end Json

/-! ### Machine integers -/

/-- `n as i32`: the low 32 bits, read as a signed number. -/
def asI32 (n : Int) : Int := n.bmod (2 ^ 32)

/-- The cast of a length keeps its value exactly below `2 ^ 31`. -/
theorem asI32_natCast_eq_iff (n : ℕ) : asI32 n = n ↔ n < 2 ^ 31 := by
  have hlt : asI32 n < 2 ^ 31 := by
    have := Int.bmod_lt (x := n) (m := 2 ^ 32) (by omega)
    rw [asI32]
    omega
  constructor
  · intro h
    omega
  · intro h
    rw [asI32, Int.bmod_def]
    have hmod : (n : Int) % ((2 ^ 32 : ℕ) : Int) = n := Int.emod_eq_of_lt (by omega) (by omega)
    rw [hmod, if_pos (by omega)]

/-- `str::parse::<i32>`: an optional sign, at least one digit, and a value within 32 bits. -/
def parseI32 (s : String) : Option Int :=
  let (sign, digits) := match s.toList with
    | '-' :: cs => (-1, cs)
    | '+' :: cs => (1, cs)
    | cs => ((1 : Int), cs)
  if digits.isEmpty || !digits.all Char.isDigit then none
  else
    let n := sign * (digits.foldl (fun acc c ↦ 10 * acc + (c.toNat - '0'.toNat)) 0 : ℕ)
    if -2 ^ 31 ≤ n ∧ n < 2 ^ 31 then some n else none

/-- `str::parse::<u64>`: an optional plus sign, at least one digit, and a value within 64 bits. -/
def parseU64 (s : String) : Option ℕ :=
  let digits := match s.toList with
    | '+' :: cs => cs
    | cs => cs
  if digits.isEmpty || !digits.all Char.isDigit then none
  else
    let n := Nat.ofDigitChars 10 digits 0
    if n < 2 ^ 64 then some n else none

end VyosFabric
