import Mathlib.Data.Int.Log
import Mathlib.Data.List.TakeWhile
import Mathlib.Data.Rat.Floor
import Mathlib.Tactic.NormNum
import VyosFabric.Model.Text

/-!
# Text and numbers as the pages read them

`String.prototype.trim` and `Number` of the browser. The two languages do not agree on what is
blank: the pages strip a byte-order mark, which the backend keeps, and keep a next-line character,
which the backend strips.

`Number` reads a decimal, hexadecimal, octal or binary literal and rounds it to a double. Two texts
can therefore name one number, and the numeral of a rule number names that number
(`number_repr`).
-/

namespace VyosFabric

/-! ### Trimming -/

/-- `WhiteSpace` and `LineTerminator`, the class `String.prototype.trim` strips. -/
def isJsWhitespace (c : Char) : Bool :=
  c.toNat == 0xFEFF || (isWhitespace c && c.toNat != 0x85)

/-- `String.prototype.trim`. -/
def jsTrim (s : String) : String :=
  String.ofList
    (((s.toList.dropWhile isJsWhitespace).reverse.dropWhile isJsWhitespace).reverse)

/-- `s.trim() || null`. -/
def jsField (s : String) : Option String :=
  if jsTrim s = "" then none else some (jsTrim s)

/-! ### Numbers -/

/-- A digit of a literal of base up to 16. -/
def digitValue (c : Char) : ℕ :=
  if c.isDigit then c.toNat - '0'.toNat
  else if c.isLower then c.toNat - 'a'.toNat + 10
  else if c.isUpper then c.toNat - 'A'.toNat + 10
  else 16

/-- The integer of a nonempty string of digits of a base. -/
def digitsIn (base : ℕ) (cs : List Char) : Option ℕ :=
  if cs ≠ [] ∧ cs.all fun c ↦ digitValue c < base then
    some (cs.foldl (fun n c ↦ base * n + digitValue c) 0)
  else none

/-- `ExponentPart`, or nothing. -/
def exponentPart : List Char → Option ℤ
  | [] => some 0
  | c :: cs =>
    if c = 'e' ∨ c = 'E' then
      match cs with
      | '-' :: ds => (digitsIn 10 ds).map fun n ↦ -(n : ℤ)
      | '+' :: ds => (digitsIn 10 ds).map fun n ↦ (n : ℤ)
      | ds => (digitsIn 10 ds).map fun n ↦ (n : ℤ)
    else none

/-- `StrUnsignedDecimalLiteral`, `Infinity` aside. -/
def decimalLiteral (cs : List Char) : Option ℚ :=
  let whole := cs.takeWhile Char.isDigit
  let rest := cs.dropWhile Char.isDigit
  let (fraction, rest) := match rest with
    | '.' :: r => (r.takeWhile Char.isDigit, r.dropWhile Char.isDigit)
    | r => ([], r)
  (digitsIn 10 (whole ++ fraction)).bind fun n ↦
    (exponentPart rest).map fun e ↦ (n : ℚ) * (10 : ℚ) ^ (e - (fraction.length : ℤ))

/-- `StringNumericLiteral`, of a trimmed text: the number it denotes. -/
def numericLiteral : List Char → Option ℚ
  | [] => some 0
  | '0' :: 'x' :: ds | '0' :: 'X' :: ds => (digitsIn 16 ds).map fun n ↦ (n : ℚ)
  | '0' :: 'o' :: ds | '0' :: 'O' :: ds => (digitsIn 8 ds).map fun n ↦ (n : ℚ)
  | '0' :: 'b' :: ds | '0' :: 'B' :: ds => (digitsIn 2 ds).map fun n ↦ (n : ℚ)
  | '-' :: ds => (decimalLiteral ds).map fun q ↦ -q
  | '+' :: ds => decimalLiteral ds
  | ds => decimalLiteral ds

/-- The nearest integer, and of two the even one. -/
def roundHalfEven (q : ℚ) : ℤ :=
  let n := ⌊q⌋
  if q - n < 1 / 2 ∨ q - n = 1 / 2 ∧ n % 2 = 0 then n else n + 1

/-- The distance of the doubles around `q` is two to this power. -/
def ulpExponent (q : ℚ) : ℤ := max (Int.log 2 |q|) (-1022) - 52

/-- The nearest double, the range aside. -/
def toDouble (q : ℚ) : ℚ :=
  roundHalfEven (q / (2 : ℚ) ^ ulpExponent q) * (2 : ℚ) ^ ulpExponent q

/-- `Number(s)`, where it is finite. -/
def number (s : String) : Option ℚ :=
  ((numericLiteral (jsTrim s).toList).map toDouble).filter fun q ↦ |q| < 2 ^ 1024

/-- `Number(s)`, where it is a whole number between 1 and 999999. -/
def ruleNumber (s : String) : Option ℕ :=
  (number s).bind fun q ↦
    if q.den = 1 ∧ 1 ≤ q ∧ q ≤ 999999 then some q.num.toNat else none

/-! ### Numerals -/

theorem ruleNumber_eq_some {s : String} {n : ℕ} :
    ruleNumber s = some n ↔ number s = some (n : ℚ) ∧ 1 ≤ n ∧ n ≤ 999999 := by
  rw [ruleNumber, Option.bind_eq_some_iff]
  constructor
  · rintro ⟨q, hq, h⟩
    split at h
    · rename_i hrange
      obtain ⟨hden, hle, hge⟩ := hrange
      obtain rfl := Option.some.inj h
      have hcast : ((q.num.toNat : ℕ) : ℚ) = q := by
        have hnum : (0 : ℤ) ≤ q.num := Rat.num_nonneg.2 (zero_le_one.trans hle)
        rw [← Int.cast_natCast, Int.toNat_of_nonneg hnum]
        exact Rat.coe_int_num_of_den_eq_one hden
      refine ⟨by rw [hcast, hq], ?_, ?_⟩
      · exact_mod_cast hcast.symm ▸ hle
      · exact_mod_cast hcast.symm ▸ hge
    · cases h
  · rintro ⟨hq, hle, hge⟩
    refine ⟨n, hq, ?_⟩
    rw [if_pos ⟨Rat.den_natCast n, by exact_mod_cast hle, by exact_mod_cast hge⟩]
    rfl

theorem roundHalfEven_intCast (n : ℤ) : roundHalfEven n = n := by
  simp [roundHalfEven]

/-- Integers of up to 53 bits are doubles. -/
theorem toDouble_intCast {m : ℤ} (hm : m.natAbs < 2 ^ 53) : toDouble m = m := by
  have hexp : ∃ k : ℕ, ulpExponent m = -(k : ℤ) := by
    refine ⟨(-ulpExponent m).toNat, ?_⟩
    have habs : |(m : ℚ)| = (m.natAbs : ℕ) := by rw [Nat.cast_natAbs, Int.cast_abs]
    have hlog : Int.log 2 |(m : ℚ)| ≤ 52 := by
      rw [habs, Int.log_natCast]
      have hlt : Nat.log 2 m.natAbs < 53 := Nat.log_lt_of_lt_pow' (by norm_num) hm
      omega
    rw [Int.toNat_of_nonneg]
    · rw [neg_neg]
    · rw [ulpExponent]
      omega
  obtain ⟨k, hk⟩ := hexp
  have hpow : (2 : ℚ) ^ k ≠ 0 := pow_ne_zero _ two_ne_zero
  have hscaled : (m : ℚ) / (2 : ℚ) ^ (-(k : ℤ)) = ((m * 2 ^ k : ℤ) : ℚ) := by
    rw [zpow_neg, zpow_natCast, div_inv_eq_mul]
    push_cast
    rfl
  rw [toDouble, hk, hscaled, roundHalfEven_intCast, zpow_neg, zpow_natCast]
  push_cast
  rw [mul_assoc, mul_inv_cancel₀ hpow, mul_one]

theorem jsTrim_eq_self {s : String} (h : ∀ c ∈ s.toList, isJsWhitespace c = false) :
    jsTrim s = s := by
  have hdrop : ∀ l : List Char, (∀ c ∈ l, isJsWhitespace c = false) →
      l.dropWhile isJsWhitespace = l := by
    intro l hl
    cases l with
    | nil => rfl
    | cons c cs => rw [List.dropWhile_cons, hl c List.mem_cons_self, if_neg Bool.false_ne_true]
  rw [jsTrim, hdrop _ h, hdrop _ fun c hc ↦ h c (List.mem_reverse.1 hc), List.reverse_reverse,
    String.ofList_toList]

theorem isJsWhitespace_of_isDigit {c : Char} (h : c.isDigit = true) : isJsWhitespace c = false := by
  have hrange : 48 ≤ c.toNat ∧ c.toNat ≤ 57 := Char.isDigit_iff_toNat.1 h
  simp only [isJsWhitespace, isWhitespace, Bool.or_eq_false_iff, Bool.and_eq_false_iff,
    beq_eq_false_iff_ne, decide_eq_false_iff_not]
  omega

theorem digitsIn_ten {cs : List Char} (hne : cs ≠ []) (h : ∀ c ∈ cs, c.isDigit = true) :
    digitsIn 10 cs = some (Nat.ofDigitChars 10 cs 0) := by
  have hvalue : ∀ c ∈ cs, digitValue c = c.toNat - '0'.toNat := fun c hc ↦ if_pos (h c hc)
  have hfold : ∀ n, cs.foldl (fun n c ↦ 10 * n + digitValue c) n = Nat.ofDigitChars 10 cs n := by
    intro n
    rw [Nat.ofDigitChars_eq_foldl]
    exact List.foldl_ext _ _ n fun m c hc ↦ by rw [hvalue c hc]
  have hlt : (cs.all fun c ↦ digitValue c < 10) = true := by
    refine List.all_eq_true.2 fun c hc ↦ decide_eq_true ?_
    have hrange : 48 ≤ c.toNat ∧ c.toNat ≤ 57 := Char.isDigit_iff_toNat.1 (h c hc)
    rw [hvalue c hc]
    show c.toNat - 48 < 10
    omega
  rw [digitsIn, if_pos ⟨hne, hlt⟩, hfold]

theorem decimalLiteral_digits {cs : List Char} (hne : cs ≠ [])
    (hdigits : ∀ c ∈ cs, c.isDigit = true) :
    decimalLiteral cs = some (Nat.ofDigitChars 10 cs 0 : ℚ) := by
  have htake : cs.takeWhile Char.isDigit = cs := List.takeWhile_eq_self_iff.2 hdigits
  have hdrop : cs.dropWhile Char.isDigit = [] := List.dropWhile_eq_nil_iff.2 hdigits
  rw [decimalLiteral, htake, hdrop]
  simp only [List.append_nil, digitsIn_ten hne hdigits, exponentPart, Option.map_some,
    Option.bind_some, List.length_nil, Nat.cast_zero, sub_zero, zpow_zero, mul_one]

theorem jsTrim_intRepr (m : ℤ) : jsTrim m.repr = m.repr := by
  refine jsTrim_eq_self fun c hc ↦ ?_
  obtain ⟨ds, -, hdigits, ⟨-, hlist, -⟩ | ⟨-, hlist, -⟩⟩ := toList_repr_cases m <;> rw [hlist] at hc
  · exact isJsWhitespace_of_isDigit (hdigits c hc)
  · rcases List.mem_cons.1 hc with rfl | hc
    · decide
    · exact isJsWhitespace_of_isDigit (hdigits c hc)

/-- **A numeral names its number**, also when rounded to a double. -/
theorem number_intRepr {m : ℤ} (hm : m.natAbs < 2 ^ 53) : number m.repr = some (m : ℚ) := by
  obtain ⟨ds, hne, hdigits, hcases⟩ := toList_repr_cases m
  have hliteral : numericLiteral m.repr.toList = some (m : ℚ) := by
    have hds := decimalLiteral_digits hne hdigits
    rcases hcases with ⟨-, hlist, hvalue⟩ | ⟨-, hlist, hvalue⟩
    · have hvalue' : (Nat.ofDigitChars 10 ds 0 : ℚ) = m := by exact_mod_cast hvalue
      rw [hlist, ← hvalue', ← hds]
      generalize ds = cs at hdigits hne
      unfold numericLiteral
      split <;> simp_all [Char.isDigit]
    · have hvalue' : -(Nat.ofDigitChars 10 ds 0 : ℚ) = m := by
        have hneg : (Nat.ofDigitChars 10 ds 0 : ℚ) = -m := by exact_mod_cast hvalue
        rw [hneg, neg_neg]
      rw [hlist, ← hvalue', numericLiteral, hds, Option.map_some]
  have hfinite : |(m : ℚ)| < 2 ^ 1024 := by
    have hlt : m.natAbs < 2 ^ 1024 := hm.trans_le (pow_le_pow_right₀ one_le_two (by norm_num))
    have habs : |(m : ℚ)| = (m.natAbs : ℕ) := by rw [Nat.cast_natAbs, Int.cast_abs]
    rw [habs]
    exact_mod_cast hlt
  rw [number, jsTrim_intRepr, hliteral, Option.map_some, toDouble_intCast hm]
  exact Option.filter_some_pos (decide_eq_true hfinite)

/-- The same without a sign. -/
theorem number_repr {n : ℕ} (hn : n < 2 ^ 53) : number n.repr = some (n : ℚ) :=
  @number_intRepr n hn

/-- So the form reads a numeral as the rule number it was written from. -/
theorem ruleNumber_repr {n : ℕ} (hle : 1 ≤ n) (hge : n ≤ 999999) : ruleNumber n.repr = some n :=
  ruleNumber_eq_some.2 ⟨number_repr (by omega), hle, hge⟩

end VyosFabric
