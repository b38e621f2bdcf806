import Mathlib.Data.List.DropRight
import Mathlib.Data.List.Infix
import VyosFabric.Model.Json

/-!
# Trimmed text

Trimming twice is trimming once, so what the backend shows of a leaf is trimmed and not blank, and
it reads it back as it is. A numeral is read as the number it was written from (`parseI32_repr`).
-/

namespace VyosFabric

/-- Strip a class of characters at both ends. -/
def strip (p : Char → Bool) (l : List Char) : List Char := (l.dropWhile p).rdropWhile p

theorem trim_eq (s : String) : trim s = String.ofList (strip isWhitespace s.toList) := rfl

theorem strip_strip (p : Char → Bool) (l : List Char) : strip p (strip p l) = strip p l := by
  have hkept : strip p l <+: l.dropWhile p := List.rdropWhile_prefix p _
  have hhead : (strip p l).dropWhile p = strip p l := by
    refine List.dropWhile_eq_self_iff.2 fun hpos ↦ ?_
    have hhead := List.dropWhile_eq_self_iff.1 (List.dropWhile_idempotent p l)
      (hpos.trans_le hkept.length_le)
    rwa [hkept.getElem hpos]
  rw [strip, hhead]
  exact List.rdropWhile_idempotent p _

theorem strip_sublist (p : Char → Bool) (l : List Char) : (strip p l).Sublist l :=
  (List.rdropWhile_prefix p _).sublist.trans (List.dropWhile_suffix p).sublist

theorem strip_isInfix (p : Char → Bool) (l : List Char) : strip p l <:+: l :=
  (List.rdropWhile_prefix p _).isInfix.trans (List.dropWhile_suffix p).isInfix

theorem mem_dropWhile {p : Char → Bool} {l : List Char} {c : Char} (hc : c ∈ l) (hp : p c = false) :
    c ∈ l.dropWhile p := by
  rw [← List.takeWhile_append_dropWhile (p := p) (l := l)] at hc
  refine (List.mem_append.1 hc).resolve_left fun htake ↦ ?_
  rw [List.mem_takeWhile_imp htake] at hp
  cases hp

/-- Only the class is stripped. -/
theorem mem_strip {p : Char → Bool} {l : List Char} {c : Char} (hc : c ∈ l) (hp : p c = false) :
    c ∈ strip p l :=
  List.mem_reverse.2 (mem_dropWhile (List.mem_reverse.2 (mem_dropWhile hc hp)) hp)

theorem rdropWhile_append {p : Char → Bool} (l : List Char) {r : List Char}
    (hr : ∀ c ∈ r, p c = true) : (l ++ r).rdropWhile p = l.rdropWhile p := by
  rw [List.rdropWhile, List.rdropWhile, List.reverse_append,
    List.dropWhile_append_of_pos fun c hc ↦ hr c (List.mem_reverse.1 hc)]

/-- What the class has at the end does not matter. -/
theorem strip_append {p : Char → Bool} (l : List Char) {r : List Char} (hr : ∀ c ∈ r, p c = true) :
    strip p (l ++ r) = strip p l := by
  rw [strip, strip, List.dropWhile_append]
  split
  · next hnil =>
    rw [List.isEmpty_iff.1 hnil, List.dropWhile_eq_nil_iff.2 hr]
  · exact rdropWhile_append _ hr

theorem trim_trim (s : String) : trim (trim s) = trim s := by
  simp only [trim_eq, String.toList_ofList, strip_strip]

@[simp] theorem trimmed_none : trimmed none = none := rfl

theorem trimmed_some (t : String) :
    trimmed (some t) = if trim t = "" then none else some (trim t) := by
  by_cases h : trim t = "" <;> simp [trimmed, h]

theorem trimmed_trimmed (o : Option String) : trimmed (trimmed o) = trimmed o := by
  cases o with
  | none => rfl
  | some t =>
    rw [trimmed_some]
    split
    · rfl
    · rename_i hblank
      rw [trimmed_some, trim_trim, if_neg hblank]

theorem trimmed_childStr (v : Json) (key : String) : trimmed (v.childStr key) = v.childStr key :=
  trimmed_trimmed _

theorem trimmed_nestedStr (v : Json) (parent key : String) :
    trimmed (v.nestedStr parent key) = v.nestedStr parent key := by
  rw [Json.nestedStr]
  cases v.get parent with
  | none => rfl
  | some p => exact trimmed_childStr p key

/-- What the backend shows is trimmed and not blank. -/
theorem trim_eq_of_trimmed {o : Option String} (ho : trimmed o = o) {t : String}
    (ht : o = some t) : trim t = t ∧ t ≠ "" := by
  subst ht
  rw [trimmed_some] at ho
  split at ho
  · cases ho
  · rename_i hblank
    have heq := Option.some.inj ho
    exact ⟨heq, heq ▸ hblank⟩

/-- The search for a pattern. -/
theorem isInfix_iff {pat l : List Char} : isInfix pat l = true ↔ pat <:+: l := by
  induction l with
  | nil => rw [isInfix, List.isEmpty_iff, List.infix_nil]
  | cons c cs ih =>
    rw [isInfix, Bool.or_eq_true, ih, List.isPrefixOf_iff_prefix, List.infix_cons_iff]

/-- `strip_prefix`. -/
def stripPrefix (pre l : List Char) : Option (List Char) :=
  if pre.isPrefixOf l then some (l.drop pre.length) else none

/-! ### Numerals -/

theorem strip_eq_self {p : Char → Bool} {l : List Char} (h : ∀ c ∈ l, p c = false) :
    strip p l = l := by
  have hhead : l.dropWhile p = l := by
    cases l with
    | nil => rfl
    | cons c cs => exact List.dropWhile_cons_of_neg (by rw [h c List.mem_cons_self]; decide)
  rw [strip, hhead]
  refine List.rdropWhile_eq_self_iff.2 fun hne ↦ ?_
  rw [h _ (List.getLast_mem hne)]
  decide

theorem isWhitespace_eq_false {c : Char} (h : c.isDigit = true ∨ c = '-') :
    isWhitespace c = false := by
  rcases h with h | rfl
  · have hrange : 48 ≤ c.toNat ∧ c.toNat ≤ 57 := Char.isDigit_iff_toNat.1 h
    simp only [isWhitespace, Bool.or_eq_false_iff, Bool.and_eq_false_iff, beq_eq_false_iff_ne,
      decide_eq_false_iff_not]
    omega
  · decide

/-- The sign and the digits of a numeral. -/
theorem toList_repr_cases (m : Int) : ∃ ds : List Char, ds ≠ [] ∧ (∀ c ∈ ds, c.isDigit = true) ∧
    (0 ≤ m ∧ m.repr.toList = ds ∧ (Nat.ofDigitChars 10 ds 0 : Int) = m ∨
      m < 0 ∧ m.repr.toList = '-' :: ds ∧ (Nat.ofDigitChars 10 ds 0 : Int) = -m) := by
  have hdigits : ∀ n : ℕ, ∀ c ∈ Nat.toDigits 10 n, c.isDigit = true := fun n c hc ↦
    Nat.isDigit_of_mem_toDigits (by omega) (by omega) hc
  cases m with
  | ofNat n =>
    refine ⟨Nat.toDigits 10 n, Nat.toDigits_ne_nil, hdigits n, Or.inl ⟨by simp, ?_, ?_⟩⟩
    · exact Nat.toList_repr
    · rw [Nat.ofDigitChars_ten_toDigits]
      rfl
  | negSucc n =>
    refine ⟨Nat.toDigits 10 (n + 1), Nat.toDigits_ne_nil, hdigits _, Or.inr ⟨by simp, ?_, ?_⟩⟩
    · show ("-" ++ (n + 1).repr).toList = _
      rw [String.toList_append, Nat.toList_repr]
      rfl
    · rw [Nat.ofDigitChars_ten_toDigits]
      rfl

/-- A numeral is trimmed. -/
theorem trim_repr (m : Int) : trim m.repr = m.repr := by
  have hkept : ∀ c ∈ m.repr.toList, isWhitespace c = false := by
    obtain ⟨ds, -, hdigits, ⟨-, hlist, -⟩ | ⟨-, hlist, -⟩⟩ := toList_repr_cases m <;>
      rw [hlist] <;> intro c hc
    · exact isWhitespace_eq_false (Or.inl (hdigits c hc))
    · rcases List.mem_cons.1 hc with rfl | hc
      · exact isWhitespace_eq_false (Or.inr rfl)
      · exact isWhitespace_eq_false (Or.inl (hdigits c hc))
  rw [trim_eq, strip_eq_self hkept, String.ofList_toList]

/-- **A numeral is read as its number**, within 32 bits. -/
theorem parseI32_repr {m : Int} (hge : -2 ^ 31 ≤ m) (hlt : m < 2 ^ 31) :
    parseI32 m.repr = some m := by
  obtain ⟨ds, hne, hdigits, hm⟩ := toList_repr_cases m
  have hempty : ds.isEmpty = false := by simpa using hne
  have hall : ds.all Char.isDigit = true := List.all_eq_true.2 hdigits
  have hfold : ds.foldl (fun acc c ↦ 10 * acc + (c.toNat - '0'.toNat)) 0 =
      Nat.ofDigitChars 10 ds 0 := Nat.ofDigitChars_eq_foldl.symm
  rcases hm with ⟨-, hlist, hvalue⟩ | ⟨-, hlist, hvalue⟩
  · unfold parseI32
    rw [hlist]
    split
    rename_i sign digits heq
    -- the first character is a digit, so there is no sign
    split at heq
    · exact absurd (hdigits '-' List.mem_cons_self) (by decide)
    · exact absurd (hdigits '+' List.mem_cons_self) (by decide)
    · obtain ⟨rfl, rfl⟩ := Prod.mk.inj heq
      simp only [hempty, hall, hfold, hvalue, one_mul, Bool.not_true, Bool.or_self]
      exact if_pos (And.intro hge hlt)
  · unfold parseI32
    rw [hlist]
    simp only [hempty, hall, hfold, hvalue, neg_mul, one_mul, neg_neg, Bool.not_true, Bool.or_self]
    exact if_pos (And.intro hge hlt)

end VyosFabric
