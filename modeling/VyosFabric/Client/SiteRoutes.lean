import VyosFabric.Client.Fields
import VyosFabric.Routes.Sites
import VyosFabric.Tabular.Runs

/-!
# Site routes

The path to a device has the slug of its site's name in it (`handleManage`). The slug shows the
words of the name in lower case, with hyphens between them (`toList_slugify`), so it is empty if
there is no letter or digit in the name. A path with an empty slug leads nowhere, and one with the
slug `api` leads to the backend (`usableRoute_iff`).
-/

namespace VyosFabric

open Tabular

/-! ### Lower case -/

/-- What a character may be in lower case. Beyond ASCII, only the dotted capital I and the Kelvin
sign have an ASCII letter there. -/
inductive Lowers : Char → List Char → Prop
  | ascii {c : Char} (h : c.toNat < 128) : Lowers c [c.toLower]
  | dottedI : Lowers '\u0130' ['i', '\u0307']
  | kelvin : Lowers '\u212a' ['k']
  | other {c : Char} {part : List Char} (h : 128 ≤ c.toNat) (hdotted : c ≠ '\u0130')
      (hkelvin : c ≠ '\u212a') (hne : part ≠ []) (hpart : ∀ d ∈ part, 128 ≤ d.toNat) :
      Lowers c part

/-- `String.prototype.toLowerCase`. Of Unicode it says what matters for slugs. -/
structure LowerCase where
  toLowerCase : String → String
  lowers : ∀ s, ∃ parts, List.Forall₂ Lowers s.toList parts ∧
    (toLowerCase s).toList = parts.flatten

/-- `[a-z0-9]`. -/
def isSlugChar (c : Char) : Bool := c.isLower || c.isDigit

/-- A character with an ASCII letter or digit in its lower case. -/
def isSlugLetter (c : Char) : Bool := c.isAlphanum || c == '\u0130' || c == '\u212a'

theorem isLower_iff {c : Char} : c.isLower = true ↔ 97 ≤ c.toNat ∧ c.toNat ≤ 122 :=
  Bool.and_eq_true_iff.trans (and_congr decide_eq_true_iff decide_eq_true_iff)

theorem isUpper_iff {c : Char} : c.isUpper = true ↔ 65 ≤ c.toNat ∧ c.toNat ≤ 90 :=
  decide_eq_true_iff

theorem isSlugChar_iff {c : Char} : isSlugChar c = true ↔
    97 ≤ c.toNat ∧ c.toNat ≤ 122 ∨ 48 ≤ c.toNat ∧ c.toNat ≤ 57 := by
  rw [isSlugChar, Bool.or_eq_true, isLower_iff, Char.isDigit_iff_toNat]
  exact Iff.rfl

theorem toNat_lt_of_isSlugChar {c : Char} (h : isSlugChar c = true) : c.toNat < 128 := by
  have hrange := isSlugChar_iff.1 h
  omega

/-- A property of the ASCII characters. -/
theorem forall_ascii {P : Char → Prop} [DecidablePred P] (h : ∀ n < 128, P (Char.ofNat n))
    {c : Char} (hc : c.toNat < 128) : P c := by
  have hn := h c.toNat hc
  rwa [Char.ofNat_toNat] at hn

theorem toLower_of_isSlugChar {c : Char} (h : isSlugChar c = true) : c.toLower = c :=
  forall_ascii (P := fun c ↦ isSlugChar c = true → c.toLower = c) (by decide)
    (toNat_lt_of_isSlugChar h) h

theorem isSlugChar_toLower {c : Char} (hc : c.toNat < 128) :
    isSlugChar c.toLower = isSlugLetter c :=
  forall_ascii (P := fun c ↦ isSlugChar c.toLower = isSlugLetter c) (by decide) hc

theorem isSlugLetter_eq_false {c : Char} (h : 128 ≤ c.toNat) (hdotted : c ≠ '\u0130')
    (hkelvin : c ≠ '\u212a') : isSlugLetter c = false := by
  have halpha : c.isAlphanum = false := by
    refine Bool.eq_false_iff.2 fun halpha ↦ ?_
    have hrange : ((65 ≤ c.toNat ∧ c.toNat ≤ 90) ∨ 97 ≤ c.toNat ∧ c.toNat ≤ 122) ∨
        48 ≤ c.toNat ∧ c.toNat ≤ 57 := by
      rcases Bool.or_eq_true_iff.1 halpha with hletter | hdigit
      · exact .inl ((Bool.or_eq_true_iff.1 hletter).imp isUpper_iff.1 isLower_iff.1)
      · exact .inr (Char.isDigit_iff_toNat.1 hdigit)
    omega
  rw [isSlugLetter, halpha, beq_eq_false_iff_ne.2 hdotted, beq_eq_false_iff_ne.2 hkelvin]
  rfl

/-- Only a letter or digit shows in a slug. -/
theorem Lowers.exists_isSlugChar_iff {c : Char} {part : List Char} (h : Lowers c part) :
    (∃ d ∈ part, isSlugChar d = true) ↔ isSlugLetter c = true := by
  cases h with
  | ascii hc => simp [isSlugChar_toLower hc]
  | dottedI => exact iff_of_true ⟨'i', List.mem_cons_self, rfl⟩ rfl
  | kelvin => exact iff_of_true ⟨'k', List.mem_cons_self, rfl⟩ rfl
  | other hc hdotted hkelvin _ hpart =>
    refine iff_of_false ?_ (by rw [isSlugLetter_eq_false hc hdotted hkelvin]; decide)
    rintro ⟨d, hd, hslug⟩
    exact absurd (toNat_lt_of_isSlugChar hslug) (not_lt.2 (hpart d hd))

theorem Lowers.eq_of_ascii {c : Char} {part : List Char} (h : Lowers c part) (hc : c.toNat < 128) :
    part = [c.toLower] := by
  cases h with
  | ascii => rfl
  | dottedI => exact absurd hc (by decide)
  | kelvin => exact absurd hc (by decide)
  | other hc' => exact absurd hc (not_lt.2 hc')

theorem Lowers.eq_of_dottedI {c : Char} {part : List Char} (h : Lowers c part)
    (hc : c = '\u0130') : part = ['i', '\u0307'] := by
  cases h with
  | ascii hascii => exact absurd hascii (by rw [hc]; decide)
  | dottedI => rfl
  | kelvin => exact absurd hc (by decide)
  | other _ hdotted => exact absurd hc hdotted

theorem exists_isSlugChar_flatten_iff {l : List Char} {parts : List (List Char)}
    (h : List.Forall₂ Lowers l parts) :
    (∃ d ∈ parts.flatten, isSlugChar d = true) ↔ ∃ c ∈ l, isSlugLetter c = true := by
  induction h with
  | nil => simp
  | cons hc _ ih =>
    simp only [List.flatten_cons, List.mem_append, List.mem_cons, or_and_right, exists_or,
      exists_eq_left, hc.exists_isSlugChar_iff, ih]

theorem flatten_eq_of_ascii {l : List Char} {parts : List (List Char)}
    (h : List.Forall₂ Lowers l parts) (hl : ∀ c ∈ l, c.toNat < 128 ∧ c.toLower = c) :
    parts.flatten = l := by
  induction h with
  | nil => rfl
  | cons hc _ ih =>
    obtain ⟨⟨hascii, hlower⟩, hrest⟩ := List.forall_mem_cons.1 hl
    rw [List.flatten_cons, ih hrest, hc.eq_of_ascii hascii, hlower]
    rfl

namespace LowerCase

variable (L : LowerCase)

theorem exists_isSlugChar_iff (s : String) :
    (∃ d ∈ (L.toLowerCase s).toList, isSlugChar d = true) ↔
      ∃ c ∈ s.toList, isSlugLetter c = true := by
  obtain ⟨parts, hparts, heq⟩ := L.lowers s
  rw [heq]
  exact exists_isSlugChar_flatten_iff hparts

/-- Lower case of ASCII is left alone. -/
theorem toLowerCase_eq_self {s : String} (hs : ∀ c ∈ s.toList, c.toNat < 128 ∧ c.toLower = c) :
    L.toLowerCase s = s := by
  obtain ⟨parts, hparts, heq⟩ := L.lowers s
  exact String.toList_inj.1 (heq.trans (flatten_eq_of_ascii hparts hs))

end LowerCase

/-! ### Slugs -/

/-- `[^a-z0-9]`. -/
def isSeparator (c : Char) : Bool := !isSlugChar c

/-- A name as a segment of a path. -/
def slugify (L : LowerCase) (name : String) : String :=
  let lowered := jsTrim (L.toLowerCase name)
  String.ofList (trimEnds (· == '-') (replaceRuns isSeparator '-' false lowered.toList))

/-- Words of lower-case letters and digits, with single hyphens between them. -/
def IsSlug (s : String) : Prop :=
  ∃ ws : List (List Char), ws ≠ [] ∧ (∀ w ∈ ws, w ≠ [] ∧ ∀ c ∈ w, isSlugChar c = true) ∧
    s.toList = ['-'].intercalate ws

/-- The letters and digits that stand together in a name in lower case. -/
def nameWords (L : LowerCase) (name : String) : List (List Char) :=
  words isSeparator (L.toLowerCase name).toList

section Slug

variable {L : LowerCase} {name s : String}

theorem forall_mem_nameWords (L : LowerCase) (name : String) :
    ∀ w ∈ nameWords L name, w ≠ [] ∧ ∀ c ∈ w, isSlugChar c = true := by
  intro w hw
  obtain ⟨hne, hchars⟩ := forall_mem_words _ w hw
  exact ⟨hne, fun c hc ↦ by simpa [isSeparator] using hchars c hc⟩

theorem isSeparator_of_isJsWhitespace {c : Char} (h : isJsWhitespace c = true) :
    isSeparator c = true := by
  have hno : isSlugChar c = false := by
    refine Bool.eq_false_iff.2 fun hslug ↦ ?_
    have hrange := isSlugChar_iff.1 hslug
    simp only [isJsWhitespace, isWhitespace, Bool.or_eq_true, Bool.and_eq_true, beq_iff_eq,
      decide_eq_true_eq] at h
    omega
  rw [isSeparator, hno]
  rfl

/-- **A slug** shows the words of the name. -/
theorem toList_slugify (L : LowerCase) (name : String) :
    (slugify L name).toList = ['-'].intercalate (nameWords L name) := by
  have htrim : words isSeparator (jsTrim (L.toLowerCase name)).toList = nameWords L name := by
    rw [jsTrim_eq, String.toList_ofList]
    exact words_trimEnds (fun c ↦ isSeparator_of_isJsWhitespace) _
  rw [slugify, String.toList_ofList, trimEnds_replaceRuns (by decide), htrim]

theorem IsSlug.ne_empty (h : IsSlug s) : s ≠ "" := by
  rintro rfl
  obtain ⟨ws, hne, hws, htext⟩ := h
  cases ws with
  | nil => exact hne rfl
  | cons w ws =>
    rw [intercalate_cons] at htext
    exact (hws w List.mem_cons_self).1 (List.append_eq_nil_iff.1 htext.symm).1

theorem isSlug_slugify_iff : IsSlug (slugify L name) ↔ nameWords L name ≠ [] := by
  constructor
  · intro hslug hnil
    refine hslug.ne_empty (String.toList_inj.1 ?_)
    rw [toList_slugify, hnil]
    rfl
  · exact fun hne ↦ ⟨nameWords L name, hne, forall_mem_nameWords L name, toList_slugify L name⟩

/-- There are words just if there is a letter or digit. -/
theorem nameWords_ne_nil_iff :
    nameWords L name ≠ [] ↔ ∃ c ∈ name.toList, isSlugLetter c = true := by
  rw [← L.exists_isSlugChar_iff, nameWords, ne_eq, words_eq_nil_iff]
  simp [isSeparator]

theorem isSlugChar_of_mem_slugify {c : Char} (hc : c ∈ (slugify L name).toList) :
    isSlugChar c = true ∨ c = '-' := by
  rw [toList_slugify] at hc
  rcases eq_or_mem_of_mem_intercalate hc with rfl | ⟨w, hw, hc⟩
  · exact .inr rfl
  · exact .inl ((forall_mem_nameWords L name w hw).2 c hc)

/-- A slug is the slug of itself. -/
theorem slugify_slugify (L : LowerCase) (name : String) :
    slugify L (slugify L name) = slugify L name := by
  have hlower : L.toLowerCase (slugify L name) = slugify L name := by
    refine L.toLowerCase_eq_self fun c hc ↦ ?_
    rcases isSlugChar_of_mem_slugify hc with hc | rfl
    · exact ⟨toNat_lt_of_isSlugChar hc, toLower_of_isSlugChar hc⟩
    · decide
  have hwords : nameWords L (slugify L name) = nameWords L name := by
    rw [nameWords, hlower, toList_slugify]
    refine words_intercalate (by decide) fun w hw ↦ ?_
    obtain ⟨hne, hchars⟩ := forall_mem_nameWords L name w hw
    exact ⟨hne, fun c hc ↦ by simpa [isSeparator] using hchars c hc⟩
  refine String.toList_inj.1 ?_
  rw [toList_slugify, hwords, toList_slugify]

theorem slugify_eq_api_iff : slugify L name = "api" ↔ nameWords L name = [['a', 'p', 'i']] := by
  have hseparator (w : List Char) (hw : w ∈ nameWords L name) :
      w ≠ [] ∧ ∀ c ∈ w, isSeparator c = false := forall_mem_words _ w hw
  rw [← String.toList_inj, toList_slugify]
  constructor
  · intro heq
    have hwords := words_intercalate (r := '-') (by decide) hseparator
    rw [heq] at hwords
    exact hwords.symm
  · intro heq
    rw [heq]
    decide

end Slug

/-! ### Names that spell `api` -/

/-- The name shows `api` in some case, and no other letter or digit. -/
def SpellsApi (l : List Char) : Prop :=
  ∃ pre x y z post, l = pre ++ x :: y :: z :: post ∧ x ∈ ['a', 'A'] ∧ y ∈ ['p', 'P'] ∧
    z ∈ ['i', 'I', '\u0130'] ∧ (∀ c ∈ pre, isSlugLetter c = false) ∧
      ∀ c ∈ post, isSlugLetter c = false

section SpellsApi

variable {l pre tail : List Char} {parts : List (List Char)} {c d : Char}

theorem forall_isSeparator_flatten_iff (h : List.Forall₂ Lowers l parts) :
    (∀ d ∈ parts.flatten, isSeparator d = true) ↔ ∀ c ∈ l, isSlugLetter c = false := by
  have hshows := not_congr (exists_isSlugChar_flatten_iff h)
  simpa [isSeparator] using hshows

theorem Lowers.forall_isSeparator (h : Lowers c tail) (hc : isSlugLetter c = false) :
    ∀ d ∈ tail, isSeparator d = true := by
  have hshows := (forall_isSeparator_flatten_iff (.cons h .nil)).2 (by simpa using hc)
  simpa using hshows

/-- The first characters have no letter or digit, so they show nothing. -/
theorem exists_skipped (hpre : ∀ c ∈ pre, isSlugLetter c = false)
    (h : List.Forall₂ Lowers (pre ++ l) parts) :
    ∃ rest, List.Forall₂ Lowers l rest ∧
      words isSeparator parts.flatten = words isSeparator rest.flatten := by
  induction pre generalizing parts with
  | nil => exact ⟨parts, h, rfl⟩
  | cons c pre ih =>
    obtain ⟨hc, hpre⟩ := List.forall_mem_cons.1 hpre
    cases h with
    | cons hpart hparts =>
      obtain ⟨rest, hrest, heq⟩ := ih hpre hparts
      refine ⟨rest, hrest, ?_⟩
      rw [List.flatten_cons, words_append_of_blank (hpart.forall_isSeparator hc), heq]

theorem Lowers.ne_nil (h : Lowers c tail) : tail ≠ [] := by
  cases h with
  | ascii => exact List.cons_ne_nil _ _
  | dottedI => exact List.cons_ne_nil _ _
  | kelvin => exact List.cons_ne_nil _ _
  | other _ _ _ hne => exact hne

/-- A letter or digit comes first in its lower case, perhaps with a dot above. -/
theorem Lowers.cases_of_cons (h : Lowers c (d :: tail)) (hc : isSlugLetter c = true) :
    isSlugChar d = true ∧ (c.toNat < 128 ∧ c.toLower = d ∧ tail = [] ∨
      c = '\u0130' ∧ d = 'i' ∧ tail = ['\u0307'] ∨ c = '\u212a' ∧ d = 'k' ∧ tail = []) := by
  cases h with
  | ascii hascii => exact ⟨(isSlugChar_toLower hascii).trans hc, .inl ⟨hascii, rfl, rfl⟩⟩
  | dottedI => exact ⟨rfl, .inr (.inl ⟨rfl, rfl, rfl⟩)⟩
  | kelvin => exact ⟨rfl, .inr (.inr ⟨rfl, rfl, rfl⟩)⟩
  | other hother hdotted hkelvin =>
    rw [isSlugLetter_eq_false hother hdotted hkelvin] at hc
    cases hc

/-- The lower case begins with that of the first character. -/
theorem exists_of_flatten_eq_cons (h : List.Forall₂ Lowers l parts)
    (heq : parts.flatten = d :: tail) : ∃ c l' t rest, l = c :: l' ∧ Lowers c (d :: t) ∧
      List.Forall₂ Lowers l' rest ∧ tail = t ++ rest.flatten := by
  cases h with
  | nil => cases heq
  | @cons c part l' rest hpart hrest =>
    cases part with
    | nil => exact absurd rfl hpart.ne_nil
    | cons e t =>
      obtain ⟨rfl, rfl⟩ := List.cons.inj heq
      exact ⟨c, l', t, rest, rfl, hpart, hrest, rfl⟩

/-- A letter other than `k` at the beginning comes from this letter, or from a dotted capital I. -/
theorem exists_letter_of_flatten_eq_cons (h : List.Forall₂ Lowers l parts)
    (heq : parts.flatten = d :: tail) (hd : isSlugChar d = true) (hk : d ≠ 'k') :
    ∃ c l' rest, l = c :: l' ∧ List.Forall₂ Lowers l' rest ∧
      (c.toNat < 128 ∧ c.toLower = d ∧ tail = rest.flatten ∨
        c = '\u0130' ∧ d = 'i' ∧ tail = '\u0307' :: rest.flatten) := by
  obtain ⟨c, l', t, rest, rfl, hc, hrest, rfl⟩ := exists_of_flatten_eq_cons h heq
  refine ⟨c, l', rest, rfl, hrest, ?_⟩
  have hletter := hc.exists_isSlugChar_iff.1 ⟨d, List.mem_cons_self, hd⟩
  obtain ⟨-, ⟨hascii, hlower, rfl⟩ | ⟨hdotted, hi, rfl⟩ | ⟨-, hkelvin, -⟩⟩ :=
    hc.cases_of_cons hletter
  · exact .inl ⟨hascii, hlower, rfl⟩
  · exact .inr ⟨hdotted, hi, rfl⟩
  · exact absurd hkelvin hk

/-- If there is one word only, it is where the letters and digits of the name begin. -/
theorem exists_start_of_words {w : List Char} (h : List.Forall₂ Lowers l parts)
    (hwords : words isSeparator parts.flatten = [w]) :
    ∃ pre l' rest t, l = pre ++ l' ∧ (∀ c ∈ pre, isSlugLetter c = false) ∧
      List.Forall₂ Lowers l' rest ∧ rest.flatten = w ++ t ∧ ∀ d ∈ t, isSeparator d = true := by
  have hsplit := List.takeWhile_append_dropWhile (p := fun c ↦ !isSlugLetter c) (l := l)
  have hpre : ∀ c ∈ l.takeWhile fun c ↦ !isSlugLetter c, isSlugLetter c = false := fun c hc ↦ by
    simpa using List.mem_takeWhile_imp hc
  have hfirst := List.head?_dropWhile_not (fun c ↦ !isSlugLetter c) l
  rw [← hsplit] at h
  obtain ⟨rest, hrest, heq⟩ := exists_skipped hpre h
  rw [heq] at hwords
  obtain ⟨lead, t, hline, hlead, ht⟩ := exists_of_words_eq_singleton hwords
  refine ⟨_, _, rest, t, hsplit.symm, hpre, hrest, ?_, ht⟩
  cases lead with
  | nil => exact hline
  | cons e lead =>
    -- the first of them is a letter or digit in lower case, too
    obtain ⟨c, l', t', rest', hl', hc, -, -⟩ := exists_of_flatten_eq_cons hrest hline
    rw [hl'] at hfirst
    have hletter : isSlugLetter c = true := by simpa using hfirst
    have hsep := hlead e List.mem_cons_self
    rw [isSeparator, (hc.cases_of_cons hletter).1] at hsep
    cases hsep

/-- A name with the word `api` only spells it. -/
theorem spellsApi_of_words (h : List.Forall₂ Lowers l parts)
    (hwords : words isSeparator parts.flatten = [['a', 'p', 'i']]) : SpellsApi l := by
  obtain ⟨pre, l', rest, t, rfl, hpre, hrest, hline, ht⟩ := exists_start_of_words h hwords
  obtain ⟨x, l₁, r₁, rfl, h₁, ⟨hx, hxa, heq₁⟩ | ⟨-, hbad, -⟩⟩ :=
    exists_letter_of_flatten_eq_cons hrest hline rfl (by decide)
  · obtain ⟨y, l₂, r₂, rfl, h₂, ⟨hy, hyp, heq₂⟩ | ⟨-, hbad, -⟩⟩ :=
      exists_letter_of_flatten_eq_cons h₁ heq₁.symm rfl (by decide)
    · obtain ⟨z, l₃, r₃, rfl, h₃, hz⟩ :=
        exists_letter_of_flatten_eq_cons h₂ heq₂.symm rfl (by decide)
      refine ⟨pre, x, y, z, l₃, rfl, ?_, ?_, ?_, hpre, (forall_isSeparator_flatten_iff h₃).1 ?_⟩
      · exact forall_ascii (P := fun c ↦ c.toLower = 'a' → c ∈ ['a', 'A']) (by decide) hx hxa
      · exact forall_ascii (P := fun c ↦ c.toLower = 'p' → c ∈ ['p', 'P']) (by decide) hy hyp
      · rcases hz with ⟨hz, hzi, -⟩ | ⟨rfl, -, -⟩
        · exact forall_ascii (P := fun c ↦ c.toLower = 'i' → c ∈ ['i', 'I', '\u0130']) (by decide)
            hz hzi
        · decide
      · rcases hz with ⟨-, -, rfl⟩ | ⟨-, -, rfl⟩
        · exact ht
        · exact (List.forall_mem_cons.1 ht).2
    · cases hbad
  · cases hbad

/-- A name that spells `api` has this word only. -/
theorem words_of_spellsApi (h : List.Forall₂ Lowers l parts) (hl : SpellsApi l) :
    words isSeparator parts.flatten = [['a', 'p', 'i']] := by
  obtain ⟨pre, x, y, z, post, rfl, hx, hy, hz, hpre, hpost⟩ := hl
  obtain ⟨rest, hrest, heq⟩ := exists_skipped hpre h
  obtain ⟨px, _, hxp, hrest₁, rfl⟩ := List.forall₂_cons_left_iff.1 hrest
  obtain ⟨py, _, hyp, hrest₂, rfl⟩ := List.forall₂_cons_left_iff.1 hrest₁
  obtain ⟨pz, last, hzp, hlast, rfl⟩ := List.forall₂_cons_left_iff.1 hrest₂
  have hpx : px = ['a'] := by
    simp only [List.mem_cons, List.not_mem_nil, or_false] at hx
    rcases hx with rfl | rfl <;> exact hxp.eq_of_ascii (by decide)
  have hpy : py = ['p'] := by
    simp only [List.mem_cons, List.not_mem_nil, or_false] at hy
    rcases hy with rfl | rfl <;> exact hyp.eq_of_ascii (by decide)
  have hpz : ∃ t, pz = 'i' :: t ∧ ∀ d ∈ t, isSeparator d = true := by
    simp only [List.mem_cons, List.not_mem_nil, or_false] at hz
    rcases hz with rfl | rfl | rfl
    · exact ⟨[], hzp.eq_of_ascii (by decide), by simp⟩
    · exact ⟨[], hzp.eq_of_ascii (by decide), by simp⟩
    · exact ⟨['\u0307'], hzp.eq_of_dottedI rfl, List.forall_mem_singleton.2 rfl⟩
  obtain ⟨t, rfl, ht⟩ := hpz
  have hblank : ∀ d ∈ t ++ last.flatten, isSeparator d = true :=
    List.forall_mem_append.2 ⟨ht, (forall_isSeparator_flatten_iff hlast).2 hpost⟩
  have hshown : ∀ c ∈ ['a', 'p', 'i'], isSeparator c = false :=
    List.forall_mem_cons.2 ⟨rfl, List.forall_mem_cons.2 ⟨rfl, List.forall_mem_singleton.2 rfl⟩⟩
  have hword : words isSeparator (['a', 'p', 'i'] ++ (t ++ last.flatten)) =
      ['a', 'p', 'i'] :: words isSeparator (t ++ last.flatten) :=
    words_append_of_word (List.cons_ne_nil _ _) hshown fun d hd ↦
      hblank d (List.mem_of_head? hd)
  rw [heq, hpx, hpy, ← words_eq_nil_iff.2 hblank]
  exact hword

/-- **The only word is `api`** just if the name spells it. -/
theorem nameWords_eq_api_iff {L : LowerCase} {name : String} :
    nameWords L name = [['a', 'p', 'i']] ↔ SpellsApi name.toList := by
  obtain ⟨parts, hparts, heq⟩ := L.lowers name
  rw [nameWords, heq]
  exact ⟨spellsApi_of_words hparts, words_of_spellsApi hparts⟩

end SpellsApi

/-! ### Paths -/

/-- `n` of the 32 digits of a GUID. -/
def hexField (id : Uuid) (first n : ℕ) : List Char :=
  (List.range n).map fun i ↦ Nat.digitChar (id / 16 ^ (31 - (first + i)) % 16)

/-- A GUID as it is serialized. -/
def guid (id : Uuid) : String :=
  String.ofList (['-'].intercalate
    [hexField id 0 8, hexField id 8 4, hexField id 12 4, hexField id 16 4, hexField id 20 12])

/-- The path that is pushed for a device. -/
def handleManage (L : LowerCase) (siteName : String) (device : RouterView) : String :=
  "/" ++ slugify L siteName ++ "/device/" ++ guid device.id

/-- What stands between the slashes of a path, and after the last. -/
def segments (path : String) : List String :=
  ((path.toList.splitOn '/').map String.ofList).tail

/-- Where a path leads. -/
inductive Destination where
  /-- A page or a file whose path is fixed. -/
  | fixed (path : String)
  | backend (path : String)
  /-- `[siteSlug]/device/[deviceId]`. -/
  | device (siteSlug deviceId : String)
  | nowhere
  deriving DecidableEq

/-- The pages without parameters, and the files that are served. -/
def fixedPaths : List String :=
  ["/", "/login", "/controller", "/controller/users", "/controller/sites", "/favicon.ico",
    "/file.svg", "/globe.svg", "/logo-mark.png", "/next.svg", "/vercel.svg", "/window.svg"]

/-- The rewrite of `/api` comes after the fixed paths and before the pages with parameters. Those
further down than a device have more segments, and are left out. -/
def destination (path : String) : Destination :=
  if path ∈ fixedPaths then .fixed path
  else if (segments path).head? = some "api" then .backend path
  else match segments path with
    | [siteSlug, middle, deviceId] =>
      if siteSlug ≠ "" ∧ middle = "device" ∧ deviceId ≠ "" then .device siteSlug deviceId
      else .nowhere
    | _ => .nowhere

/-- The path to a device has three segments, of which the first is a slug, and leads to its page. -/
structure UsableRoute (L : LowerCase) (siteName : String) (device : RouterView) : Prop where
  slug : IsSlug (slugify L siteName)
  idempotent : slugify L (slugify L siteName) = slugify L siteName
  segments : segments (handleManage L siteName device) =
    [slugify L siteName, "device", guid device.id]
  nonempty : ∀ s ∈ [slugify L siteName, "device", guid device.id], s ≠ ""
  leads : destination (handleManage L siteName device) =
    .device (slugify L siteName) (guid device.id)

section Path

variable {L : LowerCase} {siteName : String} {device : RouterView}

theorem guid_ne_empty (id : Uuid) : guid id ≠ "" := by
  intro heq
  have htext := congrArg String.toList heq
  rw [guid, String.toList_ofList, intercalate_cons] at htext
  cases (List.append_eq_nil_iff.1 htext).1

theorem slash_not_mem_guid (id : Uuid) : '/' ∉ (guid id).toList := by
  have hdigit : ∀ k < 16, Nat.digitChar k ≠ '/' := by decide
  intro hmem
  rw [guid, String.toList_ofList] at hmem
  rcases eq_or_mem_of_mem_intercalate hmem with h | ⟨w, hw, hmem⟩
  · exact absurd h (by decide)
  · have hfield : ∃ first n, w = hexField id first n := by
      simp only [List.mem_cons, List.not_mem_nil, or_false] at hw
      rcases hw with rfl | rfl | rfl | rfl | rfl <;> exact ⟨_, _, rfl⟩
    obtain ⟨first, n, rfl⟩ := hfield
    obtain ⟨i, -, hi⟩ := List.mem_map.1 hmem
    exact hdigit _ (Nat.mod_lt _ (by decide)) hi

/-- Neither a slug nor a GUID has a slash, so the path has three segments. -/
theorem segments_handleManage (L : LowerCase) (siteName : String) (device : RouterView) :
    segments (handleManage L siteName device) = [slugify L siteName, "device", guid device.id] := by
  have hslug : '/' ∉ (slugify L siteName).toList := fun hmem ↦
    (isSlugChar_of_mem_slugify hmem).elim (by decide) (by decide)
  have hpath : (handleManage L siteName device).toList = ['/'].intercalate
      [[], (slugify L siteName).toList, "device".toList, (guid device.id).toList] := by
    simp [handleManage]
  have hparts : ∀ part ∈ [[], (slugify L siteName).toList, "device".toList,
      (guid device.id).toList], '/' ∉ part := by
    simp [hslug, slash_not_mem_guid]
  rw [segments, hpath, List.splitOn_intercalate '/' hparts (List.cons_ne_nil _ _)]
  simp

theorem handleManage_not_mem_fixedPaths : handleManage L siteName device ∉ fixedPaths := by
  have hshort : ∀ path ∈ fixedPaths, (segments path).length ≤ 2 := by decide
  intro hmem
  have hlength := hshort _ hmem
  rw [segments_handleManage] at hlength
  simp at hlength

theorem destination_handleManage_iff :
    destination (handleManage L siteName device) =
        .device (slugify L siteName) (guid device.id) ↔
      slugify L siteName ≠ "" ∧ slugify L siteName ≠ "api" := by
  rw [destination, if_neg handleManage_not_mem_fixedPaths, segments_handleManage,
    List.head?_cons]
  by_cases hapi : slugify L siteName = "api"
  · simp [hapi]
  · by_cases hempty : slugify L siteName = ""
    · simp [hempty]
    · simp [hapi, hempty, guid_ne_empty]

/-- A site named after the API has the paths to its devices rewritten. -/
theorem destination_eq_backend (h : SpellsApi siteName.toList) :
    destination (handleManage L siteName device) =
      .backend (handleManage L siteName device) := by
  rw [destination, if_neg handleManage_not_mem_fixedPaths, segments_handleManage,
    slugify_eq_api_iff.2 (nameWords_eq_api_iff.2 h)]
  rfl

/-- A route is usable if there is a word in the name, and `api` is not the only one. -/
theorem usableRoute_iff_nameWords : UsableRoute L siteName device ↔
    nameWords L siteName ≠ [] ∧ nameWords L siteName ≠ [['a', 'p', 'i']] := by
  constructor
  · intro h
    refine ⟨isSlug_slugify_iff.1 h.slug, fun hapi ↦ ?_⟩
    exact (destination_handleManage_iff.1 h.leads).2 (slugify_eq_api_iff.2 hapi)
  · rintro ⟨hne, hapi⟩
    have hslug := isSlug_slugify_iff.2 hne
    refine ⟨hslug, slugify_slugify L siteName, segments_handleManage L siteName device, ?_, ?_⟩
    · simp [hslug.ne_empty, guid_ne_empty]
    · exact destination_handleManage_iff.2
        ⟨hslug.ne_empty, fun heq ↦ hapi (slugify_eq_api_iff.1 heq)⟩

end Path

/-! ### Sites -/

/-- The modal for a site, filled in. -/
structure SiteModal where
  initial : Option Site
  name : String
  description : String

namespace SiteModal

/-- What is sent, or the error that is shown. -/
def submit (m : SiteModal) : Except String SiteRequest :=
  if jsTrim m.name = "" then .error "Site name is required."
  else match m.initial with
    | some site => .ok (.update site.id ⟨some (jsTrim m.name), jsField m.description⟩)
    | none => .ok (.create ⟨jsTrim m.name, jsField m.description⟩)

/-- The database answers with this site to what is sent. -/
def Saves (m : SiteModal) (site : Site) : Prop :=
  ∃ (A : Argon2) (w v : Fabric), match m.submit with
    | .ok (.create body) => w.exec A (.insertSite body) (.ok site) = some v
    | .ok (.update id body) => w.exec A (.updateSite id body) (.ok (some site)) = some v
    | _ => False

variable {m : SiteModal} {site : Site}

/-- A site has the name that was typed, trimmed. -/
theorem Saves.name_eq (h : m.Saves site) : site.name = jsTrim m.name := by
  obtain ⟨A, w, v, h⟩ := h
  rw [submit] at h
  by_cases hblank : jsTrim m.name = ""
  · rw [if_pos hblank] at h
    exact h.elim
  rw [if_neg hblank] at h
  cases hinitial : m.initial with
  | none =>
    rw [hinitial] at h
    simp only [Fabric.exec] at h
    split at h
    · next hsite =>
      rw [hsite.1]
      rfl
    · cases h
  | some old =>
    rw [hinitial] at h
    simp only [Fabric.exec] at h
    split at h
    · next hsite =>
      obtain ⟨stored, -, happly⟩ := Option.map_eq_some_iff.1 hsite.1.symm
      rw [← happly]
      rfl
    · cases h

/-- Whatever is not blank is accepted, and can be stored. -/
theorem exists_saves_iff : (∃ site, m.Saves site) ↔ jsTrim m.name ≠ "" := by
  constructor
  · rintro ⟨site, A, w, v, h⟩ hblank
    rw [submit, if_pos hblank] at h
    exact h
  · intro hblank
    have A : Argon2 := ⟨fun _ ↦ false, fun _ _ ↦ false, fun _ _ ↦ false⟩
    cases hinitial : m.initial with
    | none =>
      let w : Fabric := ⟨[], [], [], [], [], [], 0, 0, 0⟩
      let body : CreateSite := ⟨jsTrim m.name, jsField m.description⟩
      refine ⟨w.newSite 0 body, A, w, { w with sites := [w.newSite 0 body], nextId := 1 }, ?_⟩
      rw [submit, if_neg hblank, hinitial]
      exact if_pos ⟨rfl, List.not_mem_nil⟩
    | some old =>
      let w : Fabric := ⟨[old], [], [], [], [], [], 0, 0, 0⟩
      let body : UpdateSite := ⟨some (jsTrim m.name), jsField m.description⟩
      refine ⟨body.apply old, A, w, { w with sites := [body.apply old] }, ?_⟩
      rw [submit, if_neg hblank, hinitial]
      simp [Fabric.exec, Fabric.site, w, body]

end SiteModal

/-- **The route of a site** is usable exactly if there is a letter or digit in its name, and more
than the word `api`. -/
theorem usableRoute_iff (L : LowerCase) {m : SiteModal} {site : Site} (h : m.Saves site)
    (device : RouterView) : UsableRoute L site.name device ↔
      (∃ c ∈ (jsTrim m.name).toList, isSlugLetter c = true) ∧
        ¬SpellsApi (jsTrim m.name).toList := by
  rw [h.name_eq, usableRoute_iff_nameWords, nameWords_ne_nil_iff, ne_eq, nameWords_eq_api_iff]

/-! ### Two sites -/

/-- Lower case of the letters of ASCII, of the dotted capital I and of the Kelvin sign. -/
def lowerChar (c : Char) : List Char :=
  if c = '\u0130' then ['i', '\u0307']
  else if c = '\u212a' then ['k']
  else if c.toNat < 128 then [c.toLower]
  else [c]

theorem lowers_lowerChar (c : Char) : Lowers c (lowerChar c) := by
  rw [lowerChar]
  split
  · next hdotted => exact hdotted ▸ .dottedI
  · next hdotted =>
    split
    · next hkelvin => exact hkelvin ▸ .kelvin
    · next hkelvin =>
      split
      · next hascii => exact .ascii hascii
      · next hascii =>
        have hc := not_lt.1 hascii
        exact .other hc hdotted hkelvin (List.cons_ne_nil _ _) (by simpa using hc)

/-- The lower case of texts whose other letters have no case. -/
def asciiLowerCase : LowerCase where
  toLowerCase s := String.ofList (s.toList.flatMap lowerChar)
  lowers s := by
    refine ⟨s.toList.map lowerChar, ?_, ?_⟩
    · exact List.forall₂_map_right_iff.2 (List.forall₂_same.2 fun c _ ↦ lowers_lowerChar c)
    · rw [String.toList_ofList, List.flatMap]

example : slugify asciiLowerCase "Quartz Systems HQ" = "quartz-systems-hq" := by decide

/-- A new site of a name. -/
def newSiteModal (name : String) : SiteModal := ⟨none, name, ""⟩

theorem saves_newSiteModal (name : String) (hname : jsTrim name = name) (hne : name ≠ "") :
    (newSiteModal name).Saves ⟨0, name, none, 0⟩ := by
  refine ⟨⟨fun _ ↦ false, fun _ _ ↦ false, fun _ _ ↦ false⟩, ⟨[], [], [], [], [], [], 0, 0, 0⟩,
    ⟨[⟨0, name, none, 0⟩], [], [], [], [], [], 0, 0, 1⟩, ?_⟩
  have hblank : jsTrim (newSiteModal name).name ≠ "" := hname.symm ▸ hne
  rw [SiteModal.submit, if_neg hblank]
  refine if_pos ⟨?_, List.not_mem_nil⟩
  rw [newSiteModal, hname]
  rfl

def gatewayView : RouterView where
  id := 1
  siteId := 0
  hostname := "gw"
  description := none
  role := "router"
  mgmtIp := "192.0.2.1"
  status := .off
  version := "1.5"
  uptimeSecs := 0
  apiPort := none
  apiProtocol := "https"
  apiTimeout := 10
  sshUsername := none
  sshPort := 22
  createdAt := 0
  updatedAt := 0

/-- A name of three words. -/
theorem usableRoute_hq : UsableRoute asciiLowerCase "Quartz Systems HQ" gatewayView := by
  have hsaves := saves_newSiteModal "Quartz Systems HQ" (by decide) (by decide)
  refine (usableRoute_iff asciiLowerCase hsaves gatewayView).2 ⟨⟨'Q', by decide, by decide⟩, ?_⟩
  have hwords : nameWords asciiLowerCase "Quartz Systems HQ" ≠ [['a', 'p', 'i']] := by decide
  exact mt nameWords_eq_api_iff.2 hwords

/-- A name that has no letter of ASCII leaves nothing for the slug. -/
theorem not_usableRoute : ¬∀ (L : LowerCase) (m : SiteModal) (site : Site), m.Saves site →
    ∀ device : RouterView, UsableRoute L site.name device := by
  intro h
  have hsaves := saves_newSiteModal "東京" (by decide) (by decide)
  have hroute := h asciiLowerCase _ _ hsaves gatewayView
  exact hroute.slug.ne_empty (by decide)

end VyosFabric
