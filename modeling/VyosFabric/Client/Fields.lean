import VyosFabric.Client.NatForms
import VyosFabric.Model.Text

/-!
# What becomes of a text in a form

A leaf the backend shows, trimmed by it, goes through a form's field and comes back to the backend,
which trims it again (`retyped`). It comes back as it was exactly if the page's own trimming leaves
it alone (`retyped_eq_self_iff`), that is, if no byte-order mark stands at its ends.
-/

namespace VyosFabric

/-! ### Trimming twice -/

theorem jsTrim_eq (s : String) : jsTrim s = String.ofList (strip isJsWhitespace s.toList) := rfl

/-- A trimmed text survives the page's trimming and the backend's if the page leaves it alone. -/
theorem trim_jsTrim_eq_self_iff {t : String} (ht : trim t = t) :
    trim (jsTrim t) = t ↔ jsTrim t = t := by
  constructor
  · intro h
    have hlist : strip isWhitespace (strip isJsWhitespace t.toList) = t.toList := by
      have := congrArg String.toList h
      simpa [trim_eq, jsTrim_eq] using this
    have hle := (strip_sublist isWhitespace (strip isJsWhitespace t.toList)).length_le
    rw [hlist] at hle
    rw [jsTrim_eq, (strip_sublist isJsWhitespace t.toList).eq_of_length_le hle,
      String.ofList_toList]
  · intro h
    rw [h, ht]

/-! ### Shown and sent back -/

/-- What the backend reads of a shown text that a form sends back. -/
def retyped (shown : Option String) : Option String := trimmed (jsField (shown.getD ""))

/-- The page's trimming leaves the text alone. -/
def Unmarked (shown : Option String) : Prop := ∀ t, shown = some t → jsTrim t = t

/-- Nothing is left of the text when it comes back. -/
def Vanishes (shown : Option String) : Prop := ∀ t, shown = some t → trim (jsTrim t) = ""

instance (shown : Option String) : Decidable (Unmarked shown) :=
  inferInstanceAs (Decidable (∀ t ∈ shown, jsTrim t = t))

instance (shown : Option String) : Decidable (Vanishes shown) :=
  inferInstanceAs (Decidable (∀ t ∈ shown, trim (jsTrim t) = ""))

@[simp] theorem retyped_none : retyped none = none := by decide

theorem retyped_some (t : String) :
    retyped (some t) = if trim (jsTrim t) = "" then none else some (trim (jsTrim t)) := by
  show trimmed (jsField t) = _
  rw [jsField]
  split
  · rename_i hblank
    rw [hblank]
    decide
  · exact trimmed_some _

/-- A shown interface is trimmed. -/
theorem trimmed_liveInterface (v : Json) (key : String) :
    trimmed (liveInterface (some v) key).1 = (liveInterface (some v) key).1 := by
  cases hname : v.nestedStr key "name" with
  | some n =>
    rw [liveInterface_of_name hname]
    exact hname ▸ trimmed_nestedStr v key "name"
  | none =>
    cases hgroup : v.nestedStr key "group" with
    | some g =>
      rw [liveInterface_of_group hname hgroup]
      exact hgroup ▸ trimmed_nestedStr v key "group"
    | none =>
      rw [liveInterface_bare hname hgroup]
      exact trimmed_childStr v key

theorem retyped_eq_none_iff {shown : Option String} : retyped shown = none ↔ Vanishes shown := by
  cases shown with
  | none => simp [Vanishes]
  | some t => simp [Vanishes, retyped_some]

/-- **A shown text comes back as it was** if the page leaves it alone. -/
theorem retyped_eq_self_iff {shown : Option String} (hshown : trimmed shown = shown) :
    retyped shown = shown ↔ Unmarked shown := by
  cases shown with
  | none => simp [Unmarked]
  | some t =>
    obtain ⟨ht, hne⟩ := trim_eq_of_trimmed hshown rfl
    have hunmarked : Unmarked (some t) ↔ jsTrim t = t := by simp [Unmarked]
    rw [hunmarked, ← trim_jsTrim_eq_self_iff ht, retyped_some]
    constructor
    · intro h
      split at h
      · cases h
      · exact Option.some.inj h
    · intro h
      rw [h, if_neg hne]

/-- The number of an accepted form is the original number it sends. -/
theorem originalRule_of_ruleNumber {rule : String} {num : ℕ} (h : ruleNumber rule = some num) :
    originalRule rule = .ok (some num) := by
  obtain ⟨hread, -, hle⟩ := ruleNumber_eq_some.1 h
  have hrange : ((num : ℕ) : ℚ).den = 1 ∧ (0 : ℚ) ≤ num ∧ (num : ℚ) < 2 ^ 32 := by
    have hlt : num < 2 ^ 32 := by omega
    exact ⟨Rat.den_natCast num, by positivity, by exact_mod_cast hlt⟩
  rw [originalRule, hread]
  exact if_pos hrange

/-- Only other listed texts of the number clash with an edit that keeps it. -/
theorem clashes_keeping {num : ℕ} {rule r : String}
    (hquiet : r ≠ rule → number r ≠ some (num : ℚ)) : clashes num (some rule) r = false := by
  rw [clashes, Bool.and_eq_false_iff]
  by_cases hsame : r = rule
  · exact Or.inr (by simp [hsame])
  · exact Or.inl (by simpa using hquiet hsame)

end VyosFabric
