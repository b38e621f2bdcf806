import Mathlib.Data.List.Induction
import Mathlib.Data.List.TakeWhile

/-!
# Lines and words

A text is cut into lines at its line ends (`lines`), and a line into words at its blanks (`words`).
Texts that end a line can be put one after the other (`lines_append`), and a line that shows some
words with blanks between them (`Spaced`) has just those words (`words_eq_of_spaced`).
-/

namespace Tabular

/-! ### Lines -/

/-- A character more at the beginning of the first line. -/
def grow (c : Char) : List (List Char) → List (List Char)
  | [] => [[c]]
  | l :: ls => (c :: l) :: ls

/-- The lines of a text, without `\n` or `\r\n` at their ends. -/
def lines : List Char → List (List Char)
  | [] => []
  | '\n' :: cs => [] :: lines cs
  | '\r' :: '\n' :: cs => [] :: lines cs
  | c :: cs => grow c (lines cs)

theorem lines_ne_nil {text : List Char} (h : text ≠ []) : lines text ≠ [] := by
  induction text using lines.induct with
  | case1 => exact absurd rfl h
  | case2 cs _ => exact List.cons_ne_nil _ _
  | case3 cs _ => exact List.cons_ne_nil _ _
  | case4 c cs hnl hcr _ =>
    rw [lines.eq_4 c cs hnl hcr]
    cases lines cs with
    | nil => exact List.cons_ne_nil _ _
    | cons l ls => exact List.cons_ne_nil _ _

theorem grow_append {c : Char} {ls : List (List Char)} (h : ls ≠ []) (ls' : List (List Char)) :
    grow c (ls ++ ls') = grow c ls ++ ls' := by
  cases ls with
  | nil => exact absurd rfl h
  | cons l ls => rfl

/-- Every line of the text has its end. -/
def Terminated (text : List Char) : Prop := ∀ c ∈ text.getLast?, c = '\n'

theorem Terminated.of_cons {c : Char} {cs : List Char} (h : Terminated (c :: cs)) :
    Terminated cs := by
  intro d hd
  refine h d ?_
  rw [List.getLast?_cons, hd]
  rfl

/-- **The lines of a text that ends a line** come before those of what follows. -/
theorem lines_append {a : List Char} (ha : Terminated a) (b : List Char) :
    lines (a ++ b) = lines a ++ lines b := by
  induction a using lines.induct with
  | case1 => rfl
  | case2 cs ih => exact congrArg _ (ih ha.of_cons)
  | case3 cs ih => exact congrArg _ (ih ha.of_cons.of_cons)
  | case4 c cs hnl hcr ih =>
    have hne : cs ≠ [] := by
      rintro rfl
      exact hnl (ha c rfl)
    have hcr' : ∀ rest, c = '\r' → cs ++ b = '\n' :: rest → False := by
      intro rest hc hrest
      cases cs with
      | nil => exact hne rfl
      | cons d cs => exact hcr cs hc (by rw [(List.cons.inj hrest).1])
    rw [List.cons_append, lines.eq_4 c (cs ++ b) hnl hcr', ih ha.of_cons, lines.eq_4 c cs hnl hcr,
      grow_append (lines_ne_nil hne)]

/-! ### Words -/

variable {α : Type} {blank : α → Bool}

/-- What stands between the blanks of a line. -/
def words (blank : α → Bool) (l : List α) : List (List α) :=
  (l.splitOnP blank).filter fun w ↦ !w.isEmpty

/-- A line that shows words: blanks before each, and between any two. -/
inductive Spaced (blank : α → Bool) : List α → List (List α) → Prop
  | blanks {l : List α} (h : ∀ c ∈ l, blank c = true) : Spaced blank l []
  | word {lead w l : List α} {ws : List (List α)} (hlead : ∀ c ∈ lead, blank c = true)
      (hne : w ≠ []) (hw : ∀ c ∈ w, blank c = false)
      (hsep : ∀ c ∈ l.head?, blank c = true) (hl : Spaced blank l ws) :
      Spaced blank (lead ++ (w ++ l)) (w :: ws)

theorem words_append_of_blank {lead : List α} (h : ∀ c ∈ lead, blank c = true) (l : List α) :
    words blank (lead ++ l) = words blank l := by
  induction lead with
  | nil => rfl
  | cons c lead ih =>
    rw [List.cons_append, words, List.splitOnP_cons_eq_if_modifyHead,
      if_pos (h c List.mem_cons_self)]
    exact ih fun d hd ↦ h d (List.mem_cons_of_mem _ hd)

theorem words_append_of_word {w l : List α} (hne : w ≠ []) (hw : ∀ c ∈ w, blank c = false)
    (hsep : ∀ c ∈ l.head?, blank c = true) : words blank (w ++ l) = w :: words blank l := by
  have hkeep (ws : List (List α)) : (w :: ws).filter (fun w ↦ !w.isEmpty) =
      w :: ws.filter fun w ↦ !w.isEmpty := List.filter_cons_of_pos (by simpa using hne)
  cases l with
  | nil =>
    rw [List.append_nil, words, List.splitOnP_eq_singleton hw, hkeep]
    rfl
  | cons c l =>
    have hc : blank c = true := hsep c rfl
    rw [words, List.splitOnP_append_cons_of_forall_mem hw c hc, hkeep]
    have hrest : words blank (c :: l) = words blank l :=
      @words_append_of_blank _ _ [c] (by simpa using hc) l
    rw [hrest]
    rfl

/-- **The words of a line** are those it shows. -/
theorem words_eq_of_spaced {l : List α} {ws : List (List α)} (h : Spaced blank l ws) :
    words blank l = ws := by
  induction h with
  | blanks h =>
    have hrest := words_append_of_blank h []
    rwa [List.append_nil] at hrest
  | word hlead hne hw hsep _ ih =>
    rw [words_append_of_blank hlead, words_append_of_word hne hw hsep, ih]

/-- A line that does not start with a blank starts with its first word. -/
theorem words_cons {c : α} (hc : blank c = false) (cs : List α) :
    words blank (c :: cs) = (c :: cs).takeWhile (fun d ↦ !blank d) ::
      words blank ((c :: cs).dropWhile fun d ↦ !blank d) := by
  have hne : (c :: cs).takeWhile (fun d ↦ !blank d) ≠ [] := by
    rw [List.takeWhile_cons_of_pos (by simpa using hc)]
    exact List.cons_ne_nil _ _
  conv_lhs => rw [← List.takeWhile_append_dropWhile (p := fun d ↦ !blank d) (l := c :: cs)]
  refine words_append_of_word hne (fun d hd ↦ ?_) fun d hd ↦ ?_
  · simpa using List.mem_takeWhile_imp hd
  · have hrest := List.head?_dropWhile_not (fun d ↦ !blank d) (c :: cs)
    rw [hd] at hrest
    simpa using hrest

/-- A line shows its words. -/
theorem spaced_words (l : List α) : Spaced blank l (words blank l) := by
  have hsplit : words blank l = words blank (l.dropWhile blank) := by
    conv_lhs => rw [← List.takeWhile_append_dropWhile (p := blank) (l := l)]
    exact words_append_of_blank (fun c hc ↦ List.mem_takeWhile_imp hc) _
  cases hrest : l.dropWhile blank with
  | nil =>
    rw [hsplit, hrest]
    exact .blanks (List.dropWhile_eq_nil_iff.1 hrest)
  | cons c cs =>
    have hc : blank c = false := by
      have hfirst := List.head?_dropWhile_not blank l
      rw [hrest] at hfirst
      exact hfirst
    have hlt : ((c :: cs).dropWhile fun d ↦ !blank d).length < l.length := by
      have hsub := (List.dropWhile_sublist blank (l := l)).length_le
      rw [hrest] at hsub
      rw [List.dropWhile_cons_of_pos (by simpa using hc)]
      exact ((List.dropWhile_sublist _).length_le.trans_lt (Nat.lt_succ_self _)).trans_le hsub
    have hline : l = l.takeWhile blank ++ ((c :: cs).takeWhile (fun d ↦ !blank d) ++
        (c :: cs).dropWhile fun d ↦ !blank d) := by
      rw [List.takeWhile_append_dropWhile, ← hrest, List.takeWhile_append_dropWhile]
    rw [hsplit, hrest, words_cons hc]
    conv => arg 2; rw [hline]
    refine .word (fun d hd ↦ List.mem_takeWhile_imp hd) ?_ (fun d hd ↦ ?_) (fun d hd ↦ ?_)
      (spaced_words _)
    · rw [List.takeWhile_cons_of_pos (by simpa using hc)]
      exact List.cons_ne_nil _ _
    · simpa using List.mem_takeWhile_imp hd
    · have hnext := List.head?_dropWhile_not (fun d ↦ !blank d) (c :: cs)
      rw [hd] at hnext
      simpa using hnext
termination_by l.length

/-- **A line shows its words** and no others. -/
theorem spaced_iff {l : List α} {ws : List (List α)} : Spaced blank l ws ↔ words blank l = ws :=
  ⟨words_eq_of_spaced, fun h ↦ h ▸ spaced_words l⟩

end Tabular
