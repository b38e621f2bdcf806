import Mathlib.Data.List.DropRight
import VyosFabric.Tabular.Lines

/-!
# Runs

Each run of some characters in a text becomes one separator (`replaceRuns`), and separators are
taken off the ends (`trimEnds`). If the separator is such a character itself, what is left are the
words of the text with one separator between any two (`trimEnds_replaceRuns`). These are again the
words of the result (`words_intercalate`), so a second time changes nothing.
-/

namespace Tabular

variable {α : Type} {p : α → Bool} {r : α} {l w : List α} {ws : List (List α)}

/-! ### Blanks at the ends -/

theorem Spaced.append_blank (h : Spaced p l ws) {t : List α} (ht : ∀ c ∈ t, p c = true) :
    Spaced p (l ++ t) ws := by
  induction h with
  | blanks hl => exact .blanks (List.forall_mem_append.2 ⟨hl, ht⟩)
  | @word lead w l ws hlead hne hw hsep _ ih =>
    rw [List.append_assoc, List.append_assoc]
    refine .word hlead hne hw (fun c hc ↦ ?_) ih
    cases l with
    | nil => exact ht c (List.mem_of_head? hc)
    | cons d l => exact hsep c hc

/-- **Blanks at the ends** of a line are not in its words. -/
theorem words_surround {lead t : List α} (hlead : ∀ c ∈ lead, p c = true)
    (ht : ∀ c ∈ t, p c = true) (l : List α) : words p (lead ++ (l ++ t)) = words p l := by
  rw [words_append_of_blank hlead]
  exact words_eq_of_spaced ((spaced_words l).append_blank ht)

/-- A word has characters, and none of them is a blank. -/
theorem forall_mem_words (l : List α) : ∀ w ∈ words p l, w ≠ [] ∧ ∀ c ∈ w, p c = false := by
  have hwords {l : List α} {ws : List (List α)} (h : Spaced p l ws) :
      ∀ w ∈ ws, w ≠ [] ∧ ∀ c ∈ w, p c = false := by
    induction h with
    | blanks => exact fun w hw ↦ absurd hw List.not_mem_nil
    | word _ hne hw _ _ ih => exact List.forall_mem_cons.2 ⟨⟨hne, hw⟩, ih⟩
  exact hwords (spaced_words l)

theorem words_eq_nil_iff : words p l = [] ↔ ∀ c ∈ l, p c = true := by
  refine ⟨fun hwords ↦ ?_, fun h ↦ words_eq_of_spaced (.blanks h)⟩
  have hspaced : Spaced p l [] := hwords ▸ spaced_words l
  cases hspaced with
  | blanks h => exact h

/-- A line with one word has only blanks around it. -/
theorem exists_of_words_eq_singleton (h : words p l = [w]) :
    ∃ lead t, l = lead ++ (w ++ t) ∧ (∀ c ∈ lead, p c = true) ∧ ∀ c ∈ t, p c = true := by
  have hspaced : Spaced p l [w] := h ▸ spaced_words l
  cases hspaced with
  | @word lead w t _ hlead _ _ _ ht =>
    cases ht with
    | blanks ht => exact ⟨lead, t, rfl, hlead, ht⟩

/-! ### Separators between words -/

theorem intercalate_cons (r : α) (w : List α) (ws : List (List α)) :
    [r].intercalate (w :: ws) = w ++ ws.flatMap (r :: ·) := by
  induction ws generalizing w with
  | nil => simp
  | cons v ws ih =>
    rw [List.intercalate_cons_cons, ih, List.flatMap_cons, List.append_assoc, List.singleton_append,
      List.cons_append]

theorem eq_or_mem_of_mem_intercalate {c : α} (hc : c ∈ [r].intercalate ws) :
    c = r ∨ ∃ w ∈ ws, c ∈ w := by
  cases ws with
  | nil => cases hc
  | cons w ws =>
    rw [intercalate_cons] at hc
    rcases List.mem_append.1 hc with hc | hc
    · exact .inr ⟨w, List.mem_cons_self, hc⟩
    · obtain ⟨v, hv, hc⟩ := List.mem_flatMap.1 hc
      exact (List.mem_cons.1 hc).imp_right fun hc ↦ ⟨v, List.mem_cons_of_mem _ hv, hc⟩

/-- Words with one separator before each are words that are shown. -/
theorem spaced_flatMap (hr : p r = true) (hws : ∀ w ∈ ws, w ≠ [] ∧ ∀ c ∈ w, p c = false) :
    Spaced p (ws.flatMap (r :: ·)) ws := by
  induction ws with
  | nil => exact .blanks fun c hc ↦ absurd hc List.not_mem_nil
  | cons w ws ih =>
    obtain ⟨⟨hne, hw⟩, hrest⟩ := List.forall_mem_cons.1 hws
    have hlead : ∀ c ∈ [r], p c = true := by simpa using hr
    refine .word hlead hne hw (fun c hc ↦ ?_) (ih hrest)
    cases ws with
    | nil => cases hc
    | cons v ws => exact (Option.some.inj hc) ▸ hr

/-- **The words of words with separators** are these words. -/
theorem words_intercalate (hr : p r = true) (hws : ∀ w ∈ ws, w ≠ [] ∧ ∀ c ∈ w, p c = false) :
    words p ([r].intercalate ws) = ws := by
  cases ws with
  | nil => rfl
  | cons w ws =>
    have hlead : ∀ c ∈ [r], p c = true := by simpa using hr
    rw [← words_append_of_blank hlead, intercalate_cons]
    exact words_eq_of_spaced (spaced_flatMap hr hws)

/-- Words with separators start and end with a word. -/
theorem ends_intercalate (hws : ∀ w ∈ ws, w ≠ [] ∧ ∀ c ∈ w, p c = false) :
    (∀ c ∈ ([r].intercalate ws).head?, p c = false) ∧
      ∀ c ∈ ([r].intercalate ws).getLast?, p c = false := by
  induction ws with
  | nil => simp
  | cons w ws ih =>
    obtain ⟨⟨hne, hw⟩, hrest⟩ := List.forall_mem_cons.1 hws
    refine ⟨fun c hc ↦ ?_, fun c hc ↦ ?_⟩
    · rw [intercalate_cons, List.head?_append_of_ne_nil _ hne] at hc
      exact hw c (List.mem_of_head? hc)
    · cases ws with
      | nil =>
        rw [List.intercalate_singleton] at hc
        exact hw c (List.mem_of_getLast? hc)
      | cons v ws =>
        have hv : [r].intercalate (v :: ws) ≠ [] := by
          rw [intercalate_cons]
          exact List.append_ne_nil_of_left_ne_nil (hrest v List.mem_cons_self).1 _
        rw [List.intercalate_cons_cons, List.getLast?_append_of_ne_nil _ hv] at hc
        exact (ih hrest).2 c hc

/-! ### A separator for each run -/

/-- Each run of the characters becomes one separator; `inside` says whether a run has begun. -/
def replaceRuns (p : α → Bool) (r : α) (inside : Bool) : List α → List α
  | [] => []
  | c :: cs =>
    if p c then (if inside then [] else [r]) ++ replaceRuns p r true cs
    else c :: replaceRuns p r false cs

theorem replaceRuns_word (hw : ∀ c ∈ w, p c = false) (l : List α) :
    replaceRuns p r false (w ++ l) = w ++ replaceRuns p r false l := by
  induction w with
  | nil => rfl
  | cons c w ih =>
    obtain ⟨hc, hw⟩ := List.forall_mem_cons.1 hw
    rw [List.cons_append, replaceRuns, if_neg (by rw [hc]; decide), ih hw, List.cons_append]

theorem replaceRuns_inside {lead : List α} (h : ∀ c ∈ lead, p c = true) (l : List α) :
    replaceRuns p r true (lead ++ l) = replaceRuns p r true l := by
  induction lead with
  | nil => rfl
  | cons c lead ih =>
    obtain ⟨hc, h⟩ := List.forall_mem_cons.1 h
    rw [List.cons_append, replaceRuns, if_pos hc, if_pos rfl, List.nil_append, ih h]

/-- Outside a run there is one separator more if a run begins. -/
theorem replaceRuns_outside (l : List α) :
    replaceRuns p r false l =
      (if l.head?.any p then [r] else []) ++ replaceRuns p r true l := by
  cases l with
  | nil => rfl
  | cons c cs =>
    cases hc : p c <;> simp [replaceRuns, hc]

/-- Inside a run, the words that follow have separators between them. -/
theorem replaceRuns_spaced (h : Spaced p l ws) :
    ∃ t, (∀ c ∈ t, c = r) ∧ replaceRuns p r true l = [r].intercalate ws ++ t := by
  induction h with
  | @blanks l hl =>
    refine ⟨[], fun c hc ↦ absurd hc List.not_mem_nil, ?_⟩
    rw [← List.append_nil l, replaceRuns_inside hl]
    rfl
  | @word lead w l ws hlead hne hw hsep hl ih =>
    obtain ⟨t, ht, heq⟩ := ih
    have hword : replaceRuns p r true (w ++ l) = w ++ replaceRuns p r false l := by
      cases w with
      | nil => exact absurd rfl hne
      | cons c w =>
        obtain ⟨hc, hw⟩ := List.forall_mem_cons.1 hw
        rw [List.cons_append, replaceRuns, if_neg (by rw [hc]; decide), replaceRuns_word hw]
        rfl
    rw [replaceRuns_inside hlead, hword, replaceRuns_outside, heq]
    cases l with
    | nil =>
      obtain rfl := words_eq_of_spaced hl
      exact ⟨t, ht, by simp [words]⟩
    | cons c cs =>
      have hc : p c = true := hsep c rfl
      rw [List.head?_cons, Option.any_some, if_pos hc]
      cases ws with
      | nil => exact ⟨r :: t, List.forall_mem_cons.2 ⟨rfl, ht⟩, by simp⟩
      | cons v ws => exact ⟨t, ht, by simp [List.intercalate_cons_cons]⟩

/-! ### Separators at the ends -/

/-- Without some characters at both ends. -/
def trimEnds (q : α → Bool) (l : List α) : List α := (l.dropWhile q).rdropWhile q

theorem trimEnds_surround {q : α → Bool} {pre m t : List α} (hpre : ∀ c ∈ pre, q c = true)
    (ht : ∀ c ∈ t, q c = true) (hhead : ∀ c ∈ m.head?, q c = false)
    (hlast : ∀ c ∈ m.getLast?, q c = false) : trimEnds q (pre ++ (m ++ t)) = m := by
  rw [trimEnds, List.dropWhile_append_of_pos hpre]
  cases m with
  | nil => rw [List.nil_append, List.dropWhile_eq_nil_iff.2 ht, List.rdropWhile_nil]
  | cons c cs =>
    have hc : q c = false := hhead c rfl
    rw [List.cons_append, List.dropWhile_cons_of_neg (by rw [hc]; decide), ← List.cons_append,
      List.rdropWhile, List.reverse_append,
      List.dropWhile_append_of_pos fun d hd ↦ ht d (List.mem_reverse.1 hd)]
    refine List.rdropWhile_eq_self_iff.2 fun hne ↦ ?_
    rw [hlast _ (List.getLast?_eq_some_getLast hne)]
    decide

theorem exists_trimEnds (q : α → Bool) (l : List α) :
    ∃ pre t, (∀ c ∈ pre, q c = true) ∧ (∀ c ∈ t, q c = true) ∧ l = pre ++ (trimEnds q l ++ t) := by
  refine ⟨l.takeWhile q, ((l.dropWhile q).reverse.takeWhile q).reverse,
    fun c hc ↦ List.mem_takeWhile_imp hc,
    fun c hc ↦ List.mem_takeWhile_imp (List.mem_reverse.1 hc), ?_⟩
  rw [trimEnds, List.rdropWhile, ← List.reverse_append, List.takeWhile_append_dropWhile,
    List.reverse_reverse, List.takeWhile_append_dropWhile]

/-- Without blanks at the ends, a line has the same words. -/
theorem words_trimEnds {q : α → Bool} (hq : ∀ c, q c = true → p c = true) (l : List α) :
    words p (trimEnds q l) = words p l := by
  obtain ⟨pre, t, hpre, ht, hline⟩ := exists_trimEnds q l
  conv_rhs => rw [hline]
  exact (words_surround (fun c hc ↦ hq c (hpre c hc)) (fun c hc ↦ hq c (ht c hc)) _).symm

/-- **A separator for each run**, and none at the ends: the words with separators between them. -/
theorem trimEnds_replaceRuns [DecidableEq α] (hr : p r = true) (l : List α) :
    trimEnds (· == r) (replaceRuns p r false l) = [r].intercalate (words p l) := by
  obtain ⟨t, ht, heq⟩ := replaceRuns_spaced (p := p) (r := r) (spaced_words l)
  obtain ⟨hhead, hlast⟩ := ends_intercalate (r := r) (forall_mem_words (p := p) l)
  have hother (c : α) (hc : p c = false) : (c == r) = false := by
    refine beq_eq_false_iff_ne.2 fun heq ↦ ?_
    rw [heq, hr] at hc
    cases hc
  rw [replaceRuns_outside, heq]
  refine trimEnds_surround (fun c hc ↦ ?_) (fun c hc ↦ beq_iff_eq.2 (ht c hc))
    (fun c hc ↦ hother c (hhead c hc)) fun c hc ↦ hother c (hlast c hc)
  split at hc
  · exact beq_iff_eq.2 (List.mem_singleton.1 hc)
  · cases hc

end Tabular
