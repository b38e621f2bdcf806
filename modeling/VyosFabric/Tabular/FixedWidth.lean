import Mathlib.Data.List.Basic

/-!
# Tables of fixed width

A table prints its columns one behind the other, each filled up with blanks to its width and
followed by a gap (`printLine`). Under the header each column has a run of dashes as wide as itself,
so that the starts of the runs are the offsets of the columns (`runStarts_printLine`), and what
stands between two offsets in any other line is the cell of that column, up to blanks behind it
(`chunk_printLine`).

Lines may have lost blanks at their ends, or have some more (`SameUpToBlanks`). A column of no width
has no run, and nothing to show.
-/

namespace Tabular

variable {α : Type} {blank dash : α}

/-! ### Blanks at the end -/

/-- The same line, but for blanks at the end. -/
def SameUpToBlanks (blank : α) (l l' : List α) : Prop :=
  ∃ m n, l ++ List.replicate m blank = l' ++ List.replicate n blank

namespace SameUpToBlanks

variable {l l' l'' : List α}

theorem refl (l : List α) : SameUpToBlanks blank l l := ⟨0, 0, rfl⟩

theorem symm (h : SameUpToBlanks blank l l') : SameUpToBlanks blank l' l :=
  let ⟨m, n, h⟩ := h
  ⟨n, m, h.symm⟩

theorem trans (h : SameUpToBlanks blank l l') (h' : SameUpToBlanks blank l' l'') :
    SameUpToBlanks blank l l'' := by
  obtain ⟨m, n, h⟩ := h
  obtain ⟨p, q, h'⟩ := h'
  refine ⟨m + p, n + q, ?_⟩
  rw [List.replicate_add, ← List.append_assoc, h, List.append_assoc, ← List.replicate_add,
    Nat.add_comm n p, List.replicate_add, ← List.append_assoc, h', List.append_assoc,
    ← List.replicate_add, Nat.add_comm q n]

theorem append_replicate (l : List α) (n : ℕ) :
    SameUpToBlanks blank (l ++ List.replicate n blank) l :=
  ⟨0, n, by simp⟩

/-- What blanks at the end do not change is the same. -/
theorem congr {β : Type} {f : List α → β} (hf : ∀ l n, f (l ++ List.replicate n blank) = f l)
    (h : SameUpToBlanks blank l l') : f l = f l' := by
  obtain ⟨m, n, h⟩ := h
  rw [← hf l m, h, hf l' n]

theorem mem {c : α} (h : SameUpToBlanks blank l l') (hc : c ∈ l) (hne : c ≠ blank) : c ∈ l' := by
  obtain ⟨m, n, h⟩ := h
  have hmem : c ∈ l' ++ List.replicate n blank := h ▸ List.mem_append_left _ hc
  exact (List.mem_append.1 hmem).resolve_right fun hblank ↦ hne (List.eq_of_mem_replicate hblank)

end SameUpToBlanks

/-! ### Cutting a line -/

/-- What stands from `start` on, up to the end given or to the end of the line. -/
def chunk (l : List α) (start : ℕ) : Option ℕ → List α
  | none => l.drop start
  | some stop => (l.take stop).drop start

theorem exists_chunk_append_replicate (blank : α) (l : List α) (n start : ℕ) (stop : Option ℕ) :
    ∃ k, chunk (l ++ List.replicate n blank) start stop =
      chunk l start stop ++ List.replicate k blank := by
  cases stop with
  | none =>
    exact ⟨n - (start - l.length), by rw [chunk, List.drop_append, List.drop_replicate]; rfl⟩
  | some stop =>
    refine ⟨min (stop - l.length) n - (start - (l.take stop).length), ?_⟩
    rw [chunk, List.take_append, List.drop_append, List.take_replicate, List.drop_replicate]
    rfl

theorem SameUpToBlanks.chunk {l l' : List α} (h : SameUpToBlanks blank l l') (start : ℕ)
    (stop : Option ℕ) : SameUpToBlanks blank (chunk l start stop) (chunk l' start stop) := by
  obtain ⟨m, n, h⟩ := h
  obtain ⟨j, hj⟩ := exists_chunk_append_replicate blank l m start stop
  obtain ⟨k, hk⟩ := exists_chunk_append_replicate blank l' n start stop
  exact ⟨j, k, by rw [← hj, ← hk, h]⟩

/-! ### Runs of dashes -/

section Runs

variable [DecidableEq α]

/-- Where the runs of dashes start in a line, the first character of which is at `i`, behind a dash
or not. -/
def runStarts (dash : α) : ℕ → Bool → List α → List ℕ
  | _, _, [] => []
  | i, inRun, c :: cs =>
    if c = dash then (if inRun then [] else [i]) ++ runStarts dash (i + 1) true cs
    else runStarts dash (i + 1) false cs

theorem runStarts_dashes (n i : ℕ) (l : List α) :
    runStarts dash i true (List.replicate n dash ++ l) = runStarts dash (i + n) true l := by
  induction n generalizing i with
  | zero => rfl
  | succ n ih =>
    rw [List.replicate_succ, List.cons_append, runStarts, if_pos rfl, if_pos rfl, List.nil_append,
      ih]
    congr 1
    omega

theorem runStarts_blanks (h : blank ≠ dash) {n : ℕ} (hn : 1 ≤ n) (i : ℕ) (inRun : Bool)
    (l : List α) :
    runStarts dash i inRun (List.replicate n blank ++ l) = runStarts dash (i + n) false l := by
  induction n generalizing i inRun with
  | zero => omega
  | succ n ih =>
    rw [List.replicate_succ, List.cons_append, runStarts, if_neg h]
    cases n with
    | zero => rfl
    | succ n =>
      rw [ih (by omega)]
      congr 1
      omega

theorem runStarts_append_replicate (h : blank ≠ dash) (l : List α) (n i : ℕ) (inRun : Bool) :
    runStarts dash i inRun (l ++ List.replicate n blank) = runStarts dash i inRun l := by
  induction l generalizing i inRun with
  | nil =>
    cases n with
    | zero => rfl
    | succ n =>
      have hblanks := runStarts_blanks h (Nat.succ_pos n) i inRun []
      rwa [List.append_nil] at hblanks
  | cons c l ih =>
    rw [List.cons_append, runStarts, runStarts, ih, ih]

end Runs

/-! ### Printing -/

section Print

variable {κ : Type} {width gap : κ → ℕ} {text : κ → List α}

/-- A line of the table: each column shows its text, filled up to its width, and leaves its gap. -/
def printLine (blank : α) (width gap : κ → ℕ) (text : κ → List α) : List κ → List α
  | [] => []
  | c :: cs => text c ++ (List.replicate (width c - (text c).length + gap c) blank ++
      printLine blank width gap text cs)

theorem mem_printLine_of_mem {cols : List κ} {c : κ} (hc : c ∈ cols) {a : α} (ha : a ∈ text c) :
    a ∈ printLine blank width gap text cols := by
  induction cols with
  | nil => cases hc
  | cons d cs ih =>
    rw [printLine]
    rcases List.mem_cons.1 hc with rfl | hc
    · exact List.mem_append_left _ ha
    · exact List.mem_append_right _ (List.mem_append_right _ (ih hc))

/-- There is nothing in a line but its cells and blanks. -/
theorem eq_or_mem_of_mem_printLine {cols : List κ} {a : α}
    (ha : a ∈ printLine blank width gap text cols) : a = blank ∨ ∃ c ∈ cols, a ∈ text c := by
  induction cols with
  | nil => cases ha
  | cons d cs ih =>
    rw [printLine, List.mem_append, List.mem_append] at ha
    rcases ha with ha | ha | ha
    · exact .inr ⟨d, List.mem_cons_self, ha⟩
    · exact .inl (List.eq_of_mem_replicate ha)
    · exact (ih ha).imp_right fun ⟨c, hc, hmem⟩ ↦ ⟨c, List.mem_cons_of_mem _ hc, hmem⟩

/-- Where the columns start that have a width. -/
def offsets (width gap : κ → ℕ) : ℕ → List κ → List ℕ
  | _, [] => []
  | i, c :: cs =>
    if width c = 0 then offsets width gap (i + gap c) cs
    else i :: offsets width gap (i + width c + gap c) cs

theorem length_offsets (i : ℕ) (cols : List κ) :
    (offsets width gap i cols).length = (cols.filter fun c ↦ width c != 0).length := by
  induction cols generalizing i with
  | nil => rfl
  | cons c cs ih =>
    rw [offsets]
    by_cases hwidth : width c = 0
    · rw [if_pos hwidth, List.filter_cons_of_neg (by simp [hwidth]), ih]
    · rw [if_neg hwidth, List.filter_cons_of_pos (by simpa using hwidth), List.length_cons,
        List.length_cons, ih]

/-- The dashes under a column. -/
def dashes (dash : α) (width : κ → ℕ) (c : κ) : List α := List.replicate (width c) dash

/-- **The runs of dashes start** where the columns do. -/
theorem runStarts_printLine [DecidableEq α] (h : blank ≠ dash) {cols : List κ}
    (hgap : ∀ c ∈ cols, 1 ≤ gap c) (i : ℕ) :
    runStarts dash i false (printLine blank width gap (dashes dash width) cols) =
      offsets width gap i cols := by
  induction cols generalizing i with
  | nil => rfl
  | cons c cs ih =>
    obtain ⟨hc, hcs⟩ := List.forall_mem_cons.1 hgap
    have hblanks : 1 ≤ width c - (dashes dash width c).length + gap c := by omega
    have hfull : width c - (dashes dash width c).length + gap c = gap c := by simp [dashes]
    rw [printLine, offsets]
    cases hwidth : width c with
    | zero =>
      have hnone : dashes dash width c = [] := by simp [dashes, hwidth]
      rw [if_pos rfl, ← hwidth, hfull, hnone, List.nil_append, runStarts_blanks h hc, ih hcs]
    | succ w =>
      have hsome : dashes dash width c = dash :: List.replicate w dash := by
        rw [dashes, hwidth, List.replicate_succ]
      rw [if_neg (Nat.succ_ne_zero w), ← hwidth, hfull, hsome, List.cons_append, runStarts,
        if_pos rfl, runStarts_dashes, runStarts_blanks h hc, ih hcs, hwidth]
      simp only [Bool.false_eq_true, if_false, List.singleton_append]
      congr 2
      omega

/-- Up to the next column that has a width there are blanks. -/
theorem exists_blanks_of_offsets {cols : List κ} (htext : ∀ c ∈ cols, (text c).length ≤ width c)
    (i : ℕ) :
    ((offsets width gap i cols).head? = none ∧
      ∃ k, printLine blank width gap text cols = List.replicate k blank) ∨
    ∃ k rest, (offsets width gap i cols).head? = some (i + k) ∧
      printLine blank width gap text cols = List.replicate k blank ++ rest := by
  induction cols generalizing i with
  | nil => exact .inl ⟨rfl, 0, rfl⟩
  | cons c cs ih =>
    obtain ⟨hc, hcs⟩ := List.forall_mem_cons.1 htext
    rw [printLine, offsets]
    split
    · next hwidth =>
      have hnil : text c = [] := List.length_eq_zero_iff.1 (by omega)
      have hfull : width c - (text c).length + gap c = gap c := by omega
      rw [hfull, hnil, List.nil_append]
      rcases ih hcs (i + gap c) with ⟨hnone, k, hk⟩ | ⟨k, rest, hsome, hk⟩
      · exact .inl ⟨hnone, gap c + k, by rw [hk, List.replicate_add]⟩
      · refine .inr ⟨gap c + k, rest, by rw [hsome, Nat.add_assoc], ?_⟩
        rw [hk, List.replicate_add, List.append_assoc]
    · exact .inr ⟨0, _, rfl, rfl⟩

/-- A text with blanks behind it ends where the next column starts, or with the line. -/
theorem chunk_cell {cols : List κ} (htext : ∀ c ∈ cols, (text c).length ≤ width c)
    {front cell : List α} {i n k : ℕ} (hfront : front.length = i) (hk : cell.length + n = k) :
    SameUpToBlanks blank
      (chunk (front ++ (cell ++ (List.replicate n blank ++ printLine blank width gap text cols))) i
        (offsets width gap (i + k) cols).head?) cell := by
  rcases @exists_blanks_of_offsets _ blank _ width gap text cols htext (i + k) with
    ⟨hnone, m, hm⟩ | ⟨m, rest, hsome, hm⟩
  · rw [hnone, hm, chunk, List.drop_left' hfront, ← List.replicate_add]
    exact .append_replicate _ _
  · have hsplit : front ++ (cell ++ (List.replicate n blank ++ (List.replicate m blank ++ rest))) =
        front ++ (cell ++ List.replicate (n + m) blank) ++ rest := by
      rw [List.replicate_add]
      simp only [List.append_assoc]
    have hlength : (front ++ (cell ++ List.replicate (n + m) blank)).length = i + k + m := by
      simp only [List.length_append, List.length_replicate]
      omega
    rw [hsome, hm, chunk, hsplit, List.take_left' hlength, List.drop_left' hfront]
    exact .append_replicate _ _

/-- **What stands between two offsets** is the text of the column, up to blanks behind it. -/
theorem chunk_printLine {cols : List κ} (htext : ∀ c ∈ cols, (text c).length ≤ width c)
    {front : List α} {i : ℕ} (hfront : front.length = i) {j : ℕ} {c : κ}
    (hc : (cols.filter fun c ↦ width c != 0)[j]? = some c) :
    ∃ start, (offsets width gap i cols)[j]? = some start ∧
      SameUpToBlanks blank (chunk (front ++ printLine blank width gap text cols) start
        (offsets width gap i cols)[j + 1]?) (text c) := by
  induction cols generalizing front i j with
  | nil => cases hc
  | cons d cs ih =>
    obtain ⟨hd, hcs⟩ := List.forall_mem_cons.1 htext
    have hwide : (text d).length + (width d - (text d).length + gap d) = width d + gap d := by omega
    rw [printLine, offsets]
    by_cases hwidth : width d = 0
    · have hnil : text d = [] := List.length_eq_zero_iff.1 (by omega)
      rw [List.filter_cons_of_neg (by simp [hwidth])] at hc
      rw [if_pos hwidth, hnil, List.nil_append, ← List.append_assoc]
      refine ih hcs ?_ hc
      rw [List.length_append, List.length_replicate, hfront]
      simp [hwidth]
    · rw [List.filter_cons_of_pos (by simpa using hwidth)] at hc
      rw [if_neg hwidth, Nat.add_assoc]
      cases j with
      | zero =>
        obtain rfl : d = c := Option.some.inj hc
        refine ⟨i, rfl, ?_⟩
        rw [List.getElem?_cons_succ, ← List.head?_eq_getElem?]
        exact chunk_cell hcs hfront hwide
      | succ j =>
        rw [← List.append_assoc, ← List.append_assoc]
        refine ih hcs ?_ hc
        rw [List.append_assoc, List.length_append, List.length_append, List.length_replicate,
          hfront,
          hwide]

end Print

end Tabular
