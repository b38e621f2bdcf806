import VyosFabric.Model.Text
import VyosFabric.Tabular.FixedWidth
import VyosFabric.Tabular.Lines

/-!
# The table of `show dhcp server leases`

The parser finds the line of dashes, takes the starts of its runs for the offsets of the columns,
and looks for the columns of a lease by words in their labels. A table that prints some leases
(`LeaseTable`), with its columns in any order and whatever others between them, is parsed back to
the leases that have an address (`parseLeases_eq`).
-/

namespace VyosFabric

open Tabular

/-! ### Parsing -/

structure DhcpLease where
  ipAddress : String
  macAddress : Option String
  state : Option String
  leaseStart : Option String
  leaseExpiration : Option String
  remaining : Option String
  pool : Option String
  hostname : Option String
  deriving DecidableEq, Repr

/-- The line that separates the header from the rows. -/
def isDashLine (l : List Char) : Bool :=
  let t := strip isWhitespace l
  !t.isEmpty && t.all (fun c ↦ c == '-' || c == ' ') && t.contains '-'

/-- `field`: the cell of a column, trimmed. -/
def field (starts : List ℕ) (line : List Char) (col : ℕ) : String :=
  match starts[col]? with
  | none => ""
  | some start =>
    if line.length ≤ start then ""
    else
      let stop := min (starts[col + 1]?.getD line.length) line.length
      trim (String.ofList ((line.take stop).drop start))

/-- The fields of a lease. -/
inductive LeaseField where
  | ipAddress
  | macAddress
  | state
  | leaseStart
  | leaseExpiration
  | remaining
  | pool
  | hostname
  deriving DecidableEq, Repr

/-- By which words a column is recognised, in a label in lower case. -/
def LeaseField.isLabel (f : LeaseField) (label : List Char) : Bool :=
  match f with
  | .ipAddress => isInfix "ip".toList label && isInfix "address".toList label
  | .macAddress => isInfix "mac".toList label
  | .state => isInfix "state".toList label
  | .leaseStart => isInfix "start".toList label
  | .leaseExpiration => isInfix "expir".toList label
  | .remaining => isInfix "remain".toList label
  | .pool => isInfix "pool".toList label
  | .hostname => isInfix "hostname".toList label

/-- `to_lowercase`, of which only the ASCII letters matter: no other character lowercases to a
letter of the words and its neighbour. -/
def lowercase (label : String) : List Char := label.toList.map Char.toLower

/-- The labels of the header, in lower case. -/
def labelsOf (starts : List ℕ) (header : List Char) : List (List Char) :=
  (List.range starts.length).map fun col ↦ lowercase (field starts header col)

/-- `opt`, for the column that is found for a field. -/
def opt (starts : List ℕ) (labels : List (List Char)) (line : List Char) (f : LeaseField) :
    Option String :=
  ((labels.findIdx? f.isLabel).map (field starts line)).filter fun s ↦ s ≠ ""

/-- The lease of some fields, if there is an address among them. -/
def leaseOf (opt : LeaseField → Option String) : Option DhcpLease :=
  let ipAddress := (opt .ipAddress).getD ""
  if ipAddress = "" then none
  else
    some
      { ipAddress
        macAddress := opt .macAddress
        state := opt .state
        leaseStart := opt .leaseStart
        leaseExpiration := opt .leaseExpiration
        remaining := opt .remaining
        pool := opt .pool
        hostname := opt .hostname }

/-- A line behind the dashes. -/
def leaseRow (starts : List ℕ) (labels : List (List Char)) (line : List Char) : Option DhcpLease :=
  if strip isWhitespace line = [] then none else leaseOf (opt starts labels line)

def parseLeases (text : String) : List DhcpLease :=
  let ls := lines text.toList
  match ls.findIdx? isDashLine with
  | none => []
  | some sepIdx =>
    if sepIdx = 0 then []
    else
      let starts := runStarts '-' 0 false (ls[sepIdx]?.getD [])
      if starts.isEmpty then []
      else
        let labels := labelsOf starts (ls[sepIdx - 1]?.getD [])
        (ls.drop (sepIdx + 1)).filterMap (leaseRow starts labels)

/-! ### Printing -/

/-- A column that shows one of the fields, or something else. -/
structure LeaseColumn where
  shows : LeaseField ⊕ ℕ
  label : String
  width : ℕ
  gap : ℕ
  deriving DecidableEq, Repr

/-- A label by which just this field is recognised. -/
def LeaseField.Labels (f : LeaseField) (label : String) : Prop :=
  trim label = label ∧ ∀ g : LeaseField, g.isLabel (lowercase label) = true ↔ g = f

/-- A table of leases: columns wide enough for their labels and cells, with a gap behind each. -/
structure LeaseTable where
  cols : List LeaseColumn
  rows : List (LeaseField ⊕ ℕ → String)
  gap_pos : ∀ c ∈ cols, 1 ≤ c.gap
  labels : ∀ c ∈ cols, ∀ f, c.shows = .inl f → f.Labels c.label
  others : ∀ c ∈ cols, ∀ k, c.shows = .inr k →
    ∀ g : LeaseField, g.isLabel (lowercase c.label) = false
  label_le : ∀ c ∈ cols, c.label.toList.length ≤ c.width
  cell_le : ∀ row ∈ rows, ∀ c ∈ cols, (row c.shows).toList.length ≤ c.width
  trim_cell : ∀ row ∈ rows, ∀ c ∈ cols, trim (row c.shows) = row c.shows

/-- The labels that the two servers print. -/
example : LeaseField.ipAddress.Labels "IP Address" ∧ LeaseField.ipAddress.Labels "IPv6 address" ∧
    LeaseField.macAddress.Labels "MAC address" ∧ LeaseField.state.Labels "State" ∧
    LeaseField.leaseStart.Labels "Lease start" ∧
    LeaseField.leaseExpiration.Labels "Lease expiration" ∧
    LeaseField.remaining.Labels "Remaining" ∧ LeaseField.pool.Labels "Pool" ∧
    LeaseField.hostname.Labels "Hostname" := by
  refine ⟨?_, ?_, ?_, ?_, ?_, ?_, ?_, ?_, ?_⟩ <;>
  · refine ⟨by decide, fun g ↦ ?_⟩
    cases g <;> decide

namespace LeaseTable

variable (t : LeaseTable)

/-- A line of the table. -/
def line (text : LeaseColumn → String) : List Char :=
  printLine ' ' LeaseColumn.width LeaseColumn.gap (fun c ↦ (text c).toList) t.cols

/-- The line of dashes. -/
def dashLine : List Char :=
  printLine ' ' LeaseColumn.width LeaseColumn.gap (dashes '-' LeaseColumn.width) t.cols

/-- The lines of a text that prints the table: lines without dashes, the header, the dashes and the
rows, each up to blanks at its end. A header that consists of dashes would be a line of dashes. -/
structure Printed (pre : List (List Char)) (header sep : List Char) (rows : List (List Char)) :
    Prop where
  isDashLine_pre : ∀ l ∈ pre, isDashLine l = false
  sameHeader : SameUpToBlanks ' ' header (t.line LeaseColumn.label)
  isDashLine_header : (∀ c ∈ t.cols, c.shows.isRight = true) → isDashLine header = false
  sameDashes : SameUpToBlanks ' ' sep t.dashLine
  sameRows :
    List.Forall₂ (fun row l ↦ SameUpToBlanks ' ' l (t.line fun c ↦ row c.shows)) t.rows rows

/-- A cell of a row, if the table shows the field and the cell is not empty. -/
def cell (row : LeaseField ⊕ ℕ → String) (f : LeaseField) : Option String :=
  if (t.cols.any fun c ↦ c.shows = .inl f) ∧ row (.inl f) ≠ "" then some (row (.inl f)) else none

/-- The lease a row is about. -/
def lease (row : LeaseField ⊕ ℕ → String) : Option DhcpLease :=
  (t.cell row .ipAddress).map fun ipAddress ↦
    { ipAddress
      macAddress := t.cell row .macAddress
      state := t.cell row .state
      leaseStart := t.cell row .leaseStart
      leaseExpiration := t.cell row .leaseExpiration
      remaining := t.cell row .remaining
      pool := t.cell row .pool
      hostname := t.cell row .hostname }

end LeaseTable

/-! ### Reading a cell -/

section Cells

variable {t : LeaseTable} {text : LeaseColumn → String} {line : List Char} {j : ℕ} {c : LeaseColumn}

theorem trim_congr {l l' : List Char} (h : SameUpToBlanks ' ' l l') :
    trim (String.ofList l) = trim (String.ofList l') := by
  rw [trim_eq, trim_eq, String.toList_ofList, String.toList_ofList]
  refine congrArg _ (h.congr fun l n ↦ strip_append l fun c hc ↦ ?_)
  rw [List.eq_of_mem_replicate hc]
  decide

theorem field_eq {starts : List ℕ} {start : ℕ} (h : starts[j]? = some start) :
    field starts line j = trim (String.ofList (chunk line start starts[j + 1]?)) := by
  rw [field, h]
  simp only
  split
  · next hle =>
    have hnil : chunk line start starts[j + 1]? = [] := by
      cases starts[j + 1]? with
      | none => exact List.drop_eq_nil_of_le hle
      | some stop => exact List.drop_eq_nil_of_le ((List.length_take_le' _ _).trans hle)
    rw [hnil]
    decide
  · cases starts[j + 1]? with
    | none => rw [Option.getD_none, Nat.min_self, List.take_length]; rfl
    | some stop => rw [Option.getD_some, ← List.take_eq_take_min]; rfl

/-- The columns that have a width. -/
def LeaseTable.shown (t : LeaseTable) : List LeaseColumn := t.cols.filter fun c ↦ c.width != 0

/-- Where they start. -/
def LeaseTable.starts (t : LeaseTable) : List ℕ :=
  offsets LeaseColumn.width LeaseColumn.gap 0 t.cols

/-- **A field is the text of its column**, trimmed. -/
theorem field_line (hline : SameUpToBlanks ' ' line (t.line text))
    (htext : ∀ c ∈ t.cols, (text c).toList.length ≤ c.width) (hc : t.shown[j]? = some c) :
    field t.starts line j = trim (text c) := by
  have hchunk : ∃ start, t.starts[j]? = some start ∧
      SameUpToBlanks ' ' (chunk (t.line text) start t.starts[j + 1]?) (text c).toList :=
    @chunk_printLine _ ' ' _ LeaseColumn.width LeaseColumn.gap _ t.cols htext [] 0 rfl j c hc
  obtain ⟨start, hstart, hsame⟩ := hchunk
  rw [field_eq hstart, trim_congr ((hline.chunk _ _).trans hsame), String.ofList_toList]

theorem length_starts (t : LeaseTable) : t.starts.length = t.shown.length :=
  length_offsets 0 t.cols

theorem labelsOf_header {header : List Char}
    (h : SameUpToBlanks ' ' header (t.line LeaseColumn.label)) :
    labelsOf t.starts header = t.shown.map fun c ↦ lowercase (trim c.label) := by
  refine List.ext_getElem? fun j ↦ ?_
  rw [labelsOf, List.getElem?_map, List.getElem?_map, length_starts]
  cases hc : t.shown[j]? with
  | none =>
    rw [List.getElem?_eq_none_iff] at hc
    rw [List.getElem?_eq_none_iff.2 (by simpa using hc)]
    rfl
  | some c =>
    have hj := (List.getElem?_eq_some_iff.1 hc).1
    rw [List.getElem?_range hj, Option.map_some, Option.map_some, field_line h t.label_le hc]

/-! ### Finding a column -/

theorem isInfix_of_trim {needle : List Char} {label : String}
    (h : isInfix needle (lowercase (trim label)) = true) :
    isInfix needle (lowercase label) = true := by
  rw [isInfix_iff] at h ⊢
  refine h.trans ?_
  rw [lowercase, lowercase, trim_eq, String.toList_ofList]
  exact (strip_isInfix isWhitespace label.toList).map Char.toLower

theorem isLabel_of_trim {f : LeaseField} {label : String}
    (h : f.isLabel (lowercase (trim label)) = true) : f.isLabel (lowercase label) = true := by
  cases f with
  | ipAddress =>
    simp only [LeaseField.isLabel, Bool.and_eq_true] at h ⊢
    exact ⟨isInfix_of_trim h.1, isInfix_of_trim h.2⟩
  | _ => exact isInfix_of_trim h

/-- **A column is recognised** exactly for the field it shows. -/
theorem isLabel_iff (hc : c ∈ t.cols) (f : LeaseField) :
    f.isLabel (lowercase (trim c.label)) = true ↔ c.shows = .inl f := by
  cases hshows : c.shows with
  | inl g =>
    obtain ⟨htrim, hlabel⟩ := t.labels c hc g hshows
    rw [htrim, hlabel f]
    exact ⟨fun h ↦ h ▸ rfl, fun h ↦ (Sum.inl.inj h).symm⟩
  | inr k =>
    refine iff_of_false (fun h ↦ ?_) (fun h ↦ by cases h)
    have hlabel := isLabel_of_trim h
    rw [t.others c hc k hshows f] at hlabel
    cases hlabel

theorem mem_shown_of_shows {f : LeaseField} (hc : c ∈ t.cols) (hshows : c.shows = .inl f) :
    c ∈ t.shown := by
  refine List.mem_filter.2 ⟨hc, bne_iff_ne.2 fun hwidth ↦ ?_⟩
  -- no field is recognised by an empty label
  have hempty : c.label = "" := by
    have hle := t.label_le c hc
    rw [hwidth] at hle
    exact String.toList_eq_nil_iff.1 (List.length_eq_zero_iff.1 (Nat.le_zero.1 hle))
  have hlabel := ((t.labels c hc f hshows).2 f).2 rfl
  rw [hempty] at hlabel
  revert hlabel
  cases f <;> decide

/-- **What is read for a field** is its cell. -/
theorem opt_line {row : LeaseField ⊕ ℕ → String} (hrow : row ∈ t.rows)
    (hline : SameUpToBlanks ' ' line (t.line fun c ↦ row c.shows)) (f : LeaseField) :
    opt t.starts (t.shown.map fun c ↦ lowercase (trim c.label)) line f = t.cell row f := by
  rw [opt, List.findIdx?_map, LeaseTable.cell]
  cases hfind : t.shown.findIdx? (f.isLabel ∘ fun c ↦ lowercase (trim c.label)) with
  | none =>
    refine (if_neg fun hcell ↦ ?_).symm
    obtain ⟨c, hc, hshows⟩ := List.any_eq_true.1 hcell.1
    have hno := List.findIdx?_eq_none_iff.1 hfind c
      (mem_shown_of_shows hc (of_decide_eq_true hshows))
    rw [Function.comp_apply, (isLabel_iff hc f).2 (of_decide_eq_true hshows)] at hno
    cases hno
  | some j =>
    obtain ⟨hj, hlabel, -⟩ := List.findIdx?_eq_some_iff_getElem.1 hfind
    have hmem := (List.mem_filter.1 (List.getElem_mem hj)).1
    have hshows := (isLabel_iff hmem f).1 hlabel
    have hread := field_line hline (t.cell_le row hrow) (List.getElem?_eq_getElem hj)
    have hany : (t.cols.any fun c ↦ c.shows = .inl f) = true :=
      List.any_eq_true.2 ⟨_, hmem, decide_eq_true hshows⟩
    rw [Option.map_some, hread, t.trim_cell row hrow _ hmem, hshows]
    simp only [Option.filter_some, hany, true_and, decide_eq_true_eq]

/-- Nothing is read from a blank line. -/
theorem field_of_blank (h : strip isWhitespace line = []) (starts : List ℕ) (col : ℕ) :
    field starts line col = "" := by
  have hblank : ∀ c ∈ line, isWhitespace c = true := fun c hc ↦ by
    by_contra hne
    have hmem := mem_strip hc (Bool.eq_false_iff.2 hne)
    rw [h] at hmem
    cases hmem
  cases hstart : starts[col]? with
  | none => rw [field, hstart]
  | some start =>
    have hsub : ∀ c ∈ chunk line start starts[col + 1]?, isWhitespace c = true := fun c hc ↦ by
      cases hstop : starts[col + 1]? with
      | none =>
        rw [hstop] at hc
        exact hblank c (List.mem_of_mem_drop hc)
      | some stop =>
        rw [hstop] at hc
        exact hblank c (List.mem_of_mem_take (List.mem_of_mem_drop hc))
    have hnil : strip isWhitespace (chunk line start starts[col + 1]?) = [] := by
      have happend := strip_append (p := isWhitespace) [] hsub
      rwa [List.nil_append] at happend
    rw [field_eq hstart, trim_eq, String.toList_ofList, hnil]

theorem leaseOf_cell (row : LeaseField ⊕ ℕ → String) : leaseOf (t.cell row) = t.lease row := by
  have hne : t.cell row .ipAddress ≠ some "" := by
    rw [LeaseTable.cell]
    split
    · next h => exact fun heq ↦ h.2 (Option.some.inj heq)
    · exact Option.some_ne_none "" ∘ Eq.symm
  rw [leaseOf, LeaseTable.lease]
  cases hip : t.cell row .ipAddress with
  | none => exact if_pos rfl
  | some ip => exact if_neg fun h ↦ hne (by rw [hip]; exact congrArg some h)

/-- **A row is read as its lease.** -/
theorem leaseRow_line {row : LeaseField ⊕ ℕ → String} (hrow : row ∈ t.rows)
    (hline : SameUpToBlanks ' ' line (t.line fun c ↦ row c.shows)) :
    leaseRow t.starts (t.shown.map fun c ↦ lowercase (trim c.label)) line = t.lease row := by
  have hopt := funext (opt_line hrow hline)
  rw [leaseRow]
  split
  · next hblank =>
    -- a blank line has no address to be read
    have hcell : t.cell row .ipAddress = none := by
      rw [← opt_line hrow hline, opt]
      cases (t.shown.map fun c ↦ lowercase (trim c.label)).findIdx?
          LeaseField.ipAddress.isLabel with
      | none => rfl
      | some col => rw [Option.map_some, field_of_blank hblank]; rfl
    rw [LeaseTable.lease, hcell]
    rfl
  · rw [hopt, leaseOf_cell]

/-! ### Finding the dashes -/

theorem of_isDashLine {l : List Char} (h : isDashLine l = true) {c : Char} (hc : c ∈ l) :
    c = '-' ∨ isWhitespace c = true := by
  by_cases hblank : isWhitespace c = true
  · exact .inr hblank
  · have hmem := mem_strip hc (Bool.eq_false_iff.2 hblank)
    simp only [isDashLine, Bool.and_eq_true, List.all_eq_true] at h
    rcases Bool.or_eq_true_iff.1 (h.1.2 c hmem) with hdash | hspace
    · exact .inl (beq_iff_eq.1 hdash)
    · rw [beq_iff_eq.1 hspace]
      exact .inr (by decide)

theorem isDashLine_of_mem {l : List Char} (h : ∀ c ∈ l, c = '-' ∨ c = ' ') (hdash : '-' ∈ l) :
    isDashLine l = true := by
  have hmem : '-' ∈ strip isWhitespace l := mem_strip hdash (by decide)
  simp only [isDashLine, Bool.and_eq_true, List.all_eq_true, Bool.or_eq_true, beq_iff_eq]
  refine ⟨⟨by simpa using List.ne_nil_of_mem hmem, fun c hc ↦ ?_⟩, by simpa using hmem⟩
  exact h c ((strip_sublist _ _).subset hc)

theorem isDashLine_eq_false {l : List Char} (h : '-' ∉ l) : isDashLine l = false := by
  refine Bool.eq_false_iff.2 fun hline ↦ ?_
  simp only [isDashLine, Bool.and_eq_true, List.contains_iff_mem] at hline
  exact h ((strip_sublist _ _).subset hline.2)

theorem toLower_of_isWhitespace {c : Char} (h : isWhitespace c = true) : c.toLower = c := by
  refine dif_neg fun ⟨hge, hle⟩ ↦ ?_
  have hge' : 65 ≤ c.toNat := UInt32.le_iff_toNat_le.1 hge
  have hle' : c.toNat ≤ 90 := UInt32.le_iff_toNat_le.1 hle
  simp only [isWhitespace, Bool.or_eq_true, Bool.and_eq_true, decide_eq_true_eq, beq_iff_eq] at h
  omega

/-- A label that is recognised has a letter. -/
theorem exists_letter {f : LeaseField} {label : String} (h : f.isLabel (lowercase label) = true) :
    ∃ c ∈ label.toList, c ≠ '-' ∧ isWhitespace c = false := by
  have hword : ∃ n cs, isInfix (n :: cs) (lowercase label) = true ∧ n ≠ '-' ∧
      isWhitespace n = false := by
    cases f with
    | ipAddress => exact ⟨'i', ['p'], (Bool.and_eq_true_iff.1 h).1, by decide, by decide⟩
    | _ => exact ⟨_, _, h, by decide, by decide⟩
  obtain ⟨n, cs, hinfix, hdash, hblank⟩ := hword
  have hmem : n ∈ label.toList.map Char.toLower :=
    (isInfix_iff.1 hinfix).sublist.subset List.mem_cons_self
  obtain ⟨c, hc, rfl⟩ := List.mem_map.1 hmem
  refine ⟨c, hc, ?_, Bool.eq_false_iff.2 fun hc' ↦ ?_⟩
  · rintro rfl
    exact hdash (by decide)
  · rw [toLower_of_isWhitespace hc', hc'] at hblank
    cases hblank

/-- The header is no line of dashes. -/
theorem isDashLine_header {pre rows : List (List Char)} {header sep : List Char}
    (h : t.Printed pre header sep rows) : isDashLine header = false := by
  by_cases hothers : ∀ c ∈ t.cols, c.shows.isRight = true
  · exact h.isDashLine_header hothers
  · simp only [not_forall] at hothers
    obtain ⟨c, hc, hknown⟩ := hothers
    obtain ⟨f, hshows⟩ := Sum.isLeft_iff.1 (by simpa using hknown)
    obtain ⟨a, ha, hdash, hblank⟩ := exists_letter (((t.labels c hc f hshows).2 f).2 rfl)
    have hspace : a ≠ ' ' := by
      rintro rfl
      exact absurd hblank (by decide)
    have hmem : a ∈ header :=
      h.sameHeader.symm.mem (mem_printLine_of_mem hc ha) hspace
    refine Bool.eq_false_iff.2 fun hline ↦ ?_
    rcases of_isDashLine hline hmem with heq | heq
    · exact hdash heq
    · rw [hblank] at heq
      cases heq

/-- Without columns there are no dashes. -/
theorem isDashLine_of_shown {l : List Char} (hshown : t.shown = []) {text : LeaseColumn → List Char}
    (htext : ∀ c ∈ t.cols, (text c).length ≤ c.width)
    (hline : SameUpToBlanks ' ' l (printLine ' ' LeaseColumn.width LeaseColumn.gap text t.cols)) :
    isDashLine l = false := by
  refine isDashLine_eq_false fun hdash ↦ ?_
  rcases eq_or_mem_of_mem_printLine (hline.mem hdash (by decide)) with heq | ⟨c, hc, hmem⟩
  · exact absurd heq (by decide)
  · have hwidth : c.width = 0 := by simpa using List.filter_eq_nil_iff.1 hshown c hc
    have hnil : text c = [] := List.length_eq_zero_iff.1 (by have := htext c hc; omega)
    rw [hnil] at hmem
    cases hmem

theorem isDashLine_sep {l : List Char} (hshown : t.shown ≠ [])
    (hl : SameUpToBlanks ' ' l t.dashLine) :
    isDashLine l = true := by
  obtain ⟨c, cs, hcs⟩ := List.exists_cons_of_ne_nil hshown
  obtain ⟨hc, hwidth⟩ := List.mem_filter.1 (hcs ▸ List.mem_cons_self : c ∈ t.shown)
  refine isDashLine_of_mem (fun a ha ↦ ?_) ?_
  · by_cases hspace : a = ' '
    · exact .inr hspace
    · rcases eq_or_mem_of_mem_printLine (hl.mem ha hspace) with heq | ⟨d, -, hd⟩
      · exact .inr heq
      · exact .inl (List.eq_of_mem_replicate hd)
  · have hdash : '-' ∈ dashes '-' LeaseColumn.width c :=
      List.mem_replicate.2 ⟨bne_iff_ne.1 hwidth, rfl⟩
    exact hl.symm.mem (mem_printLine_of_mem hc hdash) (by decide)

theorem runStarts_sep {l : List Char} (hl : SameUpToBlanks ' ' l t.dashLine) :
    runStarts '-' 0 false l = t.starts :=
  (hl.congr fun l n ↦ runStarts_append_replicate (by decide) l n 0 false).trans
    (runStarts_printLine (by decide) t.gap_pos 0)

theorem forall_of_forall₂ {β γ : Type} {P : γ → Prop} {l : List β} {u : List γ}
    (h : List.Forall₂ (fun _ b ↦ P b) l u) : ∀ b ∈ u, P b := by
  induction h with
  | nil => exact fun b hb ↦ absurd hb List.not_mem_nil
  | cons hb _ ih => exact List.forall_mem_cons.2 ⟨hb, ih⟩

theorem filterMap_of_forall₂ {β γ δ : Type} {f : γ → Option δ} {g : β → Option δ} {l : List β}
    {u : List γ} (h : List.Forall₂ (fun a b ↦ f b = g a) l u) : u.filterMap f = l.filterMap g := by
  induction h with
  | nil => rfl
  | cons hab _ ih => rw [List.filterMap_cons, List.filterMap_cons, hab, ih]

/-- The rows, with what is known of them. -/
theorem LeaseTable.Printed.rows {pre rows : List (List Char)} {header sep : List Char}
    (h : t.Printed pre header sep rows) : List.Forall₂ (fun row l ↦ row ∈ t.rows ∧
      SameUpToBlanks ' ' l (t.line fun c ↦ row c.shows)) t.rows rows :=
  (List.forall₂_and_left _ _).2 ⟨fun _ hrow ↦ hrow, h.sameRows⟩

/-- A table without a column that has a width shows no lease. -/
theorem lease_eq_none (hshown : t.shown = []) (row : LeaseField ⊕ ℕ → String) :
    t.lease row = none := by
  have hcell : t.cell row .ipAddress = none := if_neg fun h ↦ by
    obtain ⟨c, hc, hshows⟩ := List.any_eq_true.1 h.1
    have hmem := mem_shown_of_shows hc (of_decide_eq_true hshows)
    rw [hshown] at hmem
    cases hmem
  rw [LeaseTable.lease, hcell]
  rfl

/-- **Lease tables are parsed back exactly**: of a text that prints a table, in whatever order of
columns, the leases of the rows with an address are read, in order, each field as its cell. -/
theorem parseLeases_eq (t : LeaseTable) (text : String) (pre rows : List (List Char))
    (header sep : List Char) (hlines : lines text.toList = pre ++ header :: sep :: rows)
    (h : t.Printed pre header sep rows) : parseLeases text = t.rows.filterMap t.lease := by
  have hlines' : lines text.toList = (pre ++ [header]) ++ sep :: rows := by
    rw [hlines, List.append_assoc]
    rfl
  have hbefore : (pre ++ [header]).findIdx? isDashLine = none :=
    List.findIdx?_eq_none_iff.2 fun l hl ↦ by
      rcases List.mem_append.1 hl with hl | hl
      · exact h.isDashLine_pre l hl
      · exact List.mem_singleton.1 hl ▸ isDashLine_header h
  rw [parseLeases, hlines', List.findIdx?_append, hbefore, Option.none_or]
  by_cases hshown : t.shown = []
  · -- no line is one of dashes
    have hrows : ∀ l ∈ rows, isDashLine l = false :=
      forall_of_forall₂ (h.rows.imp fun row l hrow ↦
        isDashLine_of_shown hshown (t.cell_le row hrow.1) hrow.2)
    have hsep : isDashLine sep = false :=
      isDashLine_of_shown hshown (fun c _ ↦ (List.length_replicate (n := c.width)).le) h.sameDashes
    have hnone : (sep :: rows).findIdx? isDashLine = none :=
      List.findIdx?_eq_none_iff.2 (List.forall_mem_cons.2 ⟨hsep, hrows⟩)
    rw [hnone, List.filterMap_eq_nil_iff.2 fun row _ ↦ lease_eq_none hshown row]
    rfl
  · have hsep : (sep :: rows).findIdx? isDashLine = some 0 := by
      rw [List.findIdx?_cons, isDashLine_sep hshown h.sameDashes]
      rfl
    have hstarts : t.starts.isEmpty = false := by
      rw [List.isEmpty_eq_false_iff, ← List.length_pos_iff, length_starts]
      exact List.length_pos_iff.2 hshown
    have hread : rows.filterMap (leaseRow t.starts (labelsOf t.starts header)) =
        t.rows.filterMap t.lease :=
      filterMap_of_forall₂ (h.rows.imp fun row l hrow ↦ by
        rw [labelsOf_header h.sameHeader, leaseRow_line hrow.1 hrow.2])
    have hlength : 0 + (pre ++ [header]).length = pre.length + 1 := by simp
    have hat : (pre ++ [header] ++ sep :: rows)[pre.length + 1]? = some sep := by simp
    have hbefore : (pre ++ [header] ++ sep :: rows)[pre.length]? = some header := by simp
    have hdrop : (pre ++ [header] ++ sep :: rows).drop (pre.length + 1 + 1) = rows := by
      rw [List.drop_append]
      simp
    rw [hsep, Option.map_some, hlength]
    simp only [Nat.add_sub_cancel, hat, hbefore, hdrop, Option.getD_some,
      runStarts_sep h.sameDashes, hstarts, hread]
    rfl

end Cells

/-- A table of three columns, one of which is no field of a lease, and of two rows, one of which has
no address. -/
def threeColumns : LeaseTable where
  cols := [⟨.inl .state, "State", 6, 2⟩, ⟨.inr 0, "Origin", 6, 2⟩,
    ⟨.inl .ipAddress, "IP Address", 10, 2⟩]
  rows := [Sum.elim (fun f ↦ if f = .ipAddress then "10.0.0.5" else "active") fun _ ↦ "local",
    Sum.elim (fun f ↦ if f = .ipAddress then "" else "free") fun _ ↦ "pool A"]
  gap_pos := by decide
  labels c hc f hshows := by
    simp only [List.mem_cons, List.not_mem_nil, or_false] at hc
    rcases hc with rfl | rfl | rfl
    · cases hshows
      exact ⟨by decide, fun g ↦ by cases g <;> decide⟩
    · cases hshows
    · cases hshows
      exact ⟨by decide, fun g ↦ by cases g <;> decide⟩
  others c hc k hshows g := by
    simp only [List.mem_cons, List.not_mem_nil, or_false] at hc
    rcases hc with rfl | rfl | rfl
    · cases hshows
    · cases g <;> decide
    · cases hshows
  label_le := by decide
  cell_le := by decide
  trim_cell := by decide

theorem parseLeases_threeColumns :
    parseLeases "Leases\nState   Origin  IP Address\n------  ------  ----------\nactive  local   10.0.0.5\nfree    pool A\n" =
      threeColumns.rows.filterMap threeColumns.lease := by
  refine parseLeases_eq threeColumns _ ["Leases".toList]
    ["active  local   10.0.0.5".toList, "free    pool A".toList] "State   Origin  IP Address".toList
    "------  ------  ----------".toList (by decide) ?_
  refine ⟨by decide, ⟨2, 0, by decide⟩, fun _ ↦ by decide, ⟨2, 0, by decide⟩, ?_⟩
  exact .cons ⟨4, 0, by decide⟩ (.cons ⟨14, 0, by decide⟩ .nil)

end VyosFabric
