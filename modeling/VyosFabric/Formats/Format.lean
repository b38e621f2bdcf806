import Mathlib.Data.Option.Basic

/-!
# Formats

A format of values in sources: how a value is read of a source, and which sources hold which value.
A source may hold a value in many ways, and reading gives the value back from each of them, so a
source holds one value at most (`Holds.unique`).

A format of a record is put together from formats of its fields (`both`, `as`), of a part of the
source (`under`), and of a part that may be missing (`optional`).
-/

namespace Formats

/-- How values of type `α` stand in sources of type `σ`. -/
structure Format (σ α : Type) where
  /-- What is read of a source. -/
  read : σ → α
  /-- The source holds the value, in one of its ways. -/
  Holds : σ → α → Prop
  /-- A value that is held is read. -/
  read_eq : ∀ {s a}, Holds s a → read s = a

namespace Format

variable {σ τ α β : Type}

/-- **A source holds one value at most.** -/
theorem Holds.unique {f : Format σ α} {s : σ} {a b : α} (ha : f.Holds s a) (hb : f.Holds s b) :
    a = b := by
  rw [← f.read_eq ha, f.read_eq hb]

/-- A source that holds a value holds the value that is read. -/
theorem holds_read {f : Format σ α} {s : σ} (h : ∃ a, f.Holds s a) : f.Holds s (f.read s) := by
  obtain ⟨a, ha⟩ := h
  rwa [f.read_eq ha]

/-- Two values next to each other. -/
def both (f : Format σ α) (g : Format σ β) : Format σ (α × β) where
  read s := (f.read s, g.read s)
  Holds s x := f.Holds s x.1 ∧ g.Holds s x.2
  read_eq h := Prod.ext (f.read_eq h.1) (g.read_eq h.2)

/-- Values under another name. -/
def as (f : Format σ α) (mk : α → β) (fields : β → α) (h : ∀ b, mk (fields b) = b) :
    Format σ β where
  read s := mk (f.read s)
  Holds s b := f.Holds s (fields b)
  read_eq {s b} hb := by rw [f.read_eq hb, h]

/-- A value in a part of the source. -/
def under (part : σ → τ) (f : Format τ α) : Format σ α where
  read s := f.read (part s)
  Holds s a := f.Holds (part s) a
  read_eq h := f.read_eq h

/-- A value in a part of the source that may be missing. -/
def optional (part : σ → Option τ) (f : Format τ α) (missing : α) : Format σ α where
  read s := ((part s).map f.read).getD missing
  Holds s a := (∃ t, part s = some t ∧ f.Holds t a) ∨ part s = none ∧ a = missing
  read_eq {s a} h := by
    rcases h with ⟨t, hpart, ht⟩ | ⟨hpart, rfl⟩
    · rw [hpart, Option.map_some, Option.getD_some, f.read_eq ht]
    · rw [hpart, Option.map_none, Option.getD_none]

@[simp] theorem read_both (f : Format σ α) (g : Format σ β) (s : σ) :
    (f.both g).read s = (f.read s, g.read s) := rfl

@[simp] theorem read_as (f : Format σ α) (mk : α → β) (fields : β → α)
    (h : ∀ b, mk (fields b) = b) (s : σ) : (f.as mk fields h).read s = mk (f.read s) := rfl

end Format

end Formats
