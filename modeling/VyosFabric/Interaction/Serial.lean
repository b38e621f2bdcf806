import VyosFabric.Interaction.Pool
import VyosFabric.Interaction.Trace

/-!
# Requests one after the other

`Serial exec handle s tr s'`: the requests of the list `tr` ran one after the other, each to its
end, and took the shared state from `s` to `s'`. Every entry of the list carries the request, the
exchanges it made, and what it answered, so a property of a run is a property of the list. A serial
run is a trace whose actions are whole requests, and the rules of traces apply to it.
-/

namespace Interaction

variable {E : Type} {R : E → Type} {ε α σ C : Type}

/-- One request of a serial run: what was asked, the exchanges it made, and its answer. -/
structure Served (R : E → Type) (ε α C : Type) where
  /-- What was asked. -/
  request : C
  /-- The exchanges the request made. -/
  events : List (Exchange R)
  /-- What it answered. -/
  answer : Except ε α

/-- The requests of a list, run one after the other. -/
abbrev Serial (exec : (e : E) → R e → σ → Option σ) (handle : C → Prog E R ε α) :
    σ → List (Served R ε α C) → σ → Prop :=
  Trace fun s x s' ↦ Completes exec (handle x.request) s x.events x.answer s'

end Interaction
