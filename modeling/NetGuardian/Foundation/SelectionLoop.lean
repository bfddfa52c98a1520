import NetGuardian.Foundation.BreakLoop
import Mathlib.Data.List.Basic
import Mathlib.Data.List.Perm.Basic

/-!
# Loops that take out one item after the other

A loop whose rounds each output an item of highest rank among the items still to
come, and take it out, outputs every item exactly once and in the order of the
ranks.
-/

namespace BreakLoop

variable {State Item : Type*}

/-- A round takes one item of highest rank out of the contents, and only empty
contents end the loop. -/
structure Selects (rank : Item → Nat) (contents : State → List Item)
    (body : State → Option (State × Item)) : Prop where
  taken : ∀ {state next item}, body state = some (next, item) →
    (contents state).Perm (item :: contents next)
  highest : ∀ {state next item}, body state = some (next, item) →
    ∀ other ∈ contents state, rank other ≤ rank item
  stuck : ∀ {state}, body state = none → contents state = []

section Drain

variable {rank : Item → Nat} {contents : State → List Item}
variable {body : State → Option (State × Item)}
variable {state final : State} {items : List Item}

/-- The loop outputs exactly the contents. -/
theorem Selects.perm (selects : Selects rank contents body)
    (ends : Ends (fun _ => True) body state items final) :
    items.Perm (contents state) := by
  induction ends with
  | finished fails => exact absurd trivial fails
  | broken goesOn stuck =>
      rw [selects.stuck stuck]
  | round goesOn taken _ ih =>
      have first := selects.taken taken
      exact (ih.cons _).trans first.symm

theorem Selects.sorted (selects : Selects rank contents body)
    (ends : Ends (fun _ => True) body state items final) :
    items.Pairwise fun first second => rank second ≤ rank first := by
  induction ends with
  | finished fails => exact List.Pairwise.nil
  | broken goesOn stuck => exact List.Pairwise.nil
  | @round state next final item items goesOn taken rest ih =>
      rw [List.pairwise_cons]
      refine ⟨fun other member => ?_, ih⟩
      have stillThere : other ∈ contents next :=
        (selects.perm rest).subset member
      have wasThere : other ∈ contents state :=
        (selects.taken taken).symm.subset (List.mem_cons_of_mem _ stillThere)
      exact selects.highest taken other wasThere

/-- Every round shortens the contents, so that the loop ends. -/
theorem Selects.exists_ends (selects : Selects rank contents body)
    (state : State) :
    ∃ items final, Ends (fun _ => True) body state items final := by
  generalize long : (contents state).length = length
  induction length generalizing state with
  | zero =>
      cases round : body state with
      | none => exact ⟨[], state, .broken trivial round⟩
      | some output =>
          have shorter := (selects.taken round).length_eq
          rw [List.length_cons] at shorter
          omega
  | succ length ih =>
      cases round : body state with
      | none => exact ⟨[], state, .broken trivial round⟩
      | some output =>
          have shorter := (selects.taken round).length_eq
          rw [List.length_cons] at shorter
          obtain ⟨items, final, rest⟩ := ih output.1 (by omega)
          exact ⟨output.2 :: items, final, .round trivial round rest⟩

/-- Nothing is left to take. -/
theorem Ends.stuck (ends : Ends (fun _ => True) body state items final) :
    body final = none := by
  induction ends with
  | finished fails => exact absurd trivial fails
  | broken goesOn stuck => exact stuck
  | round goesOn taken rest ih => exact ih

end Drain

end BreakLoop
