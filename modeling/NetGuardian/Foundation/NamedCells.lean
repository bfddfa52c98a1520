import Mathlib.Data.List.AList
import Mathlib.Logic.Function.Basic

/-!
# Names for shared cells

A store maps names to cells, and cells hold values.  As long as no cell has two
names, the store is a map from names to values: what is done to one cell is done
under one name.  A cell that has lost its name is out of reach until it is given
one again.
-/

namespace NamedCells

variable {Name Value Output : Type*} [DecidableEq Name]

structure Store (Name Value : Type*) [DecidableEq Name] where
  names : AList fun _ : Name => Nat
  cells : Nat → Value
  next : Nat

namespace Store

/-- The map that a store stands for. -/
def view (store : Store Name Value) (name : Name) : Option Value :=
  (store.names.lookup name).map store.cells

def insertNew (store : Store Name Value) (name : Name) (value : Value) :
    Store Name Value where
  names := store.names.insert name store.next
  cells := Function.update store.cells store.next value
  next := store.next + 1

/-- A cell is given a name, whatever it holds. -/
def point (store : Store Name Value) (name : Name) (cell : Nat) : Store Name Value :=
  { store with names := store.names.insert name cell }

def erase (store : Store Name Value) (name : Name) : Store Name Value :=
  { store with names := store.names.erase name }

def write (store : Store Name Value) (cell : Nat) (value : Value) :
    Store Name Value :=
  { store with cells := Function.update store.cells cell value }

/-- The cells in the order of the entries. -/
def reached (store : Store Name Value) : List Nat :=
  store.names.entries.map Sigma.snd

/-- A visit of a cell writes a value and may say something. -/
def visit (act : Value → Value × Option Output) (done : Store Name Value × List Output)
    (cell : Nat) : Store Name Value × List Output :=
  let acted := act (done.1.cells cell)
  (done.1.write cell acted.1, done.2 ++ acted.2.toList)

def visitAll (act : Value → Value × Option Output) (store : Store Name Value) :
    Store Name Value × List Output :=
  store.reached.foldl (visit act) (store, [])

/-- No cell has two names, and the cells from the next one on have none. -/
structure Separated (store : Store Name Value) : Prop where
  injective : ∀ name other cell, store.names.lookup name = some cell →
    store.names.lookup other = some cell → name = other
  allocated : ∀ name cell, store.names.lookup name = some cell → cell < store.next

/-- A cell in use that no other name leads to. -/
def Free (store : Store Name Value) (name : Name) (cell : Nat) : Prop :=
  cell < store.next ∧ ∀ other, store.names.lookup other = some cell → other = name

/-- A cell that was in use and has no name. -/
def Unnamed (store : Store Name Value) (cell : Nat) : Prop :=
  cell < store.next ∧ ∀ name, store.names.lookup name ≠ some cell

/-- The names of a cell are found among the entries. -/
theorem free_iff {store : Store Name Value} {name : Name} {cell : Nat} :
    store.Free name cell ↔ cell < store.next ∧
      ∀ entry ∈ store.names.entries, entry.2 = cell → entry.1 = name := by
  refine and_congr_right fun _ => ⟨fun only entry member leads => ?_, fun only other leads => ?_⟩
  · refine only entry.1 ?_
    rw [← leads]
    exact AList.mem_lookup_iff.mpr member
  · exact only ⟨other, cell⟩ (AList.mem_lookup_iff.mp leads) rfl

instance (store : Store Name Value) (name : Name) (cell : Nat) :
    Decidable (store.Free name cell) :=
  decidable_of_iff _ free_iff.symm

section Operations

variable {store : Store Name Value} {name other : Name} {cell : Nat} {value : Value}

theorem view_insertNew (separated : store.Separated) (name : Name) (value : Value) :
    (store.insertNew name value).view = Function.update store.view name (some value) := by
  funext other
  by_cases same : other = name
  · subst same
    simp [view, insertNew]
  · rw [Function.update_of_ne same, view, insertNew, AList.lookup_insert_ne same, view]
    refine Option.map_congr fun cell found => Function.update_of_ne ?_ _ _
    exact Nat.ne_of_lt (separated.allocated other cell found)

theorem Separated.insertNew (separated : store.Separated) (name : Name) (value : Value) :
    (store.insertNew name value).Separated := by
  have found : ∀ other cell, (store.insertNew name value).names.lookup other = some cell →
      other = name ∧ cell = store.next ∨
        other ≠ name ∧ store.names.lookup other = some cell := by
    intro other cell held
    by_cases same : other = name
    · subst same
      rw [Store.insertNew, AList.lookup_insert, Option.some.injEq] at held
      exact .inl ⟨rfl, held.symm⟩
    · rw [Store.insertNew, AList.lookup_insert_ne same] at held
      exact .inr ⟨same, held⟩
  constructor
  · intro first second cell heldFirst heldSecond
    rcases found first cell heldFirst with ⟨rfl, rfl⟩ | ⟨_, before⟩
    · rcases found second _ heldSecond with ⟨rfl, _⟩ | ⟨_, earlier⟩
      · rfl
      · exact absurd (separated.allocated _ _ earlier) (Nat.lt_irrefl _)
    · rcases found second cell heldSecond with ⟨rfl, rfl⟩ | ⟨_, earlier⟩
      · exact absurd (separated.allocated _ _ before) (Nat.lt_irrefl _)
      · exact separated.injective _ _ _ before earlier
  · intro other cell held
    rcases found other cell held with ⟨_, rfl⟩ | ⟨_, before⟩
    · exact Nat.lt_succ_self _
    · exact Nat.lt_succ_of_lt (separated.allocated _ _ before)

theorem view_point (store : Store Name Value) (name : Name) (cell : Nat) :
    (store.point name cell).view =
      Function.update store.view name (some (store.cells cell)) := by
  funext other
  by_cases same : other = name
  · subst same
    simp [view, point]
  · rw [Function.update_of_ne same, view, point, AList.lookup_insert_ne same, view]

theorem Separated.point (separated : store.Separated) (free : store.Free name cell) :
    (store.point name cell).Separated := by
  have found : ∀ other held, (store.point name cell).names.lookup other = some held →
      other = name ∧ held = cell ∨
        other ≠ name ∧ store.names.lookup other = some held := by
    intro other held leads
    by_cases same : other = name
    · subst same
      rw [Store.point, AList.lookup_insert, Option.some.injEq] at leads
      exact .inl ⟨rfl, leads.symm⟩
    · rw [Store.point, AList.lookup_insert_ne same] at leads
      exact .inr ⟨same, leads⟩
  constructor
  · intro first second held heldFirst heldSecond
    rcases found first held heldFirst with ⟨rfl, rfl⟩ | ⟨_, before⟩
    · rcases found second held heldSecond with ⟨rfl, _⟩ | ⟨other, earlier⟩
      · rfl
      · exact absurd (free.2 second earlier) other
    · rcases found second held heldSecond with ⟨rfl, rfl⟩ | ⟨_, earlier⟩
      · exact free.2 first before
      · exact separated.injective _ _ _ before earlier
  · intro other held leads
    rcases found other held leads with ⟨_, rfl⟩ | ⟨_, before⟩
    · exact free.1
    · exact separated.allocated _ _ before

theorem view_erase (store : Store Name Value) (name : Name) :
    (store.erase name).view = Function.update store.view name none := by
  funext other
  by_cases same : other = name
  · subst same
    simp [view, erase]
  · rw [Function.update_of_ne same, view, erase, AList.lookup_erase_ne same, view]

theorem Separated.erase (separated : store.Separated) (name : Name) :
    (store.erase name).Separated := by
  have found : ∀ other cell, (store.erase name).names.lookup other = some cell →
      store.names.lookup other = some cell := by
    intro other cell held
    by_cases same : other = name
    · subst same
      rw [Store.erase, AList.lookup_erase] at held
      cases held
    · rwa [Store.erase, AList.lookup_erase_ne same] at held
  exact ⟨fun first second cell heldFirst heldSecond =>
      separated.injective _ _ _ (found _ _ heldFirst) (found _ _ heldSecond),
    fun other cell held => separated.allocated _ _ (found _ _ held)⟩

theorem view_write (separated : store.Separated)
    (held : store.names.lookup name = some cell) (value : Value) :
    (store.write cell value).view = Function.update store.view name (some value) := by
  funext other
  by_cases same : other = name
  · subst same
    simp [view, write, held]
  · rw [Function.update_of_ne same, view, write, view]
    refine Option.map_congr fun otherCell found => Function.update_of_ne ?_ _ _
    rintro rfl
    exact same (separated.injective _ _ _ found held)

theorem Separated.write (separated : store.Separated) (cell : Nat) (value : Value) :
    (store.write cell value).Separated :=
  ⟨separated.injective, separated.allocated⟩

end Operations

section Visits

variable {act : Value → Value × Option Output} {store : Store Name Value}

/-- Cells are visited one after the other, each once. -/
theorem foldl_visit (act : Value → Value × Option Output) {cells : List Nat} (distinct : cells.Nodup)
    (store : Store Name Value) (said : List Output) :
    (cells.foldl (visit act) (store, said)).1.names = store.names ∧
      (cells.foldl (visit act) (store, said)).1.next = store.next ∧
      (∀ cell, (cells.foldl (visit act) (store, said)).1.cells cell =
        if cell ∈ cells then (act (store.cells cell)).1 else store.cells cell) ∧
      (cells.foldl (visit act) (store, said)).2 =
        said ++ cells.filterMap fun cell => (act (store.cells cell)).2 := by
  induction cells generalizing store said with
  | nil => simp
  | cons first cells ih =>
      obtain ⟨notLater, laterDistinct⟩ := List.nodup_cons.mp distinct
      obtain ⟨names, next, written, output⟩ := ih laterDistinct
        (store.write first (act (store.cells first)).1)
        (said ++ (act (store.cells first)).2.toList)
      refine ⟨names, next, fun cell => ?_, ?_⟩
      · refine (written cell).trans ?_
        by_cases same : cell = first
        · subst same
          simp [notLater, write]
        · simp [same, write]
      · refine output.trans ?_
        have unchanged : (cells.filterMap fun cell =>
            (act ((store.write first (act (store.cells first)).1).cells cell)).2) =
              cells.filterMap fun cell => (act (store.cells cell)).2 := by
          refine List.filterMap_congr fun cell member => ?_
          have other : cell ≠ first := fun same => notLater (same ▸ member)
          simp [write, other]
        rw [unchanged, List.append_assoc]
        cases spoken : (act (store.cells first)).2 <;> simp [spoken]

theorem nodup_reached (separated : store.Separated) : store.reached.Nodup := by
  refine List.Nodup.map_on ?_ store.names.nodupKeys.nodup
  rintro ⟨name, cell⟩ held ⟨other, otherCell⟩ otherHeld same
  cases same
  rw [separated.injective name other cell (AList.mem_lookup_iff.mpr held)
    (AList.mem_lookup_iff.mpr otherHeld)]

theorem mem_reached_iff (store : Store Name Value) (cell : Nat) :
    cell ∈ store.reached ↔ ∃ name, store.names.lookup name = some cell := by
  constructor
  · intro member
    obtain ⟨entry, found, rfl⟩ := List.mem_map.mp member
    exact ⟨entry.1, AList.mem_lookup_iff.mpr found⟩
  · rintro ⟨name, found⟩
    exact List.mem_map.mpr ⟨⟨name, cell⟩, AList.mem_lookup_iff.mp found, rfl⟩

/-- A visit of all is a visit of every value of the map. -/
theorem view_visitAll (separated : store.Separated) (act : Value → Value × Option Output) :
    (store.visitAll act).1.view =
      fun name => (store.view name).map fun value => (act value).1 := by
  obtain ⟨names, _, written, _⟩ :=
    foldl_visit act (nodup_reached separated) store []
  funext name
  rw [view, visitAll, names, view, Option.map_map]
  refine Option.map_congr fun cell found => ?_
  rw [written, if_pos ((mem_reached_iff store cell).mpr ⟨name, found⟩)]
  rfl

/-- What is said, in the order of the names. -/
theorem output_visitAll (separated : store.Separated)
    (act : Value → Value × Option Output) :
    (store.visitAll act).2 = store.names.keys.filterMap fun name =>
      (store.view name).bind fun value => (act value).2 := by
  obtain ⟨_, _, _, output⟩ :=
    foldl_visit act (nodup_reached separated) store []
  rw [visitAll, output, List.nil_append, reached, List.filterMap_map, AList.keys,
    List.keys, List.filterMap_map]
  refine List.filterMap_congr fun entry member => ?_
  have found : store.names.lookup entry.1 = some entry.2 :=
    AList.mem_lookup_iff.mpr member
  simp [view, found]

theorem Separated.visitAll (separated : store.Separated)
    (act : Value → Value × Option Output) : (store.visitAll act).1.Separated := by
  obtain ⟨names, next, _, _⟩ :=
    foldl_visit act (nodup_reached separated) store []
  constructor
  · rw [Store.visitAll, names]
    exact separated.injective
  · rw [Store.visitAll, names, next]
    exact separated.allocated

end Visits

section Frames

variable {store : Store Name Value} {name : Name} {cell held : Nat}

/-- What is out of reach stays out of reach and as it is. -/
theorem Unnamed.insertNew (unnamed : store.Unnamed cell) (name : Name) (value : Value) :
    (store.insertNew name value).Unnamed cell ∧
      (store.insertNew name value).cells cell = store.cells cell := by
  refine ⟨⟨Nat.lt_succ_of_lt unnamed.1, fun other found => ?_⟩,
    Function.update_of_ne (Nat.ne_of_lt unnamed.1) _ _⟩
  by_cases same : other = name
  · subst same
    rw [Store.insertNew, AList.lookup_insert, Option.some.injEq] at found
    exact absurd found.symm (Nat.ne_of_lt unnamed.1)
  · rw [Store.insertNew, AList.lookup_insert_ne same] at found
    exact unnamed.2 other found

theorem Unnamed.point (unnamed : store.Unnamed cell) (name : Name)
    (different : cell ≠ held) : (store.point name held).Unnamed cell := by
  refine ⟨unnamed.1, fun other found => ?_⟩
  by_cases same : other = name
  · subst same
    rw [Store.point, AList.lookup_insert, Option.some.injEq] at found
    exact different found.symm
  · rw [Store.point, AList.lookup_insert_ne same] at found
    exact unnamed.2 other found

theorem Unnamed.erase (unnamed : store.Unnamed cell) (name : Name) :
    (store.erase name).Unnamed cell := by
  refine ⟨unnamed.1, fun other found => ?_⟩
  by_cases same : other = name
  · subst same
    rw [Store.erase, AList.lookup_erase] at found
    cases found
  · rw [Store.erase, AList.lookup_erase_ne same] at found
    exact unnamed.2 other found

/-- A name leads to a cell of its own, which is out of reach without it. -/
theorem Separated.unnamed_erase (separated : store.Separated)
    (found : store.names.lookup name = some cell) : (store.erase name).Unnamed cell := by
  refine ⟨separated.allocated name cell found, fun other again => ?_⟩
  by_cases same : other = name
  · subst same
    rw [Store.erase, AList.lookup_erase] at again
    cases again
  · rw [Store.erase, AList.lookup_erase_ne same] at again
    exact same (separated.injective _ _ _ again found)

/-- A cell that is out of reach can be written unnoticed. -/
theorem Unnamed.view_write (unnamed : store.Unnamed cell) (value : Value) :
    (store.write cell value).view = store.view := by
  funext name
  refine Option.map_congr fun other found => Function.update_of_ne ?_ _ _
  rintro rfl
  exact unnamed.2 name found

theorem Unnamed.write (unnamed : store.Unnamed cell)
    (found : store.names.lookup name = some held) (value : Value) :
    (store.write held value).Unnamed cell ∧
      (store.write held value).cells cell = store.cells cell := by
  refine ⟨unnamed, Function.update_of_ne ?_ _ _⟩
  rintro rfl
  exact unnamed.2 name found

theorem Unnamed.visitAll (unnamed : store.Unnamed cell) (separated : store.Separated)
    (act : Value → Value × Option Output) :
    (store.visitAll act).1.Unnamed cell ∧
      (store.visitAll act).1.cells cell = store.cells cell := by
  obtain ⟨names, next, written, _⟩ :=
    foldl_visit act (nodup_reached separated) store []
  have notReached : cell ∉ store.reached := by
    rw [mem_reached_iff]
    rintro ⟨name, found⟩
    exact unnamed.2 name found
  refine ⟨⟨?_, fun name found => ?_⟩, ?_⟩
  · rw [Store.visitAll, next]
    exact unnamed.1
  · rw [Store.visitAll, names] at found
    exact unnamed.2 name found
  · rw [Store.visitAll, written, if_neg notReached]

end Frames

end Store

end NamedCells
