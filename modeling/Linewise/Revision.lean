import Linewise.Value

/-!
Changes of sets and dictionaries. A container can change while variables hold it, alone or inside
tuples and dictionaries, and all that hold it see the change. A value without containers never
changes, and no value changes its kind.
-/

namespace Linewise

/-- What the container with an identity holds from now on. -/
inductive Change
  | set (identity : Identity) (items : List Value)
  | dictionary (identity : Identity) (entries : List (Value × Value))

/-- Changes in the order in which they were made. -/
abbrev Revision := List Change

namespace Change

def items? : Change → Identity → Option (List Value)
  | set own items, identity => if own = identity then some items else none
  | dictionary .., _ => none

def entries? : Change → Identity → Option (List (Value × Value))
  | dictionary own entries, identity => if own = identity then some entries else none
  | set .., _ => none

end Change

namespace Value

mutual

def changed (change : Change) : Value → Value
  | tuple items => tuple (changedItems change items)
  | set identity items => set identity ((change.items? identity).getD items)
  | dictionary identity entries =>
      dictionary identity ((change.entries? identity).getD (changedEntries change entries))
  | value => value

private def changedItems (change : Change) : List Value → List Value
  | [] => []
  | item :: items => changed change item :: changedItems change items

private def changedEntries (change : Change) : List (Value × Value) → List (Value × Value)
  | [] => []
  | (key, item) :: entries => (key, changed change item) :: changedEntries change entries

end

def revised (revision : Revision) (value : Value) : Value :=
  revision.foldl (fun value change => value.changed change) value

mutual

/-- No container is part of the value. -/
def isImmutable : Value → Bool
  | tuple items => allImmutable items
  | set .. | dictionary .. => false
  | _ => true

private def allImmutable : List Value → Bool
  | [] => true
  | item :: items => isImmutable item && allImmutable items

end

mutual

theorem changed_of_isImmutable (change : Change) : ∀ {value : Value}, value.isImmutable = true →
    value.changed change = value
  | null, _ | boolean _, _ | integer _, _ | float _, _ | text _, _ => rfl
  | tuple items, immutable => by
      rw [changed, changedItems_of_allImmutable change immutable]

private theorem changedItems_of_allImmutable (change : Change) : ∀ {items : List Value},
    allImmutable items = true → changedItems change items = items
  | [], _ => rfl
  | item :: items, immutable => by
      rw [allImmutable, Bool.and_eq_true] at immutable
      rw [changedItems, changed_of_isImmutable change immutable.1,
        changedItems_of_allImmutable change immutable.2]

end

@[simp] theorem revised_nil (value : Value) : value.revised [] = value := rfl

theorem revised_cons (change : Change) (rest : Revision) (value : Value) :
    value.revised (change :: rest) = (value.changed change).revised rest := rfl

theorem revised_of_isImmutable (revision : Revision) {value : Value}
    (immutable : value.isImmutable = true) : value.revised revision = value := by
  induction revision with
  | nil => rfl
  | cons change rest induction =>
      rw [revised_cons, changed_of_isImmutable change immutable, induction]

@[simp] theorem kind_revised (revision : Revision) (value : Value) :
    (value.revised revision).kind = value.kind := by
  induction revision generalizing value with
  | nil => rfl
  | cons change rest induction =>
      rw [revised_cons, induction]
      cases value <;> rfl

end Value

/-! ## Containers that variables hold -/

namespace Identity

/-- The identity from when the container is held by a variable, where `first` is the first number
that no other container has. -/
def kept (first : Nat) : Identity → Identity
  | stored number => stored number
  | fresh number => stored (first + number)

def next : Identity → Nat
  | stored number => number + 1
  | fresh _ => 0

end Identity

namespace Value

mutual

def kept (first : Nat) : Value → Value
  | tuple items => tuple (keptItems first items)
  | set identity items => set (identity.kept first) items
  | dictionary identity entries => dictionary (identity.kept first) (keptEntries first entries)
  | value => value

private def keptItems (first : Nat) : List Value → List Value
  | [] => []
  | item :: items => kept first item :: keptItems first items

private def keptEntries (first : Nat) : List (Value × Value) → List (Value × Value)
  | [] => []
  | (key, item) :: entries => (key, kept first item) :: keptEntries first entries

end

mutual

def next : Value → Nat
  | tuple items => nextOfItems items
  | set identity _ => identity.next
  | dictionary identity entries => max identity.next (nextOfEntries entries)
  | _ => 0

private def nextOfItems : List Value → Nat
  | [] => 0
  | item :: items => max (next item) (nextOfItems items)

private def nextOfEntries : List (Value × Value) → Nat
  | [] => 0
  | (_, item) :: entries => max (next item) (nextOfEntries entries)

end

end Value

end Linewise
