import Linewise.Table
import Linewise.Variable.Basic

/-!
The state of an interpreter. A variable is known by its name and by the number of its declaration
among those of the name. A frame says which declaration each of its names refers to. A block starts
with the references of its surroundings, so that both change the same variables, while a
declaration inside the block is seen outside only after the block has come to its end.
-/

namespace Linewise

structure Frame where
  references : Table Text Nat
  inComment : Bool

structure Machine where
  /-- The variables declared so far, by name. -/
  declared : Table Text (Array Variable)
  current : Frame
  /-- The frames of the surrounding blocks, the nearest first. -/
  enclosing : List Frame

namespace Machine

def empty : Machine := ⟨.empty, ⟨.empty, false⟩, []⟩

def history (machine : Machine) (name : Text) : Array Variable :=
  (machine.declared.find? name).getD #[]

def find? (machine : Machine) (name : Text) : Option Variable := do
  let number ← machine.current.references.find? name
  (machine.history name)[number]?

def bindings (machine : Machine) : Bindings := machine.find?

/-! ## Changes

A declaration adds to the history of its name and never replaces what is there, so that a frame that
refers to an earlier one still does. Removing a name only takes the reference away. -/

def declare (machine : Machine) (name : Text) (stored : Variable) : Machine :=
  let history := machine.history name
  { machine with
    declared := machine.declared.insert name (history.push stored)
    current := { machine.current with
      references := machine.current.references.insert name history.size } }

def assign (machine : Machine) (name : Text) (value : Value) : Machine :=
  match machine.current.references.find? name with
  | none => machine
  | some number =>
      let history := (machine.history name).modify number fun stored => { stored with value }
      { machine with declared := machine.declared.insert name history }

def remove (machine : Machine) (name : Text) : Machine :=
  { machine with current := { machine.current with
      references := machine.current.references.erase name } }

def revised (machine : Machine) : Revision → Machine
  | [] => machine
  | revision =>
      { machine with declared := machine.declared.map fun history =>
          history.map (Variable.revised revision) }

/-- The first number for containers that no variable holds yet. -/
def nextNumber (machine : Machine) : Nat :=
  machine.declared.pairs.foldl (fun least pair =>
    pair.2.foldl (fun least stored => max least stored.value.next) least) 0

/-- The value as a variable holds it. -/
def keep (machine : Machine) (value : Value) : Value :=
  if value.isImmutable then value else value.kept machine.nextNumber

def kept (machine : Machine) (stored : Variable) : Variable :=
  { stored with value := machine.keep stored.value }

def toggleComment (machine : Machine) : Machine :=
  { machine with current := { machine.current with inComment := !machine.current.inComment } }

/-! ## Blocks

A line that is executed on its own sees only the outermost frame, whatever blocks are open. -/

def enter (machine : Machine) : Machine :=
  { machine with
    current := ⟨machine.current.references, false⟩
    enclosing := machine.current :: machine.enclosing }

/-- Back to the surroundings, which take over the references of the block. -/
def leave (machine : Machine) : Machine :=
  match machine.enclosing with
  | [] => machine
  | outer :: rest =>
      { machine with
        current := { outer with
          references := outer.references.update machine.current.references }
        enclosing := rest }

def outermost (machine : Machine) : Machine :=
  { machine with
    current := machine.enclosing.getLast?.getD machine.current
    enclosing := [] }

def withOutermost (machine other : Machine) : Machine :=
  match machine.enclosing.reverse with
  | [] => { other with enclosing := [] }
  | _ :: inner =>
      { machine with
        declared := other.declared
        enclosing := (other.current :: inner).reverse }

/-! ## Tables of variables -/

def ofVariables (entries : List (Text × Variable)) : Machine :=
  entries.foldl (fun machine entry => machine.declare entry.1 entry.2) empty

def bound (machine : Machine) : List (Text × Variable) :=
  machine.current.references.names.filterMap fun name =>
    (machine.find? name).map (name, ·)

end Machine

end Linewise
