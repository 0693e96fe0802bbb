import Linewise.Program
import Linewise.Proofs.Text

/-!
Programs as trees. A tree says which lines belong to which block, `Renders` says how it may be
written as lines, and `execute` runs it along its structure, without looking for the ends of
blocks.
-/

namespace Linewise

/-- A line that is neither blank nor a comment, and has nothing to do with blocks. -/
structure SimpleLine where
  text : Text
  notBlank : Text.strip text ≠ []
  noComment : '#' ∉ text
  oneLine : Text.IsOneLine text
  noHeader : ∀ start ∈ [Block.ifStart, Block.whileStart],
    Text.startsWith (Text.lower (Text.strip text)) start = false
  noDelimiter : Text.lower (Text.strip text) ∉ [Block.elseWord, Block.endWord]

/-- A condition as the words that it is written with. -/
structure ConditionWords where
  words : List Text
  nonempty : words ≠ []
  solid : ∀ word ∈ words, Text.IsSolid word
  noComment : ∀ word ∈ words, '#' ∉ word

def ConditionWords.text (condition : ConditionWords) : Text := Text.join [' '] condition.words

/-- A block of a program: each constructor but the first is a statement and what comes after it. -/
inductive Tree
  | done
  | line (simple : SimpleLine) (next : Tree)
  | branch (condition : ConditionWords) (consequence next : Tree)
  | choice (condition : ConditionWords) (consequence alternative next : Tree)
  | loop (condition : ConditionWords) (body next : Tree)

/-! ## Rendering -/

def doWord : Text := "do".toList

def IsDelimiter (word line : Text) : Prop := Text.Spells word (Text.strip line)

instance (word line : Text) : Decidable (IsDelimiter word line) :=
  inferInstanceAs (Decidable (Text.Spells _ _))

/-- The line is the header of a block: a command and the word at its end in any letter case, the
condition between them, perhaps with blanks around it all. -/
def IsHeader (command : Command) (condition : ConditionWords) (line : Text) : Prop :=
  ∃ first last, Text.Spells command.word first ∧ Text.Spells doWord last ∧
    Text.strip line = Text.join [' '] (first :: condition.words ++ [last])

/-- The lines are the tree written down. Blank lines may stand anywhere. -/
inductive Renders : Tree → List Text → Prop
  | done : Renders .done []
  | blank {tree : Tree} {line : Text} {lines : List Text} (blank : Text.strip line = [])
      (rendered : Renders tree lines) : Renders tree (line :: lines)
  | line {simple : SimpleLine} {next : Tree} {line : Text} {after : List Text}
      (written : Text.strip line = Text.strip simple.text)
      (rest : Renders next after) : Renders (.line simple next) (line :: after)
  | branch {condition : ConditionWords} {consequence next : Tree} {header finish : Text}
      {body after : List Text} (opened : IsHeader .branch condition header)
      (inside : Renders consequence body) (closed : IsDelimiter Block.endWord finish)
      (rest : Renders next after) :
      Renders (.branch condition consequence next) (header :: (body ++ finish :: after))
  | choice {condition : ConditionWords} {consequence alternative next : Tree}
      {header middle finish : Text} {body other after : List Text}
      (opened : IsHeader .branch condition header)
      (inside : Renders consequence body) (parted : IsDelimiter Block.elseWord middle)
      (otherwise : Renders alternative other) (closed : IsDelimiter Block.endWord finish)
      (rest : Renders next after) :
      Renders (.choice condition consequence alternative next)
        (header :: (body ++ middle :: (other ++ finish :: after)))
  | loop {condition : ConditionWords} {body next : Tree} {header finish : Text}
      {lines after : List Text} (opened : IsHeader .loop condition header)
      (inside : Renders body lines) (closed : IsDelimiter Block.endWord finish)
      (rest : Renders next after) :
      Renders (.loop condition body next) (header :: (lines ++ finish :: after))

/-! ## Execution -/

namespace Tree

variable {World : Type}

def andThen (result : Outcome × Machine × World)
    (next : Machine → World → Outcome × Machine × World) : Outcome × Machine × World :=
  match result with
  | (.done, machine, world) => next machine world
  | ended => ended

/-- A block works on the variables of its surroundings. What it declares is theirs once it has come
to its end. -/
def inBlock (block : Machine → World → Outcome × Machine × World) (machine : Machine)
    (world : World) : Outcome × Machine × World :=
  match block machine.enter world with
  | (.done, machine, world) => (.done, machine.leave, world)
  | ended => ended

def idle (machine : Machine) (world : World) : Outcome × Machine × World := (.done, machine, world)

section Evaluated

variable [Evaluator]

def chosen (host : Host World) (condition : Text)
    (consequence alternative : Machine → World → Outcome × Machine × World)
    (machine : Machine) (world : World) : Outcome × Machine × World :=
  let next := Program.machineAfter condition machine
  let later := Program.worldAfter host condition machine world
  match Condition.holds machine.bindings condition with
  | .error error => (.failed error, next, later)
  | .ok true => consequence next later
  | .ok false => alternative next later

def repeated (host : Host World) (condition : Text)
    (block : Machine → World → Outcome × Machine × World) :
    Nat → Machine → World → Outcome × Machine × World
  | 0 =>
      chosen host condition
        (fun machine world =>
          (.failed (.loopLimit Program.iterationLimit), machine, world)) idle
  | remaining + 1 =>
      chosen host condition
        (fun machine world =>
          andThen (inBlock block machine world) (repeated host condition block remaining)) idle

/-- Run a tree: its statements one after another, of a branch the block that the condition chooses,
of a loop its block as long as the condition holds. -/
def execute (host : Host World) : Tree → Machine → World → Outcome × Machine × World
  | done => idle
  | line simple next => fun machine world =>
      andThen (Line.execute host simple.text machine world) (execute host next)
  | branch condition consequence next => fun machine world =>
      andThen (chosen host condition.text (inBlock (execute host consequence)) idle machine world)
        (execute host next)
  | choice condition consequence alternative next => fun machine world =>
      andThen
        (chosen host condition.text (inBlock (execute host consequence))
          (inBlock (execute host alternative)) machine world)
        (execute host next)
  | loop condition body next => fun machine world =>
      andThen
        (repeated host condition.text (execute host body) Program.iterationLimit machine world)
        (execute host next)

end Evaluated

/-- What a program is left with: the result of a tree, with the error reported for a line with the
given number, and all blocks left. -/
def concluded (host : Host World) (number : Nat) :
    Outcome × Machine × World → Ending × Machine × World
  | (.done, machine, world) => (.returned, machine.outermost, world)
  | (.failed error, machine, world) => Program.fail host (some number) error machine.outermost world
  | (.exited code, machine, world) => (.exited code, machine.outermost, world)

end Tree

end Linewise
