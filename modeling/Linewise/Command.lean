import Linewise.Text.Basic

/-!
The commands of the language and the words that begin their lines.
-/

namespace Linewise

inductive Command
  | branch
  | loop
  | say
  | delete
  | exit
  | swap
  | round
  | reset
  | random
  | create
  | listen
  | change
  | convert
  | reverse
  | increment
  | decrement
  | uppercase
  | lowercase
deriving DecidableEq, Repr

namespace Command

def word : Command → Text
  | branch => "if".toList
  | loop => "while".toList
  | say => "say".toList
  | delete => "del".toList
  | exit => "exit".toList
  | swap => "swap".toList
  | round => "round".toList
  | reset => "reset".toList
  | random => "random".toList
  | create => "create".toList
  | listen => "listen".toList
  | change => "change".toList
  | convert => "convert".toList
  | reverse => "reverse".toList
  | increment => "increment".toList
  | decrement => "decrement".toList
  | uppercase => "uppercase".toList
  | lowercase => "lowercase".toList

def title (command : Command) : Text := command.word.map Char.toUpper

def all : List Command :=
  [branch, loop, say, delete, exit, swap, round, reset, random, create, listen, change, convert,
   reverse, increment, decrement, uppercase, lowercase]

def ofWord? (word : Text) : Option Command := all.find? fun command => command.word = word

theorem ofWord?_word (command : Command) : ofWord? command.word = some command := by
  cases command <;> decide

end Command

end Linewise
