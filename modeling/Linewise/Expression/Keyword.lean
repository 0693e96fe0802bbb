import Linewise.Text.Basic

/-!
The language's own spelling of truth values and connectives, and its reduction to the words of
expressions. The reduction replaces one spelling after another, wherever it occurs, so that a
later spelling is looked for in what the earlier replacements left.
-/

namespace Linewise.Expression

def spellings : List (Text × Text) :=
  [("true".toList, "True".toList),
   ("false".toList, "False".toList),
   ("null".toList, "None".toList),
   ("AND".toList, "and".toList),
   ("OR".toList, "or".toList),
   ("NOT".toList, "not".toList),
   ("XOR".toList, "!=".toList),
   ("xor".toList, "!=".toList)]

def respell (source : Text) : Text :=
  spellings.foldl (fun text spelling => text.replaceAll spelling.1 spelling.2) source

example : respell "a AND true".toList = "a and True".toList := by decide

end Linewise.Expression
