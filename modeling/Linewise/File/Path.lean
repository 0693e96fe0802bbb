import Linewise.Text.Basic

/-!
Paths: names between slashes. A path that starts with a slash is absolute.
-/

namespace Linewise.Path

/-- Drop empty names and names that stay in place, and let a step up undo the name before it. The
names so far are kept with the last one first. -/
private def resolve (names : List Text) (name : Text) : List Text :=
  if name = [] ∨ name = ['.'] then names
  else if name = ['.', '.'] then names.drop 1
  else name :: names

def absolute (directory : List Text) (path : Text) : List Text :=
  let start := if Text.startsWith path ['/'] then [] else directory.reverse
  ((Text.splitAt '/' path).foldl resolve start).reverse

def relative : List Text → List Text → Text
  | [], [] => ['.']
  | here :: directory, there :: target =>
      if here = there then relative directory target
      else steps (directory.length + 1) (there :: target)
  | directory, target => steps directory.length target
where
  steps (up : Nat) (down : List Text) : Text :=
    Text.join ['/'] (List.replicate up ['.', '.'] ++ down)

def lastName (path : Text) : Text := (Text.splitAt '/' path).getLast?.getD []

/-- A name without its last ending. Points at its start do not begin an ending. -/
def withoutEnding (name : Text) : Text :=
  let points := name.takeWhile (· = '.')
  let rest := name.dropWhile (· = '.')
  match (rest.reverse.dropWhile (· != '.')) with
  | [] => name
  | _ :: stem => points ++ stem.reverse

end Linewise.Path
