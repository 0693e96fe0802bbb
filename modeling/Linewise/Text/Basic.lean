/-!
Text as a list of characters, with the searching, cutting and joining that the language needs.
A character is a code point, so lengths and positions count code points.
-/

namespace Linewise

abbrev Text := List Char

namespace Text

/-! ## Searching -/

def startsWith (text start : Text) : Bool := start.isPrefixOf text

def endsWith (text finish : Text) : Bool := finish.isSuffixOf text

/-- `pattern` occurs somewhere in the text, as one run of characters. -/
def hasPart (pattern : Text) : Text → Bool
  | [] => pattern.isEmpty
  | head :: tail => pattern.isPrefixOf (head :: tail) || hasPart pattern tail

/-! ## Cutting and joining -/

def join (separator : Text) (parts : List Text) : Text := separator.intercalate parts

def before (mark : Char) (text : Text) : Text := text.takeWhile (· != mark)

/-- The pieces between the occurrences of `mark`: one more than there are marks. -/
def splitAt (mark : Char) : Text → List Text
  | [] => [[]]
  | head :: tail =>
      if head = mark then [] :: splitAt mark tail
      else match splitAt mark tail with
        | [] => [[head]]
        | piece :: pieces => (head :: piece) :: pieces

def trim (inClass : Char → Bool) (text : Text) : Text :=
  ((text.dropWhile inClass).reverse.dropWhile inClass).reverse

theorem length_dropWhile_le (inClass : Char → Bool) (text : Text) :
    (text.dropWhile inClass).length ≤ text.length :=
  (List.dropWhile_suffix inClass).length_le

/-- Copy the text with `skipped` more characters left out, and `old` replaced by `new` from there
on. Occurrences are taken from the left and do not overlap. -/
private def replaceFrom (old new : Text) : Nat → Text → Text
  | _, [] => []
  | skipped + 1, _ :: tail => replaceFrom old new skipped tail
  | 0, head :: tail =>
      if old.isPrefixOf (head :: tail) then
        new ++ replaceFrom old new (old.length - 1) tail
      else head :: replaceFrom old new 0 tail

/-- Replace every occurrence of `old`, which is not empty, from the left. -/
def replaceAll (text old new : Text) : Text := replaceFrom old new 0 text

example : replaceAll "aaaxa".toList "aa".toList "b".toList = "baxa".toList := by decide

private theorem replaceFrom_drop (old new : Text) (skipped : Nat) (text : Text) :
    replaceFrom old new skipped text = replaceAll (text.drop skipped) old new := by
  induction skipped generalizing text with
  | zero => rfl
  | succ skipped induction =>
      cases text with
      | nil => rfl
      | cons head tail => exact induction tail

theorem replaceAll_append {old : Text} (nonempty : old ≠ []) (new rest : Text) :
    replaceAll (old ++ rest) old new = new ++ replaceAll rest old new := by
  obtain ⟨head, tail, rfl⟩ := List.exists_cons_of_ne_nil nonempty
  have found : (head :: tail).isPrefixOf (head :: (tail ++ rest)) = true :=
    List.isPrefixOf_iff_prefix.mpr (List.prefix_append (head :: tail) rest)
  rw [List.cons_append, replaceAll, replaceFrom, if_pos found, replaceFrom_drop,
    List.length_cons, Nat.add_sub_cancel, List.drop_left]

theorem replaceAll_cons {old : Text} {head : Char} {tail : Text} (absent : ¬old <+: head :: tail)
    (new : Text) : replaceAll (head :: tail) old new = head :: replaceAll tail old new := by
  rw [← List.isPrefixOf_iff_prefix] at absent
  rw [replaceAll, replaceFrom, if_neg absent]
  rfl

def padRight (width : Nat) (text : Text) : Text :=
  text ++ List.replicate (width - text.length) ' '

def padLeft (width : Nat) (text : Text) : Text :=
  List.replicate (width - text.length) ' ' ++ text

/-! ## Numbers as text -/

def ofNat (number : Nat) : Text := Nat.toDigits 10 number

def ofInt (number : Int) : Text :=
  if number < 0 then '-' :: ofNat number.natAbs else ofNat number.natAbs

/-! ## Comparing -/

/-- Order by code points, a proper start before the longer text. -/
def precedes : Text → Text → Bool
  | _, [] => false
  | [], _ :: _ => true
  | left :: lefts, right :: rights =>
      if left = right then precedes lefts rights else left.toNat < right.toNat

end Text

end Linewise
