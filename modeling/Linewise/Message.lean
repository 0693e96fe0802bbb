import Linewise.Expression.Calculation
import Linewise.Substitution

/-!
Messages of SAY, EXIT and LISTEN. A message is written as items, quoted texts and names of
variables; once the references are replaced, each group in braces is calculated and replaced by
its result.
-/

namespace Linewise.Message

/-! ## Items

A message is made of quoted texts, which stand for themselves, and bare words, which are
references. -/

def isQuote (char : Char) : Bool := char = '"' || char = '\''

def bareWord (word : Text) : Text :=
  if isReserved word then "@end".toList else '@' :: word

/-- The message of one part by itself. A part between two quotes of a kind is a text; a lone quote
is both its ends, and leaves nothing. -/
private def partMessage (part : Text) : Text :=
  let between (quote : Char) : Bool := Text.startsWith part [quote] && Text.endsWith part [quote]
  if between '"' || between '\'' then (part.drop 1).dropLast else bareWord part

def ofParts (parts : List Text) : Text := parts.flatMap partMessage

theorem ofParts_quoted {quote : Char} (quotes : isQuote quote = true) (content : Text)
    (rest : List Text) :
    ofParts ((quote :: (content ++ [quote])) :: rest) = content ++ ofParts rest := by
  have between : (Text.startsWith (quote :: (content ++ [quote])) [quote] &&
      Text.endsWith (quote :: (content ++ [quote])) [quote]) = true := by
    rw [Bool.and_eq_true, Text.startsWith, Text.endsWith, List.isPrefixOf_iff_prefix,
      List.isSuffixOf_iff_suffix, ← List.cons_append]
    exact ⟨List.prefix_append [quote] _, List.suffix_append _ [quote]⟩
  have part : partMessage (quote :: (content ++ [quote])) = content := by
    rw [isQuote, Bool.or_eq_true, decide_eq_true_eq, decide_eq_true_eq] at quotes
    rw [partMessage]
    rcases quotes with rfl | rfl
    · simp [between]
    · simp [between]
  rw [ofParts, List.flatMap_cons, part]
  rfl

theorem ofParts_word {word : Text} (unquoted : ∀ char ∈ word, isQuote char = false)
    (rest : List Text) : ofParts (word :: rest) = bareWord word ++ ofParts rest := by
  have outside (quote : Char) (quotes : isQuote quote = true) :
      Text.startsWith word [quote] = false := by
    cases word with
    | nil => rfl
    | cons head tail =>
        have other : quote ≠ head := by
          rintro rfl
          rw [unquoted quote List.mem_cons_self] at quotes
          cases quotes
        simp [Text.startsWith, List.isPrefixOf, other]
  have part : partMessage word = bareWord word := by
    simp [partMessage, outside '"' rfl, outside '\'' rfl]
  rw [ofParts, List.flatMap_cons, part]
  rfl

private def upTo (quote : Char) : Text → Text × Text
  | [] => ([], [])
  | head :: tail =>
      if head = quote then ([], tail)
      else
        let (content, rest) := upTo quote tail
        (head :: content, rest)

private theorem upTo_append {quote : Char} {content : Text} (absent : quote ∉ content)
    (rest : Text) : upTo quote (content ++ quote :: rest) = (content, rest) := by
  induction content with
  | nil => simp [upTo]
  | cons head tail induction =>
      obtain ⟨other, inside⟩ := List.ne_and_not_mem_of_not_mem_cons absent
      simp [upTo, Ne.symm other, induction inside]

private theorem length_upTo_le (quote : Char) (text : Text) :
    (upTo quote text).2.length ≤ text.length := by
  induction text with
  | nil => simp [upTo]
  | cons head tail induction =>
      by_cases equal : head = quote
      · simp [upTo, equal]
      · simp only [upTo, equal, ↓reduceIte, List.length_cons]
        omega

def isWordPart (char : Char) : Bool := !Text.isBlank char && !isQuote char

/-- The message of a text of items. Blanks between items count for nothing; a quoted text without
its closing quote reaches to the end. -/
def ofItems (text : Text) : Text :=
  match text with
  | [] => []
  | head :: tail =>
      if isQuote head then (upTo head tail).1 ++ ofItems (upTo head tail).2
      else if Text.isBlank head then ofItems tail
      else
        bareWord (head :: tail.takeWhile isWordPart) ++ ofItems (tail.dropWhile isWordPart)
termination_by text.length
decreasing_by
  all_goals simp only [List.length_cons]
  · exact Nat.lt_succ_of_le (length_upTo_le _ _)
  · omega
  · exact Nat.lt_succ_of_le (Text.length_dropWhile_le _ _)

theorem ofItems_quoted {quote : Char} (quotes : isQuote quote = true) {content : Text}
    (absent : quote ∉ content) (rest : Text) :
    ofItems (quote :: (content ++ quote :: rest)) = content ++ ofItems rest := by
  rw [ofItems, if_pos quotes, upTo_append absent]

theorem ofItems_blank {head : Char} (blank : Text.isBlank head = true) (tail : Text) :
    ofItems (head :: tail) = ofItems tail := by
  have unquoted : ¬isQuote head = true := by
    rw [isQuote, Bool.or_eq_true, decide_eq_true_eq, decide_eq_true_eq]
    rintro (rfl | rfl) <;> cases blank
  rw [ofItems, if_neg unquoted, if_pos blank]

theorem ofItems_word {word : Text} (nonempty : word ≠ [])
    (inner : ∀ char ∈ word, isWordPart char = true) {rest : Text}
    (ended : ∀ char ∈ rest.head?, isWordPart char = false) :
    ofItems (word ++ rest) = bareWord word ++ ofItems rest := by
  obtain ⟨head, tail, rfl⟩ := List.exists_cons_of_ne_nil nonempty
  have first := inner head List.mem_cons_self
  rw [isWordPart, Bool.and_eq_true, Bool.not_eq_true', Bool.not_eq_true'] at first
  have others : ∀ char ∈ tail, isWordPart char = true :=
    fun char member => inner char (List.mem_cons_of_mem head member)
  have stops : rest.takeWhile isWordPart = [] ∧ rest.dropWhile isWordPart = rest := by
    cases rest with
    | nil => exact ⟨rfl, rfl⟩
    | cons next after =>
        have stop : ¬isWordPart next = true := by simp [ended next rfl]
        exact ⟨List.takeWhile_cons_of_neg stop, List.dropWhile_cons_of_neg stop⟩
  rw [List.cons_append, ofItems, if_neg (by simp [first.2]), if_neg (by simp [first.1]),
    List.takeWhile_append_of_pos others, List.dropWhile_append_of_pos others, stops.1, stops.2,
    List.append_nil]

private def onlyQuoted? (text : Text) : Option Text :=
  match text with
  | [] => none
  | quote :: tail =>
      if isQuote quote && Text.endsWith text [quote] && text.count quote = 2 then
        some tail.dropLast
      else none

def ofLine (parts : List Text) : Text :=
  let joined := Text.join [' '] parts
  (onlyQuoted? joined).getD (ofItems joined)

theorem exists_eq_quoted {quote : Char} {text : Text}
    (opened : Text.startsWith text [quote] = true) (closed : Text.endsWith text [quote] = true)
    (twice : text.count quote = 2) :
    ∃ content, quote ∉ content ∧ text = quote :: (content ++ [quote]) := by
  rw [Text.startsWith, List.isPrefixOf_iff_prefix] at opened
  rw [Text.endsWith, List.isSuffixOf_iff_suffix] at closed
  obtain ⟨tail, rfl⟩ := opened
  rw [List.singleton_append] at closed twice ⊢
  rw [List.count_cons_self] at twice
  -- The other quote is the last character.
  have closing : [quote] <:+ tail := by
    rcases List.suffix_cons_iff.mp closed with single | within
    · cases single
      cases twice
    · exact within
  obtain ⟨inside, rfl⟩ := closing
  rw [List.count_append, List.count_singleton_self] at twice
  exact ⟨inside, List.count_eq_zero.mp (by omega), rfl⟩

private theorem ofItems_of_onlyQuoted? {text content : Text}
    (found : onlyQuoted? text = some content) : ofItems text = content := by
  unfold onlyQuoted? at found
  split at found
  · cases found
  · next quote tail =>
      split at found
      · next alone =>
          simp only [Bool.and_eq_true, decide_eq_true_eq] at alone
          obtain ⟨⟨quotes, closed⟩, twice⟩ := alone
          have opened : Text.startsWith (quote :: tail) [quote] = true :=
            List.isPrefixOf_iff_prefix.mpr (List.prefix_append [quote] tail)
          obtain ⟨inside, absent, whole⟩ := exists_eq_quoted opened closed twice
          cases whole
          rw [List.dropLast_concat, Option.some.injEq] at found
          rw [ofItems_quoted quotes absent, ofItems, List.append_nil, found]
      · cases found

theorem ofLine_eq_ofItems (parts : List Text) : ofLine parts = ofItems (Text.join [' '] parts) := by
  simp only [ofLine]
  cases found : onlyQuoted? (Text.join [' '] parts) with
  | none => rfl
  | some content => exact (ofItems_of_onlyQuoted? found).symm

/-! ## Groups in braces -/

def isBrace (char : Char) : Bool := char = '\x7b' || char = '\x7d'

/-- The leftmost group: a text without braces, not empty, between braces. -/
structure Group where
  before : Text
  inside : Text
  after : Text
deriving DecidableEq, Repr

def firstGroup? : Text → Option Group
  | [] => none
  | head :: tail =>
      let inside := tail.takeWhile (!isBrace ·)
      let after := tail.dropWhile (!isBrace ·)
      if head = '\x7b' ∧ !inside.isEmpty ∧ after.head? = some '\x7d' then
        some ⟨[], inside, after.drop 1⟩
      else (firstGroup? tail).map fun group => { group with before := head :: group.before }

variable [Evaluator]

/-- Replace the leftmost group by its result; `none` if there is no group. -/
def expandOnce? (meaning : Meaning) (message : Text) : Option (Except Error Text) :=
  (firstGroup? message).map fun group => do
    let value ← Expression.shownResult group.inside meaning
    return group.before ++ (← value.written) ++ group.after

def effectsOnce (meaning : Meaning) (message : Text) : Effects :=
  match firstGroup? message with
  | none => .none
  | some group => Expression.effects group.inside meaning

def meaningAfter (meaning : Meaning) (message : Text) : Meaning :=
  meaning.revised (effectsOnce meaning message).revision

/-- Replace groups, the leftmost first, until there is none. A result may hold new groups, so the
number of replacements is limited. -/
def expandGroups (meaning : Meaning) : Nat → Text → Except Error Text
  | 0, message => if (firstGroup? message).isNone then .ok message else .error .unfinished
  | allowance + 1, message =>
      match expandOnce? meaning message with
      | none => .ok message
      | some expanded => do expandGroups (meaningAfter meaning message) allowance (← expanded)

def groupEffects (meaning : Meaning) : Nat → Text → Effects
  | 0, _ => .none
  | allowance + 1, message =>
      match expandOnce? meaning message with
      | none => .none
      | some (.error _) => effectsOnce meaning message
      | some (.ok expanded) => (effectsOnce meaning message).andThen
          (groupEffects (meaningAfter meaning message) allowance expanded)

/-- The most replacements in a message: one for each of its opening braces, and as many for those
that results bring in as are waited for. -/
def mostTurns (message : Text) : Nat := Evaluator.patience + message.count '\x7b'

/-- The message with line feeds for the reserved pair. -/
def unescaped (message : Text) : Text := message.replaceAll ['\\', 'n'] ['\n']

/-- The text that a message stands for: the reserved pair becomes a line feed, then the groups are
replaced. -/
def expand (meaning : Meaning) (message : Text) : Except Error Text :=
  expandGroups meaning (mostTurns (unescaped message)) (unescaped message)

def effects (meaning : Meaning) (message : Text) : Effects :=
  groupEffects meaning (mostTurns (unescaped message)) (unescaped message)

def render (bindings : Bindings) (parts : List Text) : Except Error Text := do
  let message ← substitute bindings (ofLine parts)
  expand bindings.meaning message

end Linewise.Message
