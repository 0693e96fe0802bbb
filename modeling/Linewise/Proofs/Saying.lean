import Linewise.Proofs.Expansion
import Linewise.Proofs.Line
import Linewise.Proofs.Text

/-!
Lines that say a message. The line is cut into words before its items are read, so that a quoted
text keeps its words, but each run of blanks in it becomes one space.
-/

namespace Linewise

/-! ## Spacing

The words of a text joined by spaces are the text with each run of blanks made one space. -/

namespace Text

def singleSpaced : Text → Text
  | [] => []
  | head :: tail =>
      if !isBlank head then head :: singleSpaced tail
      else if tail.head?.any isBlank then singleSpaced tail
      else ' ' :: singleSpaced tail

/-- The blanks of a text are spaces, and no two of them stand together. -/
def IsSingleSpaced (text : Text) : Prop :=
  (∀ char ∈ text, isBlank char = true → char = ' ') ∧ ¬[' ', ' '] <:+: text

theorem singleSpaced_append {left right : Text}
    (apart : left.getLast?.any isBlank = false ∨ right.head?.any isBlank = false) :
    singleSpaced (left ++ right) = singleSpaced left ++ singleSpaced right := by
  induction left with
  | nil => rfl
  | cons head tail induction =>
      cases tail with
      | nil =>
          rw [List.singleton_append, singleSpaced, singleSpaced]
          cases blank : isBlank head with
          | false => rfl
          | true =>
              rw [List.getLast?_singleton, Option.any_some, blank] at apart
              rw [apart.resolve_left Bool.true_eq_false.mp]
              rfl
      | cons next after =>
          have same : (next :: after ++ right).head? = (next :: after).head? := rfl
          rw [List.getLast?_cons_cons] at apart
          rw [List.cons_append, singleSpaced, singleSpaced, same, induction apart]
          split
          · rfl
          · split <;> rfl

theorem length_singleSpaced_le (text : Text) : (singleSpaced text).length ≤ text.length := by
  induction text with
  | nil => exact Nat.le_refl 0
  | cons head tail induction =>
      rw [singleSpaced, List.length_cons]
      split
      · exact Nat.succ_le_succ induction
      · split
        · exact Nat.le_succ_of_le induction
        · exact Nat.succ_le_succ induction

theorem mem_singleSpaced {char : Char} {text : Text} (member : char ∈ singleSpaced text) :
    char = ' ' ∨ char ∈ text := by
  induction text with
  | nil => cases member
  | cons head tail induction =>
      have later (member : char ∈ singleSpaced tail) : char = ' ' ∨ char ∈ head :: tail :=
        (induction member).imp_right (List.mem_cons_of_mem head)
      rw [singleSpaced] at member
      split at member
      · rcases List.mem_cons.mp member with rfl | member
        · exact .inr List.mem_cons_self
        · exact later member
      · split at member
        · exact later member
        · rcases List.mem_cons.mp member with space | member
          · exact .inl space
          · exact later member

theorem singleSpaced_eq_self_iff (text : Text) :
    singleSpaced text = text ↔ IsSingleSpaced text := by
  have other {char : Char} (solid : isBlank char = false) : ' ' ≠ char := by
    rintro rfl
    exact absurd solid (by decide)
  induction text with
  | nil => simp [singleSpaced, IsSingleSpaced]
  | cons head tail induction =>
      rw [IsSingleSpaced] at induction
      rw [singleSpaced, IsSingleSpaced, List.forall_mem_cons, List.infix_cons_iff,
        List.cons_prefix_cons]
      cases blank : isBlank head with
      | false => simp [other blank, induction]
      | true =>
          cases tail with
          | nil => simp [singleSpaced, @eq_comm Char ' ' head]
          | cons next after =>
              cases nextBlank : isBlank next with
              | true =>
                  have shorter := length_singleSpaced_le (next :: after)
                  simp only [Bool.not_true, Bool.false_eq_true, if_false, List.head?_cons,
                    Option.any_some, nextBlank, if_true]
                  constructor
                  · intro same
                    rw [same, List.length_cons] at shorter
                    omega
                  · rintro ⟨⟨headSpace, spaces⟩, apart⟩
                    rw [List.forall_mem_cons] at spaces
                    rw [headSpace trivial, spaces.1 nextBlank] at apart
                    simp at apart
              | false =>
                  simp [nextBlank, other nextBlank, induction, @eq_comm Char ' ' head, and_assoc]

theorem singleSpaced_of_solid {text : Text} (solid : ∀ char ∈ text, isBlank char = false) :
    singleSpaced text = text := by
  rw [singleSpaced_eq_self_iff]
  refine ⟨fun char member blank => ?_, fun spaces => ?_⟩
  · rw [solid char member] at blank
    cases blank
  · cases solid ' ' (spaces.subset List.mem_cons_self)

theorem words_blank {head : Char} (blank : isBlank head = true) (tail : Text) :
    words (head :: tail) = words tail :=
  (words.eq_def (head :: tail)).trans (if_pos blank)

theorem words_ne_nil {text : Text} {char : Char} (member : char ∈ text)
    (solid : isBlank char = false) : words text ≠ [] := by
  induction text with
  | nil => cases member
  | cons head tail induction =>
      by_cases blank : isBlank head = true
      · rw [words_blank blank]
        apply induction
        refine (List.mem_cons.mp member).resolve_left ?_
        rintro rfl
        rw [solid] at blank
        cases blank
      · unfold words
        rw [if_neg blank]
        split
        · exact List.cons_ne_nil _ _
        · split
          · exact List.cons_ne_nil _ _
          · split <;> exact List.cons_ne_nil _ _

theorem join_words {text : Text} (finish : ∀ char ∈ text.getLast?, isBlank char = false) :
    (if text.head?.any isBlank then [' '] else []) ++ join [' '] (words text) =
      singleSpaced text := by
  induction text with
  | nil => rfl
  | cons head tail induction =>
      cases tail with
      | nil =>
          have solid := finish head rfl
          simp [words, singleSpaced, solid, join]
      | cons next after =>
          rw [List.getLast?_cons_cons] at finish
          have rest := induction finish
          obtain ⟨last, ending⟩ : ∃ last, (next :: after).getLast? = some last :=
            ⟨_, List.getLast?_eq_some_getLast (List.cons_ne_nil _ _)⟩
          obtain ⟨word, others, cut⟩ := List.exists_cons_of_ne_nil
            (words_ne_nil (List.mem_of_getLast? ending) (finish last ending))
          rw [cut] at rest
          rw [words, singleSpaced, ← rest, cut]
          cases blank : isBlank head with
          | true => cases nextBlank : isBlank next <;> simp [blank, nextBlank]
          | false =>
              cases nextBlank : isBlank next with
              | true => simp [blank, nextBlank, join, List.intercalate_cons_cons]
              | false =>
                  cases others with
                  | nil => simp [blank, nextBlank, join]
                  | cons second more => simp [blank, nextBlank, join, List.intercalate_cons_cons]

/-- A text with no blanks at its ends. -/
structure IsTrimmed (text : Text) : Prop where
  start : text.head?.any (!isBlank ·) = true
  finish : text.getLast?.any (!isBlank ·) = true

namespace IsTrimmed

variable {text : Text} (trimmed : IsTrimmed text)

include trimmed

theorem head?_any : text.head?.any isBlank = false := by
  obtain ⟨head, first, solid⟩ := (Option.any_eq_true ..).mp trimmed.start
  simpa [first] using solid

theorem getLast?_any : text.getLast?.any isBlank = false := by
  obtain ⟨last, ending, solid⟩ := (Option.any_eq_true ..).mp trimmed.finish
  simpa [ending] using solid

theorem getLast? : ∀ char ∈ text.getLast?, isBlank char = false := by
  intro char last
  simpa [Option.mem_def.mp last] using trimmed.getLast?_any

theorem join_words : join [' '] (words text) = singleSpaced text := by
  have spaced := Text.join_words trimmed.getLast?
  rw [trimmed.head?_any] at spaced
  exact spaced

theorem words_ne_nil : words text ≠ [] := by
  obtain ⟨head, first, solid⟩ := (Option.any_eq_true ..).mp trimmed.start
  exact Text.words_ne_nil (List.mem_of_mem_head? first) (by simpa using solid)

theorem append {right : Text} (rightTrimmed : IsTrimmed right) :
    IsTrimmed (text ++ ' ' :: right) where
  start := by
    obtain ⟨head, first, solid⟩ := (Option.any_eq_true ..).mp trimmed.start
    exact (Option.any_eq_true ..).mpr ⟨head, by simp [first], solid⟩
  finish := by
    obtain ⟨last, ending, solid⟩ := (Option.any_eq_true ..).mp rightTrimmed.finish
    exact (Option.any_eq_true ..).mpr ⟨last, by simp [List.getLast?_cons, ending], solid⟩

theorem singleSpaced_append {right : Text} (rightTrimmed : IsTrimmed right) :
    singleSpaced (text ++ ' ' :: right) = singleSpaced text ++ ' ' :: singleSpaced right := by
  have space : isBlank ' ' = true := by decide
  rw [Text.singleSpaced_append (.inl trimmed.getLast?_any), singleSpaced, rightTrimmed.head?_any]
  simp [space]

end IsTrimmed

/-! ## Word characters -/

private theorem blankRanges_apart : ∀ range ∈ blankRanges,
    ∀ code ∈ List.range' range.1 (range.2 + 1 - range.1), isWord (Char.ofNat code) = false := by
  decide +kernel

theorem solid_of_isWord {char : Char} (word : isWord char = true) : isBlank char = false := by
  rw [← Bool.not_eq_true]
  intro blank
  obtain ⟨range, member, within⟩ := CodeRanges.exists_of_has blank
  have apart := blankRanges_apart range member char.toNat (List.mem_range'_1.mpr (by omega))
  rw [Char.ofNat_toNat, word] at apart
  cases apart

end Text

/-! ## Lines that write

`Writes` is about what comes of a line that is executed, `Tells` only about its plan. -/

namespace Line

section Evaluated

variable [Evaluator]

/-- Whatever the host, the line is done and writes the text, once its expressions are evaluated. -/
def Tells (line : Text) (machine : Machine) (text : Text) : Prop :=
  ∀ (World : Type) (host : Host World) (world : World),
    execute host line machine world =
      (.done, machineAfter line machine, host.write text (worldAfter host line machine world))

/-- Whatever the host, the line is done, writes the text and leaves the machine alone. -/
def Writes (line : Text) (machine : Machine) (text : Text) : Prop :=
  ∀ (World : Type) (host : Host World) (world : World),
    execute host line machine world = (.done, machine, host.write text world)

theorem writes_iff_tells {line : Text} {machine : Machine}
    (untouched : effects machine.bindings (code line) = .none) (text : Text) :
    Writes line machine text ↔ Tells line machine text := by
  simp only [Writes, Tells, machineAfter, worldAfter, untouched]
  exact .rfl

def saying (body : Text) : Text := "SAY ".toList ++ body

def said {World : Type} (host : Host World) (body : Text) (machine : Machine) (world : World)
    (message : Except Error Text) : Outcome × Machine × World :=
  let next := machineAfter (saying body) machine
  let later := worldAfter host (saying body) machine world
  match message with
  | .ok text => (.done, next, host.write text later)
  | .error error => (.failed (error.within .say), next, later)

omit [Evaluator] in
theorem words_saying (body : Text) :
    Text.words (saying body) = "SAY".toList :: Text.words body := by
  have solid : Text.IsSolid "SAY".toList := by decide
  have space : Text.isBlank ' ' = true := by decide
  have cut := Text.words_solid_append solid (' ' :: body) (by simp [space])
  rw [Text.words_blank space] at cut
  exact cut

omit [Evaluator] in
theorem notMem_saying {body : Text} (whole : '#' ∉ body) : '#' ∉ saying body := by
  simp [saying, whole]

omit [Evaluator] in
theorem code_saying {body : Text} (trimmed : body.IsTrimmed) (whole : '#' ∉ body) :
    code (saying body) = saying body := by
  rw [code, Text.before_eq_self (notMem_saying whole)]
  apply Text.trim_eq_self
  · rintro char ⟨⟩
    decide
  · have last : (saying body).getLast? = body.getLast? := by
      cases body with
      | nil => cases trimmed.start
      | cons head tail => simp [saying]
    rw [last]
    exact trimmed.getLast?

omit [Evaluator] in
theorem ofWord?_say : Command.ofWord? (Text.lower "SAY".toList) = some .say := by
  have spelled : Text.Spells Command.say.word "SAY".toList := by decide
  rw [spelled.lower_eq (by decide)]
  exact Command.ofWord?_word .say

omit [Evaluator] in
theorem substituteUnquoted_saying {body : Text}
    (unmarked : ∀ char ∈ body, Reference.ofMark? char = none) (bindings : Bindings) :
    substituteUnquoted bindings (saying body) = .ok (saying body) := by
  have command : "SAY ".toList.all (fun char => (Reference.ofMark? char).isNone) = true := by decide
  apply substituteUnquoted_of_unmarked
  intro char member
  rcases List.mem_append.mp member with inside | member
  · exact Option.isNone_iff_eq_none.mp (List.all_eq_true.mp command char inside)
  · exact unmarked char member

theorem effects_saying {body : Text} (unmarked : ∀ char ∈ body, Reference.ofMark? char = none)
    (bindings : Bindings) :
    effects bindings (saying body) = Plan.messageEffects bindings (Text.words body) := by
  rw [effects, words_saying, substituteUnquoted_saying unmarked]
  simp only [ofWord?_say]
  rfl

theorem plan_saying {body : Text} (trimmed : body.IsTrimmed)
    (unmarked : ∀ char ∈ body, Reference.ofMark? char = none) (bindings : Bindings) :
    plan bindings (saying body) =
      ((Message.render bindings (Text.words body)).map fun text => .write [text]).mapError
        (Error.within .say) := by
  have present : ¬(Text.words body).isEmpty = true := by
    simpa using trimmed.words_ne_nil
  rw [plan, words_saying, substituteUnquoted_saying unmarked]
  simp only [ofWord?_say]
  change ((Plan.say bindings (Text.words body)).mapError (Error.within .say)) = _
  rw [Plan.say, if_neg present]
  cases Message.render bindings (Text.words body) <;> rfl

section Saying

variable {body : Text} (trimmed : body.IsTrimmed) (whole : '#' ∉ body)
  (unmarked : ∀ char ∈ body, Reference.ofMark? char = none)
  {machine : Machine} (outside : machine.current.inComment = false)

include trimmed whole unmarked outside

theorem execute_saying {World : Type} (host : Host World) (world : World) :
    execute host (saying body) machine world =
      said host body machine world (Message.render machine.bindings (Text.words body)) := by
  rw [execute, startsWith_commentMark (notMem_saying whole), outside, code_saying trimmed whole,
    plan_saying trimmed unmarked]
  cases rendered : Message.render machine.bindings (Text.words body) <;> rfl

/-- What is written is the text that is made of the message, whatever else is left behind. -/
theorem render_of_written {text : Text} {after : Machine} {later : Console}
    (executed : execute Console.host (saying body) machine (.start [] []) = (.done, after, later))
    (written : later.written.head? = some text) :
    Message.render machine.bindings (Text.words body) = .ok text := by
  rw [execute_saying trimmed whole unmarked outside] at executed
  cases rendered : Message.render machine.bindings (Text.words body) with
  | error error =>
      rw [rendered] at executed
      cases executed
  | ok message =>
      rw [rendered] at executed
      cases executed
      exact congrArg Except.ok (Option.some.inj written)

theorem tells_saying_iff {text : Text} :
    Tells (saying body) machine text ↔
      Message.render machine.bindings (Text.words body) = .ok text := by
  constructor
  · intro tells
    exact render_of_written trimmed whole unmarked outside (tells _ _ _) rfl
  · intro rendered World host world
    rw [execute_saying trimmed whole unmarked outside, rendered, said]

theorem render_of_writes {text : Text} (writes : Writes (saying body) machine text) :
    Message.render machine.bindings (Text.words body) = .ok text :=
  render_of_written trimmed whole unmarked outside (writes _ _ _) rfl

/-- A message without expressions leaves nothing behind. -/
theorem writes_saying_iff
    (untouched : Plan.messageEffects machine.bindings (Text.words body) = .none) {text : Text} :
    Writes (saying body) machine text ↔
      Message.render machine.bindings (Text.words body) = .ok text := by
  rw [writes_iff_tells, tells_saying_iff trimmed whole unmarked outside]
  rw [code_saying trimmed whole, effects_saying unmarked, untouched]

end Saying

end Evaluated

end Line

/-! ## Plain text -/

namespace Message

def specials : List Char := ['@', '?', '\x7b', '\x7d', '\\', '#']

def IsPlain (text : Text) : Prop := ∀ char ∈ text, char ∉ specials

instance (text : Text) : Decidable (IsPlain text) := List.decidableBAll _ text

theorem firstGroup?_of_unopened {text : Text} (unopened : '\x7b' ∉ text) :
    firstGroup? text = none := by
  cases found : firstGroup? text with
  | none => rfl
  | some group =>
      refine absurd ?_ unopened
      rw [(eq_of_firstGroup? found).1]
      simp

theorem firstGroup?_unescaped {message : Text} (unopened : '\x7b' ∉ message) :
    firstGroup? (unescaped message) = none := by
  apply firstGroup?_of_unopened
  intro member
  rcases Text.mem_replaceAll (List.cons_ne_nil _ _) member with new | old
  · exact absurd new (by decide)
  · exact unopened old

section Evaluated

variable [Evaluator]

theorem expand_of_unopened (meaning : Meaning) {message : Text} (unopened : '\x7b' ∉ message) :
    expand meaning message = .ok (unescaped message) :=
  (expandGroups_done (firstGroup?_unescaped unopened) _).1

theorem effects_of_done (meaning : Meaning) {message : Text}
    (done : firstGroup? (unescaped message) = none) : effects meaning message = .none := by
  rw [effects]
  cases mostTurns (unescaped message) with
  | zero => rfl
  | succ turns => simp only [groupEffects, expandOnce?, done, Option.map_none]

/-- Nothing is evaluated if no expression is left in the message. -/
theorem messageEffects_eq_none {bindings : Bindings} {parts : List Text}
    (done : ∀ message, substitute bindings (ofLine parts) = .ok message →
      firstGroup? (unescaped message) = none) : Plan.messageEffects bindings parts = .none := by
  unfold Plan.messageEffects
  split
  · rfl
  · next message substituted => exact effects_of_done _ (done message substituted)

end Evaluated

namespace IsPlain

theorem append {left right : Text} (leftPlain : IsPlain left) (rightPlain : IsPlain right) :
    IsPlain (left ++ right) := by
  intro char member
  exact (List.mem_append.mp member).elim (leftPlain char) (rightPlain char)

variable {text : Text} (plain : IsPlain text)

include plain

theorem notMem {char : Char} (special : char ∈ specials) : char ∉ text :=
  fun member => plain char member special

theorem unmarked {char : Char} (member : char ∈ text) : Reference.ofMark? char = none := by
  unfold Reference.ofMark?
  split
  · exact absurd member (plain.notMem (by decide))
  · exact absurd member (plain.notMem (by decide))
  · rfl

theorem substitute_eq (bindings : Bindings) : substitute bindings text = .ok text := by
  have copied := @substitute_append bindings text (fun char => plain.unmarked) []
  rw [List.append_nil] at copied
  rw [copied]
  exact congrArg Except.ok (List.append_nil text)

theorem expand_eq [Evaluator] (meaning : Meaning) : expand meaning text = .ok text := by
  have unbroken : ¬['\\', 'n'] <:+: text := fun found =>
    plain.notMem (by decide) (found.subset List.mem_cons_self)
  rw [expand_of_unopened meaning (plain.notMem (by decide)), unescaped,
    Text.replaceAll_eq_self unbroken]

theorem singleSpaced : IsPlain (Text.singleSpaced text) := by
  intro char member
  rcases Text.mem_singleSpaced member with rfl | member
  · decide
  · exact plain char member

end IsPlain

theorem eq_of_isQuote {char : Char} (quotes : isQuote char = true) : char = '"' ∨ char = '\'' := by
  simpa [isQuote] using quotes

end Message

/-! ## Names as items -/

namespace IsReferable

variable {name : Text} (referable : IsReferable name)

include referable

theorem isWord {char : Char} (member : char ∈ name) : Text.isWord char = true :=
  List.all_eq_true.mp referable.inner char member

theorem ne_nil : name ≠ [] := by
  rintro rfl
  cases referable.start

theorem isWordPart {char : Char} (member : char ∈ name) : Message.isWordPart char = true := by
  have word := referable.isWord member
  have unquoted : Message.isQuote char = false := by
    rw [← Bool.not_eq_true]
    intro quotes
    rcases Message.eq_of_isQuote quotes with rfl | rfl <;> cases word
  rw [Message.isWordPart, Text.solid_of_isWord word, unquoted]
  rfl

theorem isPlain : Message.IsPlain name := by
  have apart : Message.specials.all (!Text.isWord ·) = true := by decide
  intro char member special
  have other := List.all_eq_true.mp apart char special
  rw [referable.isWord member] at other
  cases other

theorem isTrimmed : name.IsTrimmed := by
  have solid {char : Char} (member : char ∈ name) : (!Text.isBlank char) = true := by
    rw [Text.solid_of_isWord (referable.isWord member)]
    rfl
  obtain ⟨head, tail, rfl⟩ := List.exists_cons_of_ne_nil referable.ne_nil
  have last := List.getLast?_eq_some_getLast (List.cons_ne_nil head tail)
  exact ⟨solid List.mem_cons_self,
    (Option.any_eq_true ..).mpr ⟨_, last, solid (List.getLast_mem _)⟩⟩

theorem singleSpaced_eq : Text.singleSpaced name = name :=
  Text.singleSpaced_of_solid fun _ member => Text.solid_of_isWord (referable.isWord member)

theorem ofItems_append {rest : Text} (apart : Expression.Apart rest) :
    Message.ofItems (name ++ rest) = Message.bareWord name ++ Message.ofItems rest := by
  apply Message.ofItems_word referable.ne_nil fun _ => referable.isWordPart
  rcases apart with rfl | ⟨tail, rfl⟩
  · exact nofun
  · rintro char ⟨⟩
    decide

theorem substitute_ofLine (bindings : Bindings) (unreserved : isReserved name = false) :
    substitute bindings (Message.ofLine (Text.words name)) =
      (bindings.referenceText? .value name).getD (.ok ('@' :: name)) := by
  have item := referable.ofItems_append (.inl rfl : Expression.Apart [])
  rw [List.append_nil, Message.ofItems, List.append_nil, Message.bareWord, unreserved,
    if_neg Bool.false_ne_true] at item
  have reference := @substitute_reference bindings '@' .value rfl name referable [] rfl
  rw [List.append_nil] at reference
  rw [Message.ofLine_eq_ofItems, referable.isTrimmed.join_words, referable.singleSpaced_eq, item,
    reference]
  cases (bindings.referenceText? .value name).getD (.ok ('@' :: name)) with
  | error cause => rfl
  | ok message => exact congrArg Except.ok (List.append_nil message)

variable [Evaluator]

theorem render_eq (bindings : Bindings) (unreserved : isReserved name = false) :
    Message.render bindings (Text.words name) = (do
      let message ← (bindings.referenceText? .value name).getD (.ok ('@' :: name))
      Message.expand bindings.meaning message) := by
  rw [Message.render, referable.substitute_ofLine bindings unreserved]

theorem tells_saying_iff {machine : Machine} (outside : machine.current.inComment = false)
    {text : Text} : Line.Tells (Line.saying name) machine text ↔
      Message.render machine.bindings (Text.words name) = .ok text :=
  Line.tells_saying_iff referable.isTrimmed (referable.isPlain.notMem (by decide))
    (fun _ => referable.isPlain.unmarked) outside

/-- If no expression comes in with the value, the machine is left alone. -/
theorem writes_saying_iff (machine : Machine) (unreserved : isReserved name = false)
    (done : ∀ message, (machine.bindings.referenceText? .value name).getD (.ok ('@' :: name)) =
      .ok message → Message.firstGroup? (Message.unescaped message) = none) (text : Text) :
    Line.Writes (Line.saying name) machine text ↔ Line.Tells (Line.saying name) machine text := by
  apply Line.writes_iff_tells
  rw [Line.code_saying referable.isTrimmed (referable.isPlain.notMem (by decide)),
    Line.effects_saying fun _ => referable.isPlain.unmarked]
  apply Message.messageEffects_eq_none
  rwa [referable.substitute_ofLine machine.bindings unreserved]

end IsReferable

/-! ## Quoted texts as items -/

namespace Message

def quoted (quote : Char) (text : Text) : Text := quote :: (text ++ [quote])

section Quoted

variable {quote : Char} (quotes : isQuote quote = true)

include quotes

theorem solid_of_isQuote : Text.isBlank quote = false := by
  rcases eq_of_isQuote quotes with rfl | rfl <;> decide

theorem isPlain_of_isQuote : IsPlain [quote] := by
  rcases eq_of_isQuote quotes with rfl | rfl <;> decide

theorem trimmed_quoted (text : Text) : (quoted quote text).IsTrimmed := by
  have solid := solid_of_isQuote quotes
  constructor
  · simp [quoted, solid]
  · rw [quoted, ← List.cons_append, List.getLast?_concat]
    simp [solid]

theorem isPlain_quoted {text : Text} (plain : IsPlain text) : IsPlain (quoted quote text) :=
  (isPlain_of_isQuote quotes).append (plain.append (isPlain_of_isQuote quotes))

theorem singleSpaced_quoted (text : Text) :
    Text.singleSpaced (quoted quote text) = quoted quote (Text.singleSpaced text) := by
  have solid := solid_of_isQuote quotes
  have closing : Text.singleSpaced [quote] = [quote] := by
    simp [Text.singleSpaced, solid]
  rw [quoted, Text.singleSpaced, Text.singleSpaced_append (.inr (by simpa using solid)), closing]
  simp [solid, quoted]

theorem ofLine_quoted {text : Text} (unquoted : quote ∉ text) :
    ofLine (Text.words (quoted quote text)) = Text.singleSpaced text := by
  have absent : quote ∉ Text.singleSpaced text := by
    intro member
    rcases Text.mem_singleSpaced member with rfl | member
    · cases quotes
    · exact unquoted member
  rw [ofLine_eq_ofItems, (trimmed_quoted quotes text).join_words, singleSpaced_quoted quotes,
    quoted, ofItems_quoted quotes absent, ofItems, List.append_nil]

section Evaluated

variable [Evaluator] (bindings : Bindings) {text : Text} (unquoted : quote ∉ text)
  (plain : IsPlain text)

include unquoted plain

theorem render_quoted :
    render bindings (Text.words (quoted quote text)) = .ok (Text.singleSpaced text) := by
  rw [render, ofLine_quoted quotes unquoted, plain.singleSpaced.substitute_eq]
  exact plain.singleSpaced.expand_eq bindings.meaning

theorem messageEffects_quoted :
    Plan.messageEffects bindings (Text.words (quoted quote text)) = .none := by
  apply messageEffects_eq_none
  intro message substituted
  rw [ofLine_quoted quotes unquoted, plain.singleSpaced.substitute_eq] at substituted
  cases substituted
  exact firstGroup?_unescaped (plain.singleSpaced.notMem (by decide))

end Evaluated

end Quoted

end Message

namespace Line

/-- A line that says a quoted text writes it with each run of blanks as one space. This is the text
itself just if its blanks are spaces of which no two stand together. -/
theorem writes_quoted_iff [Evaluator] {quote : Char} (quotes : Message.isQuote quote = true)
    {text : Text} (unquoted : quote ∉ text) (plain : Message.IsPlain text) {machine : Machine}
    (outside : machine.current.inComment = false) :
    Writes (saying (Message.quoted quote text)) machine (Text.singleSpaced text) ∧
      (Writes (saying (Message.quoted quote text)) machine text ↔ Text.IsSingleSpaced text) := by
  have linePlain := Message.isPlain_quoted quotes plain
  have rendered := Message.render_quoted quotes machine.bindings unquoted plain
  have untouched := Message.messageEffects_quoted quotes machine.bindings unquoted plain
  have writes (other : Text) :=
    @writes_saying_iff _ _ (Message.trimmed_quoted quotes text) (linePlain.notMem (by decide))
      (fun char => linePlain.unmarked) machine outside untouched other
  rw [writes, writes, rendered, ← Text.singleSpaced_eq_self_iff]
  exact ⟨rfl, by rw [Except.ok.injEq]⟩

/-- Two spaces and a tab. -/
theorem writes_quoted_iff_spread :
    Writes (saying "\"a  b\tc\"".toList) .empty "a b c".toList ∧
      ¬Writes (saying "\"a  b\tc\"".toList) .empty "a  b\tc".toList := by
  have law :=
    @writes_quoted_iff _ '"' (by decide) "a  b\tc".toList (by decide) (by decide) .empty rfl
  refine ⟨law.1, fun writes => ?_⟩
  exact absurd ((law.2.mp writes).1 '\t' (by decide) (by decide)) (by decide)

end Line

end Linewise
