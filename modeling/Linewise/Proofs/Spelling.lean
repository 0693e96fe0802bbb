import Linewise.Proofs.Constants
import Linewise.Proofs.LetterCase
import Linewise.Proofs.References

/-!
Names in other letter cases, as arguments of commands. A command looks its arguments up in lower
case, so that programs that differ only there are run alike. A line is also searched for references
before its command is carried out; this makes a difference only if a value cannot be written.
-/

namespace Linewise

/-! ## Commands -/

namespace Plan

def uncasedReference (mark : Char) (argument : Text) : Text :=
  if argument.head? = some mark then Text.uncased argument else argument

def uncasedDeclaration : List Text → List Text
  | type :: name :: values => type :: Text.uncased name :: values
  | arguments => arguments

end Plan

open Plan in
/-- The arguments of a command with the names of variables uncased, and all else as it is. -/
def Command.uncased : Command → List Text → List Text
  | .create, first :: rest =>
      if Text.lower first = "const".toList then first :: uncasedDeclaration rest
      else uncasedDeclaration (first :: rest)
  | .listen, type :: second :: rest =>
      type :: (if startsWithQuote second then second else Text.uncased second) :: rest
  | .change, name :: values => Text.uncased name :: values
  | .convert, [name, target] => [Text.uncased name, uncasedReference '?' target]
  | .round, [name, precision] => [Text.uncased name, uncasedReference '@' precision]
  | .random, type :: low :: high :: rest =>
      type :: uncasedReference '@' low :: uncasedReference '@' high :: rest.map Text.uncased
  | .delete, arguments | .reset, arguments | .swap, arguments | .increment, arguments
  | .decrement, arguments | .uppercase, arguments | .lowercase, arguments
  | .reverse, arguments => arguments.map Text.uncased
  | _, arguments => arguments

namespace Plan

variable (bindings : Bindings) (arguments : List Text)

theorem startsWithQuote_uncased (text : Text) :
    startsWithQuote (Text.uncased text) = startsWithQuote text := by
  have double := Text.beq_toLower (show '"'.isAlpha = false by decide)
  have single := Text.beq_toLower (show '\''.isAlpha = false by decide)
  cases text with
  | nil => rfl
  | cons head tail =>
      simp [startsWithQuote, Text.startsWith, Text.uncased, List.isPrefixOf, double, single]

theorem integerArgument_uncased (argument : Text) (notNumeric notInteger : Text → Error) :
    integerArgument bindings (uncasedReference '@' argument) notNumeric notInteger =
      integerArgument bindings argument notNumeric notInteger := by
  unfold uncasedReference
  split
  · next marked =>
      obtain ⟨name, rfl⟩ := List.head?_eq_some_iff.mp marked
      change integerArgument bindings ('@' :: Text.uncased name) notNumeric notInteger = _
      simp only [integerArgument, Text.lower_uncased]
  · rfl

theorem targetType_uncased (target : Text) :
    targetType bindings (uncasedReference '?' target) = targetType bindings target := by
  unfold uncasedReference
  split
  · next marked =>
      obtain ⟨name, rfl⟩ := List.head?_eq_some_iff.mp marked
      change targetType bindings ('?' :: Text.uncased name) = _
      simp only [targetType, Text.lower_uncased]
  · rfl

theorem onlyName_uncased (command : Command) :
    onlyName command bindings (arguments.map Text.uncased) =
      onlyName command bindings arguments := by
  match arguments with
  | [] | _ :: _ :: _ => rfl
  | [name] => simp only [List.map_cons, List.map_nil, onlyName, Text.lower_uncased]

theorem declaration_uncased :
    declaration bindings (Command.uncased .create arguments) = declaration bindings arguments := by
  match arguments with
  | [] => rfl
  | first :: rest =>
      by_cases constant : Text.lower first = "const".toList
      · match rest with
        | [] | [_] => simp only [Command.uncased, if_pos constant, uncasedDeclaration]
        | type :: name :: values =>
            simp only [Command.uncased, if_pos constant, uncasedDeclaration, declaration, constancy,
              bind, Except.bind, Text.lower_uncased]
      · match rest with
        | [] => simp only [Command.uncased, if_neg constant, uncasedDeclaration]
        | name :: values =>
            simp only [Command.uncased, if_neg constant, uncasedDeclaration, declaration, constancy,
              bind, Except.bind, Text.lower_uncased]

theorem question_uncased :
    question bindings (Command.uncased .listen arguments) = question bindings arguments := by
  match arguments with
  | [] | [_] => rfl
  | type :: second :: rest =>
      simp only [Command.uncased, question]
      by_cases quoted : startsWithQuote second = true
      · rw [if_pos quoted]
      · rw [if_neg quoted]
        simp only [listenTarget, startsWithQuote_uncased, if_neg quoted, Text.lower_uncased]

theorem changeTarget_uncased :
    changeTarget bindings (Command.uncased .change arguments) =
      changeTarget bindings arguments := by
  match arguments with
  | [] | [_] => rfl
  | name :: first :: rest => simp only [Command.uncased, changeTarget, Text.lower_uncased]

theorem random_uncased :
    random bindings (Command.uncased .random arguments) = random bindings arguments := by
  match arguments with
  | [] | [_] | [_, _] => rfl
  | type :: low :: high :: rest =>
      have target : drawTarget bindings (rest.map Text.uncased) = drawTarget bindings rest := by
        match rest with
        | [] | _ :: _ :: _ => rfl
        | [name] => simp only [List.map_cons, List.map_nil, drawTarget, Text.lower_uncased]
      simp only [Command.uncased, random, integerArgument_uncased, target]

theorem swap_uncased :
    swap bindings (Command.uncased .swap arguments) = swap bindings arguments := by
  match arguments with
  | [] | [_] | _ :: _ :: _ :: _ => rfl
  | [left, right] =>
      simp only [Command.uncased, List.map_cons, List.map_nil, swap, Text.lower_uncased]

end Plan

open Plan in
/-- A command does not tell the letter cases of its names apart. -/
theorem Command.plan_uncased [Evaluator] (command : Command) (bindings : Bindings)
    (arguments : List Text) :
    command.plan bindings (command.uncased arguments) = command.plan bindings arguments := by
  unfold plan
  congr 1
  cases command with
  | branch | loop | say | exit => rfl
  | create => simp only [unreported, Plan.create, declaration_uncased]
  | listen => simp only [unreported, Plan.listen, question_uncased]
  | change => simp only [unreported, Plan.change, changeTarget_uncased]
  | random => exact random_uncased bindings arguments
  | swap => exact swap_uncased bindings arguments
  | convert =>
      rcases arguments with _ | ⟨name, _ | ⟨target, _ | ⟨further, rest⟩⟩⟩
      · rfl
      · rfl
      · simp only [uncased, unreported, Plan.convert, Text.lower_uncased, targetType_uncased]
      · rfl
  | round =>
      rcases arguments with _ | ⟨name, _ | ⟨precision, _ | ⟨further, rest⟩⟩⟩
      · rfl
      · rfl
      · simp only [uncased, unreported, Plan.round, Text.lower_uncased, integerArgument_uncased]
      · rfl
  | delete | reset | reverse =>
      simp only [uncased, unreported, Plan.delete, Plan.reset, Plan.reverse, onlyName_uncased]
  | increment | decrement =>
      simp only [uncased, unreported, Plan.increment, Plan.decrement, step, onlyName_uncased]
  | uppercase | lowercase =>
      simp only [uncased, unreported, Plan.uppercase, Plan.lowercase, recase, onlyName_uncased]

open Plan in
theorem Command.effects_uncased [Evaluator] (command : Command) (bindings : Bindings)
    (arguments : List Text) :
    effects command bindings (command.uncased arguments) = effects command bindings arguments := by
  cases command with
  | create => simp only [effects, declaration_uncased]
  | listen => simp only [effects, question_uncased]
  | change => simp only [effects, changeTarget_uncased]
  | _ => rfl

/-! ## Lines -/

def Bindings.Writable (bindings : Bindings) : Prop :=
  ∀ name stored, bindings name = some stored → ∃ text, stored.mention = .ok text

theorem Bindings.Writable.mentionFault?_eq {bindings : Bindings} (writable : bindings.Writable)
    (name : Text) : bindings.mentionFault? name = none := by
  rw [mentionFault?, referenceText?]
  by_cases reserved : isReserved name = true
  · rw [if_pos reserved]
    split <;> rfl
  · rw [if_neg reserved]
    cases found : bindings name with
    | none => split <;> rfl
    | some stored =>
        obtain ⟨text, written⟩ := writable name stored found
        simp [written]

namespace Line

theorem code_strip (line : Text) : code (Text.strip line) = code line :=
  Text.strip_before_strip (by decide) line

/-- What a line says apart from the letter case of names: its command with the arguments, or the
calculation that it is. -/
def content (line : Text) : Text ⊕ Command × List Text :=
  match command? line with
  | none => .inl (code line)
  | some (command, arguments) => .inr (command, command.uncased arguments)

theorem content_congr {line other : Text} (same : code line = code other) :
    content line = content other := by
  rw [content, content, command?, command?, same]

def mentions (line : Text) : List Text := unquotedNames (code line)

theorem mentions_congr {line other : Text} (same : code line = code other) :
    mentions line = mentions other :=
  congrArg unquotedNames same

/-- The lines differ only in the case of ASCII letters, and only in words that commands look up in
lower case. -/
structure Respelled (first second : Text) : Prop where
  letters : Text.uncased first = Text.uncased second
  content : Line.content first = Line.content second

instance (first second : Text) : Decidable (Respelled first second) :=
  decidable_of_iff (Text.uncased first = Text.uncased second ∧ content first = content second)
    ⟨fun both => ⟨both.1, both.2⟩, fun respelled => ⟨respelled.letters, respelled.content⟩⟩

namespace Respelled

variable {first second : Text} (respelled : Respelled first second)

include respelled

protected theorem strip : Respelled (Text.strip first) (Text.strip second) where
  letters := Text.uncased_strip respelled.letters
  content := by
    rw [content_congr (code_strip first), content_congr (code_strip second), respelled.content]

protected theorem code : Respelled (code first) (code second) where
  letters := uncased_code respelled.letters
  content := by
    rw [content_congr (code_code first), content_congr (code_code second), respelled.content]

end Respelled

section Evaluated

variable [Evaluator]

theorem plan_of_command? {line : Text} {command : Command} {arguments : List Text}
    (known : command? line = some (command, arguments)) (bindings : Bindings) :
    plan bindings (code line) =
        (match substituteUnquoted bindings (code line) with
        | .ok _ => command.plan bindings arguments
        | .error cause => .error (.fault cause)) ∧
      effects bindings (code line) =
        match substituteUnquoted bindings (code line) with
        | .ok _ => Plan.effects command bindings arguments
        | .error _ => .none := by
  unfold command? at known
  unfold plan effects
  cases words : Text.words (code line) with
  | nil =>
      rw [words] at known
      cases known
  | cons first rest =>
      rw [words] at known
      obtain ⟨found, word, equal⟩ := Option.map_eq_some_iff.mp known
      cases equal
      cases substituteUnquoted bindings (code line) with
      | error cause => exact ⟨rfl, rfl⟩
      | ok replaced =>
          simp only [word]
          exact ⟨rfl, trivial⟩

/-- The lines have the same plan and leave the same behind, if the references in them fail alike. -/
theorem Respelled.plan_eq {first second : Text} (respelled : Respelled first second)
    {bindings : Bindings} (alike : ∀ cause, substituteUnquoted bindings (Line.code first) =
      .error cause ↔ substituteUnquoted bindings (Line.code second) = .error cause) :
    plan bindings (Line.code first) = plan bindings (Line.code second) ∧
      effects bindings (Line.code first) = effects bindings (Line.code second) := by
  have same := respelled.content
  unfold Line.content at same
  split at same
  · split at same
    · rw [Sum.inl.inj same]
      exact ⟨rfl, rfl⟩
    · cases same
  · next command arguments firstKnown =>
      split at same
      · cases same
      · next other others secondKnown =>
          obtain ⟨rfl, names⟩ := Prod.mk.inj (Sum.inr.inj same)
          have plans : command.plan bindings arguments = command.plan bindings others := by
            rw [← Command.plan_uncased, names, Command.plan_uncased]
          have left : Plan.effects command bindings arguments =
              Plan.effects command bindings others := by
            rw [← Command.effects_uncased, names, Command.effects_uncased]
          obtain ⟨firstPlan, firstEffects⟩ := plan_of_command? firstKnown bindings
          obtain ⟨secondPlan, secondEffects⟩ := plan_of_command? secondKnown bindings
          rw [firstPlan, firstEffects, secondPlan, secondEffects, plans, left]
          cases firstReplaced : substituteUnquoted bindings (Line.code first) with
          | error cause =>
              rw [(alike cause).mp firstReplaced]
              exact ⟨rfl, rfl⟩
          | ok _ =>
              cases secondReplaced : substituteUnquoted bindings (Line.code second) with
              | error cause =>
                  rw [(alike cause).mpr secondReplaced] at firstReplaced
                  cases firstReplaced
              | ok _ => exact ⟨rfl, rfl⟩

theorem Respelled.execute_eq {World : Type} (host : Host World) {first second : Text}
    (respelled : Respelled first second) {machine : Machine} (world : World)
    (legible : mentions first = mentions second ∨ machine.bindings.Writable) :
    execute host first machine world = execute host second machine world := by
  have alike : ∀ cause, substituteUnquoted machine.bindings (Line.code first) = .error cause ↔
      substituteUnquoted machine.bindings (Line.code second) = .error cause := by
    intro cause
    rw [substituteUnquoted_eq_error_iff, substituteUnquoted_eq_error_iff]
    rcases legible with same | writable
    · rw [show unquotedNames (Line.code first) = unquotedNames (Line.code second) from same]
    · have fine : ∀ names : List Text, names.findSome? machine.bindings.mentionFault? = none :=
        fun names => List.findSome?_eq_none_iff.mpr fun name _ => writable.mentionFault?_eq name
      rw [fine, fine]
  obtain ⟨plans, left⟩ := respelled.plan_eq alike
  rw [execute, execute, startsWith_commentMark_eq respelled.letters, plans]
  simp only [machineAfter, worldAfter, left]

end Evaluated

end Line

end Linewise
