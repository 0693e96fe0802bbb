import Linewise.Proofs.Saying
import Linewise.Proofs.Typing

/-!
Text that somebody enters, and what is said of it later. The text is stored without the blanks and
quotes at its ends. When a line says the variable, its text is taken for a message, so that it comes
out as it is just if there is no reserved pair and no group in it.
-/

namespace Linewise

namespace Message

/-! ## Groups -/

def HasGroup (text : Text) : Prop :=
  ∃ before inside after, text = before ++ '\x7b' :: (inside ++ '\x7d' :: after) ∧ inside ≠ [] ∧
    ∀ char ∈ inside, isBrace char = false

private theorem inside_ne_nil {text : Text} {group : Group}
    (found : firstGroup? text = some group) : group.inside ≠ [] := by
  induction text generalizing group with
  | nil => cases found
  | cons head tail induction =>
      unfold firstGroup? at found
      simp only at found
      split at found
      · next delimited =>
          cases found
          simpa using delimited.2.1
      · obtain ⟨other, inner, rfl⟩ := Option.map_eq_some_iff.mp found
        have nonempty : other.inside ≠ [] := induction inner
        exact nonempty

theorem firstGroup?_eq_none_iff {text : Text} : firstGroup? text = none ↔ ¬HasGroup text := by
  constructor
  · rintro none ⟨before, inside, after, rfl, nonempty, braceless⟩
    induction before with
    | nil =>
        have found := firstGroup?_braceless (List.forall_mem_nil _) nonempty braceless after
        rw [none] at found
        cases found
    | cons head tail induction =>
        rw [List.cons_append, firstGroup?] at none
        split at none
        · cases none
        · exact induction (Option.map_eq_none_iff.mp none)
  · intro ungrouped
    cases found : firstGroup? text with
    | none => rfl
    | some group =>
        obtain ⟨whole, braceless⟩ := eq_of_firstGroup? found
        exact absurd ⟨_, _, _, whole, inside_ne_nil found, braceless⟩ ungrouped

theorem hasGroup_of_unescaped {text : Text} (grouped : HasGroup (unescaped text)) :
    HasGroup text := by
  obtain ⟨before, inside, after, whole, nonempty, braceless⟩ := grouped
  have pair : (['\\', 'n'] : Text) ≠ [] := List.cons_ne_nil _ _
  obtain ⟨first, rest, rfl, -, divided⟩ := Text.exists_of_replaceAll_eq pair (by decide) whole
  obtain ⟨middle, last, rfl, replaced, -⟩ := Text.exists_of_replaceAll_eq pair (by decide) divided
  refine ⟨first, middle, last, rfl, ?_, fun char member => ?_⟩
  · rintro rfl
    exact nonempty replaced.symm
  · rw [← Bool.not_eq_true]
    intro brace
    have foreign : char ∉ (['\\', 'n'] : Text) := by
      rw [isBrace, Bool.or_eq_true, decide_eq_true_eq, decide_eq_true_eq] at brace
      rcases brace with rfl | rfl <;> decide
    obtain ⟨left, right, rfl⟩ := List.append_of_mem member
    rw [Text.replaceAll_append_cons pair foreign] at replaced
    have clear := braceless char (replaced ▸ List.mem_append_right _ List.mem_cons_self)
    rw [brace] at clear
    cases clear

theorem firstGroup?_unescaped_of_ungrouped {text : Text} (ungrouped : ¬HasGroup text) :
    firstGroup? (unescaped text) = none :=
  firstGroup?_eq_none_iff.mpr fun grouped => ungrouped (hasGroup_of_unescaped grouped)

variable [Evaluator]

/-- A message stands for itself just if there is no reserved pair and no group in it. -/
theorem expand_eq_self_iff (meaning : Meaning) (text : Text) :
    expand meaning text = .ok text ↔ ¬['\\', 'n'] <:+: text ∧ ¬HasGroup text := by
  constructor
  · intro same
    have ungrouped : ¬HasGroup text := by
      have outcome : Outcome (expand meaning text) := outcome_expandGroups meaning _ _
      rw [same] at outcome
      cases outcome with
      | text done => exact firstGroup?_eq_none_iff.mp done
    refine ⟨fun escaped => ?_, ungrouped⟩
    -- Without groups the message is the text with its pairs replaced, which is shorter.
    have done := firstGroup?_unescaped_of_ungrouped ungrouped
    replace same := Except.ok.inj ((expandGroups_done done _).1.symm.trans same)
    have lighter := (@Text.weight_replaceAll_lt ['\\', 'n'] (List.cons_ne_nil _ _) (fun _ => 1)
      ['\n'] (by decide) text).2 escaped
    rw [← unescaped, same] at lighter
    exact Nat.lt_irrefl _ lighter
  · rintro ⟨unbroken, ungrouped⟩
    rw [expand, unescaped, Text.replaceAll_eq_self unbroken]
    exact (expandGroups_done (firstGroup?_eq_none_iff.mpr ungrouped) _).1

theorem render_name (bindings : Bindings) {name : Text} (referable : IsReferable name)
    (unreserved : isReserved name = false) {content : Text} {constant : Bool}
    (stored : bindings name = some ⟨DataType.text.name, .text content, constant⟩) :
    render bindings (Text.words name) = expand bindings.meaning content := by
  rw [referable.render_eq bindings unreserved, Bindings.referenceText?, unreserved, stored]
  rfl

end Message

namespace Line

variable [Evaluator]

/-! ## Entering text -/

/-- A text in braces is refused; of any other, the blanks at its ends and then the quotes at its
ends are taken off. -/
theorem enteredValue_text (entered : Text) :
    enteredValue .text entered =
      if Literal.isBraced (Text.strip entered) then
        .error (.entered DataType.text.name .braceExpression)
      else .ok (.text (Text.trim Message.isQuote (Text.strip entered))) := by
  rw [enteredValue, if_neg nofun, initialValue, DataType.supported_name]
  change (Literal.valueOf .text (Text.strip entered)).mapError _ = _
  rw [Literal.valueOf]
  split <;> rfl

theorem enteredWarnings_text (entered : Text) : enteredWarnings .text entered = [] := by
  rw [enteredWarnings, if_neg nofun, initialWarnings, DataType.supported_name]
  simp [Literal.isEvaluated]

omit [Evaluator] in
private theorem unmarked_of_command? {line : Text} {command : Command × List Text}
    (known : command? line = some command) : Text.startsWith line commentMark = false := by
  rw [← Bool.not_eq_true]
  intro marked
  obtain ⟨rest, rfl⟩ := List.isPrefixOf_iff_prefix.mp marked
  cases known

private theorem listen_eq_done {World : Type} {host : Host World} {name prompt : Text}
    {machine after : Machine} {world later : World}
    (done : listen host name .text prompt machine world = (.done, after, later)) :
    ∃ entered given, host.ask prompt machine world = (.entered entered, given, later) ∧
      after = given.declare name ⟨DataType.text.name,
        .text (Text.trim Message.isQuote (Text.strip entered)), false⟩ := by
  unfold listen at done
  generalize host.ask prompt machine world = asked at done
  obtain ⟨reply, given, spent⟩ := asked
  cases reply with
  | refused cause => cases done
  | exit code => cases done
  | entered text =>
      simp only [enteredValue_text, enteredWarnings_text] at done
      by_cases braced : Literal.isBraced (Text.strip text) = true
      · rw [if_pos braced] at done
        cases done
      · rw [if_neg braced] at done
        cases done
        exact ⟨text, given, rfl, rfl⟩

section Listening

variable {World : Type} {host : Host World} {line type name : Text} {parts : List Text}
  (listens : command? line = some (.listen, type :: name :: parts))
  (textual : DataType.supported type = .ok .text) (referable : IsReferable name)

include referable

omit [Evaluator] in
theorem listenTarget_of_referable {target : Text} {prompt : List Text}
    (found : Plan.listenTarget name parts = .ok (target, prompt)) :
    target = Text.lower name ∧ isReserved target = false := by
  have unquoted : Plan.startsWithQuote name = false := by
    obtain ⟨head, tail, rfl⟩ := List.exists_cons_of_ne_nil referable.ne_nil
    have part := referable.isWordPart List.mem_cons_self
    rw [Message.isWordPart, Message.isQuote] at part
    simp only [Bool.and_eq_true, Bool.not_eq_true', Bool.or_eq_false_iff,
      decide_eq_false_iff_not] at part
    simp [Plan.startsWithQuote, Text.startsWith, List.isPrefixOf, Ne.symm part.2.1,
      Ne.symm part.2.2]
  rw [Plan.listenTarget, unquoted, if_neg Bool.false_ne_true] at found
  split at found
  · cases found
  · next unreserved =>
      cases found
      exact ⟨rfl, by simpa using unreserved⟩

include listens textual

theorem entered_of_done {machine after : Machine} {world later : World}
    (done : execute host line machine world = (.done, after, later))
    (outside : after.current.inComment = false) :
    isReserved (Text.lower name) = false ∧ ∃ prompt entered given,
      host.ask prompt (machineAfter line machine) (worldAfter host line machine world) =
        (.entered entered, given, later) ∧
      after = given.declare (Text.lower name) ⟨DataType.text.name,
        .text (Text.trim Message.isQuote (Text.strip entered)), false⟩ := by
  unfold execute at done
  rw [unmarked_of_command? listens, if_neg Bool.false_ne_true] at done
  split at done
  · next comment =>
      cases done
      rw [comment] at outside
      cases outside
  · cases planned : plan machine.bindings (code line) with
    | error error =>
        rw [planned] at done
        cases done
    | ok action =>
        rw [planned] at done
        rcases plan_cases planned with ⟨command, arguments, known, -, plans⟩ | ⟨unknown, -⟩
        · rw [listens] at known
          cases known
          cases plans with
          | listen supported target changeable rendered =>
              rw [textual] at supported
              cases supported
              obtain ⟨rfl, unreserved⟩ := listenTarget_of_referable referable target
              exact ⟨unreserved, _, listen_eq_done done⟩
        · rw [listens] at unknown
          cases unknown

end Listening

/-- The text entered for a variable is stored without the blanks and quotes at its ends. A line that
says the variable expands that text as a message, and so writes the text itself just if there is no
reserved pair and no group in it. -/
theorem writes_entered_iff {World : Type} {host : Host World} {line type name : Text}
    {parts : List Text} (listens : command? line = some (.listen, type :: name :: parts))
    (textual : DataType.supported type = .ok .text) (referable : IsReferable name)
    (lower : Text.lower name = name) {machine after : Machine} {world later : World}
    (done : execute host line machine world = (.done, after, later))
    (outside : after.current.inComment = false) :
    ∃ prompt entered given content,
      host.ask prompt (machineAfter line machine) (worldAfter host line machine world) =
        (.entered entered, given, later) ∧
      content = Text.trim Message.isQuote (Text.strip entered) ∧
      after = given.declare name ⟨DataType.text.name, .text content, false⟩ ∧
      (∀ (Other : Type) (teller : Host Other) (start : Other),
        execute teller (saying name) after start =
          said teller name after start (Message.expand after.bindings.meaning content)) ∧
      (Writes (saying name) after content ↔
        ¬['\\', 'n'] <:+: content ∧ ¬Message.HasGroup content) := by
  obtain ⟨unreserved, prompt, entered, given, asked, declared⟩ :=
    entered_of_done listens textual referable done outside
  rw [lower] at unreserved declared
  refine ⟨prompt, entered, given, _, asked, rfl, declared, ?_⟩
  generalize Text.trim Message.isQuote (Text.strip entered) = content at declared
  have stored : after.bindings name = some ⟨DataType.text.name, .text content, false⟩ := by
    rw [declared]
    exact (given.find?_declare name name _).trans (if_pos rfl)
  have rendered := Message.render_name after.bindings referable unreserved stored
  have trimmed := referable.isTrimmed
  have whole : '#' ∉ name := referable.isPlain.notMem (by decide)
  have unmarked := fun char => @Message.IsPlain.unmarked name referable.isPlain char
  constructor
  · intro Other teller start
    rw [execute_saying trimmed whole unmarked outside, rendered]
  · rw [← Message.expand_eq_self_iff after.bindings.meaning]
    constructor
    · intro writes
      rw [← rendered]
      exact render_of_writes trimmed whole unmarked outside writes
    · intro same
      have ungrouped := ((Message.expand_eq_self_iff _ _).mp same).2
      rw [referable.writes_saying_iff after unreserved, referable.tells_saying_iff outside,
        rendered]
      · exact same
      · rw [Bindings.referenceText?, unreserved, stored]
        rintro _ ⟨⟩
        exact Message.firstGroup?_unescaped_of_ungrouped ungrouped

end Line

/-- A reserved pair and a group come out as a line feed and a number. -/
theorem Line.writes_entered_iff_escaped :
    let content := "a\\n\x7b1+1\x7d".toList
    let after := Machine.empty.declare "v".toList ⟨DataType.text.name, .text content, false⟩
    execute Console.host "LISTEN STR v \"p\"".toList .empty (.start content []) =
        (.done, after, ⟨[], ["p".toList], [], []⟩) ∧
      Writes (saying "v".toList) after "a\n2".toList ∧
      ¬Writes (saying "v".toList) after content := by
  intro content after
  have done : execute Console.host "LISTEN STR v \"p\"".toList .empty (.start content []) =
      (.done, after, ⟨[], ["p".toList], [], []⟩) := by rfl
  obtain ⟨prompt, entered, given, stored, asked, trimmed, -, said, same⟩ :=
    @writes_entered_iff _ Console Console.host "LISTEN STR v \"p\"".toList "STR".toList "v".toList
      ["\"p\"".toList] (by rfl) (by rfl) ⟨by decide, by decide⟩ (by rfl) _ _ _ _ done (by rfl)
  cases asked
  obtain rfl : stored = content := trimmed
  have computed : (Message.expand after.bindings.meaning content).toOption =
      some "a\n2".toList := by decide +kernel
  have untouched : effects after.bindings (code (saying "v".toList)) = .none := by decide +kernel
  refine ⟨done, ?_, fun writes => ?_⟩
  · rw [writes_iff_tells untouched]
    intro World host world
    rw [said]
    cases expanded : Message.expand after.bindings.meaning content with
    | ok message =>
        rw [expanded] at computed
        cases computed
        rfl
    | error error =>
        rw [expanded] at computed
        cases computed
  · exact (same.mp writes).1 ⟨"a".toList, "\x7b1+1\x7d".toList, rfl⟩

end Linewise
