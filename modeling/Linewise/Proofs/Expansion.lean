import Linewise.Message
import Linewise.Proofs.Pasting

/-!
When replacing the groups of a message comes to an end. Each replacement takes one opening brace
away and brings in those of its result, so the replacing ends just if only so many braces are
brought in and each evaluation on the way has an end. A text that holds its own group is never done
with.
-/

namespace Linewise.Message

/-! ## Groups -/

theorem eq_of_firstGroup? {message : Text} {group : Group}
    (found : firstGroup? message = some group) :
    message = group.before ++ '\x7b' :: (group.inside ++ '\x7d' :: group.after) ∧
      ∀ char ∈ group.inside, isBrace char = false := by
  induction message generalizing group with
  | nil => cases found
  | cons head tail induction =>
      unfold firstGroup? at found
      simp only at found
      split at found
      · next delimited =>
          obtain ⟨rfl, -, closed⟩ := delimited
          cases found
          refine ⟨?_, fun char member => ?_⟩
          · cases rest : tail.dropWhile (!isBrace ·) with
            | nil =>
                rw [rest] at closed
                cases closed
            | cons brace after =>
                rw [rest] at closed
                cases closed
                have whole := List.takeWhile_append_dropWhile (p := (!isBrace ·)) (l := tail)
                rw [rest] at whole
                exact congrArg ('\x7b' :: ·) whole.symm
          · simpa using List.mem_takeWhile_imp member
      · obtain ⟨other, inner, rfl⟩ := Option.map_eq_some_iff.mp found
        obtain ⟨whole, braceless⟩ := induction inner
        exact ⟨congrArg (head :: ·) whole, braceless⟩

section Evaluated

variable [Evaluator]

def resultText (meaning : Meaning) (source : Text) : Except Error Text := do
  let value ← Expression.shownResult source meaning
  value.written

theorem resultText_error {meaning : Meaning} {source : Text} {error : Error}
    (failed : resultText meaning source = .error error) :
    (∃ cause, error = .calculation cause) ∨ error = .fault .tooLongToWrite ∨
      error = .unfinished := by
  rcases bind_eq_error.mp failed with failed | ⟨value, -, failed⟩
  · rcases bind_eq_error.mp failed with failed | ⟨result, -, failed⟩
    · unfold Expression.calculate at failed
      split at failed
      · cases failed
        exact .inr (.inr rfl)
      · next result _ =>
          cases shown : result >>= Expression.resultFor with
          | ok value =>
              rw [shown] at failed
              cases failed
          | error cause =>
              rw [shown] at failed
              cases failed
              exact .inl ⟨cause, rfl⟩
    · split at failed <;> cases failed
  · right
    left
    cases writing : value.written with
    | ok text =>
        rw [writing] at failed
        cases failed
    | error fault =>
        rw [writing] at failed
        cases failed
        rw [Value.written_error writing]

theorem resultText_ne_unfinished (total : Evaluator.IsTotal) {meaning : Meaning} {source : Text} :
    resultText meaning source ≠ .error .unfinished := by
  intro unfinished
  rcases bind_eq_error.mp unfinished with failed | ⟨value, -, failed⟩
  · rcases bind_eq_error.mp failed with failed | ⟨result, -, failed⟩
    · unfold Expression.calculate at failed
      split at failed
      · next endless => exact total _ _ endless
      · next result _ =>
          cases shown : result >>= Expression.resultFor <;> rw [shown] at failed <;> cases failed
    · split at failed <;> cases failed
  · cases writing : value.written <;> rw [writing] at failed <;> cases failed

theorem expandOnce?_eq {meaning : Meaning} {message : Text} {group : Group}
    (found : firstGroup? message = some group) :
    expandOnce? meaning message =
      some ((resultText meaning group.inside).map fun result =>
        group.before ++ result ++ group.after) := by
  rw [expandOnce?, found, Option.map_some, resultText]
  cases Expression.shownResult group.inside meaning with
  | error error => rfl
  | ok value => cases writing : value.written <;> simp [writing, bind, Except.bind] <;> rfl

/-! ## Turns -/

/-- The number of opening braces that the results of the first turns bring in. -/
def broughtIn (meaning : Meaning) : Nat → Text → Nat
  | 0, _ => 0
  | turns + 1, message =>
      match firstGroup? message with
      | none => 0
      | some group =>
          match resultText meaning group.inside with
          | .error _ => 0
          | .ok result =>
              result.count '\x7b' +
                broughtIn (meaningAfter meaning message) turns
                  (group.before ++ result ++ group.after)

/-- One of the first turns comes to an evaluation that has no end. -/
def Hangs (meaning : Meaning) : Nat → Text → Prop
  | 0, _ => False
  | turns + 1, message =>
      match firstGroup? message with
      | none => False
      | some group =>
          match resultText meaning group.inside with
          | .error error => error = .unfinished
          | .ok result =>
              Hangs (meaningAfter meaning message) turns (group.before ++ result ++ group.after)

section Turns

variable {meaning : Meaning} {message : Text}

theorem turn_cases (meaning : Meaning) (message : Text) :
    firstGroup? message = none ∨
      (∃ group error, firstGroup? message = some group ∧
        resultText meaning group.inside = .error error) ∨
      ∃ group result, firstGroup? message = some group ∧
        resultText meaning group.inside = .ok result := by
  cases found : firstGroup? message with
  | none => exact .inl rfl
  | some group =>
      cases replaced : resultText meaning group.inside with
      | error error => exact .inr (.inl ⟨group, error, rfl, replaced⟩)
      | ok result => exact .inr (.inr ⟨group, result, rfl, replaced⟩)

theorem expandGroups_done (done : firstGroup? message = none) (turns : Nat) :
    expandGroups meaning turns message = .ok message ∧ broughtIn meaning turns message = 0 ∧
      ¬Hangs meaning turns message := by
  cases turns with
  | zero =>
      simp only [expandGroups, broughtIn, Hangs, done, Option.isNone_none, if_true,
        not_false_eq_true, and_self]
  | succ turns =>
      simp only [expandGroups, expandOnce?, broughtIn, Hangs, done, Option.map_none,
        not_false_eq_true, and_self]

variable {group : Group} (found : firstGroup? message = some group)

include found

theorem expandGroups_zero : expandGroups meaning 0 message = .error .unfinished := by
  rw [expandGroups, found, Option.isNone_some, if_neg Bool.false_ne_true]

theorem expandGroups_failing {error : Error}
    (failed : resultText meaning group.inside = .error error) (turns : Nat) :
    expandGroups meaning (turns + 1) message = .error error ∧
      broughtIn meaning (turns + 1) message = 0 ∧
      (Hangs meaning (turns + 1) message ↔ error = .unfinished) := by
  simp only [expandGroups, expandOnce?_eq found, broughtIn, Hangs, found, failed]
  exact ⟨rfl, trivial, trivial⟩

theorem expandGroups_replacing {result : Text}
    (replaced : resultText meaning group.inside = .ok result) (turns : Nat) :
    expandGroups meaning (turns + 1) message =
        expandGroups (meaningAfter meaning message) turns (group.before ++ result ++ group.after) ∧
      broughtIn meaning (turns + 1) message = result.count '\x7b' +
        broughtIn (meaningAfter meaning message) turns (group.before ++ result ++ group.after) ∧
      (Hangs meaning (turns + 1) message ↔
        Hangs (meaningAfter meaning message) turns (group.before ++ result ++ group.after)) := by
  simp only [expandGroups, expandOnce?_eq found, broughtIn, Hangs, found, replaced]
  exact ⟨rfl, trivial, trivial⟩

omit [Evaluator] in
theorem count_replaced (result : Text) :
    (group.before ++ result ++ group.after).count '\x7b' + 1 =
      message.count '\x7b' + result.count '\x7b' := by
  obtain ⟨whole, braceless⟩ := eq_of_firstGroup? found
  have inside : group.inside.count '\x7b' = 0 := by
    rw [List.count_eq_zero]
    intro member
    cases braceless _ member
  rw [whole]
  simp [inside]
  omega

end Turns

def Ends (meaning : Meaning) (message : Text) : Prop :=
  ∃ turns, expandGroups meaning turns message ≠ .error .unfinished

theorem lt_of_unfinished {meaning : Meaning} {turns : Nat} {message : Text}
    (unfinished : expandGroups meaning turns message = .error .unfinished) :
    Hangs meaning turns message ∨
      turns < message.count '\x7b' + broughtIn meaning turns message := by
  induction turns generalizing meaning message with
  | zero =>
      cases found : firstGroup? message with
      | none =>
          rw [(expandGroups_done found 0).1] at unfinished
          cases unfinished
      | some group =>
          have used := count_replaced found []
          rw [List.count_nil] at used
          exact .inr (by omega)
  | succ turns induction =>
      rcases turn_cases meaning message with done | ⟨group, error, found, failed⟩ |
        ⟨group, result, found, replaced⟩
      · rw [(expandGroups_done done (turns + 1)).1] at unfinished
        cases unfinished
      · obtain ⟨ended, -, hangs⟩ := expandGroups_failing found failed turns
        rw [ended] at unfinished
        exact .inl (hangs.mpr (Except.error.inj unfinished))
      · obtain ⟨next, brought, hangs⟩ := expandGroups_replacing found replaced turns
        rw [next] at unfinished
        rcases induction unfinished with later | fewer
        · exact .inl (hangs.mpr later)
        · have used := count_replaced found result
          rw [brought]
          exact .inr (by omega)

/-- Once there is no group left, no more braces are brought in, and there is nothing left to hang
at. -/
theorem broughtIn_le {meaning : Meaning} {turns : Nat} {message : Text}
    (finished : expandGroups meaning turns message ≠ .error .unfinished) (more : Nat) :
    broughtIn meaning more message ≤ broughtIn meaning turns message ∧
      ¬Hangs meaning more message := by
  induction turns generalizing meaning message more with
  | zero =>
      cases found : firstGroup? message with
      | none =>
          have ended : broughtIn meaning more message = 0 ∧ ¬Hangs meaning more message :=
            (expandGroups_done found more).2
          exact ⟨(ended.1.trans rfl).le, ended.2⟩
      | some group => exact absurd (expandGroups_zero found) finished
  | succ turns induction =>
      rcases turn_cases meaning message with done | ⟨group, error, found, failed⟩ |
        ⟨group, result, found, replaced⟩
      · have ended : broughtIn meaning more message = 0 ∧ ¬Hangs meaning more message :=
          (expandGroups_done done more).2
        exact ⟨ended.1 ▸ Nat.zero_le _, ended.2⟩
      · cases more with
        | zero => exact ⟨Nat.zero_le _, id⟩
        | succ more =>
            obtain ⟨-, none, hangs⟩ := expandGroups_failing found failed more
            refine ⟨none ▸ Nat.zero_le _, fun hung => finished ?_⟩
            rw [(expandGroups_failing found failed turns).1, hangs.mp hung]
      · obtain ⟨next, brought, -⟩ := expandGroups_replacing found replaced turns
        cases more with
        | zero => exact ⟨Nat.zero_le _, id⟩
        | succ more =>
            obtain ⟨-, later, hangs⟩ := expandGroups_replacing found replaced more
            obtain ⟨fewer, quiet⟩ := induction (next ▸ finished) more
            rw [later, brought]
            exact ⟨Nat.add_le_add_left fewer _, fun hung => quiet (hangs.mp hung)⟩

theorem finished_of_le {meaning : Meaning} {turns : Nat} {message : Text}
    (quiet : ¬Hangs meaning turns message)
    (enough : message.count '\x7b' + broughtIn meaning turns message ≤ turns) :
    expandGroups meaning turns message ≠ .error .unfinished := by
  intro unfinished
  rcases lt_of_unfinished unfinished with hung | fewer
  · exact quiet hung
  · omega

/-- The replacing ends just if only so many opening braces are brought in and no evaluation
hangs. -/
theorem ends_iff {meaning : Meaning} {message : Text} :
    Ends meaning message ↔
      (∃ bound, ∀ turns, broughtIn meaning turns message ≤ bound) ∧
        ∀ turns, ¬Hangs meaning turns message := by
  constructor
  · rintro ⟨turns, finished⟩
    exact ⟨⟨broughtIn meaning turns message, fun more => (broughtIn_le finished more).1⟩,
      fun more => (broughtIn_le finished more).2⟩
  · rintro ⟨⟨bound, bounded⟩, quiet⟩
    refine ⟨message.count '\x7b' + bound, finished_of_le (quiet _) ?_⟩
    exact Nat.add_le_add_left (bounded _) _

theorem not_hangs (total : Evaluator.IsTotal) (meaning : Meaning) (turns : Nat) (message : Text) :
    ¬Hangs meaning turns message := by
  induction turns generalizing meaning message with
  | zero => exact id
  | succ turns induction =>
      rcases turn_cases meaning message with done | ⟨group, error, found, failed⟩ |
        ⟨group, result, found, replaced⟩
      · exact (expandGroups_done done (turns + 1)).2.2
      · rw [(expandGroups_failing found failed turns).2.2]
        rintro rfl
        exact resultText_ne_unfinished total failed
      · rw [(expandGroups_replacing found replaced turns).2.2]
        exact induction _ _

/-- What a message comes to. -/
inductive Outcome : Except Error Text → Prop
  | text {text : Text} (done : firstGroup? text = none) : Outcome (.ok text)
  | calculation (cause : Fault) : Outcome (.error (.calculation cause))
  | tooLong : Outcome (.error (.fault .tooLongToWrite))
  | unfinished : Outcome (.error .unfinished)

theorem outcome_expandGroups (meaning : Meaning) (turns : Nat) (message : Text) :
    Outcome (expandGroups meaning turns message) := by
  induction turns generalizing meaning message with
  | zero =>
      cases found : firstGroup? message with
      | none =>
          rw [(expandGroups_done found 0).1]
          exact .text found
      | some group =>
          rw [expandGroups_zero found]
          exact .unfinished
  | succ turns induction =>
      rcases turn_cases meaning message with done | ⟨group, error, found, failed⟩ |
        ⟨group, result, found, replaced⟩
      · rw [(expandGroups_done done (turns + 1)).1]
        exact .text done
      · rw [(expandGroups_failing found failed turns).1]
        rcases resultText_error failed with ⟨cause, rfl⟩ | rfl | rfl
        · exact .calculation cause
        · exact .tooLong
        · exact .unfinished
      · rw [(expandGroups_replacing found replaced turns).1]
        exact induction _ _

end Evaluated

/-! ## Groups that come back -/

private theorem divided {first : Text} (braceless : ∀ char ∈ first, isBrace char = false)
    (brace : Char) (delimits : isBrace brace = true) (tail : Text) :
    (first ++ brace :: tail).takeWhile (!isBrace ·) = first ∧
      (first ++ brace :: tail).dropWhile (!isBrace ·) = brace :: tail := by
  have others : ∀ char ∈ first, (!isBrace char) = true := by simpa using braceless
  rw [List.takeWhile_append_of_pos others, List.dropWhile_append_of_pos others]
  simp [delimits]

private def Closes (text : Text) : Prop :=
  !(text.takeWhile (!isBrace ·)).isEmpty ∧ (text.dropWhile (!isBrace ·)).head? = some '\x7d'

private theorem closes_split {first : Text} (braceless : ∀ char ∈ first, isBrace char = false)
    (brace : Char) (delimits : isBrace brace = true) (tail : Text) :
    Closes (first ++ brace :: tail) ↔ first ≠ [] ∧ brace = '\x7d' := by
  obtain ⟨inside, after⟩ := divided braceless brace delimits tail
  rw [Closes, inside, after]
  simp

/-- Whether a group that begins before ends in the text does not depend on what follows the first
brace. -/
private theorem closes_iff (left : Text) {start : Text}
    (braceless : ∀ char ∈ start, isBrace char = false) (after rest : Text) :
    Closes (left ++ (start ++ '\x7b' :: rest)) ↔ Closes (left ++ '\x7b' :: after) := by
  by_cases whole : ∀ char ∈ left, isBrace char = false
  · have longer := List.forall_mem_append.mpr ⟨whole, braceless⟩
    rw [← List.append_assoc, closes_split longer '\x7b' rfl, closes_split whole '\x7b' rfl]
    simp
  · cases divides : left.dropWhile (!isBrace ·) with
    | nil =>
        rw [List.dropWhile_eq_nil_iff] at divides
        exact absurd (by simpa using divides) whole
    | cons brace others =>
        have delimits : isBrace brace = true := by
          have stopped := List.head?_dropWhile_not (!isBrace ·) left
          rw [divides] at stopped
          simpa using stopped
        have first : ∀ char ∈ left.takeWhile (!isBrace ·), isBrace char = false :=
          fun char member => by simpa using List.mem_takeWhile_imp member
        have split := List.takeWhile_append_dropWhile (p := (!isBrace ·)) (l := left)
        rw [divides] at split
        rw [← split, List.append_assoc, List.cons_append, List.append_assoc, List.cons_append,
          closes_split first brace delimits, closes_split first brace delimits]

private theorem firstGroup?_cons_of_closes {tail : Text} (closes : Closes tail) :
    firstGroup? ('\x7b' :: tail) =
      some ⟨[], tail.takeWhile (!isBrace ·), (tail.dropWhile (!isBrace ·)).drop 1⟩ := by
  rw [firstGroup?]
  exact if_pos ⟨rfl, closes⟩

private theorem firstGroup?_cons {head : Char} {tail : Text}
    (other : ¬(head = '\x7b' ∧ Closes tail)) :
    firstGroup? (head :: tail) =
      (firstGroup? tail).map fun group => { group with before := head :: group.before } := by
  rw [firstGroup?]
  exact if_neg other

theorem firstGroup?_braceless {start inside : Text}
    (startBraceless : ∀ char ∈ start, isBrace char = false)
    (nonempty : inside ≠ []) (insideBraceless : ∀ char ∈ inside, isBrace char = false)
    (rest : Text) :
    firstGroup? (start ++ '\x7b' :: (inside ++ '\x7d' :: rest)) = some ⟨start, inside, rest⟩ := by
  induction start with
  | nil =>
      obtain ⟨taken, dropped⟩ := divided insideBraceless '\x7d' rfl rest
      have closes := (closes_split insideBraceless '\x7d' rfl rest).mpr ⟨nonempty, rfl⟩
      rw [List.nil_append, firstGroup?_cons_of_closes closes, taken, dropped]
      rfl
  | cons head tail induction =>
      rw [List.forall_mem_cons] at startBraceless
      have other : ¬(head = '\x7b' ∧ Closes (tail ++ '\x7b' :: (inside ++ '\x7d' :: rest))) := by
        rintro ⟨rfl, -⟩
        cases startBraceless.1
      rw [List.cons_append, firstGroup?_cons other, induction startBraceless.2]
      rfl

/-- A group that is put where the leftmost group was is the leftmost then. -/
theorem firstGroup?_replaced {message : Text} {group : Group}
    (found : firstGroup? message = some group) {start : Text}
    (braceless : ∀ char ∈ start, isBrace char = false) (rest : Text) :
    firstGroup? (group.before ++ (start ++ '\x7b' :: (group.inside ++ '\x7d' :: rest))) =
      some ⟨group.before ++ start, group.inside, rest⟩ := by
  induction message generalizing group with
  | nil => cases found
  | cons head tail induction =>
      by_cases delimited : head = '\x7b' ∧ Closes tail
      · obtain ⟨rfl, closes⟩ := delimited
        rw [firstGroup?_cons_of_closes closes] at found
        cases found
        refine firstGroup?_braceless braceless (by simpa using closes.1)
          (fun char member => ?_) rest
        simpa using List.mem_takeWhile_imp member
      · rw [firstGroup?_cons delimited] at found
        obtain ⟨other, inner, rfl⟩ := Option.map_eq_some_iff.mp found
        have outside : ¬(head = '\x7b' ∧ Closes (other.before ++
            (start ++ '\x7b' :: (other.inside ++ '\x7d' :: rest)))) := by
          rw [closes_iff other.before braceless, ← (eq_of_firstGroup? inner).1]
          exact delimited
        rw [List.cons_append, firstGroup?_cons outside, induction inner]
        rfl

section Evaluated

variable [Evaluator]

/-- A group whose result holds the same group before any other brace is replaced forever, if its
evaluation changes nothing. -/
theorem not_ends_of_result {meaning : Meaning} {message : Text} {group : Group}
    (found : firstGroup? message = some group) {start rest : Text}
    (braceless : ∀ char ∈ start, isBrace char = false)
    (replaced : resultText meaning group.inside =
      .ok (start ++ '\x7b' :: (group.inside ++ '\x7d' :: rest)))
    (unchanged : (Expression.effects group.inside meaning).revision = []) :
    ¬Ends meaning message := by
  rintro ⟨turns, finished⟩
  apply finished
  clear finished
  induction turns generalizing message group with
  | zero => exact expandGroups_zero found
  | succ turns induction =>
      have again := firstGroup?_replaced found braceless (rest ++ group.after)
      have next :
          group.before ++ (start ++ '\x7b' :: (group.inside ++ '\x7d' :: rest)) ++ group.after =
            group.before ++
              (start ++ '\x7b' :: (group.inside ++ '\x7d' :: (rest ++ group.after))) := by
        simp
      have same : meaningAfter meaning message = meaning := by
        rw [meaningAfter, effectsOnce, found]
        simp only [unchanged, Meaning.revised_nil]
      rw [(expandGroups_replacing found replaced turns).1, next, same]
      exact induction again replaced unchanged

theorem resultText_text {meaning : Meaning} {source content : Text}
    (evaluated : (Expression.evaluation source meaning).result = some (.ok (.text content))) :
    resultText meaning source = .ok content := by
  unfold resultText Expression.shownResult Expression.calculate
  rw [evaluated]
  rfl

theorem resultText_integer {meaning : Meaning} {source : Text} {number : Int}
    (evaluated : (Expression.evaluation source meaning).result = some (.ok (.integer number)))
    (long : ¬IsShort number) : resultText meaning source = .error (.fault .tooLongToWrite) := by
  have unwritable : (Value.integer number).written = .error .tooLongToWrite :=
    Value.writeInteger_of_long long
  have shown : Expression.shownResult source meaning = .ok (.integer number) := by
    unfold Expression.shownResult Expression.calculate
    rw [evaluated]
    rfl
  rw [resultText, shown]
  simp only [bind, Except.bind, unwritable]
  rfl

/-- The replacing ends just if only so many opening braces are brought in by results and no
evaluation on the way is without an end; it takes no more turns than there are braces. It ends with
a text that has no group left, with a failed calculation, or with an integer that is too long to
write, which is not reported as a failed calculation. It never ends if the leftmost group comes to a
text that holds the same group before any other brace, and changes nothing. -/
theorem ends_iff_broughtIn_le (meaning : Meaning) (message : Text) :
    (Ends meaning message ↔ (∃ bound, ∀ turns, broughtIn meaning turns message ≤ bound) ∧
      ∀ turns, ¬Hangs meaning turns message) ∧
    (∀ turns, ¬Hangs meaning turns message →
      message.count '\x7b' + broughtIn meaning turns message ≤ turns →
        expandGroups meaning turns message ≠ .error .unfinished) ∧
    (∀ turns, Outcome (expandGroups meaning turns message)) ∧
    ∀ group, firstGroup? message = some group →
      (∀ number,
        (Expression.evaluation group.inside meaning).result = some (.ok (.integer number)) →
          ¬IsShort number →
            ∀ turns, expandGroups meaning (turns + 1) message = .error (.fault .tooLongToWrite)) ∧
      ∀ start rest, (∀ char ∈ start, isBrace char = false) →
        (Expression.evaluation group.inside meaning).result =
          some (.ok (.text (start ++ '\x7b' :: (group.inside ++ '\x7d' :: rest)))) →
        (Expression.effects group.inside meaning).revision = [] →
          ¬Ends meaning message := by
  refine ⟨ends_iff, fun _ => finished_of_le,
    fun turns => outcome_expandGroups meaning turns message, fun group found => ⟨?_, ?_⟩⟩
  · intro number evaluated long turns
    exact (expandGroups_failing found (resultText_integer evaluated long) turns).1
  · intro start rest braceless evaluated unchanged
    exact not_ends_of_result found braceless (resultText_text evaluated) unchanged

end Evaluated

theorem evaluation_name {word : Text} (plain : IsPlainName word) {meaning : Meaning} :
    Expression.evaluation word meaning = (Expr.name word).evaluation meaning := by
  have alone : (Formula.name word).written named.text = word :=
    @List.intercalate_singleton Char [' '] word
  have plains : ∀ other ∈ (Formula.name word).names, IsPlainName other := by
    intro other member
    rw [List.mem_singleton.mp member]
    exact plain
  have read := Formula.evaluatePlain_named plains meaning
  rw [alone] at read
  exact read

/-- A variable whose text is the group of its own name, and a message without variables. -/
theorem ends_iff_broughtIn_le_ownGroup :
    let meaning : Meaning := fun word =>
      if word = ['x'] then some (.text "\x7bx\x7d".toList) else none
    ¬Ends meaning "\x7bx\x7d".toList ∧
      expandGroups (fun _ => none) 2 "\x7b1 + 2\x7d \x7b3\x7d".toList ≠ .error .unfinished := by
  intro meaning
  have plain : IsPlainName ['x'] :=
    ⟨by decide, by decide, by decide, by decide, by decide, by decide⟩
  have evaluated : (Expression.evaluation ['x'] meaning).result =
      some (.ok (.text "\x7bx\x7d".toList)) ∧
      (Expression.effects ['x'] meaning).revision = [] := by
    rw [Expression.effects, evaluation_name plain]
    exact ⟨rfl, rfl⟩
  constructor
  · exact ((ends_iff_broughtIn_le meaning "\x7bx\x7d".toList).2.2.2 ⟨[], ['x'], []⟩
      (by decide)).2 [] [] nofun evaluated.1 evaluated.2
  · exact (ends_iff_broughtIn_le (fun _ => none) "\x7b1 + 2\x7d \x7b3\x7d".toList).2.1 2
      (not_hangs Evaluator.isTotal_standard _ 2 _) (by decide +kernel)

end Linewise.Message
