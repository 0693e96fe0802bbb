import Linewise.Proofs.Line
import Linewise.Proofs.Rendering
import Linewise.Proofs.Run

/-!
Structured execution. The interpreter looks for the ends of blocks by counting, and cuts blocks out
of a list of lines; here it is shown to run a program that is written down as a tree as the tree
says.
-/

namespace Linewise

/-! ## From the start to the end -/

namespace Tree

variable {World : Type}

/-- Whoever comes to the end stands to the start as the relation says. -/
def Leads (Related : Machine → Machine → Prop)
    (execution : Machine → World → Outcome × Machine × World) : Prop :=
  ∀ machine world, (execution machine world).1 = .done →
    Related machine (execution machine world).2.1

theorem inBlock_idle : inBlock (@idle World) = idle := by
  funext machine world
  simp only [inBlock, idle, Machine.leave_enter]

theorem andThen_of_ne {result : Outcome × Machine × World} (broken : result.1 ≠ .done)
    (next : Machine → World → Outcome × Machine × World) : andThen result next = result := by
  obtain ⟨outcome, machine, world⟩ := result
  cases outcome with
  | done => exact absurd rfl broken
  | failed error => rfl
  | exited code => rfl

namespace Leads

variable {Related : Machine → Machine → Prop}

variable (passage : Machine.Passage Related)

include passage

theorem idle : Leads Related (@idle World) := fun machine _ _ => passage.refl machine

theorem andThen {first next : Machine → World → Outcome × Machine × World}
    (leads : Leads Related first) (nextLeads : Leads Related next) :
    Leads Related fun machine world => andThen (first machine world) next := by
  intro machine world ended
  have start := leads machine world
  simp only at ended ⊢
  generalize first machine world = result at start ended ⊢
  obtain ⟨outcome, between, spent⟩ := result
  cases outcome with
  | done => exact passage.trans (start rfl) (nextLeads between spent ended)
  | failed error => cases ended
  | exited code => cases ended

theorem inBlock {block : Machine → World → Outcome × Machine × World}
    (leads : Leads Related block) : Leads Related (inBlock block) := by
  intro machine world ended
  have inside := leads machine.enter world
  unfold Tree.inBlock at ended ⊢
  generalize block machine.enter world = result at inside ended ⊢
  obtain ⟨outcome, after, spent⟩ := result
  cases outcome with
  | done => exact passage.leave (inside rfl)
  | failed error => cases ended
  | exited code => cases ended

variable [Evaluator] {host : Host World} {condition : Text}

theorem chosen {consequence alternative : Machine → World → Outcome × Machine × World}
    (leads : Leads Related consequence) (otherLeads : Leads Related alternative) :
    Leads Related (chosen host condition consequence alternative) := by
  intro machine world ended
  have tested : Related machine (Program.machineAfter condition machine) :=
    passage.revised machine _
  unfold Tree.chosen at ended ⊢
  generalize Condition.holds machine.bindings condition = truth at ended ⊢
  cases truth with
  | error error => cases ended
  | ok truth =>
      cases truth with
      | true => exact passage.trans tested (leads _ _ ended)
      | false => exact passage.trans tested (otherLeads _ _ ended)

theorem repeated {block : Machine → World → Outcome × Machine × World}
    (leads : Leads Related block) (remaining : Nat) :
    Leads Related (repeated host condition block remaining) := by
  induction remaining with
  | zero => exact chosen passage (fun _ _ ended => by cases ended) (idle passage)
  | succ remaining induction =>
      exact chosen passage ((inBlock passage leads).andThen passage induction) (idle passage)

end Leads

def simpleLines : Tree → List SimpleLine
  | done => []
  | line simple next => simple :: next.simpleLines
  | branch _ consequence next => consequence.simpleLines ++ next.simpleLines
  | choice _ consequence alternative next =>
      consequence.simpleLines ++ (alternative.simpleLines ++ next.simpleLines)
  | loop _ body next => body.simpleLines ++ next.simpleLines

variable [Evaluator] {host : Host World}

theorem execute_leads {Related : Machine → Machine → Prop} (passage : Machine.Passage Related)
    (tree : Tree)
    (lines : ∀ simple ∈ tree.simpleLines, Leads Related (Line.execute host simple.text)) :
    Leads Related (tree.execute host) := by
  induction tree with
  | done => exact .idle passage
  | line simple next induction =>
      rw [simpleLines, List.forall_mem_cons] at lines
      exact lines.1.andThen passage (induction lines.2)
  | branch condition consequence next inside after =>
      rw [simpleLines, List.forall_mem_append] at lines
      exact (((inside lines.1).inBlock passage).chosen passage (.idle passage)).andThen passage
        (after lines.2)
  | choice condition consequence alternative next inside otherwise after =>
      rw [simpleLines, List.forall_mem_append, List.forall_mem_append] at lines
      exact (((inside lines.1).inBlock passage).chosen passage
        ((otherwise lines.2.1).inBlock passage)).andThen passage (after lines.2.2)
  | loop condition body next inside after =>
      rw [simpleLines, List.forall_mem_append] at lines
      exact ((inside lines.1).repeated passage _).andThen passage (after lines.2)

/-- Whoever comes to the end is in the block of the start. -/
abbrev Stays (execution : Machine → World → Outcome × Machine × World) : Prop :=
  Leads Machine.SameBlock execution

theorem stays_line (keeps : host.KeepsMachine) (simple : SimpleLine) :
    Stays (Line.execute host simple.text) := fun _ _ _ =>
  (Line.execute_cases keeps rfl).sameBlock simple.noComment

theorem execute_stays (keeps : host.KeepsMachine) (tree : Tree) : Stays (tree.execute host) :=
  execute_leads Machine.SameBlock.passage tree fun simple _ => stays_line keeps simple

end Tree

/-! ## Results that come to the same -/

namespace Program

variable {World : Type} {host : Host World}

/-- The two results mean the same for what comes after, but for the number of the line that an error
is reported for. -/
def SameConclusion (host : Host World) (result other : Outcome × Machine × World) : Prop :=
  ∀ number, ∃ reported, ∀ next, proceed host number result next = proceed host reported other next

theorem SameConclusion.refl (result : Outcome × Machine × World) :
    SameConclusion host result result :=
  fun number => ⟨number, fun _ => rfl⟩

theorem SameConclusion.proceed_andThen {result other : Outcome × Machine × World}
    (same : SameConclusion host result other) {next final : Execution World}
    {rest : Machine → World → Outcome × Machine × World}
    (continues : ∀ machine world, other = (.done, machine, world) →
      ∃ reported, next machine world = proceed host reported (rest machine world) final)
    (number : Nat) :
    ∃ reported, proceed host number result next =
      proceed host reported (Tree.andThen other rest) final := by
  obtain ⟨reported, equal⟩ := same number
  rw [equal]
  obtain ⟨outcome, machine, world⟩ := other
  cases outcome with
  | done => exact continues machine world rfl
  | failed error => exact ⟨reported, rfl⟩
  | exited code => exact ⟨reported, rfl⟩

theorem proceed_ofEnding (number : Nat) {ending : Ending} (ended : ending ≠ .returned)
    (machine : Machine) (world : World) (next : Execution World) :
    proceed host number (Outcome.ofEnding ending, machine, world) next =
      (ending, machine, world) := by
  cases ending with
  | returned => exact absurd rfl ended
  | exited code => rfl
  | unfinished => rfl

theorem fail_ne_returned (host : Host World) (number : Option Nat) (error : Error)
    (machine : Machine) (world : World) : (fail host number error machine world).1 ≠ .returned := by
  unfold fail
  split <;> exact nofun

def finished : Execution World := fun machine world => (.returned, machine, world)

/-- Outside of comments the execution does what the block does. -/
def Follows (host : Host World) (execution : Execution World)
    (block : Machine → World → Outcome × Machine × World) : Prop :=
  ∀ machine world, machine.current.inComment = false →
    ∃ reported, execution machine world = proceed host reported (block machine world) finished

section Blocks

variable {body : Execution World} {block : Machine → World → Outcome × Machine × World}

theorem Follows.enclosed_cases (follows : Follows host body block) (machine : Machine)
    (world : World) :
    (∃ after later, enclosed body machine world = (.returned, after, later) ∧
      Tree.inBlock block machine world = (.done, after, later)) ∨
    (∃ ending after later, ending ≠ .returned ∧
      enclosed body machine world = (ending, after, later) ∧
      (Tree.inBlock block machine world).1 ≠ .done ∧
      SameConclusion host (Outcome.ofEnding ending, after, later)
        (Tree.inBlock block machine world)) := by
  obtain ⟨reported, equal⟩ := follows machine.enter world rfl
  unfold enclosed Tree.inBlock
  rw [equal]
  generalize block machine.enter world = result
  obtain ⟨outcome, after, later⟩ := result
  cases outcome with
  | done => exact .inl ⟨after.leave, later, rfl, rfl⟩
  | exited code =>
      exact .inr ⟨.exited code, after, later, nofun, rfl, nofun, .refl _⟩
  | failed error =>
      have ended := fail_ne_returned host (some reported) error after later
      have concluded : ∀ next, proceed host reported (.failed error, after, later) next =
          fail host (some reported) error after later := fun _ => rfl
      right
      simp only [concluded]
      generalize fail host (some reported) error after later = report at ended concluded ⊢
      obtain ⟨ending, after, later⟩ := report
      refine ⟨ending, after, later, ended, ?_, nofun, ?_⟩
      · cases ending with
        | returned => exact absurd rfl ended
        | exited code => rfl
        | unfinished => rfl
      · intro number
        refine ⟨reported, fun next => ?_⟩
        rw [proceed_ofEnding number ended, concluded]

variable [Evaluator]

theorem Follows.branch {other : Execution World}
    {alternative : Machine → World → Outcome × Machine × World} (follows : Follows host body block)
    (otherFollows : Follows host other alternative) (condition : Text) (machine : Machine)
    (world : World) :
    SameConclusion host (branch host condition body other machine world)
      (Tree.chosen host condition (Tree.inBlock block) (Tree.inBlock alternative) machine
        world) := by
  unfold Program.branch Tree.chosen
  cases Condition.holds machine.bindings condition with
  | error error => exact .refl _
  | ok truth =>
      cases truth with
      | true =>
          rcases follows.enclosed_cases (machineAfter condition machine)
            (worldAfter host condition machine world) with
            ⟨after, later, ran, inside⟩ | ⟨ending, after, later, _, ran, _, same⟩
          · simp only [if_true, ran, inside]
            exact .refl _
          · simpa only [if_true, ran] using same
      | false =>
          rcases otherFollows.enclosed_cases (machineAfter condition machine)
            (worldAfter host condition machine world) with
            ⟨after, later, ran, inside⟩ | ⟨ending, after, later, _, ran, _, same⟩
          · simp only [Bool.false_eq_true, if_false, ran, inside]
            exact .refl _
          · simpa only [Bool.false_eq_true, if_false, ran] using same

theorem Follows.loop (follows : Follows host body block) (condition : Text) (remaining : Nat)
    (machine : Machine) (world : World) :
    SameConclusion host (loop host condition body iterationLimit remaining machine world)
      (Tree.repeated host condition block remaining machine world) := by
  induction remaining generalizing machine world with
  | zero =>
      unfold Program.loop Tree.repeated Tree.chosen
      cases Condition.holds machine.bindings condition with
      | error error => exact .refl _
      | ok truth => cases truth <;> exact .refl _
  | succ remaining induction =>
      unfold Program.loop Tree.repeated Tree.chosen
      cases Condition.holds machine.bindings condition with
      | error error => exact .refl _
      | ok truth =>
          cases truth with
          | false => exact .refl _
          | true =>
              rcases follows.enclosed_cases (machineAfter condition machine)
                (worldAfter host condition machine world) with
                ⟨after, later, ran, inside⟩ | ⟨ending, after, later, ended, ran, broken, same⟩
              · simp only [ran, inside]
                exact induction after later
              · simp only [ran, Tree.andThen_of_ne broken]
                cases ending with
                | returned => exact absurd rfl ended
                | exited code => exact same
                | unfinished => exact same

end Blocks

end Program

/-! ## Rendered statements in a run -/

section Statements

variable [Evaluator] {World : Type} (host : Host World) (number : Nat) {machine : Machine}
  (world : World)

omit [Evaluator] in
theorem Line.code_eq_strip {line : Text} (noComment : '#' ∉ line) :
    Line.code line = Text.strip line := by
  rw [Line.code, Text.before_eq_self noComment]

theorem SimpleLine.simpleLine_eq (simple : SimpleLine) :
    Program.simpleLine host (Text.strip simple.text) machine world =
      Line.execute host simple.text machine world := by
  have noDelimiter := simple.noDelimiter
  rw [List.mem_cons, List.mem_singleton, not_or] at noDelimiter
  have stripped : '#' ∉ Text.strip simple.text :=
    fun member => simple.noComment (Text.mem_of_mem_strip member)
  simp only [Program.simpleLine, if_neg noDelimiter.1, if_neg noDelimiter.2, Line.execute,
    Line.startsWith_commentMark stripped, Line.startsWith_commentMark simple.noComment,
    Line.machineAfter, Line.worldAfter, Line.code_eq_strip stripped,
    Line.code_eq_strip simple.noComment, Text.strip_strip]

theorem SimpleLine.runFrom {simple : SimpleLine} {line : Text}
    (written : Text.strip line = Text.strip simple.text) (rest : List Text)
    (outside : machine.current.inComment = false) :
    Program.runFrom host number (line :: rest) machine world =
      Program.proceed host number (Line.execute host simple.text machine world)
        (Program.runFrom host (number + 1) rest) := by
  have stripped : '#' ∉ Text.strip simple.text :=
    fun member => simple.noComment (Text.mem_of_mem_strip member)
  have code : Line.code (Text.strip line) = Text.strip simple.text := by
    rw [written, Line.code_eq_strip stripped, Text.strip_strip]
  have noIf := simple.noHeader Block.ifStart (by simp)
  have noWhile := simple.noHeader Block.whileStart (by simp)
  rw [Program.runFrom_simple host number rest world (written ▸ simple.notBlank)
      (written ▸ Line.startsWith_commentMark stripped) outside (code ▸ simple.notBlank)
      (by rw [code, Program.Header.command?]; simp [noIf, noWhile]), code, simple.simpleLine_eq]

theorem IsHeader.runFrom {command : Command} {condition : ConditionWords} {line : Text}
    {rest body after : List Text} (block : command = .branch ∨ command = .loop)
    (opened : IsHeader command condition line)
    (found : Block.cutEnd? 0 rest = some (body, after))
    (outside : machine.current.inComment = false) :
    Program.runFrom host number (line :: rest) machine world =
      Program.proceed host number
        (if command = .branch then
          Program.branch host condition.text
            (Program.runFrom host 1 (Block.inner (Block.cutElse 0 body).1))
            (Program.runFrom host 1 (Block.inner ((Block.cutElse 0 body).2.getD []))) machine world
        else
          Program.loop host condition.text (Program.runFrom host 1 (Block.inner body))
            Program.iterationLimit Program.iterationLimit machine world)
        (Program.runFrom host (number + body.length + 2) after) := by
  have noComment := opened.notMem_comment block
  have present := opened.strip_ne_nil block
  have code : Line.code (Text.strip line) = Text.strip line := by
    rw [Line.code_eq_strip noComment, Text.strip_strip]
  exact Program.runFrom_header host number world present
    (Line.startsWith_commentMark noComment) outside
    (by rw [code]; exact present) (by rw [code]; exact opened.command? block)
    (by rw [code]; exact opened.read block) found

end Statements

/-! ## Trees in a run -/

namespace Renders

variable [Evaluator] {World : Type} {host : Host World}

theorem runFrom_append (keeps : host.KeepsMachine) {tree : Tree} {lines : List Text}
    (rendered : Renders tree lines) (number : Nat) (rest : List Text) {machine : Machine}
    (world : World) (outside : machine.current.inComment = false) :
    ∃ reported, Program.runFrom host number (lines ++ rest) machine world =
      Program.proceed host reported (tree.execute host machine world)
        (Program.runFrom host (number + lines.length) rest) := by
  -- A block is run without its blank lines, so the induction is on the number of lines.
  induction size : lines.length using Nat.strong_induction_on
    generalizing tree lines number rest machine world with
  | _ size induction =>
  subst size
  have follows : ∀ {block : Tree} {inside : List Text}, Renders block inside →
      inside.length < lines.length →
      Program.Follows host (Program.runFrom host 1 (Block.inner inside)) (block.execute host) := by
    intro block inside written shorter machine world outside
    have bound := Block.length_inner inside
    obtain ⟨reported, equal⟩ := induction _ (by omega) written.inner 1 [] world outside rfl
    rw [List.append_nil] at equal
    refine ⟨reported, equal.trans ?_⟩
    congr 1
    funext machine world
    exact Program.runFrom_nil host _ machine world
  -- What comes after a statement is run in the block of the statement.
  have continues : ∀ {statement : Machine → World → Outcome × Machine × World} {next : Tree}
      {after : List Text} {position : Nat}, Tree.Stays statement → Renders next after →
      after.length < lines.length → position + after.length = number + lines.length →
      ∀ between later, statement machine world = (.done, between, later) →
      ∃ reported, Program.runFrom host position (after ++ rest) between later =
        Program.proceed host reported (next.execute host between later)
          (Program.runFrom host (number + lines.length) rest) := by
    intro statement next after position stays written shorter sum between later ended
    have same := stays machine world (by rw [ended])
    rw [ended] at same
    rw [← sum]
    exact induction _ shorter written position rest later (same.inComment.trans outside) rfl
  have passage := Machine.SameBlock.passage
  have stays := Tree.execute_stays keeps
  cases rendered with
  | done => exact ⟨number, rfl⟩
  | blank blank rendered =>
      rw [List.cons_append, Program.runFrom_blank host number _ machine world blank]
      exact continues (.idle passage) rendered (by grind) (by grind) machine world rfl
  | @line simple next line after written rendered =>
      rw [List.cons_append, SimpleLine.runFrom host number world written _ outside]
      exact (Program.SameConclusion.refl _).proceed_andThen
        (continues (Tree.stays_line keeps simple) rendered (by grind) (by grind)) number
  | @branch condition _ _ _ _ _ _ opened inside closed rendered =>
      rw [List.cons_append, List.append_assoc, List.cons_append,
        opened.runFrom host number world (.inl rfl) (inside.cutEnd?_block closed _) outside,
        if_pos rfl, inside.cutElse_eq]
      have same := (follows inside (by grind)).branch (follows .done (by grind)) condition.text
        machine world
      rw [Tree.execute, Tree.inBlock_idle] at same
      exact same.proceed_andThen
        (continues (((stays _).inBlock passage).chosen passage (.idle passage)) rendered (by grind)
          (by grind)) number
  | @choice condition _ _ _ _ _ _ _ _ _ opened inside parted otherwise closed rendered =>
      rw [List.cons_append, List.append_assoc, List.cons_append, List.append_assoc,
        List.cons_append, opened.runFrom host number world (.inl rfl)
          (inside.cutEnd?_choice parted otherwise closed _) outside,
        if_pos rfl, inside.cutElse_choice parted]
      have same := (follows inside (by grind)).branch (follows otherwise (by grind))
        condition.text machine world
      exact same.proceed_andThen
        (continues (((stays _).inBlock passage).chosen passage ((stays _).inBlock passage)) rendered
          (by grind) (by grind)) number
  | @loop condition _ _ _ _ _ _ opened inside closed rendered =>
      rw [List.cons_append, List.append_assoc, List.cons_append,
        opened.runFrom host number world (.inr rfl) (inside.cutEnd?_block closed _) outside,
        if_neg (by decide)]
      have same := (follows inside (by grind)).loop condition.text
        Program.iterationLimit machine world
      exact same.proceed_andThen
        (continues ((stays _).repeated passage _) rendered (by grind) (by grind)) number

/-- A program that is written down as a tree does what the tree does. -/
theorem run_eq (keeps : host.KeepsMachine) {tree : Tree} {source : Text}
    (rendered : Renders tree (Text.lines source)) {machine : Machine} (world : World)
    (outside : machine.current.inComment = false) :
    ∃ number, Program.run host source machine world =
      Tree.concluded host number (tree.execute host machine world) := by
  obtain ⟨number, equal⟩ := rendered.runFrom_append keeps 1 [] world outside
  refine ⟨number, ?_⟩
  rw [Program.run, ← List.append_nil (Text.lines source), equal]
  obtain ⟨outcome, after, later⟩ := tree.execute host machine world
  cases outcome with
  | done => simp only [Program.proceed, Program.runFrom_nil, Tree.concluded]
  | exited code => rfl
  | failed error =>
      simp only [Program.proceed, Tree.concluded, Program.fail]
      split <;> rfl

end Renders

/-- Any tree can be written down, and however it is written down, on the console the program does
what the tree does: it writes the same, leaves the same variables, ends in the same way, reports the
same error and takes the same from the input and from the draws. -/
theorem Tree.run_eq_execute [Evaluator] (tree : Tree) :
    (∃ source, Renders tree (Text.lines source)) ∧
    ∀ source, Renders tree (Text.lines source) →
      ∀ (entries : List (Text × Variable)) (input : Text) (draws : List Nat), ∃ number,
        Program.run Console.host source (Machine.ofVariables entries)
            (Console.start input draws) =
          Tree.concluded Console.host number
            (tree.execute Console.host (Machine.ofVariables entries)
              (Console.start input draws)) := by
  refine ⟨⟨tree.text, tree.renders_text⟩, ?_⟩
  intro source rendered entries input draws
  exact rendered.run_eq Console.host_keepsMachine (Console.start input draws)
    (Machine.inComment_ofVariables entries)

def Tree.countdown : Tree :=
  .loop ⟨["n".toList, ">".toList, "0".toList], by decide, by decide, by decide⟩
    (.choice ⟨["n".toList, "==".toList, "1".toList], by decide, by decide, by decide⟩
      (.line ⟨"SAY \"one\"".toList, by decide, by decide, by decide, by decide, by decide⟩ .done)
      .done
      (.line ⟨"Decrement n".toList, by decide, by decide, by decide, by decide, by decide⟩ .done))
    .done

def Tree.countdownSource : Text :=
  "WHILE n > 0 DO\n\n  if n == 1 do\n    SAY \"one\"\n  Else\n  ENDO\n\tDecrement n\nendo".toList

theorem Tree.renders_countdown : Renders countdown (Text.lines countdownSource) := by
  have cut : Text.lines countdownSource =
      "WHILE n > 0 DO".toList :: (([] :: "  if n == 1 do".toList ::
        (["    SAY \"one\"".toList] ++ "  Else".toList :: ([] ++ "  ENDO".toList ::
          ["\tDecrement n".toList]))) ++ "endo".toList :: []) := by decide
  rw [cut]
  refine .loop ⟨"WHILE".toList, "DO".toList, by decide, by decide, by decide⟩ ?_ (by decide) .done
  refine .blank (by decide) (.choice ⟨"if".toList, "do".toList, by decide, by decide, by decide⟩
    (.line (by decide) .done) (by decide) .done (by decide) (.line (by decide) .done))

theorem Tree.run_eq_execute_countdown :
    Renders countdown (Text.lines countdownSource) ∧ ∃ number,
      Program.run Console.host countdownSource
          (Machine.ofVariables [("n".toList, ⟨"INT".toList, .integer 3, false⟩)])
          (Console.start [] []) =
        Tree.concluded Console.host number
          (countdown.execute Console.host
            (Machine.ofVariables [("n".toList, ⟨"INT".toList, .integer 3, false⟩)])
            (Console.start [] [])) :=
  ⟨renders_countdown, countdown.run_eq_execute.2 countdownSource renders_countdown _ _ _⟩

end Linewise
