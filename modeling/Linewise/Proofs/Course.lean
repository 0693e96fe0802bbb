import Linewise.Proofs.Run

/-!
The course of a run. `Ran` has a rule for each way in which lines, branches and loops are run, and
keeps the moments at which something was done. Every run has a course, and its course tells its
result, so that what is to be shown of runs is shown by induction on their courses.
-/

namespace Linewise.Program

variable {World : Type}

/-! ## Readings

What a line of a program amounts to before anything is evaluated, so that an execution goes from one
reading to the next. -/

/-- What is run: lines of which the first has the given number, one of two blocks, or a block as
long as a condition holds, at most `remaining` times more. -/
inductive Task
  | sequence (number : Nat) (lines : List Text)
  | branch (condition : Text) (consequence alternative : List Text)
  | loop (condition : Text) (body : List Text) (limit : Int) (remaining : Nat)

def asLine (result : Ending × Machine × World) : Outcome × Machine × World :=
  (Outcome.ofEnding result.1, result.2)

namespace Task

def lines : Task → List Text
  | sequence _ lines => lines
  | branch _ consequence alternative => consequence ++ alternative
  | loop _ body _ _ => body

def ofBlock (command : Command) (condition : Text) (body : List Text) : Task :=
  if command = .branch then
    .branch condition (Block.inner (Block.cutElse 0 body).1)
      (Block.inner ((Block.cutElse 0 body).2.getD []))
  else .loop condition (Block.inner body) iterationLimit iterationLimit

def execute [Evaluator] (host : Host World) : Task → Machine → World → Outcome × Machine × World
  | sequence number lines => fun machine world => asLine (runFrom host number lines machine world)
  | branch condition consequence alternative =>
      Program.branch host condition (runFrom host 1 consequence) (runFrom host 1 alternative)
  | loop condition body limit remaining =>
      Program.loop host condition (runFrom host 1 body) limit remaining

end Task

/-- What the first of some lines is for the run. -/
inductive Reading
  | skipped (machine : Machine)
  | refused (error : Error)
  | simple (code : Text)
  /-- A block, the number of its lines with its header and its end, and the lines after it. -/
  | block (task : Task) (length : Nat) (after : List Text)

def reading (line : Text) (rest : List Text) (machine : Machine) : Reading :=
  let line := Text.strip line
  let code := Line.code line
  if line = [] then .skipped machine
  else if Text.startsWith line Line.commentMark then .skipped machine.toggleComment
  else if machine.current.inComment then .skipped machine
  else if code = [] then .skipped machine
  else
    match Header.command? code with
    | none =>
        if Text.lower code = Block.elseWord then .refused .strayElse
        else if Text.lower code = Block.endWord then .refused .strayEnd
        else .simple code
    | some command =>
        match Header.read command code with
        | .error error => .refused error
        | .ok header =>
            match Block.cutEnd? 0 rest with
            | none => .refused (.missingEnd command.title)
            | some (body, after) =>
                .block (.ofBlock command header.condition body) (body.length + 2) after

/-- What a line that ended so means for the lines around it: its error is reported for its
number. -/
def concluded (host : Host World) (number : Nat) : Outcome → World → Outcome × World
  | .failed .unfinished, world => (.failed .unfinished, world)
  | .failed error, world => (.exited 1, host.report (reportText (some number) error) world)
  | outcome, world => (outcome, world)

def followed (host : Host World) (number : Nat) (result : Outcome × Machine × World)
    (next : Machine → World → Outcome × Machine × World) : Outcome × Machine × World :=
  match result with
  | (.done, machine, world) => next machine world
  | (outcome, machine, world) =>
      ((concluded host number outcome world).1, machine, (concluded host number outcome world).2)

def Reading.execute [Evaluator] (host : Host World) (number : Nat) (rest : List Text)
    (machine : Machine) (world : World) : Reading → Outcome × Machine × World
  | skipped given => (Task.sequence (number + 1) rest).execute host given world
  | refused error =>
      ((concluded host number (.failed error) world).1, machine,
        (concluded host number (.failed error) world).2)
  | simple code =>
      followed host number (Line.execute host code machine world)
        ((Task.sequence (number + 1) rest).execute host)
  | block task length after =>
      followed host number (task.execute host machine world)
        ((Task.sequence (number + length) after).execute host)

section Equations

variable (host : Host World) (number : Nat)

theorem asLine_fail (error : Error) (machine : Machine) (world : World) :
    asLine (fail host (some number) error machine world) =
      ((concluded host number (.failed error) world).1, machine,
        (concluded host number (.failed error) world).2) := by
  cases error <;> rfl

theorem asLine_proceed (result : Outcome × Machine × World) (next : Execution World) :
    asLine (proceed host number result next) =
      followed host number result fun machine world => asLine (next machine world) := by
  obtain ⟨outcome, machine, world⟩ := result
  cases outcome with
  | done => rfl
  | exited code => rfl
  | failed error => exact asLine_fail host number error machine world

theorem followed_of_ne {outcome : Outcome} (ended : outcome ≠ .done) (machine : Machine)
    (world : World) (next : Machine → World → Outcome × Machine × World) :
    followed host number (outcome, machine, world) next =
      ((concluded host number outcome world).1, machine,
        (concluded host number outcome world).2) := by
  cases outcome with
  | done => exact absurd rfl ended
  | failed error => rfl
  | exited code => rfl

theorem execute_cons [Evaluator] (line : Text) (rest : List Text) (machine : Machine)
    (world : World) :
    (Task.sequence number (line :: rest)).execute host machine world =
      (reading line rest machine).execute host number rest machine world := by
  rw [Task.execute]
  simp only [reading]
  by_cases present : Text.strip line = []
  · rw [if_pos present, runFrom_blank host number rest machine world present]
    rfl
  rw [if_neg present]
  cases mark : Text.startsWith (Text.strip line) Line.commentMark with
  | true =>
      rw [if_pos rfl, runFrom_mark host number rest machine world present mark]
      rfl
  | false =>
  rw [if_neg Bool.false_ne_true]
  cases comment : machine.current.inComment with
  | true =>
      rw [if_pos rfl, runFrom_comment host number rest machine world mark comment]
      rfl
  | false =>
  rw [if_neg Bool.false_ne_true]
  by_cases code : Line.code (Text.strip line) = []
  · rw [if_pos code, runFrom_remark host number rest machine world mark code]
    rfl
  rw [if_neg code]
  cases opens : Header.command? (Line.code (Text.strip line)) with
  | none =>
      rw [runFrom_simple host number rest world present mark comment code opens, asLine_proceed,
        simpleLine]
      by_cases other : Text.lower (Line.code (Text.strip line)) = Block.elseWord
      · simp only [if_pos other]
        rfl
      by_cases finish : Text.lower (Line.code (Text.strip line)) = Block.endWord
      · simp only [if_neg other, if_pos finish]
        rfl
      simp only [if_neg other, if_neg finish]
      rfl
  | some command =>
  cases read : Header.read command (Line.code (Text.strip line)) with
  | error error =>
      rw [runFrom_unread host number rest world present mark comment code opens read]
      simp only [read]
      exact asLine_fail host number error machine world
  | ok header =>
  cases found : Block.cutEnd? 0 rest with
  | none =>
      rw [runFrom_unended host number rest world present mark comment code opens read found]
      simp only [read]
      exact asLine_fail host number _ machine world
  | some parts =>
      obtain ⟨body, after⟩ := parts
      rw [runFrom_header host number world present mark comment code opens read found,
        asLine_proceed, Nat.add_assoc]
      simp only [read, Reading.execute, Task.ofBlock]
      by_cases branching : command = .branch
      · simp only [if_pos branching]
        rfl
      · simp only [if_neg branching]
        rfl

end Equations

theorem reading_eq_header {line : Text} {rest after : List Text} {machine : Machine} {task : Task}
    {length : Nat} (read : reading line rest machine = .block task length after) :
    ∃ command condition body, Header.command? (Line.code (Text.strip line)) = some command ∧
      Block.cutEnd? 0 rest = some (body, after) ∧
      task = .ofBlock command condition body ∧ length = body.length + 2 := by
  simp only [reading] at read
  repeat' split at read
  all_goals cases read
  next opens _ header _ _ body found =>
    exact ⟨_, header.condition, body, opens, found, rfl, rfl⟩

theorem reading_eq_block {line : Text} {rest after : List Text} {machine : Machine} {task : Task}
    {length : Nat} (read : reading line rest machine = .block task length after) :
    ∃ command condition body, Block.cutEnd? 0 rest = some (body, after) ∧
      task = .ofBlock command condition body ∧ length = body.length + 2 := by
  rcases reading_eq_header read with ⟨command, condition, body, _, cut⟩
  exact ⟨command, condition, body, cut⟩

theorem reading_eq_refused {line : Text} {rest : List Text} {machine : Machine} {error : Error}
    (read : reading line rest machine = .refused error) :
    error = .strayElse ∨ error = .strayEnd ∨
      ∃ command, Header.command? (Line.code (Text.strip line)) = some command ∧
        (error = .missingDo command ∨
          error = .missingEnd command.title ∧ Block.cutEnd? 0 rest = none) := by
  simp only [reading, Header.read] at read
  repeat' split at read
  all_goals cases read
  · exact .inl rfl
  · exact .inr (.inl rfl)
  · next opens _ refused =>
      split at refused
      · cases refused
      · cases refused
        exact .inr (.inr ⟨_, opens, .inl rfl⟩)
  · next opens _ _ _ _ unended => exact .inr (.inr ⟨_, opens, .inr ⟨rfl, unended⟩⟩)

theorem reading_eq_simple {line code : Text} {rest : List Text} {machine : Machine}
    (read : reading line rest machine = .simple code) : code = Line.code (Text.strip line) := by
  simp only [reading] at read
  repeat' split at read
  all_goals cases read
  rfl

theorem reading_eq_skipped {line : Text} {rest : List Text} {machine given : Machine}
    (read : reading line rest machine = .skipped given) :
    given = machine ∨ given = machine.toggleComment := by
  simp only [reading] at read
  repeat' split at read
  all_goals cases read
  all_goals first | exact .inl rfl | exact .inr rfl

namespace Task

def codes (task : Task) : List Text := task.lines.map fun line => Line.code (Text.strip line)

theorem codes_inner_subset (block : List Text) :
    (Block.inner block).map (fun line => Line.code (Text.strip line)) ⊆
      block.map fun line => Line.code (Text.strip line) := by
  intro code member
  obtain ⟨line, inside, rfl⟩ := List.mem_map.mp member
  obtain ⟨original, present, rfl, _⟩ := Block.exists_of_mem_inner inside
  rw [Text.strip_strip]
  exact List.mem_map_of_mem present

theorem codes_ofBlock_subset (command : Command) (condition : Text) (body : List Text) :
    (ofBlock command condition body).codes ⊆
      body.map fun line => Line.code (Text.strip line) := by
  unfold ofBlock
  split
  · simp only [codes, lines, List.map_append]
    apply List.append_subset.mpr
    constructor
    · exact List.Subset.trans (codes_inner_subset _)
        (List.map_subset _ fun line member => Block.mem_of_mem_cutElse (.inl member))
    · exact List.Subset.trans (codes_inner_subset _)
        (List.map_subset _ fun line member => Block.mem_of_mem_cutElse (.inr member))
  · exact codes_inner_subset body

theorem length_ofBlock (command : Command) (condition : Text) (body : List Text) :
    (ofBlock command condition body).lines.length ≤ body.length := by
  unfold ofBlock
  split
  · have parts := Block.length_cutElse 0 body
    have first := Block.length_inner (Block.cutElse 0 body).1
    have second := Block.length_inner ((Block.cutElse 0 body).2.getD [])
    rw [lines, List.length_append]
    omega
  · exact Block.length_inner body

end Task

theorem codes_subset_of_reading {line : Text} {rest after : List Text} {machine : Machine}
    {task : Task} {length : Nat} (read : reading line rest machine = .block task length after)
    {number : Nat} :
    task.codes ⊆ (Task.sequence number (line :: rest)).codes ∧
      (Task.sequence (number + length) after).codes ⊆
        (Task.sequence number (line :: rest)).codes := by
  obtain ⟨command, condition, body, found, rfl, rfl⟩ := reading_eq_block read
  obtain ⟨finish, rfl, _⟩ := Block.append_of_cutEnd? found
  constructor
  · apply List.Subset.trans (Task.codes_ofBlock_subset command condition body)
    apply List.map_subset
    intro line member
    exact List.mem_cons_of_mem _ (List.mem_append_left _ member)
  · apply List.map_subset
    intro line member
    exact List.mem_cons_of_mem _ (List.mem_append_right _ (List.mem_cons_of_mem _ member))

theorem codes_chosen_subset (truth : Bool) {number : Nat} {condition : Text}
    {consequence alternative : List Text} :
    (Task.sequence number (if truth then consequence else alternative)).codes ⊆
      (Task.branch condition consequence alternative).codes := by
  apply List.map_subset
  cases truth with
  | true => exact List.subset_append_left consequence alternative
  | false => exact List.subset_append_right consequence alternative

/-! ## Courses -/

inductive Event
  | line (code : Text)
  | test (condition : Text)

/-- A line is about to be executed, or a condition to be tested. -/
structure Moment (World : Type) where
  event : Event
  machine : Machine
  world : World

/-- The task was run from this machine and world, through these moments, with this result. -/
inductive Ran [Evaluator] (host : Host World) :
    Task → Machine → World → List (Moment World) → Outcome → Machine → World → Prop
  | finished {number : Nat} {machine : Machine} {world : World} :
      Ran host (.sequence number []) machine world [] .done machine world
  | skipped {number : Nat} {line : Text} {rest : List Text} {machine given after : Machine}
      {world later : World} {moments : List (Moment World)} {outcome : Outcome}
      (read : reading line rest machine = .skipped given)
      (next : Ran host (.sequence (number + 1) rest) given world moments outcome after later) :
      Ran host (.sequence number (line :: rest)) machine world moments outcome after later
  | refused {number : Nat} {line : Text} {rest : List Text} {machine : Machine} {world : World}
      {error : Error} (read : reading line rest machine = .refused error) :
      Ran host (.sequence number (line :: rest)) machine world []
        (concluded host number (.failed error) world).1 machine
        (concluded host number (.failed error) world).2
  | line {number : Nat} {line code : Text} {rest : List Text} {machine between after : Machine}
      {world spent later : World} {moments : List (Moment World)} {outcome : Outcome}
      (read : reading line rest machine = .simple code)
      (executed : Line.execute host code machine world = (.done, between, spent))
      (next : Ran host (.sequence (number + 1) rest) between spent moments outcome after later) :
      Ran host (.sequence number (line :: rest)) machine world
        (⟨.line code, machine, world⟩ :: moments) outcome after later
  | lineEnded {number : Nat} {line code : Text} {rest : List Text} {machine after : Machine}
      {world spent : World} {outcome : Outcome}
      (read : reading line rest machine = .simple code)
      (executed : Line.execute host code machine world = (outcome, after, spent))
      (ended : outcome ≠ .done) :
      Ran host (.sequence number (line :: rest)) machine world [⟨.line code, machine, world⟩]
        (concluded host number outcome spent).1 after (concluded host number outcome spent).2
  | block {number length : Nat} {line : Text} {rest remaining : List Text} {task : Task}
      {machine between after : Machine} {world spent later : World}
      {moments others : List (Moment World)} {outcome : Outcome}
      (read : reading line rest machine = .block task length remaining)
      (inside : Ran host task machine world moments .done between spent)
      (next : Ran host (.sequence (number + length) remaining) between spent others outcome after
        later) :
      Ran host (.sequence number (line :: rest)) machine world (moments ++ others) outcome after
        later
  | blockEnded {number length : Nat} {line : Text} {rest remaining : List Text} {task : Task}
      {machine after : Machine} {world spent : World} {moments : List (Moment World)}
      {outcome : Outcome} (read : reading line rest machine = .block task length remaining)
      (inside : Ran host task machine world moments outcome after spent)
      (ended : outcome ≠ .done) :
      Ran host (.sequence number (line :: rest)) machine world moments
        (concluded host number outcome spent).1 after (concluded host number outcome spent).2
  | undecided {condition : Text} {consequence alternative : List Text} {machine : Machine}
      {world : World} {error : Error}
      (tested : Condition.holds machine.bindings condition = .error error) :
      Ran host (.branch condition consequence alternative) machine world
        [⟨.test condition, machine, world⟩] (.failed error) (machineAfter condition machine)
        (worldAfter host condition machine world)
  | chosen {condition : Text} {consequence alternative : List Text} {machine after : Machine}
      {world later : World} {moments : List (Moment World)} {truth : Bool}
      (tested : Condition.holds machine.bindings condition = .ok truth)
      (inside : Ran host (.sequence 1 (if truth then consequence else alternative))
        (machineAfter condition machine).enter (worldAfter host condition machine world) moments
        .done after later) :
      Ran host (.branch condition consequence alternative) machine world
        (⟨.test condition, machine, world⟩ :: moments) .done after.leave later
  | chosenEnded {condition : Text} {consequence alternative : List Text} {machine after : Machine}
      {world later : World} {moments : List (Moment World)} {truth : Bool} {outcome : Outcome}
      (tested : Condition.holds machine.bindings condition = .ok truth)
      (inside : Ran host (.sequence 1 (if truth then consequence else alternative))
        (machineAfter condition machine).enter (worldAfter host condition machine world) moments
        outcome after later)
      (ended : outcome ≠ .done) :
      Ran host (.branch condition consequence alternative) machine world
        (⟨.test condition, machine, world⟩ :: moments) outcome after later
  | loopUndecided {condition : Text} {body : List Text} {limit : Int} {remaining : Nat}
      {machine : Machine} {world : World} {error : Error}
      (tested : Condition.holds machine.bindings condition = .error error) :
      Ran host (.loop condition body limit remaining) machine world
        [⟨.test condition, machine, world⟩] (.failed error) (machineAfter condition machine)
        (worldAfter host condition machine world)
  | loopDone {condition : Text} {body : List Text} {limit : Int} {remaining : Nat}
      {machine : Machine} {world : World}
      (tested : Condition.holds machine.bindings condition = .ok false) :
      Ran host (.loop condition body limit remaining) machine world
        [⟨.test condition, machine, world⟩] .done (machineAfter condition machine)
        (worldAfter host condition machine world)
  | loopLimited {condition : Text} {body : List Text} {limit : Int} {machine : Machine}
      {world : World} (tested : Condition.holds machine.bindings condition = .ok true) :
      Ran host (.loop condition body limit 0) machine world
        [⟨.test condition, machine, world⟩] (.failed (.loopLimit limit))
        (machineAfter condition machine) (worldAfter host condition machine world)
  | round {condition : Text} {body : List Text} {limit : Int} {remaining : Nat}
      {machine between after : Machine} {world spent later : World}
      {moments others : List (Moment World)} {outcome : Outcome}
      (tested : Condition.holds machine.bindings condition = .ok true)
      (inside : Ran host (.sequence 1 body) (machineAfter condition machine).enter
        (worldAfter host condition machine world) moments .done between spent)
      (next : Ran host (.loop condition body limit remaining) between.leave spent others outcome
        after later) :
      Ran host (.loop condition body limit (remaining + 1)) machine world
        (⟨.test condition, machine, world⟩ :: (moments ++ others)) outcome after later
  | roundEnded {condition : Text} {body : List Text} {limit : Int} {remaining : Nat}
      {machine after : Machine} {world later : World} {moments : List (Moment World)}
      {outcome : Outcome} (tested : Condition.holds machine.bindings condition = .ok true)
      (inside : Ran host (.sequence 1 body) (machineAfter condition machine).enter
        (worldAfter host condition machine world) moments outcome after later)
      (ended : outcome ≠ .done) :
      Ran host (.loop condition body limit (remaining + 1)) machine world
        (⟨.test condition, machine, world⟩ :: moments) outcome after later

/-! ## Courses and results

Every execution has a course, and a course has only one result, that of the execution. -/

section Results

variable [Evaluator] {host : Host World} {machine after : Machine} {world later : World}
  {outcome : Outcome}

theorem enclosed_eq {lines : List Text}
    (inside : (Task.sequence 1 lines).execute host machine.enter world = (outcome, after, later)) :
    ∃ ending, Outcome.ofEnding ending = outcome ∧
      enclosed (runFrom host 1 lines) machine world =
        (ending, if outcome = .done then after.leave else after, later) := by
  simp only [Task.execute, asLine] at inside
  unfold enclosed
  generalize runFrom host 1 lines machine.enter world = result at inside
  obtain ⟨ending, between, spent⟩ := result
  cases inside
  cases ending with
  | returned => exact ⟨.returned, rfl, rfl⟩
  | exited code => exact ⟨.exited code, rfl, rfl⟩
  | unfinished => exact ⟨.unfinished, rfl, rfl⟩

theorem execute_branch {condition : Text} {consequence alternative : List Text} {truth : Bool}
    (tested : Condition.holds machine.bindings condition = .ok truth)
    (inside : (Task.sequence 1 (if truth then consequence else alternative)).execute host
      (machineAfter condition machine).enter (worldAfter host condition machine world) =
        (outcome, after, later)) :
    (Task.branch condition consequence alternative).execute host machine world =
      (outcome, if outcome = .done then after.leave else after, later) := by
  obtain ⟨ending, same, ran⟩ := enclosed_eq inside
  have chosen : (if truth then runFrom host 1 consequence else runFrom host 1 alternative) =
      runFrom host 1 (if truth then consequence else alternative) := by
    cases truth <;> rfl
  simp only [Task.execute, Program.branch, tested, chosen, ran, same]

theorem execute_loop {condition : Text} {body : List Text} {limit : Int} {remaining : Nat}
    (tested : Condition.holds machine.bindings condition = .ok true)
    (inside : (Task.sequence 1 body).execute host (machineAfter condition machine).enter
      (worldAfter host condition machine world) = (outcome, after, later)) :
    (Task.loop condition body limit (remaining + 1)).execute host machine world =
      if outcome = .done then
        (Task.loop condition body limit remaining).execute host after.leave later
      else (outcome, after, later) := by
  obtain ⟨ending, same, ran⟩ := enclosed_eq inside
  simp only [Task.execute]
  rw [Program.loop]
  simp only [tested, ran]
  subst same
  cases ending with
  | returned => rfl
  | exited code => rfl
  | unfinished => rfl

theorem Ran.execute_eq {task : Task} {moments : List (Moment World)}
    (ran : Ran host task machine world moments outcome after later) :
    task.execute host machine world = (outcome, after, later) := by
  induction ran with
  | finished =>
      simp only [Task.execute, runFrom_nil]
      rfl
  | skipped read next induction =>
      rw [execute_cons, read, Reading.execute, induction]
  | refused read => rw [execute_cons, read, Reading.execute]
  | line read executed next induction =>
      rw [execute_cons, read, Reading.execute, executed, followed, induction]
  | lineEnded read executed ended =>
      rw [execute_cons, read, Reading.execute, executed, followed_of_ne _ _ ended]
  | block read inside next insideInduction induction =>
      rw [execute_cons, read, Reading.execute, insideInduction, followed, induction]
  | blockEnded read inside ended induction =>
      rw [execute_cons, read, Reading.execute, induction, followed_of_ne _ _ ended]
  | undecided tested => simp only [Task.execute, Program.branch, tested]
  | loopUndecided tested | loopDone tested | loopLimited tested =>
      rw [Task.execute, Program.loop.eq_def]
      simp only [tested]
  | chosen tested inside induction => rw [execute_branch tested induction, if_pos rfl]
  | chosenEnded tested inside ended induction =>
      rw [execute_branch tested induction, if_neg ended]
  | round tested inside next insideInduction induction =>
      rw [execute_loop tested insideInduction, if_pos rfl, induction]
  | roundEnded tested inside ended induction =>
      rw [execute_loop tested induction, if_neg ended]

omit [Evaluator] in
theorem Outcome.ofEnding_injective : Function.Injective Outcome.ofEnding := by
  intro ending other same
  cases ending <;> cases other <;> cases same <;> rfl

/-- A program ends as its course does. -/
theorem Ran.run_eq {source : Text} {moments : List (Moment World)}
    (ran : Ran host (.sequence 1 (Text.lines source)) machine world moments outcome after later) :
    Outcome.ofEnding (run host source machine world).1 = outcome ∧
      (run host source machine world).2 = (after.outermost, later) := by
  have result := ran.execute_eq
  simp only [Task.execute, asLine] at result
  unfold run
  generalize runFrom host 1 (Text.lines source) machine world = ended at result
  obtain ⟨ending, between, spent⟩ := ended
  cases result
  exact ⟨rfl, rfl⟩

end Results

def Task.HasCourse [Evaluator] (host : Host World) (task : Task) : Prop :=
  ∀ machine world, ∃ moments outcome after later,
    Ran host task machine world moments outcome after later

section Existence

variable [Evaluator] {host : Host World}

theorem hasCourse_branch {condition : Text} {consequence alternative : List Text}
    (first : (Task.sequence 1 consequence).HasCourse host)
    (second : (Task.sequence 1 alternative).HasCourse host) :
    (Task.branch condition consequence alternative).HasCourse host := by
  intro machine world
  cases tested : Condition.holds machine.bindings condition with
  | error error => exact ⟨_, _, _, _, .undecided tested⟩
  | ok truth =>
      have inside : (Task.sequence 1 (if truth then consequence else alternative)).HasCourse host :=
        by cases truth <;> assumption
      obtain ⟨moments, outcome, after, later, ran⟩ :=
        inside (machineAfter condition machine).enter (worldAfter host condition machine world)
      by_cases ended : outcome = .done
      · subst ended
        exact ⟨_, _, _, _, .chosen tested ran⟩
      · exact ⟨_, _, _, _, .chosenEnded tested ran ended⟩

theorem hasCourse_loop {condition : Text} {body : List Text} {limit : Int}
    (rounds : (Task.sequence 1 body).HasCourse host) (remaining : Nat) :
    (Task.loop condition body limit remaining).HasCourse host := by
  induction remaining with
  | zero =>
      intro machine world
      cases tested : Condition.holds machine.bindings condition with
      | error error => exact ⟨_, _, _, _, .loopUndecided tested⟩
      | ok truth =>
          cases truth with
          | false => exact ⟨_, _, _, _, .loopDone tested⟩
          | true => exact ⟨_, _, _, _, .loopLimited tested⟩
  | succ remaining induction =>
      intro machine world
      cases tested : Condition.holds machine.bindings condition with
      | error error => exact ⟨_, _, _, _, .loopUndecided tested⟩
      | ok truth =>
          cases truth with
          | false => exact ⟨_, _, _, _, .loopDone tested⟩
          | true =>
              obtain ⟨moments, outcome, after, later, ran⟩ :=
                rounds (machineAfter condition machine).enter
                  (worldAfter host condition machine world)
              by_cases ended : outcome = .done
              · subst ended
                obtain ⟨_, _, _, _, next⟩ := induction after.leave later
                exact ⟨_, _, _, _, .round tested ran next⟩
              · exact ⟨_, _, _, _, .roundEnded tested ran ended⟩

theorem hasCourse_cons {line : Text} {rest : List Text}
    (shorter : ∀ task : Task, task.lines.length ≤ rest.length → task.HasCourse host)
    (number : Nat) : (Task.sequence number (line :: rest)).HasCourse host := by
  intro machine world
  cases read : reading line rest machine with
  | skipped given =>
      obtain ⟨_, _, _, _, next⟩ :=
        shorter (.sequence (number + 1) rest) (Nat.le_refl _) given world
      exact ⟨_, _, _, _, .skipped read next⟩
  | refused error => exact ⟨_, _, _, _, .refused read⟩
  | simple code =>
      rcases executed : Line.execute host code machine world with ⟨outcome, between, spent⟩
      by_cases ended : outcome = .done
      · subst ended
        obtain ⟨_, _, _, _, next⟩ :=
          shorter (.sequence (number + 1) rest) (Nat.le_refl _) between spent
        exact ⟨_, _, _, _, .line read executed next⟩
      · exact ⟨_, _, _, _, .lineEnded read executed ended⟩
  | block task length remaining =>
      obtain ⟨command, condition, body, found, rfl, rfl⟩ := reading_eq_block read
      have bound := Block.length_cutEnd? found
      have inner := Task.length_ofBlock command condition body
      obtain ⟨moments, outcome, between, spent, ran⟩ :=
        shorter (.ofBlock command condition body) (by omega) machine world
      by_cases ended : outcome = .done
      · subst ended
        obtain ⟨_, _, _, _, next⟩ :=
          shorter (.sequence (number + (body.length + 2)) remaining)
            (by rw [Task.lines]; omega) between spent
        exact ⟨_, _, _, _, .block read ran next⟩
      · exact ⟨_, _, _, _, .blockEnded read ran ended⟩

theorem hasCourse (host : Host World) (task : Task) : task.HasCourse host := by
  -- The blocks of a header are no parts of the list, but shorter lists.
  induction size : task.lines.length using Nat.strong_induction_on generalizing task with
  | _ size induction =>
  subst size
  have sequence : ∀ number lines, lines.length ≤ task.lines.length →
      (Task.sequence number lines).HasCourse host := by
    intro number lines few
    cases lines with
    | nil => exact fun machine world => ⟨_, _, _, _, .finished⟩
    | cons line rest =>
        apply hasCourse_cons
        intro shorter bound
        exact induction _ (by rw [List.length_cons] at few; omega) shorter rfl
  cases task with
  | sequence number lines => exact sequence number lines (Nat.le_refl _)
  | branch condition consequence alternative =>
      rw [Task.lines, List.length_append] at sequence
      exact hasCourse_branch (sequence 1 consequence (by omega)) (sequence 1 alternative (by omega))
  | loop condition body limit remaining =>
      exact hasCourse_loop (sequence 1 body (Nat.le_refl _)) remaining

end Existence

/-! ## From the start to the end -/

theorem concluded_ne_done {host : Host World} {number : Nat} {outcome : Outcome}
    (ended : outcome ≠ .done) (world : World) :
    (concluded host number outcome world).1 ≠ .done := by
  unfold concluded
  split
  · exact nofun
  · exact nofun
  · exact ended

/-- A passage that every line makes, also a comment mark, is made by all that comes to its end. -/
theorem Ran.leads [Evaluator] {host : Host World} {Related : Machine → Machine → Prop}
    (passage : Machine.Passage Related) (mark : ∀ machine, Related machine machine.toggleComment)
    (line : ∀ {code machine world after later},
      Line.execute host code machine world = (.done, after, later) → Related machine after)
    {task : Task} {machine after : Machine} {world later : World} {moments : List (Moment World)}
    {outcome : Outcome} (ran : Ran host task machine world moments outcome after later)
    (done : outcome = .done) : Related machine after := by
  induction ran with
  | finished => exact passage.refl _
  | skipped read next induction =>
      rcases reading_eq_skipped read with rfl | rfl
      · exact induction done
      · exact passage.trans (mark _) (induction done)
  | refused read => exact absurd done (concluded_ne_done (by simp) _)
  | line read executed next induction => exact passage.trans (line executed) (induction done)
  | lineEnded read executed ended => exact absurd done (concluded_ne_done ended _)
  | block read inside next insideInduction induction =>
      exact passage.trans (insideInduction rfl) (induction done)
  | blockEnded read inside ended induction => exact absurd done (concluded_ne_done ended _)
  | undecided | loopUndecided | loopLimited => cases done
  | loopDone tested => exact passage.revised _ _
  | chosen tested inside induction =>
      exact passage.trans (passage.revised _ _) (passage.leave (induction rfl))
  | chosenEnded tested inside ended induction | roundEnded tested inside ended induction =>
      exact absurd done ended
  | round tested inside next insideInduction induction =>
      have inner := passage.trans (passage.revised _ _) (passage.leave (insideInduction rfl))
      exact passage.trans inner (induction done)

/-! ## What a run keeps -/

def Moment.Allows (Allowed : Text → Machine → Prop) (moment : Moment World) : Prop :=
  ∀ code, moment.event = .line code → Allowed code moment.machine

/-- A property of machine and world that is kept by every allowed line, by the test of a condition,
by entering and leaving a block, by a comment mark and by a report. -/
structure Keeps [Evaluator] (host : Host World) (Allowed : Text → Machine → Prop)
    (Holds : Machine → World → Prop) : Prop where
  line {code : Text} {machine : Machine} {world : World} (allowed : Allowed code machine)
    (holds : Holds machine world) :
    Holds (Line.execute host code machine world).2.1 (Line.execute host code machine world).2.2
  test {condition : Text} {machine : Machine} {world : World} (holds : Holds machine world) :
    Holds (machineAfter condition machine) (worldAfter host condition machine world)
  toggle {machine : Machine} {world : World} (holds : Holds machine world) :
    Holds machine.toggleComment world
  enter {machine : Machine} {world : World} (holds : Holds machine world) :
    Holds machine.enter world
  leave {machine : Machine} {world : World} (holds : Holds machine world) :
    Holds machine.leave world
  report {text : Text} {machine : Machine} {world : World} (holds : Holds machine world) :
    Holds machine (host.report text world)

section Invariants

variable [Evaluator] {host : Host World} {Allowed : Text → Machine → Prop}
  {Holds : Machine → World → Prop}

theorem Keeps.concluded (keeps : Keeps host Allowed Holds) {machine : Machine} {world : World}
    (holds : Holds machine world) (number : Nat) (outcome : Outcome) :
    Holds machine (concluded host number outcome world).2 := by
  unfold Program.concluded
  split
  · exact holds
  · exact keeps.report holds
  · exact holds

theorem Keeps.executed (keeps : Keeps host Allowed Holds) {code : Text} {machine after : Machine}
    {world later : World} {outcome : Outcome}
    (executed : Line.execute host code machine world = (outcome, after, later))
    (allowed : (⟨.line code, machine, world⟩ : Moment World).Allows Allowed)
    (holds : Holds machine world) : Holds after later := by
  have kept := keeps.line (allowed code rfl) holds
  rw [executed] at kept
  exact kept

/-- What allowed lines keep holds at every moment of a course, and at its end. -/
theorem Ran.keeps (keeps : Keeps host Allowed Holds) {task : Task} {machine after : Machine}
    {world later : World} {moments : List (Moment World)} {outcome : Outcome}
    (ran : Ran host task machine world moments outcome after later)
    (allowed : ∀ moment ∈ moments, moment.Allows Allowed) (holds : Holds machine world) :
    Holds after later ∧ ∀ moment ∈ moments, Holds moment.machine moment.world := by
  induction ran with
  | finished => exact ⟨holds, nofun⟩
  | skipped read next induction =>
      rcases reading_eq_skipped read with rfl | rfl
      · exact induction allowed holds
      · exact induction allowed (keeps.toggle holds)
  | refused read => exact ⟨keeps.concluded holds _ _, nofun⟩
  | line read executed next induction =>
      rw [List.forall_mem_cons] at allowed ⊢
      have rest := induction allowed.2 (keeps.executed executed allowed.1 holds)
      exact ⟨rest.1, holds, rest.2⟩
  | lineEnded read executed ended =>
      rw [List.forall_mem_singleton] at allowed ⊢
      exact ⟨keeps.concluded (keeps.executed executed allowed holds) _ _, holds⟩
  | block read inside next insideInduction induction =>
      rw [List.forall_mem_append] at allowed ⊢
      have before := insideInduction allowed.1 holds
      have rest := induction allowed.2 before.1
      exact ⟨rest.1, before.2, rest.2⟩
  | blockEnded read inside ended induction =>
      have before := induction allowed holds
      exact ⟨keeps.concluded before.1 _ _, before.2⟩
  | undecided | loopUndecided | loopDone | loopLimited =>
      exact ⟨keeps.test holds, List.forall_mem_singleton.mpr holds⟩
  | chosen tested inside induction =>
      rw [List.forall_mem_cons] at allowed ⊢
      have before := induction allowed.2 (keeps.enter (keeps.test holds))
      exact ⟨keeps.leave before.1, holds, before.2⟩
  | chosenEnded tested inside ended induction | roundEnded tested inside ended induction =>
      rw [List.forall_mem_cons] at allowed ⊢
      have before := induction allowed.2 (keeps.enter (keeps.test holds))
      exact ⟨before.1, holds, before.2⟩
  | round tested inside next insideInduction induction =>
      rw [List.forall_mem_cons, List.forall_mem_append] at allowed ⊢
      have before := insideInduction allowed.2.1 (keeps.enter (keeps.test holds))
      have rest := induction allowed.2.2 (keeps.leave before.1)
      exact ⟨rest.1, holds, before.2, rest.2⟩

omit [Evaluator] in
theorem Moment.Allows.mono {Weaker : Text → Machine → Prop} {moment : Moment World}
    (allows : moment.Allows Allowed)
    (implies : ∀ code machine, Allowed code machine → Weaker code machine) :
    moment.Allows Weaker :=
  fun code event => implies code moment.machine (allows code event)

theorem Ran.code_mem {task : Task} {machine after : Machine} {world later : World}
    {moments : List (Moment World)} {outcome : Outcome}
    (ran : Ran host task machine world moments outcome after later) :
    ∀ moment ∈ moments, moment.Allows fun code _ => code ∈ task.codes := by
  induction ran with
  | finished | refused => exact nofun
  | undecided | loopUndecided | loopDone | loopLimited =>
      exact List.forall_mem_singleton.mpr nofun
  | skipped read next induction =>
      intro moment member
      exact (induction moment member).mono fun _ _ => List.mem_cons_of_mem _
  | line read executed next induction =>
      cases reading_eq_simple read
      refine List.forall_mem_cons.mpr ⟨?_, fun moment member => ?_⟩
      · rintro code ⟨⟩
        exact List.mem_cons_self
      · exact (induction moment member).mono fun _ _ => List.mem_cons_of_mem _
  | lineEnded read executed ended =>
      cases reading_eq_simple read
      rw [List.forall_mem_singleton]
      rintro code ⟨⟩
      exact List.mem_cons_self
  | block read inside next insideInduction induction =>
      obtain ⟨within, beyond⟩ := codes_subset_of_reading read
      refine List.forall_mem_append.mpr ⟨fun moment member => ?_, fun moment member => ?_⟩
      · exact (insideInduction moment member).mono fun _ _ => (within ·)
      · exact (induction moment member).mono fun _ _ => (beyond ·)
  | blockEnded read inside ended induction =>
      obtain ⟨within, _⟩ := codes_subset_of_reading read
      intro moment member
      exact (induction moment member).mono fun _ _ => (within ·)
  | chosen tested inside induction | chosenEnded tested inside ended induction =>
      refine List.forall_mem_cons.mpr ⟨nofun, fun moment member => ?_⟩
      exact (induction moment member).mono fun _ _ => (codes_chosen_subset _ ·)
  | round tested inside next insideInduction induction =>
      exact List.forall_mem_cons.mpr
        ⟨nofun, List.forall_mem_append.mpr ⟨insideInduction, induction⟩⟩
  | roundEnded tested inside ended induction =>
      exact List.forall_mem_cons.mpr ⟨nofun, induction⟩

theorem Keeps.runFrom (host : Host World) (number : Nat) {Allowed : Text → Prop}
    (keeps : Keeps host (fun code _ => Allowed code) Holds) (lines : List Text)
    (allowed : ∀ line ∈ lines, Allowed (Line.code (Text.strip line))) (machine : Machine)
    (world : World) (holds : Holds machine world) :
    Holds (runFrom host number lines machine world).2.1
      (runFrom host number lines machine world).2.2 := by
  obtain ⟨moments, outcome, after, later, ran⟩ :=
    hasCourse host (.sequence number lines) machine world
  have kept := ran.keeps keeps (fun moment member => (ran.code_mem moment member).mono ?_) holds
  · have result := ran.execute_eq
    simp only [Task.execute, asLine] at result
    generalize Program.runFrom host number lines machine world = ended at result
    obtain ⟨ending, between, spent⟩ := ended
    cases result
    exact kept.1
  · intro code _ member
    obtain ⟨line, present, rfl⟩ := List.mem_map.mp member
    exact allowed line present

end Invariants

/-! ## What a run does to the world -/

section Worlds

variable [Evaluator] {host : Host World} {Holds : World → Prop} (keeps : host.Keeps Holds)

include keeps

theorem keeps_world : Keeps host (fun _ _ => True) fun _ world => Holds world where
  line _ holds := keeps.execute holds _ _
  test holds := keeps.warn _ holds
  toggle holds := holds
  enter holds := holds
  leave holds := holds
  report holds := keeps.complain (keeps.complain holds)

theorem Ran.world_keeps {task : Task} {machine after : Machine} {world later : World}
    {moments : List (Moment World)} {outcome : Outcome}
    (ran : Ran host task machine world moments outcome after later) (holds : Holds world) :
    Holds later :=
  (ran.keeps (keeps_world keeps) (fun _ _ _ _ => trivial) holds).1

theorem world_run (source : Text) (machine : Machine) {world : World} (holds : Holds world) :
    Holds (run host source machine world).2.2 :=
  (keeps_world keeps).runFrom host 1 (Text.lines source) (fun _ _ => trivial) machine world holds

end Worlds

end Linewise.Program
