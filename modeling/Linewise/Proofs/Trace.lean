import Linewise.Proofs.Course

/-!
Traces of runs. `Traced` follows a run along lines that know their place in the program, and
concludes with the site of an error instead of its report. Every run has a trace, and a program ends
as its trace concludes, with the error reported for the number of its site.
-/

namespace Linewise.Program

variable {World : Type}

/-! ## Lines in their places -/

/-- A line, and its number in the whole program. -/
structure PlacedLine where
  text : Text
  place : Nat

namespace PlacedLine

def stripped (line : PlacedLine) : PlacedLine := { line with text := Text.strip line.text }

def texts (lines : List PlacedLine) : List Text := lines.map text

theorem length_texts (lines : List PlacedLine) : (texts lines).length = lines.length :=
  List.length_map ..

def asBlock (lines : List PlacedLine) : List PlacedLine :=
  (lines.map stripped).filter fun line => !line.text.isEmpty

theorem texts_asBlock (lines : List PlacedLine) :
    texts (asBlock lines) = Block.inner (texts lines) := by
  rw [texts, asBlock, Block.inner, texts, List.map_map, List.filter_map, List.filter_map,
    List.map_map]
  rfl

def ofSource (source : Text) : List PlacedLine :=
  ((Text.lines source).zipIdx 1).map fun (text, place) => ⟨text, place⟩

theorem texts_ofSource (source : Text) : texts (ofSource source) = Text.lines source := by
  rw [texts, ofSource, List.map_map]
  exact List.zipIdx_map_fst 1 _

theorem places_ofSource (source : Text) :
    (ofSource source).map place = List.range' 1 (Text.lines source).length := by
  rw [ofSource, List.map_map]
  exact List.zipIdx_map_snd 1 _

end PlacedLine

open PlacedLine

/-- A line among those that it is run with. -/
structure Site where
  /-- How many blocks the line stands in. -/
  depth : Nat
  /-- The lines before it in the innermost of them. -/
  before : List PlacedLine
  line : PlacedLine

/-- The number that an error in the line is reported for. -/
def Site.number (site : Site) : Nat := site.before.length + 1

/-- What is run, as lines in their places. Branches and loops know their header. -/
inductive Segment
  | sequence (depth : Nat) (before lines : List PlacedLine)
  | branch (header : Site) (condition : Text) (consequence alternative : List PlacedLine)
  | loop (header : Site) (condition : Text) (body : List PlacedLine) (limit : Int)
      (remaining : Nat)

namespace Segment

def task : Segment → Task
  | sequence _ before lines => .sequence (before.length + 1) (texts lines)
  | branch _ condition consequence alternative =>
      .branch condition (texts consequence) (texts alternative)
  | loop _ condition body limit remaining => .loop condition (texts body) limit remaining

theorem task_after_line (depth : Nat) (before rest : List PlacedLine) (line : PlacedLine) :
    (sequence depth (before ++ [line]) rest).task =
      .sequence (before.length + 1 + 1) (texts rest) := by
  rw [task, List.length_append, List.length_singleton]

theorem task_after_block (depth : Nat) (before body rest : List PlacedLine)
    (line finish : PlacedLine) :
    (sequence depth (before ++ line :: (body ++ [finish])) rest).task =
      .sequence (before.length + 1 + (body.length + 2)) (texts rest) := by
  rw [task, List.length_append, List.length_cons, List.length_append, List.length_singleton]
  congr 1
  omega

theorem task_chosen (depth : Nat) (truth : Bool) (consequence alternative : List PlacedLine) :
    (sequence depth [] (if truth then consequence else alternative)).task =
      .sequence 1 (if truth then texts consequence else texts alternative) := by
  cases truth <;> rfl

def ofSource (source : Text) : Segment := .sequence 0 [] (PlacedLine.ofSource source)

theorem task_ofSource (source : Text) :
    (ofSource source).task = .sequence 1 (Text.lines source) := by
  rw [ofSource, task, texts_ofSource, List.length_nil]

/-- The lines of a block that are run if its condition holds, and the lines that are run else. -/
def parts (body : List PlacedLine) : List PlacedLine × List PlacedLine :=
  let length := (Block.cutElse 0 (texts body)).1.length
  (body.take length, body.drop (length + 1))

def ofBlock (header : Site) (command : Command) (condition : Text) (body : List PlacedLine) :
    Segment :=
  if command = .branch then
    .branch header condition (asBlock (parts body).1) (asBlock (parts body).2)
  else .loop header condition (asBlock body) iterationLimit iterationLimit

theorem texts_parts (body : List PlacedLine) :
    texts (parts body).1 = (Block.cutElse 0 (texts body)).1 ∧
      texts (parts body).2 = (Block.cutElse 0 (texts body)).2.getD [] := by
  have whole := Block.append_of_cutElse 0 (texts body)
  simp only [parts, texts, List.map_take, List.map_drop] at whole ⊢
  rcases cut : Block.cutElse 0 (body.map text) with ⟨first, _ | second⟩
  · rw [cut] at whole
    simp only [whole, List.take_length, Option.getD_none, true_and]
    exact List.drop_eq_nil_of_le (by omega)
  · rw [cut] at whole
    rcases whole with ⟨middle, whole, _⟩
    simp only [whole, List.take_left, Option.getD_some, true_and]
    rw [← List.drop_drop, List.drop_left, List.drop_one, List.tail_cons]

theorem task_ofBlock (header : Site) (command : Command) (condition : Text)
    (body : List PlacedLine) :
    (ofBlock header command condition body).task = .ofBlock command condition (texts body) := by
  rcases texts_parts body with ⟨first, second⟩
  rw [ofBlock, Task.ofBlock]
  split
  · rw [task, texts_asBlock, texts_asBlock, first, second]
  · rw [task, texts_asBlock]

end Segment

/-! ## Traces -/

/-- How a run ended, when no error has been reported yet. -/
inductive Conclusion
  | done
  | exited (code : Nat)
  | raised (site : Site) (error : Error)

def Conclusion.ofLine (site : Site) : Outcome → Conclusion
  | .done => .done
  | .failed error => .raised site error
  | .exited code => .exited code

/-- The segment was run from this machine and world to this conclusion. -/
inductive Traced [Evaluator] (host : Host World) :
    Segment → Machine → World → Conclusion → Machine → World → Prop
  | finished {depth : Nat} {before : List PlacedLine} {machine : Machine} {world : World} :
      Traced host (.sequence depth before []) machine world .done machine world
  | skipped {depth : Nat} {before rest : List PlacedLine} {line : PlacedLine}
      {machine given after : Machine} {world later : World} {conclusion : Conclusion}
      (read : reading line.text (texts rest) machine = .skipped given)
      (next : Traced host (.sequence depth (before ++ [line]) rest) given world conclusion after
        later) :
      Traced host (.sequence depth before (line :: rest)) machine world conclusion after later
  | refused {depth : Nat} {before rest : List PlacedLine} {line : PlacedLine} {machine : Machine}
      {world : World} {error : Error}
      (read : reading line.text (texts rest) machine = .refused error) :
      Traced host (.sequence depth before (line :: rest)) machine world
        (.raised ⟨depth, before, line⟩ error) machine world
  | line {depth : Nat} {before rest : List PlacedLine} {line : PlacedLine} {code : Text}
      {machine between after : Machine} {world spent later : World} {conclusion : Conclusion}
      (read : reading line.text (texts rest) machine = .simple code)
      (executed : Line.execute host code machine world = (.done, between, spent))
      (next : Traced host (.sequence depth (before ++ [line]) rest) between spent conclusion after
        later) :
      Traced host (.sequence depth before (line :: rest)) machine world conclusion after later
  | lineEnded {depth : Nat} {before rest : List PlacedLine} {line : PlacedLine} {code : Text}
      {machine after : Machine} {world later : World} {outcome : Outcome}
      (read : reading line.text (texts rest) machine = .simple code)
      (executed : Line.execute host code machine world = (outcome, after, later))
      (ended : outcome ≠ .done) :
      Traced host (.sequence depth before (line :: rest)) machine world
        (.ofLine ⟨depth, before, line⟩ outcome) after later
  | block {depth : Nat} {before body rest : List PlacedLine} {line finish : PlacedLine}
      {command : Command} {condition : Text} {machine between after : Machine}
      {world spent later : World} {conclusion : Conclusion}
      (read : reading line.text (texts (body ++ finish :: rest)) machine =
        .block (.ofBlock command condition (texts body)) (body.length + 2) (texts rest))
      (inside : Traced host (.ofBlock ⟨depth, before, line⟩ command condition body) machine world
        .done between spent)
      (next : Traced host (.sequence depth (before ++ line :: (body ++ [finish])) rest) between
        spent conclusion after later) :
      Traced host (.sequence depth before (line :: (body ++ finish :: rest))) machine world
        conclusion after later
  | blockEnded {depth : Nat} {before body rest : List PlacedLine} {line finish : PlacedLine}
      {command : Command} {condition : Text} {machine after : Machine} {world later : World}
      {conclusion : Conclusion}
      (read : reading line.text (texts (body ++ finish :: rest)) machine =
        .block (.ofBlock command condition (texts body)) (body.length + 2) (texts rest))
      (inside : Traced host (.ofBlock ⟨depth, before, line⟩ command condition body) machine world
        conclusion after later)
      (ended : conclusion ≠ .done) :
      Traced host (.sequence depth before (line :: (body ++ finish :: rest))) machine world
        conclusion after later
  | undecided {header : Site} {condition : Text} {consequence alternative : List PlacedLine}
      {machine : Machine} {world : World} {error : Error}
      (tested : Condition.holds machine.bindings condition = .error error) :
      Traced host (.branch header condition consequence alternative) machine world
        (.raised header error) (machineAfter condition machine)
        (worldAfter host condition machine world)
  | chosen {header : Site} {condition : Text} {consequence alternative : List PlacedLine}
      {machine after : Machine} {world later : World} {truth : Bool}
      (tested : Condition.holds machine.bindings condition = .ok truth)
      (inside : Traced host
        (.sequence (header.depth + 1) [] (if truth then consequence else alternative))
        (machineAfter condition machine).enter (worldAfter host condition machine world) .done after
        later) :
      Traced host (.branch header condition consequence alternative) machine world .done
        after.leave later
  | chosenEnded {header : Site} {condition : Text} {consequence alternative : List PlacedLine}
      {machine after : Machine} {world later : World} {truth : Bool} {conclusion : Conclusion}
      (tested : Condition.holds machine.bindings condition = .ok truth)
      (inside : Traced host
        (.sequence (header.depth + 1) [] (if truth then consequence else alternative))
        (machineAfter condition machine).enter (worldAfter host condition machine world) conclusion
        after later)
      (ended : conclusion ≠ .done) :
      Traced host (.branch header condition consequence alternative) machine world conclusion after
        later
  | loopUndecided {header : Site} {condition : Text} {body : List PlacedLine} {limit : Int}
      {remaining : Nat} {machine : Machine} {world : World} {error : Error}
      (tested : Condition.holds machine.bindings condition = .error error) :
      Traced host (.loop header condition body limit remaining) machine world
        (.raised header error) (machineAfter condition machine)
        (worldAfter host condition machine world)
  | loopDone {header : Site} {condition : Text} {body : List PlacedLine} {limit : Int}
      {remaining : Nat} {machine : Machine} {world : World}
      (tested : Condition.holds machine.bindings condition = .ok false) :
      Traced host (.loop header condition body limit remaining) machine world .done
        (machineAfter condition machine) (worldAfter host condition machine world)
  | loopLimited {header : Site} {condition : Text} {body : List PlacedLine} {limit : Int}
      {machine : Machine} {world : World}
      (tested : Condition.holds machine.bindings condition = .ok true) :
      Traced host (.loop header condition body limit 0) machine world
        (.raised header (.loopLimit limit)) (machineAfter condition machine)
        (worldAfter host condition machine world)
  | round {header : Site} {condition : Text} {body : List PlacedLine} {limit : Int}
      {remaining : Nat} {machine between after : Machine} {world spent later : World}
      {conclusion : Conclusion}
      (tested : Condition.holds machine.bindings condition = .ok true)
      (inside : Traced host (.sequence (header.depth + 1) [] body)
        (machineAfter condition machine).enter (worldAfter host condition machine world) .done
        between spent)
      (next : Traced host (.loop header condition body limit remaining) between.leave spent
        conclusion after later) :
      Traced host (.loop header condition body limit (remaining + 1)) machine world conclusion after
        later
  | roundEnded {header : Site} {condition : Text} {body : List PlacedLine} {limit : Int}
      {remaining : Nat} {machine after : Machine} {world later : World} {conclusion : Conclusion}
      (tested : Condition.holds machine.bindings condition = .ok true)
      (inside : Traced host (.sequence (header.depth + 1) [] body)
        (machineAfter condition machine).enter (worldAfter host condition machine world) conclusion
        after later)
      (ended : conclusion ≠ .done) :
      Traced host (.loop header condition body limit (remaining + 1)) machine world conclusion after
        later

/-! ## Traces and courses -/

def Conclusion.reported (host : Host World) : Conclusion → World → Outcome × World
  | done, world => (.done, world)
  | exited code, world => (.exited code, world)
  | raised site error, world => concluded host site.number (.failed error) world

/-- The end of a run and its conclusion are the same, once the error is reported. A branch or loop
leaves an error of its own condition to its header. -/
def Segment.Settles (host : Host World) (segment : Segment) (ended : Outcome × World)
    (conclusion : Conclusion) (world : World) : Prop :=
  match segment with
  | .sequence .. => ended = conclusion.reported host world
  | .branch header .. | .loop header .. =>
      concluded host header.number ended.1 ended.2 = conclusion.reported host world

section Courses

variable {host : Host World}

theorem concluded_ofLine (site : Site) (outcome : Outcome) (world : World) :
    concluded host site.number outcome world =
      (Conclusion.ofLine site outcome).reported host world := by
  cases outcome with
  | done | exited code => rfl
  | failed error => rfl

theorem concluded_reported (number : Nat) (conclusion : Conclusion) (world : World) :
    concluded host number (conclusion.reported host world).1 (conclusion.reported host world).2 =
      conclusion.reported host world := by
  cases conclusion with
  | done | exited code => rfl
  | raised site error => cases error <;> rfl

theorem concluded_eq_done_iff {number : Nat} {outcome : Outcome} {world : World} :
    (concluded host number outcome world).1 = .done ↔ outcome = .done := by
  constructor
  · intro done
    by_contra ended
    exact concluded_ne_done ended world done
  · rintro rfl
    rfl

theorem reported_eq_done_iff {conclusion : Conclusion} {world : World} :
    (conclusion.reported host world).1 = .done ↔ conclusion = .done := by
  cases conclusion with
  | done => exact ⟨fun _ => rfl, fun _ => rfl⟩
  | exited code => exact ⟨nofun, nofun⟩
  | raised site error =>
      have ended : (concluded host site.number (.failed error) world).1 ≠ .done :=
        concluded_ne_done (by simp) world
      exact ⟨fun done => absurd done ended, nofun⟩

namespace Segment.Settles

variable {segment : Segment} {ended : Outcome × World} {conclusion : Conclusion} {world : World}

theorem done_iff (settles : segment.Settles host ended conclusion world) :
    ended.1 = .done ↔ conclusion = .done := by
  have last : (conclusion.reported host world).1 = .done ↔ conclusion = .done :=
    reported_eq_done_iff
  cases segment with
  | sequence =>
      rw [← show ended = _ from settles] at last
      exact last
  | branch header | loop header =>
      rw [← show concluded host header.number ended.1 ended.2 = _ from settles,
        concluded_eq_done_iff] at last
      exact last

theorem ofBlock {header : Site} {command : Command} {condition : Text} {body : List PlacedLine} :
    (Segment.ofBlock header command condition body).Settles host ended conclusion world ↔
      concluded host header.number ended.1 ended.2 = conclusion.reported host world := by
  rw [Segment.ofBlock]
  split
  · rfl
  · rfl

theorem eq_of_done {later : World}
    (settles : segment.Settles host (.done, later) conclusion world) :
    conclusion = .done ∧ later = world := by
  cases settles.done_iff.mp rfl
  cases segment with
  | sequence | branch | loop =>
      cases settles
      exact ⟨rfl, rfl⟩

theorem eq_done (settles : segment.Settles host ended .done world) : ended = (.done, world) := by
  rcases ended with ⟨outcome, later⟩
  cases settles.done_iff.mpr rfl
  rw [settles.eq_of_done.2]

theorem ne_done {outcome : Outcome} {later : World}
    (settles : segment.Settles host (outcome, later) conclusion world) (ended : outcome ≠ .done) :
    conclusion ≠ .done :=
  mt settles.done_iff.mpr ended

theorem ended_ne_done (settles : segment.Settles host ended conclusion world)
    (notDone : conclusion ≠ .done) : ended.1 ≠ .done :=
  mt settles.done_iff.mp notDone

theorem enclosed {depth : Nat} {before lines : List PlacedLine}
    (settles : (Segment.sequence depth before lines).Settles host ended conclusion world)
    (number : Nat) :
    concluded host number ended.1 ended.2 = conclusion.reported host world := by
  rw [show ended = _ from settles]
  exact concluded_reported number conclusion world

theorem of_done : segment.Settles host (.done, world) .done world := by
  cases segment with
  | sequence | branch | loop => rfl

end Segment.Settles

/-! ### From courses to traces -/

theorem exists_of_reading_eq_block {line : Text} {lines : List PlacedLine} {remaining : List Text}
    {machine : Machine} {task : Task} {length : Nat}
    (read : reading line (texts lines) machine = .block task length remaining) :
    ∃ command condition body finish rest, lines = body ++ finish :: rest ∧
      task = .ofBlock command condition (texts body) ∧ length = body.length + 2 ∧
      remaining = texts rest := by
  rcases reading_eq_block read with ⟨command, condition, body, found, rfl, rfl⟩
  rcases Block.append_of_cutEnd? found with ⟨finish, whole, _⟩
  rcases List.map_eq_append_iff.mp whole with ⟨placed, others, rfl, rfl, ended⟩
  rcases List.map_eq_cons_iff.mp ended with ⟨last, rest, rfl, _, rfl⟩
  exact ⟨command, condition, placed, last, rest, rfl, rfl, by rw [List.length_map], rfl⟩

namespace Segment

variable {segment : Segment}

theorem eq_sequence_of_task {number : Nat} {lines : List Text}
    (same : segment.task = .sequence number lines) :
    ∃ depth before placed, segment = .sequence depth before placed ∧ number = before.length + 1 ∧
      lines = texts placed := by
  cases segment with
  | sequence depth before placed =>
      cases same
      exact ⟨depth, before, placed, rfl, rfl, rfl⟩
  | branch | loop => cases same

theorem eq_sequence_cons_of_task {number : Nat} {line : Text} {rest : List Text}
    (same : segment.task = .sequence number (line :: rest)) :
    ∃ depth before placed others, segment = .sequence depth before (placed :: others) ∧
      number = before.length + 1 ∧ line = placed.text ∧ rest = texts others := by
  rcases eq_sequence_of_task same with ⟨depth, before, lines, rfl, rfl, whole⟩
  rcases List.map_eq_cons_iff.mp whole.symm with ⟨placed, others, rfl, rfl, rfl⟩
  exact ⟨depth, before, placed, others, rfl, rfl, rfl, rfl⟩

theorem eq_branch_of_task {condition : Text} {consequence alternative : List Text}
    (same : segment.task = .branch condition consequence alternative) :
    ∃ header first second, segment = .branch header condition first second ∧
      consequence = texts first ∧ alternative = texts second := by
  cases segment with
  | branch header condition first second =>
      cases same
      exact ⟨header, first, second, rfl, rfl, rfl⟩
  | sequence | loop => cases same

theorem eq_loop_of_task {condition : Text} {body : List Text} {limit : Int} {remaining : Nat}
    (same : segment.task = .loop condition body limit remaining) :
    ∃ header lines, segment = .loop header condition lines limit remaining ∧
      body = texts lines := by
  cases segment with
  | loop header condition lines limit remaining =>
      cases same
      exact ⟨header, lines, rfl, rfl⟩
  | sequence | branch => cases same

end Segment

/-- Every course of lines in their places is the course of a trace. -/
theorem Ran.traced [Evaluator] {task : Task} {machine after : Machine} {world later : World}
    {moments : List (Moment World)} {outcome : Outcome}
    (ran : Ran host task machine world moments outcome after later) (segment : Segment)
    (same : segment.task = task) :
    ∃ conclusion spent, Traced host segment machine world conclusion after spent ∧
      segment.Settles host (outcome, later) conclusion spent := by
  induction ran generalizing segment with
  | finished =>
      rcases Segment.eq_sequence_of_task same with ⟨depth, before, lines, rfl, rfl, whole⟩
      cases List.map_eq_nil_iff.mp whole.symm
      exact ⟨_, _, .finished, .of_done⟩
  | skipped read next induction =>
      rcases Segment.eq_sequence_cons_of_task same with
        ⟨depth, before, line, rest, rfl, rfl, rfl, rfl⟩
      rcases induction _ (Segment.task_after_line depth before rest line) with
        ⟨conclusion, spent, traced, settles⟩
      exact ⟨conclusion, spent, .skipped read traced, settles⟩
  | refused read =>
      rcases Segment.eq_sequence_cons_of_task same with
        ⟨depth, before, line, rest, rfl, rfl, rfl, rfl⟩
      exact ⟨_, _, .refused read, rfl⟩
  | line read executed next induction =>
      rcases Segment.eq_sequence_cons_of_task same with
        ⟨depth, before, line, rest, rfl, rfl, rfl, rfl⟩
      rcases induction _ (Segment.task_after_line depth before rest line) with
        ⟨conclusion, spent, traced, settles⟩
      exact ⟨conclusion, spent, .line read executed traced, settles⟩
  | lineEnded read executed ended =>
      rcases Segment.eq_sequence_cons_of_task same with
        ⟨depth, before, line, rest, rfl, rfl, rfl, rfl⟩
      exact ⟨_, _, .lineEnded read executed ended, concluded_ofLine ⟨depth, before, line⟩ _ _⟩
  | block read inside next insideInduction induction =>
      rcases Segment.eq_sequence_cons_of_task same with
        ⟨depth, before, line, lines, rfl, rfl, rfl, rfl⟩
      rcases exists_of_reading_eq_block read with
        ⟨command, condition, body, finish, rest, rfl, rfl, rfl, rfl⟩
      rcases insideInduction _ (Segment.task_ofBlock ⟨depth, before, line⟩ command condition body)
        with ⟨_, _, entered, settled⟩
      rcases settled.eq_of_done with ⟨rfl, rfl⟩
      rcases induction _ (Segment.task_after_block depth before body rest line finish) with
        ⟨conclusion, spent, traced, settles⟩
      exact ⟨conclusion, spent, .block read entered traced, settles⟩
  | blockEnded read inside ended induction =>
      rcases Segment.eq_sequence_cons_of_task same with
        ⟨depth, before, line, lines, rfl, rfl, rfl, rfl⟩
      rcases exists_of_reading_eq_block read with
        ⟨command, condition, body, finish, rest, rfl, rfl, rfl, rfl⟩
      rcases induction _ (Segment.task_ofBlock ⟨depth, before, line⟩ command condition body) with
        ⟨conclusion, spent, entered, settles⟩
      exact ⟨conclusion, spent, .blockEnded read entered (settles.ne_done ended),
        Segment.Settles.ofBlock.mp settles⟩
  | undecided tested =>
      rcases Segment.eq_branch_of_task same with ⟨header, first, second, rfl, rfl, rfl⟩
      exact ⟨_, _, .undecided tested, rfl⟩
  | chosen tested inside induction =>
      rcases Segment.eq_branch_of_task same with ⟨header, first, second, rfl, rfl, rfl⟩
      rcases induction _ (Segment.task_chosen (header.depth + 1) _ first second) with
        ⟨_, _, entered, settled⟩
      rcases settled.eq_of_done with ⟨rfl, rfl⟩
      exact ⟨_, _, .chosen tested entered, .of_done⟩
  | chosenEnded tested inside ended induction =>
      rcases Segment.eq_branch_of_task same with ⟨header, first, second, rfl, rfl, rfl⟩
      rcases induction _ (Segment.task_chosen (header.depth + 1) _ first second) with
        ⟨conclusion, spent, entered, settles⟩
      exact ⟨conclusion, spent, .chosenEnded tested entered (settles.ne_done ended),
        settles.enclosed header.number⟩
  | loopUndecided tested =>
      rcases Segment.eq_loop_of_task same with ⟨header, lines, rfl, rfl⟩
      exact ⟨_, _, .loopUndecided tested, rfl⟩
  | loopDone tested =>
      rcases Segment.eq_loop_of_task same with ⟨header, lines, rfl, rfl⟩
      exact ⟨_, _, .loopDone tested, .of_done⟩
  | loopLimited tested =>
      rcases Segment.eq_loop_of_task same with ⟨header, lines, rfl, rfl⟩
      exact ⟨_, _, .loopLimited tested, rfl⟩
  | round tested inside next insideInduction induction =>
      rcases Segment.eq_loop_of_task same with ⟨header, lines, rfl, rfl⟩
      rcases insideInduction (.sequence (header.depth + 1) [] lines) rfl with
        ⟨_, _, entered, settled⟩
      rcases settled.eq_of_done with ⟨rfl, rfl⟩
      rcases induction (.loop header _ lines _ _) rfl with ⟨conclusion, spent, traced, settles⟩
      exact ⟨conclusion, spent, .round tested entered traced, settles⟩
  | roundEnded tested inside ended induction =>
      rcases Segment.eq_loop_of_task same with ⟨header, lines, rfl, rfl⟩
      rcases induction (.sequence (header.depth + 1) [] lines) rfl with
        ⟨conclusion, spent, entered, settles⟩
      exact ⟨conclusion, spent, .roundEnded tested entered (settles.ne_done ended),
        settles.enclosed header.number⟩

/-! ### From traces to courses -/

/-- What is traced is run, and the error of its conclusion is reported for the site. -/
theorem Traced.ran [Evaluator] {segment : Segment} {machine after : Machine} {world spent : World}
    {conclusion : Conclusion} (traced : Traced host segment machine world conclusion after spent) :
    ∃ moments outcome later, Ran host segment.task machine world moments outcome after later ∧
      segment.Settles host (outcome, later) conclusion spent := by
  induction traced with
  | finished => exact ⟨_, _, _, .finished, .of_done⟩
  | skipped read next induction =>
      rw [Segment.task_after_line] at induction
      rcases induction with ⟨moments, outcome, later, ran, settles⟩
      exact ⟨_, _, _, .skipped read ran, settles⟩
  | refused read => exact ⟨_, _, _, .refused read, rfl⟩
  | line read executed next induction =>
      rw [Segment.task_after_line] at induction
      rcases induction with ⟨moments, outcome, later, ran, settles⟩
      exact ⟨_, _, _, .line read executed ran, settles⟩
  | lineEnded read executed ended =>
      exact ⟨_, _, _, .lineEnded read executed ended, concluded_ofLine ⟨_, _, _⟩ _ _⟩
  | block read inside next insideInduction induction =>
      rw [Segment.task_ofBlock] at insideInduction
      rw [Segment.task_after_block] at induction
      rcases insideInduction with ⟨_, _, _, entered, settled⟩
      rcases induction with ⟨moments, outcome, later, ran, settles⟩
      cases settled.eq_done
      exact ⟨_, _, _, .block read entered ran, settles⟩
  | blockEnded read inside ended induction =>
      rw [Segment.task_ofBlock] at induction
      rcases induction with ⟨moments, outcome, later, ran, settles⟩
      exact ⟨_, _, _, .blockEnded read ran (settles.ended_ne_done ended),
        Segment.Settles.ofBlock.mp settles⟩
  | undecided tested => exact ⟨_, _, _, .undecided tested, rfl⟩
  | chosen tested inside induction =>
      rw [Segment.task_chosen] at induction
      rcases induction with ⟨_, _, _, entered, settled⟩
      cases settled.eq_done
      exact ⟨_, _, _, .chosen tested entered, .of_done⟩
  | chosenEnded tested inside ended induction =>
      rw [Segment.task_chosen] at induction
      rcases induction with ⟨moments, outcome, later, entered, settles⟩
      exact ⟨_, _, _, .chosenEnded tested entered (settles.ended_ne_done ended),
        settles.enclosed _⟩
  | loopUndecided tested => exact ⟨_, _, _, .loopUndecided tested, rfl⟩
  | loopDone tested => exact ⟨_, _, _, .loopDone tested, .of_done⟩
  | loopLimited tested => exact ⟨_, _, _, .loopLimited tested, rfl⟩
  | round tested inside next insideInduction induction =>
      rcases insideInduction with ⟨_, _, _, entered, settled⟩
      rcases induction with ⟨moments, outcome, later, ran, settles⟩
      cases settled.eq_done
      exact ⟨_, _, _, .round tested entered ran, settles⟩
  | roundEnded tested inside ended induction =>
      rcases induction with ⟨moments, outcome, later, entered, settles⟩
      exact ⟨_, _, _, .roundEnded tested entered (settles.ended_ne_done ended), settles.enclosed _⟩

/-! ## Traces of programs -/

def Conclusion.result (host : Host World) :
    Conclusion → Machine → World → Ending × Machine × World
  | done, machine, world => (.returned, machine, world)
  | exited code, machine, world => (.exited code, machine, world)
  | raised site error, machine, world => fail host (some site.number) error machine world

variable {source : Text} {machine after : Machine} {world spent : World} {conclusion : Conclusion}

theorem exists_traced [Evaluator] (host : Host World) (source : Text) (machine : Machine)
    (world : World) :
    ∃ conclusion after spent,
      Traced host (.ofSource source) machine world conclusion after spent := by
  rcases hasCourse host (.sequence 1 (Text.lines source)) machine world with
    ⟨moments, outcome, after, later, ran⟩
  rcases ran.traced (.ofSource source) (Segment.task_ofSource source) with
    ⟨conclusion, spent, traced, _⟩
  exact ⟨conclusion, after, spent, traced⟩

theorem fail_eq {error : Error} (finished : error ≠ .unfinished) (number : Option Nat) :
    fail host number error machine world =
      (.exited 1, machine, host.report (reportText number error) world) := by
  cases error with
  | unfinished => exact absurd rfl finished
  | _ => rfl

theorem Traced.run_eq [Evaluator]
    (traced : Traced host (.ofSource source) machine world conclusion after spent) :
    run host source machine world = conclusion.result host after.outermost spent := by
  rcases traced.ran with ⟨moments, outcome, later, ran, settles⟩
  rw [Segment.task_ofSource] at ran
  have left := ran.run_eq
  generalize run host source machine world = result at left ⊢
  rcases result with ⟨ending, _, _⟩
  rcases left with ⟨rfl, ⟨⟩⟩
  have ended : (Outcome.ofEnding ending, later) = conclusion.reported host spent := settles
  rcases conclusion with _ | code | ⟨site, error⟩
  · cases ending <;> cases ended
    rfl
  · cases ending <;> cases ended
    rfl
  · cases error <;> cases ending <;> cases ended <;> rfl

/-- What every line and every test keeps of the world is kept up to the conclusion. -/
theorem Traced.keeps [Evaluator] (Holds : World → Prop)
    (line : ∀ code machine world, Holds world → Holds (Line.execute host code machine world).2.2)
    (test : ∀ condition machine world,
      Holds world → Holds (worldAfter host condition machine world))
    {segment : Segment} (traced : Traced host segment machine world conclusion after spent)
    (holds : Holds world) : Holds spent := by
  have executed : ∀ {code machine world outcome after later},
      Line.execute host code machine world = (outcome, after, later) → Holds world →
        Holds later := by
    intro code machine world outcome after later executed holds
    have kept := line code machine world holds
    rw [executed] at kept
    exact kept
  induction traced with
  | finished | refused => exact holds
  | undecided | loopUndecided | loopDone | loopLimited => exact test _ _ _ holds
  | skipped _ _ induction | blockEnded _ _ _ induction => exact induction holds
  | chosen _ _ induction | chosenEnded _ _ _ induction | roundEnded _ _ _ induction =>
      exact induction (test _ _ _ holds)
  | line _ ran _ induction => exact induction (executed ran holds)
  | lineEnded _ ran => exact executed ran holds
  | block _ _ _ first second => exact second (first holds)
  | round _ _ _ first second => exact second (first (test _ _ _ holds))

end Courses

end Linewise.Program
