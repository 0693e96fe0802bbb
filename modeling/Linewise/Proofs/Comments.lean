import Linewise.Proofs.Clearing
import Linewise.Proofs.Report

/-!
Programs without their comments. A trace of lines becomes a trace of the cleared lines, as long as
blocks are found at the same places in both. All that is left of the comments is the number in the
report of an error inside a block, where lines with nothing but a comment are counted.
-/

namespace Linewise.Program

open PlacedLine

variable {World : Type}

/-! ## Readings of lines in their places -/

theorem present_of_reading {line : Text} {rest : List Text} {machine : Machine} {inside : Bool}
    {result : Reading} (state : machine.current.inComment = inside)
    (read : reading line rest machine = result) (carried : ∀ given, result ≠ .skipped given) :
    Text.strip (clearedLine inside line) ≠ [] ∧ inside = false ∧
      readingOf (Text.strip (clearedLine inside line)) rest = result := by
  rw [reading_eq, state] at read
  split at read
  · exact absurd read.symm (carried _)
  · next present => exact ⟨present, (outside_of_present present).1, read⟩

theorem skipped_of_reading {line : Text} {rest : List Text} {machine given : Machine}
    {inside : Bool} (state : machine.current.inComment = inside)
    (read : reading line rest machine = .skipped given) :
    Text.strip (clearedLine inside line) = [] ∧
      given = machine.withComment (commentAfter inside line) := by
  rw [reading_eq, state] at read
  split at read
  · next empty =>
      cases read
      exact ⟨empty, rfl⟩
  · exact absurd read (readingOf_ne_skipped _ _ _)

section Cleared

variable (depth : Nat) (before : List PlacedLine) (line : PlacedLine)

theorem strip_clearedAfter :
    Text.strip (clearedAfter depth before line).text =
      Text.strip (clearedLine (commentAfterAll false before) line.text) :=
  strip_settledLine depth _

theorem notMem_clearedAfter : '#' ∉ (clearedAfter depth before line).text := by
  have absent := notMem_clearedLine (commentAfterAll false before) line.text
  rw [clearedAfter, settledLine]
  split
  · exact absent
  · exact fun member => absent (Text.mem_of_mem_strip member)

theorem reading_clearedAfter {machine : Machine} (outside : machine.current.inComment = false)
    (rest : List Text) :
    reading (clearedAfter depth before line).text rest machine =
      if Text.strip (clearedLine (commentAfterAll false before) line.text) = [] then
        .skipped machine
      else readingOf (Text.strip (clearedLine (commentAfterAll false before) line.text)) rest := by
  rw [reading_of_clear (notMem_clearedAfter depth before line) outside, strip_clearedAfter]

variable {before line}

theorem commentAfterAll_append (inside : Bool) (lines others : List PlacedLine) :
    commentAfterAll inside (lines ++ others) =
      commentAfterAll (commentAfterAll inside lines) others :=
  List.foldl_append

theorem commentAfterAll_concat (inside : Bool) (lines : List PlacedLine) (line : PlacedLine) :
    commentAfterAll inside (lines ++ [line]) =
      commentAfter (commentAfterAll inside lines) line.text :=
  commentAfterAll_append inside lines [line]

theorem cleared_sequence_of_present
    (present : Text.strip (clearedLine (commentAfterAll false before) line.text) ≠ [])
    (rest : List PlacedLine) :
    (Segment.sequence depth before (line :: rest)).cleared =
      .sequence depth (settled depth (PlacedLine.cleared false before))
        (clearedAfter depth before line :: settled depth (PlacedLine.cleared false rest)) := by
  rw [Segment.cleared, PlacedLine.cleared, commentAfter_of_present present,
    settled_cons depth present]
  rfl

theorem commentAfterAll_of_present
    (present : Text.strip (clearedLine (commentAfterAll false before) line.text) ≠ [])
    {passed : List PlacedLine} (outside : commentAfterAll false passed = false) :
    commentAfterAll false (before ++ line :: passed) = false := by
  rw [commentAfterAll_append, commentAfterAll, List.foldl_cons, commentAfter_of_present present]
  exact outside

theorem cleared_after_of_present
    (present : Text.strip (clearedLine (commentAfterAll false before) line.text) ≠ [])
    (passed rest : List PlacedLine) (outside : commentAfterAll false passed = false) :
    (Segment.sequence depth (before ++ line :: passed) rest).cleared =
      .sequence depth
        (settled depth (PlacedLine.cleared false before) ++
          clearedAfter depth before line :: settled depth (PlacedLine.cleared false passed))
        (settled depth (PlacedLine.cleared false rest)) := by
  rw [Segment.cleared, commentAfterAll_of_present present outside, cleared_append, settled_append,
    PlacedLine.cleared, commentAfter_of_present present, settled_cons depth present]
  rfl

/-- Nothing is left of a line with nothing but a comment, except outside all blocks a blank line. -/
theorem cleared_after_of_blank
    (blank : Text.strip (clearedLine (commentAfterAll false before) line.text) = [])
    (rest : List PlacedLine) :
    (Segment.sequence depth (before ++ [line]) rest).cleared =
        (Segment.sequence depth before (line :: rest)).cleared ∨
      ∃ others, (Segment.sequence depth before (line :: rest)).cleared =
          .sequence depth (settled depth (PlacedLine.cleared false before))
            (clearedAfter depth before line :: others) ∧
        (Segment.sequence depth (before ++ [line]) rest).cleared =
          .sequence depth
            (settled depth (PlacedLine.cleared false before) ++ [clearedAfter depth before line])
            others := by
  by_cases outermost : depth = 0
  · subst outermost
    refine .inr ⟨_, rfl, ?_⟩
    rw [Segment.cleared, commentAfterAll_concat, cleared_append]
    rfl
  · left
    have none : asBlock [⟨clearedLine (commentAfterAll false before) line.text, line.place⟩] = [] :=
      asBlock_cons_blank blank []
    rw [Segment.cleared, Segment.cleared, commentAfterAll_concat, cleared_append]
    simp only [settled, if_neg outermost]
    rw [asBlock_append, PlacedLine.cleared, PlacedLine.cleared, none, List.append_nil,
      PlacedLine.cleared, asBlock_cons_blank blank]

end Cleared

theorem SameBlocks.of_blank {inside : Bool} {line : Text} {rest : List Text}
    (same : SameBlocks inside (line :: rest)) (blank : Text.strip (clearedLine inside line) = []) :
    SameBlocks (commentAfter inside line) rest := by
  have plain : headerOf? [] = none := by decide
  cases same with
  | line _ next => exact next
  | unended opened | block opened =>
      rw [blank, plain] at opened
      cases opened

theorem readingOf_cleared_refused {inside : Bool} {line : Text} {rest : List PlacedLine}
    {error : Error} (same : SameBlocks inside (line :: texts rest)) (depth : Nat)
    (read : readingOf (Text.strip (clearedLine inside line)) (texts rest) = .refused error) :
    readingOf (Text.strip (clearedLine inside line))
      (texts (settled depth (PlacedLine.cleared false rest))) = .refused error := by
  cases same with
  | line plain next => rw [readingOf_of_none plain _ (texts rest), read]
  | unended opened missing still =>
      rw [← texts_cleared] at still
      have absent := cutEnd?_settled depth none still
      rw [readingOf_of_some opened, missing] at read
      rw [readingOf_of_some opened, absent]
      exact read
  | block opened found =>
      rw [readingOf_of_some opened, found] at read
      cases read

theorem readingOf_cleared_simple {inside : Bool} {line code : Text} {rest : List PlacedLine}
    (same : SameBlocks inside (line :: texts rest)) (depth : Nat)
    (read : readingOf (Text.strip (clearedLine inside line)) (texts rest) = .simple code) :
    readingOf (Text.strip (clearedLine inside line))
        (texts (settled depth (PlacedLine.cleared false rest))) = .simple code ∧
      SameBlocks (commentAfter inside line) (texts rest) := by
  cases same with
  | line plain next => exact ⟨by rw [readingOf_of_none plain _ (texts rest), read], next⟩
  | unended opened missing =>
      rw [readingOf_of_some opened, missing] at read
      cases read
  | block opened found =>
      rw [readingOf_of_some opened, found] at read
      cases read

theorem Task.ofBlock_congr {command other : Command} {condition another : Text} {body : List Text}
    (same : Task.ofBlock command condition body = .ofBlock other another body) :
    (command = .branch ↔ other = .branch) ∧
      ∀ lines, Task.ofBlock command condition lines = .ofBlock other another lines := by
  by_cases first : command = .branch <;> by_cases second : other = .branch <;>
    simp_all [Task.ofBlock]

/-- What is known of a block without its comments: its header is read with it, and the lines of the
block and those after it are cleared apart from each other. -/
structure ClearedBlock (header : Site) (command : Command) (condition : Text)
    (body rest : List PlacedLine) (finish last : PlacedLine) : Prop where
  lines : settled header.depth (PlacedLine.cleared false (body ++ finish :: rest)) =
    settled header.depth (PlacedLine.cleared false body) ++
      last :: settled header.depth (PlacedLine.cleared false rest)
  passed : settled header.depth (PlacedLine.cleared false (body ++ [finish])) =
    settled header.depth (PlacedLine.cleared false body) ++ [last]
  outside : commentAfterAll false (body ++ [finish]) = false
  read {machine : Machine} (outside : machine.current.inComment = false) :
    reading header.cleared.line.text
        (texts (settled header.depth (PlacedLine.cleared false body) ++
          last :: settled header.depth (PlacedLine.cleared false rest))) machine =
      .block
        (.ofBlock command condition
          (texts (settled header.depth (PlacedLine.cleared false body))))
        ((settled header.depth (PlacedLine.cleared false body)).length + 2)
        (texts (settled header.depth (PlacedLine.cleared false rest)))
  inside : (Segment.ofBlock header command condition body).cleared =
    .ofBlock header.cleared command condition
      (settled header.depth (PlacedLine.cleared false body))
  within : (Segment.ofBlock header command condition body).SameBlocks
  next : SameBlocks false (texts rest)

theorem exists_clearedBlock {header : Site} {condition : Text} {command : Command}
    {body rest : List PlacedLine} {finish : PlacedLine}
    (same : SameBlocks (commentAfterAll false header.before)
      (header.line.text :: texts (body ++ finish :: rest)))
    (present :
      Text.strip (clearedLine (commentAfterAll false header.before) header.line.text) ≠ [])
    (read :
      readingOf (Text.strip (clearedLine (commentAfterAll false header.before) header.line.text))
          (texts (body ++ finish :: rest)) =
        .block (.ofBlock command condition (texts body)) (body.length + 2) (texts rest)) :
    ∃ last, ClearedBlock header command condition body rest finish last := by
  cases same with
  | line plain next => exact absurd read (readingOf_ne_block plain _)
  | unended opened missing =>
      rw [readingOf_of_some opened, missing] at read
      cases read
  | @block _ _ _ cutBody cutAfter clearBody clearAfter found opened cut still ended parted within
      next =>
      rw [readingOf_of_some opened, cut] at read
      rcases Reading.block.inj read with ⟨task, length, rfl⟩
      rcases Block.append_of_cutEnd? cut with ⟨middle, whole, _⟩
      have parts : texts body ++ finish.text :: texts rest = cutBody ++ middle :: texts rest := by
        rw [← whole, texts, texts, texts, List.map_append, List.map_cons]
      rcases List.append_inj parts (by rw [length_texts]; omega) with ⟨rfl, _⟩
      rcases Task.ofBlock_congr task with ⟨branching, tasks⟩
      rw [length_texts] at ended
      rcases exists_last_of_cut still ended with ⟨last, lines, passed, solid, outside, rfl, rfl⟩
      refine ⟨settledLine header.depth last, ?_, ?_, outside, ?_, ?_, ?_, next⟩
      · rw [lines, settled_append, settled_cons _ solid]
      · rw [passed, settled_append, settled_cons _ solid, settled_nil]
      · intro machine free
        have again := cutEnd?_settled header.depth
          (some (PlacedLine.cleared false body, PlacedLine.cleared false rest))
          (by rw [texts_cleared, still]; rfl)
        rw [Site.cleared, reading_clearedAfter _ _ _ free, if_neg present, readingOf_of_some opened]
        rw [lines, settled_append, settled_cons _ solid] at again
        simp only [again, Option.map_some, tasks, length_texts]
      · exact Segment.cleared_ofBlock header condition fun branch => parted (branching.mpr branch)
      · rw [task] at within
        exact Segment.sameBlocks_ofBlock header within

/-! ## Traces without comments -/

/-- What a segment leaves as it was when it is done: lines may end inside a comment, but keep the
blocks around them, and a block leaves the comments around it alone. -/
def Segment.Stays (machine after : Machine) : Segment → Prop
  | sequence .. => after.enclosing = machine.enclosing
  | branch .. | loop .. => machine.SameBlock after

theorem Segment.Stays.enclosing {segment : Segment} {machine after : Machine}
    (stays : segment.Stays machine after) : after.enclosing = machine.enclosing := by
  cases segment with
  | sequence => exact stays
  | branch | loop => exact Machine.SameBlock.enclosing stays

theorem Segment.Stays.sameBlock {header : Site} {command : Command} {condition : Text}
    {body : List PlacedLine} {machine after : Machine}
    (stays : (Segment.ofBlock header command condition body).Stays machine after) :
    machine.SameBlock after := by
  rw [Segment.ofBlock] at stays
  split at stays
  · exact stays
  · exact stays

section Traces

variable [Evaluator] {host : Host World}

theorem inComment_machineAfter (condition : Text) {machine : Machine}
    (outside : machine.current.inComment = false) :
    (machineAfter condition machine).current.inComment = false := by
  rw [machineAfter, Machine.current_revised, outside]

theorem sameBlock_of_simple (keeps : host.KeepsMachine) {line code : Text} {rest : List Text}
    {machine after : Machine} {world later : World} {outcome : Outcome}
    (read : reading line rest machine = .simple code)
    (executed : Line.execute host code machine world = (outcome, after, later)) :
    machine.SameBlock after := by
  apply (Line.execute_cases keeps executed).sameBlock
  rw [reading_eq_simple read]
  exact fun member => Text.notMem_before '#' _ (Text.mem_of_mem_strip member)

theorem Traced.stays (keeps : host.KeepsMachine) {segment : Segment} {machine after : Machine}
    {world later : World} {conclusion : Conclusion}
    (traced : Traced host segment machine world conclusion after later)
    (done : conclusion = .done) : segment.Stays machine after := by
  induction traced with
  | finished => rfl
  | skipped read next induction =>
      rcases reading_eq_skipped read with rfl | rfl
      · exact induction done
      · exact induction done
  | line read executed next induction =>
      exact (induction done).trans (sameBlock_of_simple keeps read executed).enclosing
  | @lineEnded _ _ _ _ _ _ _ _ _ outcome _ _ ended => cases outcome <;> trivial
  | block read inside next insideInduction induction =>
      exact (induction done).trans (insideInduction rfl).enclosing
  | blockEnded read inside ended => exact absurd done ended
  | chosen tested inside induction =>
      exact (Machine.SameBlock.revised _ _).trans (Machine.leave_of_enclosing (induction rfl))
  | chosenEnded tested inside ended | roundEnded tested inside ended => exact absurd done ended
  | refused | undecided | loopUndecided | loopLimited => cases done
  | loopDone => exact .revised _ _
  | round tested inside next insideInduction induction =>
      exact ((Machine.SameBlock.revised _ _).trans
        (Machine.leave_of_enclosing (insideInduction rfl))).trans (induction done)

section Steps

variable {depth : Nat} {before rest : List PlacedLine} {line : PlacedLine}
  {machine after : Machine} {world later : World} {conclusion : Conclusion}
  (state : machine.current.inComment = commentAfterAll false before)

include state

theorem Traced.cleared_skipped {given : Machine}
    (read : reading line.text (texts rest) machine = .skipped given)
    (next : Traced host (Segment.sequence depth (before ++ [line]) rest).cleared
      (given.withComment false) world conclusion after later) :
    Traced host (Segment.sequence depth before (line :: rest)).cleared (machine.withComment false)
      world conclusion after later := by
  rcases skipped_of_reading state read with ⟨blank, rfl⟩
  rcases cleared_after_of_blank depth blank rest with same | ⟨others, first, second⟩
  · rw [same] at next
    exact next
  · rw [second] at next
    rw [first]
    refine .skipped ?_ next
    rw [reading_clearedAfter _ _ _ rfl, if_pos blank]
    rfl

variable (same : SameBlocks (commentAfterAll false before) (line.text :: texts rest))

include same

theorem Traced.cleared_refused {error : Error}
    (read : reading line.text (texts rest) machine = .refused error) (world : World) :
    Traced host (Segment.sequence depth before (line :: rest)).cleared (machine.withComment false)
      world (Conclusion.raised ⟨depth, before, line⟩ error).cleared (machine.withComment false)
      world := by
  rcases present_of_reading state read nofun with ⟨present, outside, read⟩
  rw [outside] at state
  rw [cleared_sequence_of_present depth present, Machine.withComment_eq_self state]
  apply Traced.refused
  rw [reading_clearedAfter _ _ _ state, if_neg present]
  exact readingOf_cleared_refused same depth read

omit [Evaluator] in
theorem reading_cleared_simple {code : Text} (depth : Nat)
    (read : reading line.text (texts rest) machine = .simple code) :
    Text.strip (clearedLine (commentAfterAll false before) line.text) ≠ [] ∧
      machine.current.inComment = false ∧
      SameBlocks (commentAfter (commentAfterAll false before) line.text) (texts rest) ∧
      reading (clearedAfter depth before line).text
        (texts (settled depth (PlacedLine.cleared false rest))) machine = .simple code := by
  rcases present_of_reading state read nofun with ⟨present, outside, read⟩
  rcases readingOf_cleared_simple same depth read with ⟨again, next⟩
  rw [outside] at state
  refine ⟨present, state, next, ?_⟩
  rw [reading_clearedAfter _ _ _ state, if_neg present]
  exact again

theorem Traced.cleared_line (keeps : host.KeepsMachine) {code : Text} {between : Machine}
    {spent : World} (read : reading line.text (texts rest) machine = .simple code)
    (executed : Line.execute host code machine world = (.done, between, spent))
    (next : Traced host (Segment.sequence depth (before ++ [line]) rest).cleared
      (between.withComment false) spent conclusion after later) :
    Traced host (Segment.sequence depth before (line :: rest)).cleared (machine.withComment false)
      world conclusion after later := by
  have kept := (sameBlock_of_simple keeps read executed).inComment
  rcases reading_cleared_simple state same depth read with ⟨present, outside, _, again⟩
  rw [Machine.withComment_eq_self (kept.trans outside),
    cleared_after_of_present depth present [] rest rfl, PlacedLine.cleared, settled_nil] at next
  rw [cleared_sequence_of_present depth present, Machine.withComment_eq_self outside]
  exact .line again executed next

theorem Traced.cleared_lineEnded (keeps : host.KeepsMachine) {code : Text} {outcome : Outcome}
    (read : reading line.text (texts rest) machine = .simple code)
    (executed : Line.execute host code machine world = (outcome, after, later))
    (ended : outcome ≠ .done) :
    Traced host (Segment.sequence depth before (line :: rest)).cleared (machine.withComment false)
      world (Conclusion.ofLine ⟨depth, before, line⟩ outcome).cleared (after.withComment false)
      later := by
  have kept := (sameBlock_of_simple keeps read executed).inComment
  rcases reading_cleared_simple state same depth read with ⟨present, outside, _, again⟩
  rw [cleared_sequence_of_present depth present, Machine.withComment_eq_self outside,
    Machine.withComment_eq_self (kept.trans outside), Conclusion.cleared_ofLine]
  exact .lineEnded again executed ended

end Steps

omit [Evaluator] in
theorem exists_clearedBlock_of_reading {depth : Nat} {before body rest : List PlacedLine}
    {line finish : PlacedLine} {command : Command} {condition : Text} {machine : Machine}
    (state : machine.current.inComment = commentAfterAll false before)
    (same : SameBlocks (commentAfterAll false before)
      (line.text :: texts (body ++ finish :: rest)))
    (read : reading line.text (texts (body ++ finish :: rest)) machine =
      .block (.ofBlock command condition (texts body)) (body.length + 2) (texts rest)) :
    Text.strip (clearedLine (commentAfterAll false before) line.text) ≠ [] ∧
      machine.current.inComment = false ∧
      ∃ last, ClearedBlock ⟨depth, before, line⟩ command condition body rest finish last := by
  rcases present_of_reading state read nofun with ⟨present, outside, read⟩
  exact ⟨present, state.trans outside, exists_clearedBlock same present read⟩

/-- Without comments, lines are run to the same conclusion. -/
theorem Traced.cleared (keeps : host.KeepsMachine) {segment : Segment} {machine after : Machine}
    {world later : World} {conclusion : Conclusion}
    (traced : Traced host segment machine world conclusion after later)
    (same : segment.SameBlocks) (state : machine.current.inComment = segment.inComment) :
    Traced host segment.cleared (machine.withComment false) world conclusion.cleared
      (after.withComment false) later := by
  induction traced with
  | finished =>
      rw [Segment.cleared, PlacedLine.cleared, settled_nil]
      exact .finished
  | skipped read next induction =>
      rcases skipped_of_reading state read with ⟨blank, rfl⟩
      apply Traced.cleared_skipped state read
      apply induction
      · rw [Segment.SameBlocks, commentAfterAll_concat]
        exact SameBlocks.of_blank same blank
      · exact (commentAfterAll_concat false _ _).symm
  | refused read => exact .cleared_refused state same read _
  | @line depth _ _ _ _ _ _ _ _ _ _ _ read executed next induction =>
      have kept := (sameBlock_of_simple keeps read executed).inComment
      rcases reading_cleared_simple state same depth read with ⟨present, outside, blocks, _⟩
      apply Traced.cleared_line state same keeps read executed
      apply induction
      · rw [Segment.SameBlocks, commentAfterAll_concat]
        exact blocks
      · exact (kept.trans outside).trans (commentAfterAll_of_present present rfl).symm
  | lineEnded read executed ended => exact .cleared_lineEnded state same keeps read executed ended
  | @block depth _ body rest _ finish _ _ _ _ _ _ _ _ _ read inside next insideInduction
      induction =>
      rcases exists_clearedBlock_of_reading state same read with ⟨present, outside, last, block⟩
      have after : _ = false := (inside.stays keeps rfl).sameBlock.inComment.trans outside
      have ahead := commentAfterAll_of_present present block.outside
      have entered := insideInduction block.within
        (outside.trans (Segment.inComment_ofBlock _ _ _ _).symm)
      rw [block.inside, Machine.withComment_eq_self outside,
        Machine.withComment_eq_self after] at entered
      have left := induction (by rw [Segment.SameBlocks, ahead]; exact block.next)
        (after.trans ahead.symm)
      rw [cleared_after_of_present depth present (body ++ [finish]) rest block.outside,
        block.passed, Machine.withComment_eq_self after] at left
      rw [cleared_sequence_of_present depth present, block.lines,
        Machine.withComment_eq_self outside]
      exact .block (block.read outside) entered left
  | @blockEnded depth _ _ _ _ _ _ _ _ _ _ _ _ read inside ended induction =>
      rcases exists_clearedBlock_of_reading state same read with ⟨present, outside, last, block⟩
      have entered := induction block.within
        (outside.trans (Segment.inComment_ofBlock _ _ _ _).symm)
      rw [block.inside, Machine.withComment_eq_self outside] at entered
      rw [cleared_sequence_of_present depth present, block.lines,
        Machine.withComment_eq_self outside]
      exact .blockEnded (block.read outside) entered (Conclusion.cleared_ne_done ended)
  | undecided tested =>
      rw [Machine.withComment_eq_self (show _ = false from state),
        Machine.withComment_eq_self (inComment_machineAfter _ state)]
      exact .undecided tested
  | chosen tested inside induction =>
      have entered := induction (Segment.sameBlocks_chosen same _) rfl
      rw [Segment.cleared_chosen] at entered
      rw [Machine.withComment_leave (inside.stays keeps rfl) (inComment_machineAfter _ state),
        Machine.withComment_eq_self (show _ = false from state)]
      exact .chosen tested entered
  | chosenEnded tested inside ended induction =>
      have entered := induction (Segment.sameBlocks_chosen same _) rfl
      rw [Segment.cleared_chosen] at entered
      rw [Machine.withComment_eq_self (show _ = false from state)]
      exact .chosenEnded tested entered (Conclusion.cleared_ne_done ended)
  | loopUndecided tested =>
      rw [Machine.withComment_eq_self (show _ = false from state),
        Machine.withComment_eq_self (inComment_machineAfter _ state)]
      exact .loopUndecided tested
  | loopDone tested =>
      rw [Machine.withComment_eq_self (show _ = false from state),
        Machine.withComment_eq_self (inComment_machineAfter _ state)]
      exact .loopDone tested
  | loopLimited tested =>
      rw [Machine.withComment_eq_self (show _ = false from state),
        Machine.withComment_eq_self (inComment_machineAfter _ state)]
      exact .loopLimited tested
  | round tested inside next insideInduction induction =>
      have entered := insideInduction (same _ List.mem_cons_self) rfl
      have left := induction same
        ((Machine.leave_of_enclosing (inside.stays keeps rfl)).inComment.trans
          (inComment_machineAfter _ state))
      rw [Machine.withComment_leave (inside.stays keeps rfl) (inComment_machineAfter _ state)]
        at left
      rw [Machine.withComment_eq_self (show _ = false from state)]
      exact .round tested entered left
  | roundEnded tested inside ended induction =>
      have entered := induction (same _ List.mem_cons_self) rfl
      rw [Machine.withComment_eq_self (show _ = false from state)]
      exact .roundEnded tested entered (Conclusion.cleared_ne_done ended)

end Traces

/-! ## Programs without comments -/

theorem cleared_ofSource {source other : Text}
    (clear : Text.lines other = cleared false (Text.lines source)) :
    (Segment.ofSource source).cleared = .ofSource other := by
  have lines : ∀ (lines : List Text) (inside : Bool) (first : Nat),
      PlacedLine.cleared inside ((lines.zipIdx first).map fun line => ⟨line.1, line.2⟩) =
        ((cleared inside lines).zipIdx first).map fun line => ⟨line.1, line.2⟩ := by
    intro lines
    induction lines with
    | nil => exact fun _ _ => rfl
    | cons line rest induction =>
        intro inside first
        exact congrArg (_ :: ·) (induction _ _)
  have whole := lines (Text.lines source) false 1
  rw [← clear] at whole
  exact congrArg (Segment.sequence 0 []) whole

theorem Site.number_cleared (site : Site) : site.cleared.number ≤ site.number := by
  have shorter : (settled site.depth (PlacedLine.cleared false site.before)).length ≤
      site.before.length := by
    rw [settled]
    split
    · rw [length_cleared]
    · rw [asBlock, ← length_cleared false site.before]
      exact (List.length_filter_le _ _).trans (List.length_map _).le
  exact Nat.add_le_add_right shorter 1

theorem Site.number_cleared_of_outermost {site : Site} (outermost : site.depth = 0) :
    site.cleared.number = site.number := by
  simp only [number, Site.cleared, settled, if_pos outermost, length_cleared]

/-- Without comments a program does the same, as long as its blocks are found at the same places: it
ends in the same way with the same variables, and has written, read and drawn the same. It also
reports the same, except for the number of an error inside a block. There the lines before it that
hold nothing but a comment count only as long as the comments are there. -/
theorem run_without_comments [Evaluator] {source other : Text}
    (clear : Text.lines other = cleared false (Text.lines source))
    (same : SameBlocks false (Text.lines source)) {machine : Machine}
    (outside : machine.current.inComment = false) (console : Console) :
    let commented := run Console.host source machine console
    let plain := run Console.host other machine console
    plain.1 = commented.1 ∧ plain.2.1.bound = commented.2.1.bound ∧
      plain.2.2.output = commented.2.2.output ∧ plain.2.2.input = commented.2.2.input ∧
      plain.2.2.draws = commented.2.2.draws ∧
      (plain.2.2.errors = commented.2.2.errors ∨
        ∃ site error after later, site.depth ≠ 0 ∧ site.cleared.number < site.number ∧
          Traced Console.host (.ofSource source) machine console (.raised site error) after later ∧
          Traced Console.host (.ofSource other) machine console (.raised site.cleared error)
            (after.withComment false) later ∧
          console.Warned later ∧
          commented.2.2.errors =
            later.errors ++ (reportText (some site.number) error ++ ['\n']) ∧
          plain.2.2.errors =
            later.errors ++ (reportText (some site.cleared.number) error ++ ['\n'])) := by
  rcases exists_traced Console.host source machine console with ⟨conclusion, after, later, traced⟩
  have image := traced.cleared Console.host_keepsMachine
    (by rw [Segment.ofSource, Segment.SameBlocks, texts_ofSource]; exact same) outside
  rw [cleared_ofSource clear, Machine.withComment_eq_self outside] at image
  have bound := after.bound_outermost_withComment false
  cases conclusion with
  | done | exited code =>
      simp only [traced.run_eq, image.run_eq]
      exact ⟨rfl, bound, rfl, rfl, rfl, .inl rfl⟩
  | raised site error =>
      by_cases finished : error = .unfinished
      · subst finished
        simp only [traced.run_eq, image.run_eq]
        exact ⟨rfl, bound, rfl, rfl, rfl, .inl rfl⟩
      have commented := traced.errors_eq finished
      have plain := image.errors_eq finished
      rw [traced.run_eq, Conclusion.result, fail_eq finished] at commented ⊢
      rw [image.run_eq, Conclusion.cleared, Conclusion.result, fail_eq finished] at plain ⊢
      refine ⟨rfl, bound, rfl, rfl, rfl, ?_⟩
      by_cases counted : site.cleared.number = site.number
      · left
        rw [plain, commented, counted]
      · refine .inr ⟨site, error, after, later, ?_, ?_, traced, image, traced.warned, commented,
          plain⟩
        · exact fun outermost => counted (Site.number_cleared_of_outermost outermost)
        · exact Nat.lt_of_le_of_ne site.number_cleared counted

def remarked : Text :=
  "##\nIF never DO\n##\nIF true DO # always\n# inside\nFOO # wrong\nENDO".toList

def unremarked : Text := "\n\n\nIF true DO \n\nFOO \nENDO".toList

theorem sameBlocks_remarked : SameBlocks false (Text.lines remarked) := by
  have lines : Text.lines remarked = ["##".toList, "IF never DO".toList, "##".toList,
      "IF true DO # always".toList, "# inside".toList, "FOO # wrong".toList, "ENDO".toList] := by
    decide
  have opened : headerOf? (Text.strip (clearedLine false "IF true DO # always".toList)) =
      some ⟨.branch, "true".toList⟩ := by decide
  have blocks : (Task.ofBlock .branch "true".toList
      ["# inside".toList, "FOO # wrong".toList]).blocks =
        [["# inside".toList, "FOO # wrong".toList], []] := by decide
  rw [lines]
  refine .line (by decide) (.line (by decide) (.line (by decide) ?_))
  refine .block opened rfl rfl rfl (fun _ => rfl) ?_ .done
  rw [blocks, List.forall_mem_cons, List.forall_mem_singleton]
  exact ⟨.line (by decide) (.line (by decide) .done), .done⟩

theorem run_without_comments_remarked :
    Text.lines unremarked = cleared false (Text.lines remarked) ∧
      SameBlocks false (Text.lines remarked) ∧
      (run Console.host unremarked .empty (.start [] [])).1 =
        (run Console.host remarked .empty (.start [] [])).1 ∧
      ∃ site error after later, site.depth ≠ 0 ∧ site.cleared.number < site.number ∧
        Traced Console.host (.ofSource remarked) .empty (.start [] []) (.raised site error) after
          later ∧
        Traced Console.host (.ofSource unremarked) .empty (.start [] [])
          (.raised site.cleared error) (after.withComment false) later ∧
        (run Console.host remarked .empty (.start [] [])).2.2.errors =
          "LINE 2 -> ERROR: Unknown command: foo\n".toList ∧
        (run Console.host unremarked .empty (.start [] [])).2.2.errors =
          "LINE 1 -> ERROR: Unknown command: foo\n".toList := by
  have clear : Text.lines unremarked = cleared false (Text.lines remarked) := by decide
  have commented : (run Console.host remarked .empty (.start [] [])).2.2.errors =
      "LINE 2 -> ERROR: Unknown command: foo\n".toList := by decide +kernel
  have plain : (run Console.host unremarked .empty (.start [] [])).2.2.errors =
      "LINE 1 -> ERROR: Unknown command: foo\n".toList := by decide +kernel
  have outside : Machine.empty.current.inComment = false := rfl
  rcases run_without_comments clear sameBlocks_remarked outside (.start [] []) with
    ⟨ending, _, _, _, _, equal | ⟨site, error, after, later, deep, less, traced, image, _⟩⟩
  · rw [commented, plain] at equal
    exact absurd equal (by decide)
  · exact ⟨clear, sameBlocks_remarked, ending, site, error, after, later, deep, less, traced, image,
      commented, plain⟩

end Linewise.Program
