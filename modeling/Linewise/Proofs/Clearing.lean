import Linewise.Proofs.Trace

/-!
Lines without their comments. `cleared` takes the comments out of lines and leaves everything in its
place, `SameBlocks` says that blocks are found at the same places with the comments and without
them, and a segment is cleared along with its lines.
-/

namespace Linewise

/-! ## Comments and machines -/

namespace Machine

def withComment (machine : Machine) (inside : Bool) : Machine :=
  { machine with current := { machine.current with inComment := inside } }

theorem withComment_eq_self {machine : Machine} {inside : Bool}
    (same : machine.current.inComment = inside) : machine.withComment inside = machine := by
  subst same
  rfl

theorem bound_outermost_withComment (machine : Machine) (inside : Bool) :
    (machine.withComment inside).outermost.bound = machine.outermost.bound := by
  cases enclosing : machine.enclosing with
  | nil => simp [withComment, outermost, enclosing, bound, find?, history]
  | cons frame rest => simp [withComment, outermost, enclosing, List.getLast?_cons]

theorem leave_of_enclosing {machine inside : Machine}
    (same : inside.enclosing = machine.enter.enclosing) : machine.SameBlock inside.leave := by
  have enclosing : inside.enclosing = machine.current :: machine.enclosing := same
  simp only [leave, enclosing]
  exact ⟨rfl, rfl⟩

theorem withComment_leave {machine inside : Machine}
    (same : inside.enclosing = machine.enter.enclosing)
    (outside : machine.current.inComment = false) :
    inside.leave.withComment false = (inside.withComment false).leave := by
  rw [withComment_eq_self ((leave_of_enclosing same).inComment.trans outside)]
  have enclosing : inside.enclosing = machine.current :: machine.enclosing := same
  simp [leave, withComment, enclosing]

end Machine

namespace Program

open PlacedLine

/-! ## Lines without comments -/

def isCommentMark (line : Text) : Bool := Text.startsWith (Text.strip line) Line.commentMark

def commentAfter (inside : Bool) (line : Text) : Bool :=
  if isCommentMark line then !inside else inside

/-- A line without its comment. Nothing is left of a line inside a comment of several lines. -/
def clearedLine (inside : Bool) (line : Text) : Text :=
  if inside || isCommentMark line then [] else Text.before '#' line

def cleared : Bool → List Text → List Text
  | _, [] => []
  | inside, line :: rest => clearedLine inside line :: cleared (commentAfter inside line) rest

theorem notMem_clearedLine (inside : Bool) (line : Text) : '#' ∉ clearedLine inside line := by
  rw [clearedLine]
  split
  · exact List.not_mem_nil
  · exact Text.notMem_before '#' line

theorem isCommentMark_strip (line : Text) :
    isCommentMark (Text.strip line) = isCommentMark line := by
  rw [isCommentMark, Text.strip_strip, isCommentMark]

theorem commentAfter_strip (inside : Bool) (line : Text) :
    commentAfter inside (Text.strip line) = commentAfter inside line := by
  rw [commentAfter, isCommentMark_strip, commentAfter]

theorem strip_clearedLine_strip (inside : Bool) (line : Text) :
    Text.strip (clearedLine inside (Text.strip line)) = Text.strip (clearedLine inside line) := by
  rw [clearedLine, clearedLine, isCommentMark_strip]
  split
  · rfl
  · exact Text.strip_before_strip (by decide) line

theorem isCommentMark_of_blank {line : Text} (blank : Text.strip line = []) :
    isCommentMark line = false := by
  rw [isCommentMark, blank]
  rfl

theorem commentAfter_of_unmarked {line : Text} (unmarked : isCommentMark line = false)
    (inside : Bool) : commentAfter inside line = inside := by
  rw [commentAfter, unmarked]
  rfl

theorem strip_clearedLine_of_blank {line : Text} (blank : Text.strip line = []) (inside : Bool) :
    Text.strip (clearedLine inside line) = [] := by
  rw [← strip_clearedLine_strip, blank]
  cases inside <;> decide

theorem outside_of_present {inside : Bool} {line : Text}
    (present : Text.strip (clearedLine inside line) ≠ []) :
    inside = false ∧ isCommentMark line = false := by
  rw [clearedLine] at present
  cases inside with
  | true => exact absurd rfl present
  | false =>
      cases mark : isCommentMark line with
      | true =>
          rw [mark] at present
          exact absurd rfl present
      | false => exact ⟨rfl, rfl⟩

theorem commentAfter_of_present {inside : Bool} {line : Text}
    (present : Text.strip (clearedLine inside line) ≠ []) : commentAfter inside line = false := by
  rcases outside_of_present present with ⟨rfl, unmarked⟩
  exact commentAfter_of_unmarked unmarked false

/-! ## Readings of cleared lines -/

def headerOf? (code : Text) : Option Header :=
  (Header.command? code).bind fun command => (Header.read command code).toOption

def readingOf (code : Text) (rest : List Text) : Reading :=
  match Header.command? code with
  | none =>
      if Text.lower code = Block.elseWord then .refused .strayElse
      else if Text.lower code = Block.endWord then .refused .strayEnd
      else .simple code
  | some command =>
      match Header.read command code with
      | .error error => .refused error
      | .ok header =>
          match Block.cutEnd? 0 rest with
          | none => .refused (.missingEnd command.title)
          | some (body, after) =>
              .block (.ofBlock command header.condition body) (body.length + 2) after

/-- A line is read by what is left of it without comments. -/
theorem reading_eq (line : Text) (rest : List Text) (machine : Machine) :
    reading line rest machine =
      if Text.strip (clearedLine machine.current.inComment line) = [] then
        .skipped (machine.withComment (commentAfter machine.current.inComment line))
      else readingOf (Text.strip (clearedLine machine.current.inComment line)) rest := by
  have kept : machine.withComment machine.current.inComment = machine := rfl
  by_cases blank : Text.strip line = []
  · rw [if_pos (strip_clearedLine_of_blank blank _),
      commentAfter_of_unmarked (isCommentMark_of_blank blank), kept]
    simp only [reading, if_pos blank]
  cases mark : isCommentMark line with
  | true =>
      have empty : Text.strip (clearedLine machine.current.inComment line) = [] := by
        rw [clearedLine, mark, Bool.or_true]
        rfl
      rw [if_pos empty, commentAfter, mark]
      simp only [reading, if_neg blank]
      exact if_pos mark
  | false =>
      have unmarked : Text.startsWith (Text.strip line) Line.commentMark = false := mark
      cases comment : machine.current.inComment with
      | true =>
          have empty : Text.strip (clearedLine true line) = [] := rfl
          rw [comment] at kept
          rw [if_pos empty, commentAfter_of_unmarked mark, kept]
          simp only [reading, if_neg blank, unmarked, comment]
          rfl
      | false =>
          have code : Line.code (Text.strip line) = Text.strip (clearedLine false line) := by
            rw [clearedLine, mark]
            exact Text.strip_before_strip (by decide) line
          rw [comment] at kept
          rw [commentAfter_of_unmarked mark, kept]
          simp only [reading, if_neg blank, unmarked, comment, code]
          rfl

theorem readingOf_of_none {code : Text} (plain : headerOf? code = none) (rest other : List Text) :
    readingOf code rest = readingOf code other := by
  rw [readingOf, readingOf]
  cases opens : Header.command? code with
  | none => rfl
  | some command =>
      cases read : Header.read command code with
      | error error => simp only [read]
      | ok header => simp [headerOf?, opens, read, Except.toOption] at plain

theorem readingOf_of_some {code : Text} {header : Header} (opened : headerOf? code = some header)
    (rest : List Text) :
    readingOf code rest =
      match Block.cutEnd? 0 rest with
      | none => .refused (.missingEnd header.command.title)
      | some (body, after) =>
          .block (.ofBlock header.command header.condition body) (body.length + 2) after := by
  rcases Option.bind_eq_some_iff.mp opened with ⟨command, opens, read⟩
  rw [readingOf, opens]
  cases result : Header.read command code with
  | error error =>
      rw [result] at read
      cases read
  | ok found =>
      have same : found.command = command := by
        rw [Header.read] at result
        split at result
        · cases result
          rfl
        · cases result
      rw [result] at read
      cases read
      simp only [result, same]

theorem readingOf_ne_block {code : Text} (plain : headerOf? code = none) (rest : List Text)
    {task : Task} {length : Nat} {after : List Text} :
    readingOf code rest ≠ .block task length after := by
  have missing : Block.cutEnd? 0 [] = none := rfl
  rw [readingOf_of_none plain rest [], readingOf]
  simp only [missing]
  repeat' split
  all_goals
    intro equal
    cases equal

theorem readingOf_ne_skipped (code : Text) (rest : List Text) (given : Machine) :
    readingOf code rest ≠ .skipped given := by
  rw [readingOf]
  repeat' split
  all_goals
    intro equal
    cases equal

theorem reading_of_clear {line : Text} (clear : '#' ∉ line) {machine : Machine}
    (outside : machine.current.inComment = false) (rest : List Text) :
    reading line rest machine =
      if Text.strip line = [] then .skipped machine else readingOf (Text.strip line) rest := by
  have unmarked : isCommentMark line = false :=
    Line.startsWith_commentMark fun member => clear (Text.mem_of_mem_strip member)
  have same : clearedLine false line = line := by
    rw [clearedLine, unmarked]
    exact Text.before_eq_self clear
  rw [reading_eq, outside, same, commentAfter_of_unmarked unmarked,
    Machine.withComment_eq_self outside]

/-! ## Blocks at the same places -/

def Task.blocks : Task → List (List Text)
  | sequence _ lines => [lines]
  | branch _ consequence alternative => [consequence, alternative]
  | loop _ body _ _ => [body]

/-- Every block of the lines has its end, and its alternative, at the same line with the comments
and without them. -/
inductive SameBlocks : Bool → List Text → Prop
  | done {inside : Bool} : SameBlocks inside []
  | line {inside : Bool} {line : Text} {rest : List Text}
      (plain : headerOf? (Text.strip (clearedLine inside line)) = none)
      (next : SameBlocks (commentAfter inside line) rest) : SameBlocks inside (line :: rest)
  | unended {inside : Bool} {line : Text} {rest : List Text} {header : Header}
      (opened : headerOf? (Text.strip (clearedLine inside line)) = some header)
      (missing : Block.cutEnd? 0 rest = none)
      (still : Block.cutEnd? 0 (cleared false rest) = none) : SameBlocks inside (line :: rest)
  | block {inside : Bool} {line : Text} {rest body after clearBody clearAfter : List Text}
      {header : Header} (opened : headerOf? (Text.strip (clearedLine inside line)) = some header)
      (found : Block.cutEnd? 0 rest = some (body, after))
      (still : Block.cutEnd? 0 (cleared false rest) = some (clearBody, clearAfter))
      (ended : clearBody.length = body.length)
      (parted : header.command = .branch →
        (Block.cutElse 0 clearBody).1.length = (Block.cutElse 0 body).1.length)
      (within : ∀ lines ∈ (Task.ofBlock header.command header.condition body).blocks,
        SameBlocks false lines)
      (next : SameBlocks false after) : SameBlocks inside (line :: rest)

/-! ## Cleared lines in their places -/

def commentAfterAll (inside : Bool) (lines : List PlacedLine) : Bool :=
  lines.foldl (fun inside line => commentAfter inside line.text) inside

namespace PlacedLine

def cleared : Bool → List PlacedLine → List PlacedLine
  | _, [] => []
  | inside, line :: rest =>
      ⟨clearedLine inside line.text, line.place⟩ :: cleared (commentAfter inside line.text) rest

theorem texts_cleared (inside : Bool) (lines : List PlacedLine) :
    texts (cleared inside lines) = Program.cleared inside (texts lines) := by
  induction lines generalizing inside with
  | nil => rfl
  | cons line rest induction => exact congrArg (_ :: ·) (induction _)

theorem length_cleared (inside : Bool) (lines : List PlacedLine) :
    (cleared inside lines).length = lines.length := by
  induction lines generalizing inside with
  | nil => rfl
  | cons line rest induction => exact congrArg (· + 1) (induction _)

theorem cleared_append (inside : Bool) (lines others : List PlacedLine) :
    cleared inside (lines ++ others) =
      cleared inside lines ++ cleared (commentAfterAll inside lines) others := by
  induction lines generalizing inside with
  | nil => rfl
  | cons line rest induction => exact congrArg (_ :: ·) (induction _)

theorem asBlock_append (lines others : List PlacedLine) :
    asBlock (lines ++ others) = asBlock lines ++ asBlock others := by
  simp [asBlock]

theorem asBlock_cons_blank {line : PlacedLine} (blank : Text.strip line.text = [])
    (rest : List PlacedLine) : asBlock (line :: rest) = asBlock rest := by
  simp [asBlock, stripped, blank]

theorem asBlock_cons {line : PlacedLine} (present : Text.strip line.text ≠ [])
    (rest : List PlacedLine) : asBlock (line :: rest) = line.stripped :: asBlock rest := by
  simp [asBlock, stripped, present]

/-- A block that is cleared once more is cleared all the same. -/
theorem asBlock_cleared_asBlock (inside : Bool) (lines : List PlacedLine) :
    asBlock (cleared inside (asBlock lines)) = asBlock (cleared inside lines) := by
  induction lines generalizing inside with
  | nil => rfl
  | cons line rest induction =>
      by_cases blank : Text.strip line.text = []
      · rw [asBlock_cons_blank blank, induction, cleared,
          commentAfter_of_unmarked (isCommentMark_of_blank blank),
          asBlock_cons_blank (strip_clearedLine_of_blank blank inside)]
      · have same := strip_clearedLine_strip inside line.text
        rw [asBlock_cons blank, cleared, cleared, stripped, commentAfter_strip]
        by_cases empty : Text.strip (clearedLine inside line.text) = []
        · rw [asBlock_cons_blank (same.trans empty), asBlock_cons_blank empty, induction]
        · rw [asBlock_cons (by rwa [same]), asBlock_cons empty, induction, stripped, stripped, same]

/-- Lines as they are run at a depth: a block is run without its blank lines. -/
def settled (depth : Nat) (lines : List PlacedLine) : List PlacedLine :=
  if depth = 0 then lines else asBlock lines

def settledLine (depth : Nat) (line : PlacedLine) : PlacedLine :=
  if depth = 0 then line else line.stripped

section Settled

variable (depth : Nat)

theorem strip_settledLine (line : PlacedLine) :
    Text.strip (settledLine depth line).text = Text.strip line.text := by
  rw [settledLine]
  split
  · rfl
  · exact Text.strip_strip line.text

theorem settled_nil : settled depth [] = [] := ite_self _

theorem settled_append (lines others : List PlacedLine) :
    settled depth (lines ++ others) = settled depth lines ++ settled depth others := by
  rw [settled, settled, settled]
  split
  · rfl
  · exact asBlock_append lines others

theorem settled_cons {line : PlacedLine} (present : Text.strip line.text ≠ [])
    (rest : List PlacedLine) :
    settled depth (line :: rest) = settledLine depth line :: settled depth rest := by
  rw [settled, settled, settledLine]
  split
  · rfl
  · exact asBlock_cons present rest

theorem asBlock_asBlock (lines : List PlacedLine) : asBlock (asBlock lines) = asBlock lines := by
  induction lines with
  | nil => rfl
  | cons line rest induction =>
      by_cases blank : Text.strip line.text = []
      · rw [asBlock_cons_blank blank, induction]
      · have same : line.stripped.stripped = line.stripped := by
          rw [stripped, stripped, Text.strip_strip]
        have present : Text.strip line.stripped.text ≠ [] := by
          rwa [stripped, Text.strip_strip]
        rw [asBlock_cons blank, asBlock_cons present, same, induction]

theorem asBlock_settled (lines : List PlacedLine) :
    asBlock (settled depth lines) = asBlock lines := by
  rw [settled]
  split
  · rfl
  · exact asBlock_asBlock lines

theorem cutEnd?_settled {lines : List PlacedLine} (cut : Option (List PlacedLine × List PlacedLine))
    (found : Block.cutEnd? 0 (texts lines) =
      cut.map fun (body, after) => (texts body, texts after)) :
    Block.cutEnd? 0 (texts (settled depth lines)) =
      cut.map fun (body, after) => (texts (settled depth body), texts (settled depth after)) := by
  by_cases outermost : depth = 0
  · simpa only [settled, if_pos outermost] using found
  · simp only [settled, if_neg outermost, texts_asBlock]
    rw [Block.cutEnd?_inner, found, Option.map_map]
    rfl

end Settled

theorem exists_of_cleared_eq {inside : Bool} {lines first second : List PlacedLine}
    {middle : PlacedLine} (whole : cleared inside lines = first ++ middle :: second)
    (present : Text.strip middle.text ≠ []) :
    ∃ before line after, lines = before ++ line :: after ∧ first = cleared inside before ∧
      second = cleared false after ∧
      middle = ⟨clearedLine (commentAfterAll inside before) line.text, line.place⟩ ∧
      commentAfterAll inside (before ++ [line]) = false := by
  induction first generalizing inside lines with
  | nil =>
      cases lines with
      | nil => cases whole
      | cons line after =>
          cases whole
          have outside := commentAfter_of_present present
          exact ⟨[], line, after, rfl, rfl, by rw [outside], rfl, outside⟩
  | cons head others induction =>
      cases lines with
      | nil => cases whole
      | cons line rest =>
          rw [cleared, List.cons_append, List.cons.injEq] at whole
          rcases induction whole.2 with ⟨before, next, after, rfl, rfl, same⟩
          exact ⟨line :: before, next, after, rfl, by rw [← whole.1, cleared], same⟩

end PlacedLine

/-! ## Cleared segments -/

namespace Segment

theorem eq_append_parts (body : List PlacedLine) :
    (parts body).1 = body ∧ (parts body).2 = [] ∨
      ∃ middle, body = (parts body).1 ++ middle :: (parts body).2 ∧
        Block.markOf middle.text = .alternative := by
  have whole := Block.append_of_cutElse 0 (texts body)
  rcases cut : Block.cutElse 0 (texts body) with ⟨first, _ | second⟩
  · rw [cut] at whole
    have length : body.length = first.length := by
      rw [← List.length_map, ← whole]
      rfl
    simp only [parts, cut]
    exact .inl ⟨List.take_of_length_le (by omega), List.drop_eq_nil_of_le (by omega)⟩
  · rw [cut] at whole
    rcases whole with ⟨middle, whole, mark⟩
    rcases List.map_eq_append_iff.mp whole with ⟨left, others, rfl, rfl, rest⟩
    rcases List.map_eq_cons_iff.mp rest with ⟨line, right, rfl, rfl, rfl⟩
    refine .inr ⟨line, ?_, mark⟩
    simp [parts, cut]

theorem parts_eq {first second : List PlacedLine} {middle : PlacedLine}
    (length : (Block.cutElse 0 (texts (first ++ middle :: second))).1.length = first.length) :
    parts (first ++ middle :: second) = (first, second) := by
  simp [parts, length]

theorem parts_settled (depth : Nat) (body : List PlacedLine) :
    parts (settled depth body) = (settled depth (parts body).1, settled depth (parts body).2) := by
  by_cases outermost : depth = 0
  · simp only [settled, if_pos outermost]
  simp only [settled, if_neg outermost]
  have length :
      (Block.cutElse 0 (texts (asBlock body))).1.length = (asBlock (parts body).1).length := by
    rw [texts_asBlock, Block.cutElse_inner, ← (texts_parts body).1, ← texts_asBlock, texts,
      List.length_map]
  rcases eq_append_parts body with ⟨first, second⟩ | ⟨middle, whole, mark⟩
  · rw [first] at length
    rw [first, second, parts, length, List.take_length, List.drop_eq_nil_of_le (by omega)]
    rfl
  · have present : Text.strip middle.text ≠ [] := Block.strip_ne_nil_of_mark (by simp [mark])
    generalize parts body = both at whole length ⊢
    subst whole
    rw [asBlock_append, asBlock_cons present] at length ⊢
    exact parts_eq length

theorem parts_cleared {body : List PlacedLine}
    (parted : (Block.cutElse 0 (texts (PlacedLine.cleared false body))).1.length =
      (Block.cutElse 0 (texts body)).1.length) :
    parts (PlacedLine.cleared false body) =
      (PlacedLine.cleared false (parts body).1, PlacedLine.cleared false (parts body).2) := by
  have firstLength : (parts (PlacedLine.cleared false body)).1.length =
      min (Block.cutElse 0 (texts body)).1.length body.length := by
    rw [parts, parted, List.length_take, length_cleared]
  have secondLength : (parts (PlacedLine.cleared false body)).2.length =
      body.length - ((Block.cutElse 0 (texts body)).1.length + 1) := by
    rw [parts, parted, List.length_drop, length_cleared]
  rcases eq_append_parts (PlacedLine.cleared false body) with
    ⟨first, second⟩ | ⟨middle, whole, mark⟩
  · rw [first, length_cleared] at firstLength
    have all : (parts body).1 = body := List.take_of_length_le (by omega)
    have none : (parts body).2 = [] := List.drop_eq_nil_of_le (by omega)
    apply Prod.ext
    · rw [first, all]
    · rw [second, none]
      rfl
  · have length := congrArg List.length whole
    rw [length_cleared, List.length_append, List.length_cons] at length
    rcases exists_of_cleared_eq whole (Block.strip_ne_nil_of_mark (by simp [mark])) with
      ⟨before, line, after, rfl, first, second, _⟩
    have same : parts (before ++ line :: after) = (before, after) := by
      apply parts_eq
      rw [first, length_cleared] at firstLength length
      omega
    rw [same, ← first, ← second]

end Segment

def clearedAfter (depth : Nat) (before : List PlacedLine) (line : PlacedLine) : PlacedLine :=
  settledLine depth ⟨clearedLine (commentAfterAll false before) line.text, line.place⟩

def Site.cleared (site : Site) : Site where
  depth := site.depth
  before := settled site.depth (PlacedLine.cleared false site.before)
  line := clearedAfter site.depth site.before site.line

def Conclusion.cleared : Conclusion → Conclusion
  | done => .done
  | exited code => .exited code
  | raised site error => .raised site.cleared error

theorem Conclusion.cleared_ofLine (site : Site) (outcome : Outcome) :
    (Conclusion.ofLine site outcome).cleared = .ofLine site.cleared outcome := by
  cases outcome <;> rfl

theorem Conclusion.cleared_ne_done {conclusion : Conclusion} (ended : conclusion ≠ .done) :
    conclusion.cleared ≠ .done := by
  cases conclusion with
  | done => exact absurd rfl ended
  | exited code | raised site error => exact nofun

namespace Segment

def cleared : Segment → Segment
  | sequence depth before lines =>
      .sequence depth (settled depth (PlacedLine.cleared false before))
        (settled depth (PlacedLine.cleared (commentAfterAll false before) lines))
  | branch header condition consequence alternative =>
      .branch header.cleared condition (asBlock (PlacedLine.cleared false consequence))
        (asBlock (PlacedLine.cleared false alternative))
  | loop header condition body limit remaining =>
      .loop header.cleared condition (asBlock (PlacedLine.cleared false body)) limit remaining

def inComment : Segment → Bool
  | sequence _ before _ => commentAfterAll false before
  | branch .. | loop .. => false

def SameBlocks : Segment → Prop
  | sequence _ before lines => Program.SameBlocks (commentAfterAll false before) (texts lines)
  | segment => ∀ lines ∈ segment.task.blocks, Program.SameBlocks false lines

theorem inComment_ofBlock (header : Site) (command : Command) (condition : Text)
    (body : List PlacedLine) : (ofBlock header command condition body).inComment = false := by
  rw [ofBlock]
  split
  · rfl
  · rfl

theorem sameBlocks_ofBlock (header : Site) {command : Command} {condition : Text}
    {body : List PlacedLine}
    (same : ∀ lines ∈ (Task.ofBlock command condition (texts body)).blocks,
      Program.SameBlocks false lines) :
    (ofBlock header command condition body).SameBlocks := by
  rw [← task_ofBlock header] at same
  revert same
  rw [ofBlock]
  split
  · exact id
  · exact id

theorem cleared_chosen (depth : Nat) (truth : Bool) (consequence alternative : List PlacedLine) :
    (sequence (depth + 1) [] (if truth then consequence else alternative)).cleared =
      .sequence (depth + 1) []
        (if truth then asBlock (PlacedLine.cleared false consequence)
          else asBlock (PlacedLine.cleared false alternative)) := by
  cases truth <;> rfl

theorem sameBlocks_chosen {header : Site} {condition : Text}
    {consequence alternative : List PlacedLine}
    (same : (branch header condition consequence alternative).SameBlocks) (truth : Bool) :
    (sequence (header.depth + 1) [] (if truth then consequence else alternative)).SameBlocks := by
  cases truth with
  | true => exact same _ List.mem_cons_self
  | false => exact same _ (List.mem_cons_of_mem _ List.mem_cons_self)

theorem cleared_ofBlock (header : Site) {command : Command} (condition : Text)
    {body : List PlacedLine}
    (parted : command = .branch →
      (Block.cutElse 0 (texts (PlacedLine.cleared false body))).1.length =
        (Block.cutElse 0 (texts body)).1.length) :
    (ofBlock header command condition body).cleared =
      ofBlock header.cleared command condition
        (settled header.depth (PlacedLine.cleared false body)) := by
  rw [ofBlock, ofBlock]
  split
  · next branching =>
      rw [cleared, parts_settled, parts_cleared (parted branching), asBlock_settled,
        asBlock_settled, asBlock_cleared_asBlock, asBlock_cleared_asBlock]
  · rw [cleared, asBlock_settled, asBlock_cleared_asBlock]

end Segment

/-- A block that ends at the same line without its comments is cleared apart from what follows
it. -/
theorem exists_last_of_cut {body rest : List PlacedLine} {finish : PlacedLine}
    {clearBody clearAfter : List Text}
    (found : Block.cutEnd? 0 (cleared false (texts (body ++ finish :: rest))) =
      some (clearBody, clearAfter))
    (ended : clearBody.length = body.length) :
    ∃ last, PlacedLine.cleared false (body ++ finish :: rest) =
        PlacedLine.cleared false body ++ last :: PlacedLine.cleared false rest ∧
      PlacedLine.cleared false (body ++ [finish]) = PlacedLine.cleared false body ++ [last] ∧
      Text.strip last.text ≠ [] ∧ commentAfterAll false (body ++ [finish]) = false ∧
      clearBody = texts (PlacedLine.cleared false body) ∧
      clearAfter = texts (PlacedLine.cleared false rest) := by
  rcases Block.append_of_cutEnd? found with ⟨_, whole, mark⟩
  rw [← texts_cleared] at whole
  rcases List.map_eq_append_iff.mp whole with ⟨first, others, split, rfl, rest⟩
  rcases List.map_eq_cons_iff.mp rest with ⟨last, second, rfl, rfl, rfl⟩
  have present : Text.strip last.text ≠ [] := Block.strip_ne_nil_of_mark (by simp [mark])
  rcases exists_of_cleared_eq split present with
    ⟨before, line, after, parted, rfl, rfl, middle, outside⟩
  have length : before.length = body.length := by
    rw [← ended, List.length_map, length_cleared]
  rcases List.append_inj parted.symm length with ⟨rfl, ⟨⟩⟩
  exact ⟨last, split, by rw [cleared_append, middle]; rfl, present, outside, rfl, rfl⟩

end Program

end Linewise
