import Linewise.Proofs.Causes
import Linewise.Proofs.LetterCase
import Linewise.Proofs.Trace

/-!
Blocks in blocks. What is cut out as a block, however its lines are nested, ends as many blocks as
it opens and never more than are open, and so does each of the two parts it is cut into. So every
header inside has its end inside, and only outside all blocks can an end be missing.
-/

namespace Linewise

/-! ## Open blocks -/

namespace Block

/-- The number of open blocks after a line, by its mark; `none` if a block is ended when none is
open. -/
def levelAfter? : Nat → Mark → Option Nat
  | depth, .opening => some (depth + 1)
  | 0, .closing => none
  | depth + 1, .closing => some depth
  | depth, .alternative | depth, .other => some depth

def openAfter? : Nat → List Text → Option Nat
  | depth, [] => some depth
  | depth, line :: rest => (levelAfter? depth (markOf line)).bind (openAfter? · rest)

/-- Every block that is opened in the lines is ended there, and no others are. -/
def Balanced (lines : List Text) : Prop := openAfter? 0 lines = some 0

theorem levelAfter?_add {depth deeper : Nat} {mark : Mark}
    (level : levelAfter? depth mark = some deeper) (more : Nat) :
    levelAfter? (depth + more) mark = some (deeper + more) := by
  cases mark with
  | opening =>
      cases level
      rw [levelAfter?, Nat.add_right_comm]
  | closing =>
      cases depth with
      | zero => cases level
      | succ depth =>
          cases level
          rw [Nat.add_right_comm, levelAfter?]
  | alternative | other =>
      cases depth <;> cases level <;> cases more <;> rfl

section Lines

variable {line : Text} {depth deeper : Nat} {rest : List Text}

theorem openAfter?_cons (level : levelAfter? depth (markOf line) = some deeper) :
    openAfter? depth (line :: rest) = openAfter? deeper rest := by
  rw [openAfter?, level, Option.bind_some]

theorem exists_of_openAfter? {left : Nat} (counted : openAfter? depth (line :: rest) = some left) :
    ∃ deeper, levelAfter? depth (markOf line) = some deeper ∧ openAfter? deeper rest = some left :=
  Option.bind_eq_some_iff.mp counted

theorem exists_of_openAfter?_append {lines others : List Text} {left : Nat}
    (counted : openAfter? depth (lines ++ others) = some left) :
    ∃ deeper, openAfter? deeper others = some left := by
  induction lines generalizing depth with
  | nil => exact ⟨depth, counted⟩
  | cons first tail induction =>
      rcases exists_of_openAfter? counted with ⟨_, _, later⟩
      exact induction later

theorem cutEnd?_of_level (level : levelAfter? depth (markOf line) = some deeper) :
    cutEnd? depth (line :: rest) =
      (cutEnd? deeper rest).map fun (body, after) => (line :: body, after) := by
  cases mark : markOf line with
  | opening =>
      rw [mark] at level
      cases level
      exact cutEnd?_opening depth rest mark
  | closing =>
      rw [mark] at level
      cases depth with
      | zero => cases level
      | succ depth =>
          cases level
          exact cutEnd?_closing_succ deeper rest mark
  | alternative | other =>
      rw [mark] at level
      have same : depth = deeper := by cases depth <;> exact Option.some.inj level
      rw [← same]
      exact cutEnd?_inside depth rest (by simp [mark]) (by simp [mark])

theorem cutEnd?_of_unlevel (level : levelAfter? depth (markOf line) = none) :
    cutEnd? depth (line :: rest) = some ([], rest) := by
  cases mark : markOf line with
  | closing =>
      rw [mark] at level
      cases depth with
      | zero => exact cutEnd?_closing_zero rest mark
      | succ depth => cases level
  | opening | alternative | other =>
      rw [mark] at level
      cases depth <;> cases level

/-- The alternative of a block is searched for with a count of its own, which is the same as long
as no more blocks are ended than are open. -/
theorem cutElse_of_level (level : levelAfter? depth (markOf line) = some deeper)
    (rest : List Text) :
    (depth = 0 ∧ deeper = 0 ∧ cutElse 0 (line :: rest) = ([], some rest)) ∨
      cutElse depth (line :: rest) =
        (line :: (cutElse deeper rest).1, (cutElse deeper rest).2) := by
  cases mark : markOf line with
  | opening =>
      rw [mark] at level
      cases level
      exact .inr (cutElse_opening depth rest mark)
  | closing =>
      rw [mark] at level
      cases depth with
      | zero => cases level
      | succ depth =>
          cases level
          have one : ((deeper + 1 : Nat) : Int) - 1 = deeper := by omega
          right
          rw [cutElse_closing _ rest mark, one]
  | alternative =>
      rw [mark] at level
      cases depth with
      | zero =>
          cases level
          exact .inl ⟨rfl, rfl, cutElse_alternative_zero rest mark⟩
      | succ depth =>
          cases level
          exact .inr (cutElse_alternative_of_ne rest mark (by omega))
  | other =>
      rw [mark] at level
      have same : depth = deeper := by cases depth <;> exact Option.some.inj level
      rw [← same]
      exact .inr (cutElse_other depth rest mark)

end Lines

/-! ## Cuts -/

/-- Where more blocks are ended than a search passes over, it finds an end. -/
theorem exists_cutEnd? {depth more : Nat} {lines : List Text}
    (counted : openAfter? (depth + (more + 1)) lines = some 0) :
    ∃ body after, cutEnd? depth lines = some (body, after) := by
  induction lines generalizing depth with
  | nil =>
      have none : depth + (more + 1) = 0 := Option.some.inj counted
      omega
  | cons line rest induction =>
      cases level : levelAfter? depth (markOf line) with
      | none => exact ⟨[], rest, cutEnd?_of_unlevel level⟩
      | some deeper =>
          rw [openAfter?_cons (levelAfter?_add level (more + 1))] at counted
          rcases induction counted with ⟨body, after, found⟩
          rw [cutEnd?_of_level level, found]
          exact ⟨line :: body, after, rfl⟩

theorem exists_cutEnd?_of_opening {level : Nat} {header : Text} {rest : List Text}
    (opens : markOf header = .opening) (counted : openAfter? level (header :: rest) = some 0) :
    ∃ body after, cutEnd? 0 rest = some (body, after) := by
  rw [openAfter?, opens] at counted
  have inside : openAfter? (0 + (level + 1)) rest = some 0 := by
    rw [Nat.zero_add]
    exact counted
  exact exists_cutEnd? inside

theorem openAfter?_of_cutEnd? {depth : Nat} {lines body after : List Text}
    (found : cutEnd? depth lines = some (body, after)) : openAfter? depth body = some 0 := by
  induction lines generalizing depth body with
  | nil => cases found
  | cons line rest induction =>
      cases level : levelAfter? depth (markOf line) with
      | none =>
          rw [cutEnd?_of_unlevel level] at found
          cases found
          cases depth with
          | zero => rfl
          | succ depth => cases mark : markOf line <;> rw [mark] at level <;> cases level
      | some deeper =>
          rw [cutEnd?_of_level level] at found
          rcases Option.map_eq_some_iff.mp found with ⟨⟨inside, beyond⟩, part, pair⟩
          cases pair
          rw [openAfter?_cons level]
          exact induction part

theorem openAfter?_cutElse {depth : Nat} {lines : List Text}
    (counted : openAfter? depth lines = some 0) :
    openAfter? depth (cutElse depth lines).1 = some 0 ∧
      openAfter? 0 ((cutElse depth lines).2.getD []) = some 0 := by
  induction lines generalizing depth with
  | nil => exact ⟨counted, rfl⟩
  | cons line rest induction =>
      rcases exists_of_openAfter? counted with ⟨deeper, level, later⟩
      rcases cutElse_of_level level rest with ⟨rfl, rfl, cut⟩ | cut
      · rw [Int.natCast_zero, cut]
        exact ⟨rfl, later⟩
      · rw [cut, openAfter?_cons level]
        exact induction later

theorem openAfter?_inner (depth : Nat) (lines : List Text) :
    openAfter? depth (inner lines) = openAfter? depth lines := by
  induction lines generalizing depth with
  | nil => rfl
  | cons line rest induction =>
      by_cases blank : Text.strip line = []
      · have passed : levelAfter? depth (markOf line) = some depth := by
          rw [markOf_blank blank]
          cases depth <;> rfl
        rw [inner_cons_blank blank, openAfter?_cons passed, induction]
      · rw [inner_cons blank, openAfter?, openAfter?, markOf_strip]
        cases levelAfter? depth (markOf line) with
        | none => rfl
        | some deeper => exact induction deeper

/-- What can be run of the lines of a block: what stands before its alternative and after it, or
all of it. -/
def parts (body : List Text) : List (List Text) :=
  [inner (cutElse 0 body).1, inner ((cutElse 0 body).2.getD []), inner body]

theorem balanced_of_mem_parts {rest body after part : List Text}
    (found : cutEnd? 0 rest = some (body, after)) (member : part ∈ parts body) :
    Balanced part := by
  have whole : openAfter? 0 body = some 0 := openAfter?_of_cutEnd? found
  rcases openAfter?_cutElse whole with ⟨first, second⟩
  simp only [parts, List.mem_cons, List.not_mem_nil, or_false] at member
  rcases member with rfl | rfl | rfl
  · exact (openAfter?_inner 0 _).trans first
  · exact (openAfter?_inner 0 _).trans second
  · exact (openAfter?_inner 0 _).trans whole

theorem Balanced.exists_cutEnd? {before rest : List Text} {header : Text}
    (balanced : Balanced (before ++ header :: rest)) (opens : markOf header = .opening) :
    ∃ body after, cutEnd? 0 rest = some (body, after) := by
  rcases exists_of_openAfter?_append balanced with ⟨level, counted⟩
  exact exists_cutEnd?_of_opening opens counted

theorem exists_of_mem_parts {body part : List Text} {line : Text} (member : part ∈ parts body)
    (inside : line ∈ part) : ∃ original ∈ body, line = Text.strip original ∧ line ≠ [] := by
  simp only [parts, List.mem_cons, List.not_mem_nil, or_false] at member
  rcases member with rfl | rfl | rfl
  · rcases exists_of_mem_inner inside with ⟨original, present, same⟩
    exact ⟨original, mem_of_mem_cutElse (.inl present), same⟩
  · rcases exists_of_mem_inner inside with ⟨original, present, same⟩
    exact ⟨original, mem_of_mem_cutElse (.inr present), same⟩
  · exact exists_of_mem_inner inside

end Block

namespace Program

open Block PlacedLine

/-! ## Blocks of a program -/

/-- The lines can be run as a program of their own inside so many blocks of a program: they are its
own lines, or a part of a block of such lines. -/
inductive IsRunIn (source : Text) : Nat → List Text → Prop
  | program : IsRunIn source 0 (Text.lines source)
  | part {depth : Nat} {before rest body after part : List Text} {header : Text}
      (around : IsRunIn source depth (before ++ header :: rest))
      (ended : cutEnd? 0 rest = some (body, after)) (member : part ∈ parts body) :
      IsRunIn source (depth + 1) part

theorem IsRunIn.isOneLine {source : Text} {depth : Nat} {lines : List Text}
    (run : IsRunIn source depth lines) : ∀ line ∈ lines, Text.IsOneLine line := by
  induction run with
  | program => exact fun line => Text.isOneLine_of_mem_lines
  | part around ended member induction =>
      intro line inside
      rcases exists_of_mem_parts member inside with ⟨original, present, rfl, _⟩
      rcases append_of_cutEnd? ended with ⟨finish, rfl, _⟩
      have whole := induction original (by simp [present])
      exact fun char inLine => whole char (Text.mem_of_mem_strip inLine)

/-- The lines of a block, put together as a text, are read as the same lines. -/
theorem IsRunIn.lines_join {source : Text} {depth : Nat} {lines : List Text}
    (run : IsRunIn source (depth + 1) lines) : Text.lines (Text.join ['\n'] lines) = lines := by
  apply Text.lines_join run.isOneLine
  cases run with
  | part around ended member =>
      intro line inside
      rcases exists_of_mem_parts member inside with ⟨_, _, _, present⟩
      exact present

theorem IsRunIn.balanced {source : Text} {depth : Nat} {lines : List Text}
    (run : IsRunIn source (depth + 1) lines) : Balanced lines := by
  cases run with
  | part around ended member => exact balanced_of_mem_parts ended member

theorem Header.markOf_of_command? {line : Text} {command : Command}
    (opens : command? (Line.code (Text.strip line)) = some command) : markOf line = .opening := by
  rw [markOf]
  apply if_pos
  rw [Bool.or_eq_true]
  rcases starts_of_command? opens with ⟨_, starts⟩ | ⟨_, starts⟩
  · exact .inl starts
  · exact .inr starts

/-! ## Missing ends -/

section Runs

variable {World : Type}

/-- The lines stand outside all blocks, or they are the last lines of what is run inside one. -/
def Enclosed (depth : Nat) (lines : List PlacedLine) : Prop :=
  depth = 0 ∨ ∃ level, openAfter? level (texts lines) = some 0

def Segment.Enclosed : Segment → Prop
  | sequence depth _ lines => Program.Enclosed depth lines
  | branch _ _ consequence alternative =>
      Balanced (texts consequence) ∧ Balanced (texts alternative)
  | loop _ _ body _ _ => Balanced (texts body)

theorem Enclosed.later {depth : Nat} (lines : List PlacedLine) {others : List PlacedLine}
    (enclosed : Enclosed depth (lines ++ others)) : Enclosed depth others := by
  rcases enclosed with outermost | ⟨level, counted⟩
  · exact .inl outermost
  · rw [texts, List.map_append] at counted
    exact .inr (exists_of_openAfter?_append counted)

theorem Enclosed.eq_zero {depth : Nat} {line : PlacedLine} {rest : List PlacedLine}
    {machine : Machine} {block : Text} (enclosed : Enclosed depth (line :: rest))
    (read : reading line.text (texts rest) machine = .refused (.missingEnd block)) : depth = 0 := by
  rcases enclosed with outermost | ⟨level, counted⟩
  · exact outermost
  · rcases reading_eq_refused read with stray | stray | ⟨command, opens, missing | ⟨_, unended⟩⟩
    · cases stray
    · cases stray
    · cases missing
    rcases exists_cutEnd?_of_opening (Header.markOf_of_command? opens) counted with
      ⟨body, after, found⟩
    cases unended.symm.trans found

/-- What is run of a block ends what it opens. -/
theorem Segment.Enclosed.ofBlock {line : PlacedLine} {body rest : List PlacedLine}
    {finish : PlacedLine} {machine : Machine} {command : Command} {condition : Text}
    (read : reading line.text (texts (body ++ finish :: rest)) machine =
      .block (.ofBlock command condition (texts body)) (body.length + 2) (texts rest))
    (header : Site) : (Segment.ofBlock header command condition body).Enclosed := by
  rcases reading_eq_block read with ⟨_, _, cut, found, _, size⟩
  have same : cut = texts body := by
    rcases append_of_cutEnd? found with ⟨last, whole, _⟩
    rw [texts, List.map_append] at whole
    have lengths : (body.map text).length = cut.length := by
      rw [List.length_map]
      omega
    exact (List.append_inj_left whole lengths).symm
  rw [same] at found
  have balanced : ∀ part ∈ Block.parts (texts body), Balanced part :=
    fun part member => balanced_of_mem_parts found member
  rcases Segment.texts_parts body with ⟨first, second⟩
  rw [Segment.ofBlock]
  split
  · rw [Segment.Enclosed, texts_asBlock, texts_asBlock, first, second]
    exact ⟨balanced _ (by simp [Block.parts]), balanced _ (by simp [Block.parts])⟩
  · rw [Segment.Enclosed, texts_asBlock]
    exact balanced _ (by simp [Block.parts])

theorem Traced.depth_eq_zero [Evaluator] {host : Host World} {segment : Segment}
    {machine after : Machine}
    {world later : World} {conclusion : Conclusion} {site : Site} {block : Text}
    (traced : Traced host segment machine world conclusion after later)
    (enclosed : segment.Enclosed) (raised : conclusion = .raised site (.missingEnd block)) :
    site.depth = 0 := by
  induction traced with
  | finished | chosen | loopDone => cases raised
  | skipped _ _ induction | line _ _ _ induction =>
      exact induction (Program.Enclosed.later [_] enclosed) raised
  | refused read =>
      cases raised
      exact Program.Enclosed.eq_zero enclosed read
  | @lineEnded _ _ _ _ _ _ _ _ _ outcome _ executed =>
      cases outcome with
      | done | exited code => cases raised
      | failed error =>
          cases raised
          rcases Line.failed_of_execute executed with ofLine | unfinished
          · cases ofLine
          · cases unfinished
  | @block _ _ body rest line finish _ _ _ _ _ _ _ _ _ _ _ _ _ induction =>
      apply induction _ raised
      apply Program.Enclosed.later (line :: (body ++ [finish]))
      rw [List.cons_append, List.append_assoc]
      exact enclosed
  | blockEnded read _ _ induction => exact induction (Segment.Enclosed.ofBlock read _) raised
  | undecided tested | loopUndecided tested =>
      cases raised
      rcases Condition.holds_error tested with ⟨_, fault⟩ | ⟨_, _, undecided⟩ | unfinished
      · cases fault
      · cases undecided
      · cases unfinished
  | loopLimited => cases raised
  | @chosenEnded _ _ _ _ _ _ _ _ truth _ _ _ _ induction =>
      apply induction _ raised
      cases truth with
      | true => exact .inr ⟨0, enclosed.1⟩
      | false => exact .inr ⟨0, enclosed.2⟩
  | round _ _ _ _ induction => exact induction enclosed raised
  | roundEnded _ _ _ induction => exact induction (.inr ⟨0, enclosed⟩) raised

/-- Only outside all blocks can the end of a block be missing: each header in what is run inside a
block has its end in there, and an error for a missing end comes from no line inside a block. -/
theorem missingEnd_only_outermost [Evaluator] (host : Host World) (source : Text)
    (machine : Machine) (world : World) :
    (∀ depth lines, IsRunIn source (depth + 1) lines →
      Text.lines (Text.join ['\n'] lines) = lines ∧
        ∀ before header rest command, lines = before ++ header :: rest →
          Header.command? (Line.code (Text.strip header)) = some command →
          ∃ body after, cutEnd? 0 rest = some (body, after)) ∧
      ∀ site block after later,
        Traced host (.ofSource source) machine world (.raised site (.missingEnd block)) after
          later →
        site.depth = 0 := by
  constructor
  · intro depth lines run
    refine ⟨run.lines_join, ?_⟩
    rintro before header rest command rfl opens
    exact run.balanced.exists_cutEnd? (Header.markOf_of_command? opens)
  · intro site block after later traced
    exact traced.depth_eq_zero (.inl rfl) rfl

end Runs

def unendedLast : Text :=
  "IF true DO\nELSE\nWHILE true DO\n\nENDO\nENDO\nWHILE true DO".toList

theorem missingEnd_only_outermost_unendedLast :
    (IsRunIn unendedLast 1 ["WHILE true DO".toList, "ENDO".toList] ∧
      ∃ body after, cutEnd? 0 ["ENDO".toList] = some (body, after)) ∧
      ∃ site after later,
        Traced Console.host (.ofSource unendedLast) .empty (.start [] [])
          (.raised site (.missingEnd "WHILE".toList)) after later ∧
        site.depth = 0 ∧ site.line.place = 7 := by
  have stated := missingEnd_only_outermost Console.host unendedLast .empty (.start [] [])
  have inside : IsRunIn unendedLast 1 ["WHILE true DO".toList, "ENDO".toList] := by
    have around : IsRunIn unendedLast 0 ([] ++ "IF true DO".toList :: ["ELSE".toList,
        "WHILE true DO".toList, [], "ENDO".toList, "ENDO".toList, "WHILE true DO".toList]) :=
      .program
    exact .part around rfl (.tail _ (.head _))
  have tested : Condition.holds Machine.empty.bindings "true".toList = .ok true := by
    decide +kernel
  have traced : Traced Console.host (.ofSource unendedLast) .empty (.start [] [])
      (.raised ⟨0, (PlacedLine.ofSource unendedLast).take 6, ⟨"WHILE true DO".toList, 7⟩⟩
        (.missingEnd "WHILE".toList)) (machineAfter "true".toList .empty).enter.leave
      (worldAfter Console.host "true".toList .empty (.start [] [])) := by
    refine @Traced.block _ _ _ 0 [] [⟨"ELSE".toList, 2⟩, ⟨"WHILE true DO".toList, 3⟩, ⟨[], 4⟩,
      ⟨"ENDO".toList, 5⟩] [⟨"WHILE true DO".toList, 7⟩] ⟨"IF true DO".toList, 1⟩
      ⟨"ENDO".toList, 6⟩ .branch "true".toList _ _ _ _ _ _ _ rfl (.chosen tested .finished) ?_
    rw [machineAfter_of_untouched (by decide +kernel)]
    exact .refused rfl
  refine ⟨⟨inside, ?_⟩, _, _, _, traced, stated.2 _ _ _ _ traced, rfl⟩
  exact (stated.1 0 _ inside).2 [] "WHILE true DO".toList _ .loop rfl (by decide +kernel)

end Program

end Linewise
