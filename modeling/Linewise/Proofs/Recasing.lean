import Linewise.Proofs.Course
import Linewise.Proofs.Spelling
import Mathlib.Data.List.Forall2

/-!
Programs whose lines differ only in the letter case of names that commands look up. Their blocks
begin and end at the same lines, so that they take the same course.
-/

namespace Linewise

/-! ## Blocks of related lines -/

namespace Block

variable {Related : Text → Text → Prop} {lines others : List Text}

theorem forall₂_cutEnd? (marks : ∀ {line other}, Related line other → markOf line = markOf other)
    (related : List.Forall₂ Related lines others) (depth : Nat) :
    Option.Rel
      (fun cut image => List.Forall₂ Related cut.1 image.1 ∧ List.Forall₂ Related cut.2 image.2)
      (cutEnd? depth lines) (cutEnd? depth others) := by
  induction related generalizing depth with
  | nil => exact .none
  | @cons line other rest images first related induction =>
      have step : ∀ depth, Option.Rel
          (fun cut image =>
            List.Forall₂ Related cut.1 image.1 ∧ List.Forall₂ Related cut.2 image.2)
          ((cutEnd? depth rest).map fun cut => (line :: cut.1, cut.2))
          ((cutEnd? depth images).map fun cut => (other :: cut.1, cut.2)) := by
        intro depth
        have cut := induction depth
        generalize cutEnd? depth rest = found at cut
        generalize cutEnd? depth images = image at cut
        cases cut with
        | none => exact .none
        | some parts => exact .some ⟨.cons first parts.1, parts.2⟩
      have same := marks first
      cases mark : markOf line with
      | opening =>
          rw [cutEnd?_opening depth rest mark, cutEnd?_opening depth images (same ▸ mark)]
          exact step (depth + 1)
      | closing =>
          cases depth with
          | zero =>
              rw [cutEnd?_closing_zero rest mark, cutEnd?_closing_zero images (same ▸ mark)]
              exact .some ⟨.nil, related⟩
          | succ depth =>
              rw [cutEnd?_closing_succ depth rest mark,
                cutEnd?_closing_succ depth images (same ▸ mark)]
              exact step depth
      | alternative | other =>
          rw [cutEnd?_inside depth rest (by simp [mark]) (by simp [mark]),
            cutEnd?_inside depth images (by simp [← same, mark]) (by simp [← same, mark])]
          exact step depth

theorem forall₂_cutElse (marks : ∀ {line other}, Related line other → markOf line = markOf other)
    (related : List.Forall₂ Related lines others) (level : Int) :
    List.Forall₂ Related (cutElse level lines).1 (cutElse level others).1 ∧
      List.Forall₂ Related ((cutElse level lines).2.getD [])
        ((cutElse level others).2.getD []) := by
  induction related generalizing level with
  | nil => exact ⟨.nil, .nil⟩
  | @cons line other rest images first related induction =>
      have same := marks first
      cases mark : markOf line with
      | opening =>
          rw [cutElse_opening level rest mark, cutElse_opening level images (same ▸ mark)]
          exact ⟨.cons first (induction _).1, (induction _).2⟩
      | closing =>
          rw [cutElse_closing level rest mark, cutElse_closing level images (same ▸ mark)]
          exact ⟨.cons first (induction _).1, (induction _).2⟩
      | other =>
          rw [cutElse_other level rest mark, cutElse_other level images (same ▸ mark)]
          exact ⟨.cons first (induction _).1, (induction _).2⟩
      | alternative =>
          by_cases outermost : level = 0
          · rw [outermost, cutElse_alternative_zero rest mark,
              cutElse_alternative_zero images (same ▸ mark)]
            exact ⟨.nil, related⟩
          · rw [cutElse_alternative_of_ne rest mark outermost,
              cutElse_alternative_of_ne images (same ▸ mark) outermost]
            exact ⟨.cons first (induction _).1, (induction _).2⟩

theorem forall₂_inner
    (strips : ∀ {line other}, Related line other → Related (Text.strip line) (Text.strip other))
    (blanks : ∀ {line other}, Related line other → (Text.strip line = [] ↔ Text.strip other = []))
    (related : List.Forall₂ Related lines others) :
    List.Forall₂ Related (inner lines) (inner others) := by
  induction related with
  | nil => exact .nil
  | @cons line other rest images first related induction =>
      by_cases blank : Text.strip line = []
      · rw [inner_cons_blank blank, inner_cons_blank ((blanks first).mp blank)]
        exact induction
      · rw [inner_cons blank, inner_cons (mt (blanks first).mpr blank)]
        exact .cons (strips first) induction

end Block

/-! ## Lines in programs -/

namespace Program

theorem Header.command?_cases {code : Text} {command : Command}
    (opens : command? code = some command) : command = .branch ∨ command = .loop := by
  simp only [command?] at opens
  split at opens
  · exact .inl (Option.some.inj opens).symm
  · split at opens
    · exact .inr (Option.some.inj opens).symm
    · cases opens

/-- The lines are the same but for the letter case of names that commands look up. If `strictly`,
the names after the marks of values are spelled alike, too. -/
structure Exchanged (strictly : Prop) (line other : Text) : Prop extends
    Line.Respelled line other where
  mentions : strictly → Line.mentions line = Line.mentions other

namespace Exchanged

variable {strictly : Prop} {line other : Text} (exchanged : Exchanged strictly line other)

include exchanged

protected theorem strip : Exchanged strictly (Text.strip line) (Text.strip other) where
  toRespelled := exchanged.toRespelled.strip
  mentions strict := by
    rw [Line.mentions_congr (Line.code_strip line), Line.mentions_congr (Line.code_strip other),
      exchanged.mentions strict]

protected theorem code : Exchanged strictly (Line.code line) (Line.code other) where
  toRespelled := exchanged.toRespelled.code
  mentions strict := by
    rw [Line.mentions_congr (Line.code_code line), Line.mentions_congr (Line.code_code other),
      exchanged.mentions strict]

theorem blank_iff : Text.strip line = [] ↔ Text.strip other = [] :=
  Text.eq_nil_iff_of_uncased (Text.uncased_strip exchanged.letters)

theorem arguments_eq {command : Command}
    (opens : Header.command? (Line.code line) = some command) :
    (Text.words (Line.code line)).drop 1 = (Text.words (Line.code other)).drop 1 := by
  obtain ⟨first, rest, words, word⟩ := Header.words_of_command? opens
  have known : Line.command? line = some (command, rest) := by
    rw [Line.command?, words]
    simp only [word, Command.ofWord?_word, Option.map_some]
  -- The commands of blocks look nothing up, so that their arguments are told by the content.
  have block : ∀ arguments, command.uncased arguments = arguments := by
    rcases Header.command?_cases opens with rfl | rfl <;> exact fun _ => rfl
  have same := exchanged.content
  rw [Line.content, known] at same
  simp only at same
  unfold Line.content at same
  split at same
  · cases same
  · next found others otherKnown =>
      obtain ⟨rfl, arguments⟩ := Prod.mk.inj (Sum.inr.inj same)
      rw [block, block] at arguments
      rw [words, arguments]
      unfold Line.command? at otherKnown
      split at otherKnown
      · cases otherKnown
      · next otherWords =>
          obtain ⟨_, _, equal⟩ := Option.map_eq_some_iff.mp otherKnown
          cases equal
          rw [otherWords]
          rfl

theorem header_eq {command : Command} (opens : Header.command? (Line.code line) = some command) :
    Header.read command (Line.code line) = Header.read command (Line.code other) := by
  have lowered := Text.words_map_lower (Line.uncased_code exchanged.letters)
  have length : (Text.words (Line.code line)).length = (Text.words (Line.code other)).length := by
    simpa using congrArg List.length lowered
  have last : (Text.words (Line.code line)).getLast?.map Text.lower =
      (Text.words (Line.code other)).getLast?.map Text.lower := by
    rw [← List.getLast?_map, ← List.getLast?_map, lowered]
  simp only [Header.read, length, last, exchanged.arguments_eq opens]

end Exchanged

/-! ## Readings -/

section Readings

variable (strictly : Prop)

/-- The tasks differ only in exchanged lines. -/
inductive Task.Exchanged : Task → Task → Prop
  | sequence {number : Nat} {lines others : List Text}
      (exchanged : List.Forall₂ (Program.Exchanged strictly) lines others) :
      Task.Exchanged (.sequence number lines) (.sequence number others)
  | branch {condition : Text} {consequence alternative others another : List Text}
      (first : List.Forall₂ (Program.Exchanged strictly) consequence others)
      (second : List.Forall₂ (Program.Exchanged strictly) alternative another) :
      Task.Exchanged (.branch condition consequence alternative) (.branch condition others another)
  | loop {condition : Text} {body others : List Text} {limit : Int} {remaining : Nat}
      (exchanged : List.Forall₂ (Program.Exchanged strictly) body others) :
      Task.Exchanged (.loop condition body limit remaining)
        (.loop condition others limit remaining)

/-- The first lines are for the run the same, but for exchanged lines. -/
inductive Reading.Exchanged : Reading → Reading → Prop
  | skipped {machine : Machine} : Reading.Exchanged (.skipped machine) (.skipped machine)
  | refused {error : Error} : Reading.Exchanged (.refused error) (.refused error)
  | simple {code other : Text} (codes : Program.Exchanged strictly code other) :
      Reading.Exchanged (.simple code) (.simple other)
  | block {task other : Task} {length : Nat} {after others : List Text}
      (tasks : task.Exchanged strictly other)
      (lines : List.Forall₂ (Program.Exchanged strictly) after others) :
      Reading.Exchanged (.block task length after) (.block other length others)

end Readings

section Runs

variable {strictly : Prop}

theorem Task.Exchanged.ofBlock (command : Command) (condition : Text) {body others : List Text}
    (lines : List.Forall₂ (Program.Exchanged strictly) body others) :
    Task.Exchanged strictly (.ofBlock command condition body)
      (.ofBlock command condition others) := by
  have inner : ∀ {lines others : List Text},
      List.Forall₂ (Program.Exchanged strictly) lines others →
        List.Forall₂ (Program.Exchanged strictly) (Block.inner lines) (Block.inner others) :=
    Block.forall₂_inner (·.strip) (·.blank_iff)
  have parts := Block.forall₂_cutElse (fun related => Block.markOf_eq related.letters) lines 0
  unfold Task.ofBlock
  split
  · exact .branch (inner parts.1) (inner parts.2)
  · exact .loop (inner lines)

theorem Exchanged.reading {line other : Text} (exchanged : Exchanged strictly line other)
    {rest others : List Text} (lines : List.Forall₂ (Exchanged strictly) rest others)
    (machine : Machine) :
    Reading.Exchanged strictly (reading line rest machine) (reading other others machine) := by
  have codes : Exchanged strictly (Line.code (Text.strip line)) (Line.code (Text.strip other)) :=
    exchanged.strip.code
  have empty := Text.eq_nil_iff_of_uncased codes.letters
  have lowered := Text.lower_eq_of_uncased codes.letters
  have opening := Header.command?_eq codes.letters
  simp only [Program.reading, Line.startsWith_commentMark_eq exchanged.strip.letters]
  by_cases blank : Text.strip line = []
  · rw [if_pos blank, if_pos (exchanged.blank_iff.mp blank)]
    exact .skipped
  rw [if_neg blank, if_neg (mt exchanged.blank_iff.mpr blank)]
  by_cases mark : Text.startsWith (Text.strip other) Line.commentMark = true
  · rw [if_pos mark, if_pos mark]
    exact .skipped
  rw [if_neg mark, if_neg mark]
  by_cases comment : machine.current.inComment = true
  · rw [if_pos comment, if_pos comment]
    exact .skipped
  rw [if_neg comment, if_neg comment]
  by_cases remark : Line.code (Text.strip line) = []
  · rw [if_pos remark, if_pos (empty.mp remark)]
    exact .skipped
  rw [if_neg remark, if_neg (mt empty.mpr remark), ← opening, ← lowered]
  cases opens : Header.command? (Line.code (Text.strip line)) with
  | none =>
      by_cases alternative : Text.lower (Line.code (Text.strip line)) = Block.elseWord
      · simp only [if_pos alternative]
        exact .refused
      by_cases finish : Text.lower (Line.code (Text.strip line)) = Block.endWord
      · simp only [if_neg alternative, if_pos finish]
        exact .refused
      simp only [if_neg alternative, if_neg finish]
      exact .simple codes
  | some command =>
      have header := exchanged.strip.header_eq opens
      have cut := Block.forall₂_cutEnd? (fun related => Block.markOf_eq related.letters) lines 0
      simp only [← header]
      cases Header.read command (Line.code (Text.strip line)) with
      | error error => exact .refused
      | ok read =>
          generalize Block.cutEnd? 0 rest = found at cut
          generalize Block.cutEnd? 0 others = image at cut
          cases cut with
          | none => exact .refused
          | @some parts images related =>
              simp only [related.1.length_eq]
              exact .block (.ofBlock command read.condition related.1) related.2

theorem Exchanged.execute {World : Type} {host : Host World} {line other : Text}
    (exchanged : Exchanged strictly line other) {machine after : Machine} {world later : World}
    {outcome : Outcome} (executed : Line.execute host line machine world = (outcome, after, later))
    (legible : strictly ∨ machine.bindings.Writable) :
    Line.execute host other machine world = (outcome, after, later) :=
  (exchanged.execute_eq host world (legible.imp_left exchanged.mentions)).symm.trans executed

theorem Task.Exchanged.reading {number : Nat} {line : Text} {rest : List Text} {other : Task}
    {machine : Machine} {found : Reading}
    (exchanged : Task.Exchanged strictly (.sequence number (line :: rest)) other)
    (read : Program.reading line rest machine = found) :
    ∃ image others reading, other = .sequence number (image :: others) ∧
      List.Forall₂ (Program.Exchanged strictly) rest others ∧
      Program.reading image others machine = reading ∧ found.Exchanged strictly reading := by
  cases exchanged with
  | sequence lines =>
      cases lines with
      | @cons _ image _ others first lines =>
          exact ⟨image, others, _, rfl, lines, rfl, read ▸ first.reading lines machine⟩

theorem Task.Exchanged.sequence_ite {number : Nat}
    {consequence alternative others another : List Text} (truth : Bool)
    (first : List.Forall₂ (Program.Exchanged strictly) consequence others)
    (second : List.Forall₂ (Program.Exchanged strictly) alternative another) :
    Task.Exchanged strictly (.sequence number (if truth then consequence else alternative))
      (.sequence number (if truth then others else another)) := by
  cases truth with
  | true => exact .sequence first
  | false => exact .sequence second

/-- Tasks that differ only in exchanged lines take the same course, but for these lines. -/
theorem Ran.exchanged {World : Type} {host : Host World} {task other : Task}
    {machine after : Machine} {world later : World} {moments : List (Moment World)}
    {outcome : Outcome} (ran : Ran host task machine world moments outcome after later)
    (exchanged : task.Exchanged strictly other)
    (legible : ∀ moment ∈ moments, strictly ∨ moment.machine.bindings.Writable) :
    ∃ observed, Ran host other machine world observed outcome after later := by
  induction ran generalizing other with
  | finished =>
      cases exchanged with
      | sequence lines =>
          cases lines
          exact ⟨_, .finished⟩
  | skipped read next induction =>
      obtain ⟨_, _, _, rfl, lines, imageRead, image⟩ := exchanged.reading read
      cases image
      obtain ⟨_, rest⟩ := induction (.sequence lines) legible
      exact ⟨_, .skipped imageRead rest⟩
  | refused read =>
      obtain ⟨_, _, _, rfl, _, imageRead, image⟩ := exchanged.reading read
      cases image
      exact ⟨_, .refused imageRead⟩
  | line read executed next induction =>
      obtain ⟨_, _, _, rfl, lines, imageRead, image⟩ := exchanged.reading read
      rw [List.forall_mem_cons] at legible
      cases image with
      | simple codes =>
          obtain ⟨_, rest⟩ := induction (.sequence lines) legible.2
          exact ⟨_, .line imageRead (codes.execute executed legible.1) rest⟩
  | lineEnded read executed ended =>
      obtain ⟨_, _, _, rfl, _, imageRead, image⟩ := exchanged.reading read
      rw [List.forall_mem_singleton] at legible
      cases image with
      | simple codes => exact ⟨_, .lineEnded imageRead (codes.execute executed legible) ended⟩
  | block read inside next insideInduction induction =>
      obtain ⟨_, _, _, rfl, _, imageRead, image⟩ := exchanged.reading read
      rw [List.forall_mem_append] at legible
      cases image with
      | block tasks lines =>
          obtain ⟨_, body⟩ := insideInduction tasks legible.1
          obtain ⟨_, rest⟩ := induction (.sequence lines) legible.2
          exact ⟨_, .block imageRead body rest⟩
  | blockEnded read inside ended induction =>
      obtain ⟨_, _, _, rfl, _, imageRead, image⟩ := exchanged.reading read
      cases image with
      | block tasks lines =>
          obtain ⟨_, body⟩ := induction tasks legible
          exact ⟨_, .blockEnded imageRead body ended⟩
  | undecided tested =>
      cases exchanged
      exact ⟨_, .undecided tested⟩
  | chosen tested inside induction =>
      rw [List.forall_mem_cons] at legible
      cases exchanged with
      | branch first second =>
          obtain ⟨_, body⟩ := induction (.sequence_ite _ first second) legible.2
          exact ⟨_, .chosen tested body⟩
  | chosenEnded tested inside ended induction =>
      rw [List.forall_mem_cons] at legible
      cases exchanged with
      | branch first second =>
          obtain ⟨_, body⟩ := induction (.sequence_ite _ first second) legible.2
          exact ⟨_, .chosenEnded tested body ended⟩
  | loopUndecided tested =>
      cases exchanged
      exact ⟨_, .loopUndecided tested⟩
  | loopDone tested =>
      cases exchanged
      exact ⟨_, .loopDone tested⟩
  | loopLimited tested =>
      cases exchanged
      exact ⟨_, .loopLimited tested⟩
  | round tested inside next insideInduction induction =>
      rw [List.forall_mem_cons, List.forall_mem_append] at legible
      cases exchanged with
      | loop lines =>
          obtain ⟨_, body⟩ := insideInduction (.sequence lines) legible.2.1
          obtain ⟨_, rest⟩ := induction (.loop lines) legible.2.2
          exact ⟨_, .round tested body rest⟩
  | roundEnded tested inside ended induction =>
      rw [List.forall_mem_cons] at legible
      cases exchanged with
      | loop lines =>
          obtain ⟨_, body⟩ := induction (.sequence lines) legible.2
          exact ⟨_, .roundEnded tested body ended⟩

theorem forall₂_exchanged {lines others : List Text}
    (respelled : List.Forall₂ Line.Respelled lines others)
    (same : lines.map Line.mentions = others.map Line.mentions) :
    List.Forall₂ (Exchanged True) lines others := by
  induction respelled with
  | nil => exact .nil
  | cons first rest induction =>
      rw [List.map_cons, List.map_cons, List.cons.injEq] at same
      exact .cons ⟨first, fun _ => same.1⟩ (induction same.2)

/-- Programs that differ only in exchanged lines have the same result. -/
theorem Ran.run_exchanged {World : Type} {host : Host World} {source other : Text}
    {machine after : Machine} {world later : World} {moments : List (Moment World)}
    {outcome : Outcome}
    (ran : Ran host (.sequence 1 (Text.lines source)) machine world moments outcome after later)
    (exchanged : List.Forall₂ (Exchanged strictly) (Text.lines source) (Text.lines other))
    (legible : ∀ moment ∈ moments, strictly ∨ moment.machine.bindings.Writable) :
    run host other machine world = run host source machine world := by
  obtain ⟨_, imageRan⟩ := ran.exchanged (.sequence exchanged) legible
  have ended := ran.run_eq
  have imageEnded := imageRan.run_eq
  exact Prod.ext (Outcome.ofEnding_injective (imageEnded.1.trans ended.1.symm))
    (imageEnded.2.trans ended.2.symm)

end Runs

end Program

end Linewise
