import Linewise.Proofs.Block
import Linewise.Proofs.Tree

/-!
Trees written down as lines. The marks of the lines are those of the statements that they belong to,
so that counting marks finds the ends and the alternatives of blocks where the tree has them. Every
tree can be written down.
-/

namespace Linewise

/-! ## Marks of rendered lines -/

private theorem isKeyword_block {command : Command} (block : command = .branch ∨ command = .loop) :
    Text.IsKeyword command.word := by
  rcases block with rfl | rfl <;> decide

theorem SimpleLine.markOf {simple : SimpleLine} {line : Text}
    (written : Text.strip line = Text.strip simple.text) : Block.markOf line = .other := by
  have noIf := simple.noHeader Block.ifStart (by simp)
  have noWhile := simple.noHeader Block.whileStart (by simp)
  have noDelimiter := simple.noDelimiter
  rw [List.mem_cons, List.mem_singleton, not_or] at noDelimiter
  rw [Block.markOf, written]
  simp [noIf, noWhile, noDelimiter.1, noDelimiter.2]

theorem IsDelimiter.lower {word line : Text} (keyword : Text.IsKeyword word)
    (delimiter : IsDelimiter word line) : Text.lower (Text.strip line) = word :=
  Text.Spells.lower_eq keyword delimiter

theorem IsDelimiter.markOf_end {line : Text} (closed : IsDelimiter Block.endWord line) :
    Block.markOf line = .closing := by
  rw [Block.markOf, closed.lower (by decide)]
  decide

theorem IsDelimiter.markOf_else {line : Text} (parted : IsDelimiter Block.elseWord line) :
    Block.markOf line = .alternative := by
  rw [Block.markOf, parted.lower (by decide)]
  decide

namespace IsHeader

variable {command : Command} {condition : ConditionWords} {line : Text}

private theorem text_eq {first last : Text} :
    Text.join [' '] (first :: condition.words ++ [last]) =
      first ++ ' ' :: Text.join [' '] (condition.words ++ [last]) := by
  rw [Text.join, List.cons_append, List.intercalate_cons_of_ne_nil (by simp),
    List.append_assoc]
  rfl

theorem startsWith_lower (block : command = .branch ∨ command = .loop)
    (header : IsHeader command condition line) :
    Text.startsWith (Text.lower (Text.strip line)) (command.word ++ [' ']) = true := by
  obtain ⟨first, last, spelled, _, written⟩ := header
  obtain ⟨lowered, equal⟩ := spelled.lower_append (isKeyword_block block)
    (Text.join [' '] (condition.words ++ [last]))
  rw [written, text_eq, equal, Text.startsWith, List.isPrefixOf_iff_prefix]
  exact ⟨lowered, by simp⟩

theorem markOf (block : command = .branch ∨ command = .loop)
    (header : IsHeader command condition line) : Block.markOf line = .opening := by
  have start := header.startsWith_lower block
  rcases block with rfl | rfl
  · have start : Text.startsWith (Text.lower (Text.strip line)) Block.ifStart = true := start
    simp [Block.markOf, start]
  · have start : Text.startsWith (Text.lower (Text.strip line)) Block.whileStart = true := start
    simp [Block.markOf, start]

theorem command? (block : command = .branch ∨ command = .loop)
    (header : IsHeader command condition line) :
    Program.Header.command? (Text.strip line) = some command := by
  have start := header.startsWith_lower block
  rcases block with rfl | rfl
  · have start : Text.startsWith (Text.lower (Text.strip line)) Block.ifStart = true := start
    simp [Program.Header.command?, start]
  · have start : Text.startsWith (Text.lower (Text.strip line)) Block.whileStart = true := start
    -- A text cannot begin with both words.
    have other : Text.startsWith (Text.lower (Text.strip line)) Block.ifStart = false := by
      rw [Text.startsWith, List.isPrefixOf_iff_prefix] at start
      obtain ⟨rest, equal⟩ := start
      rw [← equal]
      rfl
    simp [Program.Header.command?, start, other]

theorem words_eq (block : command = .branch ∨ command = .loop)
    (header : IsHeader command condition line) :
    ∃ first last, Text.Spells doWord last ∧
      Text.words (Text.strip line) = first :: condition.words ++ [last] := by
  obtain ⟨first, last, spelled, ending, written⟩ := header
  refine ⟨first, last, ending, ?_⟩
  rw [written]
  apply Text.words_join
  intro part member
  rw [List.cons_append, List.mem_cons, List.mem_append, List.mem_singleton] at member
  rcases member with rfl | member | rfl
  · exact spelled.isSolid (isKeyword_block block)
  · exact condition.solid part member
  · exact ending.isSolid (by decide)

theorem read (block : command = .branch ∨ command = .loop)
    (header : IsHeader command condition line) :
    Program.Header.read command (Text.strip line) = .ok ⟨command, condition.text⟩ := by
  obtain ⟨first, last, ending, words⟩ := header.words_eq block
  have several : 3 ≤ (first :: condition.words ++ [last]).length := by
    have positive := List.length_pos_iff.mpr condition.nonempty
    simp only [List.cons_append, List.length_cons, List.length_append, List.length_nil]
    omega
  have final : (first :: condition.words ++ [last]).getLast?.map Text.lower =
      some "do".toList := by
    rw [List.getLast?_concat, Option.map_some, ending.lower_eq (by decide)]
    rfl
  rw [Program.Header.read, words]
  simp only [several, final, and_self, if_true]
  simp [ConditionWords.text]

theorem notMem_comment (block : command = .branch ∨ command = .loop)
    (header : IsHeader command condition line) : '#' ∉ Text.strip line := by
  obtain ⟨first, last, spelled, ending, written⟩ := header
  intro member
  rw [written] at member
  rcases Text.mem_join member with inside | ⟨part, present, inside⟩
  · exact absurd inside (by decide)
  · rw [List.cons_append, List.mem_cons, List.mem_append, List.mem_singleton] at present
    rcases present with rfl | present | rfl
    · exact spelled.notMem_comment (isKeyword_block block) inside
    · exact condition.noComment part present inside
    · exact ending.notMem_comment (by decide) inside

theorem strip_ne_nil (block : command = .branch ∨ command = .loop)
    (header : IsHeader command condition line) : Text.strip line ≠ [] := by
  intro empty
  have mark := header.markOf block
  rw [Block.markOf_blank empty] at mark
  cases mark

end IsHeader

/-! ## Cutting rendered blocks -/

/-- The search for the end of a block passes over a rendered tree, and is as deep in blocks after
it as before. -/
theorem Renders.cutEnd?_append {tree : Tree} {lines : List Text} (rendered : Renders tree lines)
    (depth : Nat) (rest : List Text) :
    Block.cutEnd? depth (lines ++ rest) =
      (Block.cutEnd? depth rest).map fun (body, after) => (lines ++ body, after) := by
  induction rendered generalizing depth rest with
  | done => simp
  | blank blank _ induction =>
      have mark := Block.markOf_blank blank
      rw [List.cons_append, Block.cutEnd?_inside _ _ (by simp [mark]) (by simp [mark]), induction]
      simp [Function.comp_def]
  | line written _ induction =>
      have mark := SimpleLine.markOf written
      rw [List.cons_append, Block.cutEnd?_inside _ _ (by simp [mark]) (by simp [mark]), induction]
      simp [Function.comp_def]
  | branch opened _ closed _ inside after =>
      rw [List.cons_append, Block.cutEnd?_opening _ _ (opened.markOf (.inl rfl)),
        List.append_assoc, inside, List.cons_append,
        Block.cutEnd?_closing_succ _ _ closed.markOf_end, after]
      simp [Function.comp_def]
  | choice opened _ parted _ closed _ inside otherwise after =>
      have mark := parted.markOf_else
      rw [List.cons_append, Block.cutEnd?_opening _ _ (opened.markOf (.inl rfl)),
        List.append_assoc, inside, List.cons_append,
        Block.cutEnd?_inside _ _ (by simp [mark]) (by simp [mark]), List.append_assoc, otherwise,
        List.cons_append, Block.cutEnd?_closing_succ _ _ closed.markOf_end, after]
      simp [Function.comp_def]
  | loop opened _ closed _ inside after =>
      rw [List.cons_append, Block.cutEnd?_opening _ _ (opened.markOf (.inr rfl)),
        List.append_assoc, inside, List.cons_append,
        Block.cutEnd?_closing_succ _ _ closed.markOf_end, after]
      simp [Function.comp_def]

/-- The search for an alternative passes over a rendered tree, whose own alternatives all lie
deeper. -/
theorem Renders.cutElse_append {tree : Tree} {lines : List Text} (rendered : Renders tree lines)
    {level : Int} (inBlock : 0 ≤ level) (rest : List Text) :
    Block.cutElse level (lines ++ rest) =
      (lines ++ (Block.cutElse level rest).1, (Block.cutElse level rest).2) := by
  induction rendered generalizing level rest with
  | done => rfl
  | blank blank _ induction =>
      rw [List.cons_append, Block.cutElse_other _ _ (Block.markOf_blank blank), induction inBlock]
      rfl
  | line written _ induction =>
      rw [List.cons_append, Block.cutElse_other _ _ (SimpleLine.markOf written),
        induction inBlock]
      rfl
  | branch opened _ closed _ inside after =>
      have deeper : 0 ≤ level + 1 := by omega
      rw [List.cons_append, Block.cutElse_opening _ _ (opened.markOf (.inl rfl)),
        List.append_assoc, inside deeper, List.cons_append,
        Block.cutElse_closing _ _ closed.markOf_end, Int.add_sub_cancel, after inBlock]
      simp
  | choice opened _ parted _ closed _ inside otherwise after =>
      have deeper : 0 ≤ level + 1 := by omega
      rw [List.cons_append, Block.cutElse_opening _ _ (opened.markOf (.inl rfl)),
        List.append_assoc, inside deeper, List.cons_append,
        Block.cutElse_alternative_of_ne _ parted.markOf_else (by omega), List.append_assoc,
        otherwise deeper, List.cons_append, Block.cutElse_closing _ _ closed.markOf_end,
        Int.add_sub_cancel, after inBlock]
      simp
  | loop opened _ closed _ inside after =>
      have deeper : 0 ≤ level + 1 := by omega
      rw [List.cons_append, Block.cutElse_opening _ _ (opened.markOf (.inr rfl)),
        List.append_assoc, inside deeper, List.cons_append,
        Block.cutElse_closing _ _ closed.markOf_end, Int.add_sub_cancel, after inBlock]
      simp

theorem Renders.cutElse_eq {tree : Tree} {lines : List Text} (rendered : Renders tree lines) :
    Block.cutElse 0 lines = (lines, none) := by
  have cut := rendered.cutElse_append (Int.le_refl 0) []
  simpa [Block.cutElse] using cut

theorem Renders.cutEnd?_block {tree : Tree} {body : List Text} {finish : Text}
    (inside : Renders tree body) (closed : IsDelimiter Block.endWord finish) (rest : List Text) :
    Block.cutEnd? 0 (body ++ finish :: rest) = some (body, rest) := by
  rw [inside.cutEnd?_append, Block.cutEnd?_closing_zero _ closed.markOf_end]
  simp

section Choices

variable {consequence alternative : Tree} {body other : List Text} {middle finish : Text}
  (inside : Renders consequence body) (parted : IsDelimiter Block.elseWord middle)

include inside parted

theorem Renders.cutEnd?_choice (otherwise : Renders alternative other)
    (closed : IsDelimiter Block.endWord finish) (rest : List Text) :
    Block.cutEnd? 0 (body ++ middle :: (other ++ finish :: rest)) =
      some (body ++ middle :: other, rest) := by
  have mark := parted.markOf_else
  rw [inside.cutEnd?_append, Block.cutEnd?_inside _ _ (by simp [mark]) (by simp [mark]),
    otherwise.cutEnd?_block closed]
  simp

theorem Renders.cutElse_choice (other : List Text) :
    Block.cutElse 0 (body ++ middle :: other) = (body, some other) := by
  rw [inside.cutElse_append (Int.le_refl 0), Block.cutElse_alternative_zero _ parted.markOf_else]
  simp

end Choices

/-! ## Rendered blocks as programs -/

theorem IsHeader.strip {command : Command} {condition : ConditionWords} {line : Text}
    (header : IsHeader command condition line) : IsHeader command condition (Text.strip line) := by
  obtain ⟨first, last, spelled, ending, written⟩ := header
  exact ⟨first, last, spelled, ending, by rw [Text.strip_strip, written]⟩

theorem IsDelimiter.strip {word line : Text} (delimiter : IsDelimiter word line) :
    IsDelimiter word (Text.strip line) := by
  rwa [IsDelimiter, Text.strip_strip]

theorem IsDelimiter.strip_ne_nil {word line : Text} (keyword : Text.IsKeyword word)
    (delimiter : IsDelimiter word line) : Text.strip line ≠ [] :=
  (Text.Spells.isSolid keyword delimiter).1

/-- What is left of a rendered tree without blank lines and blanks at the ends of lines renders the
same tree. -/
theorem Renders.inner {tree : Tree} {lines : List Text} (rendered : Renders tree lines) :
    Renders tree (Block.inner lines) := by
  induction rendered with
  | done => exact .done
  | blank blank _ induction =>
      rw [Block.inner_cons_blank blank]
      exact induction
  | @line simple next line after written _ induction =>
      rw [Block.inner_cons (written ▸ simple.notBlank)]
      exact .line (by rw [Text.strip_strip, written]) induction
  | branch opened _ closed _ inside after =>
      rw [Block.inner_cons (opened.strip_ne_nil (.inl rfl)), Block.inner_append,
        Block.inner_cons (closed.strip_ne_nil (by decide))]
      exact .branch opened.strip inside closed.strip after
  | choice opened _ parted _ closed _ inside otherwise after =>
      rw [Block.inner_cons (opened.strip_ne_nil (.inl rfl)), Block.inner_append,
        Block.inner_cons (parted.strip_ne_nil (by decide)), Block.inner_append,
        Block.inner_cons (closed.strip_ne_nil (by decide))]
      exact .choice opened.strip inside parted.strip otherwise closed.strip after
  | loop opened _ closed _ inside after =>
      rw [Block.inner_cons (opened.strip_ne_nil (.inr rfl)), Block.inner_append,
        Block.inner_cons (closed.strip_ne_nil (by decide))]
      exact .loop opened.strip inside closed.strip after

/-! ## Writing a tree down -/

namespace Tree

def headerLine (command : Command) (condition : ConditionWords) : Text :=
  Text.join [' '] (command.word :: condition.words ++ [doWord])

def lines : Tree → List Text
  | done => []
  | line simple next => simple.text :: next.lines
  | branch condition consequence next =>
      headerLine .branch condition :: (consequence.lines ++ Block.endWord :: next.lines)
  | choice condition consequence alternative next =>
      headerLine .branch condition ::
        (consequence.lines ++ Block.elseWord :: (alternative.lines ++ Block.endWord :: next.lines))
  | loop condition body next =>
      headerLine .loop condition :: (body.lines ++ Block.endWord :: next.lines)

def text (tree : Tree) : Text := tree.lines.flatMap (· ++ ['\n'])

private theorem solid_headerLine {command : Command} {condition : ConditionWords}
    (block : command = .branch ∨ command = .loop) :
    ∀ part ∈ command.word :: condition.words ++ [doWord], Text.IsSolid part := by
  intro part member
  rw [List.cons_append, List.mem_cons, List.mem_append, List.mem_singleton] at member
  rcases member with rfl | member | rfl
  · rcases block with rfl | rfl <;> decide
  · exact condition.solid part member
  · decide

theorem isHeader_headerLine {command : Command} (condition : ConditionWords)
    (block : command = .branch ∨ command = .loop) :
    IsHeader command condition (headerLine command condition) := by
  refine ⟨command.word, doWord, ?_, by decide, Text.strip_join (solid_headerLine block)⟩
  rcases block with rfl | rfl <;> decide

theorem isOneLine_headerLine {command : Command} (condition : ConditionWords)
    (block : command = .branch ∨ command = .loop) :
    Text.IsOneLine (headerLine command condition) := by
  intro char member
  rcases Text.mem_join member with space | ⟨part, present, inside⟩
  · rw [List.mem_singleton] at space
    subst space
    decide
  · exact (solid_headerLine block part present).isOneLine char inside

theorem renders_lines (tree : Tree) : Renders tree tree.lines := by
  induction tree with
  | done => exact .done
  | line simple next induction => exact .line rfl induction
  | branch condition consequence next inside after =>
      exact .branch (isHeader_headerLine condition (.inl rfl)) inside (by decide) after
  | choice condition consequence alternative next inside otherwise after =>
      exact .choice (isHeader_headerLine condition (.inl rfl)) inside (by decide) otherwise
        (by decide) after
  | loop condition body next inside after =>
      exact .loop (isHeader_headerLine condition (.inr rfl)) inside (by decide) after

theorem isOneLine_lines (tree : Tree) : ∀ line ∈ tree.lines, Text.IsOneLine line := by
  have delimiter : ∀ word ∈ [Block.endWord, Block.elseWord], Text.IsOneLine word := by decide
  have finish := delimiter Block.endWord (by simp)
  have middle := delimiter Block.elseWord (by simp)
  induction tree with
  | done => exact nofun
  | line simple next induction =>
      rw [lines, List.forall_mem_cons]
      exact ⟨simple.oneLine, induction⟩
  | branch condition consequence next inside after =>
      rw [lines, List.forall_mem_cons, List.forall_mem_append, List.forall_mem_cons]
      exact ⟨isOneLine_headerLine condition (.inl rfl), inside, finish, after⟩
  | choice condition consequence alternative next inside otherwise after =>
      rw [lines, List.forall_mem_cons, List.forall_mem_append, List.forall_mem_cons,
        List.forall_mem_append, List.forall_mem_cons]
      exact ⟨isOneLine_headerLine condition (.inl rfl), inside, middle, otherwise, finish, after⟩
  | loop condition body next inside after =>
      rw [lines, List.forall_mem_cons, List.forall_mem_append, List.forall_mem_cons]
      exact ⟨isOneLine_headerLine condition (.inr rfl), inside, finish, after⟩

/-- Every tree is written down by its text. -/
theorem renders_text (tree : Tree) : Renders tree (Text.lines tree.text) := by
  rw [text, Text.lines_flatMap tree.isOneLine_lines]
  exact tree.renders_lines

end Tree

end Linewise
