import Linewise.Message
import Linewise.Proofs.References

/-!
Lines cut at quotes. Outside quotes references are searched for mark by mark, with the letters,
numbers and underscores after each mark; inside quotes nothing is replaced. So a line is replaced
chunk by chunk, and a chunk outside quotes as the text that it is.
-/

namespace Linewise

open Message (isQuote)

/-! ## Chunks -/

/-- A part of a line: as much as there is without quotes, or a quoted text with its quotes. -/
inductive Chunk
  | plain (text : Text)
  | quoted (text : Text)
deriving DecidableEq, Repr

namespace Chunk

def text : Chunk → Text
  | plain text | quoted text => text

def replaced (bindings : Bindings) : Chunk → Except Fault Text
  | plain text => substitute bindings text
  | quoted text => .ok text

end Chunk

def throughQuote (quote : Char) (text : Text) : Text :=
  text.takeWhile (· != quote) ++ (text.dropWhile (· != quote)).take 1

def afterQuote (quote : Char) (text : Text) : Text := (text.dropWhile (· != quote)).drop 1

theorem throughQuote_append_afterQuote (quote : Char) (text : Text) :
    throughQuote quote text ++ afterQuote quote text = text := by
  rw [throughQuote, afterQuote, List.append_assoc, List.take_append_drop,
    List.takeWhile_append_dropWhile]

theorem length_afterQuote_le (quote : Char) (text : Text) :
    (afterQuote quote text).length ≤ text.length := by
  have whole := congrArg List.length (throughQuote_append_afterQuote quote text)
  rw [List.length_append] at whole
  omega

/-- The chunks of a line. A quoted text goes from a quote outside quotes to the next one of its
kind, or to the end of the line. -/
def chunks (line : Text) : List Chunk :=
  match line with
  | [] => []
  | head :: tail =>
      if isQuote head then
        .quoted (head :: throughQuote head tail) :: chunks (afterQuote head tail)
      else
        .plain (head :: tail.takeWhile (!isQuote ·)) :: chunks (tail.dropWhile (!isQuote ·))
termination_by line.length
decreasing_by
  all_goals simp only [List.length_cons]
  · exact Nat.lt_succ_of_le (length_afterQuote_le head tail)
  · exact Nat.lt_succ_of_le (Text.length_dropWhile_le _ tail)

theorem flatMap_text_chunks (line : Text) : (chunks line).flatMap Chunk.text = line := by
  fun_induction chunks line with
  | case1 => rfl
  | case2 head tail quotes induction =>
      rw [List.flatMap_cons, induction, Chunk.text, List.cons_append,
        throughQuote_append_afterQuote]
  | case3 head tail unquoted induction =>
      rw [List.flatMap_cons, induction, Chunk.text, List.cons_append,
        List.takeWhile_append_dropWhile]

/-! ## Inside quotes -/

private theorem isQuote_iff {char : Char} : isQuote char = true ↔ char = '"' ∨ char = '\'' := by
  rw [isQuote, Bool.or_eq_true, decide_eq_true_eq, decide_eq_true_eq]

section Scans

variable (bindings : Bindings)

theorem substituteOutside_quoted (quote : Char) (text : Text) :
    substituteOutside bindings (some quote) 0 text =
      (substituteUnquoted bindings (afterQuote quote text)).map (throughQuote quote text ++ ·) := by
  induction text with
  | nil => rfl
  | cons head tail induction =>
      rw [substituteOutside]
      by_cases closes : head = quote
      · subst closes
        have through : throughQuote head (head :: tail) = [head] := by simp [throughQuote]
        have after : afterQuote head (head :: tail) = tail := by simp [afterQuote]
        rw [through, after, if_pos rfl, substituteUnquoted]
        cases substituteOutside bindings none 0 tail <;> rfl
      · have through : throughQuote quote (head :: tail) = head :: throughQuote quote tail := by
          simp [throughQuote, closes]
        have after : afterQuote quote (head :: tail) = afterQuote quote tail := by
          simp [afterQuote, closes]
        rw [through, after, if_neg closes, induction]
        cases substituteUnquoted bindings (afterQuote quote tail) <;> rfl

/-! ## Outside quotes -/

theorem substituteOutside_drop (skipped : Nat) (text : Text) :
    substituteOutside bindings none skipped text =
      substituteUnquoted bindings (text.drop skipped) := by
  induction skipped generalizing text with
  | zero => rfl
  | succ skipped induction =>
      cases text with
      | nil => rfl
      | cons head tail => exact induction tail

/-- A mark is cut out with all word characters after it, however few of them are its name. -/
private theorem substituteUnquoted_mark {mark : Char} (unquoted : isQuote mark = false)
    (marks : (Reference.ofMark? mark).isSome = true) (tail : Text) :
    substituteUnquoted bindings (mark :: tail) =
      (substitute bindings (mark :: tail.takeWhile Text.isWord)).bind fun shown =>
        (substituteUnquoted bindings (tail.dropWhile Text.isWord)).map (shown ++ ·) := by
  have apart : ¬(mark = '"' ∨ mark = '\'') := by simp [← isQuote_iff, unquoted]
  rw [substituteUnquoted, substituteOutside, if_neg apart, if_pos marks, isTakenAlong_eq]
  simp only [substituteOutside_drop, drop_length_takeWhile]
  cases substitute bindings (mark :: tail.takeWhile Text.isWord) with
  | error cause => rfl
  | ok shown => cases substituteUnquoted bindings (tail.dropWhile Text.isWord) <;> rfl

private theorem substituteUnquoted_cons {head : Char} (unquoted : isQuote head = false)
    (unmarked : Reference.ofMark? head = none) (tail : Text) :
    substituteUnquoted bindings (head :: tail) =
      (substituteUnquoted bindings tail).map (head :: ·) := by
  have apart : ¬(head = '"' ∨ head = '\'') := by simp [← isQuote_iff, unquoted]
  rw [substituteUnquoted, substituteOutside, if_neg apart, unmarked, Option.isSome_none,
    if_neg Bool.false_ne_true, ← substituteUnquoted]
  cases substituteUnquoted bindings tail <;> rfl

private theorem isWord_of_isQuote {char : Char} (quotes : isQuote char = true) :
    Text.isWord char = false := by
  rcases isQuote_iff.mp quotes with rfl | rfl <;> rfl

/-- A chunk outside quotes is replaced as a text. What the scan cuts out for a mark ends where no
name goes on, so that it holds the whole reference, and no reference begins inside it. -/
theorem substituteUnquoted_append {text rest : Text} (plain : ∀ char ∈ text, isQuote char = false)
    (ended : rest.head?.all isQuote = true) :
    substituteUnquoted bindings (text ++ rest) =
      (substitute bindings text).bind fun shown =>
        (substituteUnquoted bindings rest).map (shown ++ ·) := by
  have stops : rest.head?.any Text.isWord = false := by
    cases rest with
    | nil => rfl
    | cons next after => exact isWord_of_isQuote ended
  induction size : text.length using Nat.strongRecOn generalizing text with
  | ind length induction =>
      cases text with
      | nil => cases replaced : substituteUnquoted bindings rest <;> simp [replaced] <;> rfl
      | cons head tail =>
          rw [List.forall_mem_cons] at plain
          rw [List.length_cons] at size
          rw [List.cons_append]
          cases marks : Reference.ofMark? head with
          | none =>
              have alone : bindings.referenceAt? head tail = none := by
                rw [Bindings.referenceAt?, marks]
                rfl
              rw [substituteUnquoted_cons bindings plain.1 marks, substitute_cons alone,
                induction tail.length (by omega) plain.2 rfl]
              cases substitute bindings tail with
              | error cause => rfl
              | ok shown => cases substituteUnquoted bindings rest <;> rfl
          | some reference =>
              -- What is cut out ends before the quote, and the text after it is shorter.
              have along : (tail ++ rest).takeWhile Text.isWord = tail.takeWhile Text.isWord :=
                takeWhile_isWord_append stops tail
              have beyond : (tail ++ rest).dropWhile Text.isWord =
                  tail.dropWhile Text.isWord ++ rest := dropWhile_isWord_append stops tail
              have cut : head :: tail =
                  (head :: tail.takeWhile Text.isWord) ++ tail.dropWhile Text.isWord := by
                rw [List.cons_append, List.takeWhile_append_dropWhile]
              have shorter : (tail.dropWhile Text.isWord).length < length := by
                have bound := Text.length_dropWhile_le Text.isWord tail
                omega
              have plainBeyond : ∀ char ∈ tail.dropWhile Text.isWord, isQuote char = false :=
                fun char member => plain.2 char ((List.dropWhile_sublist _).mem member)
              rw [substituteUnquoted_mark bindings plain.1 (by rw [marks]; rfl), along, beyond,
                induction _ shorter plainBeyond rfl, cut,
                substitute_append_ended (head?_dropWhile_isWord tail)]
              cases substitute bindings (head :: tail.takeWhile Text.isWord) with
              | error cause => rfl
              | ok shown =>
                  cases substitute bindings (tail.dropWhile Text.isWord) with
                  | error cause => rfl
                  | ok shownBeyond =>
                      cases substituteUnquoted bindings rest with
                      | error cause => rfl
                      | ok later => simp [Except.bind, Except.map]

/-! ## Chunk by chunk -/

theorem substituteUnquoted_chunks (line : Text) :
    substituteUnquoted bindings line =
      ((chunks line).mapM (Chunk.replaced bindings)).map List.flatten := by
  fun_induction chunks line with
  | case1 => rfl
  | case2 head tail quotes induction =>
      rw [substituteUnquoted, substituteOutside, if_pos (isQuote_iff.mp quotes),
        substituteOutside_quoted, induction, List.mapM_cons, Chunk.replaced]
      cases (chunks (afterQuote head tail)).mapM (Chunk.replaced bindings) <;> rfl
  | case3 head tail unquoted induction =>
      have cut : head :: tail =
          (head :: tail.takeWhile (!isQuote ·)) ++ tail.dropWhile (!isQuote ·) := by
        rw [List.cons_append, List.takeWhile_append_dropWhile]
      have plain : ∀ char ∈ head :: tail.takeWhile (!isQuote ·), isQuote char = false := by
        rw [List.forall_mem_cons]
        refine ⟨Bool.eq_false_iff.mpr unquoted, ?_⟩
        intro char member
        simpa using List.mem_takeWhile_imp member
      have ended : (tail.dropWhile (!isQuote ·)).head?.all isQuote = true := by
        have stopped := List.head?_dropWhile_not (!isQuote ·) tail
        cases after : tail.dropWhile (!isQuote ·) with
        | nil => rfl
        | cons next rest =>
            rw [after] at stopped
            simpa using stopped
      rw [cut, substituteUnquoted_append bindings plain ended, induction, List.mapM_cons,
        Chunk.replaced]
      cases substitute bindings (head :: tail.takeWhile (!isQuote ·)) with
      | error cause => rfl
      | ok shown =>
          cases (chunks (tail.dropWhile (!isQuote ·))).mapM (Chunk.replaced bindings) <;> rfl

private theorem exists_of_mapM_replaced {all : List Chunk} {cause : Fault}
    (failed : all.mapM (Chunk.replaced bindings) = .error cause) :
    ∃ before text after, all = before ++ .plain text :: after ∧
      (∀ chunk ∈ before, ∃ shown, chunk.replaced bindings = .ok shown) ∧
      substitute bindings text = .error cause := by
  induction all with
  | nil => cases failed
  | cons chunk rest induction =>
      rw [List.mapM_cons, bind_eq_error] at failed
      rcases failed with here | ⟨shown, fine, failed⟩
      · cases chunk with
        | plain text => exact ⟨[], text, rest, rfl, nofun, here⟩
        | quoted text => cases here
      · rcases bind_eq_error.mp failed with later | ⟨_, _, impossible⟩
        · rcases induction later with ⟨before, text, after, rfl, earlier, fails⟩
          exact ⟨chunk :: before, text, after, rfl,
            List.forall_mem_cons.mpr ⟨⟨shown, fine⟩, earlier⟩, fails⟩
        · cases impossible

private theorem mapM_replaced_eq_error {before : List Chunk} {text : Text} {cause : Fault}
    (fine : ∀ chunk ∈ before, ∃ shown, chunk.replaced bindings = .ok shown)
    (fails : substitute bindings text = .error cause) (after : List Chunk) :
    (before ++ .plain text :: after).mapM (Chunk.replaced bindings) = .error cause := by
  induction before with
  | nil =>
      rw [List.nil_append, List.mapM_cons, Chunk.replaced, fails]
      rfl
  | cons chunk rest induction =>
      rw [List.forall_mem_cons] at fine
      rcases fine.1 with ⟨shown, replaced⟩
      rw [List.cons_append, List.mapM_cons, replaced, induction fine.2]
      rfl

theorem substituteUnquoted_of_plain {line : Text} (plain : ∀ char ∈ line, isQuote char = false) :
    substituteUnquoted bindings line = substitute bindings line := by
  have ended : ([] : Text).head?.all isQuote = true := rfl
  have whole := substituteUnquoted_append bindings plain ended
  rw [List.append_nil] at whole
  rw [whole]
  cases substitute bindings line with
  | error cause => rfl
  | ok shown => simp [substituteUnquoted, substituteOutside, Except.bind, Except.map]

end Scans

/-- The references of a line are replaced chunk by chunk: quoted chunks stay, and in the others
every reference is replaced, in order and up to the first that fails. -/
theorem substituteUnquoted_by_chunks (bindings : Bindings) (line : Text) :
    (chunks line).flatMap Chunk.text = line ∧
      substituteUnquoted bindings line =
        ((chunks line).mapM (Chunk.replaced bindings)).map List.flatten ∧
      (∀ cause, substituteUnquoted bindings line = .error cause ↔
        ∃ before text after, chunks line = before ++ .plain text :: after ∧
          (∀ chunk ∈ before, ∃ shown, chunk.replaced bindings = .ok shown) ∧
          substitute bindings text = .error cause) ∧
      ((∀ char ∈ line, isQuote char = false) →
        substituteUnquoted bindings line = substitute bindings line) := by
  refine ⟨flatMap_text_chunks line, substituteUnquoted_chunks bindings line, ?_,
    substituteUnquoted_of_plain bindings⟩
  intro cause
  have failure : substituteUnquoted bindings line = .error cause ↔
      (chunks line).mapM (Chunk.replaced bindings) = .error cause := by
    rw [substituteUnquoted_chunks]
    cases (chunks line).mapM (Chunk.replaced bindings) <;> simp [Except.map]
  rw [failure]
  constructor
  · exact exists_of_mapM_replaced bindings
  · rintro ⟨before, text, after, cut, fine, fails⟩
    rw [cut]
    exact mapM_replaced_eq_error bindings fine fails after

/-- A mark before another mark, marks in quotes and a mark before a digit stay. -/
theorem substituteUnquoted_by_chunks_marks :
    let bindings : Bindings := fun word =>
      if word = ['x'] then some ⟨DataType.integer.name, .integer 7, false⟩ else none
    chunks "@@x'@x'@1a".toList =
        [.plain "@@x".toList, .quoted "'@x'".toList, .plain "@1a".toList] ∧
      substituteUnquoted bindings "@@x'@x'@1a".toList = .ok "@7'@x'@1a".toList ∧
      substituteUnquoted bindings "@@x".toList = .ok "@7".toList := by
  intro bindings
  have cut : chunks "@@x'@x'@1a".toList =
      [.plain "@@x".toList, .quoted "'@x'".toList, .plain "@1a".toList] := by decide +kernel
  have whole := (substituteUnquoted_by_chunks bindings "@@x'@x'@1a".toList).2.1
  have unquoted : "@@x".toList.all (!isQuote ·) = true := by decide
  have plain := (substituteUnquoted_by_chunks bindings "@@x".toList).2.2.2 fun char member => by
    simpa using List.all_eq_true.mp unquoted char member
  refine ⟨cut, ?_, ?_⟩
  · rw [whole, cut]
    rfl
  · rw [plain]
    rfl

end Linewise
