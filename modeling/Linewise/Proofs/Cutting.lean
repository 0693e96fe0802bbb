import Linewise.Proofs.Outlet

/-!
Captured text, and how it is cut into writes. What is pending after some writes, and the lines that
are not blank among those handed on, depend on the whole text alone. A write that leaves a line open
passes over the blank lines that end in it, so that blank lines may get lost; which ones depends on
the cuts, unless nothing but line ends comes after a blank line.
-/

namespace Linewise.Session

/-! ## Lines that have ended -/

def endedLines (begun : Text) : Text → List Text
  | [] => []
  | head :: tail =>
      if head = '\n' then begun :: endedLines [] tail else endedLines (begun ++ [head]) tail

theorem endedLines_append (begun first second : Text) :
    endedLines begun (first ++ second) =
      endedLines begun first ++ endedLines (openLine begun first) second := by
  induction first generalizing begun with
  | nil => rfl
  | cons head tail induction =>
      rw [List.cons_append, endedLines, endedLines, openLine, List.foldl_cons]
      by_cases ends : head = '\n'
      · rw [if_pos ends, if_pos ends, if_pos ends, induction, List.cons_append]
        rfl
      · rw [if_neg ends, if_neg ends, if_neg ends, induction]
        rfl

theorem endedLines_of_not_mem (begun : Text) {text : Text} (unended : '\n' ∉ text) :
    endedLines begun text = [] := by
  induction text generalizing begun with
  | nil => rfl
  | cons head tail induction =>
      obtain ⟨other, rest⟩ := List.ne_and_not_mem_of_not_mem_cons unended
      rw [endedLines, if_neg (Ne.symm other)]
      exact induction _ rest

theorem flatMap_endedLines (begun text : Text) :
    (endedLines begun text).flatMap (· ++ ['\n']) ++ openLine begun text = begun ++ text := by
  induction text generalizing begun with
  | nil => simp [endedLines, openLine]
  | cons head tail induction =>
      rw [endedLines, openLine, List.foldl_cons]
      by_cases ends : head = '\n'
      · rw [if_pos ends, if_pos ends, List.flatMap_cons, List.append_assoc]
        have rest := induction []
        rw [openLine, List.nil_append] at rest
        rw [rest, ends, List.append_assoc, List.singleton_append]
      · rw [if_neg ends, if_neg ends]
        have rest := induction (begun ++ [head])
        rw [openLine] at rest
        rw [rest, List.append_assoc, List.singleton_append]

theorem nil_mem_endedLines {begun text : Text} :
    [] ∈ endedLines begun text ↔
      ∃ start rest, text = start ++ '\n' :: rest ∧ openLine begun start = [] := by
  constructor
  · intro blank
    induction text generalizing begun with
    | nil => cases blank
    | cons head tail induction =>
        rw [endedLines] at blank
        split at blank
        · next ends =>
            rcases List.mem_cons.mp blank with nothing | later
            · exact ⟨[], tail, by rw [ends, List.nil_append], nothing.symm⟩
            · obtain ⟨start, rest, rfl, closed⟩ := induction later
              refine ⟨head :: start, rest, rfl, ?_⟩
              rw [openLine, List.foldl_cons, if_pos ends]
              exact closed
        · next inside =>
            obtain ⟨start, rest, rfl, closed⟩ := induction blank
            refine ⟨head :: start, rest, rfl, ?_⟩
            rw [openLine, List.foldl_cons, if_neg inside]
            exact closed
  · rintro ⟨start, rest, rfl, closed⟩
    rw [endedLines_append, closed, endedLines, if_pos rfl]
    exact List.mem_append_right _ List.mem_cons_self

theorem openLine_concat (begun text : Text) (last : Char) :
    openLine begun (text ++ [last]) = if last = '\n' then [] else openLine begun text ++ [last] :=
  openLine_append begun text [last]

theorem not_mem_openLine {begun : Text} (unended : '\n' ∉ begun) (text : Text) :
    '\n' ∉ openLine begun text := by
  induction text using List.reverseRecOn with
  | nil => exact unended
  | append_singleton text last induction =>
      rw [openLine_concat]
      split
      · exact List.not_mem_nil
      · next inside => simp [induction, Ne.symm inside]

theorem openLine_of_line_ends {text : Text} (ends : ∀ char ∈ text, char = '\n') :
    openLine [] text = [] := by
  cases text using List.reverseRecOn with
  | nil => rfl
  | append_singleton text last => rw [openLine_concat, if_pos (ends last (by simp))]

theorem openLine_eq_nil_iff {begun text : Text} (ended : '\n' ∈ text) :
    openLine begun text = [] ↔ ['\n'] <:+ text := by
  cases text using List.reverseRecOn with
  | nil => cases ended
  | append_singleton text last =>
      rw [openLine_concat]
      by_cases ends : last = '\n'
      · simp [ends]
      · simp [ends, List.suffix_iff_eq_append, Ne.symm ends]

theorem modifyHead_splitAt (begun text : Text) :
    (Text.splitAt '\n' text).modifyHead (begun ++ ·) =
      endedLines begun text ++ [openLine begun text] := by
  induction text generalizing begun with
  | nil => simp [Text.splitAt, endedLines, openLine]
  | cons head tail induction =>
      rw [endedLines, openLine, List.foldl_cons, Text.splitAt]
      by_cases ends : head = '\n'
      · have rest := induction []
        rw [modifyHead_nil_append] at rest
        rw [if_pos ends, if_pos ends, if_pos ends, rest, List.modifyHead_cons, List.append_nil]
        rfl
      · have rest := induction (begun ++ [head])
        rw [if_neg ends, if_neg ends, if_neg ends]
        refine Eq.trans ?_ rest
        cases pieces : Text.splitAt '\n' tail with
        | nil => exact absurd pieces (splitAt_ne_nil '\n' tail)
        | cons piece others => simp

/-! ## Writes -/

namespace Capture

def IsOpen (capture : Capture) : Prop := '\n' ∉ capture.pending

theorem isOpen_write {capture : Capture} (isOpen : capture.IsOpen) (text : Text) :
    (capture.write text).2.IsOpen := by
  rw [IsOpen, pending_write]
  exact not_mem_openLine isOpen text

/-- A write hands on the lines that end in it, without the blank ones if it leaves a line open. -/
theorem lines_write {capture : Capture} (isOpen : capture.IsOpen) (text : Text) :
    (capture.write text).1 = (endedLines capture.pending text).filter fun line =>
      (openLine capture.pending text).isEmpty || !line.isEmpty := by
  have opened : openLine [] capture.pending = capture.pending := openLine_of_not_mem [] isOpen
  unfold write
  simp only [List.contains_iff_mem]
  split
  · next ended =>
      have collected :
          endedLines [] (capture.pending ++ text) = endedLines capture.pending text := by
        rw [endedLines_append, endedLines_of_not_mem [] isOpen, opened, List.nil_append]
      have pieces := modifyHead_splitAt [] (capture.pending ++ text)
      rw [modifyHead_nil_append, collected] at pieces
      have complete : Text.endsWith (capture.pending ++ text) ['\n'] =
          (openLine capture.pending text).isEmpty := by
        rw [Bool.eq_iff_iff, Text.endsWith, List.isSuffixOf_iff_suffix, List.isEmpty_iff,
          ← @openLine_eq_nil_iff [] _ (List.mem_append_right _ ended), openLine_append, opened]
      simp only [pieces, List.dropLast_concat, complete]
  · next unended => rw [endedLines_of_not_mem _ unended, List.filter_nil]

theorem lines_write_sublist {capture : Capture} (isOpen : capture.IsOpen) (text : Text) :
    (capture.write text).1.Sublist (endedLines capture.pending text) := by
  rw [lines_write isOpen]
  exact List.filter_sublist

/-- A write loses blank lines: one ends in it, and it leaves a line open. -/
def Loses (begun text : Text) : Prop :=
  [] ∈ endedLines begun text ∧ openLine begun text ≠ []

theorem lines_write_eq_iff {capture : Capture} (isOpen : capture.IsOpen) (text : Text) :
    (capture.write text).1 = endedLines capture.pending text ↔ ¬Loses capture.pending text := by
  rw [lines_write isOpen, List.filter_eq_self, Loses, not_and, not_ne_iff]
  constructor
  · intro kept blank
    simpa using kept [] blank
  · intro closed line member
    by_cases blank : line = []
    · rw [closed (blank ▸ member)]
      rfl
    · simp [blank]

/-! ## Sequences of writes -/

def writeAll (capture : Capture) : List Text → List Text × Capture
  | [] => ([], capture)
  | text :: rest =>
      let first := capture.write text
      let later := first.2.writeAll rest
      (first.1 ++ later.1, later.2)

theorem pending_writeAll (capture : Capture) (texts : List Text) :
    (capture.writeAll texts).2.pending = openLine capture.pending texts.flatten := by
  induction texts generalizing capture with
  | nil => rfl
  | cons text rest induction =>
      have later := induction (capture.write text).2
      rw [pending_write] at later
      rw [List.flatten_cons, openLine_append]
      exact later

section Sequence

variable {capture : Capture} (isOpen : capture.IsOpen)

include isOpen

theorem filter_lines_writeAll (texts : List Text) :
    (capture.writeAll texts).1.filter (!·.isEmpty) =
      (endedLines capture.pending texts.flatten).filter (!·.isEmpty) := by
  induction texts generalizing capture with
  | nil => rfl
  | cons text rest induction =>
      have later := induction (isOpen_write isOpen text)
      rw [pending_write] at later
      rw [List.flatten_cons, endedLines_append, List.filter_append, ← later]
      change ((capture.write text).1 ++ _).filter _ = _
      rw [List.filter_append, lines_write isOpen, List.filter_filter]
      congr 2
      funext line
      cases line.isEmpty <;> simp

theorem lines_writeAll_sublist (texts : List Text) :
    (capture.writeAll texts).1.Sublist (endedLines capture.pending texts.flatten) := by
  induction texts generalizing capture with
  | nil => exact List.Sublist.refl []
  | cons text rest induction =>
      have later := induction (isOpen_write isOpen text)
      rw [pending_write] at later
      rw [List.flatten_cons, endedLines_append]
      exact (lines_write_sublist isOpen text).append later

/-- All lines are handed on just if no write loses one. -/
theorem lines_writeAll_eq_iff (texts : List Text) :
    (capture.writeAll texts).1 = endedLines capture.pending texts.flatten ↔
      ∀ before text after, texts = before ++ text :: after →
        ¬Loses (openLine capture.pending before.flatten) text := by
  induction texts generalizing capture with
  | nil => simp [writeAll, endedLines]
  | cons first rest induction =>
      have nextOpen := isOpen_write isOpen first
      have later := induction nextOpen
      have sublist := lines_writeAll_sublist nextOpen rest
      rw [pending_write] at later sublist
      have firstSublist := lines_write_sublist isOpen first
      -- Both parts are sublists, so the whole is complete just if each part is.
      have parts : (capture.writeAll (first :: rest)).1 =
            endedLines capture.pending (first :: rest).flatten ↔
          (capture.write first).1 = endedLines capture.pending first ∧
            ((capture.write first).2.writeAll rest).1 =
              endedLines (openLine capture.pending first) rest.flatten := by
        rw [List.flatten_cons, endedLines_append]
        change (capture.write first).1 ++ _ = _ ↔ _
        refine ⟨fun whole => ?_, fun ⟨left, right⟩ => by rw [left, right]⟩
        have lengths := congrArg List.length whole
        rw [List.length_append, List.length_append] at lengths
        have most := firstSublist.length_le
        have laterMost := sublist.length_le
        exact ⟨firstSublist.eq_of_length (by omega), sublist.eq_of_length (by omega)⟩
      rw [parts, lines_write_eq_iff isOpen, later]
      constructor
      · rintro ⟨kept, others⟩ before text after cut
        cases before with
        | nil =>
            cases cut
            exact kept
        | cons head tail =>
            cases cut
            rw [List.flatten_cons, openLine_append]
            exact others tail text after rfl
      · intro all
        refine ⟨all [] first rest rfl, fun before text after cut => ?_⟩
        have kept := all (first :: before) text after (by rw [cut, List.cons_append])
        rw [List.flatten_cons, openLine_append] at kept
        exact kept

end Sequence

theorem isOpen_empty : empty.IsOpen := List.not_mem_nil

private theorem flatten_singletons (text : Text) : (text.map ([·])).flatten = text := by
  rw [← List.flatMap_def, List.flatMap_singleton']

theorem lines_writeAll_singletons (text : Text) :
    (empty.writeAll (text.map ([·]))).1 = endedLines [] text := by
  have all := (lines_writeAll_eq_iff isOpen_empty (text.map ([·]))).mpr (by
    rintro before piece after cut ⟨blank, opened⟩
    have member : piece ∈ text.map ([·]) := by simp [cut]
    obtain ⟨char, -, rfl⟩ := List.mem_map.mp member
    by_cases ends : char = '\n'
    · exact opened (by simp [openLine, ends])
    · simp [endedLines, ends] at blank)
  rw [flatten_singletons] at all
  exact all

/-- Some cut of a text loses a blank line just if something else than line ends comes after one. -/
theorem loses_iff {text : Text} :
    (∃ before piece after, text = (before ++ piece :: after).flatten ∧
        Loses (openLine [] before.flatten) piece) ↔
      ∃ start rest, text = start ++ '\n' :: rest ∧ openLine [] start = [] ∧
        ∃ char ∈ rest, char ≠ '\n' := by
  constructor
  · rintro ⟨before, piece, after, rfl, blank, opened⟩
    obtain ⟨start, rest, rfl, closed⟩ := nil_mem_endedLines.mp blank
    refine ⟨before.flatten ++ start, rest ++ after.flatten, by simp, ?_, ?_⟩
    · rw [openLine_append, closed]
    · by_contra onlyEnds
      push Not at onlyEnds
      apply opened
      rw [openLine_append, closed, ← List.singleton_append, openLine_append]
      exact openLine_of_line_ends fun char member => onlyEnds char (List.mem_append_left _ member)
  · rintro ⟨start, rest, rfl, closed, char, member, inside⟩
    obtain ⟨left, right, rfl⟩ := List.append_of_mem member
    refine ⟨[], start ++ '\n' :: (left ++ [char]), [right], by simp, ?_, ?_⟩
    · exact nil_mem_endedLines.mpr ⟨start, left ++ [char], rfl, closed⟩
    · rw [← List.cons_append, ← List.append_assoc, openLine_concat, if_neg inside]
      exact List.append_ne_nil_of_right_ne_nil _ (List.cons_ne_nil _ _)

/-- However a text is cut into writes to a new capture, the line after its last line end is pending,
and the lines handed on are those that end in it, in order, but for blank lines that a write loses.
All cuts hand on the same lines just if nothing but line ends comes after a blank line. -/
theorem lines_of_cuts (text : Text) :
    (endedLines [] text).flatMap (· ++ ['\n']) ++ openLine [] text = text ∧
    (∀ texts : List Text, texts.flatten = text →
      (empty.writeAll texts).2.pending = openLine [] text ∧
      (empty.writeAll texts).1.Sublist (endedLines [] text) ∧
      (empty.writeAll texts).1.filter (!·.isEmpty) = (endedLines [] text).filter (!·.isEmpty) ∧
      ((empty.writeAll texts).1 = endedLines [] text ↔
        ∀ before piece after, texts = before ++ piece :: after →
          ¬Loses (openLine [] before.flatten) piece)) ∧
    ((∀ left right : List Text, left.flatten = text → right.flatten = text →
        (empty.writeAll left).1 = (empty.writeAll right).1) ↔
      ∀ start rest, text = start ++ '\n' :: rest → openLine [] start = [] →
        ∀ char ∈ rest, char = '\n') := by
  refine ⟨flatMap_endedLines [] text, ?_, ?_, ?_⟩
  · rintro texts rfl
    exact ⟨pending_writeAll empty texts, lines_writeAll_sublist isOpen_empty texts,
      filter_lines_writeAll isOpen_empty texts, lines_writeAll_eq_iff isOpen_empty texts⟩
  · -- A cut into single characters loses nothing, so neither does any other.
    intro agree start rest whole closed char member
    by_contra inside
    obtain ⟨before, piece, after, cut, loses⟩ :=
      loses_iff.mpr ⟨start, rest, whole, closed, char, member, inside⟩
    have complete := agree (before ++ piece :: after) (text.map ([·])) cut.symm
      (flatten_singletons text)
    rw [lines_writeAll_singletons, cut] at complete
    exact (lines_writeAll_eq_iff isOpen_empty _).mp complete before piece after rfl loses
  · intro onlyEnds left right leftWhole rightWhole
    have complete : ∀ texts : List Text, texts.flatten = text →
        (empty.writeAll texts).1 = endedLines [] text := by
      rintro texts rfl
      rw [← show empty.pending = [] from rfl, lines_writeAll_eq_iff isOpen_empty]
      rintro before piece after cut loses
      obtain ⟨start, rest, whole, closed, char, member, inside⟩ :=
        loses_iff.mp ⟨before, piece, after, congrArg List.flatten cut, loses⟩
      exact inside (onlyEnds start rest whole closed char member)
    rw [complete left leftWhole, complete right rightWhole]

/-- Two lines with a blank one between them. -/
theorem lines_of_cuts_paragraphs :
    (empty.writeAll ["a\n\nb".toList]).2.pending = "b".toList ∧
      ¬∀ left right : List Text, left.flatten = "a\n\nb".toList →
        right.flatten = "a\n\nb".toList → (empty.writeAll left).1 = (empty.writeAll right).1 := by
  have law := lines_of_cuts "a\n\nb".toList
  refine ⟨(law.2.1 ["a\n\nb".toList] (by decide)).1, fun agree => ?_⟩
  have nothing := law.2.2.mp agree "a\n".toList "b".toList (by decide) (by decide) 'b' (by decide)
  exact absurd nothing (by decide)

end Capture

end Linewise.Session
