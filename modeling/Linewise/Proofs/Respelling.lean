import Linewise.Expression.Keyword
import Linewise.Text.Word
import Mathlib.Algebra.GroupWithZero.Nat
import Mathlib.Data.List.Infix

/-!
What reducing the spellings of a source has to do with its words. The reduction looks at characters
only, so it takes a spelling for one wherever it stands. It does what a reduction word by word does
just if every spelling in the source is a word by itself outside quotes, and none of these words is
XOR, of which the reduction of OR leaves nothing to be found.
-/

namespace Linewise

namespace Text

/-! ## Replacing -/

@[elab_as_elim]
theorem replacementInduction {old : Text} (nonempty : old ≠ []) {motive : Text → Prop}
    (nil : motive []) (occurrence : ∀ rest, motive rest → motive (old ++ rest))
    (other : ∀ head tail, ¬old <+: head :: tail → motive tail → motive (head :: tail))
    (text : Text) : motive text := by
  induction size : text.length using Nat.strongRecOn generalizing text with
  | ind length induction =>
      cases text with
      | nil => exact nil
      | cons head tail =>
          by_cases found : old <+: head :: tail
          · obtain ⟨rest, whole⟩ := found
            have shorter : rest.length < length := by
              have positive := List.length_pos_iff.mpr nonempty
              rw [← size, ← whole, List.length_append]
              omega
            rw [← whole]
            exact occurrence rest (induction rest.length shorter rest rfl)
          · have shorter : tail.length < length := by
              rw [← size]
              exact Nat.lt_succ_self _
            exact other head tail found (induction tail.length shorter tail rfl)

theorem prefix_of_prefix_append_cons {old left right : Text} {char : Char} (foreign : char ∉ old)
    (found : old <+: left ++ char :: right) : old <+: left := by
  induction old generalizing left with
  | nil => exact List.nil_prefix
  | cons head tail induction =>
      rw [List.mem_cons, not_or] at foreign
      cases left with
      | nil => exact absurd (List.cons_prefix_cons.mp found).1.symm foreign.1
      | cons first others =>
          obtain ⟨rfl, rest⟩ := List.cons_prefix_cons.mp found
          exact List.cons_prefix_cons.mpr ⟨rfl, induction foreign.2 rest⟩

theorem replaceAll_eq_self {old text : Text} (absent : ¬old <:+: text) (new : Text) :
    replaceAll text old new = text := by
  induction text with
  | nil => rfl
  | cons head tail induction =>
      rw [List.infix_cons_iff, not_or] at absent
      rw [replaceAll_cons absent.1, induction absent.2]

def weight (weigh : Char → Nat) (text : Text) : Nat := (text.map weigh).sum

@[simp] theorem weight_nil (weigh : Char → Nat) : weight weigh [] = 0 := rfl

@[simp] theorem weight_cons (weigh : Char → Nat) (head : Char) (tail : Text) :
    weight weigh (head :: tail) = weigh head + weight weigh tail := rfl

@[simp] theorem weight_append (weigh : Char → Nat) (left right : Text) :
    weight weigh (left ++ right) = weight weigh left + weight weigh right := by
  simp [weight]

theorem weight_eq_zero_iff {weigh : Char → Nat} {text : Text} :
    weight weigh text = 0 ↔ ∀ char ∈ text, weigh char = 0 := by
  induction text with
  | nil => simp
  | cons head tail induction =>
      rw [weight_cons, Nat.add_eq_zero_iff, induction, List.forall_mem_cons]

section Replacement

variable {old : Text} (nonempty : old ≠ [])

include nonempty

theorem replaceAll_append_cons {char : Char} (foreign : char ∉ old) (new left right : Text) :
    replaceAll (left ++ char :: right) old new =
      replaceAll left old new ++ char :: replaceAll right old new := by
  induction left using replacementInduction nonempty with
  | nil =>
      have absent : ¬old <+: char :: right := fun found =>
        nonempty (List.prefix_nil.mp (prefix_of_prefix_append_cons foreign found))
      exact replaceAll_cons absent new
  | occurrence rest induction =>
      rw [List.append_assoc, replaceAll_append nonempty, replaceAll_append nonempty, induction,
        List.append_assoc]
  | other head tail absent induction =>
      have still : ¬old <+: head :: (tail ++ char :: right) := fun found =>
        absent (prefix_of_prefix_append_cons foreign found)
      rw [List.cons_append, replaceAll_cons still, replaceAll_cons absent, induction,
        List.cons_append]

theorem mem_replaceAll {new text : Text} {char : Char} (member : char ∈ replaceAll text old new) :
    char ∈ new ∨ char ∈ text := by
  induction text using replacementInduction nonempty with
  | nil => cases member
  | occurrence rest induction =>
      rw [replaceAll_append nonempty] at member
      rcases List.mem_append.mp member with inside | later
      · exact .inl inside
      · exact (induction later).imp_right (List.mem_append_right old)
  | other head tail absent induction =>
      rw [replaceAll_cons absent] at member
      rcases List.mem_cons.mp member with rfl | later
      · exact .inr List.mem_cons_self
      · exact (induction later).imp_right (List.mem_cons_of_mem head)

theorem exists_of_replaceAll_eq {new text first second : Text} {char : Char} (foreign : char ∉ new)
    (divided : replaceAll text old new = first ++ char :: second) :
    ∃ left right, text = left ++ char :: right ∧ replaceAll left old new = first ∧
      replaceAll right old new = second := by
  induction text using replacementInduction nonempty generalizing first with
  | nil => cases first <;> cases divided
  | occurrence rest induction =>
      rw [replaceAll_append nonempty] at divided
      -- What replaces the occurrence ends before the character.
      obtain ⟨within, rfl, later⟩ : ∃ within, first = new ++ within ∧
          replaceAll rest old new = within ++ char :: second := by
        rcases List.append_eq_append_iff.mp divided with found | ⟨within, inside, later⟩
        · exact found
        · cases within with
          | nil => exact ⟨[], by simpa using inside.symm, later.symm⟩
          | cons head tail =>
              rw [(List.cons.inj later).1, inside] at foreign
              simp at foreign
      obtain ⟨left, right, rfl, replaced, others⟩ := induction later
      refine ⟨old ++ left, right, (List.append_assoc ..).symm, ?_, others⟩
      rw [replaceAll_append nonempty, replaced]
  | other head tail absent induction =>
      rw [replaceAll_cons absent] at divided
      cases first with
      | nil =>
          obtain ⟨rfl, rfl⟩ := List.cons.inj divided
          exact ⟨[], tail, rfl, rfl, rfl⟩
      | cons start first =>
          obtain ⟨rfl, later⟩ := List.cons.inj divided
          obtain ⟨left, right, rfl, replaced, others⟩ := induction later
          have still : ¬old <+: head :: left := fun found =>
            absent (found.trans (List.prefix_append (head :: left) _))
          refine ⟨head :: left, right, rfl, ?_, others⟩
          rw [replaceAll_cons still, replaced]

variable {weigh : Char → Nat} {new : Text}

theorem weight_replaceAll_eq (equal : weight weigh new = weight weigh old) (text : Text) :
    weight weigh (replaceAll text old new) = weight weigh text := by
  induction text using replacementInduction nonempty with
  | nil => rfl
  | occurrence rest induction =>
      rw [replaceAll_append nonempty, weight_append, weight_append, induction, equal]
  | other head tail absent induction =>
      rw [replaceAll_cons absent, weight_cons, weight_cons, induction]

/-- If the new text weighs less than the old one, each replacement shows in the weight. -/
theorem weight_replaceAll_lt (lighter : weight weigh new < weight weigh old) (text : Text) :
    weight weigh (replaceAll text old new) ≤ weight weigh text ∧
      (old <:+: text → weight weigh (replaceAll text old new) < weight weigh text) := by
  induction text using replacementInduction nonempty with
  | nil => exact ⟨le_rfl, fun found => absurd (List.infix_nil.mp found) nonempty⟩
  | occurrence rest induction =>
      have least := induction.1
      rw [replaceAll_append nonempty, weight_append, weight_append]
      exact ⟨by omega, fun _ => by omega⟩
  | other head tail absent induction =>
      have least := induction.1
      rw [replaceAll_cons absent, weight_cons, weight_cons]
      refine ⟨by omega, fun found => ?_⟩
      have less := induction.2 ((List.infix_cons_iff.mp found).resolve_left absent)
      omega

end Replacement

/-! ## Replacing one text after another -/

def replaceEach (pairs : List (Text × Text)) (text : Text) : Text :=
  pairs.foldl (fun text pair => text.replaceAll pair.1 pair.2) text

section Replacements

variable {pairs : List (Text × Text)}

theorem replaceEach_eq_self {text : Text} (absent : ∀ pair ∈ pairs, ¬pair.1 <:+: text) :
    replaceEach pairs text = text := by
  induction pairs with
  | nil => rfl
  | cons pair others induction =>
      rw [List.forall_mem_cons] at absent
      rw [replaceEach, List.foldl_cons, replaceAll_eq_self absent.1]
      exact induction absent.2

variable (nonempty : ∀ pair ∈ pairs, pair.1 ≠ [])

include nonempty

theorem replaceEach_append_cons {char : Char} (foreign : ∀ pair ∈ pairs, char ∉ pair.1)
    (left right : Text) :
    replaceEach pairs (left ++ char :: right) =
      replaceEach pairs left ++ char :: replaceEach pairs right := by
  induction pairs generalizing left right with
  | nil => rfl
  | cons pair others induction =>
      rw [List.forall_mem_cons] at foreign nonempty
      rw [replaceEach, List.foldl_cons, replaceAll_append_cons nonempty.1 foreign.1]
      exact induction nonempty.2 foreign.2 _ _

variable {weigh : Char → Nat}

theorem weight_replaceEach_eq
    (equal : ∀ pair ∈ pairs, weight weigh pair.2 = weight weigh pair.1) (text : Text) :
    weight weigh (replaceEach pairs text) = weight weigh text := by
  induction pairs generalizing text with
  | nil => rfl
  | cons pair others induction =>
      rw [List.forall_mem_cons] at equal nonempty
      exact (induction nonempty.2 equal.2 _).trans
        (weight_replaceAll_eq nonempty.1 equal.1 text)

/-- If each new text weighs less than the old one, the weight stays the same only if there is
nothing to replace. -/
theorem weight_replaceEach_le
    (lighter : ∀ pair ∈ pairs, weight weigh pair.2 < weight weigh pair.1) (text : Text) :
    weight weigh (replaceEach pairs text) ≤ weight weigh text ∧
      (weight weigh (replaceEach pairs text) = weight weigh text →
        ∀ pair ∈ pairs, ¬pair.1 <:+: text) := by
  induction pairs generalizing text with
  | nil => exact ⟨le_rfl, fun _ => nofun⟩
  | cons pair others induction =>
      rw [List.forall_mem_cons] at lighter nonempty
      have first := weight_replaceAll_lt nonempty.1 lighter.1 text
      have rest := induction nonempty.2 lighter.2 (text.replaceAll pair.1 pair.2)
      have step : replaceEach (pair :: others) text =
          replaceEach others (text.replaceAll pair.1 pair.2) := rfl
      rw [step]
      refine ⟨rest.1.trans first.1, fun same => ?_⟩
      have absent : ¬pair.1 <:+: text := by
        intro found
        have less := first.2 found
        have least := rest.1
        omega
      rw [replaceAll_eq_self absent] at rest same
      exact List.forall_mem_cons.mpr ⟨absent, rest.2 same⟩

end Replacements

theorem prefix_or_prefix_of_append_eq {left right rest other : Text}
    (same : left ++ rest = right ++ other) : left <+: right ∨ right <+: left :=
  List.prefix_or_prefix_of_prefix (List.prefix_append left rest)
    (same ▸ List.prefix_append right other)

theorem eq_of_prefix_of_weight_eq {weigh : Char → Nat} (positive : ∀ char, 0 < weigh char)
    {start text : Text} (initial : start <+: text)
    (equal : weight weigh start = weight weigh text) : start = text := by
  obtain ⟨rest, rfl⟩ := initial
  cases rest with
  | nil => rw [List.append_nil]
  | cons head tail =>
      have some := positive head
      rw [weight_append, weight_cons] at equal
      omega

end Text

namespace Expression

/-! ## Spellings -/

private theorem spelling_ne_nil : ∀ spelling ∈ spellings, spelling.1 ≠ [] := by decide

private theorem spelling_isWord :
    ∀ spelling ∈ spellings, spelling.1.all Text.isWord = true := by decide

/-- A character that no word has parts what is reduced. -/
theorem respell_append_cons {char : Char} (apart : Text.isWord char = false)
    (left right : Text) :
    respell (left ++ char :: right) = respell left ++ char :: respell right := by
  apply Text.replaceEach_append_cons spelling_ne_nil
  intro spelling member inside
  have word := List.all_eq_true.mp (spelling_isWord spelling member) char inside
  rw [apart] at word
  cases word

/-- Each replacement makes a source lighter. An O weighs double, since NOT becomes a word with a t,
which weighs something as well. -/
private def heaviness (char : Char) : Nat :=
  if char = 'O' then 2 else if ['t', 'f', 'l', 'A', 'X', 'x'].contains char then 1 else 0

theorem respell_eq_self_iff (source : Text) :
    respell source = source ↔ ∀ spelling ∈ spellings, ¬spelling.1 <:+: source := by
  constructor
  · intro same
    have lighter : ∀ spelling ∈ spellings,
        Text.weight heaviness spelling.2 < Text.weight heaviness spelling.1 := by decide
    exact (Text.weight_replaceEach_le spelling_ne_nil lighter source).2 (congrArg _ same)
  · exact Text.replaceEach_eq_self

private def extent (char : Char) : Nat := if char = '!' then 2 else 1

/-- What is reduced, if it is not the source itself, is no start of it, nor has it as a start. -/
theorem eq_of_respell_append_eq {source rest other : Text}
    (same : respell source ++ rest = source ++ other) : respell source = source := by
  have positive (char : Char) : 0 < extent char := by
    unfold extent
    split <;> decide
  have balance : Text.weight extent (respell source) = Text.weight extent source :=
    Text.weight_replaceEach_eq spelling_ne_nil (by decide) source
  rcases Text.prefix_or_prefix_of_append_eq same with initial | initial
  · exact Text.eq_of_prefix_of_weight_eq positive initial balance
  · exact (Text.eq_of_prefix_of_weight_eq positive initial balance.symm).symm

/-! ## Words and quoted texts -/

private def isQuoteMark (char : Char) : Bool := char = '"' || char = '\''

/-- The characters up to and including the closing quote, and what follows. A backslash keeps the
next character from closing the text. -/
def closing? (quote : Char) : Text → Option (Text × Text)
  | [] => none
  | head :: tail =>
      if head = quote then some ([head], tail)
      else if head = '\\' then
        match tail with
        | [] => none
        | escaped :: after =>
            (closing? quote after).map fun (body, rest) => (head :: escaped :: body, rest)
      else (closing? quote tail).map fun (body, rest) => (head :: body, rest)

theorem append_of_closing? {quote : Char} {text body rest : Text}
    (closed : closing? quote text = some (body, rest)) :
    ∃ inside, body = inside ++ [quote] ∧ text = inside ++ quote :: rest := by
  fun_induction closing? quote text generalizing body rest with
  | case1 => cases closed
  | case2 tail =>
      cases closed
      exact ⟨[], rfl, rfl⟩
  | case3 => cases closed
  | case4 escaped after other induction =>
      obtain ⟨⟨body, rest⟩, inner, whole⟩ := Option.map_eq_some_iff.mp closed
      cases whole
      obtain ⟨inside, rfl, rfl⟩ := induction inner
      exact ⟨'\\' :: escaped :: inside, rfl, rfl⟩
  | case5 head tail other plain induction =>
      obtain ⟨⟨body, rest⟩, inner, whole⟩ := Option.map_eq_some_iff.mp closed
      cases whole
      obtain ⟨inside, rfl, rfl⟩ := induction inner
      exact ⟨head :: inside, rfl, rfl⟩

/-- A part of a source: a word as long as it can be, a quoted text, or any other character. -/
inductive Part
  | word (letters : Text)
  | quoted (text : Text)
  | mark (char : Char)
deriving DecidableEq, Repr

def Part.text : Part → Text
  | word letters => letters
  | quoted text => text
  | mark char => [char]

/-- The parts of a source. A quote that is never closed begins no quoted text. -/
def parts (source : Text) : List Part :=
  match source with
  | [] => []
  | head :: tail =>
      if Text.isWord head then
        .word (head :: tail.takeWhile Text.isWord) :: parts (tail.dropWhile Text.isWord)
      else if isQuoteMark head then
        match _closed : closing? head tail with
        | some (body, rest) => .quoted (head :: body) :: parts rest
        | none => .mark head :: parts tail
      else .mark head :: parts tail
termination_by source.length
decreasing_by
  all_goals simp only [List.length_cons]
  · exact Nat.lt_succ_of_le (Text.length_dropWhile_le _ _)
  · obtain ⟨inside, -, whole⟩ := append_of_closing? _closed
    rw [whole, List.length_append, List.length_cons]
    omega
  · omega
  · omega

def Part.respelled : Part → Text
  | word letters => (spellings.lookup letters).getD letters
  | quoted text => text
  | mark char => [char]

def respellWords (source : Text) : Text := (parts source).flatMap Part.respelled

@[simp] theorem respell_nil : respell [] = [] := rfl

theorem respell_cons {char : Char} (apart : Text.isWord char = false) (rest : Text) :
    respell (char :: rest) = char :: respell rest :=
  respell_append_cons apart [] rest

private theorem isWord_of_isQuoteMark {char : Char} (quote : isQuoteMark char = true) :
    Text.isWord char = false := by
  rw [isQuoteMark, Bool.or_eq_true, decide_eq_true_eq, decide_eq_true_eq] at quote
  rcases quote with rfl | rfl <;> decide

/-- The parts of a source are reduced by themselves, since no spelling reaches from one part into
the next. -/
theorem respell_eq_flatMap (source : Text) :
    respell source = (parts source).flatMap fun part => respell part.text := by
  fun_induction parts source with
  | case1 => rfl
  | case2 head tail start induction =>
      have whole : head :: tail =
          (head :: tail.takeWhile Text.isWord) ++ tail.dropWhile Text.isWord := by
        rw [List.cons_append, List.takeWhile_append_dropWhile]
      rw [List.flatMap_cons, ← induction, whole]
      cases rest : tail.dropWhile Text.isWord with
      | nil => rw [List.append_nil, Part.text, respell_nil, List.append_nil]
      | cons next others =>
          have apart : Text.isWord next = false := by
            have first := List.head?_dropWhile_not Text.isWord tail
            rw [rest] at first
            simpa using first
          rw [respell_append_cons apart, respell_cons apart, Part.text]
  | case3 head tail other quote body rest closed induction =>
      have apart := isWord_of_isQuoteMark quote
      obtain ⟨inside, rfl, rfl⟩ := append_of_closing? closed
      rw [List.flatMap_cons, ← induction, respell_cons apart, respell_append_cons apart, Part.text,
        respell_cons apart, respell_append_cons apart, respell_nil, List.cons_append,
        List.append_assoc, List.singleton_append]
  | case4 head tail other quote opened induction =>
      have apart := isWord_of_isQuoteMark quote
      rw [List.flatMap_cons, ← induction, respell_cons apart, Part.text, respell_cons apart,
        respell_nil, List.singleton_append]
  | case5 head tail other plain induction =>
      have apart : Text.isWord head = false := Bool.not_eq_true _ ▸ other
      rw [List.flatMap_cons, ← induction, respell_cons apart, Part.text, respell_cons apart,
        respell_nil, List.singleton_append]

/-! ## The two reductions -/

/-- The reduction finds only whole spellings in the part, and XOR is not one of them: either the
part is a word that is spelled so, or it has no spelling in it. -/
def Part.IsPlain (part : Part) : Prop :=
  (∃ letters ∈ spellings.map Prod.fst, letters ≠ "XOR".toList ∧ part = .word letters) ∨
    ∀ spelling ∈ spellings, ¬spelling.1 <:+: part.text

private theorem respell_spelling :
    ∀ letters ∈ spellings.map Prod.fst, letters ≠ "XOR".toList →
      respell letters = (spellings.lookup letters).getD letters := by
  decide

/-- A part that is no spelling by itself is kept. -/
private theorem respelled_eq_text {part : Part}
    (unknown : ∀ letters ∈ spellings.map Prod.fst, part ≠ .word letters) :
    part.respelled = part.text := by
  cases part with
  | word letters =>
      have absent : spellings.lookup letters = none := by
        rw [List.lookup_eq_none_iff]
        intro spelling member
        rw [bne_iff_ne]
        rintro rfl
        exact unknown spelling.1 (List.mem_map_of_mem member) rfl
      rw [Part.respelled, absent]
      rfl
  | quoted text => rfl
  | mark char => rfl

theorem Part.IsPlain.respell_eq {part : Part} (plain : part.IsPlain) :
    respell part.text = part.respelled := by
  rcases plain with ⟨letters, member, other, rfl⟩ | absent
  · exact respell_spelling letters member other
  · have unknown : ∀ letters ∈ spellings.map Prod.fst, part ≠ .word letters := by
      rintro letters member rfl
      obtain ⟨spelling, present, rfl⟩ := List.mem_map.mp member
      exact absent spelling present (List.infix_refl _)
    rw [respelled_eq_text unknown]
    exact (respell_eq_self_iff _).mpr absent

theorem Part.isPlain_of_append_eq {part : Part} {rest other : Text}
    (same : respell part.text ++ rest = part.respelled ++ other) : part.IsPlain := by
  by_cases known : ∃ letters ∈ spellings.map Prod.fst, part = .word letters
  · obtain ⟨letters, member, rfl⟩ := known
    refine .inl ⟨letters, member, ?_, rfl⟩
    -- The one reduction of XOR begins with its X, the other with an exclamation mark.
    rintro rfl
    cases same
  · have unknown : ∀ letters ∈ spellings.map Prod.fst, part ≠ .word letters :=
      fun letters member equal => known ⟨letters, member, equal⟩
    rw [respelled_eq_text unknown] at same
    exact .inr ((respell_eq_self_iff _).mp (eq_of_respell_append_eq same))

/-- The reduction is one word by word just if all parts of the source are plain. -/
theorem respell_eq_respellWords_iff (source : Text) :
    respell source = respellWords source ↔ ∀ part ∈ parts source, part.IsPlain := by
  rw [respell_eq_flatMap, respellWords]
  generalize parts source = parts
  induction parts with
  | nil => exact ⟨fun _ => nofun, fun _ => rfl⟩
  | cons part others induction =>
      rw [List.flatMap_cons, List.flatMap_cons, List.forall_mem_cons]
      constructor
      · intro same
        have plain := Part.isPlain_of_append_eq same
        rw [plain.respell_eq, List.append_cancel_left_eq] at same
        exact ⟨plain, induction.mp same⟩
      · rintro ⟨plain, rest⟩
        rw [plain.respell_eq, induction.mpr rest]

end Expression

end Linewise
