import Linewise.Proofs.Saying

/-!
Messages made of items, names of variables and quoted texts. The items are put together to one text,
in which the references are then looked for, so that a name takes along the word characters that
follow it. The items come out one after another just if no word character follows a name, and no
name is the reserved one.
-/

namespace Linewise

namespace Message

inductive Item
  /-- The name of a variable. -/
  | reference (name : Text)
  | literal (quote : Char) (text : Text)
deriving DecidableEq, Repr

namespace Item

def source : Item → Text
  | reference name => name
  | literal quote text => quoted quote text

def message : Item → Text
  | reference name => '@' :: name
  | literal _ text => text

def shown (value : Text → Int) : Item → Text
  | reference name => Text.ofInt (value name)
  | literal _ text => text

end Item

def written (items : List Item) : Text := Text.join [' '] (items.map Item.source)

def joined (items : List Item) : Text := items.flatMap Item.message

theorem joined_reference (name : Text) (rest : List Item) :
    joined (.reference name :: rest) = '@' :: (name ++ joined rest) := rfl

theorem joined_literal (quote : Char) (text : Text) (rest : List Item) :
    joined (.literal quote text :: rest) = text ++ joined rest := rfl

def names (items : List Item) : List Text :=
  items.filterMap fun
    | .reference name => some name
    | .literal _ _ => none

/-! ## Plain items -/

def nameStarts : List Char := "abcdefghijklmnopqrstuvwxyz_".toList

def nameParts : List Char := nameStarts ++ "0123456789".toList

/-- A name in lower case. -/
structure IsLowerName (name : Text) : Prop where
  start : name.head?.any nameStarts.contains = true
  inner : name.all nameParts.contains = true

/-- A name in lower case, or a text without special characters whose blanks are single spaces. -/
def Item.IsPlain : Item → Prop
  | reference name => IsLowerName name
  | literal quote text =>
      isQuote quote = true ∧ quote ∉ text ∧ Message.IsPlain text ∧ Text.IsSingleSpaced text

private theorem nameStarts_letters :
    nameStarts.all (fun char => Text.isAsciiLetter char || char = '_') = true := by decide

private theorem nameParts_lower :
    nameParts.all (fun char => Text.isWord char && char.toLower = char && char.toNat < 128) =
      true := by decide

namespace IsLowerName

variable {name : Text} (lowerName : IsLowerName name)

include lowerName

private theorem lower {char : Char} (member : char ∈ name) :
    Text.isWord char = true ∧ char.toLower = char ∧ char.toNat < 128 := by
  have part : char ∈ nameParts := by
    simpa using List.all_eq_true.mp lowerName.inner char member
  simpa [and_assoc] using List.all_eq_true.mp nameParts_lower char part

theorem isReferable : IsReferable name where
  start := by
    obtain ⟨char, first, starts⟩ := (Option.any_eq_true ..).mp lowerName.start
    have letter := List.all_eq_true.mp nameStarts_letters char (by simpa using starts)
    exact (Option.any_eq_true ..).mpr ⟨char, first, letter⟩
  inner := List.all_eq_true.mpr fun _ member => (lowerName.lower member).1

theorem isReserved_iff : isReserved name = true ↔ name = "end".toList := by
  have ascii : ∀ char ∈ name, char.toNat < 128 := fun _ member => (lowerName.lower member).2.2
  have kept : name.map Char.toLower = name :=
    (List.map_congr_left fun _ member => (lowerName.lower member).2.1).trans (List.map_id name)
  rw [isReserved, Text.lower_of_ascii ascii, kept, decide_eq_true_eq]

theorem bareWord_eq : bareWord name = '@' :: name := by
  rw [bareWord]
  split
  · next reserved =>
      rw [lowerName.isReserved_iff.mp reserved]
      rfl
  · rfl

end IsLowerName

/-! ## Items in a line -/

namespace Item.IsPlain

variable {item : Item} (plain : item.IsPlain)

include plain

theorem source_plain : Message.IsPlain item.source := by
  cases item with
  | reference name => exact (IsLowerName.isReferable plain).isPlain
  | literal quote text => exact isPlain_quoted plain.1 plain.2.2.1

theorem source_trimmed : item.source.IsTrimmed := by
  cases item with
  | reference name => exact (IsLowerName.isReferable plain).isTrimmed
  | literal quote text => exact trimmed_quoted plain.1 text

theorem source_singleSpaced : Text.singleSpaced item.source = item.source := by
  cases item with
  | reference name => exact (IsLowerName.isReferable plain).singleSpaced_eq
  | literal quote text =>
      rw [source, singleSpaced_quoted plain.1, (Text.singleSpaced_eq_self_iff text).mpr plain.2.2.2]

theorem ofItems_source {rest : Text} (apart : Expression.Apart rest) :
    ofItems (item.source ++ rest) = item.message ++ ofItems rest := by
  cases item with
  | reference name =>
      rw [source, (IsLowerName.isReferable plain).ofItems_append apart,
        IsLowerName.bareWord_eq plain]
      rfl
  | literal quote text =>
      rw [source, quoted, List.cons_append, List.append_assoc, List.singleton_append,
        ofItems_quoted plain.1 plain.2.1]
      rfl

end Item.IsPlain

theorem written_cons (item next : Item) (rest : List Item) :
    written (item :: next :: rest) = item.source ++ ' ' :: written (next :: rest) := by
  rw [written, Text.join, List.map_cons, List.map_cons, List.intercalate_cons_cons,
    List.append_assoc]
  rfl

theorem written_singleton (item : Item) : written [item] = item.source :=
  @List.intercalate_singleton Char [' '] item.source

/-- What plain items look like in a line. -/
structure IsBody (items : List Item) (body : Text) : Prop where
  trimmed : body.IsTrimmed
  plain : IsPlain body
  singleSpaced : Text.singleSpaced body = body
  message : ofItems body = joined items

theorem isBody_written {items : List Item} (present : items ≠ [])
    (plain : ∀ item ∈ items, item.IsPlain) : IsBody items (written items) := by
  induction items with
  | nil => exact absurd rfl present
  | cons item rest induction =>
      rw [List.forall_mem_cons] at plain
      obtain ⟨itemPlain, restPlain⟩ := plain
      cases rest with
      | nil =>
          rw [written_singleton]
          refine ⟨itemPlain.source_trimmed, itemPlain.source_plain,
            itemPlain.source_singleSpaced, ?_⟩
          have message := itemPlain.ofItems_source (Or.inl rfl : Expression.Apart [])
          rw [List.append_nil, ofItems] at message
          rw [message]
          simp [joined]
      | cons next others =>
          have body := induction (List.cons_ne_nil _ _) restPlain
          have space : IsPlain [' '] := by decide
          rw [written_cons]
          refine ⟨itemPlain.source_trimmed.append body.trimmed,
            itemPlain.source_plain.append (space.append body.plain), ?_, ?_⟩
          · rw [itemPlain.source_trimmed.singleSpaced_append body.trimmed,
              itemPlain.source_singleSpaced, body.singleSpaced]
          · rw [itemPlain.ofItems_source (.inr ⟨_, rfl⟩), ofItems_blank (by decide), body.message]
            rfl

/-! ## Items as they are read -/

/-- A name before some items takes along the word characters that they begin with. -/
def absorb (name : Text) : List Item → List Item
  | .literal quote text :: rest =>
      if text.all Text.isWord then absorb (name ++ text) rest
      else
        .reference (name ++ text.takeWhile Text.isWord) ::
          .literal quote (text.dropWhile Text.isWord) :: rest
  | items => .reference name :: items

def read : List Item → List Item
  | [] => []
  | .reference name :: rest => absorb name (read rest)
  | .literal quote text :: rest => .literal quote text :: read rest

/-- No name is followed by a word character. -/
def Separate : List Item → Prop
  | [] => True
  | .reference _ :: rest => (joined rest).head?.any Text.isWord = false ∧ Separate rest
  | .literal _ _ :: rest => Separate rest

def Item.IsReadable : Item → Prop
  | reference name => IsReferable name
  | literal _ text => Message.IsPlain text

theorem Item.IsPlain.isReadable {item : Item} (plain : item.IsPlain) : item.IsReadable := by
  cases item with
  | reference name => exact IsLowerName.isReferable plain
  | literal quote text => exact plain.2.2.1

theorem joined_absorb (name : Text) (items : List Item) :
    joined (absorb name items) = '@' :: (name ++ joined items) := by
  induction items generalizing name with
  | nil => simp [absorb, joined, Item.message]
  | cons item rest induction =>
      cases item with
      | reference other => simp [absorb, joined, Item.message]
      | literal quote text =>
          rw [absorb]
          split
          · rw [induction, List.append_assoc, joined_literal]
          · rw [joined_reference, joined_literal, joined_literal, List.append_assoc,
              ← List.append_assoc (text.takeWhile Text.isWord), List.takeWhile_append_dropWhile]

/-- Reading does not change the message. -/
theorem joined_read (items : List Item) : joined (read items) = joined items := by
  induction items with
  | nil => rfl
  | cons item rest induction =>
      cases item with
      | reference name =>
          rw [read, joined_absorb, induction, joined_reference]
      | literal quote text => rw [read, joined_literal, joined_literal, induction]

private theorem exists_dropWhile_eq_cons {text : Text} (stops : ¬text.all Text.isWord = true) :
    ∃ head tail, text.dropWhile Text.isWord = head :: tail ∧ Text.isWord head = false := by
  cases left : text.dropWhile Text.isWord with
  | nil => exact absurd (List.all_eq_true.mpr (List.dropWhile_eq_nil_iff.mp left)) stops
  | cons head tail =>
      have ended := List.head?_dropWhile_not Text.isWord text
      rw [left] at ended
      exact ⟨head, tail, rfl, by simpa using ended⟩

theorem separate_absorb (name : Text) {items : List Item} (separate : Separate items) :
    Separate (absorb name items) := by
  induction items generalizing name with
  | nil => exact ⟨rfl, trivial⟩
  | cons item rest induction =>
      cases item with
      | reference other => exact ⟨rfl, separate⟩
      | literal quote text =>
          rw [absorb]
          split
          · exact induction (name ++ text) separate
          · next stops =>
              obtain ⟨head, tail, left, ended⟩ := exists_dropWhile_eq_cons stops
              rw [left]
              exact ⟨ended, separate⟩

theorem separate_read (items : List Item) : Separate (read items) := by
  induction items with
  | nil => trivial
  | cons item rest induction =>
      cases item with
      | reference name => exact separate_absorb name induction
      | literal quote text => exact induction

private theorem referable_append {name text : Text} (referable : IsReferable name)
    (inner : ∀ char ∈ text, Text.isWord char = true) : IsReferable (name ++ text) where
  start := by
    obtain ⟨char, first, letter⟩ := (Option.any_eq_true ..).mp referable.start
    exact (Option.any_eq_true ..).mpr ⟨char, by simp [first], letter⟩
  inner := by
    rw [List.all_append, referable.inner, List.all_eq_true.mpr inner]
    rfl

theorem readable_absorb {name : Text} (referable : IsReferable name) {items : List Item}
    (readable : ∀ item ∈ items, item.IsReadable) :
    ∀ item ∈ absorb name items, item.IsReadable := by
  induction items generalizing name with
  | nil => exact List.forall_mem_singleton.mpr referable
  | cons item rest induction =>
      cases item with
      | reference other => exact List.forall_mem_cons.mpr ⟨referable, readable⟩
      | literal quote text =>
          rw [List.forall_mem_cons] at readable
          rw [absorb]
          split
          · next all =>
              exact induction (referable_append referable (List.all_eq_true.mp all)) readable.2
          · refine List.forall_mem_cons.mpr ⟨referable_append referable fun char member =>
              List.mem_takeWhile_imp member, List.forall_mem_cons.mpr ⟨?_, readable.2⟩⟩
            exact fun char member =>
              readable.1 char ((List.dropWhile_suffix Text.isWord).subset member)

theorem readable_read {items : List Item} (readable : ∀ item ∈ items, item.IsReadable) :
    ∀ item ∈ read items, item.IsReadable := by
  induction items with
  | nil => exact nofun
  | cons item rest induction =>
      rw [List.forall_mem_cons] at readable
      cases item with
      | reference name => exact readable_absorb readable.1 (induction readable.2)
      | literal quote text =>
          exact List.forall_mem_cons.mpr ⟨readable.1, induction readable.2⟩

/-! ## Replacing the references -/

def Item.replaced (bindings : Bindings) : Item → Except Fault Text
  | reference name => (bindings.referenceText? .value name).getD (.ok ('@' :: name))
  | literal _ text => .ok text

def replaced (bindings : Bindings) : List Item → Except Fault Text
  | [] => .ok []
  | item :: rest => do
      let text ← item.replaced bindings
      return text ++ (← replaced bindings rest)

theorem substitute_joined (bindings : Bindings) {items : List Item} (separate : Separate items)
    (readable : ∀ item ∈ items, item.IsReadable) :
    substitute bindings (joined items) = replaced bindings items := by
  induction items with
  | nil => rfl
  | cons item rest induction =>
      rw [List.forall_mem_cons] at readable
      cases item with
      | reference name =>
          rw [joined_reference, substitute_reference rfl readable.1 separate.1,
            induction separate.2 readable.2]
          rfl
      | literal quote text =>
          rw [joined_literal, substitute_append (fun _ => IsPlain.unmarked readable.1),
            induction separate readable.2]
          rfl

section Written

variable (bindings : Bindings) {items : List Item} (present : items ≠ [])
  (plain : ∀ item ∈ items, item.IsPlain) {readItems : List Item}
  (same : joined readItems = joined items) (separate : Separate readItems)
  (readable : ∀ item ∈ readItems, item.IsReadable)

include present plain same separate readable

/-- What is made of a message is made of the items that it is read as. Any separate items with the
same message will do. -/
theorem substitute_written :
    substitute bindings (ofLine (Text.words (written items))) = replaced bindings readItems := by
  have body := isBody_written present plain
  rw [ofLine_eq_ofItems, body.trimmed.join_words, body.singleSpaced, body.message, ← same,
    substitute_joined bindings separate readable]

theorem render_written [Evaluator] :
    render bindings (Text.words (written items)) = (do
      let message ← replaced bindings readItems
      expand bindings.meaning message) := by
  rw [render, substitute_written bindings present plain same separate readable]

theorem messageEffects_written [Evaluator]
    (unopened : ∀ message, replaced bindings readItems = .ok message → '\x7b' ∉ message) :
    Plan.messageEffects bindings (Text.words (written items)) = .none := by
  apply messageEffects_eq_none
  intro message substituted
  rw [substitute_written bindings present plain same separate readable] at substituted
  exact firstGroup?_unescaped (unopened message substituted)

end Written

/-! ## Integers among items -/

def Holds (bindings : Bindings) (name : Text) (number : Int) : Prop :=
  ∃ constant, bindings name = some ⟨DataType.integer.name, .integer number, constant⟩

/-- No name is followed by a word character, and none is reserved. -/
def Legible (items : List Item) : Prop := Separate items ∧ "end".toList ∉ names items

theorem mem_names {items : List Item} {name : Text} :
    name ∈ names items ↔ .reference name ∈ items := by
  simp only [names, List.mem_filterMap]
  constructor
  · rintro ⟨item, member, found⟩
    cases item with
    | reference other =>
        cases found
        exact member
    | literal quote text => cases found
  · exact fun member => ⟨_, member, rfl⟩

theorem replaced_eq_ok {bindings : Bindings} {text : Item → Text} {items : List Item}
    (each : ∀ item ∈ items, item.replaced bindings = .ok (text item)) :
    replaced bindings items = .ok (items.flatMap text) := by
  induction items with
  | nil => rfl
  | cons item rest induction =>
      rw [List.forall_mem_cons] at each
      rw [replaced, each.1, induction each.2]
      rfl

theorem replaced_eq_error {bindings : Bindings} {cause : Fault} {items : List Item}
    (each : ∀ item ∈ items, (∃ text, item.replaced bindings = .ok text) ∨
      item.replaced bindings = .error cause)
    {item : Item} (member : item ∈ items) (failed : item.replaced bindings = .error cause) :
    replaced bindings items = .error cause := by
  induction items with
  | nil => cases member
  | cons first rest induction =>
      rw [List.forall_mem_cons] at each
      rw [replaced]
      rcases List.mem_cons.mp member with rfl | later
      · rw [failed]
        rfl
      · rw [induction each.2 later]
        rcases each.1 with ⟨text, fine⟩ | failed
        · rw [fine]
          rfl
        · rw [failed]
          rfl

theorem replaced_reference {bindings : Bindings} {name : Text} {number : Int}
    (unreserved : isReserved name = false) (holds : Holds bindings name number) :
    (Item.reference name).replaced bindings = Value.writeInteger number := by
  obtain ⟨constant, stored⟩ := holds
  rw [Item.replaced, Bindings.referenceText?, unreserved, stored]
  exact Variable.mention_integer number constant

theorem isPlain_ofInt (number : Int) : IsPlain (Text.ofInt number) := by
  have digits : IsPlain (Text.ofNat number.natAbs) := fun char member =>
    Expression.of_isDigit (Expression.isDigit_of_mem_ofNat member) (by decide)
  rw [Text.ofInt]
  split
  · have sign : IsPlain ['-'] := by decide
    exact sign.append digits
  · exact digits

theorem isPlain_shown (value : Text → Int) {items : List Item}
    (plain : ∀ item ∈ items, item.IsPlain) : IsPlain (items.flatMap (Item.shown value)) := by
  intro char member
  obtain ⟨item, inside, shown⟩ := List.mem_flatMap.mp member
  have itemPlain := plain item inside
  cases item with
  | reference name => exact isPlain_ofInt (value name) char shown
  | literal quote text => exact itemPlain.2.2.1 char shown

section Integers

variable {bindings : Bindings} {value : Text → Int} {items : List Item}
  (plain : ∀ item ∈ items, item.IsPlain) (legible : Legible items)
  (holds : ∀ name ∈ names items, Holds bindings name (value name))

include plain legible holds

theorem replaced_item {name : Text} (member : name ∈ names items) :
    (Item.reference name).replaced bindings = Value.writeInteger (value name) := by
  have lowerName : IsLowerName name := plain _ (mem_names.mp member)
  have unreserved : isReserved name = false := by
    rw [← Bool.not_eq_true, lowerName.isReserved_iff]
    rintro rfl
    exact legible.2 member
  exact replaced_reference unreserved (holds name member)

theorem replaced_of_short (short : ∀ name ∈ names items, IsShort (value name)) :
    replaced bindings items = .ok (items.flatMap (Item.shown value)) := by
  apply replaced_eq_ok
  intro item member
  cases item with
  | reference name =>
      have named := mem_names.mpr member
      rw [replaced_item plain legible holds named, Value.writeInteger_of_short (short name named)]
      rfl
  | literal quote text => rfl

theorem replaced_of_long {name : Text} (member : name ∈ names items)
    (long : ¬IsShort (value name)) : replaced bindings items = .error .tooLongToWrite := by
  have failed := replaced_item plain legible holds member
  rw [Value.writeInteger_of_long long] at failed
  refine replaced_eq_error (fun item inside => ?_) (mem_names.mp member) failed
  cases item with
  | reference other =>
      rw [replaced_item plain legible holds (mem_names.mpr inside)]
      by_cases short : IsShort (value other)
      · exact .inl ⟨_, Value.writeInteger_of_short short⟩
      · exact .inr (Value.writeInteger_of_long short)
  | literal quote text => exact .inl ⟨text, rfl⟩

end Integers

/-! ## Items that are not legible

The extent of some items is how many characters they show when every variable is zero. A name that
takes word characters along hides them, so that items which are read otherwise have a smaller
one. -/

private theorem shown_zero (name : Text) : (Item.reference name).shown (fun _ => 0) = ['0'] := by
  rw [Item.shown]
  decide

def extent (items : List Item) : Nat := (items.flatMap (Item.shown fun _ => 0)).length

theorem extent_reference (name : Text) (rest : List Item) :
    extent (.reference name :: rest) = extent rest + 1 := by
  rw [extent, List.flatMap_cons, shown_zero]
  rfl

theorem extent_literal (quote : Char) (text : Text) (rest : List Item) :
    extent (.literal quote text :: rest) = text.length + extent rest :=
  List.length_append

/-- What a name takes along is missing. -/
theorem extent_absorb (name : Text) (items : List Item) :
    extent (absorb name items) ≤ extent items + 1 ∧
      (extent (absorb name items) = extent items + 1 →
        (joined items).head?.any Text.isWord = false) := by
  induction items generalizing name with
  | nil => exact ⟨(extent_reference name []).le, fun _ => rfl⟩
  | cons item rest induction =>
      cases item with
      | reference other => exact ⟨(extent_reference name _).le, fun _ => rfl⟩
      | literal quote text =>
          obtain ⟨most, clear⟩ := induction (name ++ text)
          rw [absorb, extent_literal, joined_literal]
          split
          · refine ⟨by omega, fun whole => ?_⟩
            have nothing : text = [] := List.eq_nil_of_length_eq_zero (by omega)
            rw [nothing, List.length_nil, Nat.zero_add] at whole
            rw [nothing, List.nil_append]
            exact clear (nothing ▸ whole)
          · next stops =>
              obtain ⟨head, tail, left, ended⟩ := exists_dropWhile_eq_cons stops
              have parts := congrArg List.length
                (List.takeWhile_append_dropWhile (p := Text.isWord) (l := text))
              rw [List.length_append] at parts
              rw [extent_reference, extent_literal]
              refine ⟨by omega, fun whole => ?_⟩
              have nothing : text.takeWhile Text.isWord = [] :=
                List.eq_nil_of_length_eq_zero (by omega)
              have same := List.takeWhile_append_dropWhile (p := Text.isWord) (l := text)
              rw [nothing, left, List.nil_append] at same
              rw [← same]
              exact ended

theorem extent_read (items : List Item) :
    extent (read items) ≤ extent items ∧ (extent (read items) = extent items → Separate items) := by
  induction items with
  | nil => exact ⟨Nat.le_refl _, fun _ => trivial⟩
  | cons item rest induction =>
      obtain ⟨most, separate⟩ := induction
      cases item with
      | reference name =>
          obtain ⟨least, clear⟩ := extent_absorb name (read rest)
          rw [joined_read] at clear
          rw [read, extent_reference]
          exact ⟨by omega, fun whole => ⟨clear (by omega), separate (by omega)⟩⟩
      | literal quote text =>
          rw [read, extent_literal, extent_literal]
          exact ⟨by omega, fun whole => separate (by omega)⟩

def zeros (names : List Text) : Machine :=
  Machine.ofVariables (names.map (·, ⟨DataType.integer.name, .integer 0, false⟩))

private theorem zeros_declared (names : List Text) (machine : Machine) (name : Text) :
    ((names.map (·, (⟨DataType.integer.name, .integer 0, false⟩ : Variable))).foldl
        (fun machine entry => machine.declare entry.1 entry.2) machine).find? name =
      if name ∈ names then some ⟨DataType.integer.name, .integer 0, false⟩
      else machine.find? name := by
  induction names generalizing machine with
  | nil => rfl
  | cons first rest induction =>
      rw [List.map_cons, List.foldl_cons, induction, Machine.find?_declare]
      by_cases later : name ∈ rest
      · simp [later]
      · by_cases same : first = name
        · simp [same]
        · simp [later, same, Ne.symm same]

theorem bindings_zeros (names : List Text) (name : Text) :
    (zeros names).bindings name =
      if name ∈ names then some ⟨DataType.integer.name, .integer 0, false⟩ else none :=
  zeros_declared names .empty name

theorem zeros_outside (names : List Text) : (zeros names).current.inComment = false := by
  have kept : ∀ machine : Machine,
      ((names.map (·, (⟨DataType.integer.name, .integer 0, false⟩ : Variable))).foldl
        (fun machine entry => machine.declare entry.1 entry.2) machine).current.inComment =
          machine.current.inComment := by
    induction names with
    | nil => exact fun _ => rfl
    | cons first rest induction => exact fun machine => induction (machine.declare first _)
  exact kept .empty

def Item.zeroed (names : List Text) : Item → Text
  | reference name =>
      if isReserved name then ['\\', 'n'] else if name ∈ names then ['0'] else '@' :: name
  | literal _ text => text

theorem replaced_zeros (names : List Text) (item : Item) :
    item.replaced (zeros names).bindings = .ok (item.zeroed names) := by
  cases item with
  | literal quote text => rfl
  | reference name =>
      rw [Item.replaced, Bindings.referenceText?, bindings_zeros, Item.zeroed]
      by_cases reserved : isReserved name = true
      · rw [if_pos reserved, if_pos reserved]
        rfl
      · rw [if_neg reserved, if_neg reserved]
        by_cases member : name ∈ names
        · rw [if_pos member, if_pos member]
          exact (Variable.mention_integer 0 false).trans (by decide)
        · rw [if_neg member, if_neg member]
          rfl

def telltale (char : Char) : Nat := if char = '@' ∨ char = '\\' ∨ char = '\n' then 1 else 0

theorem telltale_shown {items : List Item} (plain : ∀ item ∈ items, item.IsPlain) :
    Text.weight telltale (items.flatMap (Item.shown fun _ => 0)) = 0 := by
  rw [Text.weight_eq_zero_iff]
  intro char member
  obtain ⟨item, inside, shown⟩ := List.mem_flatMap.mp member
  have itemPlain := plain item inside
  cases item with
  | reference name =>
      rw [shown_zero, List.mem_singleton] at shown
      rw [shown]
      decide
  | literal quote text =>
      rw [telltale, if_neg]
      rintro (rfl | rfl | rfl)
      · exact itemPlain.2.2.1.notMem (by decide) shown
      · exact itemPlain.2.2.1.notMem (by decide) shown
      · exact absurd (itemPlain.2.2.2.1 _ shown (by decide)) (by decide)

private theorem notMem_zeroed (names : List Text) {item : Item} (readable : item.IsReadable) :
    '\x7b' ∉ item.zeroed names := by
  cases item with
  | literal quote text => exact IsPlain.notMem readable (by decide)
  | reference name =>
      intro member
      rw [Item.zeroed] at member
      split at member
      · exact absurd member (by decide)
      · split at member
        · exact absurd member (by decide)
        · rcases List.mem_cons.mp member with mark | inside
          · exact absurd mark (by decide)
          · cases List.all_eq_true.mp (IsReferable.inner readable) _ inside

private theorem zeroed_eq_shown {names : List Text} {item : Item}
    (clear : ∀ char ∈ item.zeroed names, telltale char = 0) :
    item.zeroed names = item.shown fun _ => 0 := by
  cases item with
  | literal quote text => rfl
  | reference name =>
      rw [Item.zeroed] at clear ⊢
      split at clear
      · exact absurd (clear '\\' List.mem_cons_self) (by decide)
      · split at clear
        · next unreserved member =>
            rw [if_neg unreserved, if_pos member, shown_zero]
        · exact absurd (clear '@' List.mem_cons_self) (by decide)

section Zeros

variable [Evaluator] {items : List Item} (present : items ≠ [])
  (plain : ∀ item ∈ items, item.IsPlain)
  (rendered : render (zeros (names items)).bindings (Text.words (written items)) =
    .ok (items.flatMap (Item.shown fun _ => 0)))

include present plain rendered

/-- If the items come out, so do the items that they are read as. -/
theorem zeroed_eq {readItems : List Item} (same : joined readItems = joined items)
    (separate : Separate readItems) (readable : ∀ item ∈ readItems, item.IsReadable) :
    (∀ item ∈ readItems, item.zeroed (names items) = item.shown fun _ => 0) ∧
      extent readItems = extent items := by
  have each := fun item (_ : item ∈ readItems) => replaced_zeros (names items) item
  rw [render_written _ present plain same separate readable, replaced_eq_ok each] at rendered
  have unopened : '\x7b' ∉ readItems.flatMap (Item.zeroed (names items)) := by
    intro member
    obtain ⟨item, inside, opening⟩ := List.mem_flatMap.mp member
    exact notMem_zeroed (names items) (readable item inside) opening
  have expanded := (expand_of_unopened (zeros (names items)).bindings.meaning unopened).symm.trans
    rendered
  rw [Except.ok.injEq] at expanded
  -- Replacing the reserved pairs does not hide that something did not come out.
  have clear : Text.weight telltale (readItems.flatMap (Item.zeroed (names items))) = 0 := by
    have equal : Text.weight telltale ['\n'] = Text.weight telltale ['\\', 'n'] := by decide
    rw [← Text.weight_replaceAll_eq (List.cons_ne_nil _ _) equal, ← unescaped, expanded]
    exact telltale_shown plain
  rw [Text.weight_eq_zero_iff] at clear
  have came : ∀ item ∈ readItems, item.zeroed (names items) = item.shown fun _ => 0 :=
    fun item inside => zeroed_eq_shown fun char member =>
      clear char (List.mem_flatMap.mpr ⟨item, inside, member⟩)
  have unbroken : ¬['\\', 'n'] <:+: readItems.flatMap (Item.zeroed (names items)) :=
    fun found => absurd (clear '\\' (found.subset List.mem_cons_self)) (by decide)
  rw [unescaped, Text.replaceAll_eq_self unbroken, List.flatMap_congr came] at expanded
  exact ⟨came, congrArg List.length expanded⟩

theorem legible_of_zeros : Legible items := by
  have readable := fun item member => (plain item member).isReadable
  have separate : Separate items :=
    (extent_read items).2 (zeroed_eq present plain rendered (joined_read items)
      (separate_read items) (readable_read readable)).2
  refine ⟨separate, fun reserved => ?_⟩
  have came := (zeroed_eq present plain rendered rfl separate readable).1 _ (mem_names.mp reserved)
  rw [Item.zeroed, if_pos (by decide), shown_zero] at came
  cases came

end Zeros

end Message

/-! ## Lines that say items -/

namespace Line

open Message

/-- A line that says items writes what the items that they are read as are replaced by, where
expressions may come in with the values of variables; without any, the machine is left alone. If the
variables are integers that can be written, the items come out one after another on every machine
just if they are legible. A value that is too long to write makes the line fail. -/
theorem writes_items_iff [Evaluator] {items : List Item} (present : items ≠ [])
    (plain : ∀ item ∈ items, item.IsPlain) :
    (∀ machine : Machine, machine.current.inComment = false →
      (∀ text, Tells (saying (written items)) machine text ↔
        (do
          let message ← replaced machine.bindings (read items)
          expand machine.bindings.meaning message : Except Error Text) = .ok text) ∧
      ((∀ message, replaced machine.bindings (read items) = .ok message → '\x7b' ∉ message) →
        ∀ text, Writes (saying (written items)) machine text ↔
          Tells (saying (written items)) machine text)) ∧
    (Legible items ↔
      ∀ (machine : Machine) (value : Text → Int), machine.current.inComment = false →
        (∀ name ∈ names items, Holds machine.bindings name (value name) ∧ IsShort (value name)) →
        Writes (saying (written items)) machine (items.flatMap (Item.shown value))) ∧
    (Legible items →
      ∀ (machine : Machine) (value : Text → Int), machine.current.inComment = false →
        (∀ name ∈ names items, Holds machine.bindings name (value name)) →
        (∃ name ∈ names items, ¬IsShort (value name)) →
        ∀ (World : Type) (host : Host World) (world : World),
          execute host (saying (written items)) machine world =
            (.failed (.inCommand .say .tooLongToWrite), machine, world)) := by
  have body := isBody_written present plain
  have unended := body.plain.notMem (by decide : '#' ∈ specials)
  have unmarked := fun char => @IsPlain.unmarked _ body.plain char
  have readable := fun item member => (plain item member).isReadable
  refine ⟨fun machine outside => ⟨fun text => ?_, fun unopened text => ?_⟩,
    ⟨fun legible machine value outside holds => ?_, ?_⟩, ?_⟩
  · rw [tells_saying_iff body.trimmed unended unmarked outside,
      render_written _ present plain (joined_read items) (separate_read items)
        (readable_read readable)]
  · apply writes_iff_tells
    rw [code_saying body.trimmed unended, effects_saying unmarked]
    exact messageEffects_written _ present plain (joined_read items) (separate_read items)
      (readable_read readable) unopened
  · have shown := replaced_of_short plain legible (fun name member => (holds name member).1)
      fun name member => (holds name member).2
    have shownPlain := isPlain_shown value plain
    rw [writes_saying_iff body.trimmed unended unmarked outside]
    · rw [render_written _ present plain rfl legible.1 readable, shown]
      exact shownPlain.expand_eq _
    · apply messageEffects_written _ present plain rfl legible.1 readable
      rw [shown]
      rintro _ ⟨⟩
      exact shownPlain.notMem (by decide)
  · intro law
    have outside := zeros_outside (names items)
    have writes := law (zeros (names items)) (fun _ => 0) outside fun name member =>
      ⟨⟨false, by rw [bindings_zeros, if_pos member]⟩, by decide⟩
    exact legible_of_zeros present plain
      (render_of_writes body.trimmed unended unmarked outside writes)
  · rintro legible machine value outside holds ⟨name, member, long⟩ World host world
    have failed := replaced_of_long plain legible holds member long
    have quiet : effects machine.bindings (code (saying (written items))) = .none := by
      rw [code_saying body.trimmed unended, effects_saying unmarked]
      apply messageEffects_written _ present plain rfl legible.1 readable
      rw [failed]
      nofun
    rw [execute_saying body.trimmed unended unmarked outside,
      render_written _ present plain rfl legible.1 readable, failed]
    simp only [said, machineAfter, worldAfter, quiet]
    rfl

/-- A name between texts, and a name with a letter after it. -/
theorem writes_items_iff_two :
    let machine := Machine.ofVariables [("n".toList, ⟨DataType.integer.name, .integer (-7), false⟩)]
    Writes (saying "\"n is \" n '!'".toList) machine "n is -7!".toList ∧
      Writes (saying "n \"th\"".toList) machine "@nth".toList := by
  intro machine
  have name : IsLowerName "n".toList := ⟨by decide, by decide⟩
  have literal {quote : Char} {text : Text} (quotes : isQuote quote = true)
      (unquoted : quote ∉ text) (plain : Message.IsPlain text) (spaced : text.singleSpaced = text) :
      (Item.literal quote text).IsPlain :=
    ⟨quotes, unquoted, plain, (Text.singleSpaced_eq_self_iff text).mp spaced⟩
  constructor
  · have law := @writes_items_iff _
      [.literal '"' "n is ".toList, .reference "n".toList, .literal '\'' "!".toList]
      (List.cons_ne_nil _ _) (by
        simp only [List.forall_mem_cons]
        exact ⟨literal (by decide) (by decide) (by decide) (by decide), name,
          literal (by decide) (by decide) (by decide) (by decide), nofun⟩)
    refine law.2.1.mp ⟨⟨by decide, trivial⟩, by decide⟩ machine (fun _ => -7) rfl ?_
    intro other member
    rw [List.mem_singleton.mp member]
    exact ⟨⟨false, rfl⟩, by decide⟩
  · have law := @writes_items_iff _ [.reference "n".toList, .literal '"' "th".toList]
      (List.cons_ne_nil _ _) (by
        simp only [List.forall_mem_cons]
        exact ⟨name, literal (by decide) (by decide) (by decide) (by decide), nofun⟩)
    have unopened : ∀ message, replaced machine.bindings
        (Message.read [.reference "n".toList, .literal '"' "th".toList]) = .ok message →
          '\x7b' ∉ message := by
      rintro _ ⟨⟩
      decide
    exact ((law.1 machine rfl).2 unopened _).mpr (((law.1 machine rfl).1 "@nth".toList).mpr rfl)

end Line

end Linewise
