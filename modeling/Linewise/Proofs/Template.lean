import Linewise.Proofs.Saying

/-!
Messages divided into texts and groups. Each replacement looks for the leftmost group of the whole
message again. As long as results have no braces, what is before that group is the part already
expanded, so that the groups are calculated once each, from the left, and the first one that fails
ends the expansion.
-/

namespace Linewise

def Value.displayed : Value → Except Fault Text
  | .null => .ok "null".toList
  | value => value.written

namespace Message

/-! ## Templates -/

/-- A group and the text after it, up to the next group. -/
structure Slot where
  source : Text
  after : Text
deriving DecidableEq, Repr

/-- A message divided at its groups. -/
structure Template where
  start : Text
  slots : List Slot
deriving DecidableEq, Repr

def IsBraceless (text : Text) : Prop := ∀ char ∈ text, isBrace char = false

instance (text : Text) : Decidable (IsBraceless text) := List.decidableBAll _ text

namespace Slot

def text (slot : Slot) : Text := '\x7b' :: (slot.source ++ '\x7d' :: slot.after)

def unescaped (slot : Slot) : Slot :=
  ⟨Message.unescaped slot.source, Message.unescaped slot.after⟩

/-- The braces around the source are the only ones, and the group is not empty. -/
structure IsPlain (slot : Slot) : Prop where
  present : slot.source ≠ []
  source : IsBraceless slot.source
  after : IsBraceless slot.after

instance (slot : Slot) : Decidable slot.IsPlain :=
  decidable_of_iff (slot.source ≠ [] ∧ IsBraceless slot.source ∧ IsBraceless slot.after)
    ⟨fun holds => ⟨holds.1, holds.2.1, holds.2.2⟩,
      fun plain => ⟨plain.present, plain.source, plain.after⟩⟩

end Slot

namespace Template

def text (template : Template) : Text := template.start ++ template.slots.flatMap Slot.text

def unescaped (template : Template) : Template :=
  ⟨Message.unescaped template.start, template.slots.map Slot.unescaped⟩

/-- The braces around the groups are the only ones, and no group is empty. -/
structure IsPlain (template : Template) : Prop where
  start : IsBraceless template.start
  slots : ∀ slot ∈ template.slots, slot.IsPlain

instance (template : Template) : Decidable template.IsPlain :=
  have : Decidable (∀ slot ∈ template.slots, slot.IsPlain) := List.decidableBAll _ template.slots
  decidable_of_iff (IsBraceless template.start ∧ ∀ slot ∈ template.slots, slot.IsPlain)
    ⟨fun holds => ⟨holds.1, holds.2⟩, fun plain => ⟨plain.start, plain.slots⟩⟩

def filled (template : Template) (shown : List Text) : Text :=
  template.start ++
    (List.zipWith (fun slot result => result ++ slot.after) template.slots shown).flatten

end Template

private theorem unescaped_divided {brace : Char} (foreign : brace ∉ ['\\', 'n'])
    (left right : Text) :
    unescaped (left ++ brace :: right) = unescaped left ++ brace :: unescaped right :=
  Text.replaceAll_append_cons (List.cons_ne_nil _ _) foreign ['\n'] left right

private theorem unescaped_slots (start : Text) (slots : List Slot) :
    unescaped (start ++ slots.flatMap Slot.text) =
      unescaped start ++ (slots.map Slot.unescaped).flatMap Slot.text := by
  induction slots generalizing start with
  | nil => simp
  | cons slot rest induction =>
      have group : slot.text ++ rest.flatMap Slot.text =
          '\x7b' :: (slot.source ++ '\x7d' :: (slot.after ++ rest.flatMap Slot.text)) := by
        simp [Slot.text]
      rw [List.flatMap_cons, group, unescaped_divided (by decide), unescaped_divided (by decide),
        induction slot.after]
      simp [Slot.text, Slot.unescaped]

/-- The reserved pairs are replaced in each part by itself. -/
theorem Template.unescaped_text (template : Template) :
    Message.unescaped template.text = template.unescaped.text :=
  unescaped_slots template.start template.slots

theorem count_slots {slots : List Slot} (plain : ∀ slot ∈ slots, slot.IsPlain) :
    (slots.flatMap Slot.text).count '\x7b' = slots.length := by
  have none : ∀ {text : Text}, IsBraceless text → text.count '\x7b' = 0 := by
    intro text braceless
    rw [List.count_eq_zero]
    intro member
    cases braceless '\x7b' member
  induction slots with
  | nil => rfl
  | cons slot rest induction =>
      rw [List.forall_mem_cons] at plain
      rw [List.flatMap_cons, List.count_append, induction plain.2]
      simp [Slot.text, none plain.1.source, none plain.1.after]
      omega

/-! ## Calculations -/

/-- The replacing of groups, with results that are asked for. What is asked for may be remembered,
so that it matters how often and in which order this is done. -/
def expandAsking {State : Type} (ask : Text → State → Except Error Text × State) :
    Nat → Text → State → Except Error Text × State
  | 0, message, state =>
      (if (firstGroup? message).isNone then .ok message else .error .unfinished, state)
  | turns + 1, message, state =>
      match firstGroup? message with
      | none => (.ok message, state)
      | some group =>
          match ask group.inside state with
          | (.error error, state) => (.error error, state)
          | (.ok result, state) =>
              expandAsking ask turns (group.before ++ result ++ group.after) state

section Noting

variable [Evaluator]

def meaningLeft (meaning : Meaning) (source : Text) : Meaning :=
  meaning.revised (Expression.effects source meaning).revision

/-- Calculate a result with the values that there are, and note down what was calculated. -/
def noting (source : Text) (state : Meaning × List Text) :
    Except Error Text × Meaning × List Text :=
  (resultText state.1 source, meaningLeft state.1 source, state.2 ++ [source])

def expandNoting (meaning : Meaning) (message : Text) : Except Error Text × List Text :=
  let (text, _, noted) :=
    expandAsking noting (mostTurns (unescaped message)) (unescaped message) (meaning, [])
  (text, noted)

variable {meaning : Meaning} {message : Text} {group : Group}

omit [Evaluator] in
theorem expandAsking_done {State : Type} (ask : Text → State → Except Error Text × State)
    (done : firstGroup? message = none) (turns : Nat) (state : State) :
    expandAsking ask turns message state = (.ok message, state) := by
  cases turns with
  | zero => simp [expandAsking, done]
  | succ turns => simp [expandAsking, done]

theorem expandAsking_failing (found : firstGroup? message = some group) {error : Error}
    (failed : resultText meaning group.inside = .error error) (turns : Nat) (noted : List Text) :
    expandAsking noting (turns + 1) message (meaning, noted) =
      (.error error, meaningLeft meaning group.inside, noted ++ [group.inside]) := by
  simp only [expandAsking, found, noting, failed]

theorem expandAsking_replacing (found : firstGroup? message = some group) {result : Text}
    (replaced : resultText meaning group.inside = .ok result) (turns : Nat) (noted : List Text) :
    expandAsking noting (turns + 1) message (meaning, noted) =
      expandAsking noting turns (group.before ++ result ++ group.after)
        (meaningLeft meaning group.inside, noted ++ [group.inside]) := by
  simp only [expandAsking, found, noting, replaced]

/-- Taking notes changes nothing else. -/
theorem expandAsking_noting (meaning : Meaning) (turns : Nat) (message : Text)
    (noted : List Text) :
    (expandAsking noting turns message (meaning, noted)).1 =
      expandGroups meaning turns message := by
  induction turns generalizing meaning message noted with
  | zero => simp only [expandAsking, expandGroups]
  | succ turns induction =>
      rcases turn_cases meaning message with done | ⟨group, error, found, failed⟩ |
        ⟨group, result, found, replaced⟩
      · rw [expandAsking_done _ done, (expandGroups_done done (turns + 1)).1]
      · rw [expandAsking_failing found failed, (expandGroups_failing found failed turns).1]
      · have left : meaningAfter meaning message = meaningLeft meaning group.inside := by
          rw [meaningAfter, effectsOnce, found]
          rfl
        rw [expandAsking_replacing found replaced, (expandGroups_replacing found replaced turns).1,
          left]
        exact induction _ _ _

theorem expandNoting_fst (meaning : Meaning) (message : Text) :
    (expandNoting meaning message).1 = expand meaning message :=
  expandAsking_noting meaning _ _ []

end Noting

/-! ## Filling -/

section Shows

variable [Evaluator]

/-- The group has a value, and its text is one without braces. -/
def Shows (meaning : Meaning) (slot : Slot) (result : Text) : Prop :=
  ∃ value, Expression.calculate slot.source meaning = .ok value ∧
    value.displayed = .ok result ∧ IsBraceless result

/-- Each group has such a value when those before it have been evaluated, and these values of names
are left by all of them. -/
inductive ShowsAll : Meaning → List Slot → List Text → Meaning → Prop
  | nil {meaning : Meaning} : ShowsAll meaning [] [] meaning
  | cons {meaning left : Meaning} {slot : Slot} {result : Text} {slots : List Slot}
      {shown : List Text} (first : Shows meaning slot result)
      (others : ShowsAll (meaningLeft meaning slot.source) slots shown left) :
      ShowsAll meaning (slot :: slots) (result :: shown) left

theorem resultText_of_calculate {meaning : Meaning} {source : Text} {value : Value}
    (calculated : Expression.calculate source meaning = .ok value) :
    resultText meaning source = liftFault value.displayed := by
  rw [resultText, Expression.shownResult, calculated]
  cases value <;> rfl

theorem Shows.resultText_eq {meaning : Meaning} {slot : Slot} {result : Text}
    (shows : Shows meaning slot result) : resultText meaning slot.source = .ok result := by
  rcases shows with ⟨value, calculated, displayed, -⟩
  rw [resultText_of_calculate calculated, displayed]
  rfl

theorem resultText_of_failed {meaning : Meaning} {source : Text} {error : Error}
    (failed : Expression.calculate source meaning = .error error) :
    resultText meaning source = .error error := by
  rw [resultText, Expression.shownResult, failed]
  rfl

theorem cause_of_failed {meaning : Meaning} {source : Text} {error : Error}
    (failed : Expression.calculate source meaning = .error error) :
    error = .unfinished ∨ ∃ cause, error = .calculation cause := by
  unfold Expression.calculate at failed
  split at failed
  · cases failed
    exact .inl rfl
  · next result _ =>
      cases shown : result >>= Expression.resultFor with
      | ok value =>
          rw [shown] at failed
          cases failed
      | error cause =>
          rw [shown] at failed
          cases failed
          exact .inr ⟨cause, rfl⟩

end Shows

theorem IsBraceless.append {left right : Text} (leftBraceless : IsBraceless left)
    (rightBraceless : IsBraceless right) : IsBraceless (left ++ right) := by
  intro char member
  rcases List.mem_append.mp member with before | behind
  · exact leftBraceless char before
  · exact rightBraceless char behind

theorem Template.filled_cons (start : Text) (slot : Slot) (slots : List Slot) (result : Text)
    (shown : List Text) :
    (Template.mk start (slot :: slots)).filled (result :: shown) =
      (Template.mk (start ++ result ++ slot.after) slots).filled shown := by
  simp [filled]

section Filling

variable {meaning left : Meaning} {slot : Slot} {done result : Text}
  (braceless : IsBraceless done)

include braceless

theorem firstGroup?_slot (plain : slot.IsPlain) (rest : Text) :
    firstGroup? (done ++ (slot.text ++ rest)) = some ⟨done, slot.source, slot.after ++ rest⟩ := by
  have found := firstGroup?_braceless braceless plain.present plain.source (slot.after ++ rest)
  simpa [Slot.text] using found

variable [Evaluator]

/-- A replacement moves a group over to the part that is already expanded. -/
theorem expandAsking_slot (plain : slot.IsPlain) (shows : Shows meaning slot result)
    (rest : Text) (turns : Nat) (noted : List Text) :
    expandAsking noting (turns + 1) (done ++ (slot.text ++ rest)) (meaning, noted) =
      expandAsking noting turns (done ++ result ++ slot.after ++ rest)
        (meaningLeft meaning slot.source, noted ++ [slot.source]) := by
  have found := firstGroup?_slot braceless plain rest
  rw [expandAsking_replacing found shows.resultText_eq, List.append_assoc _ slot.after]

theorem expandAsking_slot_failing (plain : slot.IsPlain) {error : Error}
    (failed : Expression.calculate slot.source meaning = .error error)
    (rest : Text) (turns : Nat) (noted : List Text) :
    expandAsking noting (turns + 1) (done ++ (slot.text ++ rest)) (meaning, noted) =
      (.error error, meaningLeft meaning slot.source, noted ++ [slot.source]) :=
  expandAsking_failing (firstGroup?_slot braceless plain rest) (resultText_of_failed failed)
    turns noted

variable {slots : List Slot} {shown : List Text} (plain : ∀ slot ∈ slots, slot.IsPlain)
  (shows : ShowsAll meaning slots shown left)

include plain shows

theorem braceless_filled : IsBraceless ((Template.mk done slots).filled shown) := by
  induction shows generalizing done with
  | nil => simpa [Template.filled] using braceless
  | cons first others induction =>
      rw [List.forall_mem_cons] at plain
      rcases first with ⟨_, _, _, resultBraceless⟩
      rw [Template.filled_cons]
      exact induction ((braceless.append resultBraceless).append plain.1.after) plain.2

/-- The groups are replaced one after another, whatever comes after them. What is in front of the
first one left, `done`, has been expanded, and has no braces. -/
theorem expandAsking_slots (rest : Text) (turns : Nat) (noted : List Text) :
    expandAsking noting (slots.length + turns)
        (done ++ (slots.flatMap Slot.text ++ rest)) (meaning, noted) =
      expandAsking noting turns ((Template.mk done slots).filled shown ++ rest)
        (left, noted ++ slots.map Slot.source) := by
  induction shows generalizing done noted with
  | nil => simp [Template.filled]
  | @cons _ _ slot result slots shown first others induction =>
      rw [List.forall_mem_cons] at plain
      have turn : (slot :: slots).length + turns = (slots.length + turns) + 1 := by
        rw [List.length_cons]
        omega
      have next : IsBraceless (done ++ result ++ slot.after) := by
        rcases first with ⟨_, _, _, resultBraceless⟩
        exact (braceless.append resultBraceless).append plain.1.after
      rw [turn, List.flatMap_cons, List.append_assoc, expandAsking_slot braceless plain.1 first,
        induction next plain.2, Template.filled_cons, List.map_cons, List.append_assoc noted,
        List.singleton_append]

end Filling

namespace Template

variable [Evaluator] {meaning left : Meaning} {template : Template} (plain : template.IsPlain)

include plain

theorem length_le_mostTurns : template.slots.length ≤ mostTurns template.text := by
  rw [mostTurns, text, List.count_append, count_slots plain.slots]
  omega

theorem expandAsking_filled {shown : List Text} {turns : Nat}
    (enough : template.slots.length ≤ turns)
    (shows : ShowsAll meaning template.slots shown left) :
    expandAsking noting turns template.text (meaning, []) =
      (.ok (template.filled shown), left, template.slots.map Slot.source) := by
  have unopened : '\x7b' ∉ template.filled shown := by
    intro member
    cases braceless_filled plain.start plain.slots shows '\x7b' member
  rcases Nat.exists_eq_add_of_le enough with ⟨spare, rfl⟩
  have expanded := expandAsking_slots plain.start plain.slots shows [] spare []
  rw [List.append_nil, List.append_nil, List.nil_append] at expanded
  rw [text, expanded]
  exact expandAsking_done _ (firstGroup?_of_unopened unopened) _ _

theorem expandAsking_failed {before rest : List Slot} {slot : Slot} {shown : List Text}
    {error : Error} {turns : Nat} (divided : template.slots = before ++ slot :: rest)
    (enough : template.slots.length ≤ turns)
    (shows : ShowsAll meaning before shown left)
    (failed : Expression.calculate slot.source left = .error error) :
    expandAsking noting turns template.text (meaning, []) =
      (.error error, meaningLeft left slot.source, (before ++ [slot]).map Slot.source) := by
  have slotsPlain := plain.slots
  rw [divided, List.forall_mem_append, List.forall_mem_cons] at slotsPlain
  have braceless := braceless_filled plain.start slotsPlain.1 shows
  rw [divided, List.length_append, List.length_cons] at enough
  rcases Nat.exists_eq_add_of_le enough with ⟨spare, rfl⟩
  have spent : before.length + (rest.length + 1) + spare =
      before.length + ((rest.length + spare) + 1) := by
    omega
  rw [text, divided, List.flatMap_append, List.flatMap_cons, spent,
    expandAsking_slots plain.start slotsPlain.1 shows,
    expandAsking_slot_failing braceless slotsPlain.2.1 failed, List.nil_append, List.map_append]
  rfl

end Template

/-- A message is divided into texts and groups, and after its reserved pairs have been replaced
there are no braces but those around the groups, none of which is empty. If every group has a value
whose text has no braces, the message stands for its texts with these texts in the places of the
groups. If a group fails after others with such values, the expansion fails for the same reason.
Each group up to there is calculated once, from the left, and no other, with the values of names
that the groups before it have left. -/
theorem expand_template [Evaluator] (meaning : Meaning) (template : Template)
    (plain : template.unescaped.IsPlain) :
    (∀ shown left, ShowsAll meaning template.unescaped.slots shown left →
      expand meaning template.text = .ok (template.unescaped.filled shown) ∧
      expandNoting meaning template.text =
        (expand meaning template.text, template.unescaped.slots.map Slot.source)) ∧
    ∀ before slot rest shown left error, template.unescaped.slots = before ++ slot :: rest →
      ShowsAll meaning before shown left →
      Expression.calculate slot.source left = .error error →
      expand meaning template.text = .error error ∧
      (error = .unfinished ∨ ∃ cause, error = .calculation cause) ∧
      expandNoting meaning template.text =
        (expand meaning template.text, (before ++ [slot]).map Slot.source) := by
  have same := expandNoting_fst meaning template.text
  have enough := Template.length_le_mostTurns plain
  rw [expandNoting, template.unescaped_text] at same ⊢
  constructor
  · intro shown left shows
    rw [Template.expandAsking_filled plain enough shows] at same ⊢
    rw [← same]
    exact ⟨rfl, rfl⟩
  · intro before slot rest shown left error divided shows failed
    rw [Template.expandAsking_failed plain divided enough shows failed] at same ⊢
    rw [← same]
    exact ⟨rfl, cause_of_failed failed, rfl⟩

/-- Two variables, one of which has no value, and a group that cannot be read. -/
theorem expand_template_greeting :
    let meaning : Meaning := fun word =>
      if word = ['x'] then some (.text "\\n".toList) else if word = ['y'] then some .null else none
    expand meaning "Hi\\n\x7bx\x7d, \x7by\x7d!".toList = .ok "Hi\n\\n, null!".toList ∧
      expandNoting meaning "\x7bx\x7d\x7b+\x7d\x7by\x7d".toList =
        (.error (.calculation .invalidSyntax), [['x'], ['+']]) := by
  intro meaning
  have first : IsPlainName ['x'] :=
    ⟨by decide, by decide, by decide, by decide, by decide, by decide⟩
  have second : IsPlainName ['y'] :=
    ⟨by decide, by decide, by decide, by decide, by decide, by decide⟩
  have showsFirst (after : Text) : Shows meaning ⟨['x'], after⟩ "\\n".toList := by
    refine ⟨.text "\\n".toList, ?_, rfl, by decide⟩
    rw [Expression.calculate, evaluation_name first]
    rfl
  have unchanged : meaningLeft meaning ['x'] = meaning := by
    rw [meaningLeft, Expression.effects, evaluation_name first]
    exact meaning.revised_nil
  have followed (after : Text) {slots : List Slot} {shown : List Text} {left : Meaning}
      (others : ShowsAll meaning slots shown left) :
      ShowsAll meaning (⟨['x'], after⟩ :: slots) ("\\n".toList :: shown) left := by
    refine .cons (showsFirst after) ?_
    rw [unchanged]
    exact others
  have showsSecond (after : Text) : Shows meaning ⟨['y'], after⟩ "null".toList := by
    refine ⟨.null, ?_, rfl, by decide⟩
    rw [Expression.calculate, evaluation_name second]
    rfl
  have unread : Expression.calculate ['+'] meaning = .error (.calculation .invalidSyntax) := by
    have none : (Expression.read? (Expression.respell ['+'])).isNone = true := by decide +kernel
    have refused : Expression.evaluation ['+'] meaning = ⟨some (.error .invalidSyntax), .none⟩ := by
      change Expression.evaluatePlain _ _ = _
      rw [Expression.evaluatePlain, Option.isNone_iff_eq_none.mp none]
    rw [Expression.calculate, refused]
    rfl
  constructor
  · have plain : (Template.mk "Hi\\n".toList
        [⟨['x'], ", ".toList⟩, ⟨['y'], "!".toList⟩]).unescaped.IsPlain := by decide
    exact ((expand_template meaning _ plain).1 ["\\n".toList, "null".toList] _
      (followed _ (.cons (showsSecond _) .nil))).1
  · have plain : (Template.mk []
        [⟨['x'], []⟩, ⟨['+'], []⟩, ⟨['y'], []⟩]).unescaped.IsPlain := by decide
    have failed := (expand_template meaning _ plain).2 [⟨['x'], []⟩] ⟨['+'], []⟩ [⟨['y'], []⟩]
      ["\\n".toList] meaning _ rfl (followed _ .nil) unread
    rw [failed.1] at failed
    exact failed.2.2

end Message

end Linewise
