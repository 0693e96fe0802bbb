import Linewise.Proofs.Recasing
import Linewise.Proofs.Saying

/-!
Names in other letter cases, where they are not put into lower case. Variables are stored under
names in lower case, so that any other spelling of a name is a name of nothing: a reference to it
stays as it is, and a formula with it fails.
-/

namespace Linewise

/-! ## Undefined names in formulas -/

namespace Evaluating

variable {α β : Type}

def Fails (evaluating : Evaluating α) : Prop :=
  ∀ memory, ∃ cause later, evaluating.run.run memory = (.error cause, later)

theorem fails_throw (cause : Fault) : Fails (throw cause : Evaluating α) :=
  fun memory => ⟨cause, memory, rfl⟩

theorem Fails.bind {first : Evaluating α} (fails : Fails first) (next : α → Evaluating β) :
    Fails (first >>= next) := by
  intro memory
  obtain ⟨cause, later, failed⟩ := fails memory
  refine ⟨cause, later, ?_⟩
  rw [ExceptT.run_bind, StateT.run_bind, failed]
  rfl

theorem Fails.after (first : Evaluating α) {next : α → Evaluating β}
    (fails : ∀ value, Fails (next value)) : Fails (first >>= next) := by
  intro memory
  rw [ExceptT.run_bind, StateT.run_bind]
  rcases first.run.run memory with ⟨cause | value, later⟩
  · exact ⟨cause, later, rfl⟩
  · exact fails value later

end Evaluating

namespace Formula

theorem expression_operate (operation : Operation) (left right : Formula) :
    (operate operation left right).expression named.leaf =
      .binary operation.operator (left.expression named.leaf) (right.expression named.leaf) := by
  cases operation <;> cases left <;> rfl

variable {formula : Formula} {word : Text} {meaning : Meaning}

theorem evaluate_undefined (undefined : meaning word = none) (member : word ∈ formula.names) :
    ((formula.expression named.leaf).evaluate meaning).Fails := by
  induction formula with
  | number value => cases member
  | name other =>
      rw [List.mem_singleton.mp member] at undefined
      change ((Expr.name other).evaluate meaning).Fails
      simp only [Expr.evaluate, undefined]
      exact Evaluating.fails_throw _
  | operate operation left right leftInduction rightInduction =>
      rw [expression_operate, Expr.evaluate]
      rcases List.mem_append.mp member with inLeft | inRight
      · exact (leftInduction inLeft).bind _
      · exact .after _ fun _ => (rightInduction inRight).bind _
  | relate relation left right leftInduction rightInduction =>
      rw [expression, Expr.evaluate]
      rcases List.mem_append.mp member with inLeft | inRight
      · exact (leftInduction inLeft).bind _
      · refine .after _ fun value => Evaluating.Fails.bind ?_ _
        rw [Expr.allHold]
        exact (rightInduction inRight).bind _

theorem shownResult_undefined (plain : ∀ word ∈ formula.names, IsPlainName word)
    (undefined : meaning word = none) (member : word ∈ formula.names) :
    ∃ cause, Expression.shownResult (formula.written named.text) meaning =
      .error (.calculation cause) := by
  have failed : ∃ cause, formula.result named.leaf meaning = .error cause := by
    unfold result
    split
    · obtain ⟨cause, later, failed⟩ := evaluate_undefined undefined member ⟨[], 0⟩
      exact ⟨cause, congrArg Prod.fst failed⟩
    · exact ⟨_, rfl⟩
  obtain ⟨cause, failed⟩ := failed
  have came : (Expression.evaluation (formula.written named.text) meaning).result =
      some (.error cause) := by
    rw [← failed, ← result_evaluation, ← evaluatePlain_named plain]
    rfl
  refine ⟨cause, ?_⟩
  unfold Expression.shownResult Expression.calculate
  rw [came]
  rfl

end Formula

/-! ## Names of variables -/

/-- A name that a variable can have. -/
structure IsStoredName (name : Text) : Prop where
  uncased : Text.uncased name = name
  unreserved : isReserved name = false

/-- What a command declares or changes is named by one of its arguments, in lower case and not
reserved, or is the variable for entered texts, or is there already. -/
theorem Planned.name_cases {bindings : Bindings} {command : Command} {arguments : List Text}
    {action : Action} (planned : Planned bindings command arguments action) {name : Text}
    (member : name ∈ action.names) :
    (∃ word ∈ arguments, name = Text.lower word ∧ name ≠ "end".toList) ∨
      name = "listened".toList ∨ ∃ stored, bindings name = some stored := by
  cases planned with
  | say | exit | exitWith => cases member
  | @create _ _ type written constant _ read free =>
      rw [List.mem_singleton.mp member]
      have given : written ∈ arguments := by
        unfold Plan.constancy at read
        split at read
        · split at read <;> cases read <;> simp
        · cases read
      exact .inl ⟨written, given, rfl, isReserved_lower_eq_false.mp free⟩
  | @listen type second _ _ rest _ _ supported target =>
      rw [List.mem_singleton.mp member]
      rcases Plan.listenTarget_cases target with ⟨_, rfl⟩ | ⟨_, rfl, free⟩
      · exact .inr (.inl rfl)
      · exact .inl ⟨second, by simp, rfl, isReserved_lower_eq_false.mp free⟩
  | @random _ _ _ rest =>
      cases target : Plan.drawTarget bindings rest with
      | error error =>
          rw [target] at member
          cases member
      | ok drawn =>
          rw [target] at member
          rcases Plan.drawTarget_cases target with ⟨_, rfl⟩ | ⟨word, rfl, rfl, free, _⟩
          · cases member
          · rw [List.mem_singleton.mp member]
            exact .inl ⟨word, by simp, rfl, free⟩
  | change bound | convert bound | round bound | delete bound | reset bound | increment bound
  | decrement bound | uppercase bound | lowercase bound | reverseText bound | reverseTuple bound =>
      rw [List.mem_singleton.mp member]
      exact .inr (.inr ⟨_, bound⟩)
  | swap leftBound rightBound =>
      rcases List.mem_pair.mp member with rfl | rfl
      · exact .inr (.inr ⟨_, leftBound⟩)
      · exact .inr (.inr ⟨_, rightBound⟩)

theorem Planned.storedName {bindings : Bindings} {command : Command} {arguments : List Text}
    {action : Action} (planned : Planned bindings command arguments action) {name : Text}
    (member : name ∈ action.names) : IsStoredName name ∨ ∃ stored, bindings name = some stored := by
  rcases planned.name_cases member with ⟨word, _, rfl, free⟩ | rfl | bound
  · exact .inl ⟨Text.uncased_lower word, isReserved_lower_eq_false.mpr free⟩
  · exact .inl ⟨by decide, by decide⟩
  · exact .inr bound

/-- Every name under which something is stored is one that a variable can have. -/
def Machine.NamesStored (machine : Machine) : Prop :=
  ∀ name, machine.history name ≠ #[] → IsStoredName name

namespace Machine.NamesStored

variable {machine : Machine}

theorem empty : Machine.empty.NamesStored := fun _ present => absurd rfl present

variable (names : machine.NamesStored)

include names

theorem of_find? {name : Text} {stored : Variable} (found : machine.find? name = some stored) :
    IsStoredName name := by
  apply names name
  intro none
  rw [find?_eq, none] at found
  simp at found

/-- Another spelling of a variable's name is the name of no variable. -/
theorem find?_eq_none {name spelling : Text} {stored : Variable}
    (found : machine.find? name = some stored)
    (same : Text.uncased spelling = Text.uncased name) (different : spelling ≠ name) :
    machine.find? spelling = none := by
  cases other : machine.find? spelling with
  | none => rfl
  | some _ =>
      refine absurd ?_ different
      rw [← (names.of_find? other).uncased, same, (names.of_find? found).uncased]

theorem revised (revision : Revision) : (machine.revised revision).NamesStored := by
  intro name present
  apply names name
  intro none
  rw [history_revised, none, Array.map_empty] at present
  exact present rfl

end Machine.NamesStored

theorem Line.Executed.namesStored {line : Text} {machine after : Machine} {outcome : Outcome}
    (executed : Executed line machine outcome after) (names : machine.NamesStored) :
    after.NamesStored := by
  cases executed with
  | marked | skipped => exact names
  | ended => exact names.revised _
  | @performed action _ _ _ planned performed =>
      intro name present
      by_cases member : name ∈ action.names
      · rcases plan_cases planned with ⟨_, _, _, _, byCommand⟩ | ⟨_, rfl | ⟨texts, rfl⟩⟩
        · rcases byCommand.storedName member with proper | ⟨stored, found⟩
          · exact proper
          · exact names.of_find? found
        · cases member
        · cases member
      · rw [(performed.sameAt member).history] at present
        exact names.revised _ name present

theorem Program.keeps_namesStored {World : Type} {host : Host World} (keeps : host.KeepsMachine) :
    Keeps host (fun _ _ => True) fun machine _ => machine.NamesStored where
  line _ names := (Line.execute_cases keeps rfl).namesStored names
  test names := names.revised _
  toggle names := names
  enter names := names
  leave {machine} _ names := by
    intro name present
    rw [Machine.history_leave] at present
    exact names name present
  report names := names

/-! ## What another spelling stands for -/

theorem IsReferable.of_uncased {name spelling : Text} (referable : IsReferable name)
    (same : Text.uncased spelling = Text.uncased name) : IsReferable spelling where
  start := by
    have letter := Text.view_toLower
      (fun char => Text.isAsciiLetter char || decide (char = '_')) (by decide +kernel)
    have first : ∀ text : Text, (Text.uncased text).head?.any
        (fun char => Text.isAsciiLetter char || decide (char = '_')) =
          text.head?.any fun char => Text.isAsciiLetter char || decide (char = '_') := by
      intro text
      cases text with
      | nil => rfl
      | cons head tail => exact letter head
    rw [← first, same, first]
    exact referable.start
  inner := by
    have word := Text.view_toLower Text.isWord (by decide +kernel)
    have all : ∀ text : Text, (Text.uncased text).all Text.isWord = text.all Text.isWord := by
      intro text
      rw [Text.uncased, List.all_map]
      exact congrArg text.all (funext word)
    rw [← all, same, all]
    exact referable.inner

namespace IsReferable

variable {name : Text} (referable : IsReferable name)

include referable

theorem unopened_mark : '\x7b' ∉ '@' :: name :=
  List.not_mem_cons_of_ne_of_not_mem (by decide) (referable.isPlain.notMem (by decide))

theorem expand_mark (meaning : Meaning) :
    Message.expand meaning ('@' :: name) = .ok ('@' :: name) := by
  have absent : '\\' ∉ '@' :: name :=
    List.not_mem_cons_of_ne_of_not_mem (by decide) (referable.isPlain.notMem (by decide))
  rw [Message.expand_of_unopened meaning referable.unopened_mark, Message.unescaped,
    Text.replaceAll_eq_self]
  intro escape
  exact absent (escape.subset List.mem_cons_self)

end IsReferable

/-- Where names are not put into lower case, the spelling does not stand for the variable of the
name: a reference to it stays as it is, and so does it as an item of a message, and a formula that
has it among its names fails. -/
structure Machine.Overlooks (machine : Machine) (name spelling : Text) (stored : Variable) :
    Prop where
  unbound : machine.find? spelling = none
  references : IsReferable name → ∀ mark reference, Reference.ofMark? mark = some reference →
    ∀ before rest, rest.head?.any Text.isWord = false →
      substitute machine.bindings (before ++ mark :: (name ++ rest)) = (do
        let shown ← substitute machine.bindings before
        let text ← stored.shownBy reference
        let others ← substitute machine.bindings rest
        return shown ++ (text ++ others)) ∧
      substitute machine.bindings (before ++ mark :: (spelling ++ rest)) = (do
        let shown ← substitute machine.bindings before
        let others ← substitute machine.bindings rest
        return shown ++ (mark :: spelling ++ others))
  items : IsReferable name → machine.current.inComment = false →
    (∀ text, Line.Tells (Line.saying name) machine text ↔ ∃ shown, stored.mention = .ok shown ∧
      Message.expand machine.bindings.meaning shown = .ok text) ∧
    (∀ shown, stored.mention = .ok shown → '\x7b' ∉ shown → ∀ text,
      Line.Writes (Line.saying name) machine text ↔ Line.Tells (Line.saying name) machine text) ∧
    ∀ text, Line.Writes (Line.saying spelling) machine text ↔ text = '@' :: spelling
  formulas : ∀ formula : Formula, (∀ word ∈ formula.names, IsPlainName word) →
    spelling ∈ formula.names →
      ∃ cause, Expression.shownResult (formula.written named.text) machine.bindings.meaning =
        .error (.calculation cause)

theorem Machine.NamesStored.overlooks {machine : Machine} (names : machine.NamesStored)
    {name spelling : Text} {stored : Variable} (found : machine.find? name = some stored)
    (same : Text.uncased spelling = Text.uncased name) (different : spelling ≠ name) :
    machine.Overlooks name spelling stored := by
  have unbound := names.find?_eq_none found same different
  have unreserved := (names.of_find? found).unreserved
  have free : isReserved spelling = false := by
    rw [isReserved, Text.lower_eq_of_uncased same]
    exact unreserved
  have shown : ∀ reference, machine.bindings.referenceText? reference name =
      some (stored.shownBy reference) := Bindings.referenceText?_eq unreserved found
  have kept : ∀ reference, machine.bindings.referenceText? reference spelling = none :=
    Bindings.referenceText?_eq_none free unbound
  refine ⟨unbound, ?_, ?_, ?_⟩
  · intro referable mark reference marks before rest ended
    constructor
    · rw [substitute_around machine.bindings marks referable before ended, shown]
      rfl
    · rw [substitute_around machine.bindings marks (referable.of_uncased same) before ended, kept]
      rfl
  · intro referable outside
    have respelled := referable.of_uncased same
    refine ⟨fun text => ?_, fun value mentioned unopened => ?_, fun text => ?_⟩
    · rw [referable.tells_saying_iff outside, referable.render_eq machine.bindings unreserved,
        shown, bind_eq_ok]
      exact exists_congr fun message => and_congr_left fun _ => lifted_eq_ok
    · apply referable.writes_saying_iff machine unreserved
      rw [shown]
      intro message given
      cases mentioned.symm.trans given
      exact Message.firstGroup?_unescaped unopened
    · rw [respelled.writes_saying_iff machine free, respelled.tells_saying_iff outside,
        respelled.render_eq machine.bindings free, kept]
      · change Message.expand machine.bindings.meaning ('@' :: spelling) = .ok text ↔ _
        rw [respelled.expand_mark, Except.ok.injEq]
        exact eq_comm
      · rw [kept]
        rintro _ ⟨⟩
        exact Message.firstGroup?_unescaped respelled.unopened_mark
  · intro formula plain member
    apply Formula.shownResult_undefined plain ?_ member
    rw [Bindings.meaning, show machine.bindings spelling = none from unbound]
    rfl

/-- Names may be spelled in any letter case where commands look them up, and nowhere else. Programs
that differ only there have the same result, provided that the names after the marks of values are
spelled alike or that all values can be written. At every moment of a run that starts with names in
lower case, any other spelling of the name of a variable is no name of it: a reference to the
spelling stays as it is, also the one that an item of a message makes, and a formula with it
fails. -/
theorem Program.letterCase_of_ran {World : Type} {host : Host World} {source : Text}
    {machine after : Machine} {world later : World} {moments : List (Moment World)}
    {outcome : Outcome}
    (ran : Ran host (.sequence 1 (Text.lines source)) machine world moments outcome after later) :
    (∀ other, List.Forall₂ Line.Respelled (Text.lines source) (Text.lines other) →
      ((Text.lines source).map Line.mentions = (Text.lines other).map Line.mentions ∨
        ∀ moment ∈ moments, moment.machine.bindings.Writable) →
      run host other machine world = run host source machine world) ∧
    (host.KeepsMachine → machine.NamesStored →
      ∀ moment ∈ moments, ∀ name spelling stored, moment.machine.find? name = some stored →
        Text.uncased spelling = Text.uncased name → spelling ≠ name →
          moment.machine.Overlooks name spelling stored) := by
  constructor
  · intro other respelled alike
    rcases alike with same | writable
    · exact ran.run_exchanged (forall₂_exchanged respelled same) fun _ _ => .inl trivial
    · have exchanged : List.Forall₂ (Exchanged False) (Text.lines source) (Text.lines other) :=
        respelled.imp fun _ _ lines => ⟨lines, False.elim⟩
      exact ran.run_exchanged exchanged fun moment member => .inr (writable moment member)
  · intro keeps names moment member name spelling stored found same different
    have kept := ran.keeps (keeps_namesStored keeps) (fun _ _ _ _ => trivial) names
    exact (kept.2 moment member).overlooks found same different

theorem Machine.NamesStored.declare {machine : Machine} (names : machine.NamesStored) {name : Text}
    (proper : IsStoredName name) (stored : Variable) :
    (machine.declare name stored).NamesStored := by
  intro other present
  by_cases same : name = other
  · exact same ▸ proper
  · rw [(SameAt.declare same stored).history] at present
    exact names other present

namespace Program

def drawing : Text := "RANDOM INT @k 9 r".toList

def drawingRecased : Text := "random INT @K 9 R".toList

theorem ran_drawing : ∃ outcome after later,
    Ran Console.host (.sequence 1 (Text.lines drawing)) .withFive (.start [] [])
      [⟨.line drawing, .withFive, .start [] []⟩] outcome after later := by
  have lines : Text.lines drawing = [drawing] := by decide
  have stripped : Text.strip drawing = drawing := by decide
  have code : Line.code drawing = drawing := by decide
  have simple : Header.command? drawing = none := by decide
  have read : reading drawing [] .withFive = .simple drawing := by
    simp only [reading, stripped, code, simple]
    rfl
  rcases executed : Line.execute Console.host drawing .withFive (.start [] []) with
    ⟨outcome, after, later⟩
  rw [lines]
  by_cases done : outcome = .done
  · exact ⟨_, _, _, .line read (done ▸ executed) .finished⟩
  · exact ⟨_, _, _, .lineEnded read executed done⟩

theorem letterCase_of_ran_drawing :
    List.Forall₂ Line.Respelled (Text.lines drawing) (Text.lines drawingRecased) ∧
    run Console.host drawingRecased .withFive (.start [] []) =
      run Console.host drawing .withFive (.start [] []) ∧
    Line.Writes (Line.saying "k".toList) .withFive "5".toList ∧
    Line.Writes (Line.saying "K".toList) .withFive "@K".toList := by
  obtain ⟨outcome, after, later, ran⟩ := ran_drawing
  have law := letterCase_of_ran ran
  have respelled : List.Forall₂ Line.Respelled (Text.lines drawing) (Text.lines drawingRecased) :=
    .cons (by decide) .nil
  have found : Machine.withFive.find? "k".toList = some .five := by rfl
  have names : Machine.withFive.NamesStored :=
    Machine.NamesStored.empty.declare ⟨by decide, by decide⟩ .five
  have writable : Machine.withFive.bindings.Writable := by
    intro name stored bound
    change (Machine.empty.declare "k".toList .five).find? name = some stored at bound
    rw [Machine.find?_declare] at bound
    split at bound
    · cases bound
      exact ⟨"5".toList, by rfl⟩
    · cases bound
  have overlooks := law.2 Console.host_keepsMachine names _ List.mem_cons_self "k".toList
    "K".toList .five found (by decide) (by decide)
  have items := overlooks.items ⟨by decide, by decide⟩ rfl
  refine ⟨respelled, law.1 _ respelled (.inr fun moment member => ?_), ?_, ?_⟩
  · rw [List.mem_singleton.mp member]
    exact writable
  · rw [items.2.1 "5".toList (by rfl) (by decide)]
    exact (items.1 _).mpr ⟨"5".toList, by rfl, by decide +kernel⟩
  · exact (items.2.2 _).mpr rfl

end Program

end Linewise
