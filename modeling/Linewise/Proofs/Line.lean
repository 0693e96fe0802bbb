import Linewise.Proofs.Machine
import Linewise.Proofs.Plan

/-!
What a line can do. First its expressions are evaluated, which may change containers that variables
hold. A line that comes to its end has carried out its plan after that, and `Performed` says what it
makes of the machine; a line that fails or ends the program leaves the machine as it is then.
-/

namespace Linewise

/-- Whoever is asked for a text gives the machine back as it was. -/
def Host.KeepsMachine {World : Type} (host : Host World) : Prop :=
  ∀ prompt machine world, (host.ask prompt machine world).2.1 = machine

theorem Console.host_keepsMachine : Console.host.KeepsMachine := fun _ _ _ => rfl

def Action.names : Action → List Text
  | .declare name _ | .assign name _ | .remove name | .listen name _ _ => [name]
  | .draw _ _ (.ok (some name)) => [name]
  | .exchange left right _ _ => [left, right]
  | .nothing | .write _ | .finish _ | .draw _ _ _ => []

namespace Line

/-! ## Plans of lines -/

section Plans

variable [Evaluator]

def command? (line : Text) : Option (Command × List Text) :=
  match Text.words (code line) with
  | [] => none
  | first :: arguments => (Command.ofWord? (Text.lower first)).map (·, arguments)

theorem plan_cases {bindings : Bindings} {line : Text} {action : Action}
    (planned : plan bindings (code line) = .ok action) :
    (∃ command arguments, command? line = some (command, arguments) ∧
      (∃ replaced, substituteUnquoted bindings (code line) = .ok replaced) ∧
      Planned bindings command arguments action) ∨
    (command? line = none ∧ (action = .nothing ∨ ∃ texts, action = .write texts)) := by
  unfold plan at planned
  unfold command?
  cases words : Text.words (code line) with
  | nil =>
      simp only [words, Except.ok.injEq] at planned
      exact .inr ⟨rfl, .inl planned.symm⟩
  | cons first arguments =>
      simp only [words, bind_eq_ok] at planned
      obtain ⟨replaced, substituted, planned⟩ := planned
      cases known : Command.ofWord? (Text.lower first) with
      | some command =>
          simp only [known] at planned
          exact .inl ⟨command, arguments, by simp [known], ⟨replaced, lifted_eq_ok.mp substituted⟩,
            Command.plan_eq_ok_iff.mp planned⟩
      | none =>
          simp only [known, calculation] at planned
          split at planned
          · simp only [bind_eq_ok, pure_eq_ok] at planned
            obtain ⟨value, _, shown, _, rfl⟩ := planned
            exact .inr ⟨by simp [known], .inr ⟨_, rfl⟩⟩
          · cases planned

theorem plan_of_planned {bindings : Bindings} {line replaced : Text} {command : Command}
    {arguments : List Text} {action : Action}
    (substituted : substituteUnquoted bindings (code line) = .ok replaced)
    (known : command? line = some (command, arguments))
    (planned : Planned bindings command arguments action) :
    plan bindings (code line) = .ok action := by
  unfold command? at known
  unfold plan
  cases words : Text.words (code line) with
  | nil =>
      rw [words] at known
      cases known
  | cons first rest =>
      rw [words] at known
      obtain ⟨found, word, pair⟩ := Option.map_eq_some_iff.mp known
      cases pair
      simp only [bind_eq_ok]
      refine ⟨replaced, lifted_eq_ok.mpr substituted, ?_⟩
      simp only [word]
      exact Command.plan_eq_ok_iff.mpr planned

end Plans

/-! ## Actions -/

section Actions

variable [Evaluator]

/-- What an action that was carried out has made of the machine. -/
inductive Performed : Action → Machine → Machine → Prop
  | nothing {machine : Machine} : Performed .nothing machine machine
  | write {texts : List Text} {machine : Machine} : Performed (.write texts) machine machine
  | declare {name : Text} {stored : Variable} {machine : Machine} :
      Performed (.declare name stored) machine (machine.declare name (machine.kept stored))
  | assign {name : Text} {value : Value} {machine : Machine} :
      Performed (.assign name value) machine (machine.assign name (machine.keep value))
  | exchange {left right : Text} {leftValue rightValue : Value} {machine : Machine} :
      Performed (.exchange left right leftValue rightValue) machine
        ((machine.assign left rightValue).assign right leftValue)
  | remove {name : Text} {machine : Machine} :
      Performed (.remove name) machine (machine.remove name)
  | listen {name prompt text : Text} {type : DataType} {value : Value} {machine : Machine}
      (entered : enteredValue type text = .ok value) :
      Performed (.listen name type prompt) machine
        (machine.declare name ⟨type.name, value, false⟩)
  | drawAndWrite {lottery : Lottery} {type : Text} {machine : Machine} :
      Performed (.draw lottery type (.ok none)) machine machine
  | drawAndDeclare {World : Type} {source : Chance World} {world : World} {lottery : Lottery}
      {type name : Text} {value : Value} {machine : Machine}
      (picked : (lottery.pick source world).1 = .ok value) :
      Performed (.draw lottery type (.ok (some name))) machine
        (machine.declare name ⟨type, value, false⟩)

namespace Performed

variable {action : Action} {machine after : Machine} (performed : Performed action machine after)

include performed

theorem sameBlock : machine.SameBlock after := by
  cases performed with
  | assign => exact .assign machine _ _
  | exchange => exact (Machine.SameBlock.assign machine _ _).trans (.assign _ _ _)
  | nothing | write | drawAndWrite => exact .refl machine
  | declare | remove | listen | drawAndDeclare => exact ⟨rfl, rfl⟩

/-- An action leaves the names alone that it does not name. -/
theorem sameAt {name : Text} (untouched : name ∉ action.names) : machine.SameAt name after := by
  cases performed with
  | nothing | write | drawAndWrite => exact .refl name machine
  | declare | listen | drawAndDeclare =>
      exact .declare (Ne.symm (List.ne_of_not_mem_cons untouched)) _
  | assign => exact .assign (Ne.symm (List.ne_of_not_mem_cons untouched)) _
  | remove => exact .remove (Ne.symm (List.ne_of_not_mem_cons untouched))
  | exchange =>
      have first := List.ne_of_not_mem_cons untouched
      have second := List.ne_of_not_mem_cons (List.not_mem_of_not_mem_cons untouched)
      exact (Machine.SameAt.assign (Ne.symm first) _).trans (.assign (Ne.symm second) _)

end Performed

variable {World : Type} {host : Host World}

private theorem listen_cases (keeps : host.KeepsMachine) {name prompt : Text} {type : DataType}
    {machine after : Machine} {world later : World} {outcome : Outcome}
    (listened : listen host name type prompt machine world = (outcome, after, later)) :
    (outcome = .done ∧ Performed (.listen name type prompt) machine after) ∨
      (outcome ≠ .done ∧ after = machine) := by
  have kept := keeps prompt machine world
  unfold listen at listened
  generalize host.ask prompt machine world = asked at listened kept
  obtain ⟨reply, given, spent⟩ := asked
  subst kept
  cases reply with
  | refused cause =>
      cases listened
      exact .inr ⟨nofun, rfl⟩
  | exit code =>
      cases listened
      exact .inr ⟨nofun, rfl⟩
  | entered text =>
      cases entered : enteredValue type text with
      | error error =>
          simp only [entered] at listened
          cases listened
          exact .inr ⟨nofun, rfl⟩
      | ok value =>
          simp only [entered] at listened
          cases listened
          exact .inl ⟨rfl, .listen entered⟩

theorem draw_cases {lottery : Lottery} {type : Text}
    {target : Except Error (Option Text)} {machine after : Machine} {world later : World}
    {outcome : Outcome}
    (drawn : draw host lottery type target machine world = (outcome, after, later)) :
    (outcome = .done ∧ Performed (.draw lottery type target) machine after) ∨
      (outcome ≠ .done ∧ after = machine) := by
  unfold draw at drawn
  cases picked : (lottery.pick host.draw world).1 with
  | error fault =>
      simp only [picked] at drawn
      cases drawn
      exact .inr ⟨nofun, rfl⟩
  | ok value =>
      cases target with
      | error error =>
          simp only [picked] at drawn
          cases drawn
          exact .inr ⟨nofun, rfl⟩
      | ok name =>
          cases name with
          | some name =>
              simp only [picked] at drawn
              cases drawn
              exact .inl ⟨rfl, .drawAndDeclare picked⟩
          | none =>
              cases written : value.written with
              | error fault =>
                  simp only [picked, written] at drawn
                  cases drawn
                  exact .inr ⟨nofun, rfl⟩
              | ok text =>
                  simp only [picked, written] at drawn
                  cases drawn
                  exact .inl ⟨rfl, .drawAndWrite⟩

theorem perform_cases (keeps : host.KeepsMachine) {action : Action} {machine after : Machine}
    {world later : World} {outcome : Outcome}
    (performed : perform host action machine world = (outcome, after, later)) :
    (outcome = .done ∧ Performed action machine after) ∨
      (outcome ≠ .done ∧ after = machine) := by
  cases action with
  | nothing =>
      cases performed
      exact .inl ⟨rfl, .nothing⟩
  | write texts =>
      cases performed
      exact .inl ⟨rfl, .write⟩
  | finish message =>
      cases message <;> cases performed <;> exact .inr ⟨nofun, rfl⟩
  | declare name stored =>
      cases performed
      exact .inl ⟨rfl, .declare⟩
  | assign name value =>
      cases performed
      exact .inl ⟨rfl, .assign⟩
  | exchange left right leftValue rightValue =>
      cases performed
      exact .inl ⟨rfl, .exchange⟩
  | remove name =>
      cases performed
      exact .inl ⟨rfl, .remove⟩
  | listen name type prompt => exact listen_cases keeps performed
  | draw lottery type target => exact draw_cases performed

/-! ## Lines -/

/-- What the execution of a line comes down to. -/
inductive Executed (line : Text) (machine : Machine) : Outcome → Machine → Prop
  | marked (mark : Text.startsWith line commentMark = true) :
      Executed line machine .done machine.toggleComment
  | skipped (unmarked : Text.startsWith line commentMark = false)
      (comment : machine.current.inComment = true) : Executed line machine .done machine
  | performed {action : Action} {after : Machine}
      (unmarked : Text.startsWith line commentMark = false)
      (outside : machine.current.inComment = false)
      (planned : plan machine.bindings (code line) = .ok action)
      (performed : Performed action (machineAfter line machine) after) :
      Executed line machine .done after
  | ended {outcome : Outcome} (unmarked : Text.startsWith line commentMark = false)
      (outside : machine.current.inComment = false) (ended : outcome ≠ .done) :
      Executed line machine outcome (machineAfter line machine)

theorem execute_cases (keeps : host.KeepsMachine) {line : Text} {machine after : Machine}
    {world later : World} {outcome : Outcome}
    (executed : execute host line machine world = (outcome, after, later)) :
    Executed line machine outcome after := by
  unfold execute at executed
  split at executed
  · next mark =>
      cases executed
      exact .marked mark
  · next unmarked =>
      rw [Bool.not_eq_true] at unmarked
      split at executed
      · next comment =>
          cases executed
          exact .skipped unmarked comment
      · next outside =>
          rw [Bool.not_eq_true] at outside
          unfold carryOut at executed
          split at executed
          · next action planned =>
              rcases perform_cases keeps executed with ⟨rfl, performed⟩ | ⟨ended, rfl⟩
              · exact .performed unmarked outside planned performed
              · exact .ended unmarked outside ended
          · cases executed
            exact .ended unmarked outside nofun

omit [Evaluator] in
theorem startsWith_commentMark {line : Text} (noComment : '#' ∉ line) :
    Text.startsWith line commentMark = false := by
  rw [← Bool.not_eq_true, Text.startsWith, List.isPrefixOf_iff_prefix]
  intro mark
  exact noComment (mark.subset (by decide))

theorem Executed.sameBlock {line : Text} {machine after : Machine} {outcome : Outcome}
    (executed : Executed line machine outcome after) (noComment : '#' ∉ line) :
    machine.SameBlock after := by
  cases executed with
  | marked mark =>
      rw [startsWith_commentMark noComment] at mark
      cases mark
  | performed _ _ _ performed =>
      exact (Machine.SameBlock.revised machine _).trans performed.sameBlock
  | skipped => exact .refl machine
  | ended => exact .revised machine _

end Actions

end Line

/-! ## The world of a line -/

section Worlds

variable {World Other : Type}

/-- A property of the world that is kept by whatever a run can do to it. -/
structure Host.Keeps (host : Host World) (Holds : World → Prop) : Prop where
  write {text : Text} {world : World} (holds : Holds world) : Holds (host.write text world)
  complain {text : Text} {world : World} (holds : Holds world) : Holds (host.complain text world)
  ask (prompt : Text) (machine : Machine) {world : World} (holds : Holds world) :
    Holds (host.ask prompt machine world).2.2
  draw {world : World} (holds : Holds world) : Holds (host.draw world).2

/-- Whatever a run can do keeps the two worlds related, and it is told the same in both, unless its
question spoils the world, which is then spoiled for good. -/
structure Host.Simulates (host : Host World) (other : Host Other) (Spoiled : World → Prop)
    (Related : World → Other → Prop) : Prop where
  spoiled : host.Keeps Spoiled
  write (text : Text) {world : World} {image : Other} (related : Related world image) :
    Related (host.write text world) (other.write text image)
  complain (text : Text) {world : World} {image : Other} (related : Related world image) :
    Related (host.complain text world) (other.complain text image)
  ask (prompt : Text) (machine : Machine) {world : World} {image : Other}
    (related : Related world image) :
    Spoiled (host.ask prompt machine world).2.2 ∨
      (other.ask prompt machine image).1 = (host.ask prompt machine world).1 ∧
        (other.ask prompt machine image).2.1 = (host.ask prompt machine world).2.1 ∧
        Related (host.ask prompt machine world).2.2 (other.ask prompt machine image).2.2
  draw {world : World} {image : Other} (related : Related world image) :
    (other.draw image).1 = (host.draw world).1 ∧ Related (host.draw world).2 (other.draw image).2

theorem Host.Keeps.warn {host : Host World} {Holds : World → Prop} (keeps : host.Keeps Holds)
    (warnings : List Text) {world : World} (holds : Holds world) :
    Holds (host.warn warnings world) := by
  induction warnings generalizing world with
  | nil => exact holds
  | cons text rest induction => exact induction (keeps.complain holds)

theorem Host.keeps_false (host : Host World) : host.Keeps fun _ => False :=
  ⟨False.elim, False.elim, fun _ _ => False.elim, False.elim⟩

/-- The same came out, in worlds that are related. -/
structure Agrees {Result : Type} (Related : World → Other → Prop)
    (result : Result × Machine × World) (image : Result × Machine × Other) : Prop where
  same : image.1 = result.1
  machine : image.2.1 = result.2.1
  world : Related result.2.2 image.2.2

theorem Agrees.eq {Result : Type} {view : World → Other} {result : Result × Machine × World}
    {image : Result × Machine × Other}
    (agrees : Agrees (fun world image => image = view world) result image) :
    image = (result.1, result.2.1, view result.2.2) := by
  rw [← agrees.same, ← agrees.machine, ← agrees.world]

namespace Host.Simulates

variable {host : Host World} {other : Host Other} {Spoiled : World → Prop}
  {Related : World → Other → Prop} (simulates : host.Simulates other Spoiled Related)
  {machine : Machine} {world : World} {image : Other} (related : Related world image)

include simulates related

theorem writeAll (texts : List Text) :
    Related (host.writeAll texts world) (other.writeAll texts image) := by
  induction texts generalizing world image with
  | nil => exact related
  | cons text rest induction => exact induction (simulates.write text related)

theorem warn (warnings : List Text) :
    Related (host.warn warnings world) (other.warn warnings image) := by
  induction warnings generalizing world image with
  | nil => exact related
  | cons text rest induction => exact induction (simulates.complain text related)

theorem report (text : Text) : Related (host.report text world) (other.report text image) :=
  simulates.complain ['\n'] (simulates.complain text related)

theorem listen [Evaluator] (name prompt : Text) (type : DataType) :
    Spoiled (Line.listen host name type prompt machine world).2.2 ∨
      Agrees Related (Line.listen host name type prompt machine world)
        (Line.listen other name type prompt machine image) := by
  have asked := simulates.ask prompt machine related
  unfold Line.listen
  generalize host.ask prompt machine world = result at asked
  generalize other.ask prompt machine image = imageResult at asked
  obtain ⟨reply, given, spent⟩ := result
  obtain ⟨imageReply, imageGiven, imageSpent⟩ := imageResult
  rcases asked with spoiled | ⟨sameReply, sameMachine, still⟩
  · left
    cases reply with
    | refused cause => exact spoiled
    | exit code => exact spoiled
    | entered text =>
        have warned := simulates.spoiled.warn (Line.enteredWarnings type text) spoiled
        simp only
        cases Line.enteredValue type text with
        | error error => exact warned
        | ok value => exact warned
  · right
    cases sameReply
    cases sameMachine
    cases reply with
    | refused cause => exact ⟨rfl, rfl, still⟩
    | exit code => exact ⟨rfl, rfl, still⟩
    | entered text =>
        have warned := simulates.warn still (Line.enteredWarnings type text)
        simp only
        cases Line.enteredValue type text with
        | error error => exact ⟨rfl, rfl, warned⟩
        | ok value => exact ⟨rfl, rfl, warned⟩

theorem draws (lottery : Lottery) (type : Text) (target : Except Error (Option Text)) :
    Agrees Related (Line.draw host lottery type target machine world)
      (Line.draw other lottery type target machine image) := by
  obtain ⟨same, still⟩ := lottery.pick_related Related simulates.draw related
  unfold Line.draw
  generalize lottery.pick host.draw world = picked at same still
  generalize lottery.pick other.draw image = imagePicked at same still
  obtain ⟨drawn, spent⟩ := picked
  obtain ⟨imageDrawn, imageSpent⟩ := imagePicked
  cases same
  cases drawn with
  | error cause => exact ⟨rfl, rfl, still⟩
  | ok value =>
      cases target with
      | error error => exact ⟨rfl, rfl, still⟩
      | ok name =>
          cases name with
          | some name => exact ⟨rfl, rfl, still⟩
          | none =>
              simp only
              cases value.written with
              | error cause => exact ⟨rfl, rfl, still⟩
              | ok text => exact ⟨rfl, rfl, simulates.writeAll still _⟩

theorem perform [Evaluator] (action : Action) :
    Spoiled (Line.perform host action machine world).2.2 ∨
      Agrees Related (Line.perform host action machine world)
        (Line.perform other action machine image) := by
  cases action with
  | nothing | declare | assign | exchange | remove => exact .inr ⟨rfl, rfl, related⟩
  | write texts => exact .inr ⟨rfl, rfl, simulates.writeAll related texts⟩
  | finish message =>
      cases message with
      | none => exact .inr ⟨rfl, rfl, related⟩
      | some message => exact .inr ⟨rfl, rfl, simulates.write message related⟩
  | listen name type prompt => exact simulates.listen related name prompt type
  | draw lottery type target => exact .inr (simulates.draws related lottery type target)

theorem execute [Evaluator] (line : Text) (machine : Machine) :
    Spoiled (Line.execute host line machine world).2.2 ∨
      Agrees Related (Line.execute host line machine world)
        (Line.execute other line machine image) := by
  unfold Line.execute
  split
  · exact .inr ⟨rfl, rfl, related⟩
  · split
    · exact .inr ⟨rfl, rfl, related⟩
    · have warned :=
        simulates.warn related (Line.effects machine.bindings (Line.code line)).warnings
      unfold Line.carryOut
      split
      · exact simulates.perform warned _
      · exact .inr ⟨rfl, rfl, warned⟩

theorem executed [Evaluator] {line : Text} {after : Machine} {later : World} {outcome : Outcome}
    (executed : Line.execute host line machine world = (outcome, after, later)) :
    Spoiled later ∨ ∃ final, Line.execute other line machine image = (outcome, after, final) ∧
      Related later final := by
  have agrees := simulates.execute related line machine
  rw [executed] at agrees
  refine agrees.imp_right fun agrees => ?_
  rcases ran : Line.execute other line machine image with ⟨ended, left, final⟩
  rw [ran] at agrees
  cases agrees.same
  cases agrees.machine
  exact ⟨final, rfl, agrees.world⟩

end Host.Simulates

namespace Host.Keeps

variable {host : Host World} {Holds : World → Prop} (keeps : host.Keeps Holds)

include keeps

theorem simulates :
    host.Simulates host (fun _ => False) fun world image => image = world ∧ Holds world where
  spoiled := host.keeps_false
  write text := by
    rintro world _ ⟨rfl, holds⟩
    exact ⟨rfl, keeps.write holds⟩
  complain text := by
    rintro world _ ⟨rfl, holds⟩
    exact ⟨rfl, keeps.complain holds⟩
  ask prompt machine := by
    rintro world _ ⟨rfl, holds⟩
    exact .inr ⟨rfl, rfl, rfl, keeps.ask prompt machine holds⟩
  draw := by
    rintro world _ ⟨rfl, holds⟩
    exact ⟨rfl, rfl, keeps.draw holds⟩

theorem execute [Evaluator] {world : World} (holds : Holds world) (line : Text)
    (machine : Machine) :
    Holds (Line.execute host line machine world).2.2 :=
  ((keeps.simulates.execute ⟨rfl, holds⟩ line machine).resolve_left id).world.2

end Host.Keeps

end Worlds

end Linewise
