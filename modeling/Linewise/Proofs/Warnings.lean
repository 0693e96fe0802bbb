import Linewise.Program
import Mathlib.Tactic.Common

/-!
Warnings. While a program runs on the console, nothing reaches the stream for errors before the
report but what evaluations warn about; where evaluations do not warn, nothing at all.
-/

namespace Linewise

/-- Some evaluation warns with this text. -/
def IsWarning [Evaluator] (text : Text) : Prop :=
  ∃ source meaning, text ∈ (Evaluator.evaluate source meaning).effects.warnings

section Effects

variable [Evaluator]

def Effects.Genuine (effects : Effects) : Prop := ∀ text ∈ effects.warnings, IsWarning text

theorem Effects.genuine_none : Effects.none.Genuine := nofun

theorem Effects.Genuine.andThen {first second : Effects} (before : first.Genuine)
    (after : second.Genuine) : (first.andThen second).Genuine :=
  List.forall_mem_append.mpr ⟨before, after⟩

theorem Expression.genuine_effects (source : Text) (meaning : Meaning) :
    (Expression.effects source meaning).Genuine := fun _ member => ⟨_, _, member⟩

theorem Condition.genuine_effects (bindings : Bindings) (condition : Text) :
    (Condition.effects bindings condition).Genuine := by
  unfold Condition.effects
  split
  · exact Expression.genuine_effects _ _
  · exact Effects.genuine_none

theorem Message.genuine_effectsOnce (meaning : Meaning) (message : Text) :
    (effectsOnce meaning message).Genuine := by
  unfold effectsOnce
  split
  · exact Effects.genuine_none
  · exact Expression.genuine_effects _ _

theorem Message.genuine_groupEffects (meaning : Meaning) (turns : Nat) (message : Text) :
    (groupEffects meaning turns message).Genuine := by
  induction turns generalizing meaning message with
  | zero => exact Effects.genuine_none
  | succ turns induction =>
      unfold groupEffects
      split
      · exact Effects.genuine_none
      · exact genuine_effectsOnce meaning message
      · exact (genuine_effectsOnce meaning message).andThen (induction _ _)

theorem isWarning_of_initialWarnings {type literal text : Text}
    (warned : text ∈ initialWarnings type literal) : IsWarning text := by
  unfold initialWarnings at warned
  split at warned
  · cases warned
  · simp only at warned
    split at warned
    · exact ⟨_, _, warned⟩
    · cases warned

namespace Plan

variable (bindings : Bindings)

theorem genuine_messageEffects (parts : List Text) : (messageEffects bindings parts).Genuine := by
  unfold messageEffects
  split
  · exact Effects.genuine_none
  · exact Message.genuine_groupEffects _ _ _

theorem genuine_valueEffects (type literal : Text) :
    (valueEffects bindings type literal).Genuine := by
  unfold valueEffects
  split
  · exact Expression.genuine_effects _ _
  · unfold literalEffects
    repeat' split
    · exact Effects.genuine_none
    · exact Effects.genuine_none
    · exact fun _ => isWarning_of_initialWarnings

theorem genuine_effects (command : Command) (arguments : List Text) :
    (effects command bindings arguments).Genuine := by
  unfold effects
  repeat' split
  all_goals first
    | exact Effects.genuine_none
    | exact genuine_messageEffects bindings _
    | exact genuine_valueEffects bindings _ _

end Plan

theorem Line.genuine_effects (bindings : Bindings) (line : Text) :
    (Line.effects bindings line).Genuine := by
  unfold Line.effects
  repeat' split
  · exact Plan.genuine_effects bindings _ _
  · exact Expression.genuine_effects _ _
  · exact Effects.genuine_none
  · exact Effects.genuine_none

end Effects

/-! ## The console -/

namespace Console

section Warned

variable [Evaluator]

/-- Nothing but warnings was written to the stream for errors in between. -/
def Warned (before after : Console) : Prop :=
  ∃ warnings, (∀ text ∈ warnings, IsWarning text) ∧
    after.complained = warnings ++ before.complained

theorem warned_of_eq {before after : Console} (same : after.complained = before.complained) :
    Warned before after :=
  ⟨[], nofun, same⟩

theorem Warned.trans {first second third : Console} (before : Warned first second)
    (after : Warned second third) : Warned first third := by
  obtain ⟨early, genuine, grown⟩ := before
  obtain ⟨late, genuineLate, grownLate⟩ := after
  refine ⟨late ++ early, List.forall_mem_append.mpr ⟨genuineLate, genuine⟩, ?_⟩
  rw [grownLate, grown, List.append_assoc]

theorem warned_warn {warnings : List Text} (genuine : ∀ text ∈ warnings, IsWarning text)
    (console : Console) : Warned console (host.warn warnings console) := by
  induction warnings generalizing console with
  | nil => exact warned_of_eq rfl
  | cons text rest induction =>
      rw [List.forall_mem_cons] at genuine
      have first : Warned console (host.complain text console) :=
        ⟨[text], List.forall_mem_singleton.mpr genuine.1, rfl⟩
      exact first.trans (induction genuine.2 _)

end Warned

theorem complained_writeAll (texts : List Text) (console : Console) :
    (host.writeAll texts console).complained = console.complained := by
  induction texts generalizing console with
  | nil => rfl
  | cons text rest induction => exact induction _

theorem complained_readLine (console : Console) :
    console.readLine.2.complained = console.complained := by
  unfold readLine
  split <;> rfl

theorem complained_pick (lottery : Lottery) (console : Console) :
    (lottery.pick draw console).2.complained = console.complained := by
  apply Lottery.pick_keeps fun later : Console => later.complained = console.complained
  · intro world same
    rw [← same]
    unfold draw
    split <;> rfl
  · rfl

end Console

/-! ## Lines -/

namespace Line

theorem complained_draw (lottery : Lottery) (type : Text) (target : Except Error (Option Text))
    (machine : Machine) (console : Console) :
    (draw Console.host lottery type target machine console).2.2.complained =
      console.complained := by
  have picked := Console.complained_pick lottery console
  unfold draw
  change (lottery.pick Console.host.draw console).2.complained = _ at picked
  generalize lottery.pick Console.host.draw console = result at picked ⊢
  rcases result with ⟨cause | value, spent⟩
  · exact picked
  · rcases target with error | none | name
    · exact picked
    · simp only
      split
      · exact picked
      · exact (Console.complained_writeAll _ spent).trans picked
    · exact picked

variable [Evaluator]

theorem warned_listen (name prompt : Text) (type : DataType) (machine : Machine)
    (console : Console) :
    console.Warned (listen Console.host name type prompt machine console).2.2 := by
  have asked : (Console.host.ask prompt machine console).2.2.complained = console.complained :=
    Console.complained_readLine (console.write prompt)
  unfold listen
  generalize Console.host.ask prompt machine console = result at asked ⊢
  rcases result with ⟨reply, given, spent⟩
  have before := Console.warned_of_eq asked
  cases reply with
  | refused cause => exact before
  | exit code => exact before
  | entered text =>
      have genuine : ∀ warning ∈ enteredWarnings type text, IsWarning warning := by
        intro warning member
        unfold enteredWarnings at member
        split at member
        · cases member
        · exact isWarning_of_initialWarnings member
      have warned := before.trans (Console.warned_warn genuine spent)
      simp only
      split <;> exact warned

theorem warned_perform (action : Action) (machine : Machine) (console : Console) :
    console.Warned (perform Console.host action machine console).2.2 := by
  cases action with
  | nothing | declare | assign | exchange | remove => exact Console.warned_of_eq rfl
  | write texts => exact Console.warned_of_eq (Console.complained_writeAll texts console)
  | finish message => cases message <;> exact Console.warned_of_eq rfl
  | listen name type prompt => exact warned_listen name prompt type machine console
  | draw lottery type target =>
      exact Console.warned_of_eq (complained_draw lottery type target machine console)

theorem warned_execute (line : Text) (machine : Machine) (console : Console) :
    console.Warned (execute Console.host line machine console).2.2 := by
  unfold execute
  split
  · exact Console.warned_of_eq rfl
  · split
    · exact Console.warned_of_eq rfl
    · have evaluated : console.Warned (worldAfter Console.host line machine console) :=
        Console.warned_warn (genuine_effects machine.bindings (code line)) console
      unfold carryOut
      split
      · exact evaluated.trans (warned_perform _ _ _)
      · exact evaluated

end Line

theorem Program.warned_worldAfter [Evaluator] (condition : Text) (machine : Machine)
    (console : Console) : console.Warned (worldAfter Console.host condition machine console) :=
  Console.warned_warn (Condition.genuine_effects machine.bindings condition) console

end Linewise
