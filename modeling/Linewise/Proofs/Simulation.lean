import Linewise.Proofs.Course

/-!
Runs on two hosts. Where one host tells a run the same as another, and their worlds stay related by
whatever the run does, the run takes the same course on both. It need not be told the same any more
once its world is spoiled.
-/

namespace Linewise

variable [Evaluator] {World Other : Type}

namespace Program

variable {host : Host World} {other : Host Other} {Spoiled : World → Prop}
  {Related : World → Other → Prop} (simulates : host.Simulates other Spoiled Related)

include simulates

omit [Evaluator] in
theorem concluded_simulated {world : World} {image : Other} (related : Related world image)
    (number : Nat) (outcome : Outcome) :
    (concluded other number outcome image).1 = (concluded host number outcome world).1 ∧
      Related (concluded host number outcome world).2
        (concluded other number outcome image).2 := by
  cases outcome with
  | done | exited code => exact ⟨rfl, related⟩
  | failed error =>
      cases error with
      | unfinished => exact ⟨rfl, related⟩
      | _ => exact ⟨rfl, simulates.report related _⟩

omit [Evaluator] in
theorem concluded_spoiled {world : World} (spoiled : Spoiled world) (number : Nat)
    (outcome : Outcome) : Spoiled (concluded host number outcome world).2 := by
  unfold concluded
  split
  · exact spoiled
  · exact simulates.spoiled.complain (simulates.spoiled.complain spoiled)
  · exact spoiled

/-- The courses on the two hosts differ in their worlds alone. -/
theorem Ran.simulated {task : Task} {machine after : Machine} {world later : World}
    {moments : List (Moment World)} {outcome : Outcome}
    (ran : Ran host task machine world moments outcome after later) {image : Other}
    (related : Related world image) :
    Spoiled later ∨ ∃ observed final, Ran other task machine image observed outcome after final ∧
      Related later final := by
  induction ran generalizing image with
  | finished => exact .inr ⟨_, _, .finished, related⟩
  | skipped read next induction =>
      refine (induction related).imp_right fun ⟨observed, final, ran, still⟩ => ?_
      exact ⟨_, _, .skipped read ran, still⟩
  | @refused number _ _ _ _ error read =>
      obtain ⟨same, still⟩ := concluded_simulated simulates related number (.failed error)
      rw [← same]
      exact .inr ⟨_, _, .refused read, still⟩
  | line read executed next induction =>
      rcases simulates.executed related executed with spoiled | ⟨spent, imageExecuted, between⟩
      · exact .inl (next.world_keeps simulates.spoiled spoiled)
      · refine (induction between).imp_right fun ⟨observed, final, ran, still⟩ => ?_
        exact ⟨_, _, .line read imageExecuted ran, still⟩
  | @lineEnded number _ _ _ _ _ _ _ outcome read executed ended =>
      rcases simulates.executed related executed with spoiled | ⟨spent, imageExecuted, between⟩
      · exact .inl (concluded_spoiled simulates spoiled number outcome)
      · obtain ⟨same, still⟩ := concluded_simulated simulates between number outcome
        rw [← same]
        exact .inr ⟨_, _, .lineEnded read imageExecuted ended, still⟩
  | block read inside next insideInduction induction =>
      rcases insideInduction related with spoiled | ⟨observed, spent, ran, between⟩
      · exact .inl (next.world_keeps simulates.spoiled spoiled)
      · refine (induction between).imp_right fun ⟨others, final, rest, still⟩ => ?_
        exact ⟨_, _, .block read ran rest, still⟩
  | @blockEnded number _ _ _ _ _ _ _ _ _ _ outcome read inside ended induction =>
      rcases induction related with spoiled | ⟨observed, spent, ran, between⟩
      · exact .inl (concluded_spoiled simulates spoiled number outcome)
      · obtain ⟨same, still⟩ := concluded_simulated simulates between number outcome
        rw [← same]
        exact .inr ⟨_, _, .blockEnded read ran ended, still⟩
  | undecided tested => exact .inr ⟨_, _, .undecided tested, simulates.warn related _⟩
  | chosen tested inside induction =>
      refine (induction (simulates.warn related _)).imp_right
        fun ⟨observed, final, ran, still⟩ => ?_
      exact ⟨_, _, .chosen tested ran, still⟩
  | chosenEnded tested inside ended induction =>
      refine (induction (simulates.warn related _)).imp_right
        fun ⟨observed, final, ran, still⟩ => ?_
      exact ⟨_, _, .chosenEnded tested ran ended, still⟩
  | loopUndecided tested => exact .inr ⟨_, _, .loopUndecided tested, simulates.warn related _⟩
  | loopDone tested => exact .inr ⟨_, _, .loopDone tested, simulates.warn related _⟩
  | loopLimited tested => exact .inr ⟨_, _, .loopLimited tested, simulates.warn related _⟩
  | round tested inside next insideInduction induction =>
      rcases insideInduction (simulates.warn related _) with
        spoiled | ⟨observed, spent, ran, between⟩
      · exact .inl (next.world_keeps simulates.spoiled spoiled)
      · refine (induction between).imp_right fun ⟨others, final, rest, still⟩ => ?_
        exact ⟨_, _, .round tested ran rest, still⟩
  | roundEnded tested inside ended induction =>
      refine (induction (simulates.warn related _)).imp_right
        fun ⟨observed, final, ran, still⟩ => ?_
      exact ⟨_, _, .roundEnded tested ran ended, still⟩

/-- A program ends in the same way on both hosts, with the same machine. -/
theorem run_simulated (source : Text) (machine : Machine) {world : World} {image : Other}
    (related : Related world image) :
    Spoiled (run host source machine world).2.2 ∨
      Agrees Related (run host source machine world) (run other source machine image) := by
  obtain ⟨moments, outcome, after, later, ran⟩ :=
    hasCourse host (.sequence 1 (Text.lines source)) machine world
  have ended := ran.run_eq
  generalize run host source machine world = result at ended
  obtain ⟨ending, left, spent⟩ := result
  cases ended.2
  refine (ran.simulated simulates related).imp_right fun ⟨observed, final, imageRan, still⟩ => ?_
  have imageEnded := imageRan.run_eq
  generalize run other source machine image = imageResult at imageEnded
  obtain ⟨imageEnding, imageLeft, imageSpent⟩ := imageResult
  have sameEnding : imageEnding = ending :=
    Outcome.ofEnding_injective (imageEnded.1.trans ended.1.symm)
  cases imageEnded.2
  exact ⟨sameEnding, rfl, still⟩

end Program

end Linewise
