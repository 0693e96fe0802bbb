import Linewise.Program
import Mathlib.Tactic.Common

/-!
How often a loop runs its block. `stateAfter` is the state that a number of rounds leads to, each of
them a test of the condition and then the block in a frame of its own. A loop goes through these
states as long as its condition holds and its limit lets it, so that the state in which it stops,
and the number of rounds, can be told from them. Where the tests change nothing, the states are
those that the block alone leads to.
-/

namespace Linewise.Program

variable {World : Type}

/-! ## Rounds -/

def blockAfter (body : Execution World) (machine : Machine) (world : World) :
    Nat → Option (Machine × World)
  | 0 => some (machine, world)
  | rounds + 1 => do
      let (machine, world) ← blockAfter body machine world rounds
      match enclosed body machine world with
      | (.returned, machine, world) => some (machine, world)
      | _ => none

def counted (body : Execution World) : Execution (World × Nat) := fun machine (world, count) =>
  let (ending, machine, world) := body machine world
  (ending, machine, (world, count + 1))

def counting (host : Host World) : Host (World × Nat) where
  write text state := (host.write text state.1, state.2)
  complain text state := (host.complain text state.1, state.2)
  ask prompt machine state :=
    let (reply, machine, world) := host.ask prompt machine state.1
    (reply, machine, (world, state.2))
  draw state := ((host.draw state.1).1, ((host.draw state.1).2, state.2))

theorem warn_counting (host : Host World) (warnings : List Text) (world : World) (count : Nat) :
    (counting host).warn warnings (world, count) = (host.warn warnings world, count) := by
  induction warnings generalizing world with
  | nil => rfl
  | cons text rest induction => exact induction _

theorem enclosed_counted (body : Execution World) (machine : Machine) (world : World)
    (count : Nat) :
    enclosed (counted body) machine (world, count) =
      ((enclosed body machine world).1, (enclosed body machine world).2.1,
        ((enclosed body machine world).2.2, count + 1)) := by
  simp only [enclosed, counted]
  generalize body machine.enter world = result
  rcases result with ⟨ending, after, later⟩
  cases ending with
  | returned => rfl
  | exited code => rfl
  | unfinished => rfl

section Evaluated

variable [Evaluator]

def round (host : Host World) (condition : Text) (body : Execution World) : Execution World :=
  fun machine world =>
    enclosed body (machineAfter condition machine) (worldAfter host condition machine world)

def stateAfter (host : Host World) (condition : Text) (body : Execution World) (machine : Machine)
    (world : World) : Nat → Option (Machine × World)
  | 0 => some (machine, world)
  | rounds + 1 => do
      let (machine, world) ← stateAfter host condition body machine world rounds
      match round host condition body machine world with
      | (.returned, machine, world) => some (machine, world)
      | _ => none

/-- The condition holds in each of the states before that after `rounds`. -/
def HoldsBefore (host : Host World) (condition : Text) (body : Execution World) (machine : Machine)
    (world : World) (rounds : Nat) : Prop :=
  ∀ earlier < rounds, ∃ between spent,
    stateAfter host condition body machine world earlier = some (between, spent) ∧
      Condition.holds between.bindings condition = .ok true

section Rounds

variable {host : Host World} {condition : Text} {body : Execution World} {machine after : Machine}
  {world later : World} {rounds : Nat}

theorem stateAfter_succ {next : Machine × World}
    (reached : stateAfter host condition body machine world (rounds + 1) = some next) :
    ∃ between spent, stateAfter host condition body machine world rounds = some (between, spent) ∧
      round host condition body between spent = (.returned, next) := by
  rw [stateAfter, Option.bind_eq_bind, Option.bind_eq_some_iff] at reached
  rcases reached with ⟨⟨between, spent⟩, before, reached⟩
  refine ⟨between, spent, before, ?_⟩
  rcases ran : round host condition body between spent with ⟨ending, after, later⟩
  simp only [ran] at reached
  cases ending with
  | returned =>
      cases reached
      rfl
  | exited code => cases reached
  | unfinished => cases reached

theorem round_counted (host : Host World) (condition : Text) (body : Execution World)
    (machine : Machine) (world : World) (count : Nat) :
    round (counting host) condition (counted body) machine (world, count) =
      ((round host condition body machine world).1, (round host condition body machine world).2.1,
        ((round host condition body machine world).2.2, count + 1)) := by
  simp only [round, worldAfter, warn_counting, enclosed_counted]

theorem stateAfter_counted (host : Host World) (condition : Text) (body : Execution World)
    (machine : Machine) (world : World) (count rounds : Nat) :
    stateAfter (counting host) condition (counted body) machine (world, count) rounds =
      (stateAfter host condition body machine world rounds).map fun (between, spent) =>
        (between, (spent, count + rounds)) := by
  induction rounds with
  | zero => rfl
  | succ rounds induction =>
      rw [stateAfter, induction, stateAfter]
      cases stateAfter host condition body machine world rounds with
      | none => rfl
      | some state =>
          rcases state with ⟨between, spent⟩
          simp only [Option.map_some, Option.bind_eq_bind, Option.bind_some, round_counted]
          rcases round host condition body between spent with ⟨ending, after, later⟩
          cases ending with
          | returned => rfl
          | exited code => rfl
          | unfinished => rfl

theorem HoldsBefore.counted (holds : HoldsBefore host condition body machine world rounds)
    (count : Nat) :
    HoldsBefore (counting host) condition (counted body) machine (world, count) rounds := by
  intro earlier less
  rcases holds earlier less with ⟨between, spent, reached, tested⟩
  refine ⟨between, (spent, count + earlier), ?_, tested⟩
  rw [stateAfter_counted, reached]
  rfl

/-- As long as the tests leave nothing behind, a loop goes through the states of its block. -/
theorem stateAfter_eq_blockAfter
    (untouched : ∀ earlier < rounds, ∀ between spent,
      blockAfter body machine world earlier = some (between, spent) →
        Condition.effects between.bindings condition = .none) :
    stateAfter host condition body machine world rounds = blockAfter body machine world rounds := by
  induction rounds with
  | zero => rfl
  | succ rounds induction =>
      rw [stateAfter, blockAfter,
        induction fun earlier less => untouched earlier (Nat.lt_succ_of_lt less)]
      cases reached : blockAfter body machine world rounds with
      | none => rfl
      | some state =>
          rcases state with ⟨between, spent⟩
          have none := untouched rounds (Nat.lt_succ_self rounds) between spent reached
          have same : round host condition body between spent = enclosed body between spent := by
            rw [round, machineAfter_of_untouched none, worldAfter_of_untouched host none]
          simp only [Option.bind_eq_bind, Option.bind_some, same]

/-! ## Loops -/

/-- After some rounds a loop goes on as it would from the state that they lead to. -/
theorem loop_after_rounds
    (reached : stateAfter host condition body machine world rounds = some (after, later))
    (holds : HoldsBefore host condition body machine world rounds) (limit : Int)
    (remaining : Nat) :
    loop host condition body limit (rounds + remaining) machine world =
      loop host condition body limit remaining after later := by
  induction rounds generalizing after later remaining with
  | zero =>
      cases reached
      rw [Nat.zero_add]
  | succ rounds induction =>
      rcases stateAfter_succ reached with ⟨between, spent, before, ran⟩
      rcases holds rounds (Nat.lt_succ_self rounds) with ⟨_, _, same, tested⟩
      cases before.symm.trans same
      have shorter : HoldsBefore host condition body machine world rounds :=
        fun earlier less => holds earlier (Nat.lt_succ_of_lt less)
      rw [round] at ran
      rw [Nat.add_assoc, Nat.add_comm 1, induction before shorter, loop]
      simp only [tested, ran]

end Rounds

section Stops

variable (host : Host World) (condition : Text) (body : Execution World) (limit : Int)
  (machine : Machine) (world : World)

theorem loop_of_false (remaining : Nat)
    (tested : Condition.holds machine.bindings condition = .ok false) :
    loop host condition body limit remaining machine world =
      (.done, machineAfter condition machine, worldAfter host condition machine world) := by
  rw [loop.eq_def]
  simp only [tested]

theorem loop_of_error {error : Error} (remaining : Nat)
    (tested : Condition.holds machine.bindings condition = .error error) :
    loop host condition body limit remaining machine world =
      (.failed error, machineAfter condition machine, worldAfter host condition machine world) := by
  rw [loop.eq_def]
  simp only [tested]

theorem loop_of_limit (tested : Condition.holds machine.bindings condition = .ok true) :
    loop host condition body limit 0 machine world =
      (.failed (.loopLimit limit), machineAfter condition machine,
        worldAfter host condition machine world) := by
  rw [loop.eq_def]
  simp only [tested]

theorem loop_of_ended {remaining : Nat} (left : remaining ≠ 0)
    (tested : Condition.holds machine.bindings condition = .ok true) {ending : Ending}
    {after : Machine} {later : World}
    (ran : round host condition body machine world = (ending, after, later))
    (ended : ending ≠ .returned) :
    loop host condition body limit remaining machine world =
      (Outcome.ofEnding ending, after, later) := by
  rcases Nat.exists_eq_succ_of_ne_zero left with ⟨fewer, rfl⟩
  rw [round] at ran
  rw [loop]
  simp only [tested, ran]

end Stops

/-! ## Loops over lines -/

def blockOf (host : Host World) (lines : List Text) : Execution World :=
  runFrom host 1 (Text.lines (Text.join ['\n'] lines))

/-- A loop over lines stops so, after its block has been run this many times. -/
structure StopsWith (host : Host World) (condition : Text) (lines : List Text) (limit : Nat)
    (machine : Machine) (world : World) (outcome : Outcome) (after : Machine) (later : World)
    (rounds : Nat) : Prop where
  result : runLoop host condition lines limit machine world = (outcome, after.outermost, later)
  count : loop (counting host) condition (counted (blockOf host lines)) limit limit machine
    (world, 0) = (outcome, after, (later, rounds))

section Lines

variable {host : Host World} {condition : Text} {lines : List Text} {limit rounds : Nat}
  {machine after stopped : Machine} {world later spent : World}
  (reached : stateAfter host condition (blockOf host lines) machine world rounds =
    some (after, later))
  (holds : HoldsBefore host condition (blockOf host lines) machine world rounds)
  (within : rounds ≤ limit)

include reached holds within

theorem StopsWith.of_rounds {outcome : Outcome} {total : Nat}
    (result : loop host condition (blockOf host lines) limit (limit - rounds) after later =
      (outcome, stopped, spent))
    (count : loop (counting host) condition (counted (blockOf host lines)) limit (limit - rounds)
      after (later, rounds) = (outcome, stopped, (spent, total))) :
    StopsWith host condition lines limit machine world outcome stopped spent total := by
  have whole : rounds + (limit - rounds) = limit := by omega
  constructor
  · have start := loop_after_rounds reached holds limit (limit - rounds)
    rw [whole, result] at start
    simp only [runLoop, Int.toNat_natCast]
    rw [← blockOf, start]
  · have countedReached :
        stateAfter (counting host) condition (counted (blockOf host lines)) machine (world, 0)
          rounds = some (after, (later, rounds)) := by
      rw [stateAfter_counted, reached, Option.map_some, Nat.zero_add]
    have start := loop_after_rounds countedReached (holds.counted 0) limit (limit - rounds)
    rw [whole, count] at start
    exact start

theorem StopsWith.of_false
    (tested : Condition.holds after.bindings condition = .ok false) :
    StopsWith host condition lines limit machine world .done (machineAfter condition after)
      (worldAfter host condition after later) rounds := by
  refine .of_rounds reached holds within (loop_of_false _ _ _ _ _ _ _ tested) ?_
  rw [loop_of_false _ _ _ _ _ _ _ tested, worldAfter, warn_counting, worldAfter]

theorem StopsWith.of_error {error : Error}
    (tested : Condition.holds after.bindings condition = .error error) :
    StopsWith host condition lines limit machine world (.failed error)
      (machineAfter condition after) (worldAfter host condition after later) rounds := by
  refine .of_rounds reached holds within (loop_of_error _ _ _ _ _ _ _ tested) ?_
  rw [loop_of_error _ _ _ _ _ _ _ tested, worldAfter, warn_counting, worldAfter]

omit within in
theorem StopsWith.of_limit (all : rounds = limit)
    (tested : Condition.holds after.bindings condition = .ok true) :
    StopsWith host condition lines limit machine world (.failed (.loopLimit limit))
      (machineAfter condition after) (worldAfter host condition after later) limit := by
  subst all
  refine .of_rounds reached holds (Nat.le_refl rounds) ?_ ?_
  · rw [Nat.sub_self]
    exact loop_of_limit _ _ _ _ _ _ tested
  · rw [Nat.sub_self, loop_of_limit _ _ _ _ _ _ tested, worldAfter, warn_counting, worldAfter]

omit within in
theorem StopsWith.of_ended (fewer : rounds < limit)
    (tested : Condition.holds after.bindings condition = .ok true) {ending : Ending}
    (ran : round host condition (blockOf host lines) after later = (ending, stopped, spent))
    (ended : ending ≠ .returned) :
    StopsWith host condition lines limit machine world (Outcome.ofEnding ending) stopped spent
      (rounds + 1) := by
  have left : limit - rounds ≠ 0 := by omega
  have counted : round (counting host) condition (counted (blockOf host lines)) after
      (later, rounds) = (ending, stopped, (spent, rounds + 1)) := by
    rw [round_counted, ran]
  exact .of_rounds reached holds (Nat.le_of_lt fewer)
    (loop_of_ended _ _ _ _ _ _ left tested ran ended)
    (loop_of_ended _ _ _ _ _ _ left tested counted ended)

end Lines

/-- Every loop comes to a state in which it does not go on. -/
theorem exists_last_round (host : Host World) (condition : Text) (body : Execution World)
    (limit : Nat) (machine : Machine) (world : World) :
    ∃ rounds after later, rounds ≤ limit ∧
      stateAfter host condition body machine world rounds = some (after, later) ∧
      HoldsBefore host condition body machine world rounds ∧
      (Condition.holds after.bindings condition ≠ .ok true ∨ rounds = limit ∨
        (round host condition body after later).1 ≠ .returned) := by
  induction limit with
  | zero => exact ⟨0, machine, world, Nat.le_refl 0, rfl, nofun, .inr (.inl rfl)⟩
  | succ limit induction =>
      rcases induction with ⟨rounds, after, later, within, reached, holds, last⟩
      by_cases goesOn : Condition.holds after.bindings condition = .ok true ∧
          (round host condition body after later).1 = .returned
      · rcases goesOn with ⟨tested, returned⟩
        have all : rounds = limit := by
          rcases last with false | all | ended
          · exact absurd tested false
          · exact all
          · exact absurd returned ended
        subst all
        rcases ran : round host condition body after later with ⟨ending, next, spent⟩
        rw [ran] at returned
        cases returned
        refine ⟨rounds + 1, next, spent, Nat.le_refl _, ?_, ?_, .inr (.inl rfl)⟩
        · simp only [stateAfter, reached, Option.bind_eq_bind, Option.bind_some, ran]
        · intro earlier less
          rcases Nat.lt_succ_iff_lt_or_eq.mp less with less | rfl
          · exact holds earlier less
          · exact ⟨after, later, reached, tested⟩
      · refine ⟨rounds, after, later, Nat.le_succ_of_le within, reached, holds, ?_⟩
        rcases Classical.not_and_iff_not_or_not.mp goesOn with false | ended
        · exact .inl false
        · exact .inr (.inr ended)

/-- A loop over lines goes through the states that its rounds lead to. In the first state in which
the condition does not hold it is done, and in one in which the condition has no truth value it
fails, as long as there are not more rounds than the limit says. If the condition holds once more
after as many rounds as the limit says, the loop fails there; if a round before that does not
return, the loop stops with it. It stops in the state that the last test leaves. One of these is the
case for every loop. As long as its tests leave nothing behind, its rounds are those of its
block. -/
theorem runLoop_stops_exactly (host : Host World) (condition : Text) (lines : List Text)
    (limit : Nat) (machine : Machine) (world : World) :
    (∀ rounds after later,
      stateAfter host condition (blockOf host lines) machine world rounds = some (after, later) →
      HoldsBefore host condition (blockOf host lines) machine world rounds →
      (rounds ≤ limit → Condition.holds after.bindings condition = .ok false →
        StopsWith host condition lines limit machine world .done (machineAfter condition after)
          (worldAfter host condition after later) rounds) ∧
      (rounds = limit → Condition.holds after.bindings condition = .ok true →
        StopsWith host condition lines limit machine world (.failed (.loopLimit limit))
          (machineAfter condition after) (worldAfter host condition after later) limit) ∧
      (rounds < limit → Condition.holds after.bindings condition = .ok true →
        ∀ ending stopped spent,
          round host condition (blockOf host lines) after later = (ending, stopped, spent) →
          ending ≠ .returned →
          StopsWith host condition lines limit machine world (Outcome.ofEnding ending) stopped spent
            (rounds + 1)) ∧
      (rounds ≤ limit → ∀ error, Condition.holds after.bindings condition = .error error →
        StopsWith host condition lines limit machine world (.failed error)
          (machineAfter condition after) (worldAfter host condition after later) rounds)) ∧
    (∃ rounds after later, rounds ≤ limit ∧
      stateAfter host condition (blockOf host lines) machine world rounds = some (after, later) ∧
      HoldsBefore host condition (blockOf host lines) machine world rounds ∧
      (Condition.holds after.bindings condition ≠ .ok true ∨ rounds = limit ∨
        (round host condition (blockOf host lines) after later).1 ≠ .returned)) ∧
    ∀ rounds,
      (∀ earlier < rounds, ∀ between spent,
        blockAfter (blockOf host lines) machine world earlier = some (between, spent) →
          Condition.effects between.bindings condition = .none) →
      stateAfter host condition (blockOf host lines) machine world rounds =
        blockAfter (blockOf host lines) machine world rounds := by
  refine ⟨?_, exists_last_round host condition (blockOf host lines) limit machine world,
    fun rounds untouched => stateAfter_eq_blockAfter untouched⟩
  intro rounds after later reached holds
  refine ⟨fun within tested => .of_false reached holds within tested,
    fun all tested => .of_limit reached holds all tested, ?_,
    fun within error tested => .of_error reached holds within tested⟩
  intro fewer tested ending stopped spent ran ended
  exact .of_ended reached holds fewer tested ran ended

end Evaluated

def atZero : Machine := .ofVariables [(['i'], ⟨DataType.integer.name, .integer 0, false⟩)]

theorem runLoop_stops_exactly_counting :
    let condition := "i < 3".toList
    let lines := ["INCREMENT i".toList]
    (∃ after later,
      StopsWith Console.host condition lines 3 atZero (.start [] []) .done after later 3) ∧
    ∃ after later,
      StopsWith Console.host condition lines 2 atZero (.start [] []) (.failed (.loopLimit 2)) after
        later 2 := by
  intro condition lines
  let block := blockOf Console.host lines
  have tests : ∀ rounds < 4, (stateAfter Console.host condition block atZero (.start [] [])
      rounds).map (fun state => Condition.holds state.1.bindings condition) =
        some (.ok (decide (rounds < 3))) := by
    decide +kernel
  have state : ∀ rounds < 4, ∃ after later,
      stateAfter Console.host condition block atZero (.start [] []) rounds = some (after, later) ∧
        Condition.holds after.bindings condition = .ok (decide (rounds < 3)) := by
    intro rounds less
    rcases Option.map_eq_some_iff.mp (tests rounds less) with ⟨⟨after, later⟩, reached, tested⟩
    exact ⟨after, later, reached, tested⟩
  have before : ∀ rounds ≤ 3,
      HoldsBefore Console.host condition block atZero (.start [] []) rounds := by
    intro rounds most earlier less
    rcases state earlier (by omega) with ⟨after, later, reached, tested⟩
    refine ⟨after, later, reached, tested.trans ?_⟩
    rw [decide_eq_true (by omega : earlier < 3)]
  constructor
  · rcases state 3 (by decide) with ⟨after, later, reached, tested⟩
    exact ⟨_, _,
      ((runLoop_stops_exactly Console.host condition lines 3 atZero (.start [] [])).1 3 after later
        reached (before 3 (by decide))).1 (by decide) tested⟩
  · rcases state 2 (by decide) with ⟨after, later, reached, tested⟩
    exact ⟨_, _,
      ((runLoop_stops_exactly Console.host condition lines 2 atZero (.start [] [])).1 2 after later
        reached (before 2 (by decide))).2.1 rfl tested⟩

end Linewise.Program
