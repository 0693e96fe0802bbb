import Linewise.Line
import Mathlib.Algebra.Order.Group.Unbundled.Int
import Mathlib.Tactic.Common

/-!
Random values and the draws that they take. A lottery is refused just for the type or the range.
Otherwise its value lies in the range, whatever is drawn, and one draw is used, or for a text one
for its length and one for each of its characters.
-/

namespace Linewise

/-! ## Draws -/

def Chance.after {World : Type} (draw : Chance World) (count : Nat) (world : World) : World :=
  Nat.iterate (fun world => (draw world).2) count world

theorem Console.after_draw (count : Nat) (console : Console) :
    Chance.after Console.draw count console =
      { console with draws := console.draws.drop count } := by
  induction count generalizing console with
  | zero => rfl
  | succ count induction =>
      change Chance.after Console.draw count (Console.draw console).2 = _
      rw [induction]
      rcases console with ⟨input, written, complained, draws⟩
      cases draws with
      | nil => simp [Console.draw]
      | cons first rest => rfl

namespace Lottery

variable {World : Type} (draw : Chance World)

section Range

variable {low high : Int} (le : low ≤ high)

include le

theorem drawInteger_mem (world : World) :
    low ≤ (drawInteger draw low high world).1 ∧ (drawInteger draw low high world).1 ≤ high := by
  have positive : 0 < high - low + 1 := by omega
  have least := Int.emod_nonneg ((draw world).1 : Int) (ne_of_gt positive)
  have most := Int.emod_lt_of_pos ((draw world).1 : Int) positive
  simp only [drawInteger]
  omega

end Range

theorem drawItem_mem {α : Type} {items : List α} (present : items ≠ []) (fallback : α)
    (world : World) : (drawItem draw items fallback world).1 ∈ items := by
  have inside : (draw world).1 % items.length < items.length :=
    Nat.mod_lt _ (List.length_pos_iff.mpr present)
  simp only [drawItem, List.getElem?_eq_getElem inside, Option.getD_some]
  exact List.getElem_mem inside

theorem drawText_spec (length : Nat) (world : World) :
    (drawText draw length world).1.length = length ∧
      (∀ char ∈ (drawText draw length world).1, char ∈ alphabet) ∧
      (drawText draw length world).2 = Chance.after draw length world := by
  induction length generalizing world with
  | zero => exact ⟨rfl, nofun, rfl⟩
  | succ length induction =>
      have rest := induction (drawItem draw alphabet 'a' world).2
      have first := drawItem_mem draw (by decide : alphabet ≠ []) 'a' world
      refine ⟨congrArg (· + 1) rest.1, ?_, rest.2.2⟩
      exact List.forall_mem_cons.mpr ⟨first, rest.2.1⟩

/-! ## Values -/

section Values

variable {low high : Int}

theorem pick_integer (le : low ≤ high) (world : World) :
    ∃ number, low ≤ number ∧ number ≤ high ∧
      (integer low high).pick draw world = (.ok (.integer number), Chance.after draw 1 world) := by
  have range := drawInteger_mem draw le world
  exact ⟨(drawInteger draw low high world).1, range.1, range.2, rfl⟩

theorem pick_character (least : 0 ≤ low) (le : low ≤ high) (most : high ≤ 127) (world : World) :
    ∃ char : Char, low ≤ char.toNat ∧ (char.toNat : Int) ≤ high ∧
      (character low high).pick draw world = (.ok (.text [char]), Chance.after draw 1 world) := by
  have range := drawInteger_mem draw le world
  have valid : (drawInteger draw low high world).1.toNat.isValidChar := by
    apply Or.inl
    omega
  have code : (Char.ofNat (drawInteger draw low high world).1.toNat).toNat =
      (drawInteger draw low high world).1.toNat := by
    rw [Char.ofNat, dif_pos valid]
    rfl
  refine ⟨Char.ofNat (drawInteger draw low high world).1.toNat, ?_, ?_, rfl⟩
  · rw [code]
    omega
  · rw [code]
    omega

theorem pick_text (world : World) :
    ∃ content : Text, (content.length : Int) = max 0 (drawInteger draw low high world).1 ∧
      (∀ char ∈ content, char ∈ alphabet) ∧
      (text low high).pick draw world =
        (.ok (.text content), Chance.after draw (1 + content.length) world) := by
  have content := drawText_spec draw (drawInteger draw low high world).1.toNat
    (drawInteger draw low high world).2
  refine ⟨_, ?_, content.2.1, ?_⟩
  · rw [content.1]
    omega
  · rw [content.1, Nat.add_comm]
    exact Prod.ext rfl content.2.2

end Values

/-! ## Lotteries -/

def Refused (type : Text) (low high : Int) : Prop :=
  (∀ dataType : DataType, Text.upper type ≠ dataType.name) ∨ high < low ∨
    Text.upper type = DataType.character.name ∧ ¬(0 ≤ low ∧ low ≤ high ∧ high ≤ 127) ∨
    Text.upper type = DataType.truth.name ∧ (low, high) ∉ [(1, 2), (1, 3)]

def admitted : DataType → Int → Int → Lottery
  | .integer, low, high => integer low high
  | .float, low, high => float low high
  | .character, low, high => character low high
  | .truth, _, high => if high = 2 then truth else truthOrNull
  | .text, low, high => text low high

section Checks

variable {type : Text} {low high : Int}

theorem of_accepted {dataType : DataType} (named : Text.upper type = dataType.name)
    (accepted : ¬Refused type low high) :
    of type low high = .ok (admitted dataType low high) := by
  simp only [Refused, not_or] at accepted
  rcases accepted with ⟨_, inhabited, character, truth⟩
  simp only [of, DataType.supported_of_upper named, bind, Except.bind, if_neg inhabited]
  cases dataType with
  | integer | float | text => rfl
  | character =>
      have within := Decidable.not_not.mp fun outside => character ⟨named, outside⟩
      exact if_pos ⟨within.1, within.2.2⟩
  | truth =>
      have listed := Decidable.not_not.mp fun outside => truth ⟨named, outside⟩
      simp only [List.mem_cons, Prod.mk.injEq, List.not_mem_nil, or_false] at listed
      rcases listed with ⟨rfl, rfl⟩ | ⟨rfl, rfl⟩ <;> rfl

theorem of_refused (refused : Refused type low high) :
    ∃ error, of type low high = .error error ∧ ∀ cause, error ≠ .fault cause := by
  by_cases unnamed : ∀ dataType : DataType, Text.upper type ≠ dataType.name
  · refine ⟨.unsupportedType (Text.upper type), ?_, nofun⟩
    simp only [of, DataType.supported_of_unnamed unnamed, bind, Except.bind]
  simp only [not_forall, not_not] at unnamed
  rcases unnamed with ⟨dataType, named⟩
  simp only [of, DataType.supported_of_upper named, bind, Except.bind]
  by_cases empty : high < low
  · exact ⟨.emptyRange, if_pos empty, nofun⟩
  rw [if_neg empty]
  rcases refused with unnamed | absent | ⟨character, outside⟩ | ⟨truth, outside⟩
  · exact absurd named (unnamed dataType)
  · exact absurd absent empty
  · cases DataType.name_injective (named.symm.trans character)
    have beyond : ¬(0 ≤ low ∧ high ≤ 127) := by omega
    exact ⟨.characterRange, if_neg beyond, nofun⟩
  · cases DataType.name_injective (named.symm.trans truth)
    simp only [List.mem_cons, Prod.mk.injEq, List.not_mem_nil, or_false, not_or] at outside
    refine ⟨.truthRange, ?_, nofun⟩
    simp only [if_neg outside.1, if_neg outside.2]
    rfl

theorem hold_accepted {dataType : DataType} (named : Text.upper type = dataType.name)
    (accepted : ¬Refused type low high) (world : World) :
    hold draw type low high world =
      (liftFault ((admitted dataType low high).pick draw world).1,
        ((admitted dataType low high).pick draw world).2) := by
  rw [hold, of_accepted named accepted]

theorem hold_of_pick {dataType : DataType} (named : Text.upper type = dataType.name)
    (accepted : ¬Refused type low high) {world later : World} {value : Value}
    (picked : (admitted dataType low high).pick draw world = (.ok value, later)) :
    hold draw type low high world = (.ok value, later) := by
  rw [hold_accepted draw named accepted, picked]
  rfl

/-- What is refused is refused before anything is drawn, and whatever else fails fails otherwise. -/
theorem hold_error_iff (world : World) :
    (∃ error, (hold draw type low high world).1 = .error error ∧ ∀ cause, error ≠ .fault cause) ↔
      Refused type low high := by
  constructor
  · -- Where nothing is refused, only the arithmetic of the draw can fail.
    rintro ⟨error, failed, command⟩
    by_contra accepted
    have named : ∃ dataType : DataType, Text.upper type = dataType.name := by
      by_contra unnamed
      exact accepted (.inl (not_exists.mp unnamed))
    rcases named with ⟨dataType, named⟩
    rw [hold_accepted draw named accepted] at failed
    generalize ((admitted dataType low high).pick draw world).1 = picked at failed
    cases picked with
    | ok value => cases failed
    | error cause =>
        cases failed
        exact command cause rfl
  · intro refused
    rcases of_refused refused with ⟨error, failed, command⟩
    exact ⟨error, by rw [hold, failed], command⟩

end Checks

theorem pick_admitted_truth {low high : Int}
    (listed : (low, high) ∈ [((1 : Int), (2 : Int)), (1, 3)]) (world : World) :
    ∃ value ∈ [Value.boolean true, .boolean false, .null], (value = .null → (low, high) = (1, 3)) ∧
      (admitted .truth low high).pick draw world = (.ok value, Chance.after draw 1 world) := by
  simp only [List.mem_cons, Prod.mk.injEq, List.not_mem_nil, or_false] at listed
  rcases listed with ⟨rfl, rfl⟩ | ⟨rfl, rfl⟩
  · -- One of two values is one of three, and it is not the third.
    have present : [Value.boolean true, .boolean false] ≠ [] := List.cons_ne_nil _ _
    have either := drawItem_mem draw present .null world
    refine ⟨_, List.mem_append_left [Value.null] either, ?_, rfl⟩
    intro null
    rw [null] at either
    simp at either
  · exact ⟨_, drawItem_mem draw (List.cons_ne_nil _ _) .null world, fun _ => rfl, rfl⟩

/-- Just an unknown type, or a range that does not go with the type, is refused. Otherwise a value
of the range is drawn, and no draw is taken that the value does not need. -/
theorem hold_within_range (type : Text) (low high : Int) (world : World) :
    ((∃ error, (hold draw type low high world).1 = .error error ∧ ∀ cause, error ≠ .fault cause) ↔
      Refused type low high) ∧
    (¬Refused type low high →
      (Text.upper type = DataType.integer.name →
        ∃ number, low ≤ number ∧ number ≤ high ∧
          hold draw type low high world = (.ok (.integer number), Chance.after draw 1 world)) ∧
      (Text.upper type = DataType.character.name →
        ∃ char : Char, low ≤ char.toNat ∧ (char.toNat : Int) ≤ high ∧
          hold draw type low high world = (.ok (.text [char]), Chance.after draw 1 world)) ∧
      (Text.upper type = DataType.truth.name →
        ∃ value ∈ [Value.boolean true, .boolean false, .null],
          (value = .null → (low, high) = (1, 3)) ∧
          hold draw type low high world = (.ok value, Chance.after draw 1 world)) ∧
      (Text.upper type = DataType.text.name →
        low ≤ (drawInteger draw low high world).1 ∧ (drawInteger draw low high world).1 ≤ high ∧
        ∃ content : Text, (content.length : Int) = max 0 (drawInteger draw low high world).1 ∧
          (∀ char ∈ content, char ∈ alphabet) ∧
          hold draw type low high world =
            (.ok (.text content), Chance.after draw (1 + content.length) world))) := by
  refine ⟨hold_error_iff draw world, fun accepted => ?_⟩
  have ranged := accepted
  simp only [Refused, not_or] at ranged
  rcases ranged with ⟨_, inhabited, character, truth⟩
  have le : low ≤ high := Int.not_lt.mp inhabited
  refine ⟨fun named => ?_, fun named => ?_, fun named => ?_, fun named => ?_⟩
  · rcases pick_integer draw le world with ⟨number, least, most, picked⟩
    exact ⟨number, least, most, hold_of_pick draw named accepted picked⟩
  · have within := Decidable.not_not.mp fun outside => character ⟨named, outside⟩
    rcases pick_character draw within.1 le within.2.2 world with ⟨char, least, most, picked⟩
    exact ⟨char, least, most, hold_of_pick draw named accepted picked⟩
  · have listed := Decidable.not_not.mp fun outside => truth ⟨named, outside⟩
    rcases pick_admitted_truth draw listed world with ⟨value, either, null, picked⟩
    exact ⟨value, either, null, hold_of_pick draw named accepted picked⟩
  · have range := drawInteger_mem draw le world
    rcases pick_text draw world with ⟨content, length, characters, picked⟩
    exact ⟨range.1, range.2, content, length, characters, hold_of_pick draw named accepted picked⟩

/-- The first of the draws makes the length two, and the last is left. -/
theorem hold_within_range_text :
    ∃ content : Text, (content.length : Int) = 2 ∧ (∀ char ∈ content, char ∈ alphabet) ∧
      hold Console.draw "str".toList (-2) 3 (Console.start [] [4, 0, 25, 7]) =
        (.ok (.text content), Console.start [] [7]) := by
  have accepted : ¬Refused "str".toList (-2) 3 := by
    rintro (unnamed | empty | ⟨character, _⟩ | ⟨truth, _⟩)
    · exact unnamed .text (by decide)
    · exact absurd empty (by decide)
    · exact absurd character (by decide)
    · exact absurd truth (by decide)
  have drawn := (hold_within_range Console.draw "str".toList (-2) 3
    (Console.start [] [4, 0, 25, 7])).2 accepted
  rcases drawn.2.2.2 (by decide) with ⟨_, _, content, length, characters, held⟩
  have two : content.length = 2 := Int.ofNat_inj.mp length
  rw [two, Console.after_draw] at held
  exact ⟨content, length, characters, held⟩

end Lottery

/-- A line that draws does with the value what its target says, and fails as the drawing does. -/
theorem Line.draw_eq {World : Type} (host : Host World) {type : Text} {low high : Int}
    {lottery : Lottery} (given : Lottery.of type low high = .ok lottery)
    (target : Except Error (Option Text)) (machine : Machine) (world : World) :
    draw host lottery type target machine world =
      match Lottery.hold host.draw type low high world with
      | (.error error, later) => (.failed (error.within .random), machine, later)
      | (.ok value, later) =>
          match target with
          | .error error => (.failed (error.within .random), machine, later)
          | .ok (some name) => (.done, machine.declare name ⟨type, value, false⟩, later)
          | .ok none =>
              match value.written with
              | .error cause => (.failed (.inCommand .random cause), machine, later)
              | .ok text => (.done, machine, host.writeAll [text, ['\n']] later) := by
  simp only [Lottery.hold, given, draw]
  rcases lottery.pick host.draw world with ⟨_ | value, later⟩
  · rfl
  · rcases target with _ | _ | _ <;> rfl

end Linewise
