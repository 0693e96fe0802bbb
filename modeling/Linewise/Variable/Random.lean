import Linewise.Expression.Arithmetic
import Linewise.Variable.Basic

/-!
Random values. A source of chance yields one natural number per draw, and each value takes a fixed
way from draws to the wanted range.
-/

namespace Linewise

/-- Where draws come from: a draw, and the state of the world after it. -/
abbrev Chance (World : Type) := World → Nat × World

/-- What is to be drawn, after the range has been checked against the type. -/
inductive Lottery
  | integer (low high : Int)
  | float (low high : Int)
  | character (low high : Int)
  | truth
  | truthOrNull
  | text (low high : Int)
deriving DecidableEq, Repr

namespace Lottery

def of (type : Text) (low high : Int) : Except Error Lottery := do
  let type ← DataType.supported type
  if high < low then throw .emptyRange
  match type with
  | .integer => return integer low high
  | .float => return float low high
  | .character =>
      if 0 ≤ low ∧ high ≤ 127 then return character low high else throw .characterRange
  | .truth =>
      if low = 1 ∧ high = 2 then return truth
      else if low = 1 ∧ high = 3 then return truthOrNull
      else throw .truthRange
  | .text => return text low high

def alphabet : Text :=
  ("abcdefghijklmnopqrstuvwxyzABCDEFGHIJKLMNOPQRSTUVWXYZ0123456789!@#$%^&*()_+-=[]\x7b\x7d|;:'"
    ++ "\",.<>/?`~").toList

variable {World : Type}

def drawInteger (draw : Chance World) (low high : Int) (world : World) : Int × World :=
  let (number, world) := draw world
  (low + (number : Int) % (high - low + 1), world)

def drawItem (draw : Chance World) (items : List α) (fallback : α) (world : World) : α × World :=
  let (number, world) := draw world
  ((items[number % items.length]?).getD fallback, world)

def drawText (draw : Chance World) : Nat → World → Text × World
  | 0, world => ([], world)
  | length + 1, world =>
      let (char, world) := drawItem draw alphabet 'a' world
      let (rest, world) := drawText draw length world
      (char :: rest, world)

/-- A number between two integers, in steps of a thousand and twenty-fourth of their distance. -/
private def drawFloat (draw : Chance World) (low high : Int) (world : World) :
    Except Fault Value × World :=
  let (number, world) := draw world
  let part := Value.float (Float.ofNat (number % 1024) / 1024)
  let result := do
    BinaryOperator.add.apply (.integer low)
      (← BinaryOperator.multiply.apply (.integer (high - low)) part)
  (result, world)

def pick (draw : Chance World) (lottery : Lottery) (world : World) :
    Except Fault Value × World :=
  match lottery with
  | integer low high =>
      let (number, world) := drawInteger draw low high world
      (.ok (.integer number), world)
  | float low high => drawFloat draw low high world
  | character low high =>
      let (code, world) := drawInteger draw low high world
      (.ok (.text [Char.ofNat code.toNat]), world)
  | truth =>
      let (value, world) := drawItem draw [.boolean true, .boolean false] .null world
      (.ok value, world)
  | truthOrNull =>
      let (value, world) := drawItem draw [.boolean true, .boolean false, .null] .null world
      (.ok value, world)
  | text low high =>
      let (length, world) := drawInteger draw low high world
      let (content, world) := drawText draw length.toNat world
      (.ok (.text content), world)

def hold (draw : Chance World) (type : Text) (low high : Int) (world : World) :
    Except Error Value × World :=
  match of type low high with
  | .error error => (.error error, world)
  | .ok lottery => (liftFault (lottery.pick draw world).1, (lottery.pick draw world).2)

/-! ## The same draws -/

section Related

variable {Other : Type} {draw : Chance World} {other : Chance Other}
  (Related : World → Other → Prop)
  (drawn : ∀ {world image}, Related world image →
    (other image).1 = (draw world).1 ∧ Related (draw world).2 (other image).2)
  {world : World} {image : Other} (related : Related world image)

include drawn related

private theorem drawText_related (length : Nat) :
    (drawText other length image).1 = (drawText draw length world).1 ∧
      Related (drawText draw length world).2 (drawText other length image).2 := by
  induction length generalizing world image with
  | zero => exact ⟨rfl, related⟩
  | succ length induction =>
      obtain ⟨same, next⟩ := drawn related
      have rest := induction next
      simp only [drawText, drawItem, same, rest.1]
      exact ⟨trivial, rest.2⟩

theorem pick_related (lottery : Lottery) :
    (lottery.pick other image).1 = (lottery.pick draw world).1 ∧
      Related (lottery.pick draw world).2 (lottery.pick other image).2 := by
  obtain ⟨same, next⟩ := drawn related
  cases lottery with
  | integer low high | character low high =>
      simp only [pick, drawInteger, same]
      exact ⟨trivial, next⟩
  | float low high =>
      simp only [pick, drawFloat, same]
      exact ⟨trivial, next⟩
  | truth | truthOrNull =>
      simp only [pick, drawItem, same]
      exact ⟨trivial, next⟩
  | text low high =>
      simp only [pick, drawInteger, same]
      have rest := drawText_related Related drawn next
        (low + (((draw world).1 : Nat) : Int) % (high - low + 1)).toNat
      rw [rest.1]
      exact ⟨rfl, rest.2⟩

end Related

theorem pick_keeps {draw : Chance World} (Holds : World → Prop)
    (drawn : ∀ world, Holds world → Holds (draw world).2) {world : World} (holds : Holds world)
    (lottery : Lottery) : Holds (lottery.pick draw world).2 := by
  have next : ∀ {later image : World}, image = later ∧ Holds later →
      (draw image).1 = (draw later).1 ∧
        (draw image).2 = (draw later).2 ∧ Holds (draw later).2 := by
    rintro later _ ⟨rfl, still⟩
    exact ⟨rfl, rfl, drawn _ still⟩
  exact (pick_related (fun later image => image = later ∧ Holds later) next
    ⟨rfl, holds⟩ lottery).2.2

/-! ## The types of what is drawn -/

def type : Lottery → DataType
  | integer .. => .integer
  | float .. => .float
  | character .. => .character
  | truth | truthOrNull => .truth
  | text .. => .text

theorem supported_of_of {name : Text} {low high : Int} {lottery : Lottery}
    (drawn : of name low high = .ok lottery) : DataType.supported name = .ok lottery.type := by
  obtain ⟨type, known, drawn⟩ := bind_eq_ok.mp drawn
  obtain ⟨_, drawn⟩ := guarded_eq_ok.mp drawn
  rw [known]
  cases type with
  | integer | float | text =>
      cases drawn
      rfl
  | character =>
      simp only at drawn
      split at drawn
      · cases drawn
        rfl
      · cases drawn
  | truth =>
      simp only at drawn
      split at drawn
      · cases drawn
        rfl
      · split at drawn
        · cases drawn
          rfl
        · cases drawn

end Lottery

end Linewise
