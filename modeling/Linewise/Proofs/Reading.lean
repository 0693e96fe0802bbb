import Linewise.Proofs.Formula

/-!
Reading the tokens of a formula back. The brackets of a written formula are just what is needed for
it to be read as it is meant, with one exception: a variable that stands as a negative integer is
two tokens, and as the base of a power the sign is read to apply to the power.
-/

namespace Linewise

open Expression

/-! ## What is read -/

namespace Leaf

def magnitude : Leaf → Expr
  | name word => .name word
  | integer value => .literal (.integer value.natAbs)

def signed (leaf : Leaf) (operand : Expr) : Expr :=
  if leaf.isNegative then .unary .minus operand else operand

end Leaf

/-- The expression that is read for a formula. The sign of a base is put before the power. -/
def Formula.expression (leaf : Text → Leaf) : Formula → Expr
  | number value => .literal (.integer value)
  | name word => (leaf word).signed (leaf word).magnitude
  | operate operation left right =>
      match operation, left with
      | .power, name word =>
          (leaf word).signed (.binary .power (leaf word).magnitude (right.expression leaf))
      | operation, left =>
          .binary operation.operator (left.expression leaf) (right.expression leaf)
  | relate relation left right =>
      .comparison (left.expression leaf) [(relation.comparison, right.expression leaf)]

namespace Expression

/-! ## What may follow -/

/-- The strength with which the symbols after an operand bind it, weakest first: a closing bracket,
relations, sums, products, powers. -/
def strength? : Symbol → Option Nat
  | .rightParen => some 0
  | .less | .greater | .lessEqual | .greaterEqual | .equal | .notEqual => some 1
  | .plus | .minus => some 2
  | .star | .doubleSlash | .percent => some 3
  | .doubleStar => some 4
  | _ => none

def isWeak (most : Nat) (symbol : Symbol) : Bool := (strength? symbol).any (· ≤ most)

/-- What follows an operand binds it no stronger than so. -/
def Follows (most : Nat) (rest : List Token) : Prop :=
  rest = [] ∨ ∃ symbol tail, rest = .symbol symbol :: tail ∧ isWeak most symbol = true

theorem Follows.mono {less more : Nat} {rest : List Token} (follows : Follows less rest)
    (le : less ≤ more) : Follows more rest := by
  rcases follows with rfl | ⟨symbol, tail, rfl, weak⟩
  · exact .inl rfl
  · refine .inr ⟨symbol, tail, rfl, ?_⟩
    rw [isWeak, Option.any_eq_true] at weak ⊢
    obtain ⟨strength, found, least⟩ := weak
    exact ⟨strength, found, decide_eq_true ((of_decide_eq_true least).trans le)⟩

def sums : List (Symbol × BinaryOperator) := [(.plus, .add), (.minus, .subtract)]

def products : List (Symbol × BinaryOperator) :=
  [(.star, .multiply), (.slash, .divide), (.doubleSlash, .floorDivide),
    (.percent, .remainder), (.atSign, .matrixMultiply)]

def looser : List (List (Symbol × BinaryOperator)) :=
  [[(.bar, .bitOr)], [(.caret, .bitXor)], [(.ampersand, .bitAnd)],
    [(.doubleLess, .shiftLeft), (.doubleGreater, .shiftRight)]]

private theorem lookup_products (symbol : Symbol) (weak : isWeak 2 symbol = true) :
    products.lookup symbol = none := by
  revert weak
  cases symbol <;> decide

private theorem lookup_looser (symbol : Symbol) (weak : isWeak 1 symbol = true) :
    ∀ level ∈ looser ++ [sums], level.lookup symbol = none := by
  revert weak
  cases symbol <;> decide

section Following

variable {rest : List Token}

theorem Follows.operatorAt_products (follows : Follows 2 rest) :
    operatorAt products rest = none := by
  rcases follows with rfl | ⟨symbol, tail, rfl, weak⟩
  · rfl
  · rw [operatorAt, lookup_products symbol weak]
    rfl

theorem Follows.operatorAt_looser (follows : Follows 1 rest) :
    ∀ level ∈ looser ++ [sums], operatorAt level rest = none := by
  rcases follows with rfl | ⟨symbol, tail, rfl, weak⟩
  · exact fun _ _ => rfl
  · intro level member
    rw [operatorAt, lookup_looser symbol weak level member]
    rfl

theorem Follows.comparisonAt (follows : Follows 0 rest) : comparisonAt rest = none := by
  rcases follows with rfl | ⟨symbol, tail, rfl, weak⟩
  · rfl
  · cases symbol with
    | rightParen => rfl
    | _ => cases weak

theorem Follows.readSuffixes (follows : Follows 4 rest) (fuel : Nat) (operand : Expr) :
    readSuffixes (fuel + 1) operand rest = some (operand, rest) := by
  rcases follows with rfl | ⟨symbol, tail, rfl, weak⟩
  · rw [Expression.readSuffixes]
    all_goals nofun
  · have apart : symbol ≠ .leftParen ∧ symbol ≠ .leftBracket ∧ symbol ≠ .dot := by
      revert weak
      cases symbol <;> decide
    rw [Expression.readSuffixes]
    all_goals grind

end Following

/-! ## Steps of the reading -/

section Steps

variable {fuel : Nat} {tokens rest : List Token} {base exponent operand : Expr}

theorem readUnary_primary (signless : unaryAt tokens = none)
    (primary : readPrimary fuel tokens = some (base, rest)) (follows : Follows 3 rest) :
    readUnary (fuel + 1) tokens = some (base, rest) := by
  rw [readUnary, signless]
  simp only [primary, Option.bind_eq_bind, Option.bind_some]
  rcases follows with rfl | ⟨symbol, tail, rfl, weak⟩
  · rfl
  · cases symbol with
    | doubleStar => cases weak
    | _ => rfl

theorem readUnary_power (signless : unaryAt tokens = none) {after : List Token}
    (primary : readPrimary fuel tokens = some (base, .symbol .doubleStar :: after))
    (raised : readUnary fuel after = some (exponent, rest)) :
    readUnary (fuel + 1) tokens = some (.binary .power base exponent, rest) := by
  rw [readUnary, signless]
  simp only [primary, Option.bind_eq_bind, Option.bind_some, raised]
  rfl

theorem readUnary_minus (unsigned : readUnary fuel tokens = some (operand, rest)) :
    readUnary (fuel + 1) (.symbol .minus :: tokens) = some (.unary .minus operand, rest) := by
  rw [readUnary, unaryAt]
  simp only [unsigned, Option.bind_eq_bind, Option.bind_some]
  rfl

variable {level : List (Symbol × BinaryOperator)} {tighter : List (List (Symbol × BinaryOperator))}

theorem readOperands_done (alone : operatorAt level rest = none) :
    readOperands (fuel + 1) level tighter operand rest = some (operand, rest) := by
  rw [readOperands, alone]

theorem readOperands_join {operator : BinaryOperator} {left right : Expr} {after : List Token}
    (joined : operatorAt level tokens = some (operator, after))
    (read : readLevel fuel tighter after = some (right, rest)) :
    readOperands (fuel + 1) level tighter left tokens =
      readOperands fuel level tighter (.binary operator left right) rest := by
  rw [readOperands, joined]
  simp only [read, Option.bind_eq_bind, Option.bind_some]

theorem readLevel_cons (read : readLevel fuel tighter tokens = some (operand, rest)) :
    readLevel (fuel + 1) (level :: tighter) tokens =
      readOperands fuel level tighter operand rest := by
  rw [readLevel]
  simp only [read, Option.bind_eq_bind, Option.bind_some]

theorem readLevel_nil : readLevel (fuel + 1) [] tokens = readUnary fuel tokens := by
  rw [readLevel]

theorem readComparison_alone (read : readLevel (fuel + 1) levels tokens = some (operand, rest))
    (alone : comparisonAt rest = none) :
    readComparison (fuel + 2) tokens = some (operand, rest) := by
  rw [readComparison]
  simp only [read, Option.bind_eq_bind, Option.bind_some]
  rw [readLinks, alone]
  rfl

theorem readComparison_related {relation : Comparison} {right : Expr} {others after : List Token}
    (read : readLevel (fuel + 2) levels tokens = some (operand, others))
    (related : comparisonAt others = some (relation, after))
    (compared : readLevel (fuel + 1) levels after = some (right, rest))
    (alone : comparisonAt rest = none) :
    readComparison (fuel + 3) tokens = some (.comparison operand [(relation, right)], rest) := by
  rw [readComparison]
  simp only [read, Option.bind_eq_bind, Option.bind_some]
  rw [readLinks, related]
  simp only [compared, Option.bind_eq_bind, Option.bind_some]
  rw [readLinks, alone]
  rfl

theorem readExpression_comparison (unnegated : tokens.head? ≠ some (.keyword .negation))
    (read : readComparison fuel tokens = some (operand, rest)) (follows : Follows 0 rest) :
    readExpression (fuel + 4) tokens = some (operand, rest) := by
  have negation : readNegation (fuel + 1) tokens = some (operand, rest) := by
    rw [readNegation]
    · exact read
    · rintro after rfl
      exact unnegated rfl
  have conjunction : readConjunction (fuel + 2) tokens = some (operand, rest) := by
    rw [readConjunction]
    simp only [negation, Option.bind_eq_bind, Option.bind_some]
    rcases follows with rfl | ⟨symbol, tail, rfl, weak⟩ <;> rfl
  have disjunction : readDisjunction (fuel + 3) tokens = some (operand, rest) := by
    rw [readDisjunction]
    simp only [conjunction, Option.bind_eq_bind, Option.bind_some]
    rcases follows with rfl | ⟨symbol, tail, rfl, weak⟩ <;> rfl
  rw [readExpression]
  simp only [disjunction, Option.bind_eq_bind, Option.bind_some]
  rcases follows with rfl | ⟨symbol, tail, rfl, weak⟩ <;> rfl

theorem readGroup_expression (read : readExpression fuel tokens = some (operand, rest))
    (follows : Follows 0 rest) : readGroup (fuel + 1) tokens = some (operand, rest) := by
  rw [readGroup]
  simp only [read, Option.bind_eq_bind, Option.bind_some]
  rcases follows with rfl | ⟨symbol, tail, rfl, weak⟩
  · rfl
  · cases symbol with
    | comma => cases weak
    | _ => rfl

theorem readPrimary_atom (read : readAtom (fuel + 1) tokens = some (operand, rest))
    (follows : Follows 4 rest) : readPrimary (fuel + 2) tokens = some (operand, rest) := by
  rw [readPrimary]
  simp only [read, Option.bind_eq_bind, Option.bind_some]
  exact follows.readSuffixes fuel operand

theorem readAtom_group (inhabited : tokens.head? ≠ some (.symbol .rightParen))
    (read : readGroup fuel tokens = some (operand, .symbol .rightParen :: rest)) :
    readAtom (fuel + 1) (.symbol .leftParen :: tokens) = some (operand, rest) := by
  rw [readAtom]
  · simp only [read, Option.bind_eq_bind, Option.bind_some]
    rfl
  · rintro after rfl
    exact inhabited rfl

end Steps

/-! ## Operands of each level -/

def opens (level : Nat) : Token → Bool
  | .number _ | .name _ | .symbol .leftParen => true
  | .symbol .minus => level ≤ 3
  | _ => false

/-- The tokens are read as an operand of these levels, with so much fuel and whatever binds no
stronger than so after them. -/
def Closed (levels : List (List (Symbol × BinaryOperator))) (spare most : Nat)
    (tokens : List Token) (operand : Expr) : Prop :=
  ∀ fuel rest, 24 * tokens.length + spare ≤ fuel → Follows most rest →
    readLevel fuel levels (tokens ++ rest) = some (operand, rest)

/-- As above, but up to where a further operand may join, with the fuel that is left then. -/
def Chained (level : List (Symbol × BinaryOperator))
    (tighter : List (List (Symbol × BinaryOperator))) (spare most : Nat)
    (tokens : List Token) (operand : Expr) : Prop :=
  ∀ fuel rest, 24 * tokens.length + spare ≤ fuel → Follows most rest →
    ∃ left, fuel ≤ left + 24 * tokens.length ∧
      readLevel fuel (level :: tighter) (tokens ++ rest) =
        readOperands left level tighter operand rest

section Chains

variable {level : List (Symbol × BinaryOperator)} {tighter : List (List (Symbol × BinaryOperator))}
  {spare most : Nat} {tokens : List Token} {operand : Expr}

theorem Closed.chained (positive : 0 < tokens.length)
    (closed : Closed tighter spare most tokens operand) :
    Chained level tighter (spare + 1) most tokens operand := by
  intro fuel rest enough follows
  obtain ⟨fuel, rfl⟩ : ∃ less, fuel = less + 1 := ⟨fuel - 1, by omega⟩
  exact ⟨fuel, by omega, readLevel_cons (closed fuel rest (by omega) follows)⟩

theorem Chained.closed (chained : Chained level tighter (spare + 1) most tokens operand)
    {less : Nat} (le : less ≤ most)
    (alone : ∀ {rest}, Follows less rest → operatorAt level rest = none) :
    Closed (level :: tighter) (spare + 1) less tokens operand := by
  intro fuel rest enough follows
  obtain ⟨left, most, read⟩ := chained fuel rest enough (follows.mono le)
  obtain ⟨left, rfl⟩ : ∃ less, left = less + 1 := ⟨left - 1, by omega⟩
  rw [read, readOperands_done (alone follows)]

theorem Closed.loosen (positive : 0 < tokens.length)
    (closed : Closed tighter spare most tokens operand)
    (alone : ∀ {rest}, Follows most rest → operatorAt level rest = none) :
    Closed (level :: tighter) (spare + 1) most tokens operand :=
  (closed.chained positive).closed le_rfl alone

theorem Closed.loosenAll (positive : 0 < tokens.length)
    (closed : Closed tighter spare most tokens operand) :
    ∀ {levels : List (List (Symbol × BinaryOperator))},
      (∀ level ∈ levels, ∀ {rest}, Follows most rest → operatorAt level rest = none) →
        Closed (levels ++ tighter) (spare + levels.length) most tokens operand
  | [], _ => closed
  | level :: others, alone => by
      rw [List.forall_mem_cons] at alone
      exact (closed.loosenAll positive alone.2).loosen positive alone.1

theorem Chained.join (chained : Chained level tighter (spare + 1) most tokens operand)
    {symbol : Symbol} {operator : BinaryOperator} {others : List Token} {right : Expr}
    (joins : level.lookup symbol = some operator) (weak : isWeak most symbol = true)
    (closed : Closed tighter spare most others right) :
    Chained level tighter (spare + 1) most (tokens ++ .symbol symbol :: others)
      (.binary operator operand right) := by
  intro fuel rest enough follows
  rw [List.length_append, List.length_cons] at enough ⊢
  rw [List.append_assoc, List.cons_append]
  obtain ⟨left, least, read⟩ := chained fuel (.symbol symbol :: (others ++ rest)) (by omega)
    (.inr ⟨symbol, _, rfl, weak⟩)
  obtain ⟨left, rfl⟩ : ∃ less, left = less + 1 := ⟨left - 1, by omega⟩
  have joined : operatorAt level (.symbol symbol :: (others ++ rest)) =
      some (operator, others ++ rest) := by
    rw [operatorAt, joins]
    rfl
  refine ⟨left, by omega, ?_⟩
  rw [read, readOperands_join joined (closed left rest (by omega) follows)]

end Chains

def Reading : Nat → List Token → Expr → Prop
  | 0, tokens, operand => ∀ fuel rest, 24 * tokens.length + 13 ≤ fuel → Follows 0 rest →
      readExpression fuel (tokens ++ rest) = some (operand, rest)
  | 1, tokens, operand => Chained sums [products] 4 2 tokens operand
  | 2, tokens, operand => Chained products [] 3 3 tokens operand
  | 3, tokens, operand => ∀ fuel rest, 24 * tokens.length + 1 ≤ fuel → Follows 3 rest →
      readUnary fuel (tokens ++ rest) = some (operand, rest)
  | _, tokens, operand => ∀ fuel rest, 24 * tokens.length ≤ fuel → Follows 4 rest →
      readPrimary fuel (tokens ++ rest) = some (operand, rest)

structure ReadsAt (level : Nat) (tokens : List Token) (operand : Expr) : Prop where
  opening : tokens.head?.any (opens level) = true
  reading : Reading level tokens operand

namespace ReadsAt

variable {tokens : List Token} {operand : Expr}

theorem positive {level : Nat} (reads : ReadsAt level tokens operand) : 0 < tokens.length := by
  cases tokens with
  | nil => cases reads.opening
  | cons head tail => exact Nat.succ_pos _

private theorem opens_mono {less more : Nat} (le : less ≤ more) {token : Token}
    (opening : opens more token = true) : opens less token = true := by
  unfold opens at opening ⊢
  split at opening
  · rfl
  · rfl
  · rfl
  · next => simp at opening ⊢; omega
  · cases opening

private theorem opening_mono {less more : Nat} (le : less ≤ more)
    (opening : tokens.head?.any (opens more) = true) :
    tokens.head?.any (opens less) = true := by
  cases tokens with
  | nil => cases opening
  | cons head tail => exact opens_mono le opening

private theorem opening_append {level : Nat} (opening : tokens.head?.any (opens level) = true)
    (rest : List Token) : (tokens ++ rest).head?.any (opens level) = true := by
  cases tokens with
  | nil => cases opening
  | cons head tail => exact opening

theorem signless (reads : ReadsAt 4 tokens operand) (rest : List Token) :
    unaryAt (tokens ++ rest) = none := by
  cases tokens with
  | nil => cases reads.opening
  | cons head tail =>
      have opening : opens 4 head = true := reads.opening
      cases head with
      | number value => rfl
      | name word => rfl
      | symbol symbol =>
          cases symbol with
          | leftParen => rfl
          | _ => cases opening
      | _ => cases opening

private theorem head?_append_ne {level : Nat} (reads : ReadsAt level tokens operand)
    (rest : List Token) {token : Token} (closing : opens level token = false) :
    (tokens ++ rest).head? ≠ some token := by
  cases tokens with
  | nil => cases reads.opening
  | cons head tail =>
      intro same
      have opening : opens level head = true := reads.opening
      rw [Option.some.inj same, closing] at opening
      cases opening

theorem unary (reads : ReadsAt 4 tokens operand) : ReadsAt 3 tokens operand := by
  refine ⟨opening_mono (by decide) reads.opening, fun fuel rest enough follows => ?_⟩
  obtain ⟨fuel, rfl⟩ : ∃ less, fuel = less + 1 := ⟨fuel - 1, by omega⟩
  have primary := reads.reading fuel rest (by omega) (follows.mono (by decide))
  exact readUnary_primary (reads.signless rest) primary follows

theorem power (reads : ReadsAt 4 tokens operand) {others : List Token} {exponent : Expr}
    (raises : ReadsAt 3 others exponent) :
    ReadsAt 3 (tokens ++ .symbol .doubleStar :: others) (.binary .power operand exponent) := by
  refine ⟨?_, fun fuel rest enough follows => ?_⟩
  · exact opening_append (opening_mono (by decide) reads.opening) _
  · rw [List.length_append, List.length_cons] at enough
    obtain ⟨fuel, rfl⟩ : ∃ less, fuel = less + 1 := ⟨fuel - 1, by omega⟩
    have base := reads.reading fuel (.symbol .doubleStar :: (others ++ rest)) (by omega)
      (.inr ⟨_, _, rfl, rfl⟩)
    have raised := raises.reading fuel rest (by omega) follows
    rw [List.append_assoc, List.cons_append]
    exact readUnary_power (reads.signless _) base raised

theorem minus (reads : ReadsAt 3 tokens operand) :
    ReadsAt 3 (.symbol .minus :: tokens) (.unary .minus operand) := by
  refine ⟨rfl, fun fuel rest enough follows => ?_⟩
  rw [List.length_cons] at enough
  obtain ⟨fuel, rfl⟩ : ∃ less, fuel = less + 1 := ⟨fuel - 1, by omega⟩
  exact readUnary_minus (reads.reading fuel rest (by omega) follows)

theorem closedFactor (reads : ReadsAt 3 tokens operand) : Closed [] 2 3 tokens operand := by
  intro fuel rest enough follows
  obtain ⟨fuel, rfl⟩ : ∃ less, fuel = less + 1 := ⟨fuel - 1, by omega⟩
  rw [readLevel_nil]
  exact reads.reading fuel rest (by omega) follows

theorem product (reads : ReadsAt 3 tokens operand) : ReadsAt 2 tokens operand :=
  ⟨opening_mono (by decide) reads.opening, reads.closedFactor.chained reads.positive⟩

theorem closedProduct (reads : ReadsAt 2 tokens operand) :
    Closed [products] 3 2 tokens operand :=
  Chained.closed reads.reading (by decide) Follows.operatorAt_products

theorem sum (reads : ReadsAt 2 tokens operand) : ReadsAt 1 tokens operand :=
  ⟨opening_mono (by decide) reads.opening, reads.closedProduct.chained reads.positive⟩

theorem closedSum (reads : ReadsAt 1 tokens operand) :
    Closed [sums, products] 4 1 tokens operand :=
  Chained.closed reads.reading (by decide) fun follows =>
    follows.operatorAt_looser sums (by decide)

section Joining

variable {others : List Token} {right : Expr} {symbol : Symbol} {operator : BinaryOperator}

theorem joinProduct (reads : ReadsAt 2 tokens operand) (other : ReadsAt 3 others right)
    (joins : products.lookup symbol = some operator) (weak : isWeak 3 symbol = true) :
    ReadsAt 2 (tokens ++ .symbol symbol :: others) (.binary operator operand right) :=
  ⟨opening_append reads.opening _, Chained.join reads.reading joins weak other.closedFactor⟩

theorem joinSum (reads : ReadsAt 1 tokens operand) (other : ReadsAt 2 others right)
    (joins : sums.lookup symbol = some operator) (weak : isWeak 2 symbol = true) :
    ReadsAt 1 (tokens ++ .symbol symbol :: others) (.binary operator operand right) :=
  ⟨opening_append reads.opening _, Chained.join reads.reading joins weak other.closedProduct⟩

end Joining

theorem closedLevels (reads : ReadsAt 1 tokens operand) : Closed levels 8 1 tokens operand :=
  reads.closedSum.loosenAll reads.positive fun level member _ follows =>
    follows.operatorAt_looser level (List.mem_append_left _ member)

theorem relation (reads : ReadsAt 1 tokens operand) : ReadsAt 0 tokens operand := by
  refine ⟨opening_mono (by decide) reads.opening, fun fuel rest enough follows => ?_⟩
  obtain ⟨fuel, rfl⟩ : ∃ less, fuel = less + 6 := ⟨fuel - 6, by omega⟩
  have read := reads.closedLevels (fuel + 1) rest (by omega) (follows.mono (by decide))
  have compared := readComparison_alone read follows.comparisonAt
  exact readExpression_comparison (reads.head?_append_ne rest rfl) compared follows

theorem related (reads : ReadsAt 1 tokens operand) {others : List Token} {right : Expr}
    (other : ReadsAt 1 others right) (relation : Relation) :
    ReadsAt 0 (tokens ++ .symbol relation.symbol :: others)
      (.comparison operand [(relation.comparison, right)]) := by
  refine ⟨opening_append (opening_mono (by decide) reads.opening) _,
    fun fuel rest enough follows => ?_⟩
  rw [List.length_append, List.length_cons] at enough
  rw [List.append_assoc, List.cons_append]
  obtain ⟨fuel, rfl⟩ : ∃ less, fuel = less + 7 := ⟨fuel - 7, by omega⟩
  have weak : isWeak 1 relation.symbol = true := by cases relation <;> rfl
  have sign : comparisonAt (.symbol relation.symbol :: (others ++ rest)) =
      some (relation.comparison, others ++ rest) := by cases relation <;> rfl
  have first := reads.closedLevels (fuel + 2) (.symbol relation.symbol :: (others ++ rest))
    (by omega) (.inr ⟨_, _, rfl, weak⟩)
  have second := other.closedLevels (fuel + 1) rest (by omega) (follows.mono (by decide))
  have compared := readComparison_related first sign second follows.comparisonAt
  exact readExpression_comparison (reads.head?_append_ne _ rfl) compared follows

theorem enclosed (reads : ReadsAt 0 tokens operand) :
    ReadsAt 4 (.symbol .leftParen :: tokens ++ [.symbol .rightParen]) operand := by
  refine ⟨rfl, fun fuel rest enough follows => ?_⟩
  rw [List.length_append, List.length_cons, List.length_singleton] at enough
  obtain ⟨fuel, rfl⟩ : ∃ less, fuel = less + 3 := ⟨fuel - 3, by omega⟩
  have closing : Follows 0 (.symbol .rightParen :: rest) := .inr ⟨_, _, rfl, rfl⟩
  have inside := reads.reading fuel (.symbol .rightParen :: rest) (by omega) closing
  rw [List.append_assoc, List.cons_append, List.singleton_append]
  exact readPrimary_atom (readAtom_group (reads.head?_append_ne _ rfl)
    (readGroup_expression inside closing)) follows

theorem atom {token : Token} {operand : Expr} (opening : opens 4 token = true)
    (read : ∀ fuel rest, readAtom (fuel + 1) (token :: rest) = some (operand, rest)) :
    ReadsAt 4 [token] operand := by
  refine ⟨opening, fun fuel rest enough follows => ?_⟩
  rw [List.length_singleton] at enough
  obtain ⟨fuel, rfl⟩ : ∃ less, fuel = less + 2 := ⟨fuel - 2, by omega⟩
  exact readPrimary_atom (read fuel rest) follows

private theorem lower : ∀ {level : Nat}, level < 4 → ReadsAt (level + 1) tokens operand →
    ReadsAt level tokens operand
  | 0, _, reads => reads.relation
  | 1, _, reads => reads.sum
  | 2, _, reads => reads.product
  | 3, _, reads => reads.unary

theorem mono {less more : Nat} (reads : ReadsAt more tokens operand) (le : less ≤ more)
    (most : more ≤ 4) : ReadsAt less tokens operand := by
  induction le with
  | refl => exact reads
  | step _ induction => exact induction (lower (by omega) reads) (by omega)

end ReadsAt

end Expression

/-! ## Formulas -/

namespace Leaf

theorem readsAt_token (leaf : Leaf) : ReadsAt 4 [leaf.token] leaf.magnitude := by
  cases leaf <;> exact .atom rfl fun fuel rest => by rw [token, readAtom, magnitude]

theorem readsAt_signed (leaf : Leaf) {others : List Token} {operand : Expr}
    (reads : ReadsAt 3 (leaf.token :: others) operand) :
    ReadsAt 3 (leaf.tokens ++ others) (leaf.signed operand) := by
  unfold tokens signed
  split
  · exact reads.minus
  · exact reads

end Leaf

namespace Formula

/-- The level at which a formula is read: a sign keeps a variable from being the base of a
power. -/
def firmness (leaf : Text → Leaf) : Formula → Nat
  | name word => if (leaf word).isNegative then 3 else 4
  | formula => formula.level

theorem firmness_name (leaf : Text → Leaf) (word : Text) :
    (name word).firmness leaf = if (leaf word).isNegative then 3 else 4 := rfl

theorem firmness_le (leaf : Text → Leaf) (formula : Formula) : formula.firmness leaf ≤ 4 := by
  cases formula with
  | number value => exact le_rfl
  | name word =>
      rw [firmness_name]
      split <;> decide
  | operate operation left right => cases operation <;> simp [firmness, level, Operation.level]
  | relate relation left right => exact Nat.zero_le 4

/-- The sign of a variable does not matter but where a base is needed. -/
theorem le_firmness (leaf : Text → Leaf) {formula : Formula} {needed : Nat} (factor : needed ≤ 3)
    (enough : needed ≤ formula.level) : needed ≤ formula.firmness leaf := by
  cases formula with
  | name word =>
      rw [firmness_name]
      split
      · exact factor
      · exact enough
  | _ => exact enough

section Reading

variable {style : Style} {formula : Formula}
  (reads : ReadsAt (formula.firmness style.leaf) (formula.tokens style)
    (formula.expression style.leaf))

include reads

theorem readsAt_bracketed {needed : Nat} (most : needed ≤ 4)
    (enough : needed ≤ formula.level → needed ≤ formula.firmness style.leaf) :
    ReadsAt needed
      ((bracketed needed formula.level formula.lexemes).flatMap (Lexeme.tokens style))
      (formula.expression style.leaf) := by
  unfold bracketed
  split
  · rw [List.flatMap_append, List.flatMap_cons]
    have inside := reads.mono (Nat.zero_le _) (firmness_le _ _)
    exact inside.enclosed.mono most le_rfl
  · next bare => exact reads.mono (enough (Nat.le_of_not_lt bare)) (firmness_le _ _)

end Reading

theorem tokens_operate (style : Style) (operation : Operation) (left right : Formula) :
    (operate operation left right).tokens style =
      (bracketed operation.leftLevel left.level left.lexemes).flatMap (Lexeme.tokens style) ++
        .symbol operation.symbol ::
          (bracketed operation.rightLevel right.level right.lexemes).flatMap
            (Lexeme.tokens style) := by
  rw [tokens, lexemes, List.flatMap_append, List.flatMap_cons]
  rfl

/-- Where the base is a variable, its sign is read after the power, and otherwise the base is in
brackets or has no sign. -/
private theorem readsAt_power {style : Style} {left right : Formula} {others : List Token}
    (reads : ReadsAt (left.firmness style.leaf) (left.tokens style)
      (left.expression style.leaf))
    (raises : ReadsAt 3 others (right.expression style.leaf)) :
    ReadsAt 3
      ((bracketed 4 left.level left.lexemes).flatMap (Lexeme.tokens style) ++
        .symbol .doubleStar :: others)
      ((operate .power left right).expression style.leaf) := by
  cases left with
  | name word =>
      have primary := (style.leaf word).readsAt_token
      have whole :
          (bracketed 4 (name word).level (name word).lexemes).flatMap (Lexeme.tokens style) =
          (style.leaf word).tokens := List.append_nil _
      rw [whole, expression]
      exact Leaf.readsAt_signed _ (primary.power raises)
  | number value => exact (readsAt_bracketed reads le_rfl id).power raises
  | operate operation inner outer => exact (readsAt_bracketed reads le_rfl id).power raises
  | relate relation inner outer => exact (readsAt_bracketed reads le_rfl id).power raises

/-- The tokens of a formula are read as its expression. -/
theorem readsAt (style : Style) (formula : Formula) :
    ReadsAt (formula.firmness style.leaf) (formula.tokens style)
      (formula.expression style.leaf) := by
  induction formula with
  | number value => exact .atom rfl fun fuel rest => by rw [readAtom, expression]
  | name word =>
      have primary := (style.leaf word).readsAt_token
      have whole : (name word).tokens style = (style.leaf word).tokens := List.append_nil _
      rw [whole, firmness_name, expression, Leaf.tokens, Leaf.signed]
      split
      · exact primary.unary.minus
      · exact primary
  | operate operation left right leftInduction rightInduction =>
      have loose {needed : Nat} (factor : needed ≤ 3) :=
        readsAt_bracketed leftInduction (factor.trans (by decide)) (le_firmness _ factor)
      have tight {needed : Nat} (factor : needed ≤ 3) :=
        readsAt_bracketed rightInduction (factor.trans (by decide)) (le_firmness _ factor)
      rw [tokens_operate]
      cases operation with
      | add | subtract => exact (loose (by decide)).joinSum (tight (by decide)) rfl rfl
      | multiply | floorDivide | remainder =>
          exact (loose (by decide)).joinProduct (tight (by decide)) rfl rfl
      | power => exact readsAt_power leftInduction (tight le_rfl)
  | relate relation left right leftInduction rightInduction =>
      rw [tokens, lexemes, List.flatMap_append, List.flatMap_cons, expression]
      exact (readsAt_bracketed leftInduction (by decide) (le_firmness _ (by decide))).related
        (readsAt_bracketed rightInduction (by decide) (le_firmness _ (by decide))) relation

theorem read?_written {style : Style} {formula : Formula}
    (scans : ∀ word ∈ formula.names, style.Scans word) :
    read? (formula.written style.text) =
      if admitted 0 formula.lexemes then some (formula.expression style.leaf) else none := by
  have reads := (readsAt style formula).mono (Nat.zero_le _) (firmness_le _ _)
  have group : readGroup (sufficientFuel (formula.tokens style)) (formula.tokens style) =
      some (formula.expression style.leaf, []) := by
    have enough : sufficientFuel (formula.tokens style) =
        24 * (formula.tokens style).length + 47 + 1 := by
      rw [sufficientFuel]
      omega
    have read := reads.reading (24 * (formula.tokens style).length + 47) [] (by omega) (.inl rfl)
    rw [List.append_nil] at read
    rw [enough]
    exact readGroup_expression read (.inl rfl)
  rw [read?, tokens?_written scans]
  split
  · simp only [Option.bind_eq_bind, Option.bind_some, group]
  · rfl

end Formula

end Linewise
