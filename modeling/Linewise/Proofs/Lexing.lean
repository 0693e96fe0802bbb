import Linewise.Proofs.Items
import Linewise.Proofs.LetterCase

/-!
Three ways from the parts of a line to a message. One takes each part for an item. One looks for the
items in the parts joined by spaces, where it no longer sees which part a character was in. One does
the same, with a short cut for a single quoted text. If each part is an item, they all find the
items. The short cut leads to the same message whatever the parts are.
-/

namespace Linewise

theorem isReserved_iff_spells {word : Text} :
    isReserved word = true ↔ Text.Spells "end".toList word := by
  rw [isReserved, decide_eq_true_eq]
  constructor
  · intro lower
    exact Text.spells_of_lower_eq (by decide) (by decide) lower
  · intro spelled
    exact spelled.lower_eq (by decide)

namespace Message

namespace Item

/-- A word without blanks and quotes, or a text without the quote that it stands between. -/
def IsWellFormed : Item → Prop
  | reference word =>
      word ≠ [] ∧ ∀ char ∈ word, Text.isBlank char = false ∧ isQuote char = false
  | literal quote text => isQuote quote = true ∧ quote ∉ text

instance : (item : Item) → Decidable item.IsWellFormed
  | reference word =>
      have := List.decidableBAll (fun char => Text.isBlank char = false ∧ isQuote char = false) word
      inferInstanceAs (Decidable (word ≠ [] ∧ _))
  | literal quote text => inferInstanceAs (Decidable (isQuote quote = true ∧ quote ∉ text))

/-- What the item stands for in a message. The reserved word has one spelling there. -/
def meant : Item → Text
  | reference word => if Text.Spells "end".toList word then "@end".toList else '@' :: word
  | literal _ text => text

theorem bareWord_eq_meant (word : Text) : bareWord word = (reference word).meant := by
  rw [bareWord, meant]
  by_cases reserved : isReserved word = true
  · rw [if_pos reserved, if_pos (isReserved_iff_spells.mp reserved)]
  · rw [if_neg reserved, if_neg fun spelled => reserved (isReserved_iff_spells.mpr spelled)]

namespace IsWellFormed

variable {item : Item} (wellFormed : item.IsWellFormed)

include wellFormed

theorem ofParts_cons (rest : List Text) :
    ofParts (item.source :: rest) = item.meant ++ ofParts rest := by
  cases item with
  | reference word =>
      rw [source, ofParts_word fun char member => (wellFormed.2 char member).2, bareWord_eq_meant]
  | literal quote text => exact ofParts_quoted wellFormed.1 text rest

theorem ofItems_append {rest : Text} (apart : Expression.Apart rest) :
    ofItems (item.source ++ rest) = item.meant ++ ofItems rest := by
  cases item with
  | reference word =>
      have inner : ∀ char ∈ word, isWordPart char = true := by
        intro char member
        simp [isWordPart, wellFormed.2 char member]
      have ended : ∀ char ∈ rest.head?, isWordPart char = false := by
        rcases apart with rfl | ⟨tail, rfl⟩
        · intro char first
          cases first
        · intro char first
          cases first
          decide
      rw [source, ofItems_word wellFormed.1 inner ended, bareWord_eq_meant]
  | literal quote text =>
      rw [source, quoted, List.cons_append, List.append_assoc, List.singleton_append,
        ofItems_quoted wellFormed.1 wellFormed.2, meant]

end IsWellFormed

end Item

section Items

variable {items : List Item} (wellFormed : ∀ item ∈ items, item.IsWellFormed)

include wellFormed

theorem ofParts_sources : ofParts (items.map Item.source) = items.flatMap Item.meant := by
  induction items with
  | nil => rfl
  | cons item rest induction =>
      rw [List.forall_mem_cons] at wellFormed
      rw [List.map_cons, wellFormed.1.ofParts_cons, induction wellFormed.2, List.flatMap_cons]

/-- The items are found again in the joined text: each one is followed by the space that joins it
to the next, or by nothing. -/
theorem ofItems_written : ofItems (written items) = items.flatMap Item.meant := by
  induction items with
  | nil =>
      change ofItems [] = []
      rw [ofItems]
  | cons item rest induction =>
      rw [List.forall_mem_cons] at wellFormed
      cases rest with
      | nil =>
          have alone := wellFormed.1.ofItems_append (.inl rfl : Expression.Apart [])
          rw [List.append_nil, ofItems, List.append_nil] at alone
          rw [written_singleton, alone, List.flatMap_cons, List.flatMap_nil, List.append_nil]
      | cons next others =>
          rw [written_cons, wellFormed.1.ofItems_append (.inr ⟨_, rfl⟩), ofItems_blank (by decide),
            induction wellFormed.2]
          exact List.flatMap_cons.symm

end Items

/-- From any part of a line on, if the parts are items, the three ways lead to the same message: the
contents of the quoted texts and the references of the words, one after another. -/
theorem items_read_alike (parts : List Text) (start : Nat) (items : List Item)
    (written : parts.drop start = items.map Item.source)
    (wellFormed : ∀ item ∈ items, item.IsWellFormed) :
    ofParts (parts.drop start) = items.flatMap Item.meant ∧
      ofItems (Text.join [' '] (parts.drop start)) = items.flatMap Item.meant ∧
      ofLine (parts.drop start) = items.flatMap Item.meant := by
  rw [written, ofLine_eq_ofItems]
  have joined := ofItems_written wellFormed
  exact ⟨ofParts_sources wellFormed, joined, joined⟩

/-- Quotes of each kind in a text between the other, a tab, and the reserved word in mixed case. -/
theorem items_read_alike_quotes :
    let parts := ["SAY", "\"it's\t a\"", "eNd", "'\"b\" '", "x"].map String.toList
    ofParts (parts.drop 1) = "it's\t a@end\"b\" @x".toList ∧
      ofLine (parts.drop 1) = "it's\t a@end\"b\" @x".toList := by
  intro parts
  have alike := items_read_alike parts 1 [.literal '"' "it's\t a".toList, .reference "eNd".toList,
    .literal '\'' "\"b\" ".toList, .reference "x".toList] rfl
    (@of_decide_eq_true _ (List.decidableBAll _ _) rfl)
  exact ⟨alike.1, alike.2.2⟩

/-! ## The short cut -/

theorem ofItems_between {quote : Char} (quotes : isQuote quote = true) {text : Text}
    (opened : Text.startsWith text [quote] = true) (closed : Text.endsWith text [quote] = true)
    (twice : text.count quote = 2) : ofItems text = (text.drop 1).dropLast := by
  rcases exists_eq_quoted opened closed twice with ⟨content, absent, rfl⟩
  rw [ofItems_quoted quotes absent, ofItems, List.append_nil, List.drop_one, List.tail_cons,
    List.dropLast_concat]

/-- From any part of a line on, counted from the end if the index is negative, it makes no
difference whether a single quoted text is looked for first. Where it is found, by its quotes at
both ends and no others, the search for items comes to the text between the quotes as well. -/
theorem single_text_read_alike (parts : List Text) (start : Int) :
    let rest := Slice.select parts (some start) none none
    let joined := Text.join [' '] rest
    ofLine rest = ofItems joined ∧
      ∀ quote, isQuote quote = true → Text.startsWith joined [quote] = true →
        Text.endsWith joined [quote] = true → joined.count quote = 2 →
          ofLine rest = (joined.drop 1).dropLast ∧ ofItems joined = (joined.drop 1).dropLast := by
  intro rest joined
  have alike : ofLine rest = ofItems joined := ofLine_eq_ofItems rest
  refine ⟨alike, fun quote quotes opened closed twice => ?_⟩
  have between := ofItems_between quotes opened closed twice
  exact ⟨alike.trans between, between⟩

/-- The last three parts, with a quote of the other kind inside the text. -/
theorem single_text_read_alike_lastThree :
    let parts := ["SAY", "x", "\"it's", "a", "b\""].map String.toList
    let rest := Slice.select parts (some (-3)) none none
    rest = parts.drop 2 ∧ ofLine rest = "it's a b".toList ∧
      ofItems (Text.join [' '] rest) = "it's a b".toList := by
  intro parts rest
  have cut : rest = parts.drop 2 := by decide
  have joined : Text.join [' '] rest = "\"it's a b\"".toList := by
    rw [cut]
    rfl
  have alike := (single_text_read_alike parts (-3)).2 '"' rfl
  rw [joined] at alike ⊢
  exact ⟨cut, alike rfl rfl rfl⟩

end Message

end Linewise
