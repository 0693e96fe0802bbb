import Linewise.Text.Basic

/-!
Classes of characters given by ranges of code points. A class lists its ranges in increasing
order.
-/

namespace Linewise.Text

/-- Consecutive code points, both ends included. -/
abbrev CodeRanges := List (Nat × Nat)

/-- The ranges are in increasing order, so the search may stop at the first range beyond. -/
def CodeRanges.has : CodeRanges → Nat → Bool
  | [], _ => false
  | (first, last) :: rest, code =>
      if code < first then false else if code ≤ last then true else CodeRanges.has rest code

theorem CodeRanges.exists_of_has {ranges : CodeRanges} {code : Nat}
    (found : ranges.has code = true) : ∃ range ∈ ranges, range.1 ≤ code ∧ code ≤ range.2 := by
  induction ranges with
  | nil => cases found
  | cons range rest induction =>
      obtain ⟨first, last⟩ := range
      rw [CodeRanges.has] at found
      split at found
      · cases found
      · split at found
        · exact ⟨(first, last), List.mem_cons_self, by omega⟩
        · obtain ⟨range, member, within⟩ := induction found
          exact ⟨range, List.mem_cons_of_mem _ member, within⟩

theorem CodeRanges.has_of_mem {ranges : CodeRanges}
    (increasing : ranges.Pairwise fun lower upper => lower.1 ≤ upper.1) {range : Nat × Nat}
    (member : range ∈ ranges) {code : Nat} (least : range.1 ≤ code) (most : code ≤ range.2) :
    ranges.has code = true := by
  induction ranges with
  | nil => cases member
  | cons head rest induction =>
      rw [List.pairwise_cons] at increasing
      rw [CodeRanges.has]
      rcases List.mem_cons.mp member with rfl | later
      · rw [if_neg (Nat.not_lt.mpr least), if_pos most]
      · have first := increasing.1 range later
        rw [if_neg (by omega), induction increasing.2 later, ite_self]

end Linewise.Text
