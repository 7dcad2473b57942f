/-!
# `Shoreline.Text.Search` — one text inside another

`occursIn` decides whether a list stands somewhere inside another without a gap. Its contract is
`occursIn_iff`: it agrees with core's infix relation. `contains` and `startsWith` are the same
questions about texts.
-/

namespace Shoreline.Text

/-- The needle stands somewhere in the list, without a gap. -/
def occursIn (needle : List Char) : List Char → Bool
  | [] => needle.isEmpty
  | c :: s => needle.isPrefixOf (c :: s) || occursIn needle s

/-- **Occurring is being an infix.** -/
theorem occursIn_iff (needle s : List Char) : occursIn needle s = true ↔ needle <:+: s := by
  induction s with
  | nil => simp [occursIn, List.isEmpty_iff]
  | cons c s ih =>
    rw [occursIn, Bool.or_eq_true, ih, List.isPrefixOf_iff_prefix, List.infix_cons_iff]

/-- The needle occurs in the text. -/
def contains (s needle : String) : Bool := occursIn needle.toList s.toList

/-- The text begins with `start`. -/
def startsWith (s start : String) : Bool := start.toList.isPrefixOf s.toList

end Shoreline.Text
