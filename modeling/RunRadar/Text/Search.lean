import RunRadar.Text.Case

/-!
# RunRadar.Text.Search

**Substrings**: whether one text occurs inside another.
-/

namespace RunRadar.Text

/-- Whether a list of characters occurs inside another one. -/
def occursIn (needle : List Char) : List Char → Bool
  | [] => needle.isEmpty
  | c :: rest => needle.isPrefixOf (c :: rest) || occursIn needle rest

/-- `occursIn` decides whether there are characters before and behind. -/
theorem occursIn_iff {needle cs : List Char} : occursIn needle cs = true ↔ needle <:+: cs := by
  induction cs with
  | nil => simp [occursIn, List.isEmpty_iff]
  | cons c rest ih =>
    simp [occursIn, ih, List.infix_cons_iff]

end RunRadar.Text
