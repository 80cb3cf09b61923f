/-!
# Visibility

How far a declaration can be seen, reduced to the three degrees that matter here.
-/

namespace FluentGen

/-- The visibility of a declaration. -/
inductive Visibility where
  /-- Nothing is said, so the declaration is private. -/
  | inherited
  /-- A qualifier names the part of the program that sees the declaration. -/
  | restricted
  /-- Everyone sees the declaration. -/
  | exported
deriving DecidableEq

/-- The name of a visibility. -/
def Visibility.label : Visibility → String
  | inherited => "Private"
  | restricted => "Restricted"
  | exported => "Public"

end FluentGen
