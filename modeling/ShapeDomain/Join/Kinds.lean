import ShapeDomain.Edge
import ShapeDomain.Join.Status
import ShapeDomain.Object

/-!
# Joining kinds and specifiers

When two objects are joined, the joint object has the more general of their kinds, and a pointer to
it gets a specifier that fits both pointers.
-/

namespace ShapeDomain

namespace Kind

/-- The status of two segments of at least `least1` and `least2` nodes: the one that promises more
nodes is the more specific one. -/
def lengthStatus (least1 least2 : Nat) : Status :=
  if least1 < least2 then .rightEntail
  else if least2 < least1 then .leftEntail
  else .equal

/-- The kind of a joint object and how the kinds relate, if some kind covers both.  A region is a
segment of one node, and a NULL object is never joined. -/
def join : Kind → Kind → Option (Kind × Status)
  | region, region => some (region, .equal)
  | list head1 next1 prev1 least1, list head2 next2 prev2 least2 =>
      if head1 = head2 ∧ next1 = next2 ∧ prev1 = prev2 then
        some (list head1 next1 prev1 (min least1 least2), lengthStatus least1 least2)
      else
        none
  | region, list head next prev least =>
      if least ≤ 1 then some (list head next prev least, .leftEntail) else none
  | list head next prev least, region =>
      if least ≤ 1 then some (list head next prev least, .rightEntail) else none
  | region, optional => some (optional, .leftEntail)
  | optional, region => some (optional, .rightEntail)
  | optional, optional => some (optional, .equal)
  | abstraction number1, abstraction number2 =>
      if number1 = number2 then some (abstraction number1, .equal) else none
  | _, _ => none

end Kind

namespace Specifier

/-- The specifier of a pointer that stands for two pointers, where `toList` says whether it leads to
a list segment: there a pointer to a region may become one to the first or the last node. -/
def join : (toList : Bool) → Specifier → Specifier → Option Specifier
  | true, region, region => some first
  | false, region, region => some region
  | _, first, first => some first
  | _, last, last => some last
  | _, all, all => some all
  | true, region, first => some first
  | true, first, region => some first
  | true, region, last => some last
  | true, last, region => some last
  | _, _, _ => none

end Specifier

end ShapeDomain
