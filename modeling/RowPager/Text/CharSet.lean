/-!
Sets of characters, given as ranges of code points with both ends included.
-/

set_option autoImplicit false

namespace RowPager

abbrev CharSet := List (Nat × Nat)

namespace CharSet

def contains (set : CharSet) (c : Char) : Bool :=
  set.any fun range => range.1 ≤ c.toNat && c.toNat ≤ range.2

def isOrdered : CharSet → Bool
  | [] => true
  | [range] => range.1 ≤ range.2
  | range :: next :: rest => range.1 ≤ range.2 && range.2 < next.1 && isOrdered (next :: rest)

end CharSet

end RowPager
