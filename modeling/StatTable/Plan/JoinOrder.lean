import StatTable.Plan.Group

set_option autoImplicit false

namespace StatTable.Plan

def Group.compareOrder (a b : Group) : Ordering :=
  (compare (!a.restricting) (!b.restricting)).then
    ((compare b.splits.length a.splits.length).then
      ((compare (a.splits.map Split.rank) (b.splits.map Split.rank)).then
        (compare a.firstSeen b.firstSeen)))

def sortGroups (groups : List Group) : List Group :=
  (groups.filter (!·.isDenominator)).mergeSort fun a b => (a.compareOrder b).isLE

def joinOrder (groups : List Group) : List Group :=
  (sortGroups groups).flatMap fun group =>
    group :: groups.filter (·.isDenominatorOf group.aliasName)

end StatTable.Plan
