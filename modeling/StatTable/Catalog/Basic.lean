import StatTable.Catalog.Fantasy
import StatTable.Catalog.Games
import StatTable.Catalog.Markets
import StatTable.Catalog.Players
import StatTable.Catalog.Plays

set_option autoImplicit false

namespace StatTable.Catalog

def columns : List Column :=
  playerColumns ++ rushColumns ++ targetColumns ++ passColumns ++ gameColumns ++ fantasyColumns ++
    marketColumns

def lookup (id : String) : Option Column :=
  columns.find? (·.id == id)

def sorted : List Column :=
  columns.mergeSort fun a b => a.id ≤ b.id

def ofKind : Option String → List Column
  | some kind => sorted.filter (·.kind.name == kind)
  | none => sorted

end StatTable.Catalog
