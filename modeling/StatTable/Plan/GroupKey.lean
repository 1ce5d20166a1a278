import StatTable.Digest.Sha256
import StatTable.Json.Printer
import StatTable.Param.Basic

set_option autoImplicit false

namespace StatTable

structure GroupKey where
  kind : String
  relation : String
  params : Params
  anchor : Option String

namespace GroupKey

def toJson (key : GroupKey) : Json.Value :=
  .object ([("kind", .string key.kind), ("relation", .string key.relation),
    ("params", key.params.toJson)] ++
    match key.anchor with
    | some anchor => [("anchor", .string anchor)]
    | none => [])

def text (key : GroupKey) : String := key.toJson.text

def aliasName (key : GroupKey) : String :=
  String.ofList ('t' :: (Digest.sha256Hex key.text).take 16)

end GroupKey

end StatTable
