set_option autoImplicit false

namespace StatTable.Text

def double (mark : Char) : List Char → List Char
  | [] => []
  | c :: rest => if c = mark then mark :: mark :: double mark rest else c :: double mark rest

def quoted (mark : Char) (text : String) : String :=
  String.ofList (mark :: double mark text.toList ++ [mark])

end StatTable.Text
