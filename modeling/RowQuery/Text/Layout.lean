namespace RowQuery.Text

/-- A value to be shown: a word, a list, or a value under a name. -/
inductive Layout where
  | word (s : String)
  | list (items : List Layout)
  | named (name : String) (item : Layout)

namespace Layout

mutual

def inline : Layout → String
  | .word s => s
  | .list items => "[" ++ ", ".intercalate (inlineAll items) ++ "]"
  | .named name item => name ++ "(" ++ item.inline ++ ")"

def inlineAll : List Layout → List String
  | [] => []
  | x :: xs => x.inline :: inlineAll xs

end

/-- The lines of an item inside a block: indented, with a comma at the end of the last one. -/
def entry : List String → List String
  | [] => []
  | [l] => ["    " ++ l ++ ","]
  | l :: ls => ("    " ++ l) :: entry ls

mutual

def lines : Layout → List String
  | .word s => [s]
  | .list [] => ["[]"]
  | .list (x :: xs) => "[" :: (entry x.lines ++ entries xs) ++ ["]"]
  | .named name item => (name ++ "(") :: entry item.lines ++ [")"]

def entries : List Layout → List String
  | [] => []
  | x :: xs => entry x.lines ++ entries xs

end

def block (x : Layout) : String := "\n".intercalate x.lines

end Layout

end RowQuery.Text
