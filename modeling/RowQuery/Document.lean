import RowQuery.SortedMap

/-! Documents and their texts as a serializer writes them. Which names of fields it takes, which
entry it keeps and what it escapes is assumed of that serializer; an update only stores the value
that it makes, or passes the text of its error on. -/

namespace RowQuery

/-- A document stored in one column. The fields of an object are in the order of their names. -/
inductive Document where
  | null
  | bool (b : Bool)
  | number (n : Int)
  | text (s : String)
  | list (items : List Document)
  | object (fields : List (String × Document))

namespace Document

/-- Field names are text; a number or a truth value stands for its own text. -/
def fieldName : Document → Except String String
  | .text s => .ok s
  | .number n => .ok (toString n)
  | .bool true => .ok "true"
  | .bool false => .ok "false"
  | _ => .error "key must be a string"

/-- An object written entry by entry; the last entry of a name is kept. -/
def ofEntries (entries : List (Document × Document)) : Except String Document := do
  let named ← entries.mapM (fun e => do return (← fieldName e.1, e.2))
  return .object (SortedMap.ofList named).entries

def hexDigit (n : Nat) : Char := Nat.digitChar (n % 16)

/-- Quotes, backslashes and control characters below the space are escaped. -/
def escapeChar (c : Char) : List Char :=
  if c = '"' then ['\\', '"']
  else if c = '\\' then ['\\', '\\']
  else if c = '\n' then ['\\', 'n']
  else if c = '\r' then ['\\', 'r']
  else if c = '\t' then ['\\', 't']
  else if c.toNat = 8 then ['\\', 'b']
  else if c.toNat = 12 then ['\\', 'f']
  else if c.toNat < 32 then ['\\', 'u', '0', '0', hexDigit (c.toNat / 16), hexDigit c.toNat]
  else [c]

def quote (s : String) : String :=
  "\"" ++ String.ofList (s.toList.flatMap escapeChar) ++ "\""

mutual

/-- The text of a document without any blanks. -/
def compact : Document → String
  | .null => "null"
  | .bool true => "true"
  | .bool false => "false"
  | .number n => toString n
  | .text s => quote s
  | .list items => "[" ++ ",".intercalate (compactItems items) ++ "]"
  | .object fields => "\x7b" ++ ",".intercalate (compactFields fields) ++ "\x7d"

def compactItems : List Document → List String
  | [] => []
  | d :: ds => d.compact :: compactItems ds

def compactFields : List (String × Document) → List String
  | [] => []
  | (name, d) :: rest => (quote name ++ ":" ++ d.compact) :: compactFields rest

end

end Document

end RowQuery
