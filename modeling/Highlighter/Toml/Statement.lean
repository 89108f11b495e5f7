import Highlighter.Toml.Quote
import Highlighter.Toml.Scalar

/-! Statements of TOML documents: headers of tables, and keys with their values. -/

namespace Highlighter.Toml

/-- A key with its value. The key's parts in front of the last one name tables. -/
structure Entry where
  path : List String
  name : String
  value : Value

/-- A statement of a document. The last part of a header's path is its name. -/
inductive Statement where
  /-- `[path.name]` begins a table. -/
  | header (path : List String) (name : String)
  /-- `[[path.name]]` begins a table at the end of an array. -/
  | arrayHeader (path : List String) (name : String)
  /-- `path.name = value` puts an entry into the current table. -/
  | entry (entry : Entry)

/-- Adds an entry to a table. Tables on the way are made by dotted keys, now or before. -/
def insertDotted (name : String) (value : Value) : List String → Entries → Option Entries
  | [], entries =>
    match entries.lookup name with
    | none => some (entries.put name value)
    | some _ => none
  | key :: path, entries =>
    match entries.lookup key with
    | none => (insertDotted name value path []).map fun inner => entries.put key (.table .dotted inner)
    | some (.table .dotted inner) =>
      (insertDotted name value path inner).map fun inner => entries.put key (.table .dotted inner)
    | some (.table .implied inner) =>
      if path.isEmpty then none
      else (insertDotted name value path inner).map fun inner => entries.put key (.table .implied inner)
    | some (.array true items) =>
      match items.getLast? with
      | some (.table form inner) =>
        if path.isEmpty then none
        else (insertDotted name value path inner).map fun inner =>
          entries.put key (.array true (items.dropLast ++ [.table form inner]))
      | _ => none
    | some _ => none

def inlineTable? (entries : List Entry) : Option Value :=
  (entries.foldlM (fun table entry => insertDotted entry.name entry.value entry.path table) []).map
    (.table .inline)

namespace Reader

def skipBlanks (text : List Char) : List Char := text.dropWhile fun char => char = ' ' || char = '\t'

def skipComment (text : List Char) : List Char := text.dropWhile Quote.isPlain

def readBreak? : List Char → Option (List Char)
  | '\n' :: rest => some rest
  | '\r' :: '\n' :: rest => some rest
  | _ => none

def readLineEnd? (text : List Char) : Option (List Char) :=
  let rest := match skipBlanks text with
    | '#' :: comment => skipComment comment
    | rest => rest
  if rest.isEmpty then some [] else readBreak? rest

def skipLines : Nat → List Char → List Char
  | 0, text => text
  | fuel + 1, text =>
    match skipBlanks text with
    | '#' :: comment =>
      match readBreak? (skipComment comment) with
      | some rest => skipLines fuel rest
      | none => '#' :: comment
    | rest =>
      match readBreak? rest with
      | some rest => skipLines fuel rest
      | none => rest

def isKeyChar (char : Char) : Bool := char.isAlphanum || char = '_' || char = '-'

def readKeyPart? (text : List Char) : Option (String × List Char) :=
  match Quote.readLine? text with
  | some (part, rest) => some (.ofList part, rest)
  | none =>
    match text.span isKeyChar with
    | ([], _) => none
    | (part, rest) => some (.ofList part, rest)

/-- The largest number of parts of a key, and of levels of values. -/
def levelLimit : Nat := 79

def readKeyParts : Nat → List Char → Option (List String × List Char)
  | 0, _ => none
  | fuel + 1, text =>
    (readKeyPart? (skipBlanks text)).bind fun (part, rest) =>
      match skipBlanks rest with
      | '.' :: rest => (readKeyParts fuel rest).map fun (parts, rest) => (part :: parts, rest)
      | rest => some ([part], rest)

def readKey? (text : List Char) : Option (List String × String × List Char) :=
  (readKeyParts levelLimit text).bind fun (parts, rest) =>
    parts.getLast?.map fun name => (parts.dropLast, name, rest)

mutual

/-- Reads a value that has `level` more levels of arrays and tables in it at most. Of two steps one reads a
character at least, so twice as many steps as there are characters are enough. -/
def readValue : Nat → Nat → List Char → Option (Value × List Char)
  | 0, _, _ => none
  | fuel + 1, level, text =>
    match text with
    | '"' :: _ => (Quote.read? text).map fun (text, rest) => (.string (.ofList text), rest)
    | '\'' :: _ => (Quote.read? text).map fun (text, rest) => (.string (.ofList text), rest)
    | '[' :: rest =>
      if level = 0 then none
      else (readItems fuel (level - 1) rest).map fun (items, rest) => (.array false items, rest)
    | '\x7b' :: rest =>
      if level = 0 then none
      else (readEntries fuel (level - 1) true rest).bind fun (entries, rest) =>
        (inlineTable? entries).map fun table => (table, rest)
    | _ => Scalar.read? text

def readItems : Nat → Nat → List Char → Option (List Value × List Char)
  | 0, _, _ => none
  | fuel + 1, level, text =>
    match skipLines text.length text with
    | ']' :: rest => some ([], rest)
    | text =>
      (readValue fuel level text).bind fun (item, rest) =>
        match skipLines rest.length rest with
        | ',' :: rest => (readItems fuel level rest).map fun (items, rest) => (item :: items, rest)
        | ']' :: rest => some ([item], rest)
        | _ => none

/-- Reads the entries of a table up to its closing brace, which is allowed here if the table may end here. -/
def readEntries : Nat → Nat → Bool → List Char → Option (List Entry × List Char)
  | 0, _, _, _ => none
  | fuel + 1, level, mayEnd, text =>
    match mayEnd, skipBlanks text with
    | true, '\x7d' :: rest => some ([], rest)
    | _, text =>
      (readKey? text).bind fun (path, name, rest) =>
        match rest with
        | '=' :: rest =>
          (readValue fuel level (skipBlanks rest)).bind fun (value, rest) =>
            match skipBlanks rest with
            | ',' :: rest =>
              (readEntries fuel level false rest).map fun (entries, rest) => (⟨path, name, value⟩ :: entries, rest)
            | '\x7d' :: rest => some ([⟨path, name, value⟩], rest)
            | _ => none
        | _ => none

end

def readHeader? : List Char → Option (Statement × List Char)
  | '[' :: rest =>
    (readKey? rest).bind fun (path, name, rest) =>
      match rest with
      | ']' :: ']' :: rest => (readLineEnd? rest).map fun rest => (.arrayHeader path name, rest)
      | _ => none
  | rest =>
    (readKey? rest).bind fun (path, name, rest) =>
      match rest with
      | ']' :: rest => (readLineEnd? rest).map fun rest => (.header path name, rest)
      | _ => none

def readEntry? (text : List Char) : Option (Statement × List Char) :=
  (readKey? text).bind fun (path, name, rest) =>
    match rest with
    | '=' :: rest =>
      (readValue (2 * rest.length) levelLimit (skipBlanks rest)).bind fun (value, rest) =>
        (readLineEnd? rest).map fun rest => (.entry ⟨path, name, value⟩, rest)
    | _ => none

def readStatements : Nat → List Char → Option (List Statement)
  | fuel, text =>
    match skipBlanks text with
    | [] => some []
    | first :: rest =>
      match fuel with
      | 0 => none
      | fuel + 1 =>
        if first = '#' ∨ first = '\n' ∨ first = '\r' then
          (readLineEnd? (first :: rest)).bind (readStatements fuel)
        else
          (if first = '[' then readHeader? rest else readEntry? (first :: rest)).bind fun (statement, rest) =>
            (readStatements fuel rest).map (statement :: ·)

end Reader

/-- The statements of a document, in front of which a byte order mark may stand. -/
def Statement.ofText? (text : String) : Option (List Statement) :=
  let chars := match text.toList with
    | '\ufeff' :: rest => rest
    | chars => chars
  Reader.readStatements chars.length chars

end Highlighter.Toml
