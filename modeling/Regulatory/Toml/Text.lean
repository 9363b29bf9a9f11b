import Regulatory.Toml.Value

/-!
Blanks, line ends, comments, strings and keys of a TOML document.
-/

namespace Regulatory.Toml

def isBlank (c : Char) : Bool :=
  c == ' ' || c == '\t'

def skipBlanks (s : List Char) : List Char :=
  s.dropWhile isBlank

/-- The characters that need no escape anywhere but for quotes and backslashes: the tab, and all
that are not controls. -/
def isTextChar (c : Char) : Bool :=
  c == '\t' || (0x20 ≤ c.toNat && c.toNat ≤ 0x7E) || 0x80 ≤ c.toNat

/-- Ends every line by a line feed alone. The readers below know no other line end. -/
def unifyLineEnds : List Char → List Char
  | [] => []
  | '\r' :: '\n' :: rest => '\n' :: unifyLineEnds rest
  | c :: rest => c :: unifyLineEnds rest

/-- Reads what may follow a statement: blanks, a comment, and the end of the line or of the
document. -/
def endOfLine? (s : List Char) : Option (List Char) :=
  let afterComment :=
    match skipBlanks s with
    | '#' :: rest => rest.dropWhile isTextChar
    | rest => rest
  match afterComment with
  | [] => some []
  | '\n' :: rest => some rest
  | _ => none

/-- Skips what may stand between the items of an array: blanks, line ends and comments. -/
def skipLayout (inComment : Bool) : List Char → List Char
  | [] => []
  | '\n' :: rest => skipLayout false rest
  | c :: rest =>
    if inComment then
      if isTextChar c then skipLayout true rest else c :: rest
    else if c == '#' then skipLayout true rest
    else if isBlank c then skipLayout false rest
    else c :: rest

/-- The character that a code point stands for. Surrogates stand for none. -/
def scalar? (n : Nat) : Option Char :=
  if n.isValidChar then some (Char.ofNat n) else none

def hexDigit? (c : Char) : Option Nat :=
  if '0' ≤ c && c ≤ '9' then some (c.toNat - '0'.toNat)
  else if 'a' ≤ c && c ≤ 'f' then some (c.toNat - 'a'.toNat + 10)
  else if 'A' ≤ c && c ≤ 'F' then some (c.toNat - 'A'.toNat + 10)
  else none

def simpleEscape? : Char → Option Char
  | 'b' => some '\x08'
  | 'f' => some '\x0c'
  | 'n' => some '\n'
  | 'r' => some '\r'
  | 't' => some '\t'
  | '"' => some '"'
  | '\\' => some '\\'
  | _ => none

/-- Where the reader of a string stands between two characters. -/
inductive StringState where
  | text
  | escape
  /-- So many digits of a code point are still to come, after a part of its value. -/
  | codePoint (owed value : Nat)
  /-- A backslash at the end of a line, up to the line end. -/
  | lineEnd
  /-- After such a line end, up to the next visible character. -/
  | continued
deriving DecidableEq, Repr

def prepend (c : Char) (r : Option (List Char × List Char)) : Option (List Char × List Char) :=
  r.map fun x => (c :: x.1, x.2)

/-- Reads a string in quotes from behind the opening quote. -/
def basicString (state : StringState) : Reader (List Char)
  | [] => none
  | c :: rest =>
    match state with
    | .codePoint owed value => do
      let digit ← hexDigit? c
      let value := 16 * value + digit
      if owed ≤ 1 then prepend (← scalar? value) (basicString .text rest)
      else basicString (.codePoint (owed - 1) value) rest
    | .escape =>
      if c == 'u' then basicString (.codePoint 4 0) rest
      else if c == 'U' then basicString (.codePoint 8 0) rest
      else do prepend (← simpleEscape? c) (basicString .text rest)
    | _ =>
      if c == '"' then some ([], rest)
      else if c == '\\' then basicString .escape rest
      else if isTextChar c then prepend c (basicString .text rest)
      else none

/-- Reads the closing of a string in triple quotes from behind its first quote, with up to two
quotes of the string that stand next to it. -/
def closing? (quote : Char) (s : List Char) : Option (List Char × List Char) :=
  let quotes := (s.takeWhile (· == quote)).length
  if quotes < 2 then none
  else
    let inside := min (quotes - 2) 2
    some (List.replicate inside quote, s.drop (inside + 2))

/-- Reads a string in triple quotes from behind the opening ones. -/
def multilineString (state : StringState) : Reader (List Char)
  | [] => none
  | c :: rest =>
    match state with
    | .codePoint owed value => do
      let digit ← hexDigit? c
      let value := 16 * value + digit
      if owed ≤ 1 then prepend (← scalar? value) (multilineString .text rest)
      else multilineString (.codePoint (owed - 1) value) rest
    | .escape =>
      if c == 'u' then multilineString (.codePoint 4 0) rest
      else if c == 'U' then multilineString (.codePoint 8 0) rest
      else if isBlank c then multilineString .lineEnd rest
      else if c == '\n' then multilineString .continued rest
      else do prepend (← simpleEscape? c) (multilineString .text rest)
    | .lineEnd =>
      if isBlank c then multilineString .lineEnd rest
      else if c == '\n' then multilineString .continued rest
      else none
    | _ =>
      if state = .continued && (isBlank c || c == '\n') then multilineString .continued rest
      else if c == '"' then
        match closing? '"' rest with
        | some closed => some closed
        | none => prepend c (multilineString .text rest)
      else if c == '\\' then multilineString .escape rest
      else if c == '\n' || isTextChar c then prepend c (multilineString .text rest)
      else none

/-- Reads a string in apostrophes from behind the opening one. Nothing in it is an escape. -/
def literalString : Reader (List Char)
  | [] => none
  | c :: rest =>
    if c == '\'' then some ([], rest)
    else if isTextChar c then prepend c (literalString rest)
    else none

def multilineLiteral : Reader (List Char)
  | [] => none
  | c :: rest =>
    if c == '\'' then
      match closing? '\'' rest with
      | some closed => some closed
      | none => prepend c (multilineLiteral rest)
    else if c == '\n' || isTextChar c then prepend c (multilineLiteral rest)
    else none

/-- A line end right behind the opening of a string in triple quotes does not belong to it. -/
def skipFirstLineEnd : List Char → List Char
  | '\n' :: rest => rest
  | s => s

def string? (s : List Char) : Option (String × List Char) :=
  let read :=
    match s with
    | '"' :: '"' :: '"' :: rest => multilineString .text (skipFirstLineEnd rest)
    | '"' :: rest => basicString .text rest
    | '\'' :: '\'' :: '\'' :: rest => multilineLiteral (skipFirstLineEnd rest)
    | '\'' :: rest => literalString rest
    | _ => none
  read.map fun x => (String.ofList x.1, x.2)

def isBareKeyChar (c : Char) : Bool :=
  c.isAlphanum || c == '-' || c == '_'

/-- Reads one part of a key: a string on one line, or a word. -/
def keyPart? (s : List Char) : Option (String × List Char) :=
  let read :=
    match s with
    | '"' :: rest => basicString .text rest
    | '\'' :: rest => literalString rest
    | _ =>
      let word := s.takeWhile isBareKeyChar
      if word.isEmpty then none else some (word, s.drop word.length)
  read.map fun x => (String.ofList x.1, x.2)

/-- How deep keys and values may nest. -/
def depthLimit : Nat := 79

/-- Reads at most so many parts of a key, set apart by dots, with the blanks around them. -/
def keyParts (limit : Nat) (s : List Char) : Option (List String × List Char) :=
  match limit with
  | 0 => none
  | limit + 1 => do
    let (part, rest) ← keyPart? (skipBlanks s)
    match skipBlanks rest with
    | '.' :: rest =>
      let (parts, rest) ← keyParts limit rest
      some (part :: parts, rest)
    | rest => some ([part], rest)

def key? (s : List Char) : Option (List String × List Char) :=
  keyParts depthLimit s

end Regulatory.Toml
