import SettingsCache.Config.Basic

/-!
# Configuration documents

A configuration document is a text of lines. A line is blank, or holds one entry that puts a
switch into a position, and may end in a comment:

```text
caching_enabled = true
"track_generation" = false   # a quoted name, and a comment
```

The name may stand bare, between apostrophes, or between quotation marks with escapes. No switch
may be named twice and no other name may be used. A line ends in a line feed, which a carriage
return may precede; a byte order mark may open the document. Other constructs of the notation
(tables, dotted names, values that are no truth values) could only name unknown settings or give a
switch a value that it cannot have, so that a document holding one is malformed.
-/

namespace SettingsCache.Config

/-- What is wrong with a document. -/
inductive DocumentFault where
  /-- A line is neither blank nor an entry; lines are counted from one. -/
  | badLine (number : Nat)
  /-- An entry names no switch. -/
  | unknownName (name : String)
  /-- Two entries name the same switch. -/
  | repeatedName (switch : Switch)
  deriving DecidableEq

/-- The wording of a document fault. -/
def DocumentFault.message : DocumentFault → String
  | .badLine number => "line " ++ toString number ++ " is not an entry"
  | .unknownName name => "unknown name " ++ Text.quoted name
  | .repeatedName switch => "repeated name " ++ switch.name

/-- Whether a character may stand between the parts of a line. -/
def isBlank (c : Char) : Bool := c == ' ' || c == '\t'

/-- Whether a character may stand in a comment. -/
def isCommentChar (c : Char) : Bool :=
  c == '\t' || (0x20 ≤ c.toNat && c.toNat ≤ 0x7E) || 0x80 ≤ c.toNat

/-- Whether a character may stand in a bare name. -/
def isBareChar (c : Char) : Bool := c.isAlphanum || c == '_' || c == '-'

/-- The value of a hexadecimal digit. -/
def hexDigit? (c : Char) : Option Nat :=
  if c.isDigit then some (c.toNat - 48)
  else if 'a' ≤ c && c ≤ 'f' then some (c.toNat - 87)
  else if 'A' ≤ c && c ≤ 'F' then some (c.toNat - 55)
  else none

/-- The character whose code point is written by hexadecimal digits. -/
def codePoint? (digits : List Char) : Option Char := do
  let n ← digits.foldlM (fun n c ↦ (hexDigit? c).map (16 * n + ·)) 0
  if n.isValidChar then some (Char.ofNat n) else none

/-- The character that an escape of one letter stands for. -/
def escapedChar? : Char → Option Char
  | 'b' => some '\x08'
  | 't' => some '\t'
  | 'n' => some '\n'
  | 'f' => some '\x0c'
  | 'r' => some '\r'
  | '"' => some '"'
  | '\\' => some '\\'
  | _ => none

/-- The rest of a name after its opening quotation mark: the name, and what follows it. -/
def quotedName? : List Char → Option (List Char × List Char)
  | [] => none
  | '"' :: rest => some ([], rest)
  | '\\' :: 'u' :: a :: b :: c :: d :: rest => do
    let ch ← codePoint? [a, b, c, d]
    let (name, rest) ← quotedName? rest
    some (ch :: name, rest)
  | '\\' :: 'U' :: a :: b :: c :: d :: e :: f :: g :: h :: rest => do
    let ch ← codePoint? [a, b, c, d, e, f, g, h]
    let (name, rest) ← quotedName? rest
    some (ch :: name, rest)
  | '\\' :: letter :: rest => do
    let ch ← escapedChar? letter
    let (name, rest) ← quotedName? rest
    some (ch :: name, rest)
  | c :: rest => do
    let (name, rest) ← quotedName? rest
    some (c :: name, rest)

/-- The name at the start of an entry, and what follows it. -/
def name? : List Char → Option (List Char × List Char)
  | '"' :: rest => quotedName? rest
  | '\'' :: rest =>
    match rest.dropWhile (· != '\'') with
    | [] => none
    | _ :: after => some (rest.takeWhile (· != '\''), after)
  | line =>
    match line.takeWhile isBareChar with
    | [] => none
    | bare => some (bare, line.dropWhile isBareChar)

/-- The truth value at the start of a text, and what follows it. -/
def truth? : List Char → Option (Bool × List Char)
  | 't' :: 'r' :: 'u' :: 'e' :: rest => some (true, rest)
  | 'f' :: 'a' :: 'l' :: 's' :: 'e' :: rest => some (false, rest)
  | _ => none

/-- Whether nothing but blanks and a comment is left on a line. -/
def endsHere (line : List Char) : Bool :=
  match line.dropWhile isBlank with
  | [] => true
  | '#' :: comment => comment.all isCommentChar
  | _ => false

/-- The entry of a line: a name and a truth value with an equals sign between them. -/
def entry? (line : List Char) : Option (String × Bool) := do
  let (name, rest) ← name? (line.dropWhile isBlank)
  match rest.dropWhile isBlank with
  | '=' :: rest =>
    let (on, rest) ← truth? (rest.dropWhile isBlank)
    if endsHere rest then some (String.ofList name, on) else none
  | _ => none

/-- The lines of a document, without their ends. -/
def lines : List Char → List (List Char)
  | [] => [[]]
  | '\n' :: rest => [] :: lines rest
  | '\r' :: '\n' :: rest => [] :: lines rest
  | c :: rest =>
    match lines rest with
    | [] => [[c]]
    | line :: later => (c :: line) :: later

/-- Take in the lines of a document from a number on, given the switches already named. -/
def readLines (c : Config) (named : List Switch) (number : Nat) :
    List (List Char) → Except DocumentFault Config
  | [] => .ok c
  | line :: later =>
    if endsHere line then readLines c named (number + 1) later
    else
      match entry? line with
      | none => .error (.badLine number)
      | some (name, on) =>
        match Switch.ofName? name with
        | none => .error (.unknownName name)
        | some switch =>
          if named.contains switch then .error (.repeatedName switch)
          else readLines (c.set switch on) (switch :: named) (number + 1) later

/-- A text without the byte order mark that may open it. -/
def dropMark : List Char → List Char
  | '\uFEFF' :: rest => rest
  | text => text

/-- The configuration that a document describes, before validation. -/
def readDocument (text : String) : Except DocumentFault Config :=
  readLines {} [] 1 (lines (dropMark text.toList))

/-- Read and validate a configuration document. -/
def ofDocument (text : String) : Except ConfigError Config :=
  match readDocument text with
  | .error fault => .error (.malformed fault.message)
  | .ok c => c.validated

/-- Read and validate a configuration file, given its bytes if it exists. -/
def ofFile : Option ByteArray → Except ConfigError Config
  | none => .error (.unreadable "no such file")
  | some bytes =>
    match String.fromUTF8? bytes with
    | none => .error (.unreadable "the file is not text")
    | some text => ofDocument text

end SettingsCache.Config
