import LanguageServer.Settings.Toml.Document
import LanguageServer.Settings.Toml.Scalar

namespace LanguageServer
namespace Settings
namespace Toml

/-!
Reading TOML.

Every reader takes the characters that are left and returns what it read with the characters
after it, or nothing if the text is malformed.  The length of the text bounds how deep values can
nest and how many of them there are, and serves as the fuel.
-/

/-- What a reader leaves: a value and the characters after it. -/
abbrev Read (Value : Type) := Option (Value × List Char)

def isSpace (c : Char) : Bool := c == ' ' || c == '\t'

def skipSpace (text : List Char) : List Char := text.dropWhile isSpace

/-- A control character that is not a tab has no place in a document. -/
def isControl (c : Char) : Bool := (c.toNat < 0x20 && c != '\t') || c.toNat == 0x7F

/-- The characters after a line break, if the text begins with one. -/
def newline? : List Char -> Option (List Char)
  | '\n' :: rest => some rest
  | '\r' :: '\n' :: rest => some rest
  | _ => none

/-- Skip a comment, if the text begins with one, up to the end of its line. -/
def skipComment : List Char -> Option (List Char)
  | '#' :: rest =>
      let after := rest.dropWhile (fun c => !isControl c)
      if after.isEmpty || (newline? after).isSome then some after else none
  | text => some text

/-- Skip blanks and a comment up to the end of the line, and the line break. -/
def endLine (text : List Char) : Option (List Char) :=
  match skipComment (skipSpace text) with
  | some [] => some []
  | some after => newline? after
  | none => none

/-- Skip blanks, line breaks and comments. -/
def skipBlank : Nat -> List Char -> Option (List Char)
  | 0, text => some text
  | fuel + 1, text =>
      match skipComment (skipSpace text) with
      | none => none
      | some after =>
          match newline? after with
          | some rest => skipBlank fuel rest
          | none => some after

/-! ### Strings -/

/-- A character given by so many hexadecimal digits. -/
def readCode (width : Nat) (text : List Char) : Read Char :=
  let digits := text.take width
  if digits.length = width && digits.all isHexDigit then
    let code := digits.foldl (fun value c => value * 16 + digitValue c) 0
    if code < 0xD800 ∨ (0xE000 ≤ code ∧ code < 0x110000) then
      some (Char.ofNat code, text.drop width)
    else none
  else none

/-- What follows a backslash. -/
def readEscape : List Char -> Read Char
  | 'b' :: rest => some ('\x08', rest)
  | 't' :: rest => some ('\t', rest)
  | 'n' :: rest => some ('\n', rest)
  | 'f' :: rest => some ('\x0c', rest)
  | 'r' :: rest => some ('\r', rest)
  | 'e' :: rest => some ('\x1b', rest)
  | '"' :: rest => some ('"', rest)
  | '\\' :: rest => some ('\\', rest)
  | 'x' :: rest => readCode 2 rest
  | 'u' :: rest => readCode 4 rest
  | 'U' :: rest => readCode 8 rest
  | _ => none

/-- A string on one line, after its opening quote. -/
def readBasic : Nat -> String -> List Char -> Read String
  | 0, _, _ => none
  | _, _, [] => none
  | _, done, '"' :: rest => some (done, rest)
  | fuel + 1, done, '\\' :: rest =>
      match readEscape rest with
      | some (c, after) => readBasic fuel (done.push c) after
      | none => none
  | fuel + 1, done, c :: rest => if isControl c then none else readBasic fuel (done.push c) rest

/-- A string without escapes on one line, after its opening quote. -/
def readLiteral (text : List Char) : Read String :=
  let body := text.takeWhile (fun c => c != '\'' && !isControl c)
  match text.drop body.length with
  | '\'' :: rest => some (String.ofList body, rest)
  | _ => none

/-- How many quotes the text begins with. -/
def countQuotes (quote : Char) (text : List Char) : Nat :=
  (text.takeWhile (· == quote)).length

/-- Skip blanks and line breaks. -/
def skipLines : List Char -> List Char
  | '\r' :: '\n' :: rest => skipLines rest
  | c :: rest => if isSpace c || c == '\n' then skipLines rest else c :: rest
  | [] => []

/-- A backslash at the end of a line: the blanks and line breaks after it are skipped. -/
def skipContinuation (text : List Char) : Option (List Char) :=
  (newline? (skipSpace text)).map skipLines

/-- A string over several lines, after its opening quotes.  Line breaks stay as they are written,
and up to two quotes may stand before the three that close it. -/
def readLong (quote : Char) (escapes : Bool) : Nat -> String -> List Char -> Read String
  | 0, _, _ => none
  | _, _, [] => none
  | fuel + 1, done, c :: rest =>
      if c = quote then
        let count := countQuotes quote (c :: rest)
        if count < 3 then readLong quote escapes fuel (done.push c) rest
        else if count > 5 then none
        else
          some (done ++ String.ofList (List.replicate (count - 3) quote), (c :: rest).drop count)
      else if escapes && c = '\\' then
        match skipContinuation rest with
        | some after => readLong quote escapes fuel done after
        | none =>
            match readEscape rest with
            | some (meant, after) => readLong quote escapes fuel (done.push meant) after
            | none => none
      else
        match c, rest with
        | '\r', '\n' :: after => readLong quote escapes fuel ((done.push '\r').push '\n') after
        | '\n', after => readLong quote escapes fuel (done.push '\n') after
        | _, _ => if isControl c then none else readLong quote escapes fuel (done.push c) rest

/-- A string over several lines; a line break right after the opening quotes is not part of it. -/
def readLongString (quote : Char) (escapes : Bool) (text : List Char) : Read String :=
  let body := (newline? text).getD text
  readLong quote escapes (body.length + 1) "" body

/-- A string of any kind. -/
def readString : List Char -> Read String
  | '"' :: '"' :: '"' :: rest => readLongString '"' true rest
  | '\'' :: '\'' :: '\'' :: rest => readLongString '\'' false rest
  | '"' :: rest => readBasic (rest.length + 1) "" rest
  | '\'' :: rest => readLiteral rest
  | _ => none

/-! ### Keys -/

def isBareChar (c : Char) : Bool := c.isAlphanum || c == '_' || c == '-'

/-- One part of a key. -/
def readSimpleKey : List Char -> Read String
  | '"' :: '"' :: '"' :: _ => none
  | '\'' :: '\'' :: '\'' :: _ => none
  | '"' :: rest => readBasic (rest.length + 1) "" rest
  | '\'' :: rest => readLiteral rest
  | text =>
      let name := text.takeWhile isBareChar
      if name.isEmpty then none else some (String.ofList name, text.dropWhile isBareChar)

/-- Parts of a key with points between them, as many as there may be at most. -/
def readKey : Nat -> List Char -> Read (List String)
  | 0, _ => none
  | limit + 1, text =>
      match readSimpleKey text with
      | none => none
      | some (name, rest) =>
          match skipSpace rest with
          | '.' :: more =>
              (readKey limit (skipSpace more)).map (fun found => (name :: found.1, found.2))
          | after => some ([name], after)

/-- Neither a key nor a value has more levels than this. -/
def levelLimit : Nat := 80

/-- A key, its last part apart from the others. -/
def readDottedKey (text : List Char) : Read (List String × String) :=
  (readKey levelLimit text).map (fun (names, rest) =>
    ((names.dropLast, names.getLast?.getD ""), rest))

/-! ### Values -/

def isScalarChar (c : Char) : Bool :=
  c.isAlphanum || c == '_' || c == '+' || c == '-' || c == '.' || c == ':'

/-- A scalar without quotes.  A blank may stand between a day and a time of day. -/
def readScalar (text : List Char) : Read Toml :=
  let first := text.takeWhile isScalarChar
  let rest := text.dropWhile isScalarChar
  let (whole, after) :=
    match rest with
    | ' ' :: more =>
        if isDay first && (more.head?.getD ' ').isDigit then
          (first ++ ' ' :: more.takeWhile isScalarChar, more.dropWhile isScalarChar)
        else (first, rest)
    | _ => (first, rest)
  (scalar? whole).map (fun value => (value, after))

mutual

/-- Any value.  The levels count how deep arrays and tables may still nest. -/
def readValue : Nat -> Nat -> List Char -> Read Toml
  | 0, _, _ => none
  | fuel + 1, levels, text =>
      match text, levels with
      | '"' :: _, _ => (readString text).map (fun found => (.string found.1, found.2))
      | '\'' :: _, _ => (readString text).map (fun found => (.string found.1, found.2))
      | '[' :: rest, levels + 1 => readElements fuel levels [] rest
      | '\x7b' :: rest, levels + 1 => readMembers fuel levels [] rest
      | _, _ => readScalar text

/-- The elements of an array up to its closing bracket. -/
def readElements : Nat -> Nat -> List Toml -> List Char -> Read Toml
  | 0, _, _, _ => none
  | fuel + 1, levels, done, text =>
      match skipBlank fuel text with
      | none => none
      | some (']' :: rest) => some (.array done.reverse, rest)
      | some after =>
          match readValue fuel levels after with
          | none => none
          | some (value, rest) =>
              match skipBlank fuel rest with
              | some (',' :: more) => readElements fuel levels (value :: done) more
              | some (']' :: more) => some (.array (value :: done).reverse, more)
              | _ => none

/-- The members of a table up to its closing brace.  Line breaks may stand between all its signs. -/
def readMembers : Nat -> Nat -> List Entry -> List Char -> Read Toml
  | 0, _, _, _ => none
  | fuel + 1, levels, done, text =>
      match skipBlank fuel text with
      | none => none
      | some ('\x7d' :: rest) => (inlineTable? done.reverse).map (fun table => (table, rest))
      | some after =>
          match readDottedKey after with
          | none => none
          | some ((path, name), afterKey) =>
              match skipBlank fuel afterKey with
              | some ('=' :: afterSign) =>
                  match (skipBlank fuel afterSign).bind (readValue fuel levels) with
                  | none => none
                  | some (value, rest) =>
                      let entries := ⟨path, name, value⟩ :: done
                      match skipBlank fuel rest with
                      | some (',' :: more) => readMembers fuel levels entries more
                      | some ('\x7d' :: more) =>
                          (inlineTable? entries.reverse).map (fun table => (table, more))
                      | _ => none
              | _ => none

end

/-- A key, an equals sign and a value, on one line. -/
def readEntry (text : List Char) : Read Entry :=
  match readDottedKey text with
  | none => none
  | some ((path, name), rest) =>
      match skipSpace rest with
      | '=' :: more =>
          (readValue (more.length + 1) levelLimit (skipSpace more)).map (fun found =>
            (⟨path, name, found.1⟩, found.2))
      | _ => none

/-! ### Documents -/

/-- The header of a section. -/
def readHeader : List Char -> Read Header
  | '[' :: '[' :: rest =>
      match readDottedKey (skipSpace rest) with
      | some ((path, name), after) =>
          match skipSpace after with
          | ']' :: ']' :: more => some (.element path name, more)
          | _ => none
      | none => none
  | '[' :: rest =>
      match readDottedKey (skipSpace rest) with
      | some ((path, name), after) =>
          match skipSpace after with
          | ']' :: more => some (.table path name, more)
          | _ => none
      | none => none
  | _ => none

/-- The sections of a document; the one that is being read has its entries in reverse. -/
def readSections : Nat -> Header -> List Entry -> List Char -> Option (List Section)
  | 0, _, _, _ => none
  | fuel + 1, header, entries, text =>
      match skipBlank fuel text with
      | none => none
      | some [] => some [⟨header, entries.reverse⟩]
      | some ('[' :: rest) =>
          match readHeader ('[' :: rest) with
          | none => none
          | some (next, after) =>
              match endLine after with
              | none => none
              | some more =>
                  (readSections fuel next [] more).map (⟨header, entries.reverse⟩ :: ·)
      | some after =>
          match readEntry after with
          | none => none
          | some (entry, rest) =>
              match endLine rest with
              | none => none
              | some more => readSections fuel header (entry :: entries) more

/-- The table that a document denotes.  A byte order mark at the front is passed over. -/
def parse? (text : List Char) : Option (List (String × Toml)) :=
  let body :=
    match text with
    | '﻿' :: rest => rest
    | _ => text
  (readSections (body.length + 1) .top [] body).bind assemble?

end Toml
end Settings
end LanguageServer
