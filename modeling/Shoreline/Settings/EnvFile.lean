import Shoreline.Settings
import Shoreline.Text.Letter

/-!
# `Shoreline.Settings.EnvFile` — settings in a file

A settings file adds variables to those of the environment and changes none that is there. Its lines
read `NAME=value`, with `export` in front or not, blanks around the sign or not. A value may be
quoted, weakly or strongly, and run over several lines then; outside strong quotes a backslash escapes
a character and `$NAME` or `${NAME}` stands for a variable. A `#` begins a comment at the
beginning of a line and behind a blank. A line that makes no sense ends the reading; the lines before
it count.

## Contents
- `Mark`, `logicalLines`: lines, where a quoted value may run over several.
- `ValueReader`, `readValue?`: the value of a line.
- `readLine?`, `EnvFile.load`.
-/

namespace Shoreline.EnvFile

open Text

/-! ## Lines -/

/-- Where in a line one is: in plain text, behind a blank, behind a backslash, or within quotes. -/
inductive Mark
  | plain | blank | escape | weak | weakEscape | strong | strongEscape
deriving DecidableEq, Repr

/-- The mark behind a character outside quotes. -/
def Mark.ofPlain (c : Char) : Mark :=
  if c = '\\' then .escape else if c = '"' then .weak else if c = '\'' then .strong else .plain

/-- The mark behind a character, or nothing if a comment begins with it. -/
def Mark.next (m : Mark) (c : Char) : Option Mark :=
  match m with
  | .blank => if c = '#' then none else some (.ofPlain c)
  | .escape => some .plain
  | .plain => some (if isBlank c && c != '\n' && c != '\r' then .blank else .ofPlain c)
  | .weak => some (if c = '\\' then .weakEscape else if c = '"' then .plain else .weak)
  | .weakEscape => some .weak
  | .strong => some (if c = '\\' then .strongEscape else if c = '\'' then .plain else .strong)
  | .strongEscape => some .strong

/-- What a line holds in front of a comment, and the mark at its end if there is no comment. -/
def Mark.scan (m : Mark) : List Char → List Char × Option Mark
  | [] => ([], some m)
  | c :: s =>
    match m.next c with
    | none => ([], none)
    | some m' => ((c :: (m'.scan s).1), (m'.scan s).2)

/-- The lines of a text, each with its end. -/
def splitLines : List Char → List (List Char)
  | [] => []
  | c :: s =>
    if c = '\n' then [c] :: splitLines s
    else
      match splitLines s with
      | [] => [[c]]
      | l :: rest => (c :: l) :: rest

/-- A line without its end. -/
def chomp (line : List Char) : List Char :=
  match line.reverse with
  | '\n' :: '\r' :: r => r.reverse
  | '\n' :: r => r.reverse
  | _ => line

/-- A line that holds nothing but a comment. -/
def isComment (line : List Char) : Bool := (stripStart isBlank line).head? == some '#'

/-- Lines, joined where quotes are open. A last line that is not finished is none. -/
def logicalLines (m : Mark) (begun : List Char) : List (List Char) → List (List Char)
  | [] => []
  | line :: rest =>
    if begun.isEmpty && isComment line then logicalLines .plain [] rest
    else
      match m.scan line with
      | (kept, none) => (begun ++ kept) :: logicalLines .plain [] rest
      | (_, some .plain) => (begun ++ chomp line) :: logicalLines .plain [] rest
      | (_, some m') => logicalLines m' (begun ++ line) rest

/-! ## Values -/

/-- The quotes around a character. -/
inductive Quote
  | none | weak | strong
deriving DecidableEq, Repr

/-- What the next character belongs to. -/
inductive Part
  | text
  | escape
  /-- The name of a variable. -/
  | name (chars : List Char)
  /-- The name of a variable in braces. -/
  | braced (chars : List Char)
  /-- Blanks behind the value. -/
  | tail
  | comment
deriving DecidableEq, Repr

/-- A value being read. -/
structure ValueReader where
  /-- What has been read, the last character first. -/
  done : List Char := []
  quote : Quote := .none
  part : Part := .text

/-- The brace that opens a name, and the one that closes it. -/
def openBrace : Char := '\x7b'

/-- The brace that closes a name. -/
def closeBrace : Char := '\x7d'

namespace ValueReader

variable (env : Environment)

/-- A character of the value. -/
def push (r : ValueReader) (c : Char) : ValueReader := { r with done := c :: r.done, part := .text }

/-- The value of a variable; a variable that is not known has none. -/
def spell (r : ValueReader) (name : List Char) : ValueReader :=
  { r with
    done := ((env.get? (String.ofList name)).getD "").toList.reverse ++ r.done, part := .text }

/-- A character outside names, escapes and strong quotes. -/
def plain (r : ValueReader) (c : Char) : ValueReader :=
  if c = '$' then { r with part := .name [] }
  else if c = '\\' then { r with part := .escape }
  else if r.quote = .weak then if c = '"' then { r with quote := .none } else r.push c
  else if c = '\'' then { r with quote := .strong }
  else if c = '"' then { r with quote := .weak }
  else if c = ' ' ∨ c = '\t' then { r with part := .tail }
  else r.push c

/-- The next character. -/
def next (r : ValueReader) (c : Char) : Option ValueReader :=
  match r.part with
  | .comment => some r
  | .tail =>
    if c = ' ' ∨ c = '\t' then some r
    else if c = '#' then some { r with part := .comment }
    else none
  | .escape =>
    if ['\\', '\'', '"', '$', ' '].contains c then some (r.push c)
    else if c = 'n' then some (r.push '\n')
    else none
  | .name chars =>
    if isLetterOrDigit c then some { r with part := .name (chars ++ [c]) }
    else if c = openBrace ∧ chars = [] then some { r with part := .braced [] }
    else if c = '$' then some { r.spell env chars with part := .name [] }
    else some ((r.spell env chars).push c)
  | .braced chars =>
    if c = closeBrace then some (r.spell env chars)
    else some { r with part := .braced (chars ++ [c]) }
  | .text =>
    if r.quote = .strong then
      some (if c = '\'' then { r with quote := .none } else r.push c)
    else some (r.plain c)

/-- The value, if it is complete. -/
def finish? (r : ValueReader) : Option String :=
  if r.quote ≠ .none then none
  else
    match r.part with
    | .braced _ => none
    | .name chars => some (String.ofList (r.spell env chars).done.reverse)
    | _ => some (String.ofList r.done.reverse)

end ValueReader

/-- The value that a text stands for. -/
def readValue? (env : Environment) (s : List Char) : Option String :=
  (s.foldlM (m := Option) (ValueReader.next env) {}).bind (ValueReader.finish? env)

/-! ## Names and values -/

/-- The name in front of a line, and what follows it and blanks. -/
def readName? (s : List Char) : Option (List Char × List Char) :=
  match s with
  | [] => none
  | c :: _ =>
    if c.isAlpha || c = '_' then
      let isInside := fun (d : Char) => d.isAlphanum || d = '_' || d = '.'
      some (s.takeWhile isInside, stripStart isBlank (s.dropWhile isInside))
    else none

/-- What follows the sign between a name and its value, without blanks in front. -/
def behindSign? : List Char → Option (List Char)
  | '=' :: s => some (stripStart isBlank s)
  | _ => none

/-- The name and the value of a line; `export` in front of a name does not count. -/
def readAssignment? (env : Environment) (s : List Char) : Option (String × String) := do
  let (word, rest) ← readName? s
  let (name, value) ←
    match behindSign? rest with
    | some value => some (word, value)
    | none =>
      if word = "export".toList then do
        let (name, rest) ← readName? rest
        let value ← behindSign? rest
        some (name, value)
      else none
  let text ← if value.isEmpty || value.head? == some '#' then some "" else readValue? env value
  some (String.ofList name, text)

/-- Add the variables of lines to those that are known, up to a line that makes no sense. -/
def loadLines (env : Environment) : List (List Char) → Environment
  | [] => env
  | line :: rest =>
    let s := strip isBlank line
    if s.isEmpty || s.head? == some '#' then loadLines env rest
    else
      match readAssignment? env s with
      | none => env
      | some (name, value) =>
        loadLines (if env.contains name then env else env.insert name value) rest

/-- A text without the byte order mark that some editors put in front. -/
def withoutMark : List Char → List Char
  | '\ufeff' :: s => s
  | s => s

/-- The variables of an environment and a file. -/
def load (env : Environment) (text : String) : Environment :=
  loadLines env (logicalLines .plain [] (splitLines (withoutMark text.toList)))

end Shoreline.EnvFile
