import ApiTypings.Text.Blank
import ApiTypings.Value

/-!
# Files of variables

Each line of such a file gives a variable: a name, an equals sign and a value. The
value may stand in quotes, in which it may reach over several lines, and it may
refer to variables as `${name}`. A line that is none of these is passed over.
-/

namespace ApiTypings
namespace Variables

/-- Blanks within a line. -/
def isGap (c : Char) : Bool :=
  Text.isBlank c && c != '\n'

/-- The text up to the closing quote, and the rest after it. `read` is the reversed
text so far. A quote after a backslash closes the text only if none follows that
stands alone; `fallback` is the result with the last such quote. -/
def quoted?
    (quote : Char)
    (read : List Char)
    (fallback : Option (List Char × List Char)) :
    List Char → Option (List Char × List Char)
  | [] => fallback
  | c :: rest =>
      if c == quote then
        if read.head? == some '\\' then
          quoted? quote (c :: read) (some (read.reverse, rest)) rest
        else some (read.reverse, rest)
      else quoted? quote (c :: read) fallback rest

/-- The characters that follow a backslash in single quotes, and what they mean. -/
def singleEscapes : List (Char × Char) := [('\\', '\\'), ('\x27', '\x27')]

/-- The characters that follow a backslash in double quotes, and what they mean. -/
def doubleEscapes : List (Char × Char) :=
  singleEscapes ++
    [('"', '"'), ('a', '\x07'), ('b', '\x08'), ('f', '\x0c'), ('n', '\n'), ('r', '\r'),
      ('t', '\t'), ('v', '\x0b')]

/-- A text with the meaning of its escapes. Other backslashes are kept. -/
def unescaped (escapes : List (Char × Char)) : List Char → List Char
  | [] => []
  | ['\\'] => ['\\']
  | '\\' :: c :: rest =>
      match escapes.lookup c with
      | some meaning => meaning :: unescaped escapes rest
      | none => '\\' :: unescaped escapes (c :: rest)
  | c :: rest => c :: unescaped escapes rest

/-- A line without the comment that follows blanks. -/
def withoutComment : List Char → List Char
  | [] => []
  | c :: rest =>
      if Text.isBlank c && (rest.dropWhile Text.isBlank).head? == some '#' then []
      else c :: withoutComment rest

/-- The value at the start of a text, and the rest after it. -/
def valueAt (input : List Char) : Option (List Char × List Char) :=
  match input with
  | '\x27' :: rest =>
      (quoted? '\x27' [] none rest).map fun found =>
        (unescaped singleEscapes found.1, found.2)
  | '"' :: rest =>
      (quoted? '"' [] none rest).map fun found =>
        (unescaped doubleEscapes found.1, found.2)
  | _ =>
      let line := input.takeWhile (· != '\n')
      some (Text.trimEnd (withoutComment line), input.drop line.length)

/-- The name at the start of a text, if it is no comment, and the rest after it. -/
def nameAt (input : List Char) : Option (Option (List Char) × List Char) :=
  match input with
  | '#' :: _ => some (none, input)
  | '\x27' :: rest =>
      let name := rest.takeWhile (· != '\x27')
      match rest.drop name.length with
      | _ :: after => if name.isEmpty then none else some (some name, after)
      | [] => none
  | _ =>
      let name := input.takeWhile fun c => c != '=' && c != '#' && !Text.isBlank c
      if name.isEmpty then none else some (some name, input.drop name.length)

/-- The rest after the first line of a text. -/
def afterLine (input : List Char) : List Char :=
  (input.dropWhile (· != '\n')).drop 1

/-- The rest after the end of a line, before which there may be a comment. -/
def afterEnd? (input : List Char) : Option (List Char) :=
  let gone := input.dropWhile isGap
  match if gone.head? == some '#' then gone.dropWhile (· != '\n') else gone with
  | [] => some []
  | '\n' :: rest => some rest
  | _ => none

/-- A text without the word that makes a variable visible elsewhere. -/
def afterExport (input : List Char) : List Char :=
  let rest := input.drop 6
  if Text.startsWith "export".toList input && rest.head?.any isGap then rest.dropWhile isGap
  else input

/-- A variable; its value is missing if there is no equals sign. -/
abbrev Variable := List Char × Option (List Char)

/-- The variable in the first line of a text, if there is one, and the rest after
the line. -/
def variableAt (input : List Char) : Option Variable × List Char :=
  let input := afterExport input
  match nameAt input with
  | none => (none, afterLine input)
  | some (name, rest) =>
      let ended (value : Option (List Char)) (after : List Char) :=
        match afterEnd? after with
        | some next => (name.map fun name => (name, value), next)
        | none => (none, afterLine after)
      match rest.dropWhile isGap with
      | '=' :: more =>
          match valueAt (more.dropWhile isGap) with
          | some (value, after) => ended (some value) after
          | none => (none, afterLine more)
      | _ => ended none rest

/-- The variables of a text, as they are written. -/
def read (input : List Char) : List Variable :=
  match input.dropWhile Text.isBlank with
  | [] => []
  | c :: rest =>
      let (found, after) := variableAt (c :: rest)
      if after.length < input.length then found.toList ++ read after else []
termination_by input.length

/-- The name and the default of the reference at the start of a text after its
opening brace, and the rest after it. -/
def referenceAt (input : List Char) : Option (List Char × List Char × List Char) :=
  let name := input.takeWhile fun c => c != '\x7d' && c != ':'
  match input.drop name.length with
  | '\x7d' :: rest => some (name, [], rest)
  | ':' :: '-' :: more =>
      let default := more.takeWhile (· != '\x7d')
      match more.drop default.length with
      | _ :: rest => some (name, default, rest)
      | [] => none
  | _ => none

/-- A text with the values of the variables that it refers to. -/
def substituted (known : List (List Char × List Char)) (text : List Char) : List Char :=
  match text with
  | [] => []
  | '$' :: '\x7b' :: rest =>
      match referenceAt rest with
      | some (name, default, after) =>
          if after.length < rest.length then
            (known.lookup name).getD default ++ substituted known after
          else '$' :: substituted known ('\x7b' :: rest)
      | none => '$' :: substituted known ('\x7b' :: rest)
  | c :: rest => c :: substituted known rest
termination_by text.length

/-- The variables with their references resolved: each may refer to those before
it and to those of the surroundings. `resolved` holds those before, the last one
first. -/
def resolveFrom
    (surroundings : List (List Char × List Char))
    (resolved : List Variable) :
    List Variable → List Variable
  | [] => resolved.reverse
  | (name, value) :: rest =>
      let known := resolved.map fun before => (before.1, before.2.getD [])
      resolveFrom surroundings
        ((name, value.map (substituted (known ++ surroundings))) :: resolved) rest

/-- The variables that a text gives. The last value of a name counts. -/
def ofText (surroundings : List (String × String)) (text : List Char) :
    List (String × Option String) :=
  let known := surroundings.map fun entry => (entry.1.toList, entry.2.toList)
  Entries.ofPairs ((resolveFrom known [] (read text)).map fun entry =>
    (String.ofList entry.1, entry.2.map String.ofList))

end Variables
end ApiTypings
