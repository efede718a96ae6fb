import DiceOdds.Ordered
import DiceOdds.Text.Blank
import DiceOdds.Text.Quoted

/-!
# Files of Variables

A file of lines `NAME=value`.  A line may start with `export`, blanks may stand around
the sign, and a hash sign behind a blank starts a comment.  Values may stand in
apostrophes or quotation marks, where a backslash escapes; `${NAME}` and
`${NAME:-default}` in a value stand for variables that are already known.  A line that
cannot be read is skipped.
-/

namespace DiceOdds.Settings.EnvFile

open DiceOdds.Text (apostrophe backslash dropRight isSpacing quotationMark)

/-! ## §1 Characters -/

/-- Whether a character is spacing within a line. -/
def isGap (c : Char) : Bool := isSpacing c && c != '\n'

/-- A text without the byte order mark in front of it. -/
def dropOrderMark : List Char → List Char
  | c :: cs => if c.toNat = 0xFEFF then cs else c :: cs
  | [] => []

/-- A text with every line end written as a line feed. -/
def plainLineEnds : List Char → List Char
  | [] => []
  | '\r' :: '\n' :: cs => '\n' :: plainLineEnds cs
  | c :: cs => (if c = '\r' then '\n' else c) :: plainLineEnds cs

/-- What is left of a text behind the current line. -/
def dropLine (cs : List Char) : List Char := (cs.dropWhile (· != '\n')).drop 1

/-- Passes over an optional comment and the end of the line, if nothing else is left of
the line. -/
def endOfLine? (cs : List Char) : Option (List Char) :=
  let behind := cs.dropWhile isGap
  let behind := match behind with
    | '#' :: rest => rest.dropWhile (· != '\n')
    | _ => behind
  match behind with
  | [] => some []
  | '\n' :: rest => some rest
  | _ => none

/-! ## §2 Keys -/

/-- Passes over `export` and the gap behind it. -/
def dropExport (cs : List Char) : List Char :=
  match cs with
  | 'e' :: 'x' :: 'p' :: 'o' :: 'r' :: 't' :: c :: rest =>
    if isGap c then rest.dropWhile isGap else cs
  | _ => cs

/-- The key at the start of a line and what follows it.  A comment has no key. -/
def readKey? (cs : List Char) : Option (Option String × List Char) :=
  match cs with
  | [] => none
  | c :: rest =>
    if c = '#' then some (none, cs)
    else if c = apostrophe then
      let key := rest.takeWhile (· != apostrophe)
      match rest.dropWhile (· != apostrophe) with
      | _ :: behind => if key.isEmpty then none else some (some (String.ofList key), behind)
      | [] => none
    else
      let inKey := fun c => !(c == '=' || c == '#' || isSpacing c)
      let key := cs.takeWhile inKey
      if key.isEmpty then none else some (some (String.ofList key), cs.dropWhile inKey)

/-! ## §3 Values -/

/-- The text up to the closing mark and what follows the mark.  A backslash keeps the
character behind it from closing, be it the mark or another backslash. -/
def untilMark? (mark : Char) : List Char → Option (List Char × List Char)
  | [] => none
  | c :: rest =>
    if c = mark then some ([], rest)
    else if c = backslash then
      match rest with
      | d :: rest' => (untilMark? mark rest').map fun r => (c :: d :: r.1, r.2)
      | [] => none
    else (untilMark? mark rest).map fun r => (c :: r.1, r.2)

/-- What a letter behind a backslash stands for between quotation marks. -/
def escapedLetter? (c : Char) : Option Char :=
  match c with
  | 'a' => some (Char.ofNat 7)
  | 'b' => some (Char.ofNat 8)
  | 'f' => some (Char.ofNat 12)
  | 'n' => some '\n'
  | 'r' => some '\r'
  | 't' => some '\t'
  | 'v' => some (Char.ofNat 11)
  | _ => if c = backslash ∨ c = apostrophe ∨ c = quotationMark then some c else none

/-- What a character behind a backslash stands for between apostrophes. -/
def escapedMark? (c : Char) : Option Char :=
  if c = backslash ∨ c = apostrophe then some c else none

/-- Replaces each backslash and the character behind it, where they stand for another. -/
def unescape (escaped : Char → Option Char) : List Char → List Char
  | [] => []
  | [c] => [c]
  | c :: d :: rest =>
    if c = backslash then
      match escaped d with
      | some e => e :: unescape escaped rest
      | none => c :: unescape escaped (d :: rest)
    else c :: unescape escaped (d :: rest)

/-- A value without marks: it ends before spacing that is followed by a hash sign, and at
its last character that is not spacing. -/
def bareValue : List Char → List Char
  | [] => []
  | c :: rest =>
    if isSpacing c ∧ (rest.dropWhile isSpacing).head? = some '#' then []
    else c :: bareValue rest

/-- The value that starts right behind the sign and its gap, and what follows it. -/
def readValueAt? (cs : List Char) : Option (String × List Char) :=
  match cs with
  | [] => some ("", [])
  | c :: rest =>
    if c = apostrophe then
      (untilMark? apostrophe rest).map fun r =>
        (String.ofList (unescape escapedMark? r.1), r.2)
    else if c = quotationMark then
      (untilMark? quotationMark rest).map fun r =>
        (String.ofList (unescape escapedLetter? r.1), r.2)
    else
      let line := cs.takeWhile (· != '\n')
      some (String.ofList (dropRight isSpacing (bareValue line)), cs.dropWhile (· != '\n'))

/-- The value behind the sign and what follows it.  A hash sign behind a gap starts a
comment, so the value is empty. -/
def readValue? (cs : List Char) : Option (String × List Char) :=
  match cs.head?.any isGap, cs.dropWhile isGap with
  | true, '#' :: rest => some ("", '#' :: rest)
  | _, start => readValueAt? start

/-! ## §4 Lines -/

/-- A key and its value, if it was given one. -/
abbrev Binding := String × Option String

/-- Ends a line behind its binding; a line that goes on is not readable. -/
def finishLine (key value : Option String) (behind : List Char) : Option Binding × List Char :=
  match endOfLine? behind with
  | some rest => (key.map (·, value), rest)
  | none => (none, dropLine behind)

/-- Reads one line that does not start with spacing: its binding, if it has a readable
one, and what follows the line. -/
def readLine (cs : List Char) : Option Binding × List Char :=
  let cs := dropExport cs
  match readKey? cs with
  | none => (none, dropLine cs)
  | some (key, behind) =>
    match behind.dropWhile isGap with
    | '=' :: rest =>
      match readValue? rest with
      | some (value, behind) => finishLine key (some value) behind
      | none => (none, dropLine rest)
    | behind => finishLine key none behind

/-- Reads at most `lines` lines. -/
def readLines : (lines : Nat) → List Char → List Binding
  | 0, _ => []
  | lines + 1, cs =>
    match cs.dropWhile isSpacing with
    | [] => []
    | start =>
      match readLine start with
      | (some b, rest) => b :: readLines lines rest
      | (none, rest) => readLines lines rest

/-! ## §5 References -/

/-- The reference behind `${`: its name, its default, and what follows it. -/
def readReference? (cs : List Char) : Option (String × Option String × List Char) :=
  let name := String.ofList (cs.takeWhile fun c => c != '}' && c != ':')
  match cs.dropWhile fun c => c != '}' && c != ':' with
  | '}' :: rest => some (name, none, rest)
  | ':' :: '-' :: rest =>
    match rest.dropWhile (· != '}') with
    | _ :: behind => some (name, some (String.ofList (rest.takeWhile (· != '}'))), behind)
    | [] => none
  | _ => none

/-- Replaces references, looking at no more than `steps` characters. -/
def expandFrom (known : String → Option String) : (steps : Nat) → List Char → List Char
  | 0, cs => cs
  | _, [] => []
  | steps + 1, '$' :: '{' :: rest =>
    match readReference? rest with
    | some (name, standard, behind) =>
      ((known name).getD (standard.getD "")).toList ++ expandFrom known steps behind
    | none => '$' :: expandFrom known steps ('{' :: rest)
  | steps + 1, c :: rest => c :: expandFrom known steps rest

/-- A value with its references replaced. -/
def expand (known : String → Option String) (s : String) : String :=
  String.ofList (expandFrom known (s.length + 1) s.toList)

/-! ## §6 Whole files -/

/-- The value of a key among bindings without repeated keys; `outer` knows the variables
around the file. -/
def knownIn (outer : String → Option String) (bs : List Binding) (key : String) :
    Option String :=
  match bs.find? fun b => b.1 == key with
  | some b => some (b.2.getD "")
  | none => outer key

/-- The bindings of a file, by order of first mention, with references replaced. -/
def bindings (outer : String → Option String) (file : String) : List Binding :=
  let cs := plainLineEnds (dropOrderMark file.toList)
  (readLines (cs.length + 1) cs).foldl
    (fun bs b => Ordered.put b.1 (b.2.map (expand (knownIn outer bs))) bs) []

end DiceOdds.Settings.EnvFile
