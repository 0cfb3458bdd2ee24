import CatalogImport.Calendar.Span
import CatalogImport.Decimal.Layout
import CatalogImport.Decimal.Reading
import CatalogImport.Index
import CatalogImport.Text.Blank

/-!
# Environments

Variables and their values.  They come with the process, and a file of lines `KEY=VALUE` may lay others
over them.  Main statement: giving a variable a value changes that variable and no other
(`find?_assign`).
-/

namespace CatalogImport

open CatalogImport.Decimal

/-- Why a configuration is no good. -/
inductive ConfigError where
  | unreadableFile (path reason : String)
  /-- A line of a file has no equals sign; lines count from one. -/
  | malformedLine (line : Nat)
  | emptyKey (line : Nat)
  | invalidValue (key value : String)
  | invalidTruth (key value : String)
  | zeroBatchSize
  /-- A number of seconds, in words, that is no length of time. -/
  | invalidDelay (seconds : String)
  /-- A variable that is needed has no value. -/
  | unset (key : String)
  deriving DecidableEq

/-- The error in words. -/
def ConfigError.message (e : ConfigError) : String :=
  "Configuration error: " ++ match e with
  | .unreadableFile path reason => "Failed to read env file " ++ path ++ ": " ++ reason
  | .malformedLine line =>
    "Invalid env file: malformed line " ++ numeral line ++ " (expected KEY=VALUE)"
  | .emptyKey line => "Invalid env file: empty key at line " ++ numeral line
  | .invalidValue key value => "Invalid value for " ++ key ++ ": '" ++ value ++ "'"
  | .invalidTruth key value => "Invalid boolean for " ++ key ++ ": '" ++ value ++ "'"
  | .zeroBatchSize => "batch size must be at least 1"
  | .invalidDelay seconds => "Invalid retry delay: " ++ seconds
  | .unset key => key ++ " must be set"

/-- Variables by their names. -/
structure Env where
  values : Index String

namespace Env

/-- The environment without variables. -/
def empty : Env := ⟨.empty⟩

/-- The environment with these variables. -/
def ofList (values : List (String × String)) : Env := ⟨.ofList values⟩

/-- Gives a variable a value. -/
def assign (e : Env) (key value : String) : Env := ⟨e.values.insert key value⟩

/-- The value of a variable, as it stands. -/
def find? (e : Env) (key : String) : Option String := e.values.find? key

/-- Assigning a variable changes it and no other. -/
theorem find?_assign (e : Env) (key value other : String) :
    (e.assign key value).find? other = if other = key then some value else e.find? other :=
  e.values.find?_insert key other value

/-! ## Files -/

/-- What is left of a text that begins with another. -/
def afterStart? (start cs : List Char) : Option (List Char) :=
  match start, cs with
  | [], cs => some cs
  | s :: start, c :: cs => if s = c then afterStart? start cs else none
  | _ :: _, [] => none

/-- The text before and after the first equals sign. -/
def splitAtEquals? (cs : List Char) : Option (List Char × List Char) :=
  match cs with
  | [] => none
  | c :: rest =>
    if c = '=' then some ([], rest)
    else (splitAtEquals? rest).map fun (before, after) => (c :: before, after)

/-- A text without a pair of the same quotes around it. -/
def unquoted (cs : List Char) : List Char :=
  match cs with
  | first :: rest =>
    if (first = '"' ∨ first = '\x27') ∧ rest.getLast? = some first then rest.dropLast else cs
  | [] => cs

/-- The lines of a text. -/
def linesOf (cs : List Char) : List (List Char) := cs.splitOn '\n'

/-- What a line says: nothing, or the value of a variable. -/
def assignment? (number : Nat) (line : List Char) :
    Except ConfigError (Option (String × String)) :=
  let line := Text.trimChars line
  if line = [] ∨ line.head? = some '#' then .ok none
  else
    let line := (afterStart? "export ".toList line).getD line
    match splitAtEquals? line with
    | none => .error (.malformedLine number)
    | some (key, value) =>
      let key := Text.trimChars key
      if key = [] then .error (.emptyKey number)
      else .ok (some (String.ofList key, String.ofList (unquoted (Text.trimChars value))))

/-- Lays what lines say over an environment; the first of them has this number. -/
def withLines (e : Env) (number : Nat) : List (List Char) → Except ConfigError Env
  | [] => .ok e
  | line :: rest =>
    match assignment? number line with
    | .error err => .error err
    | .ok none => e.withLines (number + 1) rest
    | .ok (some (key, value)) => (e.assign key value).withLines (number + 1) rest

/-- Lays what a file says over an environment. -/
def withFile (e : Env) (text : String) : Except ConfigError Env := e.withLines 1 (linesOf text.toList)

/-! ## Values -/

/-- The value of a variable; an empty one counts as none. -/
def get? (e : Env) (key : String) : Option String := (e.find? key).filter (· ≠ "")

/-- The value of a variable, read by some rule. -/
def read {α : Type} (e : Env) (key : String) (complaint : String → String → ConfigError)
    (rule : String → Option α) : Except ConfigError (Option α) :=
  match e.get? key with
  | none => .ok none
  | some value =>
    match rule value with
    | some a => .ok (some a)
    | none => .error (complaint key value)

/-- The truth value that a word stands for. -/
def truthOf? (s : String) : Option Bool :=
  match Text.lowerAsciiText (Text.trim s) with
  | "1" | "true" | "yes" | "on" => some true
  | "0" | "false" | "no" | "off" => some false
  | _ => none

/-- A variable that holds a truth value. -/
def truth (e : Env) (key : String) : Except ConfigError (Option Bool) :=
  e.read key .invalidTruth truthOf?

/-- A variable that holds a whole number below a bound. -/
def count (e : Env) (limit : Nat) (key : String) : Except ConfigError (Option Nat) :=
  e.read key .invalidValue fun s => unsigned? limit s.toList

/-- A variable that holds a double. -/
def double (e : Env) (key : String) : Except ConfigError (Option Float) :=
  e.read key .invalidValue double?

end Env

end CatalogImport
