import ClassScaffold.Command
import ClassScaffold.Text.Cut
/-!
Reading the arguments of the command line, from left to right. Every option takes one value, behind
an equals sign, behind its letter, or as the next argument; no option may be given twice.
-/
namespace ClassScaffold.Command
open Text (cutFirst)

inductive Misuse
  | noVerb
  | unknown (argument : String)
  | missingValue (option : String)
  | unwantedValue (option : String)
  | repeated (option : String)
  | emptyValue (option : String)
  | missing (option : String)
  deriving DecidableEq, Repr

def Misuse.message : Misuse → String
  | noVerb => "a verb is required: generate, validate or help"
  | unknown argument => "unexpected argument '" ++ argument ++ "'"
  | missingValue option => "a value is required for '--" ++ option ++ "'"
  | unwantedValue option => "'--" ++ option ++ "' takes no value"
  | repeated option => "'--" ++ option ++ "' cannot be used multiple times"
  | emptyValue option => "the value of '--" ++ option ++ "' must not be empty"
  | missing option => "'--" ++ option ++ "' is required"

inductive Slot
  | request
  | output
  | database
  | sharedRoot
  deriving DecidableEq, Repr

namespace Slot

def name : Slot → String
  | request => "request"
  | output => "output"
  | database => "database"
  | sharedRoot => "temp-dir"

def letter : Slot → Char
  | request => 'r'
  | output => 'o'
  | database => 'd'
  | sharedRoot => 't'

def isPath (s : Slot) : Bool := s != database

end Slot

def Verb.slots : Verb → List Slot
  | generate => [.request, .output, .database, .sharedRoot]
  | validate => [.request]

abbrev Given := List (Slot × String)

def give (given : Given) (s : Slot) (value : String) : Except Misuse Given :=
  if s.isPath && value.isEmpty then .error (.emptyValue s.name)
  else if (given.lookup s).isSome then .error (.repeated s.name)
  else .ok (given ++ [(s, value)])

inductive Word
  | plain
  | separator
  | long (name : String) (value : Option String)
  | short (letter : Char) (rest : List Char)
  deriving DecidableEq, Repr

def Word.ofText (argument : String) : Word :=
  match argument.toList with
  | ['-', '-'] => .separator
  | '-' :: '-' :: rest =>
    match cutFirst '=' rest with
    | some (name, value) => .long (String.ofList name) (some (String.ofList value))
    | none => .long (String.ofList rest) none
  | '-' :: letter :: rest => .short letter rest
  | _ => .plain

def attached : List Char → Option String
  | [] => none
  | '=' :: rest => some (String.ofList rest)
  | rest => some (String.ofList rest)

inductive Meaning
  | help
  | separator
  | option (s : Slot) (value : Option String)
  deriving DecidableEq, Repr

def meaning (slots : List Slot) (argument : String) : Except Misuse Meaning :=
  match Word.ofText argument with
  | .plain => .error (.unknown argument)
  | .separator => .ok .separator
  | .long name value =>
    if name = "help" then
      if value.isSome then .error (.unwantedValue name) else .ok .help
    else match slots.find? (·.name == name) with
      | some s => .ok (.option s value)
      | none => .error (.unknown argument)
  | .short letter rest =>
    if letter = 'h' then .ok .help
    else match slots.find? (·.letter == letter) with
      | some s => .ok (.option s (attached rest))
      | none => .error (.unknown argument)

def readOptions (slots : List Slot) (given : Given) :
    List String → Except Misuse (Option Given)
  | [] => .ok (some given)
  | argument :: rest => do
    match ← meaning slots argument with
    | .help => .ok none
    | .separator =>
      match rest with
      | [] => .ok (some given)
      | word :: _ => .error (.unknown word)
    | .option s (some value) => readOptions slots (← give given s value) rest
    | .option s none =>
      match rest with
      | [] => .error (.missingValue s.name)
      | value :: rest =>
        if Word.ofText value = .plain then readOptions slots (← give given s value) rest
        else .error (.missingValue s.name)

def ofOptions (verb : Verb) (given : Given) : Except Misuse Command :=
  match given.lookup .request with
  | none => .error (.missing Slot.request.name)
  | some request =>
    match verb with
    | .validate => .ok (.validate ⟨request⟩)
    | .generate => .ok (.generate ⟨⟨request⟩, (given.lookup .output).map Path.mk,
        given.lookup .database, (given.lookup .sharedRoot).map Path.mk⟩)

def ofVerb (verb : Verb) (arguments : List String) : Except Misuse Command := do
  match ← readOptions verb.slots [] arguments with
  | none => .ok (.help (some verb))
  | some given => ofOptions verb given

def ofHelp : List String → Except Misuse Command
  | [] => .ok (.help none)
  | word :: rest => do
    let topic ← match Verb.ofName word with
      | some verb => .ok (some verb)
      | none => if word = "help" then .ok none else .error (.unknown word)
    match rest with
    | [] => .ok (.help topic)
    | other :: _ => .error (.unknown other)

def ofArguments : List String → Except Misuse Command
  | [] => .error .noVerb
  | first :: rest =>
    match Word.ofText first with
    | .separator => .error .noVerb
    | .short 'h' _ | .long "help" none => .ok (.help none)
    | .short 'V' _ | .long "version" none => .ok .version
    | .plain =>
      if first = "help" then ofHelp rest
      else match Verb.ofName first with
        | some verb => ofVerb verb rest
        | none => .error (.unknown first)
    | _ => .error (.unknown first)

end ClassScaffold.Command
