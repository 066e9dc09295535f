import ClassScaffold.Json.Number
import ClassScaffold.Json.Text
/-!
Values of a JSON text that are not wanted. One that a name of no interest leads to is passed over,
however deep it is; one of the wrong kind is named in the fault, after a scalar has been read in full.
-/
namespace ClassScaffold.Json

def readWord : List Char → List Char → Except Fault (List Char)
  | [], s => .ok s
  | _ :: _, [] => .error .endInValue
  | w :: word, c :: rest => if c = w then readWord word rest else .error .expectedWord

def found (s : List Char) : Except Fault Found :=
  match s with
  | 'n' :: rest => (readWord ['u', 'l', 'l'] rest).map fun _ => .null
  | 't' :: rest => (readWord ['r', 'u', 'e'] rest).map fun _ => .boolean true
  | 'f' :: rest => (readWord ['a', 'l', 's', 'e'] rest).map fun _ => .boolean false
  | '"' :: rest => (Text.read rest).map fun (text, _) => .string text
  | '[' :: _ => .ok .sequence
  | '\x7b' :: _ => .ok .map
  | c :: _ =>
    if c = '-' || isDigit c then (Number.read s).map fun (n, _) => n.found
    else .error .expectedValue
  | [] => .error .endInValue

def wrongType (wanted : String) (s : List Char) : Fault :=
  match found s with
  | .ok value => .wrongType value wanted
  | .error fault => fault

inductive Bracket
  | list
  | object
  deriving DecidableEq, Repr

inductive Expect
  | value
  | first
  | key
  | colon
  | more
  deriving DecidableEq, Repr

def skipScalar (c : Char) (rest : List Char) : Except Fault (List Char) :=
  if c = 'n' then readWord ['u', 'l', 'l'] rest
  else if c = 't' then readWord ['r', 'u', 'e'] rest
  else if c = 'f' then readWord ['a', 'l', 's', 'e'] rest
  else if c = '"' then Text.skip rest
  else if c = '-' || isDigit c then Number.skip (c :: rest)
  else .error .expectedValue

def closing : Bracket → Char
  | .list => ']'
  | .object => '\x7d'

def endFault : Bracket → Fault
  | .list => .endInList
  | .object => .endInObject

def separatorFault : Bracket → Fault
  | .list => .expectedListEnd
  | .object => .expectedObjectEnd

def entry : Bracket → Expect
  | .list => .value
  | .object => .key

/-- Passes over a text, the brackets that are open being listed from the inside. The value is over
when none of them is open any more. `passed` counts characters of a scalar that are still to go by. -/
def skipFrom : Nat → List Bracket → Expect → List Char → Except Fault (List Char)
  | passed + 1, brackets, expect, _ :: rest => skipFrom passed brackets expect rest
  | 0, [], .more, s => .ok s
  | _, [], _, [] => .error .endInValue
  | _, _, .value, [] => .error .endInValue
  | _, .object :: _, .key, [] => .error .endInObject
  | _, bracket :: _, _, [] => .error (endFault bracket)
  | 0, brackets, expect, c :: rest =>
    if isSpace c then skipFrom 0 brackets expect rest
    else
      match expect, brackets with
      | .more, [] => .ok (c :: rest)
      | .more, bracket :: outer =>
        if c = ',' then skipFrom 0 (bracket :: outer) (entry bracket) rest
        else if c = closing bracket then skipFrom 0 outer .more rest
        else .error (separatorFault bracket)
      | .colon, brackets => if c = ':' then skipFrom 0 brackets .value rest else .error .expectedColon
      | .key, brackets =>
        if c = '"' then do
          let after ← Text.skip rest
          skipFrom (rest.length - after.length) brackets .colon rest
        else .error .keyNotString
      | .first, .object :: outer =>
        if c = '\x7d' then skipFrom 0 outer .more rest
        else if c = '"' then do
          let after ← Text.skip rest
          skipFrom (rest.length - after.length) (.object :: outer) .colon rest
        else .error .keyNotString
      | expect, brackets =>
        if c = '[' then skipFrom 0 (.list :: brackets) .first rest
        else if c = '\x7b' then skipFrom 0 (.object :: brackets) .first rest
        else if c = ']' && expect = .first then skipFrom 0 brackets.tail .more rest
        else do
          let after ← skipScalar c rest
          skipFrom (rest.length - after.length) brackets .more rest

def skipValue (s : List Char) : Except Fault (List Char) := skipFrom 0 [] .value s

end ClassScaffold.Json
