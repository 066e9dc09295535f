import ClassScaffold.Text.Hex
import ClassScaffold.Yaml.Cursor
/-!
The text of YAML scalars: plain, between quotes, and block scalars. Line breaks inside a scalar fold:
one becomes a space, and of several the first one vanishes. Literal block scalars keep their lines.
What has been read of a scalar is kept backwards until its end is reached.
-/
namespace ClassScaffold.Yaml

structure Gap where
  blanks : List Char
  firstBreak : List Char
  moreBreaks : List Char
  crossed : Bool
  deriving DecidableEq, Repr

namespace Gap

def none : Gap := ⟨[], [], [], false⟩

def fold (g : Gap) : List Char :=
  if g.crossed then
    if g.firstBreak.head? = some '\n' then
      if g.moreBreaks.isEmpty then [' '] else g.moreBreaks
    else g.moreBreaks ++ g.firstBreak
  else g.blanks

def read (indent : Option Int) : Nat → Gap → Cursor → Option (Gap × Cursor)
  | 0, g, c => some (g, c)
  | steps + 1, g, c =>
    match c.peek with
    | Option.none => some (g, c)
    | some x =>
      if isBlank x then
        if g.crossed && x == '\t' && indent.any fun i => (c.column : Int) < i then Option.none
        else if g.crossed then read indent steps g (c.advance 1)
        else read indent steps { g with blanks := x :: g.blanks } (c.advance 1)
      else if isBreak x then
        let (text, next) := c.crossBreak
        if g.crossed then read indent steps { g with moreBreaks := text ++ g.moreBreaks } next
        else read indent steps ⟨[], text, g.moreBreaks, true⟩ next
      else some (g, c)

end Gap

structure Read where
  text : List Char
  next : Cursor
  crossed : Bool

namespace Plain

def run (inFlow : Bool) : List Char → Option Nat
  | [] => some 0
  | c :: rest =>
    if isGap c then some 0
    else if inFlow && c == ':' && rest.head?.any fun x => isFlowMark x || x == '?' then none
    else if (c == ':' && endsWord rest.head?) || (inFlow && isFlowMark c) then some 0
    else (run inFlow rest).map (· + 1)

def readFrom (inFlow : Bool) (indent : Int) : Nat → List Char → Gap → Cursor → Option Read
  | 0, text, gap, c => some ⟨text.reverse, c, gap.crossed⟩
  | steps + 1, text, gap, c =>
    if c.atDocumentMark || c.is '#' then some ⟨text.reverse, c, gap.crossed⟩
    else do
      let n ← run inFlow c.rest
      let text := if n = 0 then text else (c.rest.take n).reverse ++ (gap.fold ++ text)
      let gap := if n = 0 then gap else .none
      let c := c.advance n
      if !c.peek.any isGap then some ⟨text.reverse, c, gap.crossed⟩
      else do
        let (gap, c) ← Gap.read (some indent) steps gap c
        if !inFlow && (c.column : Int) < indent then some ⟨text.reverse, c, gap.crossed⟩
        else readFrom inFlow indent steps text gap c

def read (inFlow : Bool) (indent : Int) (steps : Nat) (c : Cursor) : Option Read :=
  readFrom inFlow indent steps [] .none c

end Plain

namespace Quoted

def numbered (digits : Nat) (s : List Char) : Option (Char × Nat) := do
  if (s.take digits).length < digits then none
  else
    let n ← Text.hexNumber? (s.take digits)
    if (0xD800 ≤ n && n ≤ 0xDFFF) || 0x10FFFF < n then none
    else some (Char.ofNat n, digits + 2)

def escape : List Char → Option (Char × Nat)
  | [] => none
  | c :: rest =>
    match c with
    | '0' => some ('\x00', 2)
    | 'a' => some ('\x07', 2)
    | 'b' => some ('\x08', 2)
    | 't' | '\t' => some ('\t', 2)
    | 'n' => some ('\n', 2)
    | 'v' => some ('\x0b', 2)
    | 'f' => some ('\x0c', 2)
    | 'r' => some ('\r', 2)
    | 'e' => some ('\x1b', 2)
    | ' ' => some (' ', 2)
    | '"' => some ('"', 2)
    | '/' => some ('/', 2)
    | '\\' => some ('\\', 2)
    | 'N' => some ('\u0085', 2)
    | '_' => some ('\u00a0', 2)
    | 'L' => some ('\u2028', 2)
    | 'P' => some ('\u2029', 2)
    | 'x' => numbered 2 rest
    | 'u' => numbered 4 rest
    | 'U' => numbered 8 rest
    | _ => none

def run (double : Bool) : Nat → List Char → Cursor → Option Read
  | 0, text, c => some ⟨text, c, false⟩
  | steps + 1, text, c =>
    match c.rest with
    | [] => some ⟨text, c, false⟩
    | x :: rest =>
      if isGap x then some ⟨text, c, false⟩
      else if !double && x == '\'' then
        if rest.head? = some '\'' then run double steps ('\'' :: text) (c.advance 2)
        else some ⟨text, c, false⟩
      else if double && x == '"' then some ⟨text, c, false⟩
      else if double && x == '\\' then
        if rest.head?.any isBreak then some ⟨text, (c.advance 1).skipBreak, true⟩
        else do
          let (y, length) ← escape rest
          run double steps (y :: text) (c.advance length)
      else run double steps (x :: text) (c.advance 1)

def readFrom (double : Bool) : Nat → List Char → Cursor → Option Read
  | 0, _, _ => none
  | steps + 1, text, c =>
    if c.atDocumentMark || c.rest.isEmpty then none
    else do
      let r ← run double steps text c
      if r.next.is (if double then '"' else '\'') then
        some ⟨r.text.reverse, r.next.advance 1, false⟩
      else do
        let (gap, c) ← Gap.read none steps { Gap.none with crossed := r.crossed } r.next
        readFrom double steps (gap.fold ++ r.text) c

def read (double : Bool) (steps : Nat) (c : Cursor) : Option Read :=
  readFrom double steps [] (c.advance 1)

end Quoted

namespace Block

inductive Chomp
  | strip
  | clip
  | keep
  deriving DecidableEq, Repr

def chomp? (c : Cursor) : Option Chomp :=
  if c.is '+' then some .keep else if c.is '-' then some .strip else none

def increment? (c : Cursor) : Option Nat :=
  match c.peek with
  | some x => if '0' ≤ x && x ≤ '9' then some (x.toNat - '0'.toNat) else none
  | none => none

def header (c : Cursor) : Option (Chomp × Option Nat × Cursor) :=
  let done (chomp : Option Chomp) (increment : Option Nat) (c : Cursor) :=
    if increment = some 0 then none else some (chomp.getD .clip, increment, c)
  match chomp? c with
  | some chomp =>
    let c := c.advance 1
    match increment? c with
    | some n => done (some chomp) (some n) (c.advance 1)
    | none => done (some chomp) none c
  | none =>
    match increment? c with
    | some n =>
      let c := c.advance 1
      match chomp? c with
      | some chomp => done (some chomp) (some n) (c.advance 1)
      | none => done none (some n) c
    | none => done none none c

def endLine (c : Cursor) : Option Cursor :=
  let c := c.skipBlanks
  let c := if c.is '#' then c.skipToBreak else c
  if c.atLineEnd then some c.skipBreak else none

def breaks (indent : Option Nat) : Nat → List Char → Nat → Cursor → Option (List Char × Nat × Cursor)
  | 0, text, widest, c => some (text, widest, c)
  | steps + 1, text, widest, c =>
    let spaces := (c.rest.takeWhile (· == ' ')).length
    let c := c.advance (match indent with
      | some i => min spaces (i - c.column)
      | none => spaces)
    let widest := max widest c.column
    if indent.all (c.column < ·) && c.is '\t' then none
    else if c.atBreak then
      let (line, next) := c.crossBreak
      breaks indent steps (line ++ text) widest next
    else some (text, widest, c)

structure Pending where
  lastBreak : List Char
  emptyLines : List Char
  blankBefore : Bool

def lines (folded : Bool) (indent : Nat) : Nat → List Char → Pending → Cursor →
    Option (List Char × Pending × Cursor)
  | 0, text, p, c => some (text, p, c)
  | steps + 1, text, p, c =>
    if c.column != indent || c.rest.isEmpty then some (text, p, c)
    else do
      let blank := c.peek.any isBlank
      let joined :=
        if folded && p.lastBreak.head? = some '\n' && !p.blankBefore && !blank then
          if p.emptyLines.isEmpty then [' '] else p.emptyLines
        else p.emptyLines ++ p.lastBreak
      let stop := c.skipToBreak
      let line := c.rest.take (stop.column - c.column)
      let (lastBreak, next) := stop.crossBreak
      let (emptyLines, _, next) ← breaks (some indent) steps.succ [] 0 next
      lines folded indent steps (line.reverse ++ (joined ++ text)) ⟨lastBreak, emptyLines, blank⟩ next

/-- Reads a scalar from its mark on; `parent` is the indentation around it. Where the header does not
say how far the text is indented, its first line does. There are fewer characters left than `steps`. -/
def read (folded : Bool) (parent : Int) (steps : Nat) (c : Cursor) : Option Read := do
  let (chomp, increment, c) ← header (c.advance 1)
  let c ← endLine c
  let declared := increment.map fun n => if 0 ≤ parent then parent.toNat + n else n
  let (emptyLines, widest, c) ← breaks declared steps [] 0 c
  let indent := declared.getD (max (max widest (parent + 1).toNat) 1)
  let (text, p, c) ← lines folded indent steps [] ⟨[], emptyLines, false⟩ c
  let text := (if chomp = .strip then [] else p.lastBreak) ++ text
  let text := (if chomp = .keep then p.emptyLines else []) ++ text
  some ⟨text.reverse, c, true⟩

end Block
end ClassScaffold.Yaml
