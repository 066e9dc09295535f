import ClassScaffold.Yaml.Token
/-!
The nodes of a YAML document. A node with an anchor is recorded under a number, and a reference to the
anchor is a node that holds the number; so a document that refers to itself is finite, too. An anchor
is numbered by how many names are known when it is read, and a number stands for the node that took it
last.
-/
namespace ClassScaffold.Yaml
open ClassScaffold.Text.Utf8 (Bytes)

inductive Node
  | scalar (text : String) (plain : Bool) (tag : Option Bytes)
  | sequence (items : List Node)
  | mapping (entries : List (Node × Node))
  | reference (number : Nat)

structure Anchored where
  number : Nat
  order : Nat
  node : Node

structure Document where
  root : Option Node
  anchored : List Anchored

namespace Node

def empty : Node := .scalar "" true none

mutual

def size : Node → Nat
  | scalar _ _ _ | reference _ => 1
  | sequence items => sizeOfItems items + 2
  | mapping entries => sizeOfEntries entries + 2

def sizeOfItems : List Node → Nat
  | [] => 0
  | n :: rest => n.size + sizeOfItems rest

def sizeOfEntries : List (Node × Node) → Nat
  | [] => 0
  | (key, value) :: rest => key.size + value.size + sizeOfEntries rest

end

end Node

namespace Document

def node? (d : Document) (number : Nat) : Option Node :=
  let candidates := d.anchored.filter (·.number == number)
  let last := candidates.foldl (fun n a => max n a.order) 0
  (candidates.find? (·.order == last)).map (·.node)

def referenceLimit (d : Document) : Nat := 100 * (d.root.map Node.size).getD 1

structure State where
  tokens : List Token
  handles : List (List Char × Bytes)
  names : List (List Char × Nat)
  order : Nat
  anchored : List Anchored

abbrev Build (α : Type) := StateT State Option α

def refuse {α : Type} : Build α := fun _ => none

def peek : Build Token := fun s => some (s.tokens.headD .streamEnd, s)

def skip : Build Unit := fun s => some ((), { s with tokens := s.tokens.tail })

def startAnchor (name : List Char) : Build (Nat × Nat) := fun s =>
  let number := s.names.length
  let names := (name, number) :: s.names.filter (·.1 != name)
  some ((number, s.order), { s with names := names, order := s.order + 1 })

def record (a : Anchored) : Build Unit := fun s => some ((), { s with anchored := a :: s.anchored })

def reference (name : List Char) : Build Node := do
  match (← get).names.lookup name with
  | some number => pure (.reference number)
  | none => refuse

def resolveTag (handle : List Char) (suffix : Bytes) : Build Bytes := do
  if handle.isEmpty then pure suffix
  else match (← get).handles.lookup handle with
    | some target => pure (target ++ suffix)
    | none => refuse

def anchorProperty : Build (Option (List Char)) := do
  match ← peek with
  | .anchor name => skip; pure (some name)
  | _ => pure none

def tagProperty : Build (Option (List Char × Bytes)) := do
  match ← peek with
  | .tag handle suffix => skip; pure (some (handle, suffix))
  | _ => pure none

def properties : Build (Option (List Char) × Option Bytes) := do
  let first ← anchorProperty
  let tag ← tagProperty
  let anchor ← if first.isNone && tag.isSome then anchorProperty else pure first
  match tag with
  | some (handle, suffix) => pure (anchor, some (← resolveTag handle suffix))
  | none => pure (anchor, none)

mutual

def node (block indentless : Bool) : Nat → Build Node
  | 0 => refuse
  | steps + 1 => do
    match ← peek with
    | .reference name => skip; reference name
    | _ =>
      let (anchor, tag) ← properties
      match anchor with
      | some name =>
        let (number, order) ← startAnchor name
        let content ← content block indentless true tag steps
        record ⟨number, order, content⟩
        pure content
      | none => content block indentless tag.isSome tag steps

def content (block indentless marked : Bool) (tag : Option Bytes) : Nat → Build Node
  | 0 => refuse
  | steps + 1 => do
    match ← peek with
    | .scalar text plain => skip; pure (.scalar (String.ofList text) plain tag)
    | .flowSequence => skip; pure (.sequence (← flowItems true steps))
    | .flowMapping => skip; pure (.mapping (← flowEntries true steps))
    | .blockEntry =>
      if indentless then pure (.sequence (← indentlessItems steps))
      else if marked then pure (.scalar "" true tag) else refuse
    | .blockSequence =>
      if block then do skip; pure (.sequence (← blockItems steps))
      else if marked then pure (.scalar "" true tag) else refuse
    | .blockMapping =>
      if block then do skip; pure (.mapping (← blockEntries steps))
      else if marked then pure (.scalar "" true tag) else refuse
    | _ => if marked then pure (.scalar "" true tag) else refuse

def blockItems : Nat → Build (List Node)
  | 0 => refuse
  | steps + 1 => do
    match ← peek with
    | .blockEntry => do
      skip
      let item ← match ← peek with
        | .blockEntry | .blockEnd => pure Node.empty
        | _ => node true false steps
      pure (item :: (← blockItems steps))
    | .blockEnd => skip; pure []
    | _ => refuse

def indentlessItems : Nat → Build (List Node)
  | 0 => refuse
  | steps + 1 => do
    match ← peek with
    | .blockEntry => do
      skip
      let item ← match ← peek with
        | .blockEntry | .key | .value | .blockEnd => pure Node.empty
        | _ => node true false steps
      pure (item :: (← indentlessItems steps))
    | _ => pure []

def blockPart : Nat → Build Node
  | 0 => refuse
  | steps + 1 => do
    match ← peek with
    | .key | .value | .blockEnd => pure Node.empty
    | _ => node true true steps

def blockEntries : Nat → Build (List (Node × Node))
  | 0 => refuse
  | steps + 1 => do
    match ← peek with
    | .key => do
      skip
      let key ← blockPart steps
      let value ← match ← peek with
        | .value => do skip; blockPart steps
        | _ => pure Node.empty
      pure ((key, value) :: (← blockEntries steps))
    | .blockEnd => skip; pure []
    | _ => refuse

def flowValue : Nat → Build Node
  | 0 => refuse
  | steps + 1 => do
    match ← peek with
    | .value => do
      skip
      match ← peek with
      | .flowEntry | .flowSequenceEnd | .flowMappingEnd => pure Node.empty
      | _ => node false false steps
    | _ => pure Node.empty

def pairKey : Nat → Build Node
  | 0 => refuse
  | steps + 1 => do
    match ← peek with
    | .value | .flowEntry | .flowSequenceEnd => do skip; pure Node.empty
    | _ => node false false steps

def flowItems (first : Bool) : Nat → Build (List Node)
  | 0 => refuse
  | steps + 1 => do
    match ← peek with
    | .flowSequenceEnd => skip; pure []
    | .flowEntry => if first then refuse else do skip; flowItem steps
    | _ => if first then flowItem steps else refuse

def flowItem : Nat → Build (List Node)
  | 0 => refuse
  | steps + 1 => do
    match ← peek with
    | .flowSequenceEnd => skip; pure []
    | .key => do
      skip
      let key ← pairKey steps
      let value ← flowValue steps
      pure (.mapping [(key, value)] :: (← flowItems false steps))
    | _ => do
      let item ← node false false steps
      pure (item :: (← flowItems false steps))

def flowEntries (first : Bool) : Nat → Build (List (Node × Node))
  | 0 => refuse
  | steps + 1 => do
    match ← peek with
    | .flowMappingEnd => skip; pure []
    | .flowEntry => if first then refuse else do skip; flowPair steps
    | _ => if first then flowPair steps else refuse

def flowPair : Nat → Build (List (Node × Node))
  | 0 => refuse
  | steps + 1 => do
    match ← peek with
    | .flowMappingEnd => skip; pure []
    | .key => do
      skip
      let key ← match ← peek with
        | .value | .flowEntry | .flowMappingEnd => pure Node.empty
        | _ => node false false steps
      let value ← flowValue steps
      pure ((key, value) :: (← flowEntries false steps))
    | _ => do
      let key ← node false false steps
      pure ((key, Node.empty) :: (← flowEntries false steps))

end

def directives : Nat → Bool → List (List Char) → Build Unit
  | 0, _, _ => refuse
  | steps + 1, versioned, declared => do
    match ← peek with
    | .version major minor =>
      if versioned || major != 1 || !(minor == 1 || minor == 2) then refuse
      else do skip; directives steps true declared
    | .tagHandle handle target =>
      if declared.contains handle then refuse
      else do
        skip
        modify fun s => { s with handles := (handle, target) :: s.handles }
        directives steps versioned (handle :: declared)
    | _ => pure ()

def skipEnds : Nat → Build Unit
  | 0 => pure ()
  | steps + 1 => do
    match ← peek with
    | .documentEnd => do skip; skipEnds steps
    | _ => pure ()

def build (steps : Nat) : Build (Option Node) := do
  match ← peek with
  | .streamEnd => pure none
  | .version _ _ | .tagHandle _ _ | .documentStart => do
    directives steps false []
    match ← peek with
    | .documentStart => do
      skip
      let root ← match ← peek with
        | .version _ _ | .tagHandle _ _ | .documentStart | .documentEnd | .streamEnd =>
          pure Node.empty
        | _ => node true false steps
      finish root
    | _ => refuse
  | _ => do finish (← node true false steps)
where
  finish (root : Node) : Build (Option Node) := do
    skipEnds steps
    match ← peek with
    | .streamEnd => pure (some root)
    | _ => refuse

def defaultHandles : List (List Char × Bytes) :=
  [(['!'], Scan.bareTag), (['!', '!'], Text.Utf8.encode "tag:yaml.org,2002:")]

/-- Every call takes a token, or is followed by one that does. -/
def ofTokens (tokens : List Token) : Option Document :=
  (build (4 * tokens.length + 8) ⟨tokens, defaultHandles, [], 0, []⟩).map fun (root, s) =>
    ⟨root, s.anchored⟩

def ofText (text : String) : Option Document := (Token.ofText text).bind ofTokens

end Document
end ClassScaffold.Yaml
