import ClassScaffold.Text.Property.Case
/-!
Letter case of a whole text, by the full Unicode mappings: a character may have an image of several
characters, and a capital sigma at the end of a word becomes the final small sigma.
-/
namespace ClassScaffold.Text
open Property (CaseRun)

def within (spans : List (Nat × Nat)) (c : Char) : Bool :=
  spans.any fun (first, last) => first ≤ c.toNat && c.toNat ≤ last

def CaseRun.imageOf? (r : CaseRun) (n : Nat) : Option Nat :=
  if r.first ≤ n && n ≤ r.last && (n - r.first) % r.step == 0 then some (r.image + (n - r.first))
  else none

def image (runs : List CaseRun) (long : List (Nat × List Nat)) (c : Char) : List Char :=
  match long.lookup c.toNat with
  | some ns => ns.map Char.ofNat
  | none =>
    match runs.findSome? (CaseRun.imageOf? · c.toNat) with
    | some n => [Char.ofNat n]
    | none => [c]

def lower (c : Char) : List Char :=
  if c.toNat < 0x80 then [c.toLower] else image Property.lowerRuns Property.lowerLong c

def upper (c : Char) : List Char :=
  if c.toNat < 0x80 then [c.toUpper] else image Property.upperRuns Property.upperLong c

def meetsCased (s : List Char) : Bool :=
  match s.find? fun c => !within Property.caseIgnorable c with
  | some c => within Property.cased c
  | none => false

def lowerSigma (before after : List Char) : Char :=
  if meetsCased before && !meetsCased after then 'ς' else 'σ'

/-- Lower-cases what follows `before`, which is given backwards. -/
def lowerAfter (before : List Char) : List Char → List Char
  | [] => []
  | c :: rest =>
    (if c = 'Σ' then [lowerSigma before rest] else lower c) ++ lowerAfter (c :: before) rest

def lowerAll (s : List Char) : List Char := lowerAfter [] s

def upperAll (s : List Char) : List Char := s.flatMap upper

def capitalize : List Char → List Char
  | [] => []
  | c :: rest => upper c ++ rest

def lowered (s : String) : String := String.ofList (lowerAll s.toList)

def capitalized (s : String) : String := String.ofList (capitalize s.toList)

@[simp] theorem toListLowered (s : String) : (lowered s).toList = lowerAll s.toList := by
  simp [lowered]

@[simp] theorem toListCapitalized (s : String) : (capitalized s).toList = capitalize s.toList := by
  simp [capitalized]

end ClassScaffold.Text
