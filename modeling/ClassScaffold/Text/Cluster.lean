import ClassScaffold.Text.Casing
import ClassScaffold.Text.Property.Cluster
/-!
User-perceived characters: the extended grapheme clusters of Unicode text segmentation. A text is
walked once; the seam before each character is decided from that character and from what is remembered
of the ones before it.
-/
namespace ClassScaffold.Text

inductive SeamKind
  | carriageReturn | lineFeed | control
  | extend | joiner | spacing | prepended | flag | pictographic
  | leading | vowel | trailing | openSyllable | closedSyllable
  | other
  deriving DecidableEq, Repr

def seamKind (c : Char) : SeamKind :=
  let n := c.toNat
  let syllable := 0xAC00 ≤ n && n ≤ 0xD7A3
  if n == 0x0D then .carriageReturn
  else if n == 0x0A then .lineFeed
  else if 0x20 ≤ n && n ≤ 0x7E then .other
  else if within Property.control c then .control
  else if n == 0x200D then .joiner
  else if (0x1F3FB ≤ n && n ≤ 0x1F3FF) || within Property.graphemeExtend c then .extend
  else if within Property.spacingMark c then .spacing
  else if within Property.prepended c then .prepended
  else if 0x1F1E6 ≤ n && n ≤ 0x1F1FF then .flag
  else if (0x1100 ≤ n && n ≤ 0x115F) || (0xA960 ≤ n && n ≤ 0xA97C) then .leading
  else if (0x1160 ≤ n && n ≤ 0x11A7) || (0xD7B0 ≤ n && n ≤ 0xD7C6) || n == 0x16D63
      || (0x16D67 ≤ n && n ≤ 0x16D6A) then .vowel
  else if (0x11A8 ≤ n && n ≤ 0x11FF) || (0xD7CB ≤ n && n ≤ 0xD7FB) then .trailing
  else if syllable && (n - 0xAC00) % 28 == 0 then .openSyllable
  else if syllable then .closedSyllable
  else if within Property.pictographic c then .pictographic
  else .other

inductive Chain
  | idle | open | linked
  deriving DecidableEq, Repr

structure Seam where
  last : SeamKind
  oddFlags : Bool
  picture : Chain
  conjunct : Chain
  deriving DecidableEq, Repr

def pictureAfter (chain : Chain) : SeamKind → Chain
  | .pictographic => .open
  | .extend => if chain = .open then .open else .idle
  | .joiner => if chain = .open then .linked else .idle
  | _ => .idle

def conjunctAfter (chain : Chain) (kind : SeamKind) (c : Char) : Chain :=
  if within Property.conjunctConsonant c then .open
  else if chain = .idle then .idle
  else if within Property.conjunctLinker c then .linked
  else if (kind = .extend || kind = .joiner) && c.toNat != 0x200C then chain
  else .idle

def Seam.before (c : Char) : Seam :=
  let kind := seamKind c
  ⟨kind, kind = .flag, pictureAfter .idle kind, conjunctAfter .idle kind c⟩

def Seam.step (seam : Seam) (c : Char) : Seam :=
  let kind := seamKind c
  ⟨kind, kind = .flag && !seam.oddFlags, pictureAfter seam.picture kind,
    conjunctAfter seam.conjunct kind c⟩

def Seam.joins (seam : Seam) (c : Char) : Bool :=
  match seam.last, seamKind c with
  | .carriageReturn, .lineFeed => true
  | .carriageReturn, _ | .lineFeed, _ | .control, _ => false
  | _, .carriageReturn | _, .lineFeed | _, .control => false
  | _, .extend | _, .joiner | _, .spacing => true
  | .prepended, _ => true
  | .leading, .leading | .leading, .vowel | .leading, .openSyllable | .leading, .closedSyllable => true
  | .openSyllable, .vowel | .openSyllable, .trailing | .vowel, .vowel | .vowel, .trailing => true
  | .closedSyllable, .trailing | .trailing, .trailing => true
  | .flag, .flag => seam.oddFlags
  | .joiner, .pictographic => seam.picture = .linked
  | _, _ => seam.conjunct = .linked && within Property.conjunctConsonant c

/-- The clusters of `s`, whose first character may still join the cluster `held` (kept backwards). -/
def clustersFrom (seam : Seam) (held : List Char) : List Char → List (List Char)
  | [] => [held.reverse]
  | c :: rest =>
    if seam.joins c then clustersFrom (seam.step c) (c :: held) rest
    else held.reverse :: clustersFrom (.before c) [c] rest

def clusters : List Char → List (List Char)
  | [] => []
  | c :: rest => clustersFrom (.before c) [c] rest

theorem flattenClustersFrom (seam held s) :
    (clustersFrom seam held s).flatten = held.reverse ++ s := by
  induction s generalizing seam held with
  | nil => simp [clustersFrom]
  | cons c rest ih => simp only [clustersFrom]; split <;> simp [ih]

theorem flattenClusters (s : List Char) : (clusters s).flatten = s := by
  cases s <;> simp [clusters, flattenClustersFrom]

end ClassScaffold.Text
