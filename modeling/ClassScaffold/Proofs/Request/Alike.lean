import ClassScaffold.Proofs.Plan.Names
import ClassScaffold.Proofs.Text.Padded
/-! Requests that differ only in what does not count: white space around names and around the dots of the package,
empty package segments, and all fragments of a class name but the first. They are made of the same names. -/
namespace ClassScaffold
open Text (AllBlank)

theorem Text.trimmedBlank (s : String) : (trimmed s).isEmpty = true ↔ AllBlank s.toList := by
  rw [String.isEmpty_iff, ← String.toList_inj, toListTrimmed, String.toList_empty, trimNothing]

theorem nameOrSame {default : String} {a b : Option String} (same : Text.SameCore (a.getD "") (b.getD "")) :
    nameOr default a = nameOr default b := by
  rw [nameOr, nameOr, Text.sameCoreIff.1 same]

structure ClassModel.Alike (c c' : ClassModel) : Prop where
  name : Text.SameCore (c.name.headD "") (c'.name.headD "")
  attributes : c.attributes = c'.attributes
  methods : c.methods = c'.methods

theorem ClassModel.canonicalSame {c c' : ClassModel} (alike : Alike c c') : c.canonicalName = c'.canonicalName :=
  Text.sameCoreIff.1 alike.name

namespace Request

structure Alike (r r' : Request) : Prop where
  project : Text.SameCore (r.projectName.getD "") (r'.projectName.getD "")
  package : Package.SameSegments (r.packageName.getD "") (r'.packageName.getD "")
  classes : List.Forall₂ ClassModel.Alike r.classes r'.classes

/-- The request leaves the package to the default. -/
def IsUnpackaged (r : Request) : Prop := AllBlank (r.packageName.getD "").toList

variable {r r' : Request}

theorem projectSame (alike : Alike r r') : r.project = r'.project := nameOrSame alike.project

theorem unpackaged (unpackaged : IsUnpackaged r) : r.package = defaultPackageName := by
  rw [package, nameOr, if_pos ((Text.trimmedBlank _).2 unpackaged)]

theorem packaged (packaged : ¬ IsUnpackaged r) : r.package = Text.trimmed (r.packageName.getD "") := by
  rw [package, nameOr, if_neg fun blank => packaged ((Text.trimmedBlank _).1 blank)]

/-- Dots alone are a package without segments, while nothing at all is the default one. -/
theorem segmentsSame (alike : Alike r r') (both : IsUnpackaged r ↔ IsUnpackaged r') :
    Package.segments r.package = Package.segments r'.package := by
  by_cases blank : IsUnpackaged r
  · rw [unpackaged blank, unpackaged (both.1 blank)]
  · rw [packaged blank, packaged fun h => blank (both.2 h), Package.segmentsTrimmed, Package.segmentsTrimmed]
    exact Package.sameSegmentsIff.1 alike.package

theorem canonicalSame {classes classes' : List ClassModel} (alike : List.Forall₂ ClassModel.Alike classes classes') :
    classes.map ClassModel.canonicalName = classes'.map ClassModel.canonicalName := by
  induction alike with
  | nil => rfl
  | cons head _ ih => rw [List.map_cons, List.map_cons, ClassModel.canonicalSame head, ih]

theorem namingsSame (alike : Alike r r') : Plan.namings r = Plan.namings r' := by
  rw [Plan.namings, Plan.namings, canonicalSame alike.classes]

theorem membersSame {classes classes' : List ClassModel} (alike : List.Forall₂ ClassModel.Alike classes classes')
    (namings : List Naming) (package : String) :
    (classes.zip namings).map (fun (c, n) => Entity.ofClass c n package) =
      (classes'.zip namings).map fun (c, n) => Entity.ofClass c n package := by
  induction alike generalizing namings with
  | nil => rfl
  | cons head _ ih =>
    cases namings with
    | nil => rfl
    | cons n rest =>
      rw [List.zip_cons_cons, List.zip_cons_cons, List.map_cons, List.map_cons, ih rest]
      simp only [Entity.ofClass, head.attributes, head.methods]

end Request
end ClassScaffold
