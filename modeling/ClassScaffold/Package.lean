import ClassScaffold.Text.Blank
import ClassScaffold.Text.Cut
/-!
Dotted package names. White space around a segment and empty segments do not count.
-/
namespace ClassScaffold.Package
open Text (trim splitAt)

def segments (package : String) : List String :=
  (((splitAt '.' package.toList).map trim).filter fun segment => !segment.isEmpty).map String.ofList

def ofSegments (segments : List String) : String := ".".intercalate segments

end ClassScaffold.Package
