import ClassScaffold.Entity
/-!
The repository of a class: an empty interface over the entity type and its key type. The operations
are inherited.
-/
namespace ClassScaffold.Layer.Repository
open Piece (named)

def template : Template := [
  "package ", named "base_package", ".repository;\n\n",
  "import ", named "base_package", ".model.", named "entity", ";\n",
  "import org.springframework.data.jpa.repository.JpaRepository;\n",
  "import org.springframework.stereotype.Repository;\n",
  named "key_import", "\n",
  "@Repository\n",
  "public interface ", named "repository", " extends JpaRepository<", named "entity", ", ",
    named "key_type", "> \x7b\n",
  "\x7d\n"]

def text (e : Entity) : String := template.fill e.bindings

end ClassScaffold.Layer.Repository
