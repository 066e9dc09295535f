import ClassScaffold.Entity
/-!
The service of a class: four operations that hand over to the repository, whatever members the class
has.
-/
namespace ClassScaffold.Layer.Service
open Piece (named)

def header : Template := [
  "package ", named "base_package", ".service;\n\n",
  "import ", named "base_package", ".model.", named "entity", ";\n",
  "import ", named "base_package", ".repository.", named "repository", ";\n",
  "import org.springframework.beans.factory.annotation.Autowired;\n",
  "import org.springframework.stereotype.Service;\n",
  named "key_import", "\n",
  "import java.util.List;\n",
  "import java.util.Optional;\n\n"]

def opening : Template := [
  "@Service\n",
  "public class ", named "service", " \x7b\n\n",
  "    @Autowired\n",
  "    private ", named "repository", " repository;\n\n"]

def operations : Template := [
  "    public List<", named "entity", "> findAll() \x7b\n",
  "        return repository.findAll();\n",
  "    \x7d\n\n",
  "    public Optional<", named "entity", "> findById(", named "key_type", " id) \x7b\n",
  "        return repository.findById(id);\n",
  "    \x7d\n\n",
  "    public ", named "entity", " save(", named "entity", " ", named "variable", ") \x7b\n",
  "        return repository.save(", named "variable", ");\n",
  "    \x7d\n\n",
  "    public void deleteById(", named "key_type", " id) \x7b\n",
  "        repository.deleteById(id);\n",
  "    \x7d\n",
  "\x7d\n"]

def template : Template :=
  header ++ opening ++ operations

def text (e : Entity) : String := template.fill e.bindings

end ClassScaffold.Layer.Service
