import ClassScaffold.Entity
/-!
The web controller of a class. An update is written as look up, then save; copying the fields is left
to the generated project.
-/
namespace ClassScaffold.Layer.Controller
open Piece (named)

def header : Template := [
  "package ", named "base_package", ".controller;\n\n",
  "import ", named "base_package", ".model.", named "entity", ";\n",
  "import ", named "base_package", ".service.", named "service", ";\n",
  "import org.springframework.beans.factory.annotation.Autowired;\n",
  "import org.springframework.http.ResponseEntity;\n",
  "import org.springframework.web.bind.annotation.*;\n",
  named "key_import", "\n",
  "import java.util.List;\n\n"]

def opening : Template := [
  "@RestController\n",
  "@RequestMapping(\"/api/", named "group", "\")\n",
  "public class ", named "controller", " \x7b\n\n",
  "    @Autowired\n",
  "    private ", named "service", " service;\n\n"]

def getAll : Template := [
  "    @GetMapping\n",
  "    public List<", named "entity", "> getAll", named "type_name", "s() \x7b\n",
  "        return service.findAll();\n",
  "    \x7d\n\n"]

def getById : Template := [
  "    @GetMapping(\"/\x7bid\x7d\")\n",
  "    public ResponseEntity<", named "entity", "> get", named "type_name", "ById(@PathVariable ",
    named "key_type", " id) \x7b\n",
  "        return service.findById(id)\n",
  "                .map(ResponseEntity::ok)\n",
  "                .orElse(ResponseEntity.notFound().build());\n",
  "    \x7d\n\n"]

def create : Template := [
  "    @PostMapping\n",
  "    public ", named "entity", " create", named "type_name", "(@RequestBody ", named "entity",
    " ", named "variable", ") \x7b\n",
  "        return service.save(", named "variable", ");\n",
  "    \x7d\n\n"]

def update : Template := [
  "    @PutMapping(\"/\x7bid\x7d\")\n",
  "    public ResponseEntity<", named "entity", "> update", named "type_name", "(@PathVariable ",
    named "key_type", " id, @RequestBody ", named "entity", " ", named "variable", ") \x7b\n",
  "        return service.findById(id)\n",
  "                .map(existing", named "type_name", " -> \x7b\n",
  "                    // TODO: copy fields from ", named "variable", " onto existing",
    named "type_name", "\n",
  "                    return ResponseEntity.ok(service.save(existing", named "type_name", "));\n",
  "                \x7d)\n",
  "                .orElse(ResponseEntity.notFound().build());\n",
  "    \x7d\n\n"]

def deleteById : Template := [
  "    @DeleteMapping(\"/\x7bid\x7d\")\n",
  "    public ResponseEntity<?> delete", named "type_name", "(@PathVariable ", named "key_type",
    " id) \x7b\n",
  "        return service.findById(id)\n",
  "                .map(", named "variable", " -> \x7b\n",
  "                    service.deleteById(id);\n",
  "                    return ResponseEntity.ok().build();\n",
  "                \x7d)\n",
  "                .orElse(ResponseEntity.notFound().build());\n",
  "    \x7d\n",
  "\x7d\n"]

def template : Template :=
  header ++ opening ++ getAll ++ getById ++ create ++ update ++ deleteById

def text (e : Entity) : String := template.fill e.bindings

end ClassScaffold.Layer.Controller
