import ClassScaffold.Template
/-!
The entry point of a project and the test that starts it.
-/
namespace ClassScaffold.Project.Application
open Piece (named)

def template : Template := [
  "package ", named "package_name", ";\n\n",
  "import org.springframework.boot.SpringApplication;\n",
  "import org.springframework.boot.autoconfigure.SpringBootApplication;\n\n",
  "@SpringBootApplication\n",
  "public class ", named "entry_class", " \x7b\n\n",
  "    public static void main(String[] args) \x7b\n",
  "        SpringApplication.run(", named "entry_class", ".class, args);\n",
  "    \x7d\n",
  "\x7d\n"]

def testTemplate : Template := [
  "package ", named "package_name", ";\n\n",
  "import org.junit.jupiter.api.Test;\n",
  "import org.springframework.boot.test.context.SpringBootTest;\n\n",
  "@SpringBootTest\n",
  "class ", named "entry_class", "Tests \x7b\n\n",
  "    @Test\n",
  "    void contextLoads() \x7b\n",
  "    \x7d\n",
  "\x7d\n"]

end ClassScaffold.Project.Application
