import ClassScaffold.Template
/-!
The build descriptor of a project. All that comes from a request is escaped before it is put in.
-/
namespace ClassScaffold.Project.Pom
open Piece (named)

def opening : Template := [
  "<?xml version=\"1.0\" encoding=\"UTF-8\"?>\n",
  "<project xmlns=\"http://maven.apache.org/POM/4.0.0\" ",
  "xmlns:xsi=\"http://www.w3.org/2001/XMLSchema-instance\"\n",
  "         xsi:schemaLocation=\"http://maven.apache.org/POM/4.0.0 ",
  "https://maven.apache.org/xsd/maven-4.0.0.xsd\">\n",
  "    <modelVersion>4.0.0</modelVersion>\n\n",
  "    <parent>\n",
  "        <groupId>org.springframework.boot</groupId>\n",
  "        <artifactId>spring-boot-starter-parent</artifactId>\n",
  "        <version>2.7.18</version>\n",
  "        <relativePath/>\n",
  "    </parent>\n\n"]

def coordinates : Template := [
  "    <groupId>", named "group_id", "</groupId>\n",
  "    <artifactId>", named "artifact_id", "</artifactId>\n",
  "    <version>0.0.1-SNAPSHOT</version>\n",
  "    <name>", named "project_name", "</name>\n",
  "    <description>Generated project ", named "project_name", "</description>\n\n"]

def dependencies : Template := [
  "    <properties>\n",
  "        <java.version>17</java.version>\n",
  "    </properties>\n\n",
  "    <dependencies>\n",
  "        <dependency>\n",
  "            <groupId>org.springframework.boot</groupId>\n",
  "            <artifactId>spring-boot-starter-web</artifactId>\n",
  "        </dependency>\n",
  "        <dependency>\n",
  "            <groupId>org.springframework.boot</groupId>\n",
  "            <artifactId>spring-boot-starter-data-jpa</artifactId>\n",
  "        </dependency>\n",
  "        <dependency>\n",
  "            <groupId>", named "driver_group", "</groupId>\n",
  "            <artifactId>", named "driver_artifact", "</artifactId>\n",
  "            <scope>runtime</scope>\n",
  "        </dependency>\n",
  "        <dependency>\n",
  "            <groupId>org.springframework.boot</groupId>\n",
  "            <artifactId>spring-boot-starter-test</artifactId>\n",
  "            <scope>test</scope>\n",
  "        </dependency>\n",
  "    </dependencies>\n\n"]

def closing : Template := [
  "    <build>\n",
  "        <plugins>\n",
  "            <plugin>\n",
  "                <groupId>org.springframework.boot</groupId>\n",
  "                <artifactId>spring-boot-maven-plugin</artifactId>\n",
  "            </plugin>\n",
  "        </plugins>\n",
  "    </build>\n",
  "</project>\n"]

def template : Template :=
  opening ++ coordinates ++ dependencies ++ closing

end ClassScaffold.Project.Pom
