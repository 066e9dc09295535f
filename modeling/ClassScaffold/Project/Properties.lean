import ClassScaffold.Template
/-!
Settings of a project: its name, its port and a connection to a local database, with a password to be
changed.
-/
namespace ClassScaffold.Project.Properties
open Piece (named)

def template : Template := [
  "spring.application.name=", named "artifact_id", "\n",
  "server.port=8080\n\n",
  "spring.datasource.url=", named "jdbc_url", "\n",
  "spring.datasource.username=", named "db_username", "\n",
  "spring.datasource.password=changeme\n\n",
  "spring.jpa.hibernate.ddl-auto=update\n",
  "spring.jpa.show-sql=true\n"]

end ClassScaffold.Project.Properties
