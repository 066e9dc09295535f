import ClassScaffold.Layer.Controller
import ClassScaffold.Layer.Model
import ClassScaffold.Layer.Repository
import ClassScaffold.Layer.Service
/-!
The text of each layer of a class.
-/
namespace ClassScaffold.Layer

def text (l : Layer) (e : Entity) : String :=
  match l with
  | .model => Model.text e
  | .repository => Repository.text e
  | .service => Service.text e
  | .controller => Controller.text e

end ClassScaffold.Layer
