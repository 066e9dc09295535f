/-!
The four layers that every class is generated into. Each has a sub-package and a type of its own, and
the file of a type is named after it.
-/
namespace ClassScaffold

inductive Layer
  | model
  | repository
  | service
  | controller
  deriving DecidableEq, Repr

namespace Layer

def all : List Layer := [model, repository, service, controller]

def directory : Layer → String
  | model => "model"
  | repository => "repository"
  | service => "service"
  | controller => "controller"

def typeStem : Layer → String
  | model => "Model"
  | repository => "Repository"
  | service => "Service"
  | controller => "Controller"

def typeName (l : Layer) (className : String) : String := l.typeStem ++ className

def fileName (l : Layer) (className : String) : String := l.typeName className ++ ".java"

end Layer
end ClassScaffold
