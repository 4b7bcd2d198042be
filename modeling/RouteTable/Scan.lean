import RouteTable.Annotation
import RouteTable.Config
import RouteTable.RouteSet.Declare

/-!
# From annotations to declarations

Model of `Scanner` (`scanner`). An annotation belongs to the module whose namespace its class starts
with, the longest if there are several. Its route is mounted below the path of the module. An
annotation that belongs to no module is passed over.

* `moduleOf?` (`module_for`) is the module of a class.
* `declarationsOf` (`definitions`) turns annotations into declarations, or says which method is
  wrong.
* `scan` (`process`) declares them.
-/

namespace RouteTable

/-- Why annotations are refused. -/
inductive ScanError where
  | invalidMethod (handler : Handler) (cause : MethodError)
  | refused (pattern : String) (cause : RouteError)
  deriving DecidableEq, Repr

/-- The wording of an error, the general statement first. -/
def ScanError.messages : ScanError → List String
  | .invalidMethod handler cause => s!"Invalid route on {handler}" :: cause.messages
  | .refused pattern cause => [s!"Failed to register route \"{pattern}\"", cause.message]

/-- Whether the class belongs to the namespace of the module. -/
def Module.owns (m : Module) (className : String) : Bool :=
  m.namespaceName.toList.isPrefixOf className.toList

/-- The later of two modules, unless the earlier has the longer namespace. -/
def Module.longer (best : Option Module) (m : Module) : Option Module :=
  match best with
  | none => some m
  | some b => if m.namespaceName.length < b.namespaceName.length then some b else some m

/-- The module that a class belongs to: the one with the longest namespace, of several the last. -/
def moduleOf? (modules : List Module) (className : String) : Option Module :=
  (modules.filter fun m => m.owns className).foldl Module.longer none

/-- The handler that an annotation names. -/
def Annotation.handler (a : Annotation) : Handler := ⟨a.className, a.methodName⟩

/-- The declaration of an annotation in a module. -/
def Annotation.declare (a : Annotation) (m : Module) : Except ScanError Declaration :=
  match a.methods.methods with
  | .error cause => .error (.invalidMethod a.handler cause)
  | .ok methods => .ok ⟨.ofList methods, m.mountPath ++ a.path, a.handler, a.name⟩

/-- The declarations of annotations, in order. -/
def declarationsOf (modules : List Module) : List Annotation → Except ScanError (List Declaration)
  | [] => .ok []
  | a :: as =>
    match moduleOf? modules a.className with
    | none => declarationsOf modules as
    | some m => do
      let d ← a.declare m
      return d :: (← declarationsOf modules as)

/-- Declares routes in order; the first that is refused is reported with its pattern. -/
def declareScanned : List Declaration → ExceptT ScanError (StateM RouteSet) Unit
  | [] => pure ()
  | d :: ds => do
    ExceptT.adapt (ScanError.refused d.pattern) (declare d)
    declareScanned ds

/-- Declares the routes of annotations. Nothing is declared if a method is wrong. -/
def scan (modules : List Module) (annotations : List Annotation) :
    ExceptT ScanError (StateM RouteSet) Unit :=
  match declarationsOf modules annotations with
  | .error e => throw e
  | .ok ds => declareScanned ds

end RouteTable
