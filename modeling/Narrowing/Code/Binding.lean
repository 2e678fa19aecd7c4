import Narrowing.Code.Node
/-!
# Bindings of a name

What the analyses of dispatch bodies look for: a name stored to or deleted, and
a parameter of that name, anywhere in a tree, and whether a scope is opened. Scopes are not told apart here,
and a definition, an import or a handler that binds the name is not counted.
-/

namespace Narrowing.Code

/-- Whether a node stores to or deletes a name. -/
def Kind.assigns (var : String) : Kind → Bool
  | .name id ctx => id = var && ctx ≠ .load
  | _ => false

/-- Whether a node stores to or deletes a name, or is a parameter of that name. -/
def Kind.bindsVar (var : String) : Kind → Bool
  | .arg id => id = var
  | k => k.assigns var

/-- Whether a node opens a scope of its own. -/
def Kind.opensScope : Kind → Bool
  | .functionDef .. | .classDef _ | .lambda | .listComp | .setComp | .dictComp | .generatorExp =>
    true
  | _ => false

/-- Whether a node makes something that keeps its code and the frames around it: a function, also
one that gives the items of a comprehension one by one, or a class. -/
def Kind.keepsCode : Kind → Bool
  | .functionDef .. | .classDef _ | .lambda | .generatorExp => true
  | _ => false

namespace Node

/-- **Whether a name is stored to, deleted or a parameter** somewhere in the
tree. -/
def bindsVar (var : String) (n : Node) : Bool := n.anyKind (Kind.bindsVar var)

/-- Whether a name is stored to or deleted somewhere in the tree. -/
def assigns (var : String) (n : Node) : Bool := n.anyKind (Kind.assigns var)

/-- **Whether the code of a function or a comprehension keeps no code**, so that it makes no function
that could see its names. -/
def isSelfContained : Node → Bool
  | .functionDef _ _ _ body _ _ => !anyKindList Kind.keepsCode body
  | .lambda _ body => !body.anyKind Kind.keepsCode
  | n => !n.anyKind Kind.keepsCode

end Node

/-- **Whether some statement of a body stores to or deletes a name.** -/
def rebinds (var : String) (body : List Node) : Bool := Node.anyKindList (Kind.assigns var) body

end Narrowing.Code
