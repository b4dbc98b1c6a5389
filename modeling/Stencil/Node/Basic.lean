import Stencil.Token.Basic

/-!
# Nodes

A template as a tree. After reading, every tag and text is a child of the root and blocks are empty;
visitors may build deeper trees.
-/

namespace Stencil

/-- A node of a template. -/
inductive Node where
  | root (children : List Node)
  | text (text : String) (line : Nat)
  | echo (expression : String) (line : Nat)
  | rawEcho (expression : String) (line : Nat)
  | comment (text : String) (line : Nat)
  | directive (name arguments : String) (line : Nat)
  | block (name : String) (line : Nat) (children : List Node)
deriving Inhabited

namespace Node

/-- The short name of the kind. -/
def kind : Node → String
  | root _ => "root"
  | text .. => "text"
  | echo .. => "var"
  | rawEcho .. => "raw"
  | comment .. => "comment"
  | directive .. => "directive"
  | block .. => "block"

/-- The line on which the node begins. The root begins on the first. -/
def line : Node → Nat
  | root _ => 1
  | text _ line | echo _ line | rawEcho _ line | comment _ line | directive _ _ line
  | block _ line _ => line

/-- The nodes below. -/
def children : Node → List Node
  | root children | block _ _ children => children
  | _ => []

/-- The node with other nodes below, where it can have any. -/
def withChildren (children : List Node) : Node → Node
  | root _ => root children
  | block name line _ => block name line children
  | node => node

mutual
/-- The number of nodes of the tree. -/
def count : Node → Nat
  | root children | block _ _ children => 1 + countAll children
  | _ => 1

/-- The number of nodes of a row of trees. -/
def countAll : List Node → Nat
  | [] => 0
  | node :: rest => count node + countAll rest
end

end Node

end Stencil
