/-!
# Scopes

A filter is declared for every action, for the actions of a controller, or for one action. Of two
filters with the same order, the one declared more broadly runs further out.
-/

namespace RequestPipeline

/-- How broadly a filter is declared. -/
inductive Scope where
  | global
  | controller
  | action
  deriving DecidableEq, Repr

namespace Scope

/-- Every scope, the broadest first. -/
def all : List Scope := [.global, .controller, .action]

/-- The place of a scope from broad to narrow. -/
def rank : Scope → Nat
  | .global => 0
  | .controller => 1
  | .action => 2

/-- The name of a scope. -/
def word : Scope → String
  | .global => "global"
  | .controller => "controller"
  | .action => "action"

/-- The scope with a name. -/
def ofWord? (w : String) : Option Scope := all.find? fun s => s.word == w

/-- How two scopes compare from broad to narrow. -/
def compare (s t : Scope) : Ordering := Ord.compare s.rank t.rank

end Scope

end RequestPipeline
