/-! # Events of a journal

What is worth noting on the way from a file to the properties of a component. Events have a level, and
a journal keeps those that reach its threshold.
-/

namespace PropTyper.Journal

inductive Level where
  | debug
  | info
  | warning
  | error
  | critical
deriving DecidableEq, Repr, Inhabited

def Level.name : Level → String
  | debug => "debug"
  | info => "info"
  | warning => "warning"
  | error => "error"
  | critical => "critical"

def Level.rank : Level → Nat
  | debug => 10
  | info => 20
  | warning => 30
  | error => 40
  | critical => 50

def Level.all : List Level :=
  [debug, info, warning, error, critical]

inductive Event where
  | parseErrors (file : String) (count : Nat)
  | componentLocated (name kind : String) (start : Nat)
  | declarationLocated (name label : String) (found : Bool)
  | usageInferred (names : List String)
  | typeTooDeep (name : String) (depth : Int)
  | completionDone (resolved : List String)
  | propertiesInferred (declared used defaults merged : Nat)
deriving DecidableEq, Repr, Inhabited

def Event.level : Event → Level
  | parseErrors .. => .warning
  | _ => .debug

end PropTyper.Journal
