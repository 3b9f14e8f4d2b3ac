namespace DirectoryClient

inductive OperationKind where
  | add
  | delete
  | modify
  | modifyDn
  | compare
  | search
deriving DecidableEq, Repr

namespace OperationKind

def all : List OperationKind :=
  [.add, .delete, .modify, .modifyDn, .compare, .search]

def name : OperationKind → String
  | .add => "add"
  | .delete => "delete"
  | .modify => "modify"
  | .modifyDn => "modify_dn"
  | .compare => "compare"
  | .search => "search"

def ofName? (text : String) : Option OperationKind :=
  all.find? fun kind => kind.name == text

def isStreaming (kind : OperationKind) : Bool :=
  kind = .search

end OperationKind

end DirectoryClient
