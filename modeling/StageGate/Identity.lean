/-! Identities of managed instances, written `NAMESPACE/NAME`. -/

namespace StageGate

structure Identity where
  namespaceName : String
  name : String
deriving DecidableEq, Repr

namespace Identity

/-- The namespace of an identity that gives only a name. -/
def defaultNamespace : String := "default"

def text (i : Identity) : String :=
  i.namespaceName ++ "/" ++ i.name

/-- A bare name, or a namespace and a name that are not empty with one slash between them. -/
def parse? (s : String) : Option Identity :=
  let cs := s.toList
  let front := cs.takeWhile (· != '/')
  match cs.dropWhile (· != '/') with
  | [] => some ⟨defaultNamespace, s⟩
  | _ :: back =>
    if front.isEmpty || back.isEmpty || back.contains '/' then none
    else some ⟨String.ofList front, String.ofList back⟩

end Identity
end StageGate
