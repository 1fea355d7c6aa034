import StageGate.Files.Path
import StageGate.Text.Quoted

/-! File trees: what names stand for, how paths are followed, and how reading fails. -/

namespace StageGate.Files

/-- What may be done with a directory: its names can be listed, and what they stand for can be looked up. -/
structure Access where
  list : Bool
  search : Bool
deriving DecidableEq, Repr

namespace Access

def full : Access := ⟨true, true⟩

/-- What both allow. -/
def both (a b : Access) : Access :=
  ⟨a.list && b.list, a.search && b.search⟩

end Access

inductive Entry where
  /-- A denied file cannot be read. -/
  | file (bytes : List UInt8) (denied : Bool)
  | directory (entries : List (String × Entry)) (access : Access)
  | link (target : String)
  /-- A name that is no file, directory, or link. -/
  | special
deriving Inhabited

inductive Failure where
  | noSuchFile
  | denied
  | notDirectory
  | isDirectory
  | tooManyLinks
  | nameTooLong
deriving DecidableEq, Repr

namespace Failure

def code : Failure → Nat
  | .noSuchFile => 2
  | .denied => 13
  | .notDirectory => 20
  | .isDirectory => 21
  | .tooManyLinks => 40
  | .nameTooLong => 36

def text : Failure → String
  | .noSuchFile => "No such file or directory"
  | .denied => "Permission denied"
  | .notDirectory => "Not a directory"
  | .isDirectory => "Is a directory"
  | .tooManyLinks => "Too many levels of symbolic links"
  | .nameTooLong => "File name too long"

/-- The word for the failure in reports. -/
def title : Failure → String
  | .noSuchFile => "FileNotFoundError"
  | .denied => "PermissionError"
  | .notDirectory => "NotADirectoryError"
  | .isDirectory => "IsADirectoryError"
  | .tooManyLinks | .nameTooLong => "OSError"

/-- A test of what a path stands for takes these failures for a no, and fails with any other. -/
def isNo : Failure → Bool
  | .noSuchFile | .notDirectory | .tooManyLinks => true
  | .denied | .isDirectory | .nameTooLong => false

end Failure

/-- A failed access and the path it was made with. -/
structure AccessFault where
  failure : Failure
  path : String
deriving DecidableEq, Repr

def AccessFault.message (f : AccessFault) : String :=
  "[Errno " ++ toString f.failure.code ++ "] " ++ f.failure.text ++ ": " ++ Text.quoted f.path

namespace Entry

def emptyDirectory : Entry := .directory [] .full

/-- The entry under a name, which only a directory has. -/
def child? (name : String) : Entry → Option Entry
  | .directory entries _ => entries.lookup name
  | _ => none

/-- The entry that names lead to from here, links not followed. -/
def descend? : List String → Entry → Option Entry
  | [], e => some e
  | n :: ns, e => (e.child? n).bind (descend? ns)

def setEntry (name : String) (e : Entry) : List (String × Entry) → List (String × Entry)
  | [] => [(name, e)]
  | (n, old) :: rest => if n == name then (n, e) :: rest else (n, old) :: setEntry name e rest

/-- A new entry over an old one; a directory keeps what it holds. -/
def onto : Entry → Option Entry → Entry
  | .directory new access, some (.directory old given) => .directory (old ++ new) (access.both given)
  | new, _ => new

/-- Puts an entry at the end of a way, making the directories on it. -/
def put (new : Entry) : List String → Option Entry → Entry
  | [], old => new.onto old
  | n :: ns, some (.directory entries access) =>
    .directory (setEntry n (put new ns (entries.lookup n)) entries) access
  | n :: ns, _ => .directory [(n, put new ns none)] .full

def remove : Entry → List String → Entry
  | .directory entries access, [n] => .directory (entries.filter (·.1 != n)) access
  | .directory entries access, n :: ns =>
    match entries.lookup n with
    | some e => .directory (setEntry n (remove e ns) entries) access
    | none => .directory entries access
  | e, _ => e
termination_by structural _ ns => ns

mutual

/-- The length of all link targets, which bounds the parts that links can add to a path. -/
def linkSize : Entry → Nat
  | .link target => target.length
  | .directory entries _ => linkSizeOf entries
  | .file .. | .special => 0

def linkSizeOf : List (String × Entry) → Nat
  | [] => 0
  | (_, e) :: rest => linkSize e + linkSizeOf rest

end
end Entry

/-- A file tree and the names that lead to the working directory. -/
structure Tree where
  root : Entry
  here : List String

namespace Tree

/-- A tree that holds nothing but its working directory. -/
def empty (here : List String) : Tree :=
  ⟨Entry.emptyDirectory.put here (some .emptyDirectory), here⟩

/-- The place where a path starts. -/
def base (t : Tree) : Anchor → List String
  | .relative => t.here
  | .root | .doubleRoot => []

/-- How many links a path may lead through. -/
def linkLimit : Nat := 40

/-- The most bytes that a name may have. -/
def nameLimit : Nat := 255

/-- The most bytes that the text of a path may have. -/
def pathLimit : Nat := 4095

/-- Where a step from a directory leads. -/
inductive Move where
  | stay
  | up
  | down
  /-- To where a link points. -/
  | along (target : String)

/-- The step from a directory that a part of a path takes. -/
def move (entries : List (String × Entry)) (access : Access) (part : String) : Except Failure Move :=
  if !access.search then .error .denied
  else if part == "." then .ok .stay
  else if part == ".." then .ok .up
  else if part.utf8ByteSize > nameLimit then .error .nameTooLong
  else
    match entries.lookup part with
    | none => .error .noSuchFile
    | some (.link target) => .ok (.along target)
    | some _ => .ok .down

/-- Follows the steps of a path from a place, given by its names innermost first. -/
def follow (root : Entry) : Nat → Nat → List String → List String → Except Failure Entry
  | 0, _, _, _ => .error .tooManyLinks
  | fuel + 1, links, place, parts =>
    match root.descend? place.reverse with
    | none => .error .noSuchFile
    | some here =>
      match parts, here with
      | [], _ => .ok here
      | part :: rest, .directory entries access =>
        match move entries access part with
        | .error f => .error f
        | .ok .stay => follow root fuel links place rest
        | .ok .up => follow root fuel links (place.drop 1) rest
        | .ok .down => follow root fuel links (part :: place) rest
        | .ok (.along target) =>
          if links == 0 then .error .tooManyLinks
          else if target == "" then .error .noSuchFile
          else
            let place := if Path.anchorOf target == .relative then place else []
            follow root fuel (links - 1) place (Path.stepsOf target ++ rest)
      | _ :: _, _ => .error .notDirectory

/-- What a path text stands for. -/
def find (t : Tree) (path : String) : Except Failure Entry :=
  if path == "" then .error .noSuchFile
  else if path.utf8ByteSize > pathLimit then .error .nameTooLong
  else
    let p := Path.ofText path
    let steps := p.parts.length + (linkLimit + 1) * (t.root.linkSize + 1) + 2
    match follow t.root steps linkLimit (t.base p.anchor).reverse p.parts with
    | .ok (.directory entries access) => .ok (.directory entries access)
    | .ok e => if Path.endsInDirectory path then .error .notDirectory else .ok e
    | .error f => .error f

/-- What a test of a path comes to: what the path stands for, or nothing. -/
def test (t : Tree) (path : String) : Except AccessFault (Option Entry) :=
  match t.find path with
  | .ok e => .ok (some e)
  | .error f => if f.isNo then .ok none else .error ⟨f, path⟩

/-- Lists the directory at a path. -/
def list (t : Tree) (path : String) : Except AccessFault (List (String × Entry)) :=
  match t.find path with
  | .ok (.directory entries access) => if access.list then .ok entries else .error ⟨.denied, path⟩
  | .ok _ => .error ⟨.notDirectory, path⟩
  | .error f => .error ⟨f, path⟩

/-- The bytes of the file at a path. -/
def read (t : Tree) (path : String) : Except AccessFault (List UInt8) :=
  match t.find path with
  | .ok (.file bytes denied) => if denied then .error ⟨.denied, path⟩ else .ok bytes
  | .ok (.directory ..) => .error ⟨.isDirectory, path⟩
  | .ok _ => .error ⟨.noSuchFile, path⟩
  | .error f => .error ⟨f, path⟩

/-- Writes an entry at a path; directories on the way are made even where `..` leaves them again. -/
def write (t : Tree) (path : String) (new : Entry) : Tree :=
  let p := Path.ofText path
  let enter := fun (place, root) part =>
    if part == ".." then (place.dropLast, root)
    else (place ++ [part], Entry.emptyDirectory.put (place ++ [part]) (some root))
  let (place, root) := p.parts.dropLast.foldl enter (t.base p.anchor, t.root)
  { t with root := new.put (place ++ p.parts.drop (p.parts.length - 1)) (some root) }

def remove (t : Tree) (path : String) : Tree :=
  let p := Path.ofText path
  { t with root := t.root.remove (t.base p.anchor ++ p.parts) }

end Tree
end StageGate.Files
