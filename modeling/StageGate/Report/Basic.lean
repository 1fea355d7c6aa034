/-! Reports: the tables, panels, and lines of text that a console is given. -/

namespace StageGate

inductive Justify where
  | left
  | center
  | right
deriving DecidableEq, Repr

def Justify.text : Justify → String
  | .left => "left"
  | .center => "center"
  | .right => "right"

structure Column where
  header : String
  style : String
  justify : Justify
deriving DecidableEq, Repr

structure Table where
  title : String
  headerStyle : String
  hasLines : Bool
  columns : List Column
  rows : List (List String)
deriving DecidableEq, Repr

structure Panel where
  body : String
  title : Option String
  border : String
  expand : Bool
deriving DecidableEq, Repr

inductive Printed where
  | table (t : Table)
  | panel (p : Panel)
  | text (s : String)
deriving DecidableEq, Repr

namespace Markup

/-- Text in a style. -/
def styled (style text : String) : String :=
  "[" ++ style ++ "]" ++ text ++ "[/" ++ style ++ "]"

end Markup
end StageGate
