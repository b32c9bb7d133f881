import GraphBrowser.Graph.Basic
import GraphBrowser.Page.Basic

namespace GraphBrowser.Report

open Json (Value)

def unlines (lines : List String) : String :=
  String.join (lines.map fun line => line ++ "\n")

/-- Fill up a text with blanks to a number of characters. -/
def padded (width : Nat) (s : String) : String :=
  s ++ String.ofList (List.replicate (width - s.length) ' ')

def valueText : Value → String
  | .string s => s
  | v => v.text

/-- The width of the key column, in bytes of the longest key. -/
def keyWidth (keys : List String) : Nat := (keys.map String.utf8ByteSize).foldl max 0

def propertyLine (width : Nat) (key : String) (value : Value) : String :=
  "  " ++ padded width key ++ "  " ++ valueText value

def propertyLines (p : Properties) : List String :=
  if p.isEmpty then
    []
  else
    "" :: "Properties" :: p.entries.map fun (key, value) => propertyLine (keyWidth p.keys) key value

/-- The type of a dependency, then its other end by both names. -/
def relationLine (d : Dependency) (other : String) : String :=
  "  " ++ padded 12 d.type ++ " " ++ other ++ "  [" ++ shortName other ++ "]"

def relationTitle : Relation → String
  | .parent => "Parents"
  | .contained => "Children"
  | .incoming => "Incoming"
  | .outgoing => "Outgoing"

def otherEnd (r : Relation) (d : Dependency) : String :=
  match r with
  | .parent | .incoming => d.source
  | .contained | .outgoing => d.target

def relationLines (r : Relation) (ds : List Dependency) : List String :=
  if ds.isEmpty then
    []
  else
    "" :: (relationTitle r ++ " (" ++ toString ds.length ++ ")") ::
      ds.map fun d => relationLine d (otherEnd r d)

def sections : List Relation := [.parent, .contained, .incoming, .outgoing]

def nodeLines (n : Node) : List String :=
  (shortName n.name ++ "  (" ++ n.name ++ ")") ::
    (propertyLines n.properties ++ sections.flatMap fun r => relationLines r (n.related r))

def baseLine (level : Nat) (d : Dependency) : String :=
  String.ofList (List.replicate (2 * level) ' ') ++ d.source ++ " -> " ++ d.target ++ "  " ++ d.type

/-- The section of the bases down to a depth. Its heading counts the direct ones. -/
def baseLines (d : Dependency) (depth : Nat) : List String :=
  match d.flatten depth with
  | [] => []
  | bases =>
    "" :: ("Base Dependencies (" ++ toString d.bases.length ++ ")") ::
      bases.map fun (level, base) => baseLine level base

def edgeLines (d : Dependency) (depth : Nat) : List String :=
  d.title :: ("  Source  " ++ d.source) :: ("  Target  " ++ d.target) :: ("  Type    " ++ d.type) ::
    (propertyLines d.properties ++ baseLines d depth)

def linkText (n : UInt32) (active : Bool) : String :=
  if active then "[" ++ toString n.toNat ++ "]" else toString n.toNat

def pageLink (p : ResultPage α) (n : UInt32) : String := linkText n (p.isActive n)

def barText (links : List String) (total : UInt32) : String :=
  "First  «  " ++ " ".intercalate links ++ "  »  Last (" ++ toString total.toNat ++ ")"

def pagination (p : ResultPage α) : String := barText (p.window.map (pageLink p)) p.totalPages

/-- `pagination` as a build writes it. -/
def pagination? (b : Build) (p : ResultPage α) : Option String := do
  let links ← p.window.mapM fun n => (p.isActive? b n).map (linkText n)
  return barText links p.totalPages

def listingLines (p : ResultPage Node) (bar : String) : List String :=
  (if p.content.isEmpty then ["(no nodes)"] else []) ++ p.content.map (·.name) ++
    ["", toString p.numberOfElements.toNat ++ " of " ++ toString p.totalElements.toNat ++ " nodes",
      bar]

def node (n : Node) : String := unlines (nodeLines n)

def edge (d : Dependency) (depth : Nat) : String := unlines (edgeLines d depth)

def listing (p : ResultPage Node) : String := unlines (listingLines p (pagination p))

def listing? (b : Build) (p : ResultPage Node) : Option String := do
  return unlines (listingLines p (← pagination? b p))

end GraphBrowser.Report
