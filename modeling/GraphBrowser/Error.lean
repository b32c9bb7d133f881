namespace GraphBrowser

inductive Error where
  | remoteFetch (text : String)
  | nodeNotFound (name : String) (text : String)
  | edgeNotFound (source target : String) (text : String)
  | invalidArgument (text : String)
  | serialization (text : String)
  | invalidConfig (text : String)
  deriving DecidableEq, Repr

namespace Error

def message : Error → String
  | remoteFetch text => text
  | nodeNotFound _ text => text
  | edgeNotFound _ _ text => text
  | invalidArgument text => text
  | serialization text => text
  | invalidConfig text => text

def display : Error → String
  | remoteFetch text => "Remote fetch failed: " ++ text
  | nodeNotFound name text => "Node not found: " ++ name ++ ": " ++ text
  | edgeNotFound source target text =>
    "Edge not found: " ++ source ++ " -> " ++ target ++ ": " ++ text
  | invalidArgument text => "Invalid argument: " ++ text
  | serialization text => "Serialization error: " ++ text
  | invalidConfig text => "Invalid configuration: " ++ text

end Error

end GraphBrowser
