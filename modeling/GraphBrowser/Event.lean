namespace GraphBrowser

inductive Level where
  | debug
  | warn
  deriving DecidableEq, Repr

inductive Event where
  | get
  | transportFailure
  | requestRejected
  | strayDependency
  | inconsistentPage
  | supersededResponse
  | loadFailed
  | pageZero
  deriving DecidableEq, Repr

namespace Event

def level : Event → Level
  | get => .debug
  | supersededResponse => .debug
  | _ => .warn

def text : Event → String
  | get => "GET"
  | transportFailure => "transport failure"
  | requestRejected => "request rejected"
  | strayDependency => "dependency does not belong to node"
  | inconsistentPage => "inconsistent page metadata"
  | supersededResponse => "discarding superseded page response"
  | loadFailed => "failed to load nodes"
  | pageZero => "page numbers start at 1"

end Event

end GraphBrowser
