import GraphBrowser.Client.Basic
import GraphBrowser.Report
import GraphBrowser.Text.Basic

namespace GraphBrowser.CommandLine

/-- What is asked for. Pages count from 1 here. -/
inductive Command where
  | info
  | node (name : String)
  | edge (source target : String) (depth : Nat)
  | nodes (query : String) (page size : UInt32)
  deriving DecidableEq, Repr

structure Options where
  apiUrl : Option String := none
  timeoutSecs : Option Nat := none
  logLevel : Option String := none
  deriving DecidableEq, Repr

structure Invocation where
  options : Options
  command : Command
  deriving DecidableEq, Repr

inductive Refusal where
  | help
  | usage
  deriving DecidableEq, Repr

inductive Setting where
  | apiUrl
  | timeoutSecs
  | logLevel
  | depth
  | query
  | page
  | size
  deriving DecidableEq, Repr

inductive Draft where
  | unnamed
  | help (topic : Option String)
  | info
  | node (name : Option String)
  | edge (source target : Option String) (depth : Option Nat)
  | nodes (query : Option String) (page size : Option UInt32)
  deriving DecidableEq, Repr

/-- How far the arguments have been read: the options and the command so far, the option that waits
for its value, and whether all further arguments are plain words. -/
structure Reading where
  options : Options := {}
  draft : Draft := .unnamed
  pending : Option Setting := none
  onlyWords : Bool := false
  deriving DecidableEq, Repr

/-- An argument as it looks: an option by name or by letter, perhaps with a value attached, the mark
after which only plain words come, or a plain word. -/
inductive Word where
  | long (name : String) (value : Option String)
  | short (letter : Char) (value : Option String)
  | mark
  | plain (s : String)
  deriving DecidableEq, Repr

/-- A single hyphen is a plain word. A value is attached to a name by an equals sign; to a letter
also without one. -/
def Word.of (s : String) : Word :=
  match s.toList with
  | ['-', '-'] => .mark
  | '-' :: '-' :: cs =>
    .long (String.ofList (Text.cut '=' cs).1)
      (if cs.contains '=' then some (String.ofList (Text.cut '=' cs).2) else none)
  | ['-', c] => .short c none
  | '-' :: c :: '=' :: cs => .short c (some (String.ofList cs))
  | '-' :: c :: cs => .short c (some (String.ofList cs))
  | _ => .plain s

/-- A natural number below a limit: digits, perhaps after a plus sign. -/
def number? (limit : Nat) (s : String) : Option Nat :=
  let digits := match s.toList with
    | '+' :: cs => cs
    | cs => cs
  if digits.isEmpty then none else (Text.ofDigits? 10 digits).filter (· < limit)

def word64? (s : String) : Option Nat := number? UInt64.size s

def positive32? (s : String) : Option UInt32 :=
  ((number? UInt32.size s).filter (0 < ·)).map UInt32.ofNat

def Draft.named? (d : Draft) (name : String) : Option Setting :=
  match d, name with
  | .unnamed, "api-url" => some .apiUrl
  | .unnamed, "timeout-secs" => some .timeoutSecs
  | .unnamed, "log-level" => some .logLevel
  | .edge _ _ _, "depth" => some .depth
  | .nodes _ _ _, "query" => some .query
  | .nodes _ _ _, "page" => some .page
  | .nodes _ _ _, "size" => some .size
  | _, _ => none

def Draft.lettered? (d : Draft) (letter : Char) : Option Setting :=
  match d, letter with
  | .nodes _ _ _, 'q' => some .query
  | _, _ => none

def fill (place : Option α) (x : α) : Option α :=
  match place with
  | none => some x
  | some _ => none

/-- Store the value of an option; `none` if it has one already or the value is bad. -/
def Reading.store? (r : Reading) (setting : Setting) (value : String) : Option Reading :=
  let r := { r with pending := none }
  match setting, r.draft with
  | .apiUrl, _ => do
    return { r with options.apiUrl := some (← fill r.options.apiUrl value) }
  | .timeoutSecs, _ => do
    let n ← word64? value
    return { r with options.timeoutSecs := some (← fill r.options.timeoutSecs n) }
  | .logLevel, _ => do
    return { r with options.logLevel := some (← fill r.options.logLevel value) }
  | .depth, .edge source target depth => do
    let n ← word64? value
    return { r with draft := .edge source target (some (← fill depth n)) }
  | .query, .nodes query page size => do
    return { r with draft := .nodes (some (← fill query value)) page size }
  | .page, .nodes query page size => do
    let n ← positive32? value
    return { r with draft := .nodes query (some (← fill page n)) size }
  | .size, .nodes query page size => do
    let n ← positive32? value
    return { r with draft := .nodes query page (some (← fill size n)) }
  | _, _ => none

def Reading.store (r : Reading) (setting : Setting) (value : String) : Except Refusal Reading :=
  match r.store? setting value with
  | none => .error .usage
  | some r => .ok r

def Draft.isHelp : Draft → Bool
  | .help _ => true
  | _ => false

def Draft.ofName? : String → Option Draft
  | "info" => some .info
  | "node" => some (.node none)
  | "edge" => some (.edge none none none)
  | "nodes" => some (.nodes none none none)
  | "help" => some (.help none)
  | _ => none

/-- Read a plain word: the command, or its next argument. After the mark no command can be named. -/
def Reading.word (r : Reading) (s : String) : Except Refusal Reading :=
  match r.draft with
  | .unnamed =>
    match Draft.ofName? s with
    | some draft => if r.onlyWords then .error .usage else .ok { r with draft := draft }
    | none => .error .usage
  | .help none =>
    if (Draft.ofName? s).isSome then .ok { r with draft := .help (some s) } else .error .usage
  | .node none => .ok { r with draft := .node (some s) }
  | .edge none target depth => .ok { r with draft := .edge (some s) target depth }
  | .edge source none depth => .ok { r with draft := .edge source (some s) depth }
  | _ => .error .usage

def Reading.option (r : Reading) (setting : Option Setting) (value : Option String) :
    Except Refusal Reading :=
  match setting, value with
  | none, _ => .error .usage
  | some setting, none => .ok { r with pending := some setting }
  | some setting, some value => r.store setting value

def Reading.next (r : Reading) (arg : String) : Except Refusal Reading :=
  if r.onlyWords || r.draft.isHelp then
    r.word arg
  else
    match r.pending, Word.of arg with
    | some setting, .plain value => r.store setting value
    | some _, _ => .error .usage
    | none, .mark => .ok { r with onlyWords := true }
    | none, .plain s => r.word s
    | none, .long "help" none => .error .help
    | none, .long name value => r.option (r.draft.named? name) value
    | none, .short 'h' _ => .error .help
    | none, .short letter value => r.option (r.draft.lettered? letter) value

def defaultDepth : Nat := 1

/-- The command when all arguments have been read; what is left out takes its default. -/
def Reading.finish (r : Reading) : Except Refusal Invocation :=
  if r.pending.isSome then
    .error .usage
  else
    match r.draft with
    | .info => .ok ⟨r.options, .info⟩
    | .node (some name) => .ok ⟨r.options, .node name⟩
    | .edge (some source) (some target) depth =>
      .ok ⟨r.options, .edge source target (depth.getD defaultDepth)⟩
    | .nodes query page size =>
      .ok ⟨r.options, .nodes (query.getD "") (page.getD 1) (size.getD defaultPageSize)⟩
    | .help _ => .error .help
    | _ => .error .usage

def read (args : List String) : Except Refusal Invocation := do
  (← args.foldlM Reading.next ({} : Reading)).finish

/-- The configuration that the options and the environment ask for; an option goes before the
environment, and the environment before the default. -/
def Options.config (o : Options) (apiUrl : Option String) : Config :=
  { Config.new ((o.apiUrl <|> apiUrl).getD Config.defaultApiUrl) with
    timeout := (o.timeoutSecs.map (· * 1000)).getD Config.defaultTimeout }

structure Outcome where
  exitCode : Nat
  output : String := ""
  errorText : Option String := none
  requests : List Request := []
  events : List Event := []
  deriving Repr

def Outcome.failure (text : String) (requests : List Request) (events : List Event) : Outcome :=
  { exitCode := 1, errorText := some text, requests := requests, events := events }

def Outcome.ofExchange (report : α → String) (x : Exchange α) : Outcome :=
  match x.result with
  | .ok answer =>
    { exitCode := 0, output := report answer, requests := x.requests, events := x.events }
  | .error e => .failure e.display x.requests x.events

/-- The program has stopped in the middle of a sum. It has not printed an error of its own then. -/
def Outcome.stopped (requests : List Request) (events : List Event) : Outcome :=
  { exitCode := 101, requests := requests, events := events }

def Outcome.ofStep (b : Build) (x : Client.Step) : Outcome :=
  match x.nav.errorMessage, x.nav.page with
  | some text, _ => .failure text x.requests x.events
  | none, none => { exitCode := 0, requests := x.requests, events := x.events }
  | none, some page =>
    match Report.listing? b page with
    | none => .stopped x.requests x.events
    | some text => { exitCode := 0, output := text, requests := x.requests, events := x.events }

def Command.run [Monad m] (b : Build) (send : Request → m Reply) (client : Client) :
    Command → m Outcome
  | .info => do
    return .ofExchange (fun info => info ++ "\n") (← client.ask send .info)
  | .node name => do
    return .ofExchange Report.node (← client.ask send (.node name))
  | .edge source target depth => do
    return .ofExchange (fun d => Report.edge d depth) (← client.ask send (.edge source target))
  | .nodes query page size => do
    let nav := Navigator.new.setQuery query
    return .ofStep b (← client.perform send nav (.load (page - 1) size))

def Invocation.run [Monad m] (b : Build) (send : Request → m Reply) (apiUrl : Option String)
    (i : Invocation) : m Outcome :=
  match Client.ofConfig (i.options.config apiUrl) with
  | .error e => pure (.failure e.display [] [])
  | .ok client => i.command.run b send client

def run [Monad m] (b : Build) (send : Request → m Reply) (apiUrl : Option String)
    (args : List String) : m Outcome :=
  match read args with
  | .error .help => pure { exitCode := 0 }
  | .error .usage => pure { exitCode := 2 }
  | .ok invocation => invocation.run b send apiUrl

end GraphBrowser.CommandLine
