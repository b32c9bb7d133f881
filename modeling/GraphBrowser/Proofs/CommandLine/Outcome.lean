import GraphBrowser.CommandLine
import GraphBrowser.Proofs.Client.Requests
import GraphBrowser.Proofs.Report.Pagination

namespace GraphBrowser.CommandLine

/-- What a command asks the service for, how an answer is shown, how an error is told, and for which
answers a build stops. -/
structure Question where
  Answer : Type
  call : Call Answer
  report : Answer → String
  complaint : Error → String
  Stops : Build → Answer → Prop

/-- A listing tells an error without its kind. -/
def Command.question : Command → Question
  | .info => ⟨String, .info, fun info => info ++ "\n", Error.display, fun _ _ => False⟩
  | .node name => ⟨Node, .node name, Report.node, Error.display, fun _ _ => False⟩
  | .edge source target depth =>
    ⟨Dependency, .edge source target, fun d => Report.edge d depth, Error.display, fun _ _ => False⟩
  | .nodes query page size =>
    ⟨ResultPage Node, .nodes query (page - 1) size, Report.listing, Error.message,
      ResultPage.Overflows⟩

/-- Send a request that is answered in view of how many were sent before. -/
def recorded (answer : Nat → Request → Reply) (request : Request) : StateM (List Request) Reply := do
  let sent ← get
  set (sent ++ [request])
  return answer sent.length request

/-- What comes of a run of the program with requests answered by `answer`, and the requests that were
sent. -/
def ran (b : Build) (answer : Nat → Request → Reply) (apiUrl : Option String) (args : List String) :
    Outcome × List Request :=
  (run b (recorded answer) apiUrl args).run []

structure Outcome.Concludes (out : Outcome) (report : α → String) (complaint : Error → String)
    (Stops : α → Prop) (result : Except Error α) : Prop where
  shown : ∀ a, result = .ok a → ¬ Stops a →
    out.exitCode = 0 ∧ out.output = report a ∧ out.errorText = none
  stopped : ∀ a, result = .ok a → Stops a →
    out.exitCode = 101 ∧ out.output = "" ∧ out.errorText = none
  failed : ∀ e, result = .error e →
    out.exitCode = 1 ∧ out.output = "" ∧ out.errorText = some (complaint e)

namespace Outcome.Concludes

variable {out : Outcome} {report : α → String} {complaint : Error → String} {Stops : α → Prop}
  {result : Except Error α}

theorem ends (h : out.Concludes report complaint Stops result) :
    (out.exitCode = 0 ∧ ∃ a, result = .ok a ∧ ¬ Stops a) ∨
      (out.exitCode = 101 ∧ out.output = "" ∧ ∃ a, result = .ok a ∧ Stops a) ∨
      (out.exitCode = 1 ∧ out.output = "" ∧
        ∃ e, result = .error e ∧ out.errorText = some (complaint e)) := by
  cases result with
  | error e =>
    obtain ⟨hcode, houtput, htext⟩ := h.failed e rfl
    exact .inr (.inr ⟨hcode, houtput, e, rfl, htext⟩)
  | ok a =>
    by_cases hstops : Stops a
    · obtain ⟨hcode, houtput, -⟩ := h.stopped a rfl hstops
      exact .inr (.inl ⟨hcode, houtput, a, rfl, hstops⟩)
    · exact .inl ⟨(h.shown a rfl hstops).1, a, rfl, hstops⟩

end Outcome.Concludes

variable {b : Build} {answer : Nat → Request → Reply} {client : Client}

theorem ask_recorded (call : Call α) :
    (client.ask (recorded answer) call).run [] = client.asked (answer 0) call := by
  simp only [Client.asked, Client.ask]
  cases client.prepare call <;> rfl

theorem concludes_ofExchange (report : α → String) (x : Exchange α) :
    (Outcome.ofExchange report x).Concludes report Error.display (fun _ => False) x.result where
  shown := by
    intro a ha _
    simp only [Outcome.ofExchange, ha]
    exact ⟨trivial, trivial, trivial⟩
  stopped := fun _ _ => False.elim
  failed := by
    intro e he
    simp only [Outcome.ofExchange, he, Outcome.failure]
    exact ⟨trivial, trivial, trivial⟩

theorem concludes_ofStep {nav : Navigator} {ticket : Ticket} (haccepts : nav.accepts ticket = true)
    (b : Build) (result : PageOutcome) (requests : List Request) (events : List Event) :
    (Outcome.ofStep b ⟨nav.finish ticket result, requests, events⟩).Concludes Report.listing
      Error.message (ResultPage.Overflows b) result where
  shown := by
    rintro p rfl hfits
    simp only [Outcome.ofStep, Navigator.finish, haccepts, if_true, Report.listing?_eq_some hfits]
    exact ⟨trivial, trivial, trivial⟩
  stopped := by
    rintro p rfl hoverflows
    simp only [Outcome.ofStep, Navigator.finish, haccepts, if_true,
      Report.listing?_eq_none hoverflows, Outcome.stopped]
    exact ⟨trivial, trivial, trivial⟩
  failed := by
    rintro e rfl
    simp only [Outcome.ofStep, Navigator.finish, haccepts, if_true, Outcome.failure]
    exact ⟨trivial, trivial, trivial⟩

theorem run_exchange (report : α → String) (call : Call α) :
    let outcome : StateM (List Request) Outcome := do
      return .ofExchange report (← client.ask (recorded answer) call)
    (outcome.run []).1.Concludes report Error.display (fun _ => False)
        (client.asked (answer 0) call).1.result ∧
      (outcome.run []).2 = (client.asked (answer 0) call).2 := by
  rw [← ask_recorded]
  exact ⟨concludes_ofExchange report _, rfl⟩

theorem run_load (b : Build) (query : String) (page size : UInt32) :
    let outcome : StateM (List Request) Outcome := do
      return .ofStep b (← client.perform (recorded answer) (Navigator.new.setQuery query)
        (.load page size))
    (outcome.run []).1.Concludes Report.listing Error.message (ResultPage.Overflows b)
        (client.asked (answer 0) (.nodes query page size)).1.result ∧
      (outcome.run []).2 = (client.asked (answer 0) (.nodes query page size)).2 := by
  rw [← ask_recorded]
  exact ⟨concludes_ofStep rfl b _ _ _, rfl⟩

theorem run_command (b : Build) (command : Command) :
    ((command.run b (recorded answer) client).run []).1.Concludes command.question.report
        command.question.complaint (command.question.Stops b)
        (client.asked (answer 0) command.question.call).1.result ∧
      ((command.run b (recorded answer) client).run []).2 =
        (client.asked (answer 0) command.question.call).2 := by
  cases command <;> simp only [Command.run, Command.question]
  case info => exact run_exchange (fun info => info ++ "\n") .info
  case node name => exact run_exchange Report.node (.node name)
  case edge source target depth =>
    exact run_exchange (fun d => Report.edge d depth) (.edge source target)
  case nodes query page size => exact run_load b query (page - 1) size

variable {apiUrl : Option String} {args : List String} {invocation : Invocation}

structure Accepts (apiUrl : Option String) (args : List String) (invocation : Invocation)
    (client : Client) : Prop where
  reads : read args = .ok invocation
  configures : Client.ofConfig (invocation.options.config apiUrl) = .ok client

theorem ran_accepted (h : Accepts apiUrl args invocation client) :
    (ran b answer apiUrl args).1.Concludes invocation.command.question.report
        invocation.command.question.complaint (invocation.command.question.Stops b)
        (client.asked (answer 0) invocation.command.question.call).1.result ∧
      (ran b answer apiUrl args).2 =
        (client.asked (answer 0) invocation.command.question.call).2 := by
  simp only [ran, run, h.reads, Invocation.run, h.configures]
  exact run_command b invocation.command

end GraphBrowser.CommandLine
