import Enrolment.Proofs.Http.Answers
import Enrolment.Proofs.Http.Sessions
import Enrolment.Server.Running

set_option autoImplicit false

namespace Enrolment

namespace App

variable (app : App) (draw : Draw) (clock : Nat) (request : Request)

theorem run_serve (route : Route) :
    ∃ response left, run draw 4 (app.serve draw request route) = (.answered response, left) := by
  unfold serve
  split
  · obtain ⟨response, left, -, arrived⟩ := answers_run (app.leads_handle draw request route)
      (app.remaining_handle draw request route)
    exact ⟨response, left, arrived⟩
  · exact ⟨_, _, run_answered draw 4 _ app⟩

theorem run_receive :
    ∃ response left, run draw 4 (app.receive draw clock request) = (.answered response, left) := by
  cases found : Route.find? request.segments with
  | none =>
    rw [receive_unmatched found]
    exact ⟨_, _, run_answered draw 4 _ app⟩
  | some route =>
    cases gated : route.isGated with
    | false =>
      rw [receive_open found gated]
      exact app.run_serve draw request route
    | true =>
      by_cases preflight : request.method = "OPTIONS"
      · rw [receive_preflight found gated preflight]
        exact ⟨_, _, run_answered draw 4 _ app⟩
      rw [receive_gated found gated preflight, passGates]
      split
      · exact ⟨_, _, run_answered draw 4 _ _⟩
      split
      · exact ⟨_, _, run_answered draw 4 _ _⟩
      · exact (app.charged clock request).run_serve draw request route

end App

namespace Server

variable {server : Server} {entropy : Bytes} {request : Request}

def call (server : Server) (entropy : Bytes) (request : Request) : App.Call :=
  ⟨server.draw entropy, server.clock * 1000000, trimmedHeaders request⟩

-- The body of an answer to a request for headers alone is never sent.
def shown (request : Request) (response : Response) : Response :=
  if request.method = "HEAD" then response.withoutBody else response

theorem answers_settle (server : Server) : server.settle.answers = server.answers := by
  simp only [settle]
  split
  · rfl
  split <;> rfl

theorem answers_complete (server : Server) (exchange : Exchange) (response : Response) :
    (server.complete exchange response).answers = server.answers ++ [(exchange.number, some (shown
      exchange.request
      (server.app.deliver (server.draw exchange.entropy) exchange.request response).1))] :=
  answers_settle _

theorem proceed_due {exchange : Exchange} (due : exchange.due ≤ server.clock)
    (waits : ∀ response, exchange.handling ≠ .answered response) (steps : Nat) :
    proceed (steps + 1) server exchange =
      proceed steps (server.step exchange).2 (server.step exchange).1 := by
  rw [proceed]
  split
  next answered => exact absurd answered (waits _)
  · rfl
  · rw [if_pos due]

theorem answers_proceed {exchange : Exchange} {response : Response} {left : App} {steps : Nat}
    (prompt : server.slowness = 0) (due : exchange.due ≤ server.clock)
    (ran : App.run (server.draw exchange.entropy) steps (exchange.handling, server.app) =
      (.answered response, left)) :
    (proceed (steps + 1) server exchange).answers = server.answers ++ [(exchange.number,
      some (shown exchange.request
        (left.deliver (server.draw exchange.entropy) exchange.request response).1))] := by
  induction steps generalizing server exchange with
  | zero =>
    obtain ⟨answered, rfl⟩ := Prod.mk.inj ran
    simp only [proceed, answered]
    exact server.answers_complete exchange response
  | succ steps ih =>
    by_cases waits : ∀ response, exchange.handling ≠ .answered response
    · rw [proceed_due due waits]
      have later : (server.step exchange).1.due ≤ (server.step exchange).2.clock :=
        Nat.le_of_eq (congrArg (server.clock + ·) prompt)
      exact @ih (server.step exchange).2 _ prompt later ran
    · obtain ⟨early, answered⟩ := not_forall_not.mp waits
      rw [answered, App.run_answered] at ran
      obtain ⟨answers, rfl⟩ := Prod.mk.inj ran
      cases answers
      simp only [proceed, answered]
      exact server.answers_complete exchange response

section Received

variable (serving : server.isServing = true)
include serving

theorem receive_page {response : Response}
    (found : Pages.respond? (trimmedHeaders request) = some response) :
    (server.receive entropy request).2.answers =
        server.answers ++ [(server.accepted, some response)] ∧
      (server.receive entropy request).2.app = server.app := by
  have serves : isServing { server with accepted := server.accepted + 1 } = true := serving
  simp [receive, serves, found, reply]

theorem receive_prompt (prompt : server.slowness = 0)
    (elsewhere : Pages.respond? (trimmedHeaders request) = none) :
    (server.receive entropy request).2.answers = server.answers ++ [(server.accepted,
      some (shown request (server.app.respondTo (server.call entropy request)).1))] := by
  have serves : isServing { server with accepted := server.accepted + 1 } = true := serving
  obtain ⟨response, left, ran⟩ := server.app.run_receive (server.draw entropy)
    (server.clock * 1000000) (trimmedHeaders request)
  have responded : server.app.respondTo (server.call entropy request) =
      left.deliver (server.draw entropy) (trimmedHeaders request) response := by
    simp only [App.respondTo, App.respond, call, ran]
  have later : App.run (server.draw entropy) 7
      (server.app.receive (server.draw entropy) (server.clock * 1000000)
        (trimmedHeaders request)) = (.answered response, left) := by
    rw [App.run_add _ 4 3, ran, App.run_answered]
  simp only [receive, serves, elsewhere, responded]
  exact answers_proceed prompt (Nat.le_of_eq (congrArg (server.clock + ·) prompt)) later

end Received

end Server

end Enrolment
