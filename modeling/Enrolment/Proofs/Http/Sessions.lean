import Enrolment.Proofs.Activation.Completion
import Enrolment.Proofs.Http.Gates
import Enrolment.Proofs.Limiter.Sweeping

set_option autoImplicit false

namespace Enrolment

def Admission.happen (admission : Admission Float) : Limiter.Event → Admission Float
  | .call client now => (admission.allow client now).2
  | .sweep idle now => (admission.sweep idle now).2

namespace App

structure Call where
  draw : Draw
  clock : Nat
  request : Request

def Call.isGated (call : Call) : Bool :=
  (Route.find? call.request.segments).any Route.isGated && call.request.method != "OPTIONS"

def respondTo (app : App) (call : Call) : Response × App :=
  app.respond call.draw call.clock call.request

inductive Occurrence
  | called (call : Call)
  | swept (idle now : Nat)

def Occurrence.noticed? : Occurrence → Option Limiter.Event
  | called call =>
    if call.isGated then some (.call call.request.peer.text call.clock) else none
  | swept idle now => some (.sweep idle now)

def happen (app : App) : Occurrence → App
  | .called call => (app.respondTo call).2
  | .swept idle now => { app with admission := (app.admission.sweep idle now).2 }

def after (app : App) (session : List Occurrence) : App := session.foldl happen app

theorem Call.route_of_isGated {call : Call} (gated : call.isGated = true) :
    ∃ route, Route.find? call.request.segments = some route ∧ route.isGated = true ∧
      call.request.method ≠ "OPTIONS" := by
  simp only [Call.isGated, Bool.and_eq_true, Option.any_eq_true, bne_iff_ne] at gated
  obtain ⟨⟨route, found, gated⟩, plain⟩ := gated
  exact ⟨route, found, gated, plain⟩

theorem sameGates_receive_ungated (app : App) {call : Call} (ungated : call.isGated = false) :
    app.SameGates (app.receive call.draw call.clock call.request).2 := by
  cases found : Route.find? call.request.segments with
  | none =>
    rw [receive_unmatched found]
    exact ⟨rfl, rfl⟩
  | some route =>
    cases gated : route.isGated with
    | false =>
      rw [receive_open found gated]
      exact app.sameGates_serve call.draw call.request route
    | true =>
      have preflight : call.request.method = "OPTIONS" := by
        simpa [Call.isGated, found, gated] using ungated
      rw [receive_preflight found gated preflight]
      exact ⟨rfl, rfl⟩

theorem happen_gates (app : App) (occurrence : Occurrence) :
    (app.happen occurrence).admission =
        occurrence.noticed?.toList.foldl Admission.happen app.admission ∧
      (app.happen occurrence).apiKey = app.apiKey := by
  cases occurrence with
  | swept idle now => exact ⟨rfl, rfl⟩
  | called call =>
    -- What the gates have become when a call is received is what they stay.
    have later := app.sameGates_respond call.draw call.clock call.request
    unfold happen respondTo
    cases gated : call.isGated with
    | true =>
      obtain ⟨route, found, behind, plain⟩ := Call.route_of_isGated gated
      have same := (app.sameGates_receive_gated call.draw call.clock found behind plain).trans later
      simp only [Occurrence.noticed?, gated]
      exact ⟨same.admission, same.apiKey⟩
    | false =>
      have same := (app.sameGates_receive_ungated gated).trans later
      simp only [Occurrence.noticed?, gated]
      exact ⟨same.admission, same.apiKey⟩

theorem after_gates (app : App) (session : List Occurrence) :
    (app.after session).admission =
        (session.filterMap Occurrence.noticed?).foldl Admission.happen app.admission ∧
      (app.after session).apiKey = app.apiKey := by
  induction session generalizing app with
  | nil => exact ⟨rfl, rfl⟩
  | cons occurrence session ih =>
    obtain ⟨admission, apiKey⟩ := app.happen_gates occurrence
    obtain ⟨admissions, apiKeys⟩ := ih (app.happen occurrence)
    refine ⟨?_, apiKeys.trans apiKey⟩
    rw [after, List.foldl_cons, ← after, admissions, admission]
    cases noticed : occurrence.noticed? with
    | none => rw [List.filterMap_cons_none noticed]; rfl
    | some event => rw [List.filterMap_cons_some noticed]; rfl

def lodge : App where
  registrar := Office.frontDesk
  admission := .perClient { quota := ⟨0.1, 1⟩ }
  apiKey := "key"
  listPath := ("secret", "path")

def dawn : Draw := ⟨Instant.ofMillis 0, []⟩

def stranger : Call where
  draw := dawn
  clock := 0
  request := { target := "/register", headers := [("x-api-key", "kez")] }

end App

end Enrolment
