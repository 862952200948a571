import Enrolment.Proofs.Http.Sessions
import Mathlib.Algebra.Order.BigOperators.Group.List
import Mathlib.Data.List.Induction

set_option autoImplicit false

namespace Enrolment

structure Labels where
  method : String
  template : String
  status : Nat
  deriving Repr, DecidableEq

namespace Labels

def counter (labels : Labels) : Counter := .requests labels.method labels.template labels.status

theorem counter_inj {labels other : Labels} : labels.counter = other.counter ↔ labels = other := by
  cases labels
  cases other
  simp [counter]

end Labels

-- The labels that an answered request is to be counted under, if it is.
def Request.labels? (request : Request) (response : Response) : Option Labels :=
  (Route.find? request.segments).map fun route => ⟨request.method, route.template, response.status⟩

def Route.templates : List String :=
  ["/health", "/register", "/activate/:token/:fingerprint", "/check-wallet/:address",
    "/:path1/:path2/list", "/healthcheck"]

theorem Route.template_mem (route : Route) : route.template ∈ templates := by
  cases route <;> simp [template, templates]

def App.statuses : List Nat := [200, 201, 202, 405, 429, 503] ++ App.faults

def Labels.space (methods : List String) : List Labels :=
  methods.flatMap fun method => Route.templates.flatMap fun template =>
    App.statuses.map fun status => ⟨method, template, status⟩

theorem Labels.mem_space {methods : List String} {labels : Labels} :
    labels ∈ space methods ↔ labels.method ∈ methods ∧ labels.template ∈ Route.templates ∧
      labels.status ∈ App.statuses := by
  rcases labels with ⟨method, template, status⟩
  simp [space]

namespace Tally

def SameRequests (before after : Tally) : Prop :=
  ∀ labels : Labels, after.read labels.counter = before.read labels.counter

theorem SameRequests.refl (tally : Tally) : tally.SameRequests tally := fun _ => rfl

theorem sameRequests_count (tally : Tally) {counter : Counter}
    (other : ∀ labels : Labels, labels.counter ≠ counter) :
    tally.SameRequests (tally.count counter) := by
  intro labels
  rw [read_count, if_neg (other labels), Nat.add_zero]

end Tally

namespace Registrar

variable (registrar : Registrar)

theorem sameRequests_conclude (result : Except RegistrationError Participant) :
    registrar.tally.SameRequests (registrar.conclude result).2.tally :=
  registrar.tally.sameRequests_count fun _ => Counter.noConfusion

theorem Takes.sameRequests {draw : Draw} {begun : Option Activation} {later : Registrar}
    (taken : registrar.Takes draw begun later) : registrar.tally.SameRequests later.tally := by
  cases taken with
  | nothing => exact .refl _
  | rejection => exact registrar.tally.sameRequests_count fun _ => Counter.noConfusion
  | registration claims =>
    unfold register
    split
    · split
      · exact registrar.tally.sameRequests_count fun _ => Counter.noConfusion
      · exact .refl _
    · exact .refl _
  | activation token fingerprint =>
    unfold beginActivation
    split
    · exact .refl _
    · exact registrar.sameRequests_conclude _

theorem sameRequests_advance (draw : Draw) (activation : Activation) :
    registrar.tally.SameRequests (registrar.advance draw activation).2.tally := by
  cases activation with
  | lookingUpAddress | lookingUpSponsor | inserting =>
    simp only [advance]
    split <;> first | exact .refl _ | exact sameRequests_conclude _ _
  | inserted participant => exact sameRequests_conclude _ _
  | finished result => exact .refl _

end Registrar

def Handling.IsKnown (handling : Handling) : Prop :=
  handling.Leads ∨ ∃ response, handling = .answered response ∧ response.status ∈ App.statuses

namespace App

variable (app : App) (draw : Draw) (clock : Nat) (request : Request)

theorem serve_isKnown (route : Route) : (app.serve draw request route).1.IsKnown := by
  unfold serve
  split
  · exact .inl (app.leads_handle draw request route)
  · exact .inr ⟨_, rfl, by decide⟩

theorem receive_isKnown : (app.receive draw clock request).1.IsKnown := by
  cases found : Route.find? request.segments with
  | none =>
    rw [receive_unmatched found]
    exact .inr ⟨_, rfl, by decide⟩
  | some route =>
    cases gated : route.isGated with
    | false =>
      rw [receive_open found gated]
      exact app.serve_isKnown draw request route
    | true =>
      by_cases preflight : request.method = "OPTIONS"
      · rw [receive_preflight found gated preflight]
        exact .inr ⟨_, rfl, by decide⟩
      rw [receive_gated found gated preflight, passGates]
      split
      · exact .inr ⟨_, rfl, by decide⟩
      split
      · exact .inr ⟨_, rfl, by decide⟩
      · exact (app.charged clock request).serve_isKnown draw request route

theorem advance_isKnown {handling : Handling} (known : handling.IsKnown) :
    (app.advance draw handling).1.IsKnown := by
  rcases known with leads | ⟨response, rfl, status⟩
  · exact .inl (app.leads_advance draw leads)
  · exact .inr ⟨response, rfl, status⟩

theorem status_of_isKnown {response : Response} (known : (Handling.answered response).IsKnown) :
    response.status ∈ statuses := by
  rcases known with answers | ⟨other, same, status⟩
  · have subset : [200, 201, 202, 503] ++ faults ⊆ statuses := by decide
    exact subset (Answers.status_mem answers)
  · cases same
    exact status

theorem sameRequests_advance (handling : Handling) :
    app.registrar.tally.SameRequests (app.advance draw handling).2.registrar.tally := by
  cases handling with
  | activating activation => exact app.registrar.sameRequests_advance draw activation
  | findingPage | loadingPage =>
    simp only [advance]
    split <;> exact .refl _
  | pinging | answered => exact .refl _

theorem read_deliver (response : Response) (labels : Labels) :
    (app.deliver draw request response).2.registrar.tally.read labels.counter =
      app.registrar.tally.read labels.counter +
        if request.labels? (app.deliver draw request response).1 = some labels then 1 else 0 := by
  rw [Request.labels?, status_deliver, deliver]
  cases Route.find? request.segments with
  | none => simp
  | some route =>
    have own : Counter.requests request.method route.template response.status =
        (Labels.mk request.method route.template response.status).counter := rfl
    simp only [Registrar.counted, Tally.read_count, own, Labels.counter_inj, Option.map_some,
      Option.some.injEq]
    simp only [eq_comm]

end App

structure Traffic where
  app : App
  underWay : List (App.Call × Handling) := []
  answered : List (App.Call × Response) := []

namespace Traffic

inductive Move
  | come (call : App.Call)
  | goOn (draw : Draw) (position : Nat)
  -- An answer that is ready goes out.
  | leave (draw : Draw) (position : Nat)
  -- A request is given up, and gets no answer from the app.
  | breakOff (position : Nat)
  | store (store : Store)
  | sweep (idle now : Nat)

def happen (traffic : Traffic) : Move → Traffic
  | .come call =>
    let (handling, app) := traffic.app.receive call.draw call.clock call.request
    { traffic with app, underWay := traffic.underWay ++ [(call, handling)] }
  | .goOn draw position =>
    match traffic.underWay[position]? with
    | some (call, handling) =>
      let (handling, app) := traffic.app.advance draw handling
      { traffic with app, underWay := traffic.underWay.set position (call, handling) }
    | none => traffic
  | .leave draw position =>
    match traffic.underWay[position]? with
    | some (call, .answered response) =>
      let (response, app) := traffic.app.deliver draw call.request response
      { app
        underWay := traffic.underWay.eraseIdx position
        answered := traffic.answered ++ [(call, response)] }
    | _ => traffic
  | .breakOff position => { traffic with underWay := traffic.underWay.eraseIdx position }
  | .store store =>
    { traffic with app := { traffic.app with registrar := { traffic.app.registrar with store } } }
  | .sweep idle now =>
    { traffic with app := { traffic.app with admission := (traffic.app.admission.sweep idle now).2 } }

def run (traffic : Traffic) (moves : List Move) : Traffic := moves.foldl happen traffic

def Move.call? : Move → Option App.Call
  | come call => some call
  | _ => none

def labels (traffic : Traffic) : List Labels :=
  traffic.answered.filterMap fun entry => entry.1.request.labels? entry.2

structure Tallied (app : App) (calls : List App.Call) (traffic : Traffic) : Prop where
  counts (labels : Labels) : traffic.app.registrar.tally.read labels.counter =
    app.registrar.tally.read labels.counter + traffic.labels.count labels
  underWay : ∀ entry ∈ traffic.underWay, entry.1 ∈ calls ∧ entry.2.IsKnown
  answered : ∀ entry ∈ traffic.answered, entry.1 ∈ calls ∧ entry.2.status ∈ App.statuses

namespace Tallied

variable {app : App} {calls : List App.Call} {traffic : Traffic}

theorem more (tallied : traffic.Tallied app calls) (later : List App.Call) :
    traffic.Tallied app (calls ++ later) where
  counts := tallied.counts
  underWay entry member :=
    (tallied.underWay entry member).imp_left fun came => List.mem_append_left _ came
  answered entry member :=
    (tallied.answered entry member).imp_left fun came => List.mem_append_left _ came

theorem changed (tallied : traffic.Tallied app calls) {left : App}
    (same : traffic.app.registrar.tally.SameRequests left.registrar.tally)
    {underWay : List (App.Call × Handling)}
    (known : ∀ entry ∈ underWay, entry.1 ∈ calls ∧ entry.2.IsKnown) :
    Tallied app calls { traffic with app := left, underWay } where
  counts labels := (same labels).trans (tallied.counts labels)
  underWay := known
  answered := tallied.answered

theorem come (tallied : traffic.Tallied app calls) (call : App.Call) :
    (traffic.happen (.come call)).Tallied app (calls ++ [call]) := by
  refine (tallied.more [call]).changed
    (traffic.app.receive_takes call.draw call.request call.clock).sameRequests fun entry member => ?_
  rcases List.mem_append.mp member with before | new
  · exact (tallied.more [call]).underWay entry before
  · obtain rfl := List.mem_singleton.mp new
    exact ⟨by simp, traffic.app.receive_isKnown call.draw call.clock call.request⟩

theorem goOn (tallied : traffic.Tallied app calls) (draw : Draw) (position : Nat) :
    (traffic.happen (.goOn draw position)).Tallied app calls := by
  rw [happen]
  split
  next call handling found =>
    obtain ⟨came, known⟩ := tallied.underWay _ (List.mem_of_getElem? found)
    refine tallied.changed (traffic.app.sameRequests_advance draw handling) fun entry member => ?_
    rcases List.mem_or_eq_of_mem_set member with before | rfl
    · exact tallied.underWay entry before
    · exact ⟨came, traffic.app.advance_isKnown draw known⟩
  · exact tallied

theorem leave (tallied : traffic.Tallied app calls) (draw : Draw) (position : Nat) :
    (traffic.happen (.leave draw position)).Tallied app calls := by
  rw [happen]
  split
  next call response found =>
    obtain ⟨came, known⟩ := tallied.underWay _ (List.mem_of_getElem? found)
    constructor
    case counts =>
      intro labels
      have counted := traffic.app.read_deliver draw call.request response labels
      rw [tallied.counts] at counted
      refine counted.trans ?_
      rw [Traffic.labels, Traffic.labels, List.filterMap_append, List.count_append, Nat.add_assoc]
      congr 2
      cases labelled : call.request.labels? (traffic.app.deliver draw call.request response).1 with
      | none => simp [labelled]
      | some own => simp [labelled, List.count_singleton]
    case underWay =>
      exact fun entry member => tallied.underWay entry (List.mem_of_mem_eraseIdx member)
    case answered =>
      intro entry member
      rcases List.mem_append.mp member with before | new
      · exact tallied.answered entry before
      · obtain rfl := List.mem_singleton.mp new
        refine ⟨came, ?_⟩
        rw [App.status_deliver]
        exact App.status_of_isKnown known
  · exact tallied

theorem happen (tallied : traffic.Tallied app calls) (move : Move) :
    (traffic.happen move).Tallied app (calls ++ move.call?.toList) := by
  cases move with
  | come call => exact tallied.come call
  | goOn draw position => exact (tallied.goOn draw position).more _
  | leave draw position => exact (tallied.leave draw position).more _
  | breakOff position =>
    refine Tallied.more ?_ _
    exact tallied.changed (.refl _) fun entry member =>
      tallied.underWay entry (List.mem_of_mem_eraseIdx member)
  | store | sweep => exact { tallied.more _ with }

end Tallied

theorem tallied_run (app : App) (moves : List Move) :
    (({ app } : Traffic).run moves).Tallied app (moves.filterMap Move.call?) := by
  induction moves using List.reverseRecOn with
  | nil => exact ⟨fun _ => rfl, by simp [run], by simp [run]⟩
  | append_singleton moves move ih =>
    have ran : ({ app } : Traffic).run (moves ++ [move]) =
        (({ app } : Traffic).run moves).happen move := by
      simp [run]
    have came : (moves ++ [move]).filterMap Move.call? =
        moves.filterMap Move.call? ++ move.call?.toList := by
      cases called : move.call? <;> simp [called]
    rw [ran, came]
    exact ih.happen move

theorem labels_of_traffic (app : App) (moves : List Move) :
    let traffic := ({ app } : Traffic).run moves
    let methods := (moves.filterMap Move.call?).map fun call => call.request.method
    (∀ labels : Labels, traffic.app.registrar.tally.read labels.counter =
        app.registrar.tally.read labels.counter + traffic.labels.count labels) ∧
      (∀ labels ∈ traffic.labels, labels ∈ Labels.space methods) ∧
      ∀ one ∈ traffic.answered, ∀ other ∈ traffic.answered,
        (Route.find? one.1.request.segments).map Route.template =
            (Route.find? other.1.request.segments).map Route.template →
          one.1.request.method = other.1.request.method → one.2.status = other.2.status →
            one.1.request.labels? one.2 = other.1.request.labels? other.2 := by
  intro traffic methods
  have tallied := tallied_run app moves
  refine ⟨tallied.counts, ?_, ?_⟩
  · intro labels member
    obtain ⟨entry, answered, labelled⟩ := List.mem_filterMap.mp member
    obtain ⟨route, -, rfl⟩ := Option.map_eq_some_iff.mp labelled
    obtain ⟨came, known⟩ := tallied.answered entry answered
    exact Labels.mem_space.mpr ⟨List.mem_map_of_mem came, route.template_mem, known⟩
  · intro one _ other _ template method status
    have labelled (request : Request) (response : Response) : request.labels? response =
        ((Route.find? request.segments).map Route.template).map fun template =>
          ⟨request.method, template, response.status⟩ := by
      rw [Option.map_map]
      rfl
    rw [labelled, labelled, template, method, status]

-- A method may be any word.
def babble (length : Nat) : App.Call where
  draw := App.dawn
  clock := 0
  request := { method := String.ofList ('B' :: List.replicate length 'a'), target := "/healthcheck" }

theorem labels_babble (length : Nat) :
    (({ app := App.lodge } : Traffic).run [.come (babble length), .leave App.dawn 0]).labels =
      [⟨(babble length).request.method, "/healthcheck", 405⟩] := by
  have found : Route.find? (babble length).request.segments = some .healthcheck := by
    change Route.find? ({ target := "/healthcheck" } : Request).segments = some .healthcheck
    decide
  have foreign : Route.healthcheck.allows (babble length).request.method = false := by
    simp [Route.allows, Route.isPost, babble, ← String.toList_inj]
  have received : App.lodge.receive App.dawn 0 (babble length).request =
      (.answered (.empty 405), App.lodge) := by
    rw [App.receive_open found rfl, App.serve, if_neg (ne_true_of_eq_false foreign)]
  have come : ({ app := App.lodge } : Traffic).happen (.come (babble length)) =
      { app := App.lodge, underWay := [(babble length, .answered (.empty 405))] } := by
    rw [happen, show (babble length).draw = App.dawn from rfl, show (babble length).clock = 0 from rfl,
      received]
    rfl
  rw [run, List.foldl_cons, come]
  simp only [List.foldl_cons, List.foldl_nil, happen, List.getElem?_cons_zero, labels,
    List.nil_append, List.filterMap_cons, List.filterMap_nil, Request.labels?, found,
    Option.map_some, App.status_deliver]
  rfl

theorem labels_unbounded :
    ¬∃ bounds : List Labels, ∀ moves, ∀ labels : Labels,
      0 < (({ app := App.lodge } : Traffic).run moves).app.registrar.tally.read labels.counter →
        labels ∈ bounds := by
  rintro ⟨bounds, bounded⟩
  let longest := (bounds.map fun labels => labels.method.length).sum
  let word : Labels := ⟨(babble longest).request.method, "/healthcheck", 405⟩
  have counted := (tallied_run App.lodge [.come (babble longest), .leave App.dawn 0]).counts word
  rw [labels_babble, List.count_singleton_self] at counted
  have listed := bounded _ word (by rw [counted]; exact Nat.succ_pos _)
  have short : word.method.length ≤ longest := List.le_sum_of_mem (List.mem_map_of_mem listed)
  simp [word, babble] at short

end Traffic

end Enrolment
