import Enrolment.Proofs.Activation.Link
import Enrolment.Proofs.Http.Sessions

set_option autoImplicit false

namespace Enrolment

theorem Token.fingerprint_ne_list (token : String) : fingerprint token ≠ "list" := by
  intro same
  have lower : 'l' ∉ (fingerprint token).toList := Hex.not_mem_encodeWith (by decide) _
  rw [same] at lower
  exact lower (by decide)

namespace App

def withListPath (path : String × String) (app : App) : App := { app with listPath := path }

theorem moved_withListPath {α : Type} (path other : String × String) (state : α × App) :
    moved (withListPath path) (moved (withListPath other) state) =
      moved (withListPath path) state := rfl

def Misses (path : String × String) (first second : List Char) : Prop :=
  ∀ one two, Route.parameter? first = some one → Route.parameter? second = some two →
    (one, two) ≠ path

variable {app : App} {draw : Draw} {clock : Nat} {request : Request} {first second : List Char}

theorem find?_of_shape (shape : request.segments = [first, second, "list".toList]) :
    Route.find? request.segments = some (.activate second "list".toList) ∧
        first = "activate".toList ∨
      Route.find? request.segments = some (.list first second) ∧ first ≠ "activate".toList := by
  rw [shape, Route.find?]
  by_cases activates : first = "activate".toList
  · exact .inl ⟨if_pos (by rw [decide_eq_true activates]; decide), activates⟩
  · refine .inr ⟨?_, activates⟩
    rw [if_neg (by rw [decide_eq_false activates]; decide), if_pos rfl]

theorem list_of_misses (misses : Misses app.listPath first second) :
    app.list request first second =
      if (Route.parameter? first).isSome && (Route.parameter? second).isSome then problem .notFound
      else problem (.of 400 (some ("Invalid URL" ++ request.remark))) := by
  unfold list
  split
  next one two head tail => rw [if_pos (misses one two head tail), head, tail]; rfl
  next undecoded =>
    cases head : Route.parameter? first with
    | none => rfl
    | some one =>
      cases tail : Route.parameter? second with
      | none => rfl
      | some two => exact absurd tail (undecoded one two head)

-- No token has the last segment of a list for its fingerprint.
theorem activate_list (app : App) (draw : Draw) (request : Request) (token : List Char) :
    app.activate draw request token "list".toList = match Route.parameter? token with
      | some _ => (problem (.bare 401),
        { app with registrar := app.registrar.counted (.activations .unauthorized) })
      | none => (.answered (notText request), app) := by
  have last : Route.parameter? "list".toList = some "list" := by decide +kernel
  unfold activate
  rw [last]
  cases Route.parameter? token with
  | none => rfl
  | some token =>
    have forged : app.registrar.authorize draw.now token "list" = .error .unauthorized := by
      have differs := Token.fingerprint_ne_list token
      simp [Registrar.authorize, Registrar.isPresentable, differs]
    simp only [Registrar.beginActivation, forged]
    rfl

theorem serve_of_shape (app : App) (draw : Draw) {route : Route}
    (shape : request.segments = [first, second, "list".toList])
    (found : Route.find? request.segments = some route) :
    ∃ response left, ∀ path target, Misses path first second →
      (withListPath path app).serve draw { request with target } route =
        (.answered response, withListPath path left) := by
  unfold serve
  by_cases allowed : route.allows request.method = true
  case neg => exact ⟨_, app, fun path target _ => if_neg allowed⟩
  simp only [allowed, if_true]
  rcases find?_of_shape shape with ⟨activates, -⟩ | ⟨lists, -⟩
  · obtain rfl := Option.some.inj (found.symm.trans activates)
    simp only [handle, activate_list]
    cases Route.parameter? second with
    | none => exact ⟨notText request, app, fun path target _ => rfl⟩
    | some token =>
      let registrar := app.registrar.counted (.activations .unauthorized)
      exact ⟨.problem (.bare 401), { app with registrar }, fun path target _ => rfl⟩
  · obtain rfl := Option.some.inj (found.symm.trans lists)
    simp only [handle]
    let decoded := (Route.parameter? first).isSome && (Route.parameter? second).isSome
    let fault : Problem :=
      if decoded then .notFound else .of 400 (some ("Invalid URL" ++ request.remark))
    refine ⟨.problem fault, app, fun path target misses => Prod.ext ?_ rfl⟩
    show list (withListPath path app) _ first second = problem fault
    rw [list_of_misses misses, apply_ite problem]

theorem receive_of_shape (app : App) (draw : Draw) (clock : Nat)
    (shape : request.segments = [first, second, "list".toList]) :
    ∃ response left, ∀ path target, Misses path first second →
      ({ request with target } : Request).segments = request.segments →
      (withListPath path app).receive draw clock { request with target } =
        (.answered response, withListPath path left) := by
  have gated : ∃ route, Route.find? request.segments = some route ∧ route.isGated = true := by
    rcases find?_of_shape shape with ⟨activates, -⟩ | ⟨lists, -⟩
    · exact ⟨_, activates, rfl⟩
    · exact ⟨_, lists, rfl⟩
  obtain ⟨route, found, gated⟩ := gated
  by_cases preflight : request.method = "OPTIONS"
  case pos =>
    refine ⟨.empty 200, app, fun path target _ same => ?_⟩
    rw [← same] at found
    exact receive_preflight found gated preflight
  cases admitted : app.admits clock request with
  | false =>
    refine ⟨.problem (.bare 429), app.turnedAway clock request, fun path target _ same => ?_⟩
    rw [← same] at found
    exact receive_throttled (withListPath path app) draw clock found gated preflight admitted
  | true =>
    cases hasKey : app.hasKey request with
    | false =>
      refine ⟨.problem (.bare 401), app.charged clock request, fun path target _ same => ?_⟩
      rw [← same] at found
      exact receive_locked (withListPath path app) draw clock found gated preflight admitted hasKey
    | true =>
      obtain ⟨response, left, served⟩ :=
        serve_of_shape (app.charged clock request) draw shape found
      refine ⟨response, left, fun path target misses same => ?_⟩
      rw [← same] at found
      rw [receive_served (withListPath path app) draw clock found gated preflight admitted hasKey]
      exact served path target misses

theorem deliver_withListPath (path : String × String) (app : App) (draw : Draw) (request : Request)
    (target : String) (response : Response)
    (same : ({ request with target } : Request).segments = request.segments) :
    (withListPath path app).deliver draw { request with target } response =
      moved (withListPath path) (app.deliver draw request response) := by
  unfold deliver
  rw [same]
  cases Route.find? request.segments <;> rfl

theorem body_deliver (app : App) (draw : Draw) (request : Request) (response : Response)
    (whole : request.method ≠ "HEAD" ∨ Route.find? request.segments = none) :
    (app.deliver draw request response).1.body = response.body := by
  unfold deliver
  split
  next route found =>
    have kept : request.method ≠ "HEAD" := whole.resolve_right (by simp [found])
    simp only [finish, Response.withHeaders, kept]
    rfl
  · rfl

theorem respondTo_unmatched (app : App) {call : Call}
    (unmatched : Route.find? call.request.segments = none) :
    (app.respondTo call).1.status = Problem.notFound.status ∧
      (app.respondTo call).1.body = (Response.problem .notFound).body := by
  unfold respondTo
  rw [respond_answered (receive_unmatched unmatched), status_deliver,
    body_deliver _ _ _ _ (.inr unmatched)]
  exact ⟨rfl, rfl⟩

theorem respondTo_missed {call : Call} (admitted : app.admits call.clock call.request = true)
    (hasKey : app.hasKey call.request = true) (reads : call.request.method = "GET")
    (shape : call.request.segments = [first, second, "list".toList])
    (lists : first ≠ "activate".toList) (misses : Misses app.listPath first second)
    (decoded : (Route.parameter? first).isSome ∧ (Route.parameter? second).isSome) :
    (app.respondTo call).1.status = Problem.notFound.status ∧
      (app.respondTo call).1.body = (Response.problem .notFound).body := by
  have found := ((find?_of_shape shape).resolve_left fun activates => lists activates.2).1
  have plain : call.request.method ≠ "OPTIONS" := by
    rw [reads]
    decide
  have allowed : (Route.list first second).allows call.request.method = true := by
    rw [reads]
    rfl
  have missed : (app.charged call.clock call.request).list call.request first second =
      problem .notFound := by
    have passed : Misses (app.charged call.clock call.request).listPath first second := misses
    rw [list_of_misses passed, decoded.1, decoded.2]
    rfl
  have received : app.receive call.draw call.clock call.request =
      (.answered (.problem .notFound), app.charged call.clock call.request) := by
    rw [receive_served app call.draw call.clock found rfl plain admitted hasKey, serve,
      if_pos allowed, handle, missed]
    rfl
  have whole : call.request.method ≠ "HEAD" := by
    rw [reads]
    decide
  unfold respondTo
  rw [respond_answered received, status_deliver, body_deliver _ _ _ _ (.inl whole)]
  exact ⟨rfl, rfl⟩

theorem list_path_unseen (app : App) (path : String × String) (call : Call)
    {first second : List Char}
    (shape : call.request.segments = [first, second, "list".toList])
    (missed : Misses app.listPath first second) (misses : Misses path first second) :
    (withListPath path app).respondTo call = moved (withListPath path) (app.respondTo call) ∧
      app.statementsOf call.draw call.clock call.request = [] ∧
      (withListPath path app).statementsOf call.draw call.clock call.request = [] ∧
      (∀ store, (withStore store app).respondTo call =
        moved (withStore store) (app.respondTo call)) ∧
      (∀ target, ({ call.request with target } : Request).segments = call.request.segments →
        app.respondTo { call with request := { call.request with target } } =
          app.respondTo call) ∧
      (call.request.method = "GET" → first ≠ "activate".toList →
        app.admits call.clock call.request = true → app.hasKey call.request = true →
        (Route.parameter? first).isSome ∧ (Route.parameter? second).isSome →
        ∀ unknown : Call, Route.find? unknown.request.segments = none →
          (app.respondTo call).1.status = (app.respondTo unknown).1.status ∧
          (app.respondTo call).1.body = (app.respondTo unknown).1.body) := by
  obtain ⟨response, left, received⟩ := receive_of_shape app call.draw call.clock shape
  have responds (path : String × String) (target : String) (misses : Misses path first second)
      (same : ({ call.request with target } : Request).segments = call.request.segments) :
      (withListPath path app).respondTo { call with request := { call.request with target } } =
        moved (withListPath path) (left.deliver call.draw call.request response) := by
    rw [← deliver_withListPath path left call.draw call.request target response same]
    exact respond_answered (received path target misses same)
  have quiet (path : String × String) (misses : Misses path first second) :
      (withListPath path app).statementsOf call.draw call.clock call.request = [] :=
    statementsOf_answered (received path call.request.target misses rfl)
  have own : app.respondTo call =
      moved (withListPath app.listPath) (left.deliver call.draw call.request response) :=
    responds app.listPath call.request.target missed rfl
  refine ⟨?_, quiet app.listPath missed, quiet path misses, ?_, ?_, ?_⟩
  case refine_1 =>
    rw [own, moved_withListPath]
    exact responds path call.request.target misses rfl
  case refine_2 =>
    intro store
    exact respond_withStore store (quiet app.listPath missed)
  case refine_3 =>
    intro target same
    exact (responds app.listPath target missed same).trans own.symm
  case refine_4 =>
    intro reads lists admitted hasKey decoded unknown unmatched
    obtain ⟨status, body⟩ := respondTo_missed admitted hasKey reads shape lists missed decoded
    obtain ⟨other, nothing⟩ := app.respondTo_unmatched unmatched
    exact ⟨status.trans other.symm, body.trans nothing.symm⟩

def guess : Call where
  draw := dawn
  clock := 0
  request := { target := "/secret/door/list?max=%", headers := [("x-api-key", "key")] }

theorem list_path_unseen_guess :
    guess.request.segments = ["secret".toList, "door".toList, "list".toList] ∧
      Misses lodge.listPath "secret".toList "door".toList ∧
      Misses ("other", "path") "secret".toList "door".toList ∧
      (withListPath ("other", "path") lodge).respondTo guess =
        moved (withListPath ("other", "path")) (lodge.respondTo guess) ∧
      lodge.statementsOf guess.draw guess.clock guess.request = [] ∧
      (lodge.respondTo guess).1.status =
        (lodge.respondTo { guess with request := { target := "/door" } }).1.status := by
  have first : Route.parameter? "secret".toList = some "secret" := by decide +kernel
  have second : Route.parameter? "door".toList = some "door" := by decide +kernel
  have shape : guess.request.segments = ["secret".toList, "door".toList, "list".toList] := by decide
  have missed : Misses lodge.listPath "secret".toList "door".toList := by
    intro one two head tail
    obtain rfl := Option.some.inj (first.symm.trans head)
    obtain rfl := Option.some.inj (second.symm.trans tail)
    decide
  have misses : Misses ("other", "path") "secret".toList "door".toList := by
    intro one two head tail
    obtain rfl := Option.some.inj (first.symm.trans head)
    obtain rfl := Option.some.inj (second.symm.trans tail)
    decide
  obtain ⟨same, quiet, -, -, -, unknown⟩ :=
    list_path_unseen lodge ("other", "path") guess shape missed misses
  have alike := unknown rfl (by decide) (by decide +kernel) (by decide) (by rw [first, second]; decide)
    { guess with request := { target := "/door" } } (by decide)
  exact ⟨shape, missed, misses, same, quiet, alike.1⟩

end App

end Enrolment
