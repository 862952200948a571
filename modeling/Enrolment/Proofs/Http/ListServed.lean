import Enrolment.Proofs.Http.Problems
import Enrolment.Proofs.Server.Prompt
import Enrolment.Proofs.Store.Roster
import Enrolment.Proofs.Text.Lines
import Enrolment.Proofs.Text.Percent
import Enrolment.Settings.Basic

set_option autoImplicit false

namespace Enrolment

def IsSegment (segment : String) : Prop := segment ≠ "" ∧ '/' ∉ segment.toList

theorem IsSegment.ends {segment : String} (isSegment : IsSegment segment) :
    ∃ first last, segment.toList.head? = some first ∧ segment.toList.getLast? = some last ∧
      first ≠ '/' ∧ last ≠ '/' := by
  obtain ⟨shown, apart⟩ := isSegment
  have shown : segment.toList ≠ [] := by simpa using shown
  refine ⟨_, _, List.head?_eq_some_head shown, List.getLast?_eq_some_getLast shown, ?_, ?_⟩
  · exact fun same => apart (same ▸ List.head_mem shown)
  · exact fun same => apart (same ▸ List.getLast_mem shown)

theorem trimChars_eq_segments_iff {first second : String} (isFirst : IsSegment first)
    (isSecond : IsSegment second) (chars : List Char) :
    trimChars (· = '/') chars = first.toList ++ '/' :: second.toList ↔
      ∃ lead tail, chars = List.replicate lead '/' ++ (first.toList ++ '/' :: second.toList) ++
        List.replicate tail '/' := by
  obtain ⟨begins, -, head, -, opening, -⟩ := isFirst.ends
  obtain ⟨-, ends, -, last, -, closing⟩ := isSecond.ends
  exact trimChars_eq_iff (by simp [head]) (by simp [List.getLast?_cons, last]) opening closing

theorem Settings.Security.segments?_eq_some_iff {security : Security} {first second : String} :
    security.segments? = some (first, second) ↔
      IsSegment first ∧ IsSegment second ∧
        ∃ lead tail, security.listPath.toList = List.replicate lead '/' ++
          (first.toList ++ '/' :: second.toList) ++ List.replicate tail '/' := by
  constructor
  · intro accepted
    unfold segments? at accepted
    split at accepted
    next one two parts =>
      split at accepted
      · cases accepted
      next shown =>
        obtain ⟨rfl, rfl⟩ := Prod.mk.inj (Option.some.inj accepted)
        obtain ⟨firstApart, secondApart, trimmed⟩ := splitAt_eq_pair_iff.mp parts
        simp only [Bool.or_eq_true, List.isEmpty_iff, not_or] at shown
        have isFirst : IsSegment (String.ofList one) := ⟨by simpa using shown.1, by simpa⟩
        have isSecond : IsSegment (String.ofList two) := ⟨by simpa using shown.2, by simpa⟩
        exact ⟨isFirst, isSecond,
          (trimChars_eq_segments_iff isFirst isSecond _).mp (by simpa using trimmed)⟩
    · cases accepted
  · rintro ⟨isFirst, isSecond, whole⟩
    have trimmed := (trimChars_eq_segments_iff isFirst isSecond _).mpr whole
    have parts := splitAt_eq_pair_iff.mpr ⟨isFirst.2, isSecond.2, trimmed⟩
    rw [segments?, parts]
    simp [isFirst.1, isSecond.1]

-- What ends a segment of a target, or begins an escape.
def delimiters : List Char := ['%', '/', '?', '#']

def listTarget (one two : List Char) : String :=
  String.ofList ('/' :: (one ++ '/' :: (two ++ '/' :: "list".toList)))

theorem Request.segments_listTarget {request : Request} {one two : List Char}
    (target : request.target = listTarget one two)
    (apart : ∀ char ∈ ['/', '?', '#'], char ∉ one ∧ char ∉ two) :
    request.segments = [one, two, "list".toList] ∧ request.query = [] := by
  have fragment : '#' ∉ request.target.toList := by
    have outside := apart '#' (by decide)
    simp [target, listTarget, outside]
  have queried : '?' ∉ request.target.toList := by
    have outside := apart '?' (by decide)
    simp [target, listTarget, outside]
  have whole : request.withoutFragment = request.target.toList := by
    rw [withoutFragment, cutAt_apart fragment]
  have path : request.path = request.target.toList := by
    rw [Request.path, whole, cutAt_apart queried]
  have slash := apart '/' (by decide)
  constructor
  · rw [segments, path, target, listTarget, String.toList_ofList]
    have lead := splitAt_append '/' [] (one ++ '/' :: (two ++ '/' :: "list".toList)) (by simp)
    rw [List.nil_append] at lead
    rw [lead, splitAt_append _ _ _ slash.1, splitAt_append _ _ _ slash.2,
      splitAt_part _ _ (by decide), List.tail_cons]
  · rw [query, whole, cutAt_apart queried]
    rfl

-- What a segment is written as, by a client that escapes at least what it has to.
theorem parameter?_encode {reserved : Char → Bool}
    (reserves : ∀ char ∈ delimiters, reserved char = true) (segment : String) :
    Route.parameter? (Percent.encode reserved segment.toList) = some segment :=
  Percent.decodeText?_encode (reserves '%' (by decide)) segment

theorem encode_ne_activate {reserved : Char → Bool}
    (reserves : ∀ char ∈ delimiters, reserved char = true) {segment : String}
    (other : segment ≠ "activate") :
    Percent.encode reserved segment.toList ≠ "activate".toList := by
  intro same
  have decoded := parameter?_encode reserves segment
  have literally : Route.parameter? "activate".toList = some "activate" := by decide +kernel
  rw [same, literally] at decoded
  exact other (Option.some.inj decoded).symm

-- The pages of the documentation come before all lists whose first segment is theirs.
theorem Pages.find?_listing (one two : List Char) :
    find? [one, two, "list".toList] =
      if one = "swagger-ui".toList then some (.empty 404) else none := by
  have named : String.ofList one = "swagger-ui" ↔ one = "swagger-ui".toList :=
    ⟨fun same => by rw [← same, String.toList_ofList], fun same => by rw [same, String.ofList_toList]⟩
  simp only [← named, find?, List.map_cons, List.map_nil]
  have shorter {other : List String} (short : other.length < 3) :
      [String.ofList one, String.ofList two, String.ofList "list".toList] ≠ other := fun same =>
    absurd (congrArg List.length same) (Nat.ne_of_gt short)
  split
  next same => exact absurd same (shorter (by decide))
  next same => exact absurd same (shorter (by decide))
  next same => exact absurd same (shorter (by decide))
  next same => exact absurd same (shorter (by decide))
  next same => rw [if_pos (List.cons.inj same).1]
  next other => rw [if_neg fun same => other _ (by rw [same])]

namespace App

variable {app : App} {call : Call}

theorem run_findingPage (app : App) (draw : Draw) (query : ListQuery) :
    run draw 4 (.findingPage query, app) =
      match app.registrar.store.list query.offset query.limit with
      | .ok participants =>
        (.answered (Participant.listResponse (query.format.getD .json) participants), app)
      | .error error => (problem (listProblem error), app) := by
  cases found : app.registrar.store.findPage query.offset query.limit with
  | error error =>
    have first : app.advance draw (.findingPage query) = (problem (listProblem error), app) := by
      simp only [advance, found]
    simp only [Store.list, found, bind, Except.bind]
    exact (congrArg (run draw 3) first).trans (run_answered draw 3 _ app)
  | ok page =>
    have first : app.advance draw (.findingPage query) =
        (.loadingPage (query.format.getD .json) page, app) := by
      simp only [advance, found]
    simp only [Store.list, found, bind, Except.bind]
    rw [run, first, run]
    cases loaded : app.registrar.store.loadPage page with
    | error error =>
      simp only [advance, loaded]
      exact run_answered draw 2 _ app
    | ok participants =>
      simp only [advance, loaded]
      exact run_answered draw 2 _ app

structure IsListed (app : App) (call : Call) : Prop where
  handled : (app.receive call.draw call.clock call.request).1 = .findingPage {}
  whole (table : Table) (serves : app.registrar.store.Serves table) :
    app.registrar.store.list none none = Table.openRows app.registrar.store.cipher table.rows
  listed (participants : List Participant)
    (listed : app.registrar.store.list none none = .ok participants) :
    (app.respondTo call).1.status = 200 ∧
      ("content-type", "application/json") ∈ (app.respondTo call).1.headers ∧
      (app.respondTo call).1.body = Participant.listJson participants
  failed (error : StoreError) (failed : app.registrar.store.list none none = .error error) :
    (app.respondTo call).1.status = (listProblem error).status ∧
      (app.respondTo call).1.body = (Response.problem (listProblem error)).body

section Asked

variable {first second : String} {reserved : Char → Bool}
  (reserves : ∀ char ∈ delimiters, reserved char = true)
  (target : call.request.target = listTarget (Percent.encode reserved first.toList)
    (Percent.encode reserved second.toList))
  (reads : call.request.method = "GET") (passed : app.Passes call)
include reserves target

theorem segments_asked :
    call.request.segments = [Percent.encode reserved first.toList,
        Percent.encode reserved second.toList, "list".toList] ∧
      call.request.query = [] := by
  refine Request.segments_listTarget target fun char member => ?_
  have kept := reserves char (List.mem_cons_of_mem _ member)
  have plain : ∀ char ∈ ['/', '?', '#'], char ≠ '%' ∧
      ∀ value < 16, char ≠ Hex.upperDigit value := by
    simp only [List.forall_mem_cons]
    exact ⟨by decide, by decide, by decide, by simp⟩
  obtain ⟨sign, digits⟩ := plain char member
  exact ⟨Percent.not_mem_encode kept sign digits _, Percent.not_mem_encode kept sign digits _⟩

include reads

theorem respond?_asked : Pages.respond? call.request =
    if Percent.encode reserved first.toList = "swagger-ui".toList then some (.empty 404)
    else none := by
  obtain ⟨shape, -⟩ := segments_asked reserves target
  rw [Pages.respond?, shape, Pages.find?_listing]
  split
  · simp [Pages.readOnly, reads]
  · rfl

theorem answers_asked {server : Server} {entropy : Bytes} {request : Request}
    (asked : server.call entropy request = call) (serving : server.isServing = true)
    (prompt : server.slowness = 0) :
    (server.receive entropy request).2.answers = server.answers ++ [(server.accepted,
      some (if Percent.encode reserved first.toList = "swagger-ui".toList then .empty 404
        else (server.app.respondTo call).1))] := by
  subst asked
  have found := @respond?_asked (server.call entropy request) _ _ _ reserves target reads
  split at found
  next documented =>
    rw [if_pos documented]
    exact (Server.receive_page serving found).1
  next elsewhere =>
    have whole : request.method ≠ "HEAD" := by
      have same : request.method = "GET" := reads
      rw [same]
      decide
    rw [if_neg elsewhere, Server.receive_prompt serving prompt found, Server.shown, if_neg whole]

include passed

theorem receive_asked (path : app.listPath = (first, second))
    (elsewhere : Percent.encode reserved first.toList ≠ "activate".toList) :
    app.receive call.draw call.clock call.request =
      (.findingPage {}, app.charged call.clock call.request) := by
  obtain ⟨shape, query⟩ := segments_asked reserves target
  have found := ((find?_of_shape shape).resolve_left fun activates => elsewhere activates.2).1
  have queried : ListQuery.parse? call.request.query = some {} := by
    rw [query]
    rfl
  have kept : (app.charged call.clock call.request).listPath = (first, second) := path
  rw [receive_passed found rfl (by rw [reads]; rfl) passed, handle, list,
    parameter?_encode reserves, parameter?_encode reserves, queried, kept]
  simp

theorem respondTo_activating
    (activates : Percent.encode reserved first.toList = "activate".toList) :
    (app.respondTo call).1.status = 405 := by
  obtain ⟨shape, -⟩ := segments_asked reserves target
  have found := ((find?_of_shape shape).resolve_right fun lists => lists.2 activates).1
  have plain : call.request.method ≠ "OPTIONS" := by
    rw [reads]
    decide
  have received : app.receive call.draw call.clock call.request =
      (.answered (.empty 405), app.charged call.clock call.request) := by
    rw [receive_served app call.draw call.clock found rfl plain passed.1 passed.2, serve,
      if_neg (by rw [reads]; simp [Route.allows, Route.isPost])]
  rw [respondTo, respond_answered received, status_deliver]
  rfl

theorem isListed_asked (path : app.listPath = (first, second))
    (elsewhere : Percent.encode reserved first.toList ≠ "activate".toList) : app.IsListed call := by
  have received := receive_asked reserves target reads passed path elsewhere
  have ran := (app.charged call.clock call.request).run_findingPage call.draw {}
  have same : (app.charged call.clock call.request).registrar.store = app.registrar.store := rfl
  have whole : call.request.method ≠ "HEAD" := by
    rw [reads]
    decide
  simp only [same] at ran
  refine ⟨by rw [received], fun table serves => ?_, fun participants listed => ?_,
    fun error failed => ?_⟩
  · rcases serves.list_cases none none with ⟨past | empty, -⟩ | ⟨-, -, listed⟩
    · exact absurd past (by simp)
    · cases empty
    · simpa using listed
  · rw [listed] at ran
    simp only [respondTo, respond, received, ran]
    rw [status_deliver, body_deliver _ _ _ _ (.inl whole)]
    exact ⟨rfl, headers_deliver _ _ _ _ List.mem_cons_self, rfl⟩
  · rw [failed] at ran
    simp only [respondTo, respond, received, ran, problem]
    rw [status_deliver, body_deliver _ _ _ _ (.inl whole)]
    exact ⟨rfl, rfl⟩

end Asked

theorem list_path_served (security : Settings.Security) (first second : String) :
    (security.segments? = some (first, second) ↔
        IsSegment first ∧ IsSegment second ∧
          ∃ lead tail, security.listPath.toList = List.replicate lead '/' ++
            (first.toList ++ '/' :: second.toList) ++ List.replicate tail '/') ∧
      (security.segments? = some (first, second) →
        ∀ (reserved : Char → Bool) (app : App) (call : Call),
          (∀ char ∈ delimiters, reserved char = true) → app.listPath = (first, second) →
          call.request.target = listTarget (Percent.encode reserved first.toList)
            (Percent.encode reserved second.toList) →
          call.request.method = "GET" → app.Passes call →
          (first ≠ "activate" → Percent.encode reserved first.toList ≠ "activate".toList) ∧
          (Percent.encode reserved first.toList ≠ "activate".toList → app.IsListed call) ∧
          (Percent.encode reserved first.toList = "activate".toList →
            (app.respondTo call).1.status = 405) ∧
          ∀ (server : Server) (entropy : Bytes) (request : Request), server.app = app →
            server.call entropy request = call → server.isServing = true →
            server.slowness = 0 →
            (server.receive entropy request).2.answers = server.answers ++ [(server.accepted,
              some (if Percent.encode reserved first.toList = "swagger-ui".toList then .empty 404
                else (app.respondTo call).1))]) := by
  refine ⟨Settings.Security.segments?_eq_some_iff, ?_⟩
  intro _ reserved app call reserves path target reads passed
  refine ⟨encode_ne_activate reserves, isListed_asked reserves target reads passed path,
    respondTo_activating reserves target reads passed, ?_⟩
  rintro server entropy request rfl asked serving prompt
  exact answers_asked reserves target reads asked serving prompt

def club (first second : String) : App :=
  withStore { cipher := Office.foundation.cipher } { lodge with listPath := (first, second) }

def stroll (target : String) : Call where
  draw := dawn
  clock := 0
  request := { target, headers := [("x-api-key", "key")] }

theorem passes_stroll (first second target : String) :
    (club first second).Passes (stroll target) := by
  have admitted : lodge.admits 0 (stroll "").request = true := by decide +kernel
  have hasKey : lodge.hasKey (stroll "").request = true := by decide
  exact ⟨admitted, hasKey⟩

def isReserved (char : Char) : Bool := char ∈ ' ' :: delimiters

theorem isReserved_delimiters : ∀ char ∈ delimiters, isReserved char = true := fun _ member =>
  decide_eq_true (List.mem_cons_of_mem _ member)

def clubhouse (app : App) : Server where
  settings := default
  app := app
  epoch := dawn.now
  sweeper := { interval := 1000 }

theorem call_clubhouse (app : App) (target : String) :
    (clubhouse app).call [] (stroll target).request = stroll target := by
  have trimmed : Server.trimmedHeaders (stroll target).request = (stroll target).request := rfl
  have now : dawn.now.addMillis 0 = dawn.now := by decide
  simp only [Server.call, Server.draw, clubhouse, trimmed, now, Nat.zero_mul]
  rfl

theorem list_path_served_club :
    (⟨"key", "/a b/c//"⟩ : Settings.Security).segments? = some ("a b", "c") ∧
      (club "a b" "c").IsListed (stroll "/a%20b/c/list") ∧
      ((club "activate" "c").respondTo (stroll "/activate/c/list")).1.status = 405 ∧
      ((clubhouse (club "swagger-ui" "c")).receive []
        (stroll "/swagger-ui/c/list").request).2.answers = [(0, some (.empty 404))] := by
  have accepted : (⟨"key", "/a b/c//"⟩ : Settings.Security).segments? = some ("a b", "c") := by
    decide +kernel
  have lured : (⟨"key", "activate/c"⟩ : Settings.Security).segments? = some ("activate", "c") := by
    decide +kernel
  have documented : (⟨"key", "swagger-ui/c"⟩ : Settings.Security).segments? =
      some ("swagger-ui", "c") := by
    decide +kernel
  obtain ⟨-, listed, -⟩ := (list_path_served _ _ _).2 accepted isReserved (club "a b" "c")
    (stroll "/a%20b/c/list") isReserved_delimiters rfl (by decide +kernel) rfl (passes_stroll _ _ _)
  obtain ⟨-, -, refused, -⟩ := (list_path_served _ _ _).2 lured isReserved (club "activate" "c")
    (stroll "/activate/c/list") isReserved_delimiters rfl (by decide +kernel) rfl (passes_stroll _ _ _)
  obtain ⟨-, -, -, answered⟩ := (list_path_served _ _ _).2 documented isReserved
    (club "swagger-ui" "c") (stroll "/swagger-ui/c/list") isReserved_delimiters rfl
    (by decide +kernel) rfl (passes_stroll _ _ _)
  have unserved := answered (clubhouse (club "swagger-ui" "c")) [] _ rfl (call_clubhouse _ _) rfl rfl
  rw [if_pos (by decide +kernel)] at unserved
  exact ⟨accepted, listed (by decide +kernel), refused (by decide +kernel), unserved⟩

theorem activate_accepted_unserved :
    (⟨"key", "activate/c"⟩ : Settings.Security).segments? = some ("activate", "c") ∧
      (stroll "/activate/c/list").request.target =
        listTarget (Percent.encode isReserved "activate".toList)
          (Percent.encode isReserved "c".toList) ∧
      (club "activate" "c").Passes (stroll "/activate/c/list") ∧
      (club "activate" "c").registrar.store.list none none = .ok [] ∧
      ((club "activate" "c").respondTo (stroll "/activate/c/list")).1.status ≠ 200 := by
  have target : (stroll "/activate/c/list").request.target =
      listTarget (Percent.encode isReserved "activate".toList)
        (Percent.encode isReserved "c".toList) := by
    decide +kernel
  refine ⟨by decide +kernel, target, passes_stroll _ _ _, rfl, ?_⟩
  rw [respondTo_activating isReserved_delimiters target rfl (passes_stroll _ _ _) (by decide +kernel)]
  decide

end App

end Enrolment
