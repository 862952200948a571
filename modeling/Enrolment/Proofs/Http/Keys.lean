import Enrolment.Proofs.Http.Sessions
import Enrolment.Proofs.Text.Bytes

set_option autoImplicit false

namespace Enrolment

namespace Headers

def IsTrimmed (codes : List Nat) : Prop :=
  ∀ code, codes.head? = some code ∨ codes.getLast? = some code → code ≠ 32 ∧ code ≠ 9

structure IsCarried (value : Bytes) : Prop where
  bytes : ∀ byte ∈ value, (32 ≤ byte.toNat ∧ byte.toNat ≠ 127) ∨ byte.toNat = 9
  trimmed : IsTrimmed (value.map UInt8.toNat)

structure IsPresentable (text : String) : Prop where
  isHeaderText : isHeaderText text = true
  trimmed : IsTrimmed (text.toList.map Char.toNat)

theorem toNat_byteChar (byte : UInt8) : (Char.ofNat byte.toNat).toNat = byte.toNat := by
  have valid : byte.toNat.isValidChar := .inl (by have := byte.toNat_lt; omega)
  rw [Char.ofNat, dif_pos valid]
  rfl

theorem valueText_injective {left right : Bytes} (same : valueText left = valueText right) :
    left = right := by
  have read := congrArg String.toList same
  simp only [valueText, String.toList_ofList] at read
  refine List.map_injective_iff.mpr ?_ read
  intro one other alike
  have codes := congrArg Char.toNat alike
  rw [toNat_byteChar, toNat_byteChar] at codes
  exact UInt8.toNat_inj.mp codes

theorem isHeaderText_iff {text : String} :
    isHeaderText text = true ↔
      ∀ char ∈ text.toList, (32 ≤ char.toNat ∧ char.toNat < 127) ∨ char.toNat = 9 := by
  have tab (char : Char) : char = '\t' ↔ char.toNat = 9 := Char.toNat_inj (d := '\t') |>.symm
  simp [isHeaderText, tab]

theorem ascii_of_isHeaderText {text : String} (readable : isHeaderText text = true) :
    ∀ char ∈ text.toList, char.toNat < 128 := by
  intro char member
  have := isHeaderText_iff.mp readable char member
  omega

theorem codes_ofString {text : String} (readable : isHeaderText text = true) :
    (Bytes.ofString text).map UInt8.toNat = text.toList.map Char.toNat := by
  have ascii := ascii_of_isHeaderText readable
  rw [Bytes.ofString_eq, Bytes.ofChars_ascii ascii, List.map_map]
  apply List.map_congr_left
  intro char member
  have := ascii char member
  rw [Function.comp_apply, UInt8.toNat_ofNat']
  omega

theorem valueText_ofString {text : String} (readable : isHeaderText text = true) :
    valueText (Bytes.ofString text) = text := by
  have chars := congrArg (List.map Char.ofNat) (codes_ofString readable)
  simp only [List.map_map, Function.comp_def, Char.ofNat_toNat, List.map_id'] at chars
  rw [valueText, chars, String.ofList_toList]

theorem isCarried_ofString_iff {text : String} (readable : isHeaderText text = true) :
    IsCarried (Bytes.ofString text) ↔ IsPresentable text := by
  constructor
  · intro carried
    refine ⟨readable, ?_⟩
    rw [← codes_ofString readable]
    exact carried.trimmed
  · intro presentable
    constructor
    case bytes =>
      intro byte member
      have code := List.mem_map_of_mem (f := UInt8.toNat) member
      rw [codes_ofString readable] at code
      obtain ⟨char, member, same⟩ := List.mem_map.mp code
      have := isHeaderText_iff.mp readable char member
      omega
    case trimmed =>
      rw [codes_ofString readable]
      exact presentable.trimmed

end Headers

namespace App

open Headers

structure TakesKeys (parts : Parts) (app : App) : Prop where
  own : parts.apiKey = some app.apiKey
  given : app.apiKey ≠ ""
  any (key : String) (given : key ≠ "") :
    assemble { parts with apiKey := some key } = .ok { app with apiKey := key }

theorem assemble_complete {key : String} (given : key ≠ "") (tokens : TokenService) (store : Store)
    (listPath : String × String) (base : Url) (admission : Admission Float)
    (environment : Environment) :
    assemble ⟨some tokens, some store, true, some key, some listPath, some base, admission,
        environment⟩ =
      .ok ⟨{ tokens, store, base }, admission, key, listPath, environment⟩ := by
  have filled : ¬ key.isEmpty = true := by simpa using given
  simp only [assemble, require, bind, Except.bind, if_true, if_neg filled]
  rfl

theorem takesKeys_of_assemble {parts : Parts} {app : App} (assembled : assemble parts = .ok app) :
    TakesKeys parts app := by
  rcases parts with ⟨tokens, store, hasNotifier, apiKey, listPath, base, admission, environment⟩
  cases tokens with
  | none => cases assembled
  | some tokens =>
  cases store with
  | none => cases assembled
  | some store =>
  cases hasNotifier with
  | false => cases assembled
  | true =>
  cases apiKey with
  | none => cases assembled
  | some own =>
  have given : own ≠ "" := by
    rintro rfl
    cases assembled
  have filled : own.isEmpty = false := by simpa using given
  cases listPath with
  | none => simp [assemble, require, filled, bind, Except.bind] at assembled
  | some listPath =>
  cases base with
  | none => simp [assemble, require, filled, bind, Except.bind] at assembled
  | some base =>
  rw [assemble_complete given] at assembled
  cases assembled
  refine ⟨rfl, given, fun key given => ?_⟩
  exact assemble_complete given tokens store listPath base admission environment

def Presents (request : Request) (value : Bytes) : Prop :=
  request.headers.first? "x-api-key" = some (valueText value)

theorem presents_header (target : String) (value : Bytes) :
    Presents { target, headers := [("x-api-key", valueText value)] } value := by
  have named : (lowerText "x-api-key" == "x-api-key") = true := by decide
  simp [Presents, Headers.first?, named]

theorem hasKey_iff {app : App} {request : Request} {value : Bytes}
    (presents : Presents request value) :
    app.hasKey request = true ↔
      isHeaderText app.apiKey = true ∧ value = Bytes.ofString app.apiKey := by
  unfold hasKey Request.headerText?
  rw [presents, decide_eq_true_iff]
  constructor
  · intro opens
    by_cases readable : isHeaderText (valueText value) = true
    · simp only [readable, if_true, Option.some.injEq] at opens
      have same := opens
      rw [same] at readable
      exact ⟨readable, valueText_injective (same.trans (valueText_ofString readable).symm)⟩
    · simp only [readable] at opens
      cases opens
  · rintro ⟨readable, rfl⟩
    simp only [valueText_ofString readable, readable, if_true]

structure AsksFor (app : App) (key : String) : Prop where
  answered (draw : Draw) (clock : Nat) {request : Request} {route : Route} {value : Bytes}
    (found : Route.find? request.segments = some route) (gated : route.isGated = true)
    (plain : request.method ≠ "OPTIONS") (admitted : app.admits clock request = true)
    (presents : Presents request value) :
    app.receive draw clock request =
      if isHeaderText key = true ∧ value = Bytes.ofString key then
        (app.charged clock request).serve draw request route
      else (problem (.bare 401), app.charged clock request)
  -- Whether any client can open the gate at all.
  reachable :
    (∃ request value, IsCarried value ∧ Presents request value ∧ app.hasKey request = true) ↔
      IsPresentable key

theorem asksFor_apiKey (app : App) : app.AsksFor app.apiKey := by
  constructor
  case answered =>
    intro draw clock request route value found gated plain admitted presents
    split
    next opens =>
      have hasKey := (hasKey_iff presents).mpr opens
      exact app.receive_served draw clock found gated plain admitted hasKey
    next differs =>
      have keyless := eq_false_of_ne_true fun hasKey => differs ((hasKey_iff presents).mp hasKey)
      exact app.receive_locked draw clock found gated plain admitted keyless
  case reachable =>
    constructor
    · rintro ⟨request, value, carried, presents, opens⟩
      obtain ⟨readable, rfl⟩ := (hasKey_iff presents).mp opens
      exact (isCarried_ofString_iff readable).mp carried
    · intro presentable
      have readable := presentable.isHeaderText
      have carried := (isCarried_ofString_iff readable).mpr presentable
      have presents := presents_header "/health" (Bytes.ofString app.apiKey)
      refine ⟨_, _, carried, presents, ?_⟩
      exact (hasKey_iff presents).mpr ⟨readable, rfl⟩

theorem key_asked_for {parts : Parts} {app : App} (assembled : assemble parts = .ok app)
    (session : List Occurrence) :
    TakesKeys parts app ∧ (app.after session).AsksFor app.apiKey := by
  have kept := (app.after_gates session).2
  exact ⟨takesKeys_of_assemble assembled, kept ▸ asksFor_apiKey (app.after session)⟩

def partsWith (key : String) : Parts where
  tokens := some Office.frontDesk.tokens
  store := some Office.frontDesk.store
  hasNotifier := true
  apiKey := some key
  listPath := some ("secret", "path")
  base := some Office.frontDesk.base

def appWith (key : String) : App where
  registrar :=
    { tokens := Office.frontDesk.tokens, store := Office.frontDesk.store,
      base := Office.frontDesk.base }
  apiKey := key
  listPath := ("secret", "path")

def bringing (value : Bytes) : Request where
  target := "/health"
  headers := [("x-api-key", valueText value)]

theorem find_bringing (value : Bytes) :
    Route.find? (bringing value).segments = some .health := by
  change Route.find? ({ target := "/health" } : Request).segments = some .health
  decide

theorem key_asked_for_plain :
    assemble (partsWith "key") = .ok (appWith "key") ∧
      assemble (partsWith "é") = .ok (appWith "é") ∧
      (appWith "key").receive dawn 0 (bringing [107, 101, 121]) =
        (.answered healthResponse, appWith "key") ∧
      (appWith "key").receive dawn 0 (bringing [107, 101, 122]) =
        (problem (.bare 401), appWith "key") := by
  have assembled : assemble (partsWith "key") = .ok (appWith "key") := rfl
  obtain ⟨takes, asks⟩ := key_asked_for assembled []
  have bytes : Bytes.ofString (appWith "key").apiKey = [107, 101, 121] := by decide +kernel
  refine ⟨assembled, takes.any "é" (by decide), ?_, ?_⟩
  · have answered := asks.answered dawn 0 (find_bringing [107, 101, 121]) rfl (by decide) rfl
      (presents_header _ _)
    rw [bytes, if_pos ⟨by decide, rfl⟩] at answered
    exact answered
  · have answered := asks.answered dawn 0 (find_bringing [107, 101, 122]) rfl (by decide) rfl
      (presents_header _ _)
    rw [bytes, if_neg (by decide)] at answered
    exact answered

theorem isCarried_accent : IsCarried [0xC3, 0xA9] := by
  constructor
  case bytes => exact List.forall_iff_forall_mem.mp (by decide)
  case trimmed =>
    rintro code (first | last)
    · cases first
      decide
    · cases last
      decide

theorem accent_refused :
    assemble (partsWith "é") = .ok (appWith "é") ∧ IsCarried [0xC3, 0xA9] ∧
      Presents (bringing [0xC3, 0xA9]) [0xC3, 0xA9] ∧
      [0xC3, 0xA9] = Bytes.ofString (appWith "é").apiKey ∧
      ((appWith "é").respond dawn 0 (bringing [0xC3, 0xA9])).1.status = 401 ∧
      ¬ ∃ request value, IsCarried value ∧ Presents request value ∧
        (appWith "é").hasKey request = true := by
  have unreadable : isHeaderText (appWith "é").apiKey = false := by decide
  have presents := presents_header "/health" [0xC3, 0xA9]
  have asks := (appWith "é").asksFor_apiKey
  refine ⟨rfl, isCarried_accent, presents, by decide +kernel, ?_, ?_⟩
  · have answered := asks.answered dawn 0 (find_bringing _) rfl (by decide) rfl presents
    rw [unreadable, if_neg (by simp)] at answered
    rw [respond_answered answered, status_deliver]
    rfl
  · rw [asks.reachable]
    intro presentable
    exact ne_true_of_eq_false unreadable presentable.isHeaderText

end App

end Enrolment
