import Enrolment.Http.App
import Enrolment.Proofs.Json.Members

set_option autoImplicit false

namespace Enrolment.Claims

open Json (Member Pair WritesObject IsSpoilt given told document)

def entries (claims : Claims) : List (Member Claims) :=
  [⟨.defaulted "address" Json.text fun value claims => { claims with address := value },
      Json.quote claims.address, fun draft => { draft with address := claims.address }⟩,
   ⟨.defaulted "email" Json.text fun value claims => { claims with email := value },
      Json.quote claims.email, fun draft => { draft with email := claims.email }⟩,
   ⟨.defaulted "sponsor" Json.text fun value claims => { claims with sponsor := value },
      Json.quote claims.sponsor, fun draft => { draft with sponsor := claims.sponsor }⟩]

theorem document_toJson (claims : Claims) :
    document reader (Bytes.ofString claims.toJson) = .ok claims := by
  have distinct : (claims.entries.map Member.name).Nodup := by
    change ["address", "email", "sponsor"].Nodup
    decide
  have reads : ∀ entry ∈ claims.entries, entry.Reads := by
    simp only [entries, List.forall_mem_cons, List.not_mem_nil, false_implies, implies_true,
      and_true]
    exact ⟨Json.reads_defaulted _ _ _ _ _ fun rest _ => Json.text_quote _ rest,
      Json.reads_defaulted _ _ _ _ _ fun rest _ => Json.text_quote _ rest,
      Json.reads_defaulted _ _ _ _ _ fun rest _ => Json.text_quote _ rest⟩
  exact Json.document_object claims.entries distinct reads {}

def settings : List (String × (String → Claims → Claims)) :=
  [("address", fun value claims => { claims with address := value }),
   ("email", fun value claims => { claims with email := value }),
   ("sponsor", fun value claims => { claims with sponsor := value })]

def names : List String := settings.map Prod.fst

theorem reader_eq : reader = Json.record (Json.textFields settings) {} := rfl

def stated (pairs : List Pair) : Claims :=
  ⟨told pairs "address", told pairs "email", told pairs "sponsor"⟩

theorem settings_eq_some {name : String} {set : String → Claims → Claims}
    (found : settings.lookup name = some set) :
    name = "address" ∧ set = (fun value claims => { claims with address := value }) ∨
    name = "email" ∧ set = (fun value claims => { claims with email := value }) ∨
    name = "sponsor" ∧ set = (fun value claims => { claims with sponsor := value }) := by
  simp only [settings, List.lookup_cons, List.lookup_nil] at found
  grind

theorem isSome_lookup_settings (name : String) :
    (settings.lookup name).isSome ↔ name ∈ names := by
  simp only [names, settings, List.map_cons, List.map_nil, List.mem_cons, List.not_mem_nil,
    or_false, List.lookup_cons, List.lookup_nil]
  grind

theorem isSome_settle (pairs : List Pair) :
    (Json.settle settings [] {} pairs).isSome ↔ ∀ name ∈ names, ¬IsSpoilt pairs name := by
  rw [Json.settle_isSome]
  refine forall_congr' fun name => ?_
  rw [isSome_lookup_settings, Json.not_isSpoilt_iff]
  simp [Json.IsOpen]

theorem told_eq {pairs : List Pair} {final : Claims} {name : String} {get : Claims → String}
    (known : name ∈ names) (absent : get {} = "")
    (sets : ∀ other set, settings.lookup other = some set → ∀ text draft,
      get (set text draft) = if other = name then text else get draft)
    (settled : Json.settle settings [] {} pairs = some final) : told pairs name = get final := by
  rcases Json.settle_get settings ((isSome_lookup_settings name).mpr known) sets settled with
    once | ⟨never, kept⟩
  · simp [told, once]
  · simp [told, never, kept, absent]

theorem settle_stated {pairs : List Pair} (clean : ∀ name ∈ names, ¬IsSpoilt pairs name) :
    Json.settle settings [] {} pairs = some (stated pairs) := by
  obtain ⟨final, settled⟩ := Option.isSome_iff_exists.mp ((isSome_settle pairs).mpr clean)
  have address : told pairs "address" = final.address :=
    told_eq (by decide) rfl (fun other set found text draft => by
      obtain ⟨rfl, rfl⟩ | ⟨rfl, rfl⟩ | ⟨rfl, rfl⟩ := settings_eq_some found <;> rfl) settled
  have email : told pairs "email" = final.email :=
    told_eq (by decide) rfl (fun other set found text draft => by
      obtain ⟨rfl, rfl⟩ | ⟨rfl, rfl⟩ | ⟨rfl, rfl⟩ := settings_eq_some found <;> rfl) settled
  have sponsor : told pairs "sponsor" = final.sponsor :=
    told_eq (by decide) rfl (fun other set found text draft => by
      obtain ⟨rfl, rfl⟩ | ⟨rfl, rfl⟩ | ⟨rfl, rfl⟩ := settings_eq_some found <;> rfl) settled
  rw [settled, stated, address, email, sponsor]

theorem settle_spoilt {pairs : List Pair} (spoilt : ∃ name ∈ names, IsSpoilt pairs name) :
    Json.settle settings [] {} pairs = none := by
  rw [← Option.not_isSome_iff_eq_none, isSome_settle]
  obtain ⟨name, known, isSpoilt⟩ := spoilt
  exact fun clean => clean name known isSpoilt

theorem document_stated {pairs : List Pair} {object : Bytes} (writes : WritesObject pairs object)
    (clean : ∀ name ∈ names, ¬IsSpoilt pairs name) :
    document reader object = .ok (stated pairs) := by
  have read := Json.document_pairs settings {} writes
  rwa [settle_stated clean] at read

theorem document_spoilt {pairs : List Pair} {object : Bytes} (writes : WritesObject pairs object)
    (spoilt : ∃ name ∈ names, IsSpoilt pairs name) :
    ∃ fault, document reader object = .error fault := by
  have read := Json.document_pairs settings {} writes
  rwa [settle_spoilt spoilt] at read

def Agree (pairs others : List Pair) : Prop :=
  ((pairs.filter fun pair => pair.name ∈ names).map fun pair => (pair.name, pair.text)).Perm
    ((others.filter fun pair => pair.name ∈ names).map fun pair => (pair.name, pair.text))

theorem Agree.given {pairs others : List Pair} (agree : Agree pairs others) {name : String}
    (known : name ∈ names) : (given pairs name).Perm (given others name) := by
  have same := (agree.filter fun said => said.1 = name).map Prod.snd
  have shape (pairs : List Pair) :
      ((((pairs.filter fun pair => pair.name ∈ names).map fun pair =>
        (pair.name, pair.text)).filter fun said => said.1 = name).map Prod.snd) =
        Json.given pairs name := by
    simp only [Json.given, List.filter_map, List.map_map, List.filter_filter, Function.comp_def]
    congr 1
    refine List.filter_congr fun pair _ => ?_
    by_cases same : pair.name = name
    · simp [same, known]
    · simp [same]
  rwa [shape, shape] at same

theorem Agree.isSpoilt_iff {pairs others : List Pair} (agree : Agree pairs others) {name : String}
    (known : name ∈ names) : IsSpoilt pairs name ↔ IsSpoilt others name := by
  have same := agree.given known
  rw [IsSpoilt, IsSpoilt, same.length_eq, same.mem_iff]

theorem Agree.told_eq {pairs others : List Pair} (agree : Agree pairs others) {name : String}
    (known : name ∈ names) (clean : ¬IsSpoilt pairs name) : told pairs name = told others name := by
  have same := agree.given known
  rcases (Json.not_isSpoilt_iff pairs name).mp clean with none | ⟨text, once⟩
  · rw [none, List.nil_perm] at same
    rw [told, told, none, same]
  · rw [once, List.singleton_perm] at same
    rw [told, told, once, ← same]

theorem document_agree {pairs others : List Pair} {object other : Bytes}
    (writes : WritesObject pairs object) (writesOther : WritesObject others other)
    (agree : Agree pairs others) :
    (document reader object).toOption = (document reader other).toOption := by
  by_cases clean : ∀ name ∈ names, ¬IsSpoilt pairs name
  · have cleanOther : ∀ name ∈ names, ¬IsSpoilt others name := fun name known =>
      mt (agree.isSpoilt_iff known).mpr (clean name known)
    have told (name : String) (known : name ∈ names) : told pairs name = told others name :=
      agree.told_eq known (clean name known)
    rw [document_stated writes clean, document_stated writesOther cleanOther, stated, stated,
      told "address" (by decide), told "email" (by decide), told "sponsor" (by decide)]
  · push Not at clean
    obtain ⟨name, known, spoilt⟩ := clean
    obtain ⟨fault, refused⟩ := document_spoilt writes ⟨name, known, spoilt⟩
    obtain ⟨other, refusedOther⟩ :=
      document_spoilt writesOther ⟨name, known, (agree.isSpoilt_iff known).mp spoilt⟩
    rw [refused, refusedOther]
    rfl

theorem readClaims_object {pairs : List Pair} {object : Bytes} (writes : WritesObject pairs object)
    {request : Request} (declares : App.declaresJson request = true)
    (short : request.body.length ≤ App.bodyLimit) {behind : Bytes}
    (body : request.body = object ++ behind) :
    (App.readClaims request).toOption = (document reader object).toOption := by
  have alone := Json.document_pairs settings {} writes
  have read := Json.record_pairs settings {} writes behind
  rw [← reader_eq] at alone read
  have fits : ¬request.body.length > App.bodyLimit := by omega
  simp only [App.readClaims, declares, Bool.not_true, Bool.false_eq_true, if_false, fits]
  rw [body]
  split at read
  next settled =>
    rw [settled] at alone
    obtain ⟨trail, -, read⟩ := read
    rw [alone, read]
    rfl
  next settled =>
    rw [settled] at alone
    obtain ⟨fault, alone⟩ := alone
    obtain ⟨other, read⟩ := read
    rw [alone, read]
    rfl

theorem wire_format :
    (∀ claims : Claims, document reader (Bytes.ofString claims.toJson) = .ok claims) ∧
    ∀ (pairs : List Pair) (object : Bytes), WritesObject pairs object →
      ((∀ name ∈ names, ¬IsSpoilt pairs name) → document reader object = .ok (stated pairs)) ∧
      ((∃ name ∈ names, IsSpoilt pairs name) → ∃ fault, document reader object = .error fault) ∧
      (∀ others other, WritesObject others other → Agree pairs others →
        (document reader object).toOption = (document reader other).toOption) ∧
      ∀ request behind, App.declaresJson request = true →
        request.body.length ≤ App.bodyLimit → request.body = object ++ behind →
        (App.readClaims request).toOption = (document reader object).toOption := by
  refine ⟨document_toJson, fun pairs object writes => ⟨?_, ?_, ?_, ?_⟩⟩
  · exact document_stated writes
  · exact document_spoilt writes
  · exact fun others other writesOther agree => document_agree writes writesOther agree
  · exact fun request behind declares short body => readClaims_object writes declares short body

theorem wire_format_mixed :
    document reader (Bytes.ofString "\x7b\"k\":[null] ,\"email\":\"\\u0041\"\x7d") =
      .ok ⟨"", "A", ""⟩ := by
  have unit : Json.SpellsUnit [48, 48, 52, 49] 'A'.toNat :=
    .digits (show Json.IsHexDigit 48 0 from rfl) (show Json.IsHexDigit 48 0 from rfl)
      (show Json.IsHexDigit 52 4 from rfl) (show Json.IsHexDigit 49 1 from rfl)
  have spells : Json.SpellsText "A" [92, 117, 48, 48, 52, 49] :=
    ⟨[[92, 117, 48, 48, 52, 49]], .cons (.unit unit) .nil, rfl⟩
  have blank : Json.IsBlanks [] := by simp [Json.IsBlanks]
  have writesNull : Json.Writes .value [110, 117, 108, 108] := .scalar (.word (by decide))
  have writesList : Json.Writes .value [91, 110, 117, 108, 108, 93] :=
    .bracket .list (.last (.element blank writesNull blank))
  have writesText : Json.Writes .value [34, 92, 117, 48, 48, 52, 49, 34] :=
    .scalar (.string spells.isContents)
  obtain ⟨further, furtherName, furtherValue⟩ := Json.exists_pair "k" writesList
  obtain ⟨email, emailName, emailValue⟩ := Json.exists_pair "email" writesText
  have emailText : email.text = some "A" := by
    rw [email.spells, emailValue]
    exact ⟨_, rfl, spells⟩
  have given (name : String) : Json.given [further, email] name =
      if name = "k" then [further.text] else if name = "email" then [some "A"] else [] := by
    simp only [Json.given_cons, furtherName, emailName, emailText, eq_comm (b := name)]
    split_ifs <;> simp_all [Json.given]
  have writes : WritesObject [further, email]
      (Bytes.ofString "\x7b\"k\":[null] ,\"email\":\"\\u0041\"\x7d") := by
    have furtherLabel : Json.SpellsText further.name (Bytes.ofString "k") :=
      furtherName.symm ▸ Json.spellsText_plain (List.forall_iff_forall_mem.mp (by decide))
    have emailLabel : Json.SpellsText email.name (Bytes.ofString "email") :=
      emailName.symm ▸ Json.spellsText_plain (List.forall_iff_forall_mem.mp (by decide))
    have space : Json.IsBlanks [32] := by simp [Json.IsBlanks, Json.isBlank]
    have object := WritesObject.pairs blank
      (.more (.spaced blank furtherLabel blank blank space)
        (.last (.spaced blank emailLabel blank blank blank))) blank
    rw [furtherValue, emailValue] at object
    convert object using 1
    simp only [Bytes.ofString_eq]
    decide
  have clean : ∀ name ∈ Claims.names, ¬IsSpoilt [further, email] name := by
    intro name known
    have notFurther : name ≠ "k" := by
      rintro rfl
      exact absurd known (by decide)
    rw [Json.not_isSpoilt_iff, given, if_neg notFurther]
    split
    · exact .inr ⟨"A", rfl⟩
    · exact .inl rfl
  have read := (wire_format.2 [further, email] _ writes).1 clean
  rw [read]
  simp [stated, told, given]

end Enrolment.Claims
