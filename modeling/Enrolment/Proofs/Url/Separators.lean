import Enrolment.Proofs.Settings.Sections
import Enrolment.Proofs.Text.Lines
import Enrolment.Proofs.Text.Percent
import Enrolment.Url.Reading

set_option autoImplicit false

namespace Enrolment.Url

open Settings (exists_of_bind_eq_ok)

def IsInner (chars : List Char) : Prop := ∀ char ∈ chars, endsAuthority .other char = false

section Inner

variable {chars : List Char}

@[simp] theorem isInner_nil : IsInner [] := by simp [IsInner]

@[simp] theorem isInner_cons {char : Char} :
    IsInner (char :: chars) ↔ endsAuthority .other char = false ∧ IsInner chars := by
  simp [IsInner]

@[simp] theorem isInner_append {others : List Char} :
    IsInner (chars ++ others) ↔ IsInner chars ∧ IsInner others := by
  simp [IsInner, or_imp, forall_and]

theorem endsAuthority_eq_false {char : Char} (isIn : Char → Bool)
    (apart : isIn '/' ≠ isIn char ∧ isIn '?' ≠ isIn char ∧ isIn '#' ≠ isIn char) :
    endsAuthority .other char = false := by
  have differs {sign : Char} (apart : isIn sign ≠ isIn char) : char ≠ sign :=
    fun same => apart (congrArg isIn same.symm)
  simp [endsAuthority, endsPath, isSlash, differs apart.1, differs apart.2.1, differs apart.2.2]

theorem IsInner.endsPath_eq_false (inner : IsInner chars) :
    ∀ char ∈ chars, endsPath char = false := by
  intro char member
  have outside := inner char member
  rw [endsAuthority, Bool.or_eq_false_iff] at outside
  exact outside.1

theorem IsInner.slash_not_mem (inner : IsInner chars) : '/' ∉ chars :=
  fun member => absurd (inner '/' member) (by decide)

theorem isInner_upperDigit : ∀ value < 16,
    endsAuthority .other (Hex.upperDigit value) = false := by
  decide

theorem isInner_encode {reserved : Char → Bool}
    (kept : ∀ char ∈ chars, reserved char = false → endsAuthority .other char = false) :
    IsInner (Percent.encode reserved chars) := by
  intro char member
  obtain ⟨known, free⟩ | rfl | ⟨value, small, rfl⟩ := Percent.mem_encode member
  · exact kept char known free
  · decide
  · exact isInner_upperDigit value small

end Inner

theorem isInner_toDigits {base : Nat} (lower : 1 < base) (upper : base ≤ 16) (value : Nat) :
    IsInner (Nat.toDigits base value) := by
  have digit : ∀ value < 16, endsAuthority .other value.digitChar = false := by decide
  induction value using Nat.strong_induction_on with
  | _ value ih =>
    by_cases small : value < base
    · simp [Nat.toDigits_of_lt_base small, digit value (by omega)]
    · have last := Nat.mod_lt value (show 0 < base by omega)
      have front := ih (value / base) (Nat.div_lt_self (by omega) lower)
      simp [Nat.toDigits_of_base_le lower (Nat.le_of_not_lt small), front,
        digit (value % base) (by omega)]

theorem isInner_intercalate (separator : Char) {parts : List String}
    (outside : endsAuthority .other separator = false)
    (inner : ∀ part ∈ parts, IsInner part.toList) :
    IsInner ((String.singleton separator).intercalate parts).toList := by
  intro char member
  rw [String.toList_intercalate, String.toList_singleton] at member
  obtain rfl | ⟨part, known, inside⟩ := mem_or_of_mem_intercalate member
  · exact outside
  · obtain ⟨text, given, rfl⟩ := List.mem_map.mp known
    exact inner text given char inside

theorem isInner_groupsText (groups : List Nat) : IsInner (IpAddress.groupsText groups).toList := by
  refine isInner_intercalate ':' (by decide) fun part known => ?_
  obtain ⟨value, -, rfl⟩ := List.mem_map.mp known
  simpa [IpAddress.hexText] using isInner_toDigits (by decide) (by decide) value

theorem isInner_ip (address : IpAddress) : IsInner (Host.ip address).text := by
  cases address with
  | v4 octets =>
    refine isInner_intercalate '.' (by decide) fun part known => ?_
    obtain ⟨value, -, rfl⟩ := List.mem_map.mp known
    simpa [Nat.toList_repr] using isInner_toDigits (by decide) (by decide) value
  | v6 groups =>
    have text : IsInner (IpAddress.v6Text groups).toList := by
      unfold IpAddress.v6Text
      split
      next => simpa [isInner_groupsText] using by decide
      next => exact isInner_groupsText groups
    simpa [Host.text, text] using by decide

theorem isInner_bracketed {chars : List Char} {host : Host} (read : bracketed chars = .ok host) :
    IsInner host.text := by
  unfold bracketed at read
  split at read
  · cases read
  · split at read
    next => cases read; exact isInner_ip _
    next => cases read

theorem isInner_of_allowed {chars : List Char}
    (allowed : ∀ char ∈ chars, isForbiddenInHost char = false) : IsInner chars := by
  intro char member
  refine endsAuthority_eq_false isForbiddenInHost ?_
  rw [allowed char member]
  decide

theorem isInner_readHost {chars : List Char} {host : Host} (read : readHost chars = .ok host) :
    IsInner host.text := by
  unfold readHost at read
  split at read
  · exact isInner_bracketed read
  · dsimp only at read
    split at read
    · cases read
    · split at read
      · cases read
      · split at read
        · cases read
        next allowed =>
          split at read
          · split at read
            next => cases read; exact isInner_ip _
            next => cases read
          · cases read
            refine isInner_of_allowed fun char member => ?_
            simp only [List.any_eq_true, not_exists, not_and, Bool.not_eq_true] at allowed
            have free := allowed char member
            simp only [isForbiddenInDomain, Bool.or_eq_false_iff] at free
            exact free.2

theorem isInner_readOpaqueHost {chars : List Char} {host : Host}
    (read : readOpaqueHost chars = .ok host) : IsInner host.text := by
  unfold readOpaqueHost at read
  split at read
  · exact isInner_bracketed read
  · split at read
    · cases read
    next allowed =>
      cases read
      simp only [List.any_eq_true, not_exists, not_and, Bool.not_eq_true] at allowed
      exact isInner_encode fun char member _ => isInner_of_allowed allowed char member

theorem isInner_credential (chars : List Char) :
    IsInner (Percent.encode isReservedInUser chars) := by
  refine isInner_encode fun char _ free => endsAuthority_eq_false isReservedInUser ?_
  rw [free]
  decide

theorem Authority.isInner_text {authority : Authority} (user : IsInner authority.user)
    (password : IsInner authority.password)
    (host : ∀ host ∈ authority.host, IsInner host.text) : IsInner authority.text := by
  obtain ⟨userText, passwordText, place, port⟩ := authority
  have colon : endsAuthority .other ':' = false := by decide
  have digits (value : Nat) : IsInner (toString value).toList := by
    simpa [Nat.toList_repr] using isInner_toDigits (by decide) (by decide) value
  have passwordBehind : IsInner (if passwordText.isEmpty then [] else ':' :: passwordText) := by
    split
    · exact isInner_nil
    · exact isInner_cons.mpr ⟨colon, password⟩
  have signed {text : List Char} (inner : IsInner text) :
      IsInner (if text.isEmpty then [] else text ++ ['@']) := by
    split
    · exact isInner_nil
    · exact isInner_append.mpr ⟨inner, isInner_cons.mpr ⟨by decide, isInner_nil⟩⟩
  refine isInner_append.mpr ⟨isInner_append.mpr ⟨?credentials, ?place⟩, ?port⟩
  case credentials => exact signed (isInner_append.mpr ⟨user, passwordBehind⟩)
  case place =>
    cases place with
    | none => exact isInner_nil
    | some place => exact host place rfl
  case port =>
    cases port with
    | none => exact isInner_nil
    | some port => exact isInner_cons.mpr ⟨colon, digits port⟩

theorem isInner_assembled (credentials : List Char) {host : Host} (inner : IsInner host.text)
    (named : Bool) (port : Option Nat) :
    IsInner (Authority.text
      { user := (readCredentials credentials).1
        password := (readCredentials credentials).2
        host := if named then none else some host
        port }) := by
  refine Authority.isInner_text (isInner_credential _) (isInner_credential _) fun other member => ?_
  cases named with
  | false => cases member; exact inner
  | true => cases member

theorem isInner_readAuthority {scheme chars : List Char} {authority : Authority}
    (read : readAuthority scheme chars = .ok authority) : IsInner authority.text := by
  dsimp only [readAuthority] at read
  split at read
  · cases read
  · split at read
    · cases read
    · split at read
      · obtain ⟨host, own, read⟩ := exists_of_bind_eq_ok read
        split at read
        · cases read
        · obtain ⟨port, -, same⟩ := exists_of_bind_eq_ok read
          cases same
          exact isInner_assembled _ (isInner_readHost own) _ _
      · obtain ⟨host, own, read⟩ := exists_of_bind_eq_ok read
        split at read
        · cases read
        · obtain ⟨port, -, same⟩ := exists_of_bind_eq_ok read
          cases same
          exact isInner_assembled _ (isInner_readOpaqueHost own) _ _

theorem isInner_readFileHost {chars : List Char} {authority : Authority}
    (read : readFileHost chars = .ok authority) : IsInner authority.text := by
  dsimp only [readFileHost] at read
  split at read
  · cases read
    exact isInner_nil
  · obtain ⟨host, own, same⟩ := exists_of_bind_eq_ok read
    cases same
    refine Authority.isInner_text isInner_nil isInner_nil fun other member => ?_
    split at member
    · cases member
    · cases member
      exact isInner_readHost own

theorem mem_walk {segment : List Char} {rest : List (List Char)} :
    ∀ {walked : List (List Char)}, segment ∈ walk walked rest →
      segment ∈ walked ∨ segment ∈ rest ∨ segment = [] := by
  induction rest with
  | nil =>
    intro walked member
    exact .inl (List.mem_reverse.mp member)
  | cons next rest ih =>
    intro walked member
    simp only [walk] at member
    have kept : segment ∈ (if plainDots next = ['.', '.'] then walked.tail else walked) →
        segment ∈ walked := by
      split
      · exact List.mem_of_mem_tail
      · exact id
    split at member
    · rcases ih member with held | later
      · split at held
        · rcases List.mem_cons.mp held with empty | held
          · exact .inr (.inr empty)
          · exact .inl (kept held)
        · exact .inl (kept held)
      · exact .inr (later.imp_left (List.mem_cons_of_mem next))
    · rcases ih member with held | later
      · rcases List.mem_cons.mp held with rfl | held
        · exact .inr (.inl List.mem_cons_self)
        · exact .inl (kept held)
      · exact .inr (later.imp_left (List.mem_cons_of_mem next))

theorem isInner_readSegments {kind : SchemeKind} {chars segment : List Char}
    (member : segment ∈ readSegments kind chars) : IsInner segment := by
  obtain held | written | rfl := mem_walk member
  · cases held
  · obtain ⟨part, split, rfl⟩ := List.mem_map.mp written
    have apart := separator_not_mem_splitAt '/' _ part split
    refine isInner_encode fun char inside free =>
      endsAuthority_eq_false (fun char => char = '/' || isReservedInPath char) ?_
    have slash := ne_of_mem_of_not_mem inside apart
    simp only [slash, free, decide_false, Bool.or_false]
    decide
  · exact isInner_nil

theorem isInner_readPath {kind : SchemeKind} {chars segment : List Char}
    (member : segment ∈ readPath kind chars) : IsInner segment := by
  unfold readPath at member
  split at member
  · split at member
    · cases member
    · rw [List.mem_singleton.mp member]
      exact isInner_nil
  · split at member <;> exact isInner_readSegments member

theorem isInner_readFilePath {chars segment : List Char}
    (member : segment ∈ readFilePath chars) : IsInner segment := by
  dsimp only [readFilePath] at member
  split at member
  · rw [List.mem_singleton.mp member]
    exact isInner_nil
  · exact isInner_readPath ((List.dropWhile_sublist _).mem member)

def writtenPath (url : Url) : List Char :=
  match url.authority with
  | some _ => url.path.text
  | none => url.path.textAlone

structure IsDelimited (url : Url) : Prop where
  scheme : ':' ∉ url.scheme
  authority : ∀ authority ∈ url.authority, IsInner authority.text
  path : ∀ char ∈ url.writtenPath, endsPath char = false
  rooted : url.authority.isSome = true → ∀ char ∈ url.writtenPath.head?, char = '/'
  -- Else the path would start with an authority.
  alone : url.authority = none → ¬['/', '/'] <+: url.writtenPath

section Segments

variable {parts : List (List Char)} (inner : ∀ part ∈ parts, IsInner part)

include inner in
theorem closed_segments : ∀ char ∈ (Path.segments parts).text, endsPath char = false := by
  intro char member
  obtain ⟨part, known, member⟩ := List.mem_flatMap.mp member
  rcases List.mem_cons.mp member with rfl | inside
  · decide
  · exact (inner part known).endsPath_eq_false char inside

theorem rooted_segments : ∀ char ∈ (Path.segments parts).text.head?, char = '/' := by
  intro char first
  cases parts with
  | nil => cases first
  | cons part parts => exact (Option.some.inj first).symm

include inner in
theorem closed_segmentsAlone :
    ∀ char ∈ (Path.segments parts).textAlone, endsPath char = false := by
  have closed := closed_segments inner
  match parts with
  | [] :: segment :: more =>
    intro char member
    rcases List.mem_cons.mp member with rfl | member
    · decide
    · rcases List.mem_cons.mp member with rfl | member
      · decide
      · exact closed char member
  | [] | [[]] | (_ :: _) :: _ => exact closed

include inner in
theorem alone_segments : ¬['/', '/'] <+: (Path.segments parts).textAlone := by
  match parts with
  | [] | [[]] | [] :: _ :: _ => simp [Path.textAlone, Path.text]
  | (char :: part) :: more =>
    have apart := (inner _ List.mem_cons_self).slash_not_mem
    simp only [List.mem_cons, not_or] at apart
    simp [Path.textAlone, Path.text, apart.1]

end Segments

section Undivided

variable {chars : List Char}

theorem closed_undivided (closed : ∀ char ∈ chars, endsPath char = false) :
    ∀ char ∈ (Path.undivided (Percent.encode isControl chars)).textAlone,
      endsPath char = false := by
  intro char member
  obtain ⟨known, -⟩ | rfl | ⟨value, small, rfl⟩ := Percent.mem_encode member
  · exact closed char known
  · decide
  · exact (isInner_cons.mpr ⟨isInner_upperDigit value small, isInner_nil⟩).endsPath_eq_false _
      List.mem_cons_self

theorem alone_undivided (unrooted : ∀ rest, chars = '/' :: rest → False) :
    ¬['/', '/'] <+: (Path.undivided (Percent.encode isControl chars)).textAlone := by
  rintro ⟨more, text⟩
  have first : '/' ∈ (Percent.encode isControl chars).head? := by
    change '/' ∈ (Path.undivided (Percent.encode isControl chars)).textAlone.head?
    rw [← text]
    rfl
  rcases Percent.head?_encode first with own | escape
  · obtain ⟨rest, shape⟩ := List.head?_eq_some_iff.mp own
    exact unrooted rest shape
  · exact absurd escape (by decide)

end Undivided

theorem eq_colon_of_asciiLower {char : Char} (lowered : asciiLower char = ':') : char = ':' := by
  have letters : ∀ code < 91, 65 ≤ code → Char.ofNat (code + 32) ≠ ':' := by decide
  unfold asciiLower at lowered
  split at lowered
  next upper =>
    simp only [Bool.and_eq_true, decide_eq_true_eq] at upper
    exact absurd lowered (letters char.toNat (by omega) upper.1)
  next => exact lowered

theorem colon_not_mem_scheme {chars scheme rest : List Char}
    (cut : cutScheme? chars = some (scheme, rest)) : ':' ∉ scheme := by
  dsimp only [cutScheme?] at cut
  obtain ⟨first, -, cut⟩ := Option.bind_eq_some_iff.mp cut
  split at cut
  next allowed =>
    obtain ⟨behind, -, same⟩ := Option.bind_eq_some_iff.mp cut
    cases same
    simp only [Bool.and_eq_true, List.all_eq_true] at allowed
    intro member
    obtain ⟨char, known, lowered⟩ := List.mem_map.mp member
    have own := allowed.2 char known
    rw [eq_colon_of_asciiLower lowered] at own
    exact absurd own (by decide)
  next => cases cut

theorem isDelimited_readHierarchy {scheme chars : List Char} {authority : Option Authority}
    {path : Path} (colon : ':' ∉ scheme) (closed : ∀ char ∈ chars, endsPath char = false)
    (read : readHierarchy scheme chars = .ok (authority, path)) (query fragment : Option (List Char)) :
    IsDelimited { scheme, authority, path, query, fragment } := by
  have behindAuthority {known : Authority} {parts : List (List Char)} (inner : IsInner known.text)
      (innerParts : ∀ part ∈ parts, IsInner part) :
      IsDelimited { scheme, authority := known, path := .segments parts, query, fragment } :=
    { scheme := colon
      authority := fun _ same => Option.some.inj same ▸ inner
      path := closed_segments innerParts
      rooted := fun _ => rooted_segments
      alone := fun absent => nomatch absent }
  dsimp only [readHierarchy] at read
  split at read
  next =>
    obtain ⟨known, own, same⟩ := exists_of_bind_eq_ok read
    cases same
    exact behindAuthority (isInner_readAuthority own) fun _ => isInner_readPath
  next =>
    split at read
    · split at read
      · obtain ⟨known, own, same⟩ := exists_of_bind_eq_ok read
        cases same
        exact behindAuthority (isInner_readFileHost own) fun _ => isInner_readFilePath
      · cases read
        exact behindAuthority isInner_nil fun _ => isInner_readFilePath
    · cases read
      exact behindAuthority isInner_nil fun _ => isInner_readFilePath
  next =>
    split at read
    next rest =>
      obtain ⟨known, own, same⟩ := exists_of_bind_eq_ok read
      cases same
      exact behindAuthority (isInner_readAuthority own) fun _ => isInner_readPath
    next =>
      cases read
      exact
        { scheme := colon
          authority := fun _ same => nomatch same
          path := closed_segmentsAlone fun _ => isInner_readPath
          rooted := fun present => nomatch present
          alone := fun _ => alone_segments fun _ => isInner_readPath }
    next unrooted =>
      cases read
      exact
        { scheme := colon
          authority := fun _ same => nomatch same
          path := closed_undivided closed
          rooted := fun present => nomatch present
          alone := fun _ => alone_undivided unrooted }

theorem closed_cutTail (chars : List Char) :
    ∀ char ∈ (cutTail chars).1, endsPath char = false := by
  intro char member
  simp only [cutTail, cutAt_fst] at member
  have question := List.mem_takeWhile_imp member
  have number := List.mem_takeWhile_imp ((List.takeWhile_sublist _).mem member)
  simp_all [endsPath]

theorem isDelimited_read {chars : List Char} {url : Url} (accepted : read chars = .ok url) :
    IsDelimited url := by
  dsimp only [Url.read] at accepted
  split at accepted
  · cases accepted
  next scheme rest cut =>
    obtain ⟨⟨authority, path⟩, own, same⟩ := exists_of_bind_eq_ok accepted
    cases same
    exact isDelimited_readHierarchy (colon_not_mem_scheme cut) (closed_cutTail rest) own _ _

end Enrolment.Url
