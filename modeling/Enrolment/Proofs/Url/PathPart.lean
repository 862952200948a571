import Enrolment.Proofs.Url.Separators
import Mathlib.Data.List.DropRight

set_option autoImplicit false

namespace Enrolment.Url

-- The path in a text: behind the scheme and an authority, before a query and a fragment.
def pathPart (chars : List Char) : List Char :=
  let behindScheme := (chars.dropWhile (· ≠ ':')).drop 1
  let behindAuthority :=
    match behindScheme with
    | '/' :: '/' :: rest => rest.dropWhile (!endsAuthority .other ·)
    | rest => rest
  behindAuthority.takeWhile (!endsPath ·)

theorem opens_nil : ∀ char ∈ ([] : List Char).head?, endsPath char = true := by simp

section Texts

variable {scheme authority path rest : List Char} (colon : ':' ∉ scheme)
  (closed : ∀ char ∈ path, endsPath char = false)
  (opens : ∀ char ∈ rest.head?, endsPath char = true)

include colon in
theorem drop_scheme (chars : List Char) :
    ((scheme ++ ':' :: chars).dropWhile (· ≠ ':')).drop 1 = chars := by
  rw [dropWhile_upTo]
  · rfl
  · intro char member
    simpa using ne_of_mem_of_not_mem member colon
  · simp

include closed opens in
theorem takeWhile_closed : (path ++ rest).takeWhile (!endsPath ·) = path :=
  takeWhile_upTo (by simpa using closed) (by simpa using opens)

include colon closed opens in
theorem pathPart_authority (inner : IsInner authority) (rooted : ∀ char ∈ path.head?, char = '/') :
    pathPart (scheme ++ ':' :: '/' :: '/' :: (authority ++ (path ++ rest))) = path := by
  have stops : ∀ char ∈ (path ++ rest).head?, (!endsAuthority .other char) = false := by
    cases path with
    | nil =>
      intro char first
      simp [endsAuthority, opens char first]
    | cons slash path =>
      intro char first
      cases Option.some.inj first
      rw [rooted slash rfl]
      decide
  simp only [pathPart, drop_scheme colon]
  rw [dropWhile_upTo (by simpa [IsInner] using inner) stops, takeWhile_closed closed opens]

include opens in
theorem slashes_of_append (slashes : ['/', '/'] <+: path ++ rest) : ['/', '/'] <+: path := by
  have slash (more : List Char) : rest ≠ '/' :: more := by
    rintro rfl
    exact absurd (opens '/' rfl) (by decide)
  match path with
  | [] =>
    obtain ⟨more, shape⟩ := slashes
    exact absurd shape.symm (slash _)
  | [_] =>
    obtain ⟨more, shape⟩ := (List.cons_prefix_cons.mp slashes).2
    exact absurd shape.symm (slash _)
  | _ :: _ :: _ => simpa using slashes

include colon closed opens in
theorem pathPart_alone (alone : ¬['/', '/'] <+: path) :
    pathPart (scheme ++ ':' :: (path ++ rest)) = path := by
  simp only [pathPart, drop_scheme colon]
  split
  next more shape => exact absurd (slashes_of_append opens ⟨more, shape.symm⟩) alone
  next => exact takeWhile_closed closed opens

end Texts

def withoutEndSlashes (chars : List Char) : List Char := chars.rdropWhile (· = '/')

theorem withoutEndSlashes_append (front back : List Char) :
    withoutEndSlashes (front ++ back) =
      if withoutEndSlashes back = [] then withoutEndSlashes front
      else front ++ withoutEndSlashes back := by
  simp only [withoutEndSlashes, List.rdropWhile, List.reverse_append, List.dropWhile_append,
    List.isEmpty_iff, List.reverse_eq_nil_iff]
  split
  · rfl
  · simp

theorem withoutEndSlashes_concat (chars : List Char) {last : Char} (kept : last ≠ '/') :
    withoutEndSlashes (chars ++ [last]) = chars ++ [last] :=
  List.rdropWhile_concat_neg _ _ _ (by simpa using kept)

theorem withoutEndSlashes_of_not_mem {chars : List Char} (apart : '/' ∉ chars) :
    withoutEndSlashes chars = chars := by
  rw [withoutEndSlashes, List.rdropWhile_eq_self_iff]
  intro filled last
  have slash : chars.getLast filled = '/' := of_decide_eq_true last
  exact apart (slash ▸ List.getLast_mem filled)

theorem withoutEndSlashes_isPrefix (chars : List Char) : withoutEndSlashes chars <+: chars :=
  List.rdropWhile_prefix _ _

theorem exists_withoutEndSlashes_cons {first : Char} (kept : first ≠ '/') (more : List Char) :
    ∃ rest, withoutEndSlashes (first :: more) = first :: rest := by
  have single : withoutEndSlashes [first] = [first] := withoutEndSlashes_concat [] kept
  have split := withoutEndSlashes_append [first] more
  rw [single] at split
  split at split
  · exact ⟨_, split⟩
  · exact ⟨_, split⟩

theorem withoutEndSlashes_ne_slash (chars : List Char) : withoutEndSlashes chars ≠ ['/'] := by
  intro slash
  have again := List.rdropWhile_idempotent (· = '/') chars
  change withoutEndSlashes (withoutEndSlashes chars) = withoutEndSlashes chars at again
  rw [slash] at again
  cases again

def front (url : Url) : List Char := { url with query := none, fragment := none }.chars

def tail (url : Url) : List Char := behind '?' url.query ++ behind '#' url.fragment

theorem chars_eq (url : Url) : url.chars = url.front ++ url.tail := by
  simp [chars, front, tail, behind]

theorem opens_tail (url : Url) : ∀ char ∈ url.tail.head?, endsPath char = true := by
  obtain ⟨_, _, _, query, fragment⟩ := url
  intro char first
  match query, fragment, first with
  | some _, _, rfl => rfl
  | none, some _, rfl => rfl

theorem tail_ne_nil {url : Url} (filled : url.query.isSome ∨ url.fragment.isSome) :
    url.tail ≠ [] := by
  rw [Option.isSome_iff_exists, Option.isSome_iff_exists] at filled
  obtain ⟨query, known⟩ | ⟨fragment, known⟩ := filled <;> simp [tail, behind, known]

theorem front_of_none {url : Url} (absent : url.authority = none) :
    url.front = url.scheme ++ [':'] ++ url.writtenPath := by
  simp [front, chars, writtenPath, behind, absent]

theorem front_of_some {url : Url} {authority : Authority} (known : url.authority = some authority) :
    url.front = url.scheme ++ [':', '/', '/'] ++ authority.text ++ url.writtenPath := by
  simp [front, chars, writtenPath, behind, known]

structure IsAddition (added : List Char) : Prop where
  slash : added.head? = some '/'
  alone : ¬['/', '/'] <+: added
  closed : ∀ char ∈ added, endsPath char = false

namespace IsAddition

variable {path added : List Char} (addition : IsAddition added)
include addition

theorem rooted_append (rooted : ∀ char ∈ path.head?, char = '/') :
    ∀ char ∈ (withoutEndSlashes path ++ added).head?, char = '/' := by
  have kept := withoutEndSlashes_isPrefix path
  cases trimmed : withoutEndSlashes path with
  | nil => simp [addition.slash]
  | cons first more =>
    rw [trimmed] at kept
    obtain ⟨rest, rfl⟩ := kept
    simpa using rooted

theorem alone_append (alone : ¬['/', '/'] <+: path) :
    ¬['/', '/'] <+: withoutEndSlashes path ++ added := by
  have kept := withoutEndSlashes_isPrefix path
  intro slashes
  match trimmed : withoutEndSlashes path with
  | [] =>
    rw [trimmed] at slashes
    exact addition.alone slashes
  | [_] =>
    rw [trimmed] at slashes
    have first := (List.cons_prefix_cons.mp slashes).1
    exact withoutEndSlashes_ne_slash path (first ▸ trimmed)
  | first :: second :: more =>
    rw [trimmed] at slashes kept
    have two : ['/', '/'] <+: first :: second :: more := by simpa using slashes
    exact alone (two.trans kept)

theorem pathPart_bare {scheme authority : List Char} (colon : ':' ∉ scheme)
    (inner : IsInner authority) :
    pathPart (withoutEndSlashes (scheme ++ [':', '/', '/'] ++ authority) ++ added) = added := by
  rw [withoutEndSlashes_append, withoutEndSlashes_of_not_mem inner.slash_not_mem]
  split
  next =>
    -- There is nothing between these slashes and those of the path.
    have marks : withoutEndSlashes (scheme ++ [':', '/', '/']) = scheme ++ [':'] := by
      have split := withoutEndSlashes_append (scheme ++ [':']) ['/', '/']
      rwa [if_pos (by decide), withoutEndSlashes_concat scheme (by decide),
        List.append_assoc] at split
    have whole := pathPart_alone colon addition.closed opens_nil addition.alone
    simpa [marks] using whole
  next =>
    have whole := pathPart_authority colon addition.closed opens_nil inner
      (by simp [addition.slash])
    simpa using whole

end IsAddition

namespace IsDelimited

variable {url : Url} (delimited : url.IsDelimited)
include delimited

theorem pathPart_front {rest : List Char} (opens : ∀ char ∈ rest.head?, endsPath char = true) :
    pathPart (url.front ++ rest) = url.writtenPath := by
  cases known : url.authority with
  | none =>
    rw [front_of_none known, List.append_assoc, List.append_assoc]
    exact pathPart_alone delimited.scheme delimited.path opens (delimited.alone known)
  | some authority =>
    have rooted := delimited.rooted (by rw [known]; rfl)
    have whole := pathPart_authority delimited.scheme delimited.path opens
      (delimited.authority authority known) rooted
    simpa [front_of_some known] using whole

theorem pathPart_added {added : List Char} (addition : IsAddition added) :
    pathPart (withoutEndSlashes url.front ++ added) =
      withoutEndSlashes url.writtenPath ++ added := by
  have closed : ∀ char ∈ withoutEndSlashes url.writtenPath ++ added, endsPath char = false := by
    intro char member
    rcases List.mem_append.mp member with kept | new
    · exact delimited.path char ((withoutEndSlashes_isPrefix _).subset kept)
    · exact addition.closed char new
  cases known : url.authority with
  | none =>
    have trimmed : withoutEndSlashes url.front =
        url.scheme ++ ':' :: withoutEndSlashes url.writtenPath := by
      rw [front_of_none known, withoutEndSlashes_append,
        withoutEndSlashes_concat url.scheme (by decide)]
      split <;> simp_all
    have whole := pathPart_alone delimited.scheme closed opens_nil
      (addition.alone_append (delimited.alone known))
    simpa [trimmed] using whole
  | some authority =>
    have inner := delimited.authority authority known
    have rooted := delimited.rooted (by rw [known]; rfl)
    rw [front_of_some known, withoutEndSlashes_append]
    split
    next bare =>
      rw [bare]
      exact addition.pathPart_bare delimited.scheme inner
    next =>
      have whole := pathPart_authority delimited.scheme closed opens_nil inner
        (addition.rooted_append rooted)
      simpa using whole

theorem pathPart_chars : pathPart url.chars = url.writtenPath := by
  rw [chars_eq]
  exact delimited.pathPart_front url.opens_tail

theorem pathPart_added_of_plain (noQuery : url.query = none) (noFragment : url.fragment = none)
    {added : List Char} (addition : IsAddition added) :
    pathPart (withoutEndSlashes url.chars ++ added) =
      withoutEndSlashes url.writtenPath ++ added := by
  have plain : url.chars = url.front := by simp [chars_eq, tail, behind, noQuery, noFragment]
  rw [plain]
  exact delimited.pathPart_added addition

theorem pathPart_added_of_tail (filled : url.query.isSome ∨ url.fragment.isSome)
    (added : List Char) : pathPart (withoutEndSlashes url.chars ++ added) = url.writtenPath := by
  obtain ⟨sign, more, shape⟩ := List.exists_cons_of_ne_nil (tail_ne_nil filled)
  have opens := url.opens_tail
  rw [shape] at opens
  have ends : endsPath sign = true := opens sign rfl
  have kept : sign ≠ '/' := by
    rintro rfl
    exact absurd ends (by decide)
  obtain ⟨rest, trimmed⟩ := exists_withoutEndSlashes_cons kept more
  rw [chars_eq, shape, withoutEndSlashes_append, trimmed, if_neg (List.cons_ne_nil _ _),
    List.append_assoc]
  refine delimited.pathPart_front ?_
  rintro char ⟨⟩
  exact ends

end IsDelimited

end Enrolment.Url
