import Enrolment.Proofs.Decimal.Numerals
import Enrolment.Proofs.Settings.Sections
import Enrolment.Settings.Loading

set_option autoImplicit false

namespace Enrolment

open SettingTree

namespace Variable

def IsTruthWord (value : String) : Prop := lowerText value = "true" ∨ lowerText value = "false"

instance (value : String) : Decidable (IsTruthWord value) := inferInstanceAs (Decidable (_ ∨ _))

def rendered (value : String) : String :=
  if IsTruthWord value then lowerText value
  else
    match Decimal.integer? value.toList, Decimal.double? value.toList with
    | some number, _ => toString number
    | none, some number => Decimal.text number
    | none, none => value

theorem isScalar_tree (given : Variable) : given.tree.IsScalar := by
  unfold tree
  dsimp only
  split
  · trivial
  · split
    · trivial
    · split <;> trivial

theorem text_tree (given : Variable) : Settings.text given.tree = .ok (rendered given.value) := by
  unfold tree rendered
  dsimp only
  by_cases truth : lowerText given.value = "true"
  case pos =>
    rw [if_pos truth, if_pos (.inl truth), truth]
    rfl
  by_cases falsity : lowerText given.value = "false"
  case pos =>
    rw [if_neg truth, if_pos falsity, if_pos (.inr falsity), falsity]
    rfl
  have other : ¬IsTruthWord given.value := not_or.mpr ⟨truth, falsity⟩
  rw [if_neg truth, if_neg falsity, if_neg other]
  cases Decimal.integer? given.value.toList with
  | some number => rfl
  | none => cases Decimal.double? given.value.toList <;> rfl

def IsPlain (value : String) : Prop :=
  if IsTruthWord value then value = "true" ∨ value = "false"
  else if (Decimal.integer? value.toList).isSome then Decimal.IsInteger value.toList
  else ∀ number, Decimal.double? value.toList = some number → Decimal.text number = value

theorem rendered_eq_iff (value : String) : rendered value = value ↔ IsPlain value := by
  unfold rendered IsPlain
  by_cases word : IsTruthWord value
  case pos =>
    rw [if_pos word, if_pos word]
    constructor
    · intro same
      rwa [IsTruthWord, same] at word
    · rintro (rfl | rfl) <;> decide
  rw [if_neg word, if_neg word]
  cases integer : Decimal.integer? value.toList with
  | some number =>
    rw [if_pos Option.isSome_some, ← Decimal.toString_eq_iff integer, String.toList_inj]
  | none =>
    rw [if_neg (by simp)]
    cases real : Decimal.double? value.toList with
    | some number => simp
    | none => simp

example : rendered "0012" = "12" ∧ rendered "TRUE" = "true" ∧ rendered "1-800" = "1-800" := by
  decide +kernel

end Variable

namespace Settings

variable {read : FileReader} {path : String} {before after : List Variable} {given : Variable}
  {settings : Settings} {setting : TextSetting}

theorem stepsOf_key : ∀ setting ∈ TextSetting.all,
    stepsOf setting.key = [.name setting.place, .name setting.field] := by
  decide +kernel

theorem key?_nameOf (listed : setting ∈ TextSetting.all) (value : String) :
    Variable.key? ⟨Variable.nameOf setting.key, value⟩ = some setting.key := by
  have named : ∀ setting ∈ TextSetting.all,
      Variable.key? ⟨Variable.nameOf setting.key, ""⟩ = some setting.key := by
    decide +kernel
  exact named setting listed

theorem spares_key : ∀ setting ∈ TextSetting.all, ∀ key ∈ keys, key ≠ setting.key →
    Spares setting.place setting.field key := by
  decide +kernel

theorem entries_append (named : given.key? = some setting.key) :
    Variable.entries (before ++ given :: after) =
      Variable.entries before ++ (setting.key, given.tree) :: Variable.entries after := by
  simp [Variable.entries, named]

theorem exists_tree_of_load {overrides : List Variable}
    (loads : load read path overrides = .ok settings) :
    ∃ tree parts, ofTree (overlay (Variable.entries overrides) tree) = .ok parts ∧
      settings = { parts with path := some path } := by
  unfold load at loads
  split at loads
  · cases loads
  · cases loads
  split at loads
  · cases loads
  next tree _ =>
    split at loads
    next parts whole => exact ⟨_, parts, whole, (Except.ok.inj loads).symm⟩
    next => cases loads

theorem get_withPath (settings : Settings) (path : Option String) :
    ∀ setting ∈ TextSetting.all, setting.get { settings with path } = setting.get settings := by
  simp [TextSetting.all, TextSetting.within, Token.texts, Security.texts, Database.texts, mailTexts]

def TextSetting.IsSparedBy (setting : TextSetting) (overrides : List Variable) : Prop :=
  ∀ other ∈ overrides, ∀ key, other.key? = some key → Spares setting.place setting.field key

theorem TextSetting.IsSparedBy.entries (spared : setting.IsSparedBy after) :
    ∀ entry ∈ Variable.entries after,
      Spares setting.place setting.field entry.1 ∧ entry.2.IsScalar := by
  intro entry member
  obtain ⟨other, listed, made⟩ := List.mem_filterMap.mp member
  obtain ⟨key, keyed, rfl⟩ := Option.map_eq_some_iff.mp made
  exact ⟨spared other listed key keyed, other.isScalar_tree⟩

theorem text_overridden (listed : setting ∈ TextSetting.all)
    (named : given.key? = some setting.key) (last : setting.IsSparedBy after)
    (loads : load read path (before ++ given :: after) = .ok settings) :
    setting.get settings = some (Variable.rendered given.value) ∧
      (setting.get settings = some given.value ↔ Variable.IsPlain given.value) := by
  obtain ⟨tree, parts, whole, rfl⟩ := exists_tree_of_load loads
  rw [entries_append named] at whole
  have has := has_overlay (Variable.entries before) (Variable.entries after)
    (stepsOf_key setting listed) given.isScalar_tree last.entries tree
  have reads := TextSetting.reads_all setting listed whole has given.text_tree
  rw [get_withPath _ _ setting listed, reads]
  exact ⟨rfl, Option.some_inj.trans (Variable.rendered_eq_iff given.value)⟩

-- A file with no more in it than settings need.
def brief : String :=
  let blanks (count : Nat) : String := Json.array (List.replicate count (Json.quote ""))
  Json.object
    [("server", Json.array [Json.quote "local", "1", "1", "1", Json.quote "a:b", "1"]),
     ("token", Json.object
       [("algorithm", Json.quote "HS256"), ("issuer", Json.quote ""), ("window_secs", "1")]),
     ("limiter", "[0,1,1,1,1]"), ("security", blanks 2),
     ("database", Json.array [Json.quote "", "1", Json.quote ""]), ("mailgun", blanks 8),
     ("healthcheck", "[0,1,1]")]

def briefFile : FileReader := fun path => if path = "a.json" then some brief else none

def tokenSecret : TextSetting := ⟨"token", "secret", Token.secret ∘ Settings.token⟩

theorem tokenSecret_mem : tokenSecret ∈ TextSetting.all := by
  simp only [TextSetting.all, TextSetting.within, List.mem_append, List.mem_map]
  exact .inl (.inl (.inl ⟨("secret", Token.secret), by simp [Token.texts], rfl⟩))

def secretAndIssuer (secret : String) : List Variable :=
  [⟨"WAITLIST_TOKEN__SECRET", secret⟩, ⟨"WAITLIST_TOKEN__ISSUER", "club"⟩]

theorem exists_loaded : ∃ settings,
    load briefFile "a.json" (secretAndIssuer "0012") = .ok settings ∧
      settings.token.secret = some "12" := by
  have evaluated : ((load briefFile "a.json" (secretAndIssuer "0012")).map
      fun settings => settings.token.secret).toOption = some (some "12") := by
    decide +kernel
  cases loads : load briefFile "a.json" (secretAndIssuer "0012") with
  | error fault =>
    rw [loads] at evaluated
    cases evaluated
  | ok settings =>
    rw [loads] at evaluated
    exact ⟨settings, rfl, Option.some.inj evaluated⟩

theorem text_overridden_padded : ∃ settings,
    load briefFile "a.json" (secretAndIssuer "0012") = .ok settings ∧
      settings.token.secret = some (Variable.rendered "0012") ∧
      (settings.token.secret = some "0012" ↔ Variable.IsPlain "0012") := by
  obtain ⟨settings, loads, -⟩ := exists_loaded
  have named : Variable.key? ⟨"WAITLIST_TOKEN__SECRET", "0012"⟩ = some tokenSecret.key := by
    have name : Variable.nameOf tokenSecret.key = "WAITLIST_TOKEN__SECRET" := by decide +kernel
    exact name ▸ key?_nameOf tokenSecret_mem "0012"
  have issuer : Variable.key? ⟨"WAITLIST_TOKEN__ISSUER", "club"⟩ = some "token.issuer" := by
    decide +kernel
  have last : tokenSecret.IsSparedBy [⟨"WAITLIST_TOKEN__ISSUER", "club"⟩] := by
    intro other member key keyed
    obtain rfl := List.mem_singleton.mp member
    obtain rfl := Option.some.inj (issuer.symm.trans keyed)
    exact spares_key tokenSecret tokenSecret_mem _ (by decide +kernel) (by decide +kernel)
  have split : secretAndIssuer "0012" = [] ++ ⟨"WAITLIST_TOKEN__SECRET", "0012"⟩ :: [_] := rfl
  exact ⟨settings, loads, text_overridden tokenSecret_mem named last (split ▸ loads)⟩

theorem padded_secret_altered : ¬∀ (read : FileReader) (path value : String) (settings : Settings),
    load read path (secretAndIssuer value) = .ok settings →
      settings.token.secret = some value := by
  intro verbatim
  obtain ⟨settings, loads, altered⟩ := exists_loaded
  have same := verbatim briefFile "a.json" "0012" settings loads
  rw [altered] at same
  exact absurd same (by decide)

end Settings

end Enrolment
