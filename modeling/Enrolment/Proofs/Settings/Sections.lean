import Enrolment.Proofs.Settings.Overlays
import Enrolment.Settings.Sections

set_option autoImplicit false

namespace Enrolment.Settings

variable {α β δ ε φ : Type}

theorem exists_of_bind_eq_ok {first : Except ε α} {next : α → Except ε β} {result : β}
    (run : first >>= next = .ok result) : ∃ value, first = .ok value ∧ next value = .ok result := by
  cases first with
  | error fault => cases run
  | ok value => exact ⟨value, rfl, run⟩

theorem exists_of_map_eq_ok {change : α → β} {outcome : Except ε α} {result : β}
    (run : change <$> outcome = .ok result) :
    ∃ value, outcome = .ok value ∧ change value = result := by
  cases outcome with
  | error fault => cases run
  | ok value => exact ⟨value, rfl, Except.ok.inj run⟩

theorem eq_ok_of_mapError {explain : ε → φ} {outcome : Except ε α} {value : α}
    (run : outcome.mapError explain = .ok value) : outcome = .ok value := by
  cases outcome with
  | error fault => cases run
  | ok => exact congrArg Except.ok (Except.ok.inj run)

namespace Field

def Keeps (field : Field δ) (holds : δ → Prop) : Prop :=
  ∀ tree set, field.read tree = .ok set → ∀ draft, holds draft → holds (set draft)

def Ensures (field : Field δ) (tree : SettingTree) (holds : δ → Prop) : Prop :=
  ∀ set, field.read tree = .ok set → ∀ draft, holds (set draft)

variable {name : String} {reader : Reader α} {holds : δ → Prop} {tree : SettingTree}

theorem keeps_required {set : α → δ → δ}
    (kept : ∀ value draft, holds draft → holds (set value draft)) :
    (required name reader set).Keeps holds := by
  intro tree change read
  obtain ⟨value, -, rfl⟩ := exists_of_map_eq_ok read
  exact kept value

theorem keeps_optional {set : Option α → δ → δ}
    (kept : ∀ value draft, holds draft → holds (set value draft)) :
    (optional name reader set).Keeps holds := by
  intro tree change read
  obtain ⟨value, -, rfl⟩ := exists_of_map_eq_ok read
  exact kept value

theorem ensures_required {set : α → δ → δ}
    (ensured : ∀ value, reader tree = .ok value → ∀ draft, holds (set value draft)) :
    (required name reader set).Ensures tree holds := by
  intro change read
  obtain ⟨value, own, rfl⟩ := exists_of_map_eq_ok read
  exact ensured value own

end Field

inductive Fixes (name : String) (tree : SettingTree) (holds : δ → Prop) : List (Field δ) → Prop
  | here {field : Field δ} {fields : List (Field δ)} (named : field.name = name)
      (ensures : field.Ensures tree holds) (kept : ∀ other ∈ fields, other.Keeps holds) :
      Fixes name tree holds (field :: fields)
  | later {field : Field δ} {fields : List (Field δ)} (fixed : Fixes name tree holds fields) :
      Fixes name tree holds (field :: fields)

def fill (entries : List (String × SettingTree)) (draft : δ) (field : Field δ) : Except Fault δ :=
  match entries.lookup field.name with
  | some tree => do return (← (field.read tree).mapError (.within field.name)) draft
  | none => return draft

variable {name : String} {tree : SettingTree} {holds : δ → Prop} {fields : List (Field δ)}
  {entries : List (String × SettingTree)} {draft result : δ}

theorem foldlM_of_ofEntries (read : ofEntries fields entries draft = .ok result) :
    fields.foldlM (fill entries) draft = .ok result := by
  unfold ofEntries at read
  change (fields.foldlM (fill entries) draft >>= _) = _ at read
  obtain ⟨last, filled, complete⟩ := exists_of_bind_eq_ok read
  split at complete
  · cases complete
  · exact filled.trans complete

theorem exists_of_fill {field : Field δ} (found : entries.lookup field.name = some tree)
    (filled : fill entries draft field = .ok result) :
    ∃ set, field.read tree = .ok set ∧ result = set draft := by
  rw [fill, found] at filled
  obtain ⟨set, read, same⟩ := exists_of_bind_eq_ok filled
  exact ⟨set, eq_ok_of_mapError read, (Except.ok.inj same).symm⟩

theorem fill_keeps {field : Field δ} (kept : field.Keeps holds)
    (filled : fill entries draft field = .ok result) (held : holds draft) : holds result := by
  cases found : entries.lookup field.name with
  | none =>
    rw [fill, found] at filled
    rwa [← Except.ok.inj filled]
  | some tree =>
    obtain ⟨set, read, rfl⟩ := exists_of_fill found filled
    exact kept tree set read draft held

theorem foldlM_keeps (kept : ∀ field ∈ fields, field.Keeps holds)
    (filled : fields.foldlM (fill entries) draft = .ok result) (held : holds draft) :
    holds result := by
  induction fields generalizing draft with
  | nil => rwa [← Except.ok.inj filled]
  | cons field fields ih =>
    rw [List.foldlM_cons] at filled
    obtain ⟨next, first, rest⟩ := exists_of_bind_eq_ok filled
    exact ih (fun other member => kept other (List.mem_cons_of_mem _ member)) rest
      (fill_keeps (kept field List.mem_cons_self) first held)

theorem Fixes.foldlM (fixes : Fixes name tree holds fields)
    (found : entries.lookup name = some tree)
    (filled : fields.foldlM (fill entries) draft = .ok result) : holds result := by
  induction fixes generalizing draft with
  | here named ensures kept =>
    rw [List.foldlM_cons] at filled
    obtain ⟨next, first, rest⟩ := exists_of_bind_eq_ok filled
    obtain ⟨set, read, rfl⟩ := exists_of_fill (named ▸ found) first
    exact foldlM_keeps kept rest (ensures set read draft)
  | later _ ih =>
    rw [List.foldlM_cons] at filled
    obtain ⟨next, -, rest⟩ := exists_of_bind_eq_ok filled
    exact ih rest

theorem Fixes.ofEntries (fixes : Fixes name tree holds fields)
    (found : entries.lookup name = some tree)
    (read : Settings.ofEntries fields entries draft = .ok result) : holds result :=
  fixes.foldlM found (foldlM_of_ofEntries read)

def HasText (fields : List (Field δ)) (name : String) (get : δ → Option String) : Prop :=
  ∀ tree value, text tree = .ok value → Fixes name tree (get · = some value) fields

namespace HasText

variable {get : δ → Option String} {field : Field δ}

theorem later (own : HasText fields name get) : HasText (field :: fields) name get :=
  fun tree value read => .later (own tree value read)

theorem required {set : String → δ → δ} (gets : ∀ value draft, get (set value draft) = some value)
    (kept : ∀ value, ∀ other ∈ fields, other.Keeps (get · = some value)) :
    HasText (Field.required name text set :: fields) name get := by
  intro tree value read
  refine .here rfl (Field.ensures_required fun other own draft => ?_) (kept value)
  obtain rfl := Except.ok.inj (read.symm.trans own)
  exact gets value draft

theorem optional {set : Option String → δ → δ}
    (gets : ∀ value draft, get (set value draft) = value)
    (kept : ∀ value, ∀ other ∈ fields, other.Keeps (get · = some value)) :
    HasText (Field.optional name text set :: fields) name get := by
  intro tree value read
  refine .here rfl (fun change own draft => ?_) (kept value)
  obtain ⟨other, taken, rfl⟩ := exists_of_map_eq_ok own
  rw [gets]
  cases tree with
  | empty => cases read
  | _ =>
    obtain ⟨same, again, rfl⟩ := exists_of_map_eq_ok taken
    rw [Except.ok.inj (again.symm.trans read)]

end HasText

def Token.texts : List (String × (Token → Option String)) :=
  [("issuer", fun token => some token.issuer), ("secret", Token.secret),
   ("key_path", Token.keyPath)]

def Security.texts : List (String × (Security → Option String)) :=
  [("api_key", fun security => some security.apiKey),
   ("list_path", fun security => some security.listPath)]

def Database.texts : List (String × (Database → Option String)) :=
  [("url", fun database => some database.url),
   ("encryption_key", fun database => some database.encryptionKey)]

def mailTexts : List (String × (MailAccount → Option String)) :=
  [("api_key", fun mail => some mail.apiKey), ("domain", fun mail => some mail.domain),
   ("from_address", fun mail => some mail.fromAddress),
   ("from_name", fun mail => some mail.fromName),
   ("activation_subject", fun mail => some mail.activationSubject),
   ("activation_template", fun mail => some mail.activationTemplate),
   ("confirmation_subject", fun mail => some mail.confirmationSubject),
   ("confirmation_template", fun mail => some mail.confirmationTemplate)]

theorem Token.hasText : ∀ own ∈ Token.texts, HasText Token.fields own.1 own.2 := by
  simp only [Token.texts, List.forall_mem_cons]
  refine ⟨.later <| .required (fun _ _ => rfl) ?_,
    .later <| .later <| .later <| .optional (fun _ _ => rfl) ?_,
    .later <| .later <| .later <| .later <| .optional (fun _ _ => rfl) ?_, by simp⟩
  all_goals simp [Field.keeps_required, Field.keeps_optional]

theorem Security.hasText : ∀ own ∈ Security.texts, HasText Security.fields own.1 own.2 := by
  simp only [Security.texts, List.forall_mem_cons]
  refine ⟨.required (fun _ _ => rfl) ?_, .later <| .required (fun _ _ => rfl) ?_, by simp⟩
  all_goals simp [Field.keeps_required]

theorem Database.hasText : ∀ own ∈ Database.texts, HasText Database.fields own.1 own.2 := by
  simp only [Database.texts, List.forall_mem_cons]
  refine ⟨.required (fun _ _ => rfl) ?_, .later <| .later <| .required (fun _ _ => rfl) ?_, by simp⟩
  all_goals simp [Field.keeps_required]

theorem mail_hasText : ∀ own ∈ mailTexts, HasText mailFields own.1 own.2 := by
  simp only [mailTexts, List.forall_mem_cons]
  refine ⟨.required (fun _ _ => rfl) ?_,
    .later <| .required (fun _ _ => rfl) ?_,
    .later <| .later <| .required (fun _ _ => rfl) ?_,
    .later <| .later <| .later <| .required (fun _ _ => rfl) ?_,
    .later <| .later <| .later <| .later <| .required (fun _ _ => rfl) ?_,
    .later <| .later <| .later <| .later <| .later <| .required (fun _ _ => rfl) ?_,
    .later <| .later <| .later <| .later <| .later <| .later <| .required (fun _ _ => rfl) ?_,
    .later <| .later <| .later <| .later <| .later <| .later <| .later <|
      .required (fun _ _ => rfl) ?_,
    by simp⟩
  all_goals simp [Field.keeps_required]

def IsSection [Inhabited δ] (name : String) (fields : List (Field δ)) (get : Settings → δ) : Prop :=
  ∀ entries, ∀ holds : δ → Prop,
    (∀ result, ofEntries fields entries default = .ok result → holds result) →
      Fixes name (.table entries) (fun settings => holds (get settings)) Settings.fields

theorem isSection_token : IsSection "token" Token.fields Settings.token := by
  intro entries holds read
  refine .later <| .here rfl (Field.ensures_required fun value own draft => read value own) ?_
  simp [Field.keeps_required]

theorem isSection_security : IsSection "security" Security.fields Settings.security := by
  intro entries holds read
  refine .later <| .later <| .later <|
    .here rfl (Field.ensures_required fun value own draft => read value own) ?_
  simp [Field.keeps_required]

theorem isSection_database : IsSection "database" Database.fields Settings.database := by
  intro entries holds read
  refine .later <| .later <| .later <| .later <|
    .here rfl (Field.ensures_required fun value own draft => read value own) ?_
  simp [Field.keeps_required]

theorem isSection_mail : IsSection "mailgun" mailFields Settings.mail := by
  intro entries holds read
  refine .later <| .later <| .later <| .later <| .later <|
    .here rfl (Field.ensures_required fun value own draft => read value own) ?_
  simp [Field.keeps_required]

structure TextSetting where
  place : String
  field : String
  get : Settings → Option String

namespace TextSetting

def within (place : String) (part : Settings → δ) (texts : List (String × (δ → Option String))) :
    List TextSetting :=
  texts.map fun own => ⟨place, own.1, own.2 ∘ part⟩

def all : List TextSetting :=
  within "token" Settings.token Token.texts ++ within "security" Settings.security Security.texts ++
    within "database" Settings.database Database.texts ++ within "mailgun" Settings.mail mailTexts

def key (setting : TextSetting) : String := setting.place ++ "." ++ setting.field

def Reads (setting : TextSetting) : Prop :=
  ∀ {tree found settings value}, ofTree tree = .ok settings →
    tree.Has setting.place setting.field found → text found = .ok value →
      setting.get settings = some value

theorem ofEntries_of_ofTree {settings : Settings} (read : ofTree tree = .ok settings)
    (place : String) {inner : SettingTree} (placed : tree.entry? place = some inner) :
    ofEntries Settings.fields tree.entries default = .ok settings := by
  obtain ⟨parts, whole, checked⟩ := exists_of_bind_eq_ok read
  obtain ⟨-, -, same⟩ := exists_of_bind_eq_ok checked
  obtain rfl := Except.ok.inj same
  cases tree with
  | table entries => exact whole
  | _ => cases placed

theorem reads_within [Inhabited δ] {place : String} {fields : List (Field δ)}
    {part : Settings → δ} {texts : List (String × (δ → Option String))}
    (whole : IsSection place fields part) (own : ∀ text ∈ texts, HasText fields text.1 text.2) :
    ∀ setting ∈ within place part texts, setting.Reads := by
  intro setting member tree found settings value read has isText
  obtain ⟨named, listed, rfl⟩ := List.mem_map.mp member
  obtain ⟨inner, placed, held⟩ := has
  have fixes := whole inner (named.2 · = some value) fun result complete =>
    (own named listed found value isText).ofEntries held complete
  exact fixes.ofEntries placed (ofEntries_of_ofTree read place placed)

theorem reads_all : ∀ setting ∈ all, setting.Reads := by
  simp only [all, List.forall_mem_append]
  exact ⟨⟨⟨reads_within isSection_token Token.hasText,
    reads_within isSection_security Security.hasText⟩,
    reads_within isSection_database Database.hasText⟩, reads_within isSection_mail mail_hasText⟩

end TextSetting

end Enrolment.Settings
