import Enrolment.Proofs.Token.SharedSecrets
import Enrolment.Proofs.Settings.Sections

set_option autoImplicit false

namespace Enrolment

namespace TokenService

variable (service : TokenService)

def withWindow (window : Nat) : TokenService := { service with window }

def IsTaken (entropy : Bytes) (claims : Claims) (issued now : Instant) : Prop :=
  service.extract (service.create entropy claims issued) now = .ok claims

theorem toInt64_add_word (value : Int) : toInt64 (value + UInt64.size) = toInt64 value :=
  Int.add_bmod_right value UInt64.size

theorem expiry_cases (issued : Int) (lower : -(2 ^ 63) ≤ issued) (upper : issued < 2 ^ 63)
    (word : service.window < 2 ^ 64) :
    service.expiry issued =
      if issued + service.window < 2 ^ 63 then issued + service.window
      else issued + service.window - UInt64.size := by
  split
  next fits => exact service.expiry_of_fits issued lower fits
  next passes =>
    have back := toInt64_add_word (issued + service.window - UInt64.size)
    rw [Int.sub_add_cancel] at back
    rw [expiry, toInt64, toInt64, Int.add_bmod_bmod]
    refine back.trans (toInt64_of_fits _ ?_ ?_) <;> simp only [UInt64.size] <;> omega

theorem toInt64_eq_iff (value : Int) :
    toInt64 value = value ↔ -(2 ^ 63) ≤ value ∧ value < 2 ^ 63 := by
  constructor
  · intro same
    have bounds := toInt64_bounds value
    rwa [same] at bounds
  · rintro ⟨lower, upper⟩
    exact toInt64_of_fits value lower upper

theorem isTaken_iff (entropy : Bytes) (claims : Claims) (issued now : Instant)
    (lower : -(2 ^ 63) ≤ issued.seconds) (upper : issued.seconds < 2 ^ 63)
    (word : service.window < 2 ^ 64)
    (accepts : service.key.Accepts entropy (service.message claims issued)) :
    service.IsTaken entropy claims issued now ↔
      claims.isComplete = true ∧ service.IsLive issued now ∧
        issued.seconds + service.window < 2 ^ 63 := by
  have expiry := service.expiry_cases issued.seconds lower upper word
  rw [IsTaken, IsLive, service.extract_create_expiry entropy claims issued now lower upper accepts,
    expiry]
  by_cases fits : issued.seconds + service.window < 2 ^ 63
  · rw [if_pos fits]
    constructor
    · intro taken
      split_ifs at taken with early late complete
      exact ⟨complete, ⟨by omega, by omega⟩, fits⟩
    · rintro ⟨complete, ⟨started, unexpired⟩, -⟩
      rw [if_neg (by omega), if_neg (by omega), if_pos complete]
  · rw [if_neg fits]
    simp only [UInt64.size]
    constructor
    · intro taken
      -- An expiry that was led back lies before the issue, and no second is after the one alone.
      split_ifs at taken with early late complete
      omega
    · rintro ⟨-, -, within⟩
      exact absurd within fits

end TokenService

namespace Settings

variable (settings : Settings) (readFile : String → Option String) (keyEntropy : Bytes)

def withWindow (window : Nat) : Settings :=
  { settings with token := { settings.token with window } }

def keyMaterial : Except KeySourceFault SigningKey.Material :=
  match settings.keySource with
  | .secret secret => .ok (.secret (Bytes.ofString secret))
  | .file path =>
    match readFile path with
    | some armoured => .ok (.armoured armoured)
    | none => .error (.unreadable path)
  | .fresh => .ok (.fresh keyEntropy)

theorem tokenService_eq :
    settings.tokenService readFile keyEntropy =
      settings.keyMaterial readFile keyEntropy >>= fun material =>
        (SigningKey.ofMaterial settings.token.algorithm material).mapError .key >>= fun key =>
          .ok ⟨settings.token.algorithm, key, settings.token.issuer, settings.token.window⟩ := by
  unfold tokenService keyMaterial
  cases settings.keySource with
  | secret secret => rfl
  | file path =>
    dsimp only
    cases readFile path <;> rfl
  | fresh => rfl

theorem tokenService_withWindow {service : TokenService}
    (built : settings.tokenService readFile keyEntropy = .ok service) (window : Nat) :
    (settings.withWindow window).tokenService readFile keyEntropy =
      .ok (service.withWindow window) := by
  rw [tokenService_eq] at built ⊢
  obtain ⟨material, taken, keyed⟩ := exists_of_bind_eq_ok built
  obtain ⟨key, made, same⟩ := exists_of_bind_eq_ok keyed
  cases same
  -- Neither the material of the key nor the key depends on the window.
  have source : (settings.withWindow window).keyMaterial readFile keyEntropy = .ok material := taken
  rw [source]
  change (SigningKey.ofMaterial settings.token.algorithm material).mapError KeySourceFault.key >>=
    _ = _
  rw [made]
  rfl

open TokenService (toInt64)

theorem longer_window_outlives {service : TokenService}
    (built : settings.tokenService readFile keyEntropy = .ok service) {shorter longer : Nat}
    (ordered : shorter ≤ longer) (word : longer < 2 ^ 64) (entropy : Bytes) (claims : Claims)
    (issued : Instant) (lower : -(2 ^ 63) ≤ issued.seconds) (upper : issued.seconds < 2 ^ 63)
    (accepts : ∀ window,
      service.key.Accepts entropy ((service.withWindow window).message claims issued)) :
    ∃ brief lasting,
      (settings.withWindow shorter).tokenService readFile keyEntropy = .ok brief ∧
        (settings.withWindow longer).tokenService readFile keyEntropy = .ok lasting ∧
        (toInt64 longer = longer ∧
            toInt64 (issued.seconds + toInt64 longer) = issued.seconds + toInt64 longer ↔
          longer < 2 ^ 63 ∧ issued.seconds + longer < 2 ^ 63) ∧
        (∀ now, lasting.IsTaken entropy claims issued now ↔
          claims.isComplete = true ∧ issued.seconds ≤ now.seconds ∧
            now.seconds < issued.seconds + longer ∧ issued.seconds + longer < 2 ^ 63) ∧
        (issued.seconds + longer < 2 ^ 63 → ∀ now, brief.IsTaken entropy claims issued now →
          lasting.IsTaken entropy claims issued now) ∧
        (1 ≤ longer → claims.isComplete = true → issued.seconds + longer < 2 ^ 63 →
          lasting.IsTaken entropy claims issued issued) := by
  have taken (window : Nat) (within : window < 2 ^ 64) (now : Instant) :=
    (service.withWindow window).isTaken_iff entropy claims issued now lower upper within
      (accepts window)
  refine ⟨_, _, settings.tokenService_withWindow readFile keyEntropy built shorter,
    settings.tokenService_withWindow readFile keyEntropy built longer, ?word, ?life, ?longer,
    ?issue⟩
  case word =>
    rw [TokenService.toInt64_eq_iff, TokenService.toInt64_eq_iff]
    constructor
    · rintro ⟨⟨-, small⟩, ⟨-, fits⟩⟩
      rw [TokenService.toInt64_of_fits _ (by omega) small] at fits
      exact ⟨by omega, fits⟩
    · rintro ⟨small, fits⟩
      rw [TokenService.toInt64_of_fits _ (by omega) (by omega)]
      exact ⟨⟨by omega, by omega⟩, ⟨by omega, fits⟩⟩
  case life =>
    intro now
    rw [taken longer word now, TokenService.IsLive, and_assoc]
    rfl
  case longer =>
    intro fits now briefly
    obtain ⟨complete, ⟨started, unexpired⟩, -⟩ := (taken shorter (by omega) now).mp briefly
    have longerYet : now.seconds < issued.seconds + longer := by
      simp only [TokenService.withWindow] at unexpired
      omega
    exact (taken longer word now).mpr ⟨complete, ⟨started, longerYet⟩, fits⟩
  case issue =>
    intro positive complete fits
    have live : issued.seconds < issued.seconds + longer := by omega
    exact (taken longer word issued).mpr ⟨complete, ⟨Int.le_refl _, live⟩, fits⟩

def farsighted : Settings :=
  { (default : Settings) with token := ⟨.hs256, "waitlist", 600, some "a", none⟩ }

theorem tokenService_farsighted (window : Nat) :
    (farsighted.withWindow window).tokenService (fun _ => none) [] =
      .ok (TokenService.plain.withWindow window) := by
  have secret : Bytes.ofString "a" = [97] := by
    rw [Bytes.ofString_eq]
    decide
  have built : farsighted.tokenService (fun _ => none) [] = .ok TokenService.plain := by
    change (SigningKey.ofSecret .hs256 (Bytes.ofString "a")).mapError KeySourceFault.key >>=
      (fun key => Except.ok (⟨.hs256, key, "waitlist", 600⟩ : TokenService)) = _
    rw [secret]
    rfl
  exact farsighted.tokenService_withWindow _ _ built window

def longest : Nat := 18446744073709551615

def heyday : Instant := Instant.ofMillis 1700000000000

theorem longer_window_outlives_hour :
    ∃ brief lasting, (farsighted.withWindow 600).tokenService (fun _ => none) [] = .ok brief ∧
      (farsighted.withWindow 3600).tokenService (fun _ => none) [] = .ok lasting ∧
      (brief.IsTaken [] TokenService.quotedClaims heyday ⟨1700000599, 0, by decide⟩ →
        lasting.IsTaken [] TokenService.quotedClaims heyday ⟨1700000599, 0, by decide⟩) ∧
      lasting.IsTaken [] TokenService.quotedClaims heyday heyday := by
  obtain ⟨brief, lasting, briefly, lastingly, -, -, longer, issue⟩ :=
    farsighted.longer_window_outlives (fun _ => none) []
      (tokenService_farsighted 600) (by decide : 600 ≤ 3600) (by decide) []
      TokenService.quotedClaims heyday (by decide) (by decide) (by rintro window scheme pair ⟨⟩)
  exact ⟨brief, lasting, briefly, lastingly, longer (by decide) _,
    issue (by decide) (by decide) (by decide)⟩

theorem longest_window_never_live :
    unsigned (.text "18446744073709551615") = .ok longest ∧ 1 ≤ longest ∧
      ∃ brief lasting,
        (farsighted.withWindow 1).tokenService (fun _ => none) [] = .ok brief ∧
          (farsighted.withWindow longest).tokenService (fun _ => none) [] = .ok lasting ∧
          brief.IsTaken [] TokenService.quotedClaims heyday heyday ∧
          ¬lasting.IsTaken [] TokenService.quotedClaims heyday heyday := by
  refine ⟨rfl, by decide, _, _, tokenService_farsighted 1, tokenService_farsighted longest,
    ?_, ?_⟩
  · refine (TokenService.isTaken_iff _ [] TokenService.quotedClaims heyday heyday (by decide)
      (by decide) (by decide) (by rintro scheme pair ⟨⟩)).mpr ?_
    exact ⟨by decide, by unfold TokenService.IsLive; decide, by decide⟩
  · rw [TokenService.isTaken_iff _ [] TokenService.quotedClaims heyday heyday (by decide)
      (by decide) (by decide) (by rintro scheme pair ⟨⟩)]
    rintro ⟨-, -, fits⟩
    exact absurd fits (by decide)

end Settings

end Enrolment
