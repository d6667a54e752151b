import Capm3.Tls.Options

/-!
# The TLS policy of the webhook server

What `GetTLSOptionOverrideFuncs` enforces, for every registry of cipher names and every value of
the three `--tls-*` flags.  It refuses exactly the options of `Refused`: a version label other
than `TLS12` and `TLS13`, an inverted range, or an unknown name in a cipher list that is not
dropped for a TLS 1.3-only range.  Otherwise its closures, run in order on any configuration, set
the resolved range (never inverted) and the registry's IDs of the listed names, and touch no other
field (`getTLSOptionOverrideFuncs_correct`).
-/

namespace Capm3

open Tls

/-- A version label `GetTLSVersion` accepts. -/
def SupportedVersion (version : String) : Prop :=
  version = tlsVersion12 ∨ version = tlsVersion13

/-- The options the builder refuses. -/
def Refused (reg : CipherRegistry) (options : TLSOptions) : Prop :=
  ¬ SupportedVersion options.tlsMinVersion ∨ ¬ SupportedVersion options.tlsMaxVersion ∨
    (∃ lo hi, getTLSVersion options.tlsMinVersion = .ok lo ∧
      getTLSVersion options.tlsMaxVersion = .ok hi ∧ hi < lo) ∨
    CiphersApply options ∧
      ∃ name ∈ Strings.split options.tlsCipherSuites ',', reg.ciphers name = none

theorem supportedVersion_iff {version : String} :
    SupportedVersion version ↔ ∃ v, getTLSVersion version = .ok v := by
  constructor
  · rintro (h | h)
    · exact ⟨_, getTLSVersion_eq_ok.2 (.inl ⟨h, rfl⟩)⟩
    · exact ⟨_, getTLSVersion_eq_ok.2 (.inr ⟨h, rfl⟩)⟩
  · rintro ⟨v, hv⟩
    exact (getTLSVersion_eq_ok.1 hv).imp And.left And.left

section Builder

variable {reg : CipherRegistry} {options : TLSOptions}

/-- A label that does not resolve fails the build. -/
theorem result_of_unsupported
    (h : ¬ (SupportedVersion options.tlsMinVersion ∧ SupportedVersion options.tlsMaxVersion)) :
    ∃ err, (getTLSOptionOverrideFuncs reg options).result = .error err := by
  rcases hmin : getTLSVersion options.tlsMinVersion with err | lo
  · exact ⟨err, by rw [result_of_min_error hmin]⟩
  rcases hmax : getTLSVersion options.tlsMaxVersion with err | hi
  · exact ⟨err, by rw [result_of_max_error hmin hmax]⟩
  exact absurd ⟨supportedVersion_iff.2 ⟨lo, hmin⟩, supportedVersion_iff.2 ⟨hi, hmax⟩⟩ h

/-- With both labels resolved, the options are refused for an inverted range or an unknown name in
a cipher list that applies. -/
theorem refused_iff_of_versions {lo hi : UInt16}
    (hmin : getTLSVersion options.tlsMinVersion = .ok lo)
    (hmax : getTLSVersion options.tlsMaxVersion = .ok hi) :
    Refused reg options ↔ hi < lo ∨
      CiphersApply options ∧
        ∃ name ∈ Strings.split options.tlsCipherSuites ',', reg.ciphers name = none := by
  have smin := supportedVersion_iff.2 ⟨lo, hmin⟩
  have smax := supportedVersion_iff.2 ⟨hi, hmax⟩
  simp [Refused, smin, smax, hmin, hmax]

/-- Running the two version closures sets the range and nothing else. -/
theorem applyAll_versions {α : Type} (lo hi : UInt16) (cfg : Config α) :
    applyAll [.setMinVersion lo, .setMaxVersion hi] cfg =
      { cfg with minVersion := lo, maxVersion := hi } := rfl

/-- Everything a successful build returns: the closures of the resolved range, never inverted,
then one that sets the registry's IDs of the listed names exactly when the list applies. -/
theorem ok_cases {ops : List Mutator}
    (h : (getTLSOptionOverrideFuncs reg options).result = .ok ops) :
    ∃ lo hi, getTLSVersion options.tlsMinVersion = .ok lo ∧
      getTLSVersion options.tlsMaxVersion = .ok hi ∧ lo ≤ hi ∧
      (¬ CiphersApply options ∧ ops = [.setMinVersion lo, .setMaxVersion hi] ∨
        CiphersApply options ∧ ∃ suites,
          Cliflag.tlsCipherSuites reg.ciphers (Strings.split options.tlsCipherSuites ',') =
            .ok suites ∧
          ops = [.setMinVersion lo, .setMaxVersion hi, .setCipherSuites suites]) := by
  rcases hmin : getTLSVersion options.tlsMinVersion with err | lo
  · simp [result_of_min_error hmin] at h
  rcases hmax : getTLSVersion options.tlsMaxVersion with err | hi
  · simp [result_of_max_error hmin hmax] at h
  rw [result_of_versions hmin hmax] at h
  by_cases hlt : hi < lo
  · simp [hlt] at h
  refine ⟨lo, hi, rfl, rfl, UInt16.not_lt.1 hlt, ?_⟩
  by_cases hc : CiphersApply options
  · simp only [hlt, hc, if_false, if_true, map_eq_ok_iff] at h
    exact .inr ⟨hc, h.imp fun _ => And.imp id Eq.symm⟩
  · simp only [hlt, hc, if_false, Except.ok.injEq] at h
    exact .inl ⟨hc, h.symm⟩

/-- `GetTLSOptionOverrideFuncs` fails exactly on the refused options; when it succeeds, its
closures set the resolved range, never inverted, and the cipher suites: the registry's IDs of the
listed names when the list applies, the configuration's own otherwise.  No other field changes. -/
theorem getTLSOptionOverrideFuncs_correct (reg : CipherRegistry) (options : TLSOptions) :
    ((∃ err, (getTLSOptionOverrideFuncs reg options).result = .error err) ↔
        Refused reg options) ∧
      ∀ ops, (getTLSOptionOverrideFuncs reg options).result = .ok ops →
        ∀ {α : Type} (cfg : Config α),
          getTLSVersion options.tlsMinVersion = .ok (applyAll ops cfg).minVersion ∧
          getTLSVersion options.tlsMaxVersion = .ok (applyAll ops cfg).maxVersion ∧
          (applyAll ops cfg).minVersion ≤ (applyAll ops cfg).maxVersion ∧
          (CiphersApply options →
            (Strings.split options.tlsCipherSuites ',').map reg.ciphers =
              (applyAll ops cfg).cipherSuites.map some) ∧
          (¬ CiphersApply options → (applyAll ops cfg).cipherSuites = cfg.cipherSuites) ∧
          { applyAll ops cfg with
              minVersion := cfg.minVersion, maxVersion := cfg.maxVersion,
              cipherSuites := cfg.cipherSuites } = cfg := by
  by_cases hs : SupportedVersion options.tlsMinVersion ∧ SupportedVersion options.tlsMaxVersion
  case neg =>
    obtain ⟨err, herr⟩ : ∃ err, (getTLSOptionOverrideFuncs reg options).result = .error err :=
      result_of_unsupported hs
    have refused : Refused reg options := by
      rw [not_and_or] at hs
      exact hs.elim .inl (.inr ∘ .inl)
    exact ⟨iff_of_true ⟨err, herr⟩ refused, fun ops h => by simp [herr] at h⟩
  obtain ⟨⟨lo, hmin⟩, ⟨hi, hmax⟩⟩ :=
    And.imp supportedVersion_iff.1 supportedVersion_iff.1 hs
  rw [refused_iff_of_versions hmin hmax, result_of_versions hmin hmax]
  by_cases hlt : hi < lo
  · simp [hlt]
  have hle : lo ≤ hi := UInt16.not_lt.1 hlt
  by_cases hc : CiphersApply options
  case neg => simp [hlt, hc, applyAll_versions, hmin, hmax, hle]
  rcases e : Cliflag.tlsCipherSuites reg.ciphers (Strings.split options.tlsCipherSuites ',')
    with err | suites
  · have unknown := Cliflag.tlsCipherSuites_error_iff.1 ⟨err, e⟩
    simp [hlt, hc, e, unknown, Functor.map, Except.map]
  · have known := Cliflag.tlsCipherSuites_eq_ok.1 e
    have none_unknown : ¬ ∃ name ∈ Strings.split options.tlsCipherSuites ',',
        reg.ciphers name = none :=
      fun h => by simpa [e] using Cliflag.tlsCipherSuites_error_iff.2 h
    simp [hlt, hc, e, none_unknown, Functor.map, Except.map, applyAll, hmin, hmax, hle, known]

/- The default TLS flags (`--tls-min-version=TLS12`, `--tls-max-version=TLS13`, no cipher list)
pass the builder whatever the cipher registry: the default range, Go's own cipher suites, and
nothing logged. -/
example (reg : CipherRegistry) :
    getTLSOptionOverrideFuncs reg ⟨"TLS13", "TLS12", ""⟩ =
      ⟨[], .ok [.setMinVersion versionTLS12, .setMaxVersion versionTLS13]⟩ := by
  rfl

/-- A failed build reports the first offending flag: an unknown minimum label, else an unknown
maximum label, else the inverted range, else the first name of an applying cipher list that the
registry does not hold. -/
theorem getTLSOptionOverrideFuncs_eq_error (reg : CipherRegistry) (options : TLSOptions)
    (err : TLSError) :
    (getTLSOptionOverrideFuncs reg options).result = .error err ↔
      ¬ SupportedVersion options.tlsMinVersion ∧
        err = .unexpectedTLSVersion options.tlsMinVersion ∨
      SupportedVersion options.tlsMinVersion ∧ ¬ SupportedVersion options.tlsMaxVersion ∧
        err = .unexpectedTLSVersion options.tlsMaxVersion ∨
      ∃ lo hi, getTLSVersion options.tlsMinVersion = .ok lo ∧
        getTLSVersion options.tlsMaxVersion = .ok hi ∧
        (hi < lo ∧ err = .minGreaterThanMax options.tlsMinVersion options.tlsMaxVersion ∨
          lo ≤ hi ∧ CiphersApply options ∧
            ∃ pre name post, Strings.split options.tlsCipherSuites ',' = pre ++ name :: post ∧
              (∀ n ∈ pre, (reg.ciphers n).isSome) ∧ reg.ciphers name = none ∧
              err = .unsupportedCipherSuite name) := by
  rcases hmin : getTLSVersion options.tlsMinVersion with e | lo
  · obtain ⟨-, -, rfl⟩ := getTLSVersion_eq_error.1 hmin
    have unsupported : ¬ SupportedVersion options.tlsMinVersion := by
      simp [supportedVersion_iff, hmin]
    simpa [result_of_min_error hmin, unsupported] using eq_comm
  have smin : SupportedVersion options.tlsMinVersion := supportedVersion_iff.2 ⟨lo, hmin⟩
  rcases hmax : getTLSVersion options.tlsMaxVersion with e | hi
  · obtain ⟨-, -, rfl⟩ := getTLSVersion_eq_error.1 hmax
    have unsupported : ¬ SupportedVersion options.tlsMaxVersion := by
      simp [supportedVersion_iff, hmax]
    simpa [result_of_max_error hmin hmax, smin, unsupported] using eq_comm
  have smax : SupportedVersion options.tlsMaxVersion := supportedVersion_iff.2 ⟨hi, hmax⟩
  rw [result_of_versions hmin hmax]
  by_cases hlt : hi < lo
  · simpa [hlt, smin, smax, UInt16.not_le.2 hlt] using eq_comm
  by_cases hc : CiphersApply options
  · simp [hlt, hc, smin, smax, map_eq_error_iff, Cliflag.tlsCipherSuites_eq_error,
      UInt16.not_lt.1 hlt]
  · simp [hlt, hc, smin, smax]

/-! ## Warnings, and the order of the closures -/

/-- The log of a build, branch by branch: nothing on failure; on success the TLS 1.3 warning when
a cipher list was dropped, then the insecure-cipher warnings when the list applies. -/
theorem log_of_result (reg : CipherRegistry) (options : TLSOptions) :
    (∀ err, (getTLSOptionOverrideFuncs reg options).result = .error err →
      (getTLSOptionOverrideFuncs reg options).log = []) ∧
    ∀ ops, (getTLSOptionOverrideFuncs reg options).result = .ok ops →
      (getTLSOptionOverrideFuncs reg options).log =
        (if TLS13Only options ∧ options.tlsCipherSuites ≠ "" then [ignoringCiphersWarning]
          else []) ++
        (if CiphersApply options then
          insecureCipherWarnings reg.insecure (Strings.split options.tlsCipherSuites ',')
          else []) := by
  rcases hmin : getTLSVersion options.tlsMinVersion with err | lo
  · simp [result_of_min_error hmin]
  rcases hmax : getTLSVersion options.tlsMaxVersion with err | hi
  · simp [result_of_max_error hmin hmax]
  rw [of_versions hmin hmax]
  by_cases hlt : hi < lo
  · simp [hlt]
  by_cases drop : TLS13Only options ∧ options.tlsCipherSuites ≠ ""
  · simp [hlt, drop, CiphersApply]
  · simp only [hlt, drop, if_false, appendCipherSuites_log, ciphersApply_of_kept drop,
      List.nil_append]
    constructor
    · intro err h
      simp [h, Except.isOk, Except.toBool]
    · intro ops h
      simp [h, Except.isOk, Except.toBool]

/-- What a build logs: nothing when it fails.  When it succeeds: the TLS 1.3 warning once if a
cipher list was dropped and never otherwise; for each name, as many insecure-cipher warnings as
there are pairs of a listed occurrence of it and an equal entry of `InsecureTLSCipherNames`, none
when the list does not apply; and no other line. -/
theorem getTLSOptionOverrideFuncs_warnings (reg : CipherRegistry) (options : TLSOptions) :
    (∀ err, (getTLSOptionOverrideFuncs reg options).result = .error err →
      (getTLSOptionOverrideFuncs reg options).log = []) ∧
    ∀ ops, (getTLSOptionOverrideFuncs reg options).result = .ok ops →
      (getTLSOptionOverrideFuncs reg options).log.count ignoringCiphersWarning =
          (if TLS13Only options ∧ options.tlsCipherSuites ≠ "" then 1 else 0) ∧
      (∀ cipher,
        (getTLSOptionOverrideFuncs reg options).log.count (insecureCipherWarning cipher) =
          if CiphersApply options then
            (Strings.split options.tlsCipherSuites ',').count cipher * reg.insecure.count cipher
          else 0) ∧
      ∀ line ∈ (getTLSOptionOverrideFuncs reg options).log,
        line = ignoringCiphersWarning ∨ ∃ cipher, line = insecureCipherWarning cipher := by
  refine ⟨(log_of_result reg options).1, fun ops ok => ?_⟩
  rw [(log_of_result reg options).2 ops ok]
  have lines : ∀ line ∈ insecureCipherWarnings reg.insecure
      (Strings.split options.tlsCipherSuites ','),
      ∃ cipher, line = insecureCipherWarning cipher := by
    simp only [insecureCipherWarnings, List.mem_flatMap, List.mem_map]
    rintro _ ⟨cipher, -, -, -, rfl⟩
    exact ⟨cipher, rfl⟩
  by_cases drop : TLS13Only options ∧ options.tlsCipherSuites ≠ ""
  case pos =>
    have kept : ¬ CiphersApply options := fun ⟨_, only⟩ => only drop.1
    simp only [if_pos drop, if_neg kept, List.append_nil]
    refine ⟨by simp, fun cipher => List.count_eq_zero_of_not_mem fun mem => ?_, by simp⟩
    exact insecureCipherWarning_ne_ignoringCiphersWarning cipher (List.mem_singleton.1 mem)
  simp only [if_neg drop, List.nil_append]
  by_cases applies : CiphersApply options
  case neg => simp [applies]
  simp only [if_pos applies]
  refine ⟨List.count_eq_zero_of_not_mem fun mem => ?_, count_insecureCipherWarnings _ _,
    fun line mem => .inr (lines line mem)⟩
  obtain ⟨cipher, same⟩ := lines _ mem
  exact insecureCipherWarning_ne_ignoringCiphersWarning cipher same.symm

/-- A cipher registry that knows no name. -/
def emptyRegistry : CipherRegistry := ⟨fun _ => none, []⟩

end Builder

end Capm3
