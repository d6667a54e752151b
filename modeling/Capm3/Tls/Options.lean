import Capm3.Tls.Config
import Mathlib.Data.List.Basic

/-!
# Building the TLS options

`GetTLSOptionOverrideFuncs` of `main.go` with the functions it calls: `GetTLSVersion`, Go's
`strings.Split` on `","`, and `cliflag.TLSCipherSuites`, whose name → ID registry and list of
insecure names (`CipherRegistry`) are parameters.  The builder returns its result together with
the warnings it logs (`Logged`), and its errors are kept as data (`TLSError`) with the text
`fmt.Errorf` gives them (`TLSError.message`), whose `%q` reads Go's print tables (`isPrint`).

Each function gets one lemma saying what it computes: `getTLSVersion_eq_ok` and
`getTLSVersion_eq_error`, `tlsCipherSuites_eq_ok` and `tlsCipherSuites_isOk`, and for the builder
`result_of_versions`, `result_of_min_error` and `result_of_max_error`.
-/

namespace Capm3

open Tls

/-- `TLSVersion12`. -/
def tlsVersion12 : String := "TLS12"

/-- `TLSVersion13`. -/
def tlsVersion13 : String := "TLS13"

/-- `TLSOptions`, as the `--tls-*` flags fill it. -/
structure TLSOptions where
  tlsMaxVersion : String
  tlsMinVersion : String
  tlsCipherSuites : String
  deriving DecidableEq, Repr

/-- The errors that reach `main` from the TLS options. -/
inductive TLSError
  | unexpectedTLSVersion (version : String)
  | minGreaterThanMax (minVersion maxVersion : String)
  | unsupportedCipherSuite (cipher : String)
  deriving DecidableEq, Repr

/-- `strconv.IsPrint`: the Latin-1 fast path of its code, and above it `table`, the print tables
(`isPrint16`, `isNotPrint16`, `isPrint32`, `isNotPrint32`) that `isprint.go` holds for the
Unicode version of the Go release. -/
def isPrint (table : Char → Bool) (r : Char) : Bool :=
  if r.toNat ≤ 0xFF then
    decide (0x20 ≤ r.toNat ∧ r.toNat ≤ 0x7E ∨ 0xA1 ≤ r.toNat ∧ r.toNat ≠ 0xAD)
  else table r

/-- `n` hexadecimal digits of `v`, most significant first, as `lowerhex[v>>s&0xF]` writes them
for `s` from `4 (n - 1)` down to `0`. -/
def hexDigits : Nat → Nat → List Char
  | 0, _ => []
  | n + 1, v => hexDigits n (v / 16) ++ [Nat.digitChar (v % 16)]

/-- One rune under Go's `%q` (`strconv.Quote`, `appendEscapedRune`): the quote and the backslash
escaped, printable runes copied, the C escapes, other control characters as `\xHH`, the other
runes as `\uHHHH` or, above `0xFFFF`, `\UHHHHHHHH`. -/
def quoteRune (table : Char → Bool) (r : Char) : String :=
  if r = '"' ∨ r = '\\' then "\\" ++ r.toString
  else if isPrint table r then r.toString
  else match r with
    | '\x07' => "\\a"
    | '\x08' => "\\b"
    | '\x0c' => "\\f"
    | '\n' => "\\n"
    | '\r' => "\\r"
    | '\t' => "\\t"
    | '\x0b' => "\\v"
    | r =>
      if r.toNat < 0x20 ∨ r.toNat = 0x7f then "\\x" ++ String.mk (hexDigits 2 r.toNat)
      else if r.toNat < 0x10000 then "\\u" ++ String.mk (hexDigits 4 r.toNat)
      else "\\U" ++ String.mk (hexDigits 8 r.toNat)

/-- Go's `%q` on a string. -/
def quote (table : Char → Bool) (s : String) : String :=
  "\"" ++ String.join (s.toList.map (quoteRune table)) ++ "\""

/-- The error's `Error()` text, as `fmt.Errorf` formats it. -/
def TLSError.message (table : Char → Bool) : TLSError → String
  | .unexpectedTLSVersion version =>
    "unexpected TLS version " ++ quote table version ++ " (must be one of: TLS12, TLS13)"
  | .minGreaterThanMax minVersion maxVersion =>
    "TLS version flag min version (" ++ minVersion ++ ") is greater than max version (" ++
      maxVersion ++ ")"
  | .unsupportedCipherSuite cipher =>
    "Cipher suite " ++ cipher ++ " not supported or doesn't exist"

/-- `GetTLSVersion`. -/
def getTLSVersion (version : String) : Except TLSError UInt16 :=
  if version = tlsVersion12 then .ok versionTLS12
  else if version = tlsVersion13 then .ok versionTLS13
  else .error (.unexpectedTLSVersion version)

theorem getTLSVersion_eq_ok {version : String} {v : UInt16} :
    getTLSVersion version = .ok v ↔
      version = tlsVersion12 ∧ v = versionTLS12 ∨
        version = tlsVersion13 ∧ v = versionTLS13 := by
  unfold getTLSVersion
  split_ifs <;> simp_all [tlsVersion12, tlsVersion13, eq_comm]

theorem getTLSVersion_eq_error {version : String} {err : TLSError} :
    getTLSVersion version = .error err ↔
      version ≠ tlsVersion12 ∧ version ≠ tlsVersion13 ∧
        err = .unexpectedTLSVersion version := by
  unfold getTLSVersion
  split_ifs <;> simp_all [eq_comm]

/-- `GetTLSVersion` never yields `0`, the value the range check reads as "no maximum". -/
theorem getTLSVersion_ne_zero {version : String} {v : UInt16}
    (h : getTLSVersion version = .ok v) : v ≠ 0 := by
  rcases getTLSVersion_eq_ok.mp h with ⟨-, rfl⟩ | ⟨-, rfl⟩ <;> decide

namespace Strings

/-- `strings.Split(s, sep)` for a one-character `sep`: the pieces of `s` between the occurrences
of `sep`, the empty ones included. -/
def split (s : String) (sep : Char) : List String :=
  (s.toList.splitOn sep).map String.mk

end Strings

/-- The cipher tables of `k8s.io/component-base/cli/flag`: the name → ID map `TLSCipherSuites`
looks names up in, and the names `InsecureTLSCipherNames` returns. -/
structure CipherRegistry where
  ciphers : String → Option UInt16
  insecure : List String

/-! ### Results of fallible calls -/

theorem exists_error_iff_not_ok {ε α : Type} (e : Except ε α) :
    (∃ err, e = .error err) ↔ ¬ ∃ x, e = .ok x := by
  cases e <;> simp

theorem map_eq_ok_iff {ε α β : Type} {f : α → β} {e : Except ε α} {b : β} :
    f <$> e = .ok b ↔ ∃ a, e = .ok a ∧ f a = b := by
  cases e <;> simp [Functor.map, Except.map]

theorem map_eq_error_iff {ε α β : Type} {f : α → β} {e : Except ε α} {err : ε} :
    f <$> e = .error err ↔ e = .error err := by
  cases e <;> simp [Functor.map, Except.map]

namespace Cliflag

/-- `cliflag.TLSCipherSuites`: the IDs of the named suites in order; the first name the registry
does not hold fails. -/
def tlsCipherSuites (ciphers : String → Option UInt16) :
    List String → Except TLSError (List UInt16)
  | [] => .ok []
  | cipher :: rest =>
    match ciphers cipher with
    | none => .error (.unsupportedCipherSuite cipher)
    | some id => (id :: ·) <$> tlsCipherSuites ciphers rest

variable {ciphers : String → Option UInt16} {cipher : String} {rest : List String}

@[simp] theorem tlsCipherSuites_nil : tlsCipherSuites ciphers [] = .ok [] := rfl

theorem tlsCipherSuites_cons_none (h : ciphers cipher = none) :
    tlsCipherSuites ciphers (cipher :: rest) = .error (.unsupportedCipherSuite cipher) := by
  simp [tlsCipherSuites, h]

theorem tlsCipherSuites_cons_some {id : UInt16} (h : ciphers cipher = some id) :
    tlsCipherSuites ciphers (cipher :: rest) = (id :: ·) <$> tlsCipherSuites ciphers rest := by
  simp [tlsCipherSuites, h]

/-- A successful lookup gives the registry's IDs of the names, in the same order and number. -/
theorem tlsCipherSuites_eq_ok {names : List String} {ids : List UInt16} :
    tlsCipherSuites ciphers names = .ok ids ↔ names.map ciphers = ids.map some := by
  induction names generalizing ids with
  | nil => cases ids <;> simp
  | cons cipher rest ih =>
    rcases h : ciphers cipher with _ | id
    · cases ids <;> simp [tlsCipherSuites_cons_none h, h]
    · rw [tlsCipherSuites_cons_some h, map_eq_ok_iff]
      cases ids with
      | nil => simp
      | cons id' ids => simpa [ih, h] using and_comm

/-- The lookup succeeds exactly when the registry holds every name. -/
theorem tlsCipherSuites_isOk {names : List String} :
    (∃ ids, tlsCipherSuites ciphers names = .ok ids) ↔ ∀ n ∈ names, (ciphers n).isSome := by
  induction names with
  | nil => simp
  | cons cipher rest ih =>
    rcases h : ciphers cipher with _ | id
    · simp [tlsCipherSuites_cons_none h, h]
    · simp only [tlsCipherSuites_cons_some h, map_eq_ok_iff, List.forall_mem_cons, h,
        Option.isSome_some, true_and, ← ih]
      exact ⟨fun ⟨_, ids, e, _⟩ => ⟨ids, e⟩, fun ⟨ids, e⟩ => ⟨_, ids, e, rfl⟩⟩

/-- The lookup fails exactly when the registry lacks one of the names. -/
theorem tlsCipherSuites_error_iff {names : List String} :
    (∃ err, tlsCipherSuites ciphers names = .error err) ↔
      ∃ name ∈ names, ciphers name = none := by
  rw [exists_error_iff_not_ok, tlsCipherSuites_isOk]
  simp [Option.isSome_iff_ne_none]

/-- A failed lookup names the first name the registry does not hold. -/
theorem tlsCipherSuites_eq_error {names : List String} {err : TLSError} :
    tlsCipherSuites ciphers names = .error err ↔
      ∃ pre name post, names = pre ++ name :: post ∧ (∀ n ∈ pre, (ciphers n).isSome) ∧
        ciphers name = none ∧ err = .unsupportedCipherSuite name := by
  induction names with
  | nil => simp
  | cons cipher rest ih =>
    rcases h : ciphers cipher with _ | id
    · rw [tlsCipherSuites_cons_none h, Except.error.injEq]
      constructor
      · rintro rfl
        exact ⟨[], cipher, rest, rfl, by simp, h, rfl⟩
      · rintro ⟨pre, name, post, split, known, unknown, rfl⟩
        rcases List.cons_eq_append_iff.1 split with ⟨rfl, e⟩ | ⟨pre', rfl, -⟩
        · cases e; rfl
        · simp [h] at known
    · rw [tlsCipherSuites_cons_some h, map_eq_error_iff, ih]
      constructor
      · rintro ⟨pre, name, post, rfl, known, unknown, rfl⟩
        exact ⟨cipher :: pre, name, post, rfl, List.forall_mem_cons.2 ⟨by simp [h], known⟩,
          unknown, rfl⟩
      · rintro ⟨pre, name, post, split, known, unknown, rfl⟩
        rcases List.cons_eq_append_iff.1 split with ⟨rfl, e⟩ | ⟨pre', rfl, e⟩
        · cases e; simp [h] at unknown
        · exact ⟨pre', name, post, e, fun n hn => known n (List.mem_cons_of_mem _ hn),
            unknown, rfl⟩

end Cliflag

/-- The line `fmt.Sprintf("warning: use of insecure cipher '%s' detected.", cipher)`. -/
def insecureCipherWarning (cipher : String) : String :=
  "warning: use of insecure cipher '" ++ cipher ++ "' detected."

/-- One warning per pair of a requested name and an equal entry of `InsecureTLSCipherNames`, in
the order of the nested loop. -/
def insecureCipherWarnings (insecure tlsCipherSuites : List String) : List String :=
  tlsCipherSuites.flatMap fun cipher =>
    (insecure.filter (· == cipher)).map fun _ => insecureCipherWarning cipher

/-- The warning for a cipher list given with a TLS 1.3-only range. -/
def ignoringCiphersWarning : String :=
  "warning: Cipher suites should not be set for TLS version 1.3. Ignoring ciphers"

theorem insecureCipherWarning_injective : Function.Injective insecureCipherWarning :=
  fun cipher cipher' h => by
    have := congrArg String.data h
    simp only [insecureCipherWarning, String.data_append, List.append_assoc,
      List.append_cancel_left_eq, List.append_cancel_right_eq] at this
    exact String.ext this

theorem insecureCipherWarning_ne_ignoringCiphersWarning (cipher : String) :
    insecureCipherWarning cipher ≠ ignoringCiphersWarning := fun h => by
  have heads := congrArg (fun s : String => s.data.take 10) h
  change "warning: u".data = "warning: C".data at heads
  exact absurd heads (by decide)

/-- Each name gets one warning per listed occurrence and per equal insecure entry. -/
theorem count_insecureCipherWarnings (insecure tlsCipherSuites : List String) (cipher : String) :
    (insecureCipherWarnings insecure tlsCipherSuites).count (insecureCipherWarning cipher) =
      tlsCipherSuites.count cipher * insecure.count cipher := by
  induction tlsCipherSuites with
  | nil => simp [insecureCipherWarnings]
  | cons name names ih =>
    rw [insecureCipherWarnings, List.flatMap_cons, List.count_append, ← insecureCipherWarnings,
      ih, List.map_const', List.count_replicate, ← List.countP_eq_length_filter,
      ← List.count_eq_countP]
    by_cases same : name = cipher
    · subst same
      simp [List.count_cons, Nat.add_mul, Nat.add_comm]
    · simp [List.count_cons, same, insecureCipherWarning_injective.eq_iff]

/-- A result together with the lines logged through `setupLog.Info` on the way, in order. -/
structure Logged (α : Type) where
  log : List String
  result : α

/-- `GetTLSOptionOverrideFuncs` from `if options.TLSCipherSuites != ""` on. -/
def appendCipherSuites (reg : CipherRegistry) (options : TLSOptions)
    (tlsOptions : List Mutator) : Logged (Except TLSError (List Mutator)) :=
  if options.tlsCipherSuites = "" then ⟨[], .ok tlsOptions⟩
  else
    let tlsCipherSuites := Strings.split options.tlsCipherSuites ','
    match Cliflag.tlsCipherSuites reg.ciphers tlsCipherSuites with
    | .error err => ⟨[], .error err⟩
    | .ok suites =>
      ⟨insecureCipherWarnings reg.insecure tlsCipherSuites,
        .ok (tlsOptions ++ [.setCipherSuites suites])⟩

/-- `GetTLSOptionOverrideFuncs`: the TLS options of the webhook server. -/
def getTLSOptionOverrideFuncs (reg : CipherRegistry) (options : TLSOptions) :
    Logged (Except TLSError (List Mutator)) :=
  match getTLSVersion options.tlsMinVersion with
  | .error err => ⟨[], .error err⟩
  | .ok tlsMinVersion =>
    match getTLSVersion options.tlsMaxVersion with
    | .error err => ⟨[], .error err⟩
    | .ok tlsMaxVersion =>
      if tlsMaxVersion ≠ 0 ∧ tlsMinVersion > tlsMaxVersion then
        ⟨[], .error (.minGreaterThanMax options.tlsMinVersion options.tlsMaxVersion)⟩
      else
        let tlsOptions := [Mutator.setMinVersion tlsMinVersion, .setMaxVersion tlsMaxVersion]
        if options.tlsMinVersion = tlsVersion13 ∧ options.tlsMaxVersion = tlsVersion13 ∧
            options.tlsCipherSuites ≠ "" then
          let rest := appendCipherSuites reg { options with tlsCipherSuites := "" } tlsOptions
          ⟨ignoringCiphersWarning :: rest.log, rest.result⟩
        else appendCipherSuites reg options tlsOptions

/-! ## What the builder computes -/

/-- Both ends of the range are TLS 1.3, where a cipher list is dropped. -/
def TLS13Only (options : TLSOptions) : Prop :=
  options.tlsMinVersion = tlsVersion13 ∧ options.tlsMaxVersion = tlsVersion13

/-- The cipher list reaches `cliflag.TLSCipherSuites`: it is given and not dropped. -/
def CiphersApply (options : TLSOptions) : Prop :=
  options.tlsCipherSuites ≠ "" ∧ ¬ TLS13Only options

instance (options : TLSOptions) : Decidable (TLS13Only options) :=
  inferInstanceAs (Decidable (_ ∧ _))

instance (options : TLSOptions) : Decidable (CiphersApply options) :=
  inferInstanceAs (Decidable (_ ∧ _))

section Builder

variable {reg : CipherRegistry} {options : TLSOptions}

/-- A cipher list that is not dropped applies exactly when it is given. -/
theorem ciphersApply_of_kept (kept : ¬ (TLS13Only options ∧ options.tlsCipherSuites ≠ "")) :
    CiphersApply options ↔ options.tlsCipherSuites ≠ "" :=
  ⟨And.left, fun given => ⟨given, fun h13 => kept ⟨h13, given⟩⟩⟩

theorem appendCipherSuites_result (ops : List Mutator) :
    (appendCipherSuites reg options ops).result =
      if options.tlsCipherSuites = "" then .ok ops
      else (fun suites => ops ++ [.setCipherSuites suites]) <$>
        Cliflag.tlsCipherSuites reg.ciphers (Strings.split options.tlsCipherSuites ',') := by
  unfold appendCipherSuites
  split_ifs
  · rfl
  · dsimp only
    cases Cliflag.tlsCipherSuites reg.ciphers _ <;> rfl

theorem appendCipherSuites_log (ops : List Mutator) :
    (appendCipherSuites reg options ops).log =
      if options.tlsCipherSuites ≠ "" ∧ (appendCipherSuites reg options ops).result.isOk then
        insecureCipherWarnings reg.insecure (Strings.split options.tlsCipherSuites ',')
      else [] := by
  by_cases hc : options.tlsCipherSuites = ""
  · simp [appendCipherSuites, hc]
  · cases h : Cliflag.tlsCipherSuites reg.ciphers (Strings.split options.tlsCipherSuites ',') <;>
      simp [appendCipherSuites, hc, h, Except.isOk, Except.toBool]

theorem result_of_min_error {err : TLSError}
    (h : getTLSVersion options.tlsMinVersion = .error err) :
    getTLSOptionOverrideFuncs reg options = ⟨[], .error err⟩ := by
  simp [getTLSOptionOverrideFuncs, h]

theorem result_of_max_error {lo : UInt16} {err : TLSError}
    (hmin : getTLSVersion options.tlsMinVersion = .ok lo)
    (h : getTLSVersion options.tlsMaxVersion = .error err) :
    getTLSOptionOverrideFuncs reg options = ⟨[], .error err⟩ := by
  simp [getTLSOptionOverrideFuncs, hmin, h]

/-- Once both labels resolve: an inverted range fails, a cipher list given with a TLS 1.3-only
range is dropped with a warning, and otherwise the cipher list decides. -/
theorem of_versions {lo hi : UInt16} (hmin : getTLSVersion options.tlsMinVersion = .ok lo)
    (hmax : getTLSVersion options.tlsMaxVersion = .ok hi) :
    getTLSOptionOverrideFuncs reg options =
      if hi < lo then
        ⟨[], .error (.minGreaterThanMax options.tlsMinVersion options.tlsMaxVersion)⟩
      else if TLS13Only options ∧ options.tlsCipherSuites ≠ "" then
        ⟨[ignoringCiphersWarning], .ok [.setMinVersion lo, .setMaxVersion hi]⟩
      else appendCipherSuites reg options [.setMinVersion lo, .setMaxVersion hi] := by
  have hi0 := getTLSVersion_ne_zero hmax
  simp only [getTLSOptionOverrideFuncs, hmin, hmax, ne_eq, hi0, not_false_eq_true, true_and,
    gt_iff_lt, TLS13Only, and_assoc]
  split_ifs <;> simp [appendCipherSuites]

/-- Once both labels resolve, the builder refuses an inverted range, and otherwise returns the
two version closures, followed by the cipher closure when a cipher list applies. -/
theorem result_of_versions {lo hi : UInt16} (hmin : getTLSVersion options.tlsMinVersion = .ok lo)
    (hmax : getTLSVersion options.tlsMaxVersion = .ok hi) :
    (getTLSOptionOverrideFuncs reg options).result =
      if hi < lo then .error (.minGreaterThanMax options.tlsMinVersion options.tlsMaxVersion)
      else if CiphersApply options then
        (fun suites => [.setMinVersion lo, .setMaxVersion hi, .setCipherSuites suites]) <$>
          Cliflag.tlsCipherSuites reg.ciphers (Strings.split options.tlsCipherSuites ',')
      else .ok [.setMinVersion lo, .setMaxVersion hi] := by
  rw [of_versions hmin hmax]
  by_cases hlt : hi < lo
  · simp [hlt]
  by_cases drop : TLS13Only options ∧ options.tlsCipherSuites ≠ ""
  · simp [hlt, drop, CiphersApply]
  · rw [if_neg hlt, if_neg drop, appendCipherSuites_result]
    by_cases hc : options.tlsCipherSuites = "" <;> simp [hlt, hc, ciphersApply_of_kept drop]

end Builder

end Capm3
