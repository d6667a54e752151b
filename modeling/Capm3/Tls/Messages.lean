import Capm3.Tls.Policy
import Mathlib.Data.String.Basic

/-!
# What the error texts say

`main` logs the error of `GetTLSOptionOverrideFuncs` by its text (`TLSError.message`), and
`GetTLSVersion` writes the rejected label with `%q` (`quote`).  Go's quoting is a prefix code
whatever its print table: a rune is copied only if it is not a backslash, and every escape can be
read back from the front of the text (`unquoteRune`, `unquoteRune_quoteRune`), so the quoted text
determines the label (`quote_injective`).

The main result, `getTLSOptionOverrideFuncs_message_injective`: two errors the builder returns
with the same text are the same error.  This needs the builder, not only the texts: a range error
prints its two labels without quoting, and for arbitrary labels such texts can coincide, but the
builder reports a range error only for two supported labels (`supported_of_minGreaterThanMax`).
-/

namespace Capm3

open Tls

/-! ## Reading `%q` back -/

/-- The value of a hexadecimal digit as `Nat.digitChar` writes it. -/
def hexValue (c : Char) : Option Nat :=
  (List.range 16).find? fun k => Nat.digitChar k = c

theorem hexValue_digitChar {k : Nat} (h : k < 16) : hexValue (Nat.digitChar k) = some k := by
  have table : ∀ k < 16, hexValue (Nat.digitChar k) = some k := by decide
  exact table k h

/-- Reads `n` hexadecimal digits, most significant first, with what follows them. -/
def readHex : Nat → List Char → Option (Nat × List Char)
  | 0, cs => some (0, cs)
  | n + 1, cs =>
    match readHex n cs with
    | some (v, d :: rest) => (hexValue d).map fun k => (16 * v + k, rest)
    | _ => none

theorem readHex_hexDigits (n v : Nat) (rest : List Char) :
    readHex n (hexDigits n v ++ rest) = some (v % 16 ^ n, rest) := by
  induction n generalizing v rest with
  | zero => simp [readHex, hexDigits, Nat.mod_one]
  | succ n ih =>
    rw [hexDigits, List.append_assoc, List.singleton_append, readHex, ih]
    simp only [hexValue_digitChar (Nat.mod_lt v (by decide)), Option.map_some', pow_succ',
      Nat.mod_mul]
    rw [Nat.add_comm]

/-- The rune an escape of `n` hexadecimal digits writes, with what follows it. -/
def readRune (n : Nat) (cs : List Char) : Option (Char × List Char) :=
  (readHex n cs).map fun (v, rest) => (Char.ofNat v, rest)

theorem readRune_hexDigits {n : Nat} (c : Char) (h : c.toNat < 16 ^ n) (rest : List Char) :
    readRune n (hexDigits n c.toNat ++ rest) = some (c, rest) := by
  simp [readRune, readHex_hexDigits, Nat.mod_eq_of_lt h, Char.ofNat_toNat]

/-- Reads one rune of a `%q` body back from the front of `cs`, with what follows it. -/
def unquoteRune : List Char → Option (Char × List Char)
  | [] => none
  | c :: rest =>
    if c ≠ '\\' then some (c, rest) else
    match rest with
    | [] => none
    | e :: rest =>
      if e = '"' then some ('"', rest)
      else if e = '\\' then some ('\\', rest)
      else if e = 'a' then some ('\x07', rest)
      else if e = 'b' then some ('\x08', rest)
      else if e = 'f' then some ('\x0c', rest)
      else if e = 'n' then some ('\n', rest)
      else if e = 'r' then some ('\r', rest)
      else if e = 't' then some ('\t', rest)
      else if e = 'v' then some ('\x0b', rest)
      else if e = 'x' then readRune 2 rest
      else if e = 'u' then readRune 4 rest
      else if e = 'U' then readRune 8 rest
      else none

theorem unquoteRune_x (cs : List Char) : unquoteRune ("\\x".data ++ cs) = readRune 2 cs := rfl

theorem unquoteRune_u (cs : List Char) : unquoteRune ("\\u".data ++ cs) = readRune 4 cs := rfl

theorem unquoteRune_U (cs : List Char) : unquoteRune ("\\U".data ++ cs) = readRune 8 cs := rfl

theorem data_append_mk (s : String) (cs rest : List Char) :
    (s ++ String.mk cs).data ++ rest = s.data ++ (cs ++ rest) := by
  rw [String.data_append, List.append_assoc]

theorem toNat_lt_of_char (c : Char) : c.toNat < 16 ^ 8 := by
  have valid := c.valid
  simp only [UInt32.isValidChar, Nat.isValidChar] at valid
  unfold Char.toNat
  omega

/-- Each rune's escape is read back from the front of the text, whatever the print table. -/
theorem unquoteRune_quoteRune (table : Char → Bool) (c : Char) (rest : List Char) :
    unquoteRune ((quoteRune table c).data ++ rest) = some (c, rest) := by
  unfold quoteRune
  by_cases special : c = '"' ∨ c = '\\'
  · rw [if_pos special]
    rcases special with rfl | rfl <;> rfl
  rw [if_neg special]
  by_cases printable : isPrint table c
  · rw [if_pos printable]
    show unquoteRune (c :: rest) = some (c, rest)
    exact if_pos fun backslash => special (.inr backslash)
  rw [if_neg printable]
  -- the C escapes read back by evaluation; the numeric escapes by `readRune_hexDigits`
  split <;> try rfl
  split_ifs with control narrow
  · rw [data_append_mk, unquoteRune_x, readRune_hexDigits c (by omega)]
  · rw [data_append_mk, unquoteRune_u, readRune_hexDigits c (by omega)]
  · rw [data_append_mk, unquoteRune_U, readRune_hexDigits c (toNat_lt_of_char c)]

theorem quoteRune_ne_nil (table : Char → Bool) (c : Char) : (quoteRune table c).data ≠ [] :=
  fun empty => by
    have read := unquoteRune_quoteRune table c []
    rw [empty] at read
    exact Option.noConfusion (read : (none : Option (Char × List Char)) = some (c, []))

/-- The body of `quote` determines the runes it quotes. -/
theorem quoteRunes_injective {table : Char → Bool} {cs cs' : List Char}
    (h : (cs.map fun c => (quoteRune table c).data).flatten =
      (cs'.map fun c => (quoteRune table c).data).flatten) : cs = cs' := by
  induction cs generalizing cs' with
  | nil =>
    cases cs' with
    | nil => rfl
    | cons c' cs' => simp [quoteRune_ne_nil] at h
  | cons c cs ih =>
    cases cs' with
    | nil => simp [quoteRune_ne_nil] at h
    | cons c' cs' =>
      simp only [List.map_cons, List.flatten_cons] at h
      have read := congrArg unquoteRune h
      rw [unquoteRune_quoteRune, unquoteRune_quoteRune] at read
      obtain ⟨rfl, rest⟩ := Prod.mk.inj (Option.some.inj read)
      rw [ih rest]

/-- Go's `%q` text determines the string it quotes, whatever the print table. -/
theorem quote_injective (table : Char → Bool) : Function.Injective (quote table) :=
  fun s s' h => by
    have := congrArg String.data h
    simp only [quote, String.data_append, String.data_join, List.map_map, List.append_assoc,
      List.append_cancel_left_eq, List.append_cancel_right_eq] at this
    exact String.ext (quoteRunes_injective this)

/-! ## The errors of the builder -/

section Texts

variable (table : Char → Bool)

theorem message_unexpectedTLSVersion_head (version : String) :
    ((TLSError.unexpectedTLSVersion version).message table).data.head? = some 'u' := rfl

theorem message_minGreaterThanMax_head (minVersion maxVersion : String) :
    ((TLSError.minGreaterThanMax minVersion maxVersion).message table).data.head? = some 'T' :=
  rfl

theorem message_unsupportedCipherSuite_head (cipher : String) :
    ((TLSError.unsupportedCipherSuite cipher).message table).data.head? = some 'C' := rfl

end Texts

section Builder

variable {reg : CipherRegistry} {options : TLSOptions}

/-- The builder reports a range error only for two supported labels. -/
theorem supported_of_minGreaterThanMax {a b : String}
    (h : (getTLSOptionOverrideFuncs reg options).result = .error (.minGreaterThanMax a b)) :
    SupportedVersion a ∧ SupportedVersion b := by
  rcases hmin : getTLSVersion options.tlsMinVersion with e | lo
  · obtain ⟨-, -, rfl⟩ := getTLSVersion_eq_error.1 hmin
    simp [result_of_min_error hmin] at h
  rcases hmax : getTLSVersion options.tlsMaxVersion with e | hi
  · obtain ⟨-, -, rfl⟩ := getTLSVersion_eq_error.1 hmax
    simp [result_of_max_error hmin hmax] at h
  rw [result_of_versions hmin hmax] at h
  split_ifs at h with hlt hc
  · cases h
    exact ⟨supportedVersion_iff.2 ⟨lo, hmin⟩, supportedVersion_iff.2 ⟨hi, hmax⟩⟩
  · simp [map_eq_error_iff, Cliflag.tlsCipherSuites_eq_error] at h

end Builder

/-- Two errors the builder returns with the same text are the same error, whatever the cipher
registries, the options and Go's print table: the text of the error `main` logs tells which label
was rejected, which range was inverted, or which cipher name is unknown. -/
theorem getTLSOptionOverrideFuncs_message_injective {table : Char → Bool}
    {reg reg' : CipherRegistry} {options options' : TLSOptions} {err err' : TLSError}
    (h : (getTLSOptionOverrideFuncs reg options).result = .error err)
    (h' : (getTLSOptionOverrideFuncs reg' options').result = .error err')
    (same : err.message table = err'.message table) : err = err' := by
  have heads := congrArg (fun s : String => s.data.head?) same
  cases err <;> cases err' <;>
    simp only [message_unexpectedTLSVersion_head, message_minGreaterThanMax_head,
      message_unsupportedCipherSuite_head, Option.some.injEq] at heads
  case unexpectedTLSVersion.unexpectedTLSVersion version version' =>
    have texts := congrArg String.data same
    simp only [TLSError.message, String.data_append, List.append_assoc,
      List.append_cancel_left_eq, List.append_cancel_right_eq] at texts
    rw [quote_injective table (String.ext texts)]
  case unsupportedCipherSuite.unsupportedCipherSuite cipher cipher' =>
    have texts := congrArg String.data same
    simp only [TLSError.message, String.data_append, List.append_assoc,
      List.append_cancel_left_eq, List.append_cancel_right_eq] at texts
    rw [String.ext texts]
  case minGreaterThanMax.minGreaterThanMax a b a' b' =>
    -- the range error prints its labels as they are, but supported labels all have five runes
    have five : ∀ {v}, SupportedVersion v → v.data.length = 5 := by
      rintro v (rfl | rfl) <;> rfl
    have texts := congrArg String.data same
    simp only [TLSError.message, String.data_append, List.append_assoc,
      List.append_cancel_left_eq] at texts
    obtain ⟨mins, texts⟩ := List.append_inj texts (by
      rw [five (supported_of_minGreaterThanMax h).1, five (supported_of_minGreaterThanMax h').1])
    simp only [List.append_cancel_left_eq, List.append_cancel_right_eq] at texts
    rw [String.ext mins, String.ext texts]
  -- errors of different kinds: their texts start with different letters
  all_goals exact absurd heads (by decide)

/-- The same bad label given as the maximum in one run and as the minimum in another yields the
same error, with every rune copied. -/
theorem getTLSOptionOverrideFuncs_message_TLS14 :
    (getTLSOptionOverrideFuncs emptyRegistry ⟨"TLS14", "TLS12", ""⟩).result =
        .error (.unexpectedTLSVersion "TLS14") ∧
      (getTLSOptionOverrideFuncs emptyRegistry ⟨"TLS13", "TLS14", ""⟩).result =
        .error (.unexpectedTLSVersion "TLS14") ∧
      (TLSError.unexpectedTLSVersion "TLS14").message (fun _ => true) =
        (TLSError.unexpectedTLSVersion "TLS14").message (fun _ => true) ∧
      TLSError.unexpectedTLSVersion "TLS14" = .unexpectedTLSVersion "TLS14" :=
  have h : (getTLSOptionOverrideFuncs emptyRegistry ⟨"TLS14", "TLS12", ""⟩).result =
      .error (.unexpectedTLSVersion "TLS14") := rfl
  have h' : (getTLSOptionOverrideFuncs emptyRegistry ⟨"TLS13", "TLS14", ""⟩).result =
      .error (.unexpectedTLSVersion "TLS14") := rfl
  ⟨h, h', rfl, @getTLSOptionOverrideFuncs_message_injective (fun _ => true) _ _ _ _ _ _ h h' rfl⟩

end Capm3
