import NetworkPolicy.Trust.Certificate
import NetworkPolicy.Trust.Pem

/-!
# Bundles of certificates

The certificates that are trusted beyond those that every server is checked against.

* `Trust.certificates` — the certificates of a bundle, or why it cannot be used.
-/

namespace NetworkPolicy.Trust

/-- Why a bundle cannot be used. -/
inductive BundleFault where
  /-- The text is no bundle. -/
  | malformed
  /-- There is no certificate in it. -/
  | noCertificate
  /-- An object is no certificate although it is said to be one. -/
  | badCertificate
  deriving DecidableEq, Repr

def BundleFault.message : BundleFault → String
  | .malformed => "invalid certificate encoding"
  | .noCertificate => "no certificates found in CA bundle"
  | .badCertificate => "invalid certificate"

def certificates (bundle : List UInt8) : Except BundleFault (List (List UInt8)) :=
  match Pem.sections? bundle with
  | none => .error .malformed
  | some sections =>
    match (sections.filter (·.1 = Pem.certificate)).map Prod.snd with
    | [] => .error .noCertificate
    | found => if found.all Certificate.isTrustable then .ok found else .error .badCertificate

end NetworkPolicy.Trust
