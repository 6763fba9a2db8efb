import NetworkPolicy.Trust.Der

/-!
# Certificates

Whether bytes are a certificate that can be trusted as a root.  Signatures and dates are not looked
at: the certificate is trusted because it was given.

* `Certificate.isTrustable` — the answer.
* `Certificate.isCurrent`, `Certificate.isFirst` — it for version 3, where a certificate may have
  extensions, and for version 1, where it has none.
-/

namespace NetworkPolicy.Certificate

open Der

/-! ## Extensions -/

/-- An extension. -/
structure Extension where
  id : List UInt8
  value : List UInt8
  deriving DecidableEq, Repr

/-- Passes over a truth value, which may be left out. -/
def skipTruth : Reader Unit := do
  if ← startsWith booleanTag then
    match ← expect booleanTag with
    | [0xFF] | [0x00] => return ()
    | _ => failure

/-- An extension.  Whether it is marked as critical makes no difference. -/
def readExtension : Reader Extension := do
  let id ← expect identifierTag
  skipTruth
  return ⟨id, ← expect octetsTag⟩

/-- The identifier of the extension on the usage of the key. -/
def keyUsage : List UInt8 := [0x55, 0x1D, 15]

/-- The identifiers of the extensions that have a meaning: usage of the key, alternative names,
constraints, constraints on names, places of revocation lists, extended usage of the key. -/
def knownExtensions : List (List UInt8) :=
  keyUsage :: [17, 19, 30, 31, 37].map fun n => [0x55, 0x1D, n]

/-- Whether an extension can be used.  One that has a meaning is a sequence, except for the usage of
the key. -/
def Extension.isUsable (e : Extension) : Bool :=
  !knownExtensions.contains e.id || e.id = keyUsage ||
    (readAll e.value (expect sequenceTag)).isSome

/-- Whether extensions can be used together: none that has a meaning is given twice. -/
def areUsable (extensions : List Extension) : Bool :=
  extensions.all Extension.isUsable &&
    decide ((extensions.map Extension.id).filter knownExtensions.contains).Nodup

/-- The extensions of a certificate, if it has a part that holds them. -/
def readExtensions : Reader (List Extension) := do
  if ← isOver then return []
  let insides ← within (partTag 3) (within sequenceTag (elements sequenceTag))
  StateT.lift (insides.mapM fun inside => readAll inside readExtension)

/-! ## Certificates -/

/-- Five sequences: the issuer, the time of validity, the subject and its key behind the algorithm
of the signature, which is the result. -/
def readParties : Reader (List UInt8) := do
  let algorithm ← expect sequenceTag
  let _ ← expect sequenceTag
  let _ ← expect sequenceTag
  let _ ← expect sequenceTag
  let _ ← expect sequenceTag
  return algorithm

def readVersion : Reader (List UInt8) := within (partTag 0) (expect integerTag)

/-- The algorithm and the extensions of the signed part of a certificate of version 3. -/
def readSigned : Reader (List UInt8 × List Extension) := do
  let version ← readVersion
  let _ ← expect integerTag
  if version ≠ [2] then failure
  return (← readParties, ← readExtensions)

/-- The signed part of a certificate and the algorithm of its signature.  A signature consists of
whole bytes. -/
def readCertificate : Reader (List UInt8 × List UInt8) := do
  let signed ← expect sequenceTag
  let algorithm ← expect sequenceTag
  let signature ← expect bitsTag
  if signature.head? ≠ some 0 then failure
  return (signed, algorithm)

/-- Whether the signed part of a certificate is one of version 3 that names the algorithm of its
signature. -/
def isCurrent (signed algorithm : List UInt8) : Bool :=
  match readAll signed readSigned with
  | none => false
  | some (inner, extensions) => inner = algorithm && areUsable extensions

/-- Reads the signed part of a certificate of version 1. -/
def readFirst : Reader (List UInt8) := do
  let _ ← expect integerTag
  readParties

/-- Whether the signed part of a certificate is one of version 1. -/
def isFirst (signed : List UInt8) : Bool := (readAll signed readFirst).isSome

/-- Whether bytes are a certificate that can be trusted. -/
def isTrustable (bytes : List UInt8) : Bool :=
  match readAll bytes (within sequenceTag readCertificate) with
  | none => false
  | some (signed, algorithm) => isCurrent signed algorithm || isFirst signed

end NetworkPolicy.Certificate
