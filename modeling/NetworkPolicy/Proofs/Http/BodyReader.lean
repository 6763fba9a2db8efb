import Mathlib.Tactic.Common
import NetworkPolicy.Http.BodyReader

/-!
# Bodies as bytes

How a body is cut into chunks does not matter: `readChunks_eq` gives what is read in terms of the
bytes of all chunks together.  From it follow the three ways in which decoding a body goes on: the
body is too large, it cannot be read, or its bytes are decoded.
-/

namespace NetworkPolicy.Http.Body

/-- The bytes of a body, all that come before its end or its failure. -/
def bytes (body : Body) : List UInt8 := body.chunks.flatten

/-- The chunks are read in full when their bytes fit into the allowance, and only then does it
matter whether the reading fails after the last of them. -/
lemma readChunks_eq (limit : Nat) (failure : Option String) (chunks : List (List UInt8)) :
    ∀ allowance : Nat, readChunks limit failure allowance chunks =
      if chunks.flatten.length ≤ allowance then
        match failure with
        | none => .ok chunks.flatten
        | some cause => .error (.unreadable cause)
      else .error (.tooLarge limit) := by
  induction chunks with
  | nil =>
      intro allowance
      have hfits : ([] : List (List UInt8)).flatten.length ≤ allowance := Nat.zero_le allowance
      rw [if_pos hfits]
      cases failure with
      | none => rfl
      | some cause => rfl
  | cons chunk chunks ih =>
      intro allowance
      rw [readChunks, List.flatten_cons, List.length_append]
      by_cases hchunk : chunk.length ≤ allowance
      · rw [if_pos hchunk, ih]
        by_cases hrest : chunks.flatten.length ≤ allowance - chunk.length
        · rw [if_pos hrest, if_pos (by omega)]
          cases failure with
          | none => rfl
          | some cause => rfl
        · rw [if_neg hrest, if_neg (by omega)]
          rfl
      · rw [if_neg hchunk, if_neg (by omega)]

/-- Of a body that fits into the limit the bytes are read, unless the reading fails. -/
lemma read_eq (limit : Nat) (body : Body) : body.read limit =
    if body.bytes.length ≤ limit then
      match body.failure with
      | none => .ok body.bytes
      | some cause => .error (.unreadable cause)
    else .error (.tooLarge limit) := readChunks_eq limit body.failure body.chunks limit

variable {α : Type} {decoder : Wire.Decoder α} {limit : Nat} {body : Body}

lemma decode_of_tooLarge (hsize : limit < body.bytes.length) :
    body.decode decoder limit = .error (.tooLarge limit) := by
  have hread : body.read limit = .error (.tooLarge limit) := by
    rw [read_eq, if_neg (Nat.not_le.mpr hsize)]
  rw [decode, hread]
  rfl

lemma decode_of_unreadable {cause : String} (hsize : body.bytes.length ≤ limit)
    (hfailure : body.failure = some cause) :
    body.decode decoder limit = .error (.unreadable cause) := by
  have hread : body.read limit = .error (.unreadable cause) := by
    rw [read_eq, if_pos hsize, hfailure]
  rw [decode, hread]
  rfl

lemma decode_of_readable (hsize : body.bytes.length ≤ limit) (hfailure : body.failure = none) :
    body.decode decoder limit
      = (Wire.decode decoder (Document.ofBytes body.bytes)).mapError .undecodable := by
  have hread : body.read limit = .ok body.bytes := by
    rw [read_eq, if_pos hsize, hfailure]
  rw [decode, hread]
  rfl

end NetworkPolicy.Http.Body
