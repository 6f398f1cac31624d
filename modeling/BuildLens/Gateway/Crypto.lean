/-! Webhook signatures: `crypto.rs` over a SHA-256 implementation. -/

namespace BuildLens.Gateway

abbrev Bytes := List UInt8

/-- What `Sha256::finalize` returns. -/
abbrev Digest := Vector UInt8 32

/-- The bytes of a `&str`. -/
def asBytes (text : String) : Bytes := text.toList.flatMap String.utf8EncodeChar

def BLOCK_SIZE : Nat := 64

def fromHex (value : UInt8) : Option UInt8 :=
  if 48 ≤ value ∧ value ≤ 57 then some (value - 48)
  else if 97 ≤ value ∧ value ≤ 102 then some (value - 97 + 10)
  else if 65 ≤ value ∧ value ≤ 70 then some (value - 65 + 10)
  else none

/-- The bytes that pairs of hexadecimal digits spell. -/
def suppliedBytes : Bytes → Option Bytes
  | high :: low :: rest => do
    let high ← fromHex high
    let low ← fromHex low
    let later ← suppliedBytes rest
    return ((high <<< 4) ||| low) :: later
  | _ => some []

def normalizeKey (sha256 : Bytes → Digest) (key : Bytes) : Bytes :=
  let kept := if BLOCK_SIZE < key.length then (sha256 key).toList else key
  kept ++ List.replicate (BLOCK_SIZE - kept.length) 0

def hmacSha256 (sha256 : Bytes → Digest) (key body : Bytes) : Digest :=
  let normalized := normalizeKey sha256 key
  let innerPad := normalized.map (0x36 ^^^ ·)
  let outerPad := normalized.map (0x5c ^^^ ·)
  let inner := sha256 (innerPad ++ body)
  sha256 (outerPad ++ inner.toList)

/-- `str::strip_prefix`. -/
def stripPrefix : (expected text : Bytes) → Option Bytes
  | [], text => some text
  | _ :: _, [] => none
  | head :: expected, byte :: text => if head = byte then stripPrefix expected text else none

def verifyGithubSignature (sha256 : Bytes → Digest) (secret : String) (body : Bytes)
    (signature : String) : Bool :=
  match stripPrefix (asBytes "sha256=") (asBytes signature) with
  | none => false
  | some hex =>
    if hex.length ≠ 64 then false
    else match suppliedBytes hex with
      | none => false
      | some supplied =>
        let expected := (hmacSha256 sha256 (asBytes secret) body).toList
        (expected.zip supplied).foldl
          (fun difference pair => difference ||| (pair.1 ^^^ pair.2)) 0 == 0

end BuildLens.Gateway
