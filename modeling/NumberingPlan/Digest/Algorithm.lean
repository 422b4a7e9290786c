import NumberingPlan.Digest.Blake2
import NumberingPlan.Digest.Md5
import NumberingPlan.Digest.Ripemd160
import NumberingPlan.Digest.Sha1
import NumberingPlan.Digest.Sha3
import NumberingPlan.Digest.Sm3
import NumberingPlan.Serialize
import NumberingPlan.Text.Hex

/-! Digests of compiled collections, over their canonical text. -/

namespace NumberingPlan

inductive DigestAlgorithm where
  | md5
  | sha1
  | sha224
  | sha256
  | sha384
  | sha512
  | sha512Cut224
  | sha512Cut256
  | sha3Of224
  | sha3Of256
  | sha3Of384
  | sha3Of512
  | blake2s
  | blake2b
  | md5Sha1
  | ripemd160
  | sm3
  | empty
  deriving DecidableEq, Repr

/-- Names of a digest: the exact ones, and those that are not case-sensitive. -/
structure DigestNames where
  exact : List String := []
  anyCase : List String

def DigestNames.has (names : DigestNames) (text : String) : Bool :=
  names.exact.contains text || names.anyCase.contains text.toLower

inductive DigestFault where
  | nameNotText
  | unknown (name : String)
  | lengthNeeded
  deriving DecidableEq, Repr

def DigestFault.message : DigestFault → String
  | nameNotText => "name must be a string"
  | unknown name => "unsupported hash type " ++ name
  | lengthNeeded => "hexdigest() missing required argument 'length' (pos 1)"

namespace DigestAlgorithm

def all : List DigestAlgorithm :=
  [md5, sha1, sha224, sha256, sha384, sha512, sha512Cut224, sha512Cut256, sha3Of224, sha3Of256,
    sha3Of384, sha3Of512, blake2s, blake2b, md5Sha1, ripemd160, sm3, empty]

/-- The standard number of a digest by its place in the list of digests. -/
def standardNumber (place : Nat) : String := "2.16.840.1.101.3.4.2." ++ toString place

def names : DigestAlgorithm → DigestNames
  | md5 => { anyCase := ["md5", "ssl3-md5", "1.2.840.113549.2.5"] }
  | sha1 => { anyCase := ["sha1", "sha-1", "ssl3-sha1", "1.3.14.3.2.26"] }
  | sha224 => { anyCase := ["sha224", "sha-224", "sha2-224", standardNumber 4] }
  | sha256 => { anyCase := ["sha256", "sha-256", "sha2-256", standardNumber 1] }
  | sha384 => { anyCase := ["sha384", "sha-384", "sha2-384", standardNumber 2] }
  | sha512 => { anyCase := ["sha512", "sha-512", "sha2-512", standardNumber 3] }
  | sha512Cut224 =>
    { exact := ["sha512_224", "SHA512_224"]
      anyCase := ["sha512-224", "sha-512/224", "sha2-512/224", standardNumber 5] }
  | sha512Cut256 =>
    { exact := ["sha512_256", "SHA512_256"]
      anyCase := ["sha512-256", "sha-512/256", "sha2-512/256", standardNumber 6] }
  | sha3Of224 => { exact := ["sha3_224"], anyCase := ["sha3-224", standardNumber 7] }
  | sha3Of256 => { exact := ["sha3_256"], anyCase := ["sha3-256", standardNumber 8] }
  | sha3Of384 => { exact := ["sha3_384"], anyCase := ["sha3-384", standardNumber 9] }
  | sha3Of512 => { exact := ["sha3_512"], anyCase := ["sha3-512", standardNumber 10] }
  | blake2s =>
    { exact := ["blake2s"]
      anyCase := ["blake2s-256", "blake2s256", "1.3.6.1.4.1.1722.12.2.2.8"] }
  | blake2b =>
    { exact := ["blake2b"]
      anyCase := ["blake2b-512", "blake2b512", "1.3.6.1.4.1.1722.12.2.1.16"] }
  | md5Sha1 => { anyCase := ["md5-sha1"] }
  | ripemd160 =>
    { anyCase := ["ripemd160", "ripemd-160", "ripemd", "rmd160", "1.3.36.3.2.1"] }
  | sm3 => { anyCase := ["sm3", "1.2.156.10197.1.401"] }
  | empty => { anyCase := ["null"] }

/-- The functions whose digest is as long as one likes; as no length is given, they give none. -/
def endless : DigestNames :=
  { exact := ["shake_128", "shake_256"]
    anyCase := ["shake-128", "shake128", standardNumber 11, "shake-256", "shake256",
      standardNumber 12, "keccak-kmac-128", "keccak-kmac128", "keccak-kmac-256",
      "keccak-kmac256"] }

/-- The digest of a name; one with a zero character in it does not count as a text. -/
def ofName (text : String) : Except DigestFault DigestAlgorithm :=
  if text.toList.contains '\x00' then .error .nameNotText
  else
    match all.find? (·.names.has text) with
    | some algorithm => .ok algorithm
    | none => .error (if endless.has text then .lengthNeeded else .unknown text)

def run : DigestAlgorithm → List UInt8 → List UInt8
  | md5 => Digest.md5
  | sha1 => Digest.sha1
  | sha224 => Digest.sha224
  | sha256 => Digest.sha256
  | sha384 => Digest.sha384
  | sha512 => Digest.sha512
  | sha512Cut224 => Digest.sha512Cut 224
  | sha512Cut256 => Digest.sha512Cut 256
  | sha3Of224 => Digest.sha3 28
  | sha3Of256 => Digest.sha3 32
  | sha3Of384 => Digest.sha3 48
  | sha3Of512 => Digest.sha3 64
  | blake2s => Digest.blake2s
  | blake2b => Digest.blake2b
  | md5Sha1 => fun message => Digest.md5 message ++ Digest.sha1 message
  | ripemd160 => Digest.ripemd160
  | sm3 => Digest.sm3
  | empty => fun _ => []

end DigestAlgorithm

/-- The digest of a collection in hexadecimal digits. -/
def Collection.digest (algorithm : DigestAlgorithm) (collection : Collection) : String :=
  String.ofList ((algorithm.run collection.text.toUTF8.toList).flatMap
    (fun byte => Text.hex 2 byte.toNat))

end NumberingPlan
