/-
RSA signatures of SHA-256 digests. A signature verifies when raising it to the exponent of the key
gives the digest behind its fixed padding.
-/
import AccessControl.Digest.Sha256

namespace AccessControl.Digest

/-- The number that bytes write, the first one highest. -/
def number (bytes : List UInt8) : Nat := bytes.foldl (fun n b => 256 * n + b.toNat) 0

/-- A power modulo a number. -/
def powMod (base exponent modulus : Nat) : Nat :=
  if exponent = 0 then 1 % modulus
  else
    let half := powMod (base * base % modulus) (exponent / 2) modulus
    if exponent % 2 = 1 then base * half % modulus else half
termination_by exponent
decreasing_by omega

theorem powMod_eq (base exponent modulus : Nat) :
    powMod base exponent modulus = Nat.pow base exponent % modulus := by
  fun_induction powMod base exponent modulus with
  | case1 base => rfl
  | case2 base exponent h half hodd ih =>
    have hexp : exponent = 2 * (exponent / 2) + 1 := by omega
    simp only [half, ih, Nat.pow_eq]
    conv => rhs; rw [hexp, Nat.pow_succ, Nat.pow_mul, Nat.pow_two]
    rw [Nat.mul_mod, Nat.mod_mod, ← Nat.pow_mod, Nat.mul_comm, Nat.mul_mod ((base * base) ^ _)]
  | case3 base exponent h half heven ih =>
    have hexp : exponent = 2 * (exponent / 2) := by omega
    simp only [half, ih, Nat.pow_eq]
    conv => rhs; rw [hexp, Nat.pow_mul, Nat.pow_two]
    rw [← Nat.pow_mod]

/-- A public key: the bytes of its modulus and of its exponent. -/
structure PublicKey where
  modulus : List UInt8
  exponent : List UInt8
deriving DecidableEq, Repr

namespace PublicKey

/-- A key of a size that is accepted, in its shortest form. -/
def isSound (key : PublicKey) : Bool :=
  let n := number key.modulus
  let e := number key.exponent
  key.modulus.head? != some 0 && key.exponent.head? != some 0 &&
    256 ≤ key.modulus.length && n < Nat.pow 2 8192 && n % 2 == 1 &&
    3 ≤ e && e < Nat.pow 2 33 && e % 2 == 1

/-- What stands before the digest in a signature: which digest it is. -/
def digestMark : List UInt8 :=
  [0x30, 0x31, 0x30, 0x0d, 0x06, 0x09, 0x60, 0x86, 0x48, 0x01, 0x65, 0x03, 0x04, 0x02, 0x01, 0x05,
    0x00, 0x04, 0x20]

/-- The message as a signature of so many bytes holds it. -/
def encoded (message : List UInt8) (size : Nat) : List UInt8 :=
  let tail := digestMark ++ Sha256.digest message
  [0, 1] ++ List.replicate (size - tail.length - 3) 0xff ++ [0] ++ tail

/-- Whether a signature of a message was made with the key that belongs to this one. -/
def verifies (key : PublicKey) (message signature : List UInt8) : Bool :=
  let n := number key.modulus
  let s := number signature
  key.isSound && signature.length == key.modulus.length && s < n &&
    powMod s (number key.exponent) n == number (encoded message key.modulus.length)

end PublicKey

end AccessControl.Digest
