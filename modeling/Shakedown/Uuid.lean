/-!
Random identifiers: 128 bits of which six are fixed, shown as five groups of hexadecimal digits.
-/

namespace Shakedown

structure Uuid where
  bits : BitVec 128
deriving DecidableEq

namespace Uuid

/-- The identifier made of random bits, with version 4 and its variant written into them. -/
def ofRandom (random : BitVec 128) : Uuid :=
  ⟨(random &&& ~~~(0xF000C000000000000000#128)) ||| 0x40008000000000000000#128⟩

def digits (u : Uuid) : List Char :=
  (Nat.toDigits 16 u.bits.toNat).leftpad 32 '0'

def text (u : Uuid) : String :=
  let d := u.digits
  String.ofList (d.take 8 ++ '-' :: (d.drop 8).take 4 ++ '-' :: (d.drop 12).take 4 ++
    '-' :: (d.drop 16).take 4 ++ '-' :: d.drop 20)

example : (ofRandom 0#128).text = "00000000-0000-4000-8000-000000000000" := by decide +kernel
example : (ofRandom (BitVec.allOnes 128)).text = "ffffffff-ffff-4fff-bfff-ffffffffffff" := by
  decide +kernel

end Uuid
end Shakedown
