import Mathlib.Data.Nat.Notation

/-! HMAC as RFC 2104 defines it, for a hash function and the length of its blocks. -/

namespace BrainMate.Text

/-- The key at the length of a block: one that is longer is hashed, and zeros are appended. -/
def blockKey (hash : List UInt8 → List UInt8) (blockLen : Nat) (key : List UInt8) : List UInt8 :=
  let short := if blockLen < key.length then hash key else key
  short ++ List.replicate (blockLen - short.length) 0

/-- `H(K XOR opad, H(K XOR ipad, text))`. -/
def hmac (hash : List UInt8 → List UInt8) (blockLen : Nat) (key text : List UInt8) : List UInt8 :=
  let block := blockKey hash blockLen key
  let inner := hash (List.zipWith (· ^^^ ·) block (List.replicate blockLen 0x36) ++ text)
  hash (List.zipWith (· ^^^ ·) block (List.replicate blockLen 0x5c) ++ inner)

theorem length_blockKey {hash : List UInt8 → List UInt8} {blockLen : Nat}
    (short : ∀ bytes, (hash bytes).length ≤ blockLen) (key : List UInt8) :
    (blockKey hash blockLen key).length = blockLen := by
  have fits : (if blockLen < key.length then hash key else key).length ≤ blockLen := by
    split
    · exact short key
    · omega
  rw [blockKey, List.length_append, List.length_replicate]
  omega

/-- A repeated byte is added to each byte. -/
theorem zipWith_replicate (block : List UInt8) (pad : UInt8) :
    List.zipWith (· ^^^ ·) block (List.replicate block.length pad) = block.map (· ^^^ pad) := by
  induction block with
  | nil => rfl
  | cons byte rest ih => rw [List.length_cons, List.replicate_succ, List.zipWith_cons_cons, ih,
      List.map_cons]

end BrainMate.Text
