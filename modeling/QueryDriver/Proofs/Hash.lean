import QueryDriver.Hash.Keyed

/-!
Keys and signatures have thirty-two bytes, and a key that was combined with a signature is given
back when it is combined with the signature again.
-/

namespace QueryDriver.Hash

/-- All results have thirty-two bytes. -/
structure Functions.Sized (functions : Functions) : Prop where
  hash : ∀ message, (functions.hash message).length = 32
  keyed : ∀ key message, (functions.keyed key message).length = 32
  derive : ∀ password salt iterations, (functions.derive password salt iterations).length = 32

theorem length_xor {left right : Bytes} (same : left.length = right.length) :
    (xor left right).length = left.length := by
  rw [xor, List.length_zipWith]
  omega

theorem xor_xor {left right : Bytes} (same : left.length = right.length) :
    xor (xor left right) right = left := by
  induction left generalizing right with
  | nil => rfl
  | cons first rest ih =>
      cases right with
      | nil => simp at same
      | cons other others =>
          have back : first ^^^ other ^^^ other = first := by
            rw [UInt8.xor_assoc, UInt8.xor_self, UInt8.xor_zero]
          have tail := ih (Nat.succ.inj same)
          simp only [xor, List.zipWith_cons_cons, back] at tail ⊢
          rw [tail]

theorem Sha256.length_finish (state : Sha256.State) (taken : Nat) (rest : Bytes) :
    (state.finish taken rest).length = 32 :=
  rfl

theorem length_stretch (signer : Signer) (turns : Nat) (last combined : Bytes)
    (long : combined.length = 32) : (stretch signer turns last combined).length = 32 := by
  induction turns generalizing last combined with
  | zero => exact long
  | succ turns ih =>
      apply ih
      rw [length_xor, long]
      exact long.trans (Sha256.length_finish _ _ _).symm

theorem standard_sized : standard.Sized := by
  constructor
  · exact fun message => Sha256.length_finish _ _ _
  · exact fun key message => Sha256.length_finish _ _ _
  · intro password salt iterations
    exact length_stretch _ _ _ _ (Sha256.length_finish _ _ _)

end QueryDriver.Hash
