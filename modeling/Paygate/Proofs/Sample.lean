import Paygate.Payment.Request

/-!
# Sample keys

The keys of the examples: one account signs with the seed, and pays another.

* `Sample.signer_seed`, `Sample.key?_destination`: both are accepted.
-/

namespace Paygate.Sample

/-- The seed of thirty-two sevens. -/
def seed : String := "SADQOBYHA4DQOBYHA4DQOBYHA4DQOBYHA4DQOBYHA4DQOBYHA4DQP54X"

/-- The account that signs with the seed. -/
def source : String := "GDVEU3DD4KOFECV66VIHWEZOYX4ZKR3WV27L464SIIPOU2IUI3JCZA57"

def destination : String := "GAAQCAIBAEAQCAIBAEAQCAIBAEAQCAIBAEAQCAIBAEAQCAIBAEAQDZ7H"

theorem decode_seed : StrKey.decode? .seed seed = some ⟨List.replicate 32 7, rfl⟩ := by
  decide +kernel

theorem accountOfSeed_eq : StrKey.accountOfSeed (List.replicate 32 7) = source := by
  decide +kernel

theorem signer_seed : PaymentRequest.signer (.text seed) = .ok (seed, source) := by
  simp only [PaymentRequest.signer, decode_seed, accountOfSeed_eq]

theorem isValid_destination : StrKey.isValid .account destination = true := by
  decide +kernel

theorem key?_destination : StrKey.key? .account destination = some destination :=
  StrKey.key?_of_valid isValid_destination

end Paygate.Sample
