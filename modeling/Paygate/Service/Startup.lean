import Paygate.Log.Setup
import Paygate.Service.Gateway
import Paygate.Settings.Basic

/-!
# Start and stop

A gateway is started from settings: they configure the pipeline, the client of the ledger and
logging. The clients of the ledger and of the federation servers are open from start to stop.
-/

namespace Paygate.Service

structure Deployment where
  gateway : Gateway
  horizonTimeout : Binary64
  federationTimeout : Binary64
  logging : Log.Setup
  horizonClosed : Bool := false
  federationClosed : Bool := false

def mainLogger : String := "gateway.main"

namespace Deployment

/-- The gateway that settings describe, and the record of its start. -/
def start (settings : Settings) : Except Log.Level.Misnomer (Deployment × Log.Record) := do
  let logging ← Log.Setup.ofNames settings.logLevel settings.logFormat
  let client := Horizon.Client.ofUrl settings.horizonUrl
  let deployment : Deployment := {
    gateway := {
      pipeline := { passphrase := settings.passphrase, baseFee := settings.baseFee }
      ledger := client, probe := some client }
    horizonTimeout := settings.horizonTimeout
    federationTimeout := settings.federationTimeout
    logging }
  .ok (deployment, {
    level := .info, logger := mainLogger
    message := "Payment gateway started against " ++ settings.horizonUrl })

/-- Close the clients. -/
def stop (deployment : Deployment) : Deployment × Log.Record :=
  ({ deployment with horizonClosed := true, federationClosed := true },
   { level := .info, logger := mainLogger, message := "Payment gateway shutting down" })

end Deployment

end Paygate.Service
