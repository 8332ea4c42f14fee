import CoinTransfer.Address.Binary
import CoinTransfer.Address.Codec
import CoinTransfer.Address.Json
import CoinTransfer.Config
import CoinTransfer.Keeper.Recorded
import CoinTransfer.Ledger.Operation
import CoinTransfer.Ledger.Shared
import CoinTransfer.Log.Subscriber
import CoinTransfer.Route
import CoinTransfer.Proofs.Ledger.Atomic
import CoinTransfer.Proofs.Ledger.Blocked
import CoinTransfer.Proofs.Ledger.Supply
import CoinTransfer.Proofs.Ledger.Treasury
import CoinTransfer.Proofs.Bech32.Encoding
import CoinTransfer.Proofs.Bech32.Regroup
import CoinTransfer.Proofs.Address.Codec
import CoinTransfer.Proofs.Coins.Canonical
import CoinTransfer.Proofs.Json.Documents
import CoinTransfer.Proofs.Json.Reads
import CoinTransfer.Proofs.Ledger.Deposits
import CoinTransfer.Proofs.Ledger.Modules
import CoinTransfer.Proofs.Route.Frame
import CoinTransfer.Proofs.Route.Host
import CoinTransfer.Proofs.Ledger.Order
import CoinTransfer.Proofs.Ledger.Overflow
import CoinTransfer.Proofs.Ledger.Shared
import CoinTransfer.Proofs.Ledger.Successive
import CoinTransfer.Proofs.Ledger.Footprint
import CoinTransfer.Proofs.Bech32.Detection
import CoinTransfer.Proofs.Address.Grammar
import CoinTransfer.Proofs.Hex
import CoinTransfer.Proofs.Address.Forms
import CoinTransfer.Proofs.Coins.Text
import CoinTransfer.Proofs.Log.Installation
import CoinTransfer.Proofs.Log.Lines
import CoinTransfer.Proofs.Route.Log
import CoinTransfer.Proofs.Route.Lines
import CoinTransfer.Proofs.Ledger.Moves
import CoinTransfer.Proofs.Ledger.Directory
