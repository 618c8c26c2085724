import LiquidityTrigger.Concurrent
import LiquidityTrigger.Json.Forms
import LiquidityTrigger.Node.Session
import LiquidityTrigger.Transaction.Announced
import LiquidityTrigger.Proofs.Evaluation.Course
import LiquidityTrigger.Proofs.Context
import LiquidityTrigger.Proofs.Evaluation.Purchase
import LiquidityTrigger.Proofs.Transaction.Sender
import LiquidityTrigger.Proofs.Bytes
import LiquidityTrigger.Proofs.Rlp.Encoding
import LiquidityTrigger.Proofs.Transaction.Preimage
import LiquidityTrigger.Proofs.Rlp.Reading
import LiquidityTrigger.Proofs.Transaction.Legacy
import LiquidityTrigger.Proofs.Transaction.Signing
import LiquidityTrigger.Proofs.Evaluation.Agreement
import LiquidityTrigger.Proofs.Evaluation.Deadline
import LiquidityTrigger.Proofs.Evaluation.Symbol
import LiquidityTrigger.Proofs.Session
import LiquidityTrigger.Proofs.Concurrent
import LiquidityTrigger.Proofs.Isolation
import LiquidityTrigger.Proofs.Evaluation.Promise
import LiquidityTrigger.Proofs.Evaluation.Reason
import LiquidityTrigger.Proofs.Evaluation.Reads
import LiquidityTrigger.Proofs.Evaluation.Extent
import LiquidityTrigger.Proofs.Evaluation.Log
import LiquidityTrigger.Proofs.Text.Numeral
import LiquidityTrigger.Proofs.Text.Hex
import LiquidityTrigger.Proofs.Result
import LiquidityTrigger.Proofs.Text.Amount
import LiquidityTrigger.Proofs.Json.Atoms
import LiquidityTrigger.Proofs.Json.Tree
import LiquidityTrigger.Proofs.Node.Request
import LiquidityTrigger.Proofs.Node.Rotation
import LiquidityTrigger.Proofs.Node.Connection
import LiquidityTrigger.Proofs.Node.Response
import LiquidityTrigger.Proofs.Node.Memory
import LiquidityTrigger.Proofs.Node.Refinement
import LiquidityTrigger.Proofs.Node.Pool
import LiquidityTrigger.Proofs.Node.Limits
import LiquidityTrigger.Proofs.Liquidity.Slots
import LiquidityTrigger.Proofs.Evaluation.Twin
import LiquidityTrigger.Proofs.Rlp.Spelling
import LiquidityTrigger.Proofs.Transaction.Spelling
import LiquidityTrigger.Proofs.Json.Forms
import LiquidityTrigger.Proofs.Evaluation.Mirror
import LiquidityTrigger.Proofs.Evaluation.Display
import LiquidityTrigger.Proofs.Overflow
import LiquidityTrigger.Proofs.Settings
import LiquidityTrigger.Proofs.Token
import LiquidityTrigger.Proofs.Transaction.Announced
import LiquidityTrigger.Proofs.Timeline
import LiquidityTrigger.Proofs.Text.Address
import LiquidityTrigger.Proofs.Node.NetworkNumber
