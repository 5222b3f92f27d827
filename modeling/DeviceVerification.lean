import DeviceVerification.Base64
import DeviceVerification.Base64.InPlace
import DeviceVerification.Bytes
import DeviceVerification.Config
import DeviceVerification.Crypto.Hkdf
import DeviceVerification.Crypto.KeyPair
import DeviceVerification.Crypto.Sha256
import DeviceVerification.Crypto.SharedSecret
import DeviceVerification.Crypto.X25519
import DeviceVerification.Decimal
import DeviceVerification.Dictionary
import DeviceVerification.Error
import DeviceVerification.Hex
import DeviceVerification.Identity
import DeviceVerification.Json.Binary64
import DeviceVerification.Json.Lexer
import DeviceVerification.Json.Number
import DeviceVerification.Json.Printer
import DeviceVerification.Json.Reader
import DeviceVerification.Json.Record
import DeviceVerification.Json.Value
import DeviceVerification.Network.Basic
import DeviceVerification.Network.Feed
import DeviceVerification.Network.Handle
import DeviceVerification.Network.Message
import DeviceVerification.Network.Rule
import DeviceVerification.Network.Timeline
import DeviceVerification.Protocol.Identifier
import DeviceVerification.Protocol.Message
import DeviceVerification.Protocol.Step
import DeviceVerification.Sas.Input
import DeviceVerification.Sas.Mac
import DeviceVerification.Sas.Machine
import DeviceVerification.Sas.Settings
import DeviceVerification.SelfVerification
import DeviceVerification.Service.Basic
import DeviceVerification.Service.Follower
import DeviceVerification.Service.Pool
import DeviceVerification.Service.Registry
import DeviceVerification.Service.Requests
import DeviceVerification.Service.Tasks
import DeviceVerification.ShortCode
import DeviceVerification.Trust.Access
import DeviceVerification.Trust.Key
import DeviceVerification.Trust.Store
import DeviceVerification.Verification.Actions
import DeviceVerification.Verification.Basic
import DeviceVerification.Verification.Inbound
import DeviceVerification.Verification.Operation
import DeviceVerification.Verification.Progress
import DeviceVerification.Verification.Replay
import DeviceVerification.Verification.State
import DeviceVerification.Verification.View
import DeviceVerification.Verification.Watchdog
import DeviceVerification.Proofs.Log
import DeviceVerification.Proofs.Network.Timeline
import DeviceVerification.Proofs.Sas.Change
import DeviceVerification.Proofs.Sas.Commitment
import DeviceVerification.Proofs.Sas.Exchange
import DeviceVerification.Proofs.Verification.Follow
import DeviceVerification.Proofs.Verification.Transition
import DeviceVerification.Proofs.Verification.Run
import DeviceVerification.Proofs.Verification.Frame
import DeviceVerification.Proofs.Peers.Conduct
import DeviceVerification.Proofs.Peers.Steps
import DeviceVerification.Proofs.Peers.Meeting
import DeviceVerification.Proofs.Base64.Alphabet
import DeviceVerification.Proofs.Json.PrefixFree
import DeviceVerification.Proofs.Protocol.CanonicalStart
import DeviceVerification.Proofs.Peers.Race
import DeviceVerification.Proofs.Verification.Loss
import DeviceVerification.Proofs.Service.Reading
import DeviceVerification.Proofs.Service.Handover
import DeviceVerification.Proofs.Service.Split
import DeviceVerification.Proofs.Service.Echo
import DeviceVerification.Proofs.Verification.Choice
import DeviceVerification.Proofs.Peers.Gathering
import DeviceVerification.Proofs.Verification.Course
import DeviceVerification.Proofs.Verification.Delivery
import DeviceVerification.Proofs.Verification.Pinning
import DeviceVerification.Proofs.Service.Tenure
import DeviceVerification.Proofs.Service.Isolation
import DeviceVerification.Proofs.Service.Occupancy
import DeviceVerification.Proofs.Trust.History
import DeviceVerification.Proofs.Trust.Collision
import DeviceVerification.Proofs.Json.ReadBack
import DeviceVerification.Proofs.Json.Arrangement
import DeviceVerification.Proofs.Protocol.Wire
import DeviceVerification.Proofs.Sas.MacCheck
import DeviceVerification.Proofs.Sas.Negotiation
import DeviceVerification.Proofs.Sas.KeyIds
import DeviceVerification.Proofs.Base64.Groups
import DeviceVerification.Proofs.Base64.Overwriting
import DeviceVerification.Proofs.Verification.Confirmation
import DeviceVerification.Proofs.Service.Refusal
import DeviceVerification.Proofs.Config.Interoperation
import DeviceVerification.Proofs.ShortCode.Bits
import DeviceVerification.Proofs.ShortCode.Comparison
import DeviceVerification.Proofs.Base64.Acceptance
import DeviceVerification.Proofs.Json.Layout
import DeviceVerification.Proofs.Trust.File
import DeviceVerification.Proofs.Trust.MasterKeys
import DeviceVerification.Proofs.Verification.Restoration
import DeviceVerification.Proofs.Verification.Recipients
import DeviceVerification.Proofs.Service.Rereading
import DeviceVerification.Proofs.Verification.Terms
import DeviceVerification.Proofs.Peers.Chat
import DeviceVerification.Proofs.Peers.Standing
import DeviceVerification.Proofs.Peers.Resumption
import DeviceVerification.Proofs.Sas.Directions
import DeviceVerification.Proofs.Sas.Holdings
import DeviceVerification.Proofs.Verification.Deadline
import DeviceVerification.Proofs.Verification.Coherence
