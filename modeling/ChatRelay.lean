import ChatRelay.Main
import ChatRelay.Relay.Rounds
import ChatRelay.Proofs.Conversation.ReadBack
import ChatRelay.Proofs.Relay.Billing
import ChatRelay.Proofs.Relay.Fairness
import ChatRelay.Proofs.Relay.Isolation
import ChatRelay.Proofs.Vendor.CallIds
import ChatRelay.Proofs.Vendor.Echo
import ChatRelay.Proofs.Vendor.Gemini.Grouping
import ChatRelay.Proofs.Vendor.Mistyped
import ChatRelay.Proofs.Vendor.OpenAi.Arrangement
import ChatRelay.Proofs.Vendor.Respelling
import ChatRelay.Proofs.Config.Settings
import ChatRelay.Proofs.Transcript.Pairing
import ChatRelay.Proofs.Vendor.Parameters
import ChatRelay.Proofs.Config.Usable
import ChatRelay.Proofs.Vendor.Boundary
import ChatRelay.Proofs.Conversation.PlainText
import ChatRelay.Proofs.Reply.Normalization
import ChatRelay.Proofs.Vendor.Reordering
import ChatRelay.Proofs.Store.Histories
