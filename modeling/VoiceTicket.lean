import VoiceTicket.LoopEvent.Stream
import VoiceTicket.Main
import VoiceTicket.Proofs.Keeper.Peers
import VoiceTicket.Proofs.Keeper.Turn
import VoiceTicket.Proofs.Store.SessionEnd
import VoiceTicket.Proofs.Store.Guard
import VoiceTicket.Proofs.Store.Frame
import VoiceTicket.Proofs.Store.LiveSession
import VoiceTicket.Proofs.Terminal.Glimpses
import VoiceTicket.Proofs.Keeper.Frame
import VoiceTicket.Proofs.Keeper.Holding
import VoiceTicket.Proofs.Keeper.Idling
import VoiceTicket.Proofs.Keeper.Silence
import VoiceTicket.Proofs.Keeper.Overtaking
import VoiceTicket.Proofs.Keeper.OneSocket
import VoiceTicket.Proofs.Keeper.Deeds
import VoiceTicket.Proofs.Keeper.Retries
import VoiceTicket.Proofs.Keeper.Indicator
import VoiceTicket.Proofs.Keeper.Arrivals
import VoiceTicket.Proofs.Keeper.Listening
import VoiceTicket.Proofs.Desk.JobEnd
import VoiceTicket.Proofs.Json.Printing
import VoiceTicket.Proofs.Text.Encoding
import VoiceTicket.Proofs.Settings.Reading
import VoiceTicket.Proofs.Settings.Loading
import VoiceTicket.Proofs.Settings.Calls
import VoiceTicket.Proofs.Settings.Keeping
import VoiceTicket.Proofs.Desk.Requests
import VoiceTicket.Proofs.Wire.RoundTrip
import VoiceTicket.Proofs.Keeper.Asking
import VoiceTicket.Proofs.Keeper.Recovery
import VoiceTicket.Proofs.Keeper.Settling
import VoiceTicket.Proofs.Keeper.Shutdown
import VoiceTicket.Proofs.Keeper.Dialling
import VoiceTicket.Proofs.Wire.Bodies
import VoiceTicket.Proofs.Desk.FailedEdit
import VoiceTicket.Proofs.Url.Hosts
import VoiceTicket.Proofs.Url.Appending
import VoiceTicket.Proofs.Url.Bases
import VoiceTicket.Proofs.Url.Agreement
import VoiceTicket.Proofs.Url.Paths
import VoiceTicket.Proofs.Keeper.Progress
import VoiceTicket.Proofs.Reconnect.Delays
import VoiceTicket.Proofs.Url.Uncovering
import VoiceTicket.Proofs.Url.Channels
import VoiceTicket.Proofs.Reconnect.Bookkeeping
import VoiceTicket.Proofs.Terminal.Lines
