import ProxyTunnel.Address.Destination
import ProxyTunnel.Address.Endpoint
import ProxyTunnel.Address.Ip4
import ProxyTunnel.Address.Ip6
import ProxyTunnel.Bytes
import ProxyTunnel.Credentials
import ProxyTunnel.Dialogue
import ProxyTunnel.Failure
import ProxyTunnel.Framing
import ProxyTunnel.Handshake
import ProxyTunnel.Http.Handshake
import ProxyTunnel.Http.Request
import ProxyTunnel.Http.StatusLine
import ProxyTunnel.Journal
import ProxyTunnel.Parcel
import ProxyTunnel.Proofs.Parts
import ProxyTunnel.Proofs.Transmission
import ProxyTunnel.ProxyUrl
import ProxyTunnel.Route
import ProxyTunnel.Script
import ProxyTunnel.Sender
import ProxyTunnel.Session
import ProxyTunnel.Socket
import ProxyTunnel.Socks.Answer
import ProxyTunnel.Socks.Bound
import ProxyTunnel.Socks.Codes
import ProxyTunnel.Socks.Frame
import ProxyTunnel.Socks.Handshake
import ProxyTunnel.Socks.Server
import ProxyTunnel.Text.Base64
import ProxyTunnel.Text.Blank
import ProxyTunnel.Text.Decimal
import ProxyTunnel.Text.Quoted
import ProxyTunnel.Text.Utf8
import ProxyTunnel.Text.Word
import ProxyTunnel.Tunnel
import ProxyTunnel.Wire.Charset
import ProxyTunnel.Wire.Error
import ProxyTunnel.Wire.Integer
import ProxyTunnel.Wire.Item
import ProxyTunnel.Proofs.Sides
import ProxyTunnel.Proofs.Turns
import ProxyTunnel.Proofs.Torn
import ProxyTunnel.Proofs.Returned
import ProxyTunnel.Proofs.Queue
import ProxyTunnel.Proofs.Interleaving
import ProxyTunnel.Proofs.Calm
import ProxyTunnel.Proofs.Frames
import ProxyTunnel.Proofs.Listening
import ProxyTunnel.Proofs.Settlement
import ProxyTunnel.Proofs.SocksOutcome
import ProxyTunnel.Proofs.Decoding
import ProxyTunnel.Proofs.HttpOutcome
import ProxyTunnel.Proofs.Requests
import ProxyTunnel.Proofs.Rounds
import ProxyTunnel.Proofs.Attempt
import ProxyTunnel.Proofs.Moments
import ProxyTunnel.Proofs.ShutDowns
import ProxyTunnel.Proofs.Release
import ProxyTunnel.Proofs.Waits
import ProxyTunnel.Proofs.Cancellation
import ProxyTunnel.Proofs.Phases
import ProxyTunnel.Proofs.Polls
import ProxyTunnel.Proofs.Conservation
import ProxyTunnel.Proofs.RequestHead
import ProxyTunnel.Proofs.Arrival
import ProxyTunnel.Proofs.SocksFrames
import ProxyTunnel.Proofs.Naming
import ProxyTunnel.Proofs.Crew
import ProxyTunnel.Proofs.Disposal
import ProxyTunnel.Proofs.Service
import ProxyTunnel.Proofs.Secrets
import ProxyTunnel.Proofs.Lines
import ProxyTunnel.Proofs.Looks
import ProxyTunnel.Proofs.Buffering
import ProxyTunnel.Proofs.Messages
import ProxyTunnel.Proofs.Literals
import ProxyTunnel.Proofs.Destinations
import ProxyTunnel.Proofs.Brackets
import ProxyTunnel.Proofs.Hosts
import ProxyTunnel.Proofs.ProxyReader
import ProxyTunnel.Proofs.ProxyPattern
import ProxyTunnel.Proofs.ProxyTexts
import ProxyTunnel.Proofs.Encoding
import ProxyTunnel.Proofs.StatusLines
import ProxyTunnel.Proofs.Authorization
import ProxyTunnel.Proofs.Sizes
