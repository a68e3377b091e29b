import PowerLink.Bench.Basic
import PowerLink.Bench.Device
import PowerLink.Bench.Script
import PowerLink.Bench.Transcript
import PowerLink.Bytes
import PowerLink.Codec.Basic
import PowerLink.Codec.DataType
import PowerLink.Codec.Error
import PowerLink.Console.Dialogue
import PowerLink.Console.Editor
import PowerLink.Console.Key
import PowerLink.Console.Request
import PowerLink.Field.Basic
import PowerLink.Field.Payload
import PowerLink.Frame.Basic
import PowerLink.Frame.Error
import PowerLink.Frame.ReturnCode
import PowerLink.Ieee.Format
import PowerLink.Ieee.Number
import PowerLink.Ieee.Shortest
import PowerLink.Ieee.Text
import PowerLink.Json.Decoder
import PowerLink.Json.Literal
import PowerLink.Json.Outline
import PowerLink.Json.Value
import PowerLink.KeyMap
import PowerLink.Line.Fault
import PowerLink.Line.Serial
import PowerLink.Line.Transport
import PowerLink.Line.Wire
import PowerLink.Link.Endpoint
import PowerLink.Link.Error
import PowerLink.Link.Notice
import PowerLink.Link.Poll
import PowerLink.Link.Responder
import PowerLink.Main
import PowerLink.Pattern.Basic
import PowerLink.Pattern.Bracket
import PowerLink.Pattern.Reading
import PowerLink.Program.Arguments
import PowerLink.Program.Config
import PowerLink.Program.Failure
import PowerLink.Program.LogFilter
import PowerLink.Program.Run
import PowerLink.Proofs.AlteredFrames
import PowerLink.Proofs.CanonicalValues
import PowerLink.Proofs.Checksums
import PowerLink.Proofs.CommandIndices
import PowerLink.Proofs.Contracts
import PowerLink.Proofs.Conversation
import PowerLink.Proofs.Couplings
import PowerLink.Proofs.DateTimeTexts
import PowerLink.Proofs.DecodedRecords
import PowerLink.Proofs.Endpoints
import PowerLink.Proofs.EnteredLines
import PowerLink.Proofs.Exchanges
import PowerLink.Proofs.FieldLayouts
import PowerLink.Proofs.FieldLists
import PowerLink.Proofs.FieldOffsets
import PowerLink.Proofs.Frames
import PowerLink.Proofs.IdentifierTexts
import PowerLink.Proofs.InvertedBits
import PowerLink.Proofs.JsonRecords
import PowerLink.Proofs.JsonTexts
import PowerLink.Proofs.KeyMaps
import PowerLink.Proofs.LengthField
import PowerLink.Proofs.NumeralGrammar
import PowerLink.Proofs.Numerals
import PowerLink.Proofs.Packets
import PowerLink.Proofs.PartialReplies
import PowerLink.Proofs.Payloads
import PowerLink.Proofs.PollingPasses
import PowerLink.Proofs.PortChoice
import PowerLink.Proofs.PrintedReplies
import PowerLink.Proofs.Registries
import PowerLink.Proofs.RejectedRequests
import PowerLink.Proofs.ReplyVerdicts
import PowerLink.Proofs.RequestAgreement
import PowerLink.Proofs.RequestCalls
import PowerLink.Proofs.RequestSequences
import PowerLink.Proofs.Results
import PowerLink.Proofs.ScalarCodecs
import PowerLink.Proofs.SerialReads
import PowerLink.Proofs.ServedPackets
import PowerLink.Proofs.Serving
import PowerLink.Proofs.ServingFailures
import PowerLink.Proofs.StreamFraming
import PowerLink.Proofs.StreamVerdicts
import PowerLink.Proofs.TextOrder
import PowerLink.Proofs.UnawaitedReplies
import PowerLink.Proofs.VersionTexts
import PowerLink.Proofs.Words
import PowerLink.Proofs.WrittenFrames
import PowerLink.Schema.Command
import PowerLink.Schema.Document
import PowerLink.Schema.Error
import PowerLink.Schema.Fields
import PowerLink.Schema.Registry
import PowerLink.Text.Characters
import PowerLink.Text.Escapes
import PowerLink.Text.Numeral
import PowerLink.Time.DateTime
import PowerLink.Time.Reading
import PowerLink.Value
