import LteNas.Main
import LteNas.Octets.Cursor
import LteNas.Octets.HexDump
import LteNas.Proofs.Catalogue.Detachment
import LteNas.Proofs.Catalogue.Grammar
import LteNas.Proofs.Catalogue.Truncation
import LteNas.Proofs.Cipher.CounterBlocks
import LteNas.Proofs.CommandLine.HexSpelling
import LteNas.Proofs.CommandLine.Run
import LteNas.Proofs.Config.RoundTrip
import LteNas.Proofs.Decode.AttachRequest
import LteNas.Proofs.Decode.Independence
import LteNas.Proofs.Decode.Keying
import LteNas.Proofs.Decode.Nesting
import LteNas.Proofs.Decode.PartialCiphering
import LteNas.Proofs.Decode.Replay
import LteNas.Proofs.Decode.Shape
import LteNas.Proofs.Decode.Showing
import LteNas.Proofs.Decode.UserData
import LteNas.Proofs.Decode.Wrapping
import LteNas.Proofs.Element.Containment
import LteNas.Proofs.Element.Tiling
import LteNas.Proofs.ElementValue.AccessPointName
import LteNas.Proofs.ElementValue.CipheringData
import LteNas.Proofs.ElementValue.DialledIdentity
import LteNas.Proofs.ElementValue.EmergencyNumbers
import LteNas.Proofs.ElementValue.ExtendedRate
import LteNas.Proofs.ElementValue.FlowTemplate
import LteNas.Proofs.ElementValue.NetworkList
import LteNas.Proofs.ElementValue.NetworkName
import LteNas.Proofs.ElementValue.OptionList
import LteNas.Proofs.ElementValue.RelayRecords
import LteNas.Proofs.ElementValue.SubscriberDigits
import LteNas.Proofs.Envelope.Classification
import LteNas.Proofs.Message.Telling
import LteNas.Proofs.Octets.CursorRun
import LteNas.Proofs.Octets.HexDump
import LteNas.ScopeSession
