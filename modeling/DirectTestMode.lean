import DirectTestMode.Properties.Decoding
import DirectTestMode.Properties.Session
import DirectTestMode.Properties.Channel
import DirectTestMode.Properties.PacketReport
import DirectTestMode.Properties.DecoderEquivalence
import DirectTestMode.Properties.Endpoints
import DirectTestMode.Properties.Reception
import DirectTestMode.Properties.RxBuffers
import DirectTestMode.Properties.Transmit
import DirectTestMode.Properties.PacketReads
import DirectTestMode.Properties.CteAvailability
import DirectTestMode.Properties.Anomaly172
import DirectTestMode.Properties.RadioSettings
import DirectTestMode.Properties.PacketLength
import DirectTestMode.Properties.ShellCommands
import DirectTestMode.Properties.TwowireCodec
import DirectTestMode.Properties.Completion
import DirectTestMode.Properties.Versions
import DirectTestMode.Properties.Reproducible
import DirectTestMode.Properties.IqReports
import DirectTestMode.Properties.HeaderLength
import DirectTestMode.Properties.OctetPairs
import DirectTestMode.Properties.TwoCores
import DirectTestMode.Properties.PacketInterval
import DirectTestMode.Properties.PduContent
import DirectTestMode.Properties.RefusedTransmit
import DirectTestMode.Properties.PowerLevel
import DirectTestMode.Properties.AntennaPattern
import DirectTestMode.Properties.RejectedAntenna
import DirectTestMode.Properties.IqEvents
import DirectTestMode.Properties.ShellArguments
import DirectTestMode.Properties.VendorCommands
import DirectTestMode.Properties.UartWrite
import DirectTestMode.Properties.H4Progress
import DirectTestMode.Properties.HciWire
import DirectTestMode.Properties.RemoteStream
import DirectTestMode.Properties.TwowireLink
import DirectTestMode.Properties.Accounting
import DirectTestMode.Properties.LinkTest
import DirectTestMode.Properties.Prbs
import DirectTestMode.Properties.Tuned
import DirectTestMode.Properties.TesterSession
import DirectTestMode.Properties.ShellPhases
