import Etr.Library.DeliveryLog
import Etr.Server.Handoff
import Etr.Client.StdinRelay
import Etr.System.KeystrokeDelivery
import Etr.Client.StdoutRelay
import Etr.Server.ShellExit
import Etr.Client.ConnectionLoop
import Etr.System.ShellOutput
import Etr.Forward.Tunnel
import Etr.Forward.UdpFrame
import Etr.Forward.ReverseAuth
import Etr.Bootstrap.RoundTrip
import Etr.Server.Dispatch
import Etr.Server.Unauthenticated
import Etr.Server.LoginRecord
import Etr.Server.ReconnectWindow
import Etr.System.SessionEnd
import Etr.Session.Retention
import Etr.Session.AckTrimming
import Etr.Session.Watermark
import Etr.Wire.Truncation
import Etr.Forward.CanonicalSpec
import Etr.Bootstrap.Reply
import Etr.Forward.UdpReturn
import Etr.X11.Credentials
import Etr.X11.Gate
import Etr.X11.Display
import Etr.Forward.SenderReplies
import Etr.Forward.AddressFamily
import Etr.Client.EscapeFilter
import Etr.Bootstrap.Quoting
import Etr.Config.MergedLines
import Etr.Config.Toml
import Etr.Config.Placement
import Etr.Config.MergedTables
import Etr.Config.MergedKeys
import Etr.Bootstrap.HexDecoding
import Etr.Stress.Pacer
import Etr.Client.Resize
import Etr.Server.ReverseListeners
import Etr.Config.PrivateLog
import Etr.System.OutputIntegrity
import Etr.Server.ControlStream
import Etr.System.UdpReverse
import Etr.X11.DisplayCookies
import Etr.Client.Terminal
import Etr.Bootstrap.Environment
import Etr.System.StreamDelivery
import Etr.Bootstrap.Launch
import Etr.System.X11Forward
