import Wc3ts.Go.Strings
import Wc3ts.Wire.Bytes
import Wc3ts.Wire.W3gs
import Wc3ts.Game.Game
import Wc3ts.Config.Version
import Wc3ts.Game.GoMap
import Wc3ts.Game.Registry
import Wc3ts.Game.Refinement
import Wc3ts.Game.Consumer
import Wc3ts.Lan.Broadcaster
import Wc3ts.Tailscale.Discovery
import Wc3ts.Peer.Manager
import Wc3ts.Tui.PeerSort
import Wc3ts.Daemon.Run
import Wc3ts.Proxy.Tcp
import Wc3ts.Cli.Probe
import Wc3ts.Tui.EventLoop
import Wc3ts.Tui.Program
import Wc3ts.Tui.View
import Wc3ts.Tui.SharedPeers
import Wc3ts.Tui.Console
import Wc3ts.Fabric.Network
import Wc3ts.Fabric.Origin
import Wc3ts.Fabric.Lan
