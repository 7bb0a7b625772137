import AirportAwdl.Compat.Napi
import AirportAwdl.Compat.WiphyWakeup
import AirportAwdl.Compat.WorkqueueTheorems
import AirportAwdl.Datapath.PacketFlow
import AirportAwdl.Election.Ranking
import AirportAwdl.Hal.Pool
import AirportAwdl.Hal.TxGate
import AirportAwdl.Mac80211.Registry
import AirportAwdl.Native.ActionFrame
import AirportAwdl.Native.Admission
import AirportAwdl.Native.Lifecycle
import AirportAwdl.Native.PeerLedger
import AirportAwdl.Native.RadioReceive
import AirportAwdl.Native.Replay
import AirportAwdl.Native.TemplateStorage
import AirportAwdl.Net80211.Reauthentication
import AirportAwdl.Scheduler.Controls
import AirportAwdl.Scheduler.Lead
import AirportAwdl.Scheduler.Wakeup
import AirportAwdl.Wcl.Completion
import AirportAwdl.Wcl.Reconfigure
import AirportAwdl.Wcl.Transition
