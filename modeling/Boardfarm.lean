import Boardfarm.Python
import Boardfarm.Address
import Boardfarm.IpPool
import Boardfarm.Retry
import Boardfarm.NestedDict
import Boardfarm.Dns
import Boardfarm.DnsCheck
import Boardfarm.Shell
import Boardfarm.Logging
import Boardfarm.Strptime
import Boardfarm.Timestamp
import Boardfarm.Iperf
import Boardfarm.Search
import Boardfarm.Details
import Boardfarm.Http
import Boardfarm.LogScopes
import Boardfarm.PytestName
import Boardfarm.SedPages
import Boardfarm.Firewall
import Boardfarm.Tcpdump
import Boardfarm.Wan
