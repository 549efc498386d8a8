import GoBgp.Packet
import GoBgp.AsPath
import GoBgp.Path
import GoBgp.PathUpdate
import GoBgp.Batcher
import GoBgp.BatcherSpec
import GoBgp.AdjRibIn
import GoBgp.Fsm
import GoBgp.FsmSafety
import GoBgp.Goroutines
import GoBgp.OpenNegotiation
import GoBgp.Counters
import GoBgp.Session
import GoBgp.Establish
import GoBgp.Teardown
import GoBgp.PathStore
import GoBgp.AsList
import GoBgp.As4Merge
