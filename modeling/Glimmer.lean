import Glimmer.Core.DeficitPace
import Glimmer.Control.WaitClaim
import Glimmer.Interceptor.SlotRuns
import Glimmer.Interceptor.BatchLives
import Glimmer.Transform.BarrierAlignment
import Glimmer.Core.PairPlans
import Glimmer.Core.IdleWindow
import Glimmer.Backend.SubmissionShutdown
import Glimmer.Transform.PersistentVariants
import Glimmer.Control.TaskIsolation
import Glimmer.Control.ExecutionIsolation
import Glimmer.Control.ExecutionShutdown
import Glimmer.Control.RecoveryGuarantees
import Glimmer.Control.SocketReplies
import Glimmer.Control.ExchangeCertainty
import Glimmer.Control.LineReader
import Glimmer.Control.LocalControlWake
import Glimmer.Control.LinkRendezvous
import Glimmer.Control.JitGraphProtocol
import Glimmer.Core.WeightedShare
import Glimmer.Control.CompositeRuns
import Glimmer.Transform.BlockDecoder
import Glimmer.Core.AdaptiveSlo
