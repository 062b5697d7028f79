import TorusProxy.Lib.Threads
import TorusProxy.Lib.RWMutex
import TorusProxy.Lib.Cyclic
import TorusProxy.Lib.Interpolation
import TorusProxy.Lib.Budget
import TorusProxy.Lib.Shell
import TorusProxy.ServeMux
import TorusProxy.Runtime
import TorusProxy.Handler
import TorusProxy.Reload
import TorusProxy.Shutdown
import TorusProxy.Start
import TorusProxy.Prober
import TorusProxy.Manager
import TorusProxy.World
import TorusProxy.Frames
import TorusProxy.Consistent
import TorusProxy.Serving
import TorusProxy.Owner
import TorusProxy.Running
import TorusProxy.SingleOwner
import TorusProxy.History
import TorusProxy.Blueprint
import TorusProxy.Retention
import TorusProxy.Roles
import TorusProxy.Drain
import TorusProxy.Health
import TorusProxy.Lifecycle
import TorusProxy.Availability
import TorusProxy.Watcher
import TorusProxy.Debounce
import TorusProxy.AllOrNothing
import TorusProxy.System
import TorusProxy.Convergence
import TorusProxy.ExitStatus
import TorusProxy.Validation
import TorusProxy.Routing
import TorusProxy.Balancer
import TorusProxy.Generation
import TorusProxy.RequestMetrics
import TorusProxy.ReloadCounts
import TorusProxy.Traffic
import TorusProxy.ServeFailure
import TorusProxy.Workers
import TorusProxy.References
import TorusProxy.Progress
import TorusProxy.Restart
import TorusProxy.BackendUp
import TorusProxy.Fairness
import TorusProxy.Resolution
import TorusProxy.Timing
import TorusProxy.Rewrite
import TorusProxy.Forwarding
import TorusProxy.FailedBuild
import TorusProxy.NetURL
import TorusProxy.TwoParsers
import TorusProxy.ProbeTarget
import TorusProxy.NodeFairness
import TorusProxy.Percentile
import TorusProxy.RateLimiter
import TorusProxy.Deployment
import TorusProxy.NodeReload
import TorusProxy.NodeLimiter
