import Koil.Runs
import Koil.RaceVerdict
import Koil.RaceSignals
import Koil.Generators
import Koil.GeneratorTasks
import Koil.GeneratorLoop
import Koil.GeneratorSend
import Koil.ContextRuns
import Koil.ContextResults
import Koil.ContextInternals
import Koil.Fifo
import Koil.LoopShutdown
import Koil.ShutdownSafety
import Koil.ThreadedRun
import Koil.ThreadedReport
import Koil.CancelScope
import Koil.CancelScopeFutures
import Koil.CancelScopeSteps
import Koil.CancelScopeEvents
import Koil.CancelScopeSafety
import Koil.CancelScopeRuns
import Koil.CancelScopeExact
import Koil.BridgePrograms
import Koil.BridgeRefinement
import Koil.Koils
import Koil.RunningKoils
import Koil.LoopWaits
import Koil.LoopRanks
import Koil.WithStatement
import Koil.Managers
import Koil.Blocks
import Koil.ManagerSteps
import Koil.BlockEntries
import Koil.BlockExits
import Koil.NestedBlocks
import Koil.Teardown
import Koil.ManagerWrappers
import Koil.ManagerAgreement
import Koil.PoolCascades
import Koil.PoolDescent
import Koil.Composition
import Koil.CompositionExits
import Koil.IterateThreaded
import Koil.IterateEquivalence
import Koil.GeneratorClosing
import Koil.GeneratorContexts
import Koil.ClosingErrors
import Koil.HelperTasks
import Koil.Pruning
import Koil.ResultTimeouts
import Koil.SubmissionAgreement
import Koil.Tracebacks
import Koil.OwnErrors
import Koil.ExitContexts
import Koil.EnterAtomicity
import Koil.WrappedManagers
import Koil.GeneratorRuns
import Koil.LostGenerators
import Koil.ExceptionGraphs
import Koil.QtCalls
import Koil.QtFutures
import Koil.QtFutureSteps
import Koil.SingleAssignment
import Koil.QtDelivery
import Koil.StreamDelivery
import Koil.QtNotifications
import Koil.QtContexts
import Koil.CallerIsolation
import Koil.CancelCascades
import Koil.CascadeSteps
import Koil.CascadeEnds
import Koil.SubmissionDeadlines
import Koil.ThreadedDeadlines
import Koil.Sleeping
import Koil.StrandedSleeps
import Koil.ResultInterrupts
import Koil.QtWindows
import Koil.GeneratorTowers
import Koil.QtEmissions
import Koil.QtScopes
import Koil.ShutdownCompletion
