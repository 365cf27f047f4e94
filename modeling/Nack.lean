import Nack.Apis.Consumer
import Nack.Strconv.IsPrint
import Nack.Controllers.JetStream.Helpers
import Nack.Controllers.JetStream.Client
import Nack.Controllers.JetStream.Consumer
import Nack.Controllers.JetStream.ConsumerCalls
import Nack.Controllers.JetStream.ConsumerRuns
import Nack.Controllers.JetStream.ConsumerEffects
import Nack.Controllers.JetStream.ConsumerBranches
import Nack.Controllers.JetStream.ConsumerWatch
import Nack.Lifecycle.Step
import Nack.Lifecycle.Invariants
import Nack.Lifecycle.Orphans
import Nack.Lifecycle.Retries
import Nack.Workqueue.RateLimiting
import Nack.Lifecycle.Workers
import Nack.Lifecycle.Scheduling
import Nack.Lifecycle.Settling
import Nack.Spec.Reconcile
