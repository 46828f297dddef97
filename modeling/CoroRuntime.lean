import CoroRuntime.Foundation.Execution
import CoroRuntime.Foundation.Occupancy
import CoroRuntime.Foundation.Ring
import CoroRuntime.Foundation.Transfer
import CoroRuntime.Foundation.Obligations
import CoroRuntime.Foundation.Counting
import CoroRuntime.Foundation.Updates
import CoroRuntime.Foundation.HeapOrder
import CoroRuntime.Foundation.LinkedList
import CoroRuntime.Task.SchedulingState
import CoroRuntime.Task.Protocol
import CoroRuntime.Task.ProtocolSafety
import CoroRuntime.Completion.TaskState
import CoroRuntime.Completion.Waking
import CoroRuntime.Fiber.Fiber
import CoroRuntime.Fiber.Handles
import CoroRuntime.Task.TaskImpl
import CoroRuntime.RunQueue.LocalRunQueue
import CoroRuntime.RunQueue.Positions
import CoroRuntime.RunQueue.Ownership
import CoroRuntime.RunQueue.Order
import CoroRuntime.RunQueue.Conservation
import CoroRuntime.RunQueue.ExactlyOnce
import CoroRuntime.Future.Handles
import CoroRuntime.Combinators.Branches
import CoroRuntime.Combinators.Select
import CoroRuntime.Combinators.Join
import CoroRuntime.Combinators.FutureContract
import CoroRuntime.Combinators.Calls
import CoroRuntime.Combinators.Failures
import CoroRuntime.Watch.Channel
import CoroRuntime.Watch.Updates
import CoroRuntime.Mutex.Lock
import CoroRuntime.Mutex.Guards
import CoroRuntime.Mutex.HandOff
import CoroRuntime.Mpsc.Channel
import CoroRuntime.Mpsc.Waiters
import CoroRuntime.Mpsc.Capacity
import CoroRuntime.Mpsc.ReceiverWaiter
import CoroRuntime.Mpsc.Wakeups
import CoroRuntime.Mpsc.Conservation
import CoroRuntime.Mpsc.ExactlyOnce
import CoroRuntime.Coroutine.Coro
import CoroRuntime.Coroutine.Effects
import CoroRuntime.Coroutine.Structured
import CoroRuntime.Coroutine.Awaiting
import CoroRuntime.Coroutine.Lifetime
import CoroRuntime.Coroutine.Cancellation
import CoroRuntime.Broadcast.Channel
import CoroRuntime.Broadcast.Accounting
import CoroRuntime.Broadcast.Delivery
import CoroRuntime.JoinSet.Set
import CoroRuntime.JoinSet.Conservation
import CoroRuntime.JoinSet.ExactlyOnce
import CoroRuntime.JoinSet.Wakeups
import CoroRuntime.Parallel.Parallel
import CoroRuntime.Parallel.Outcomes
import CoroRuntime.Timers.Queue
import CoroRuntime.Timers.TimerMap
import CoroRuntime.Timers.Slots
import CoroRuntime.Timers.Firing
import CoroRuntime.Timers.Refinement
import CoroRuntime.Timers.Sweeping
import CoroRuntime.Timers.Waiting
import CoroRuntime.BlockingPool.Pool
import CoroRuntime.BlockingPool.Threads
import CoroRuntime.BlockingPool.Jobs
import CoroRuntime.BlockingPool.Parking
import CoroRuntime.Executors.WorkStealing
import CoroRuntime.Executors.WorkStealingLoop
import CoroRuntime.Executors.WorkStealingParking
import CoroRuntime.Executors.CurrentThread
import CoroRuntime.Executors.WorkSharing
import CoroRuntime.Executors.Sleeping
import CoroRuntime.Event.Event
import CoroRuntime.Oneshot.Channel
import CoroRuntime.Event.Registrations
import CoroRuntime.Barrier.Barrier
import CoroRuntime.Barrier.Rounds
import CoroRuntime.SpawnedStream.Task
import CoroRuntime.SpawnedStream.Delivery
import CoroRuntime.SpawnedStream.Progress
import CoroRuntime.FutureTree.Tree
import CoroRuntime.FutureTree.Budget
import CoroRuntime.FutureTree.Draining
import CoroRuntime.Rc.Ownership
import CoroRuntime.WebSocket.Delivery
import CoroRuntime.WebSocket.Attempts
import CoroRuntime.WebSocket.Polling
import CoroRuntime.Task.Failures
import CoroRuntime.Shutdown.Runtime
import CoroRuntime.Shutdown.Spawning
import CoroRuntime.Shutdown.Quiescence
import CoroRuntime.Shutdown.OwnedTasks
import CoroRuntime.Shutdown.Ownership
import CoroRuntime.Pico.Gpio
import CoroRuntime.Pico.Edges
import CoroRuntime.Pico.Mqtt
import CoroRuntime.WebSocket.Url
import CoroRuntime.StreamIo.Transfers
