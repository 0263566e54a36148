import Clues.Lib.OrdMap
import Clues.Lib.Exec
import Clues.SysNrs
import Clues.Types
import Clues.World
import Clues.Tracee.State
import Clues.Tracee.Attach
import Clues.Tracee.Syscall
import Clues.Engine.Event
import Clues.Engine.Run
import Clues.Engine.Effect
import Clues.Engine.Does
import Clues.Engine.Loop
import Clues.Engine.Adding
import Clues.Engine.Course
import Clues.Engine.Handling
import Clues.Engine.Deferred
import Clues.Engine.Stopping
import Clues.Engine.Besides
import Clues.Tracee.Memory
import Clues.Engine.Aside
import Clues.Engine.Stops
import Clues.Engine.Turns
import Clues.Engine.GroupStops
import Clues.Engine.Threads
import Clues.Engine.Ledger
import Clues.Engine.Reports
import Clues.Engine.Recording
import Clues.Engine.Resumes
import Clues.Engine.Nesting
import Clues.Lib.Ancillary
import Clues.Items.MsgHdr
import Clues.Syscalls.Dup
import Clues.Syscalls.Clone
import Clues.Engine.TaskEvents
import Clues.Engine.Execve
import Clues.TermTracer.Callbacks
import Clues.TermTracer.Records
import Clues.TermTracer.Interleaving
import Clues.Engine.Settling
import Clues.Engine.Attaching
import Clues.Engine.AbiChanges
import Clues.TermTracer.Counter
import Clues.TermTracer.Lines
import Clues.TermTracer.Shown
import Clues.TermTracer.Filter
import Clues.Tracee.ProcFds
import Clues.Syscalls.Creating
import Clues.Syscalls.Records
import Clues.Items.Io
import Clues.Tracee.Structs
import Clues.Items.Prctl
import Clues.Lib.Buffer
import Clues.Items.Access
import Clues.Items.Dirents
import Clues.Items.DirRecords
import Clues.Items.Control32
import Clues.Items.BufferPointer
import Clues.Items.MsgStructs
import Clues.Items.SendMsg
import Clues.Items.RecvMmsg
import Clues.Engine.Identity
import Clues.Engine.PidFds
import Clues.Engine.NewTasks
import Clues.Engine.OpenFds
import Clues.Tracee.Destinations
import Clues.Items.PollFds
import Clues.Lib.Split
import Clues.Items.ReadVector
import Clues.Items.Prefetch
import Clues.Items.FdSet
import Clues.Items.Strings
import Clues.Items.SockOpt
import Clues.Lib.Fields
import Clues.Items.SigInfo
import Clues.Items.SocketPair
import Clues.Items.SocketAddress
import Clues.Items.FilterProg
import Clues.Items.Accesses
import Clues.Engine.Keys
import Clues.Format
import Clues.Format.Buffer
import Clues.TermTracer.Parameters
import Clues.Items.Uname
import Clues.Items.RSeq
import Clues.Items.FLock
import Clues.Items.TimeSpec
import Clues.Items.TimeVal
import Clues.Syscalls.Snatching
import Clues.Engine.Numbers
import Clues.Engine.Accounts
import Clues.Syscalls.Following
import Clues.TermTracer.Reading
import Clues.Syscalls.Layouts
import Clues.Syscalls.Multiplexed
import Clues.Items.Limits
import Clues.Items.Stat
