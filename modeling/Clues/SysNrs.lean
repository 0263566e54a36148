/-!
# Generic system call numbers

The abstract numbers that are shared by all ABIs (`SystemCallNr` of the generated header).
-/

namespace Clues

inductive SystemCallNr where
  | unknown | accept | accept4 | access | acct | addKey | adjtimex | afsSyscall | alarm
  | archPrctl | bdflush | bind | bpf | «break» | brk | cachestat | capget | capset | chdir
  | chmod | chown | chown32 | chroot | clockAdjtime | clockAdjtime64 | clockGetres
  | clockGetresTime64 | clockGettime | clockGettime64 | clockNanosleep | clockNanosleepTime64
  | clockSettime | clockSettime64 | clone | clone3 | close | closeRange | connect | copyFileRange
  | creat | createModule | deleteModule | dup | dup2 | dup3 | epollCreate | epollCreate1
  | epollCtl | epollCtlOld | epollPwait | epollPwait2 | epollWait | epollWaitOld | eventfd
  | eventfd2 | execve | execveat | exit | exitGroup | faccessat | faccessat2 | fadvise64
  | fadvise6464 | fallocate | fanotifyInit | fanotifyMark | fchdir | fchmod | fchmodat
  | fchmodat2 | fchown | fchown32 | fchownat | fcntl | fcntl64 | fdatasync | fgetxattr
  | fileGetattr | fileSetattr | finitModule | flistxattr | flock | fork | fremovexattr | fsconfig
  | fsetxattr | fsmount | fsopen | fspick | fstat | fstat64 | fstatat64 | fstatfs | fstatfs64
  | fsync | ftime | ftruncate | ftruncate64 | futex | futexRequeue | futexTime64 | futexWait
  | futexWaitv | futexWake | futimesat | getKernelSyms | getMempolicy | getRobustList
  | getThreadArea | getcpu | getcwd | getdents | getdents64 | getegid | getegid32 | geteuid
  | geteuid32 | getgid | getgid32 | getgroups | getgroups32 | getitimer | getpeername | getpgid
  | getpgrp | getpid | getpmsg | getppid | getpriority | getrandom | getresgid | getresgid32
  | getresuid | getresuid32 | getrlimit | getrusage | getsid | getsockname | getsockopt | gettid
  | gettimeofday | getuid | getuid32 | getxattr | getxattrat | gtty | idle | initModule
  | inotifyAddWatch | inotifyInit | inotifyInit1 | inotifyRmWatch | ioCancel | ioDestroy
  | ioGetevents | ioPgetevents | ioPgeteventsTime64 | ioSetup | ioSubmit | ioUringEnter
  | ioUringRegister | ioUringSetup | ioctl | ioperm | iopl | ioprioGet | ioprioSet | ipc | kcmp
  | kexecFileLoad | kexecLoad | keyctl | kill | landlockAddRule | landlockCreateRuleset
  | landlockRestrictSelf | lchown | lchown32 | lgetxattr | link | linkat | listen | listmount
  | listxattr | listxattrat | llistxattr | llseek | lock | lookupDcookie | lremovexattr | lseek
  | lsetxattr | lsmGetSelfAttr | lsmListModules | lsmSetSelfAttr | lstat | lstat64 | madvise
  | mapShadowStack | mbind | membarrier | memfdCreate | memfdSecret | migratePages | mincore
  | mkdir | mkdirat | mknod | mknodat | mlock | mlock2 | mlockall | mmap | mmap2 | modifyLdt
  | mount | mountSetattr | moveMount | movePages | mprotect | mpx | mqGetsetattr | mqNotify
  | mqOpen | mqTimedreceive | mqTimedreceiveTime64 | mqTimedsend | mqTimedsendTime64 | mqUnlink
  | mremap | mseal | msgctl | msgget | msgrcv | msgsnd | msync | munlock | munlockall | munmap
  | nameToHandleAt | nanosleep | newfstatat | newselect | nfsservctl | nice | oldfstat | oldlstat
  | oldolduname | oldstat | olduname | «open» | openByHandleAt | openTree | openTreeAttr | openat
  | openat2 | pause | perfEventOpen | personality | pidfdGetfd | pidfdOpen | pidfdSendSignal
  | pipe | pipe2 | pivotRoot | pkeyAlloc | pkeyFree | pkeyMprotect | poll | ppoll | ppollTime64
  | prctl | pread64 | preadv | preadv2 | prlimit64 | processMadvise | processMrelease
  | processVmReadv | processVmWritev | prof | profil | pselect6 | pselect6Time64 | ptrace
  | putpmsg | pwrite64 | pwritev | pwritev2 | queryModule | quotactl | quotactlFd | read
  | readahead | readdir | readlink | readlinkat | readv | reboot | recvfrom | recvmmsg
  | recvmmsgTime64 | recvmsg | remapFilePages | removexattr | removexattrat | rename | renameat
  | renameat2 | requestKey | restartSyscall | rmdir | rseq | rtSigaction | rtSigpending
  | rtSigprocmask | rtSigqueueinfo | rtSigreturn | rtSigsuspend | rtSigtimedwait
  | rtSigtimedwaitTime64 | rtTgsigqueueinfo | schedGetPriorityMax | schedGetPriorityMin
  | schedGetaffinity | schedGetattr | schedGetparam | schedGetscheduler | schedRrGetInterval
  | schedRrGetIntervalTime64 | schedSetaffinity | schedSetattr | schedSetparam
  | schedSetscheduler | schedYield | seccomp | security | select | semctl | semget | semop
  | semtimedop | semtimedopTime64 | sendfile | sendfile64 | sendmmsg | sendmsg | sendto
  | setMempolicy | setMempolicyHomeNode | setRobustList | setThreadArea | setTidAddress
  | setdomainname | setfsgid | setfsgid32 | setfsuid | setfsuid32 | setgid | setgid32 | setgroups
  | setgroups32 | sethostname | setitimer | setns | setpgid | setpriority | setregid | setregid32
  | setresgid | setresgid32 | setresuid | setresuid32 | setreuid | setreuid32 | setrlimit
  | setsid | setsockopt | settimeofday | setuid | setuid32 | setxattr | setxattrat | sgetmask
  | shmat | shmctl | shmdt | shmget | shutdown | sigaction | sigaltstack | signal | signalfd
  | signalfd4 | sigpending | sigprocmask | sigreturn | sigsuspend | socket | socketcall
  | socketpair | splice | ssetmask | stat | stat64 | statfs | statfs64 | statmount | statx
  | stime | stty | swapoff | swapon | symlink | symlinkat | sync | syncFileRange | syncfs
  | sysctl | sysfs | sysinfo | syslog | tee | tgkill | time | timerCreate | timerDelete
  | timerGetoverrun | timerGettime | timerGettime64 | timerSettime | timerSettime64
  | timerfdCreate | timerfdGettime | timerfdGettime64 | timerfdSettime | timerfdSettime64 | times
  | tkill | truncate | truncate64 | tuxcall | ugetrlimit | ulimit | umask | umount | umount2
  | uname | unlink | unlinkat | unshare | uprobe | uretprobe | uselib | userfaultfd | ustat
  | utime | utimensat | utimensatTime64 | utimes | vfork | vhangup | vm86 | vm86old | vmsplice
  | vserver | wait4 | waitid | waitpid | write | writev
  deriving DecidableEq, Repr

end Clues
