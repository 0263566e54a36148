import Clues.Engine.OpenFds
import Clues.Syscalls.Tracking

/-!
# The open descriptors over a run

* `Tracks`       the map has an entry for each open descriptor, and no other ones;
* `KernelStep`   what a system call does to the kernel's table, if it is not `close_range()`;
* `Seen`         the tracer finds out about the descriptors that are created;
* `Follows`      attaching, then system calls and executions of programs in any order;
* `tracks_of_follows`   the open descriptors are tracked all the time.
-/

namespace Clues

open Lib Lib.Digits

def KernelTable.IsOpen (table : KernelTable) (fd : FileNum) : Prop := (table.find fd).isSome = true

theorem KernelTable.IsOpen.valid {table : KernelTable} {fd : FileNum} (h : table.IsOpen fd) :
    fd ≠ FileNum.invalid := by
  obtain ⟨d, hd⟩ := Option.isSome_iff_exists.mp h
  intro heq
  have h0 := (table.range hd).1
  rw [heq] at h0
  exact absurd h0 (by decide)

def Tracks (map : FDInfoMap) (table : KernelTable) : Prop :=
  ∀ fd, (map.find? fd).isSome = true ↔ table.IsOpen fd

/-! ## entries -/

section
variable {map : FDInfoMap} {fd : FileNum}

theorem isSome_trackFD {info : FDInfo} (hv : info.fd ≠ FileNum.invalid) :
    ((trackFD info map).find? fd).isSome = true ↔
      (map.find? fd).isSome = true ∨ fd = info.fd := by
  rw [find?_trackFD hv, Option.isSome_or, Bool.or_eq_true]
  apply or_congr_right
  split_ifs with h
  · exact iff_of_true rfl h
  · exact iff_of_false Bool.false_ne_true h

theorem isSome_updateFD (info : FDInfo) :
    ((updateFD info map).find? fd).isSome = (map.find? fd).isSome := by
  unfold updateFD
  cases hf : map.find? info.fd with
  | none => rfl
  | some old =>
    dsimp only
    rw [OrdMap.find?_set]
    split_ifs with h
    · rw [h, hf]
      rfl
    · rfl

theorem isSome_dropFD (p : FileNum) :
    ((dropFD p map).find? fd).isSome = true ↔ fd ≠ p ∧ (map.find? fd).isSome = true := by
  unfold dropFD
  rw [OrdMap.find?_erase]
  split_ifs with h
  · exact iff_of_false Bool.false_ne_true fun hn => hn.1 h
  · exact (and_iff_right h).symm

theorem isSome_restrict (p : FileNum → Prop) [DecidablePred p] :
    ((map.restrict p).find? fd).isSome = true ↔ p fd ∧ (map.find? fd).isSome = true := by
  rw [OrdMap.find?_restrict]
  split_ifs with h
  · exact (and_iff_right h).symm
  · exact iff_of_false Bool.false_ne_true fun hn => h hn.1

theorem isSome_setFlag {call : FcntlSystemCall} (hd : call.operation.duplicates = none) :
    ((call.updateFDTracking map).find? fd).isSome = (map.find? fd).isSome := by
  unfold FcntlSystemCall.updateFDTracking
  cases hop : call.operation with
  | dupfd => rw [hop] at hd; cases hd
  | dupfdCloexec => rw [hop] at hd; cases hd
  | other => rfl
  | setfd =>
    dsimp only
    cases map.find? call.fd with
    | none => rfl
    | some info =>
      match call.fdFlagsArg with
      | none => rfl
      | some true => exact isSome_updateFD _
      | some false => exact isSome_updateFD _

/-- entries that are added one after the other -/
theorem isSome_foldl {step : FDInfoMap → FileNum → FDInfoMap} {fds : List FileNum}
    (h : ∀ p ∈ fds, ∀ map, ((step map p).find? fd).isSome = true ↔
      (map.find? fd).isSome = true ∨ fd = p) :
    ((fds.foldl step map).find? fd).isSome = true ↔ (map.find? fd).isSome = true ∨ fd ∈ fds := by
  induction fds generalizing map with
  | nil => simp
  | cons p fds ih =>
    rw [List.foldl_cons, ih fun q hq => h q (List.mem_cons_of_mem _ hq),
      h p List.mem_cons_self, List.mem_cons, or_assoc]

end

/-! ## what the tracer finds out -/

namespace CallExit

/-- domain and type of the listening socket are tracked, or they can be found out -/
def Known (c : CallExit) (map : FDInfoMap) : Prop :=
  AcceptSystemCall.snatches (FileNum.ofWord (c.arg 0)) map = false ∨
    ∃ r, c.snatchSocket c.newFd = .ok r

/-- `get_fd_infos()` fails, or it has an info for the descriptor -/
def Listed (c : CallExit) (fd : FileNum) : Prop :=
  ∀ infos, c.fdInfos = .ok infos → ∃ info ∈ infos, info.fd = fd

section
variable {c : CallExit} {f : FDInfoMap → FDInfoMap} {given recorded : List FileNum}
  {map : FDInfoMap} {fd : FileNum}

theorem isSome_trackFound {p : FileNum} (hv : p ≠ FileNum.invalid) (hl : c.Listed p) :
    ((trackFound c.fdInfos p map).find? fd).isSome = true ↔
      (map.find? fd).isSome = true ∨ fd = p := by
  unfold trackFound
  cases hi : c.fdInfos with
  | error e => exact isSome_trackFD hv
  | ok infos =>
    obtain ⟨info, hm, hfd⟩ := hl infos hi
    dsimp only
    cases hf : infos.find? (fun info => decide (info.fd = p)) with
    | none => exact absurd (decide_eq_true hfd) (List.find?_eq_none.mp hf info hm)
    | some found =>
      have hp : found.fd = p :=
        of_decide_eq_true (List.find?_some (p := fun info : FDInfo => decide (info.fd = p)) hf)
      rw [← hp] at hv ⊢
      exact isSome_trackFD hv

theorem isSome_accept (hk : c.Known map) (hv : c.newFd ≠ FileNum.invalid) (flags : Word) :
    ((AcceptSystemCall.updateFDTracking c.snatchSocket (FileNum.ofWord (c.arg 0)) c.newFd flags
      map).2.find? fd).isSome = true ↔ (map.find? fd).isSome = true ∨ fd = c.newFd := by
  have htrack : ∀ domain type m,
      ((trackFD (makeSocketInfo c.newFd flags domain type) m).find? fd).isSome = true ↔
        (m.find? fd).isSome = true ∨ fd = c.newFd := fun domain type m => isSome_trackFD hv
  unfold Known AcceptSystemCall.snatches at hk
  unfold AcceptSystemCall.updateFDTracking
  cases hf : map.find? (FileNum.ofWord (c.arg 0)) with
  | none =>
    rw [hf] at hk
    obtain ⟨r, hr⟩ := hk.resolve_left (Ne.symm Bool.false_ne_true)
    rw [hr]
    exact htrack r.1 r.2 map
  | some info =>
    rw [hf] at hk
    dsimp only at hk ⊢
    split_ifs with hmissing
    · rw [hmissing] at hk
      obtain ⟨r, hr⟩ := hk.resolve_left (Ne.symm Bool.false_ne_true)
      rw [hr]
      dsimp only
      rw [htrack, isSome_updateFD]
    · exact htrack _ _ map

/-- what an exit adds to the map are entries for the descriptors it records -/
theorem Tracking.adds (h : Tracking c f given recorded) (hv : ∀ p ∈ recorded, p ≠ FileNum.invalid)
    (hk : c.call = .accept ∨ c.call = .accept4 → c.Known map)
    (hl : c.call = .recvmsg ∨ c.call = .pidfdGetfd → ∀ p ∈ recorded, c.Listed p)
    (hs : c.duplicates.isSome = true → (map.find? (FileNum.ofWord (c.arg 0))).isSome = true) :
    ((f map).find? fd).isSome = true ↔ (map.find? fd).isSome = true ∨ fd ∈ recorded := by
  cases h with
  | nothing => simp
  | record info =>
    rw [isSome_trackFD (hv _ (List.mem_singleton_self _)), List.mem_singleton]
  | pipe p p' =>
    have hp := hv p List.mem_cons_self
    have hp' := hv p' (List.mem_cons_of_mem _ (List.mem_singleton_self _))
    unfold PipeSystemCall.updateFDTracking
    rw [if_pos ⟨hp, hp'⟩, isSome_trackFD hp', isSome_trackFD hp, List.mem_cons, List.mem_singleton,
      or_assoc]
  | sockets fds domain type =>
    exact isSome_foldl fun p hp m => isSome_trackFD (hv p hp)
  | accept flags hcall =>
    rw [isSome_accept (hk hcall) (hv _ (List.mem_singleton_self _)), List.mem_singleton]
  | found fds hcall =>
    exact isSome_foldl fun p hp m => isSome_trackFound (hv p hp) (hl hcall p hp)
  | copy g hd =>
    unfold Creation.trackCopy
    obtain ⟨info, hi⟩ := Option.isSome_iff_exists.mp (hs hd)
    rw [hi]
    dsimp only
    rw [isSome_trackFD (hv _ (List.mem_singleton_self _)), List.mem_singleton]
  | setFlag hd =>
    rw [isSome_setFlag hd, or_iff_left List.not_mem_nil]

/-! ## what the kernel does -/

/-- the tracer finds out about the descriptors that a system call creates: `accept()` has to know
the listening socket, a descriptor 0 hides others of `socketpair()`, `/proc` yields type information,
`SO_PEERPIDFD` and the arguments of `clone3()` can be read; some calls keep nothing -/
def Seen (c : CallExit) (fns : TextFns) (map : FDInfoMap) (created : List (FileNum × KernelFd)) :
    Prop :=
  match c.call with
  | .accept | .accept4 => c.Known map
  | .socketpair => ∀ p ∈ created, p.1 ≠ 0
  | .pidfdGetfd => ∀ p ∈ created, (linkType fns p.2.link).isSome = true
  | .recvmsg => (∀ fd, fd ∈ c.msg.rights.getD [] ↔ fd ∈ created.map Prod.fst) ∧
      ∀ p ∈ created, (linkType fns p.2.link).isSome = true
  | .clone3 => c.clArgs.args.any (fun args => args.flags.has CloneFlags.pidfd) = true ∧
      ∀ p ∈ created, p.1 = c.clArgs.pidfd
  | .getsockopt => ∃ val, c.optval = .ok (some val)
  | .clone | .recvmmsg | .ioctl | .futex | .futexTime64 => created = []
  | _ => True

theorem recorded_of_makes {inode : UInt64} {r : Text × Bool × Bool} (h : c.makes inode = some r)
    (hv : c.newFd ≠ FileNum.invalid) : c.recorded = [c.newFd] := by
  have hsignal : FileNum.ofWord (c.arg 0) = -1 → FileNum.ofWord (c.arg 0) ≠ c.newFd :=
    fun ha heq => hv (heq.symm.trans ha)
  unfold makes at h
  unfold CallExit.recorded
  generalize c.call = nr at *
  cases nr with
  | eventfd | eventfd2 | epollCreate | epollCreate1 | socket | accept | accept4 | pidfdOpen => rfl
  | signalfd | signalfd4 =>
    dsimp only at h ⊢
    split_ifs at h with ha
    rw [if_neg (hsignal ha)]
  | _ => cases h

theorem recorded_of_makesPair {inode : UInt64} {ptr : Word} {link : Text} {cloexec nonblock : Bool}
    (h : c.makesPair inode = some (ptr, link, cloexec, nonblock)) (h0 : ptr ≠ 0) {p p' : FileNum}
    (hr : c.readPair ptr = .ok (p, p')) (hp : c.call = .socketpair → p ≠ 0 ∧ p' ≠ 0) :
    c.recorded = [p, p'] := by
  unfold makesPair at h
  unfold CallExit.recorded
  generalize c.call = nr at *
  cases nr with
  | pipe | pipe2 =>
    dsimp only at h ⊢
    obtain rfl : c.arg 0 = ptr := congrArg Prod.fst (Option.some.inj h)
    rw [hr]
    exact if_neg h0
  | socketpair =>
    dsimp only at h ⊢
    obtain rfl : c.arg 3 = ptr := congrArg Prod.fst (Option.some.inj h)
    rw [hr]
    dsimp only
    unfold socketPair
    rw [if_neg (hp rfl).1, if_neg (hp rfl).2]
  | _ => cases h

theorem recorded_of_openFlags {flags : Word} (h : c.openFlags = some flags) :
    c.recorded = [c.newFd] := by
  unfold openFlags at h
  unfold CallExit.recorded
  generalize c.call = nr at *
  cases nr with
  | «open» | openat => rfl
  | _ => cases h

theorem recorded_of_duplicates {cloexec : Bool} (h : c.duplicates = some cloexec) :
    c.recorded = [c.newFd] := by
  unfold duplicates at h
  unfold CallExit.recorded
  generalize c.call = nr at *
  cases nr with
  | dup | dup2 | dup3 => rfl
  | fcntl | fcntl64 =>
    dsimp only at h ⊢
    rw [h]
    rfl
  | _ => cases h

/-- what is created is recorded then, and nothing else is -/
theorem recorded_of_creates {fns : TextFns} {table : KernelTable}
    {created : List (FileNum × KernelFd)} (hc : c.Creates table created)
    (hv : ∀ p ∈ created, p.1 ≠ FileNum.invalid) (hs : c.Seen fns map created) (fd : FileNum) :
    fd ∈ c.recorded ↔ fd ∈ created.map Prod.fst := by
  cases hc with
  | single hm hd => rw [recorded_of_makes hm (hv _ (List.mem_singleton_self _))]; rfl
  | @pair inode ptr link cloexec nonblock p d p' d' hm h0 hr hd hd' =>
    have hzero : c.call = .socketpair → p ≠ 0 ∧ p' ≠ 0 := by
      intro hcall
      unfold Seen at hs
      rw [hcall] at hs
      exact ⟨hs _ List.mem_cons_self, hs _ (List.mem_cons_of_mem _ List.mem_cons_self)⟩
    rw [recorded_of_makesPair hm h0 hr hzero]
    rfl
  | opened forced hf hx hn => rw [recorded_of_openFlags hf]; rfl
  | @peerPidfd p d hcall hp hval hd =>
    unfold Seen at hs
    unfold CallExit.recorded
    rw [hcall] at hs ⊢
    obtain ⟨val, ho⟩ := hs
    dsimp only
    rw [ho]
    dsimp only
    rw [if_pos hp, hval val ho]
    rfl
  | cloned hcall hd =>
    unfold Seen at hs
    unfold CallExit.recorded
    rw [hcall] at hs ⊢
    dsimp only at hs ⊢
    rw [if_pos hs.1, ← hs.2 _ (List.mem_singleton_self _)]
    rfl
  | taken hcall hd =>
    unfold CallExit.recorded
    rw [hcall]
    rfl
  | received created hcall =>
    unfold Seen at hs
    unfold CallExit.recorded
    rw [hcall] at hs ⊢
    exact hs.1 fd
  | duplicated hd ho hl hx hn => rw [recorded_of_duplicates hd]; rfl
  | unseen created hcall =>
    unfold Seen at hs
    unfold CallExit.recorded
    simp only [untracked, List.mem_cons, List.not_mem_nil, or_false] at hcall
    rcases hcall with hcall | hcall | hcall | hcall | hcall <;>
    · rw [hcall] at hs ⊢
      dsimp only at hs ⊢
      rw [hs]
      rfl

end

end CallExit

section
variable {fns : TextFns} {c : CallExit} {table table' : KernelTable}
  {created : List (FileNum × KernelFd)}

theorem CallExit.call_of_duplicates (hd : c.duplicates.isSome = true) :
    c.call = .dup ∨ c.call = .dup2 ∨ c.call = .dup3 ∨ c.call = .fcntl ∨ c.call = .fcntl64 := by
  unfold CallExit.duplicates at hd
  generalize c.call = nr at *
  cases nr with
  | dup | dup2 | dup3 | fcntl | fcntl64 => simp
  | _ => cases hd

/-- only an open descriptor is duplicated -/
theorem CallExit.Creates.source (hc : c.Creates table created) (hd : c.duplicates.isSome = true) :
    table.IsOpen (FileNum.ofWord (c.arg 0)) := by
  have hcall := CallExit.call_of_duplicates hd
  cases hc with
  | single hm =>
    unfold CallExit.makes at hm
    rcases hcall with h | h | h | h | h <;> rw [h] at hm <;> cases hm
  | pair hm =>
    unfold CallExit.makesPair at hm
    rcases hcall with h | h | h | h | h <;> rw [h] at hm <;> cases hm
  | opened forced hf =>
    unfold CallExit.openFlags at hf
    rcases hcall with h | h | h | h | h <;> rw [h] at hf <;> cases hf
  | peerPidfd hn => rcases hcall with h | h | h | h | h <;> rw [h] at hn <;> cases hn
  | cloned hn => rcases hcall with h | h | h | h | h <;> rw [h] at hn <;> cases hn
  | taken hn => rcases hcall with h | h | h | h | h <;> rw [h] at hn <;> cases hn
  | received created hn => rcases hcall with h | h | h | h | h <;> rw [h] at hn <;> cases hn
  | duplicated hd ho => exact Option.isSome_of_eq_some ho
  | unseen created hn =>
    rcases hcall with h | h | h | h | h <;> rw [h] at hn <;> exact absurd hn (by decide)

end

/-- what the kernel does to its table until an exit stop. A `close_range()` that closes descriptors,
which has no class of its own, and a `close()` that fails after it has freed the descriptor (`EINTR`,
`EIO`) are none of these steps: the entries stay -/
inductive KernelStep (x : FDExit) (table table' : KernelTable)
    (created : List (FileNum × KernelFd)) : Prop
  | failed : x.failed = true → created = [] → (∀ fd, table'.IsOpen fd ↔ table.IsOpen fd) →
      KernelStep x table table' created
  | keeps : x.failed = false → x.call.call ≠ .close → created = [] → x.call.recorded = [] →
      (∀ fd, table'.IsOpen fd ↔ table.IsOpen fd) → KernelStep x table table' created
  -- `dup2()` with equal numbers
  | same : x.failed = false → x.call.call = .dup2 → created = [] →
      FileNum.ofWord (x.call.arg 0) = x.call.newFd → table.IsOpen x.call.newFd →
      (∀ fd, table'.IsOpen fd ↔ table.IsOpen fd) → KernelStep x table table' created
  | closes : x.failed = false → x.call.call = .close → created = [] →
      (∀ fd, table'.IsOpen fd ↔ fd ≠ FileNum.ofWord (x.call.arg 0) ∧ table.IsOpen fd) →
      KernelStep x table table' created
  | creates : x.failed = false → x.call.call ≠ .close → x.call.Creates table created →
      (∀ p ∈ created, table'.find p.1 = some p.2) →
      (∀ fd, table'.IsOpen fd ↔ table.IsOpen fd ∨ fd ∈ created.map Prod.fst) →
      KernelStep x table table' created

/-! ## runs -/

/-- `get_fd_infos()` fails, or `/proc` shows the kernel's table -/
def CallExit.LooksAt (c : CallExit) (fns : TextFns) (table : KernelTable) : Prop :=
  (∃ e, c.fdInfos = .error e) ∨
    ∃ dir : ProcDir, dir.Shows table ∧ c.fdInfos = .ok (getFDInfos fns dir)

/-- the map of a process and the kernel's table, from `handleAttached()` on -/
inductive Follows (fns : TextFns) : FDInfoMap → KernelTable → Prop
  | attach {dir table} : dir.Shows table →
      (∀ fd d, table.find fd = some d → (linkType fns d.link).isSome = true) →
      Follows fns (initialMap (getFDInfos fns dir)) table
  | call {map table table' created} (x : FDExit) : Follows fns map table →
      KernelStep x table table' created → x.call.LooksAt fns table' →
      (x.call.Creates table created → x.call.Seen fns map created) →
      Follows fns (x.apply map) table'
  -- `execve()` closes descriptors
  | exec {map table table' dir} : Follows fns map table →
      (∀ fd, table'.IsOpen fd → table.IsOpen fd) → dir.Shows table' →
      NoneSkipped (getCurrentlyOpenFds dir) map.entries →
      Follows fns (syncFDsAfterExec (getCurrentlyOpenFds dir) map) table'

section
variable {fns : TextFns} {map : FDInfoMap} {table table' : KernelTable}
  {created : List (FileNum × KernelFd)}

theorem isSome_linkType (d : KernelFd) (fd : FileNum) :
    (d.info fns fd).isSome = (linkType fns d.link).isSome := by
  have h := congrArg Option.isSome (snap_info fd d : _ = d.snap fns)
  unfold KernelFd.snap at h
  rwa [Option.isSome_map, Option.isSome_map] at h

theorem tracks_attach {dir : ProcDir} (hdoc : fns.Documented) (hs : dir.Shows table)
    (hl : ∀ fd d, table.find fd = some d → (linkType fns d.link).isSome = true) :
    Tracks (initialMap (getFDInfos fns dir)) table := by
  intro fd
  unfold KernelTable.IsOpen
  rw [snapshot_eq hdoc hs]
  cases hd : table.find fd with
  | none => rfl
  | some d => exact iff_of_true ((isSome_linkType d fd).trans (hl fd d hd)) rfl

theorem listed_of_looksAt {c : CallExit} (hdoc : fns.Documented) (h : c.LooksAt fns table)
    {fd : FileNum} {d : KernelFd} (hd : table.find fd = some d)
    (hl : (linkType fns d.link).isSome = true) : c.Listed fd := by
  intro infos hi
  rcases h with ⟨e, he⟩ | ⟨dir, hs, hok⟩
  · rw [he] at hi
    cases hi
  · rw [hok] at hi
    cases hi
    obtain ⟨info, hinfo⟩ := Option.isSome_iff_exists.mp ((isSome_linkType d fd).trans hl)
    have hfd := KernelFd.info_fd hinfo
    refine ⟨info, (mem_getFDInfos hdoc hs).mpr ⟨d, ?_, ?_⟩, hfd⟩
    · rw [hfd]
      exact hd
    · rw [hfd]
      exact hinfo

theorem FDExit.apply_eq {x : FDExit} (hf : x.failed = false) (hc : x.call.call ≠ .close) :
    x.apply map = (x.call.track map).2 := by
  unfold FDExit.apply CallExit.updateFDTracking
  rw [hf, if_neg Bool.false_ne_true, if_neg hc]

theorem tracks_creates {x : FDExit} (hdoc : fns.Documented) (ht : Tracks map table)
    (hf : x.failed = false) (hclose : x.call.call ≠ .close) (hc : x.call.Creates table created)
    (hi : ∀ p ∈ created, table'.find p.1 = some p.2)
    (ho : ∀ fd, table'.IsOpen fd ↔ table.IsOpen fd ∨ fd ∈ created.map Prod.fst)
    (hlook : x.call.LooksAt fns table') (hs : x.call.Seen fns map created) :
    Tracks (x.apply map) table' := by
  have hvalid : ∀ p ∈ created, p.1 ≠ FileNum.invalid := fun p hp =>
    KernelTable.IsOpen.valid (Option.isSome_of_eq_some (hi p hp))
  have hrec := CallExit.recorded_of_creates hc hvalid hs
  have hfound : ∀ p ∈ x.call.recorded, ∃ d, (p, d) ∈ created := by
    intro p hp
    obtain ⟨q, hq, rfl⟩ := List.mem_map.mp ((hrec p).mp hp)
    exact ⟨q.2, hq⟩
  intro fd
  rw [FDExit.apply_eq hf hclose, (x.call.tracking hclose).adds, ht fd, ho fd, hrec fd]
  · intro p hp
    obtain ⟨d, hd⟩ := hfound p hp
    exact hvalid _ hd
  · intro hcall
    unfold CallExit.Seen at hs
    rcases hcall with hcall | hcall <;> rw [hcall] at hs <;> exact hs
  · intro hcall p hp
    obtain ⟨d, hd⟩ := hfound p hp
    apply listed_of_looksAt hdoc hlook (hi _ hd)
    unfold CallExit.Seen at hs
    rcases hcall with hcall | hcall <;> rw [hcall] at hs
    · exact hs.2 _ hd
    · exact hs _ hd
  · intro hd
    exact (ht _).mpr (hc.source hd)

/-- a call that records nothing leaves the entries as they are -/
theorem tracks_keeps {x : FDExit} (ht : Tracks map table) (hf : x.failed = false)
    (hclose : x.call.call ≠ .close) (hr : x.call.recorded = []) : Tracks (x.apply map) table := by
  have hnone : ∀ p, p ∉ x.call.recorded := fun p hp => by
    rw [hr] at hp
    cases hp
  intro fd
  rw [FDExit.apply_eq hf hclose, (x.call.tracking hclose).adds, ht fd]
  · exact or_iff_left (hnone fd)
  · exact fun p hp => absurd hp (hnone p)
  · intro hcall
    apply absurd hr
    unfold CallExit.recorded
    rcases hcall with hcall | hcall <;> rw [hcall] <;> exact List.cons_ne_nil _ _
  · exact fun _ p hp => absurd hp (hnone p)
  · intro hd
    obtain ⟨cloexec, hx⟩ := Option.isSome_iff_exists.mp hd
    rw [CallExit.recorded_of_duplicates hx] at hr
    cases hr

theorem tracks_same {x : FDExit} (ht : Tracks map table) (hf : x.failed = false)
    (hcall : x.call.call = .dup2) (hsame : FileNum.ofWord (x.call.arg 0) = x.call.newFd)
    (ho : table.IsOpen x.call.newFd) : Tracks (x.apply map) table := by
  have hclose : x.call.call ≠ .close := by
    rw [hcall]
    decide
  have hr : x.call.recorded = [x.call.newFd] := by
    unfold CallExit.recorded
    rw [hcall]
  have hother : ∀ nr, nr ≠ .dup2 → x.call.call ≠ nr := fun nr hn heq => hn (heq.symm.trans hcall)
  intro fd
  rw [FDExit.apply_eq hf hclose, (x.call.tracking hclose).adds, ht fd, hr, List.mem_singleton]
  · exact or_iff_left_of_imp fun hfd => hfd ▸ ho
  · rw [hr, List.forall_mem_singleton]
    exact ho.valid
  · exact fun h => absurd h (not_or.mpr ⟨hother _ (by decide), hother _ (by decide)⟩)
  · exact fun h => absurd h (not_or.mpr ⟨hother _ (by decide), hother _ (by decide)⟩)
  · intro _
    rw [hsame]
    exact (ht _).mpr ho

theorem tracks_call {x : FDExit} (hdoc : fns.Documented) (ht : Tracks map table)
    (hk : KernelStep x table table' created) (hlook : x.call.LooksAt fns table')
    (hs : x.call.Creates table created → x.call.Seen fns map created) :
    Tracks (x.apply map) table' := by
  cases hk with
  | failed hf _ ho =>
    intro fd
    unfold FDExit.apply
    rw [hf, if_pos rfl, ht fd, ho fd]
  | keeps hf hclose _ hr ho => exact fun fd => (tracks_keeps ht hf hclose hr fd).trans (ho fd).symm
  | same hf hcall _ hsame hopen ho =>
    exact fun fd => (tracks_same ht hf hcall hsame hopen fd).trans (ho fd).symm
  | closes hf hcall _ ho =>
    intro fd
    unfold FDExit.apply CallExit.updateFDTracking
    rw [hf, if_neg Bool.false_ne_true, if_pos hcall, isSome_dropFD, ht fd, ho fd]
  | creates hf hclose hc hi ho => exact tracks_creates hdoc ht hf hclose hc hi ho hlook (hs hc)

theorem mem_openFds {dir : ProcDir} (hs : dir.Shows table) (fd : FileNum) :
    fd ∈ getCurrentlyOpenFds dir ↔ table.IsOpen fd := by
  have hread : ∀ {entry : ProcEntry} {fd : FileNum}, table.IsOpen fd → entry.name = fdName fd →
      (if entry.isDotEntry then none else stoi 10 entry.name) = some fd := by
    intro entry fd hfd hname
    obtain ⟨d, hd⟩ := Option.isSome_iff_exists.mp hfd
    rw [isDotEntry_fdName hname, if_neg Bool.false_ne_true, hname]
    exact stoi_fdName (table.range hd)
  unfold getCurrentlyOpenFds
  rw [List.mem_filterMap]
  constructor
  · rintro ⟨entry, he, hfd⟩
    rcases hs.listed entry he with hdot | ⟨fd', d, hd, hname, -⟩
    · rw [if_pos hdot] at hfd
      cases hfd
    · have hopen : table.IsOpen fd' := Option.isSome_of_eq_some hd
      rw [hread hopen hname] at hfd
      rwa [← Option.some.inj hfd]
  · intro hopen
    obtain ⟨d, hd⟩ := Option.isSome_iff_exists.mp hopen
    obtain ⟨entry, he, hname⟩ := hs.complete hd
    exact ⟨entry, he, hread hopen hname⟩

/-- the open descriptors are tracked over every run -/
theorem tracks_of_follows (hdoc : fns.Documented) (h : Follows fns map table) :
    Tracks map table := by
  induction h with
  | attach hs hl => exact tracks_attach hdoc hs hl
  | call x _ hk hlook hs ih => exact tracks_call hdoc ih hk hlook hs
  | exec _ hsub hs hn ih =>
    intro fd
    rw [(syncFDsAfterExec_eq_restrict_iff _ _).mpr hn, isSome_restrict, mem_openFds hs, ih fd]
    exact and_iff_left_of_imp (hsub fd)

end

/-! ### a run -/

/-- no descriptors -/
def noDir : ProcDir := ⟨[], fun _ => none⟩

theorem noDir_shows : noDir.Shows noTable where
  listed := fun _ he => nomatch he
  complete := fun h => nomatch h
  fdinfo := fun h => nomatch h

/-- `eventfd2(0, EFD_CLOEXEC)`, the first descriptor -/
def eventfd2Exit : FDExit := ⟨firstExit .eventfd2 (cloexecArg 1) eventfdD, false⟩

theorem eventfd2_creates :
    KernelStep eventfd2Exit noTable (firstTable eventfdD) [(3, eventfdD)] := by
  refine KernelStep.creates rfl (by decide)
    (creates_first true false rfl ⟨rfl, by decide, by decide⟩) (fun p hp => ?_) fun fd => ?_
  · rw [List.mem_singleton.mp hp]
    rfl
  · show ((if fd = 3 then some eventfdD else none).isSome = true) ↔ _
    split_ifs with h
    · exact iff_of_true rfl (Or.inr (List.mem_singleton.mpr h))
    · exact iff_of_false Bool.false_ne_true fun hn =>
        hn.elim Bool.false_ne_true fun hm => h (List.mem_singleton.mp hm)

theorem follows_eventfd2 : Follows plainFns
    (eventfd2Exit.apply (initialMap (getFDInfos plainFns noDir))) (firstTable eventfdD) :=
  Follows.call eventfd2Exit (Follows.attach noDir_shows fun _ _ h => nomatch h) eventfd2_creates
    (Or.inr ⟨firstDir eventfdD, firstDir_shows eventfdD, rfl⟩) fun _ => trivial

/-- `execve()` closes it -/
theorem tracks_of_follows_eventfd2 : Tracks (syncFDsAfterExec (getCurrentlyOpenFds noDir)
    (eventfd2Exit.apply (initialMap (getFDInfos plainFns noDir)))) noTable := by
  refine tracks_of_follows plainFns_documented (Follows.exec follows_eventfd2 (fun fd h => ?_)
    noDir_shows ?_)
  · exact absurd h Bool.false_ne_true
  · -- there is one entry at most
    have happly : eventfd2Exit.apply (initialMap (getFDInfos plainFns noDir)) =
        EventFD2SystemCall.updateFDTracking eventfd2Exit.call.newFd cloexecFlag OrdMap.empty := rfl
    rw [happly]
    unfold EventFD2SystemCall.updateFDTracking trackFD
    split_ifs
    · exact List.IsChain.nil
    · exact List.IsChain.singleton _

/-- `close(0)` -/
def closeExit : FDExit :=
  ⟨{ firstExit .close (fun _ => 0) eventfdD with ret := 0 }, false⟩

/-- two threads: `eventfd2()` returns before `close()`, and is handled after it -/
theorem foldl_exits_eq_close :
    [⟨2, 1, closeExit⟩, ⟨1, 0, eventfd2Exit⟩].foldl
        (fun (map : FDInfoMap) (a : ThreadExit) => a.exit.apply map) OrdMap.empty =
      [⟨1, 0, eventfd2Exit⟩, ⟨2, 1, closeExit⟩].foldl
        (fun (map : FDInfoMap) (a : ThreadExit) => a.exit.apply map) OrdMap.empty := by
  have hzero : FileNum.ofWord 0 ≠ FileNum.ofWord 3 := by
    rw [ofWord_three]
    unfold FileNum.ofWord
    decide
  refine foldl_exits_eq ⟨List.Perm.swap _ _ _, ?_, fun a b hdep hs => ?_⟩ fun _ _ h => by cases h
  · refine List.nodup_cons.mpr ⟨fun hm => ?_, List.nodup_singleton _⟩
    exact absurd (congrArg ThreadExit.place (List.mem_singleton.mp hm)) (by decide)
  · -- they concern different descriptors
    have heq := hs.eq_of_length rfl
    obtain ⟨rfl, rfl⟩ : a = ⟨1, 0, eventfd2Exit⟩ ∧ b = ⟨2, 1, closeExit⟩ := by
      simpa using heq
    obtain ⟨-, -, fd, h1, h2⟩ := hdep
    have h3 : fd = FileNum.ofWord 3 := List.mem_singleton.mp h1
    have h0 : fd = FileNum.ofWord 0 := List.mem_singleton.mp h2
    exact absurd (h0.symm.trans h3) hzero

end Clues
