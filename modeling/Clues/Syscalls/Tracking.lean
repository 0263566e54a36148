import Clues.Lib.Reorder
import Clues.Syscalls.Records

/-!
# What an exit does to the descriptors

* `CallExit.updateFDTracking`   what a successful system call does to the map of descriptors;
* `CallExit.recorded`, `given`  the descriptors that are recorded, and those it is given;
* `CallExit.Tracking`   the kinds of changes, and `tracking`, that there are no other ones;
* `CallExit.touches`   the descriptors an exit looks at or changes (`local_updateFDTracking`);
* `foldl_exits_eq`     the exits of several threads may be handled in another order.
-/

namespace Clues

open Lib Lib.Reorder

/-! ## one exit -/

/-- `updateFDTracking()`; what `close()` does is no creation -/
def CallExit.updateFDTracking (c : CallExit) (map : FDInfoMap) : FDInfoMap :=
  if c.call = .close then dropFD (FileNum.ofWord (c.arg 0)) map else (c.track map).2

/-- an exit stop, and whether it reports an error -/
structure FDExit where
  call : CallExit
  failed : Bool

/-- the end of `SystemCall::setExitInfo()` -/
def FDExit.apply (x : FDExit) (map : FDInfoMap) : FDInfoMap :=
  if x.failed then map else x.call.updateFDTracking map

/-- entries are found under the number they carry -/
def Keyed (map : FDInfoMap) : Prop := ∀ fd info, map.find? fd = some info → info.fd = fd

/-! ## what an exit looks at and changes -/

/-- functions that look at and change the entries in `F` only -/
abbrev LocalFDs (F : Set FileNum) (f : FDInfoMap → FDInfoMap) : Prop :=
  Local Keyed (fun map fd => map.find? fd) F f

section
variable {F : Set FileNum} {map : FDInfoMap}

theorem keyed_insert (h : Keyed map) (info : FDInfo) : Keyed (map.insert info.fd info) := by
  intro fd info' hf
  rw [OrdMap.find?_insert] at hf
  split_ifs at hf with hfd
  · cases ho : map.find? info.fd with
    | none =>
      rw [ho] at hf
      rw [hfd, ← Option.some.inj hf]
      rfl
    | some old =>
      rw [ho] at hf
      rw [hfd, ← Option.some.inj hf]
      exact h _ old ho
  · exact h fd info' hf

theorem local_trackFD (info : FDInfo) (hi : info.fd ∈ F) : LocalFDs F (trackFD info) := by
  unfold trackFD
  by_cases hv : info.fd = FileNum.invalid
  · simp only [if_pos hv]
    exact Local.id
  · simp only [if_neg hv]
    refine ⟨fun s hs => keyed_insert hs info, fun s _ fd hfd => ?_, fun s t _ _ heq fd hfd => ?_⟩
    · exact OrdMap.find?_insert_of_ne _ _ fun h => hfd (h ▸ hi)
    · show (s.insert info.fd info).find? fd = (t.insert info.fd info).find? fd
      rw [OrdMap.find?_insert, OrdMap.find?_insert]
      have h1 : s.find? info.fd = t.find? info.fd := heq _ hi
      have h2 : s.find? fd = t.find? fd := heq _ hfd
      rw [h1, h2]

theorem local_updateFD (info : FDInfo) (hi : info.fd ∈ F) : LocalFDs F (updateFD info) := by
  have hset : ∀ s : FDInfoMap, ∀ fd, fd ≠ info.fd → (updateFD info s).find? fd = s.find? fd :=
    fun s fd hne => find?_updateFD_ne hne
  have hself : ∀ s : FDInfoMap, (updateFD info s).find? info.fd
      = (s.find? info.fd).map fun _ => info := by
    intro s
    unfold updateFD
    cases hs : s.find? info.fd with
    | none => exact hs
    | some old => exact OrdMap.find?_set_self _ _ _
  refine ⟨fun s hs fd info' hf => ?_, fun s _ fd hfd => hset s fd fun h => hfd (h ▸ hi),
    fun s t _ _ heq fd hfd => ?_⟩
  · by_cases hfd : fd = info.fd
    · rw [hfd, hself] at hf
      obtain ⟨_, -, rfl⟩ := Option.map_eq_some_iff.mp hf
      exact hfd.symm
    · rw [hset s fd hfd] at hf
      exact hs fd info' hf
  · show (updateFD info s).find? fd = (updateFD info t).find? fd
    by_cases hne : fd = info.fd
    · have h1 : s.find? info.fd = t.find? info.fd := heq _ hi
      rw [hne, hself, hself, h1]
    · rw [hset s fd hne, hset t fd hne]
      exact heq fd hfd

theorem local_dropFD {fd : FileNum} (hi : fd ∈ F) : LocalFDs F (dropFD fd) := by
  refine ⟨fun s hs q info hq => ?_, fun s _ q hq => ?_, fun s t _ _ heq q hq => ?_⟩
  · rw [show (dropFD fd s).find? q = _ from OrdMap.find?_erase s fd q] at hq
    split_ifs at hq
    exact hs q info hq
  · exact OrdMap.find?_erase_of_ne s fun h => hq (h ▸ hi)
  · show (s.erase fd).find? q = (t.erase fd).find? q
    rw [OrdMap.find?_erase, OrdMap.find?_erase]
    have h : s.find? q = t.find? q := heq q hq
    rw [h]

end

namespace CallExit

/-- the descriptors that are recorded, as far as they are found in the registers and in memory -/
def recorded (c : CallExit) : List FileNum :=
  match c.call with
  | .pipe | .pipe2 =>
    match c.readPair (c.arg 0) with
    | .ok ends => if c.arg 0 = 0 then [] else [ends.1, ends.2]
    | .error _ => []
  | .eventfd | .eventfd2 | .epollCreate | .epollCreate1 | .socket | .accept | .accept4 | .pidfdOpen
  | .pidfdGetfd | .open | .openat | .dup | .dup2 | .dup3 => [c.newFd]
  | .signalfd | .signalfd4 => if FileNum.ofWord (c.arg 0) = c.newFd then [] else [c.newFd]
  | .fcntl | .fcntl64 =>
    if (FcntlOper.ofWord (c.arg 1)).duplicates.isSome then [c.newFd] else []
  | .socketpair =>
    match c.readPair (c.arg 3) with
    | .ok p => socketPair p.1 p.2
    | .error _ => []
  | .recvmsg => c.msg.rights.getD []
  | .clone3 =>
    if c.clArgs.args.any fun args => args.flags.has CloneFlags.pidfd then [c.clArgs.pidfd] else []
  | .getsockopt =>
    match c.optval with
    | .ok (some fd) => if isPeerPidfd (c.arg 1) (c.arg 2) then [fd] else []
    | _ => []
  | _ => []

/-- the descriptor that the system call is given -/
def given (c : CallExit) : List FileNum :=
  match c.call with
  | .close | .accept | .accept4 | .dup | .dup2 | .dup3 | .fcntl | .fcntl64 =>
    [FileNum.ofWord (c.arg 0)]
  | _ => []

/-- the descriptors that the exit looks at or changes -/
def touches (c : CallExit) : Set FileNum := fun fd => fd ∈ c.given ++ c.recorded

section
variable {c : CallExit} {F : Set FileNum}

theorem local_accept {snatch : FileNum → Except Errno (Option Int × Option Int)}
    {sockfd newFd : FileNum} (flags : Word) (hs : sockfd ∈ F) (hn : newFd ∈ F) :
    LocalFDs F fun map => (AcceptSystemCall.updateFDTracking snatch sockfd newFd flags map).2 := by
  have htrack : ∀ domain type, LocalFDs F (trackFD (makeSocketInfo newFd flags domain type)) :=
    fun domain type => local_trackFD _ hn
  refine Local.look hs fun map hk => ?_
  cases hf : map.find? sockfd with
  | none =>
    cases hr : snatch newFd with
    | error e =>
      refine ⟨id, Local.id, fun map' hm => ?_⟩
      unfold AcceptSystemCall.updateFDTracking
      rw [hm, hr]
      rfl
    | ok r =>
      refine ⟨_, htrack r.1 r.2, fun map' hm => ?_⟩
      unfold AcceptSystemCall.updateFDTracking
      rw [hm, hr]
  | some fdInfo =>
    by_cases hn : (fdInfo.sockDomain.isNone || fdInfo.sockType.isNone) = true
    · cases hr : snatch newFd with
      | error e =>
        refine ⟨id, Local.id, fun map' hm => ?_⟩
        unfold AcceptSystemCall.updateFDTracking
        rw [hm, hr]
        simp only [if_pos hn]
        rfl
      | ok r =>
        have hfd : fdInfo.fd ∈ F := hk _ _ hf ▸ hs
        refine ⟨_, (htrack r.1 r.2).comp
          (local_updateFD { fdInfo with sockDomain := r.1, sockType := r.2 } hfd),
          fun map' hm => ?_⟩
        unfold AcceptSystemCall.updateFDTracking
        rw [hm, hr]
        simp only [if_pos hn]
    · refine ⟨_, htrack fdInfo.sockDomain fdInfo.sockType, fun map' hm => ?_⟩
      unfold AcceptSystemCall.updateFDTracking
      rw [hm]
      simp only [if_neg hn]

theorem local_trackFound (fdInfos : Except Exc (List FDInfo)) {fd : FileNum} (hfd : fd ∈ F) :
    LocalFDs F (trackFound fdInfos fd) := by
  unfold trackFound
  cases fdInfos with
  | error e => exact local_trackFD _ hfd
  | ok infos =>
    dsimp only
    cases hf : infos.find? (fun info => decide (info.fd = fd)) with
    | none => exact Local.id
    | some info =>
      have hi : info.fd = fd :=
        of_decide_eq_true (List.find?_some (p := fun info : FDInfo => decide (info.fd = fd)) hf)
      exact local_trackFD info (hi ▸ hfd)

theorem local_trackCopy (f : FDInfo → FDInfo) {old new : FileNum} (ho : old ∈ F) (hn : new ∈ F) :
    LocalFDs F (Creation.trackCopy f old new) := by
  refine Local.look ho fun map _ => ?_
  cases hf : map.find? old with
  | none =>
    refine ⟨id, Local.id, fun map' hm => ?_⟩
    unfold Creation.trackCopy
    rw [hm]
    rfl
  | some info =>
    refine ⟨_, local_trackFD { f info with fd := new } hn, fun map' hm => ?_⟩
    unfold Creation.trackCopy
    rw [hm]

theorem track_dup (hcall : c.call = .dup ∨ c.call = .dup2 ∨ c.call = .dup3) (map : FDInfoMap) :
    (c.track map).2 = Creation.trackCopy id (FileNum.ofWord (c.arg 0)) c.newFd map := by
  have hdup : (c.track map).2 =
      (DupSystemCall.filled c.call c.arg c.ret).updateFDTracking map := by
    unfold CallExit.track trackDup
    rcases hcall with hcall | hcall | hcall <;> rw [hcall]
  rw [hdup]
  rfl

theorem track_fcntl (hcall : c.call = .fcntl ∨ c.call = .fcntl64) (map : FDInfoMap) :
    (c.track map).2 = (FcntlSystemCall.filled c.arg c.ret).updateFDTracking map := by
  unfold CallExit.track trackDup
  rcases hcall with hcall | hcall <;> rw [hcall]

/-- `fcntl()` that makes a duplicate -/
theorem fcntl_duplicates {cloexec : Bool}
    (h : (FcntlOper.ofWord (c.arg 1)).duplicates = some cloexec) (map : FDInfoMap) :
    (FcntlSystemCall.filled c.arg c.ret).updateFDTracking map =
      Creation.trackCopy (if cloexec then FDInfo.setCloexec else FDInfo.resetCloexec)
        (FileNum.ofWord (c.arg 0)) c.newFd map := by
  have hop := Creation.fcntlOper_of_duplicates h
  unfold Creation.trackCopy CallExit.newFd
  cases cloexec with
  | false =>
    rw [filled_dupfd hop]
    unfold FcntlSystemCall.updateFDTracking
    dsimp only
    cases map.find? (FileNum.ofWord (c.arg 0)) <;> rfl
  | true =>
    rw [filled_dupfdCloexec hop]
    unfold FcntlSystemCall.updateFDTracking
    dsimp only
    cases map.find? (FileNum.ofWord (c.arg 0)) <;> rfl

end

/-- what `updateFDTracking()` does: the change of the map, the descriptors that are given, and those
that are recorded -/
inductive Tracking (c : CallExit) :
    (FDInfoMap → FDInfoMap) → List FileNum → List FileNum → Prop
  | nothing : Tracking c (fun map => map) [] []
  | record (info : FDInfo) : Tracking c (trackFD info) [] [info.fd]
  | pipe (fd fd' : FileNum) :
      Tracking c (PipeSystemCall.updateFDTracking fd fd') [] [fd, fd']
  | sockets (fds : List FileNum) (domain type : Word) :
      Tracking c (SocketPairSystemCall.updateFDTracking fds domain type) [] fds
  | accept (flags : Word) : c.call = .accept ∨ c.call = .accept4 →
      Tracking c (fun map => (AcceptSystemCall.updateFDTracking c.snatchSocket
        (FileNum.ofWord (c.arg 0)) c.newFd flags map).2) [FileNum.ofWord (c.arg 0)] [c.newFd]
  | found (fds : List FileNum) : c.call = .recvmsg ∨ c.call = .pidfdGetfd →
      Tracking c (fun map => fds.foldl (fun map fd => trackFound c.fdInfos fd map) map) [] fds
  | copy (f : FDInfo → FDInfo) : c.duplicates.isSome = true →
      Tracking c (Creation.trackCopy f (FileNum.ofWord (c.arg 0)) c.newFd)
        [FileNum.ofWord (c.arg 0)] [c.newFd]
  | setFlag : (FcntlOper.ofWord (c.arg 1)).duplicates = none →
      Tracking c (FcntlSystemCall.filled c.arg c.ret).updateFDTracking
        [FileNum.ofWord (c.arg 0)] []

theorem tracking_pipe (c : CallExit) (hc : c.call = .pipe ∨ c.call = .pipe2) :
    Tracking c (fun map => (c.track map).2) c.given c.recorded := by
  have hg : c.given = [] := by
    unfold given
    rcases hc with hc | hc <;> rw [hc]
  have hr : c.recorded = match c.readPair (c.arg 0) with
      | .ok ends => if c.arg 0 = 0 then [] else [ends.1, ends.2]
      | .error _ => [] := by
    unfold recorded
    rcases hc with hc | hc <;> rw [hc]
  rw [hg, hr]
  by_cases h0 : c.arg 0 = 0
  · have ht : (fun map => (c.track map).2) = fun map => map := by
      funext map
      rcases hc with hc | hc <;> simp only [track, hc, if_pos h0]
    rw [ht]
    cases c.readPair (c.arg 0) with
    | ok ends =>
      simp only [if_pos h0]
      exact Tracking.nothing
    | error e => exact Tracking.nothing
  · cases hp : c.readPair (c.arg 0) with
    | ok ends =>
      have ht : (fun map => (c.track map).2)
          = PipeSystemCall.updateFDTracking ends.1 ends.2 := by
        funext map
        rcases hc with hc | hc <;> simp only [track, hc, if_neg h0, hp]
      rw [ht]
      simp only [if_neg h0]
      exact Tracking.pipe ends.1 ends.2
    | error e =>
      have ht : (fun map => (c.track map).2) = fun map => map := by
        funext map
        rcases hc with hc | hc <;> simp only [track, hc, if_neg h0, hp] <;> split_ifs <;> rfl
      rw [ht]
      exact Tracking.nothing

theorem tracking_dup (c : CallExit) (hc : c.call = .dup ∨ c.call = .dup2 ∨ c.call = .dup3) :
    Tracking c (fun map => (c.track map).2) c.given c.recorded := by
  have hg : c.given = [FileNum.ofWord (c.arg 0)] := by
    unfold given
    rcases hc with hc | hc | hc <;> rw [hc]
  have hr : c.recorded = [c.newFd] := by
    unfold recorded
    rcases hc with hc | hc | hc <;> rw [hc]
  have hd : c.duplicates.isSome = true := by
    unfold duplicates
    rcases hc with hc | hc | hc <;> rw [hc] <;> rfl
  rw [hg, hr, funext (track_dup hc)]
  exact Tracking.copy id hd

theorem tracking_fcntl (c : CallExit) (hc : c.call = .fcntl ∨ c.call = .fcntl64) :
    Tracking c (fun map => (c.track map).2) c.given c.recorded := by
  have hg : c.given = [FileNum.ofWord (c.arg 0)] := by
    unfold given
    rcases hc with hc | hc <;> rw [hc]
  have hr : c.recorded
      = if (FcntlOper.ofWord (c.arg 1)).duplicates.isSome then [c.newFd] else [] := by
    unfold recorded
    rcases hc with hc | hc <;> rw [hc]
  rw [hg, hr, funext (track_fcntl hc)]
  cases hd : (FcntlOper.ofWord (c.arg 1)).duplicates with
  | none => exact Tracking.setFlag hd
  | some cloexec =>
    have hdup : c.duplicates.isSome = true := by
      unfold duplicates
      rcases hc with hc | hc <;> rw [hc] <;> exact Option.isSome_of_eq_some hd
    rw [funext (fcntl_duplicates hd)]
    exact Tracking.copy _ hdup

theorem tracking_clone3 (c : CallExit) (hc : c.call = .clone3) :
    Tracking c (fun map => (c.track map).2) c.given c.recorded := by
  unfold given recorded track
  rw [hc]
  dsimp only
  unfold CloneArgsItem.updateFDTracking
  cases c.clArgs.args with
  | none => exact Tracking.nothing
  | some args =>
    dsimp only
    rw [Option.any_some]
    cases args.flags.has CloneFlags.pidfd with
    | false => exact Tracking.nothing
    | true => exact Tracking.record { type := .pidFd, fd := c.clArgs.pidfd }

theorem tracking_getsockopt (c : CallExit) (hc : c.call = .getsockopt) :
    Tracking c (fun map => (c.track map).2) c.given c.recorded := by
  unfold given recorded track
  rw [hc]
  dsimp only
  cases c.optval with
  | error e => exact Tracking.nothing
  | ok val =>
    dsimp only
    unfold GetSockOptSystemCall.updateFDTracking
    cases isPeerPidfd (c.arg 1) (c.arg 2) with
    | false => cases val <;> exact Tracking.nothing
    | true =>
      cases val with
      | none => exact Tracking.nothing
      | some fd => exact Tracking.record _

/-- `signalfd()` and `signalfd4()` record what is no descriptor that was given -/
theorem tracking_signalfd (c : CallExit) (hc : c.call = .signalfd ∨ c.call = .signalfd4) :
    Tracking c (fun map => (c.track map).2) c.given c.recorded := by
  have hg : c.given = [] := by
    unfold given
    rcases hc with hc | hc <;> rw [hc]
  have hr : c.recorded = if FileNum.ofWord (c.arg 0) = c.newFd then [] else [c.newFd] := by
    unfold recorded
    rcases hc with hc | hc <;> rw [hc]
  rw [hg, hr]
  unfold track
  rcases hc with hc | hc
  · rw [hc]
    dsimp only
    unfold SignalFDSystemCall.updateFDTracking
    by_cases heq : FileNum.ofWord (c.arg 0) = c.newFd
    · simp only [if_pos heq]
      exact Tracking.nothing
    · simp only [if_neg heq]
      exact Tracking.record { type := .signalFd, fd := c.newFd }
  · rw [hc]
    dsimp only
    unfold SignalFD4SystemCall.updateFDTracking
    by_cases heq : FileNum.ofWord (c.arg 0) = c.newFd
    · simp only [if_pos heq]
      exact Tracking.nothing
    · simp only [if_neg heq]
      exact Tracking.record { type := .signalFd, fd := c.newFd, flags := _ }

/-- one of the kinds of changes is made by every system call but `close()` -/
theorem tracking (c : CallExit) (hclose : c.call ≠ .close) :
    Tracking c (fun map => (c.track map).2) c.given c.recorded := by
  by_cases hpipe : c.call = .pipe ∨ c.call = .pipe2
  · exact tracking_pipe c hpipe
  by_cases hdup : c.call = .dup ∨ c.call = .dup2 ∨ c.call = .dup3
  · exact tracking_dup c hdup
  by_cases hfcntl : c.call = .fcntl ∨ c.call = .fcntl64
  · exact tracking_fcntl c hfcntl
  by_cases hsignalfd : c.call = .signalfd ∨ c.call = .signalfd4
  · exact tracking_signalfd c hsignalfd
  by_cases hclone : c.call = .clone3
  · exact tracking_clone3 c hclone
  by_cases hopt : c.call = .getsockopt
  · exact tracking_getsockopt c hopt
  simp only [not_or] at hpipe hdup hfcntl hsignalfd
  unfold given recorded track
  generalize hc : c.call = nr at *
  cases nr with
  | pipe | pipe2 | dup | dup2 | dup3 | fcntl | fcntl64 | signalfd | signalfd4 | clone3 | getsockopt
  | close => simp at *
  | eventfd | eventfd2 | epollCreate | epollCreate1 | socket | pidfdOpen | «open» | openat =>
    exact Tracking.record _
  | accept => exact Tracking.accept 0 (Or.inl hc)
  | accept4 => exact Tracking.accept _ (Or.inr hc)
  | pidfdGetfd => exact Tracking.found [c.newFd] (Or.inr hc)
  | socketpair =>
    dsimp only
    cases c.readPair (c.arg 3) with
    | ok p => exact Tracking.sockets _ _ _
    | error e => exact Tracking.nothing
  | recvmsg =>
    dsimp only
    unfold RecvMsgSystemCall.updateFDTracking
    cases c.msg.rights with
    | some fds => exact Tracking.found fds (Or.inl hc)
    | none => exact Tracking.nothing
  | _ => exact Tracking.nothing

/-! ### the entries in use -/

section
variable {c : CallExit} {f : FDInfoMap → FDInfoMap} {given recorded : List FileNum}

theorem local_sockets {F : Set FileNum} {fds : List FileNum} (domain type : Word)
    (hF : ∀ fd ∈ fds, fd ∈ F) :
    LocalFDs F (SocketPairSystemCall.updateFDTracking fds domain type) :=
  Local.foldl fun fd hfd => local_trackFD _ (hF fd hfd)

/-- `fcntl(F_SETFD)` changes the entry of the descriptor it is given -/
theorem local_setfd (call : FcntlSystemCall) (hop : call.operation = .setfd) {F : Set FileNum}
    (hF : call.fd ∈ F) : LocalFDs F call.updateFDTracking := by
  refine Local.look hF fun map hK => ?_
  cases hf : map.find? call.fd with
  | none =>
    refine ⟨id, Local.id, fun map' hm => ?_⟩
    unfold FcntlSystemCall.updateFDTracking
    rw [hop, hm]
    rfl
  | some info =>
    have hkey : info.fd ∈ F := hK _ _ hf ▸ hF
    cases harg : call.fdFlagsArg with
    | none =>
      refine ⟨id, Local.id, fun map' hm => ?_⟩
      unfold FcntlSystemCall.updateFDTracking
      rw [hop, hm, harg]
      rfl
    | some cloexec =>
      cases cloexec with
      | true =>
        refine ⟨_, local_updateFD info.setCloexec hkey, fun map' hm => ?_⟩
        unfold FcntlSystemCall.updateFDTracking
        rw [hop, hm, harg]
      | false =>
        refine ⟨_, local_updateFD { info with
          flags := some (OpenFlags.reset (info.flags.getD 0) OpenFlags.cloexec) } hkey,
          fun map' hm => ?_⟩
        unfold FcntlSystemCall.updateFDTracking
        rw [hop, hm, harg]

/-- `fcntl()` that makes no duplicate -/
theorem local_setFlag (call : FcntlSystemCall) (hd : call.operation.duplicates = none)
    {F : Set FileNum} (hF : call.fd ∈ F) : LocalFDs F call.updateFDTracking := by
  cases hop : call.operation with
  | dupfd => rw [hop] at hd; cases hd
  | dupfdCloexec => rw [hop] at hd; cases hd
  | setfd => exact local_setfd call hop hF
  | other =>
    have heq : call.updateFDTracking = fun map => map := funext fun map => by
      unfold FcntlSystemCall.updateFDTracking
      rw [hop]
    exact heq ▸ Local.id

theorem Tracking.local (h : Tracking c f given recorded) :
    LocalFDs (fun fd => fd ∈ given ++ recorded) f := by
  cases h with
  | nothing => exact Local.id
  | record info => exact local_trackFD info (List.mem_singleton_self _)
  | pipe fd fd' =>
    unfold PipeSystemCall.updateFDTracking
    split_ifs
    · refine (local_trackFD _ ?_).comp (local_trackFD _ ?_)
      · exact List.mem_cons_of_mem _ (List.mem_singleton_self _)
      · exact List.mem_cons_self
    · exact Local.id
  | sockets fds domain type => exact local_sockets domain type fun fd hfd => hfd
  | accept flags =>
    exact local_accept flags List.mem_cons_self
      (List.mem_cons_of_mem _ (List.mem_singleton_self _))
  | found fds => exact Local.foldl fun fd hfd => local_trackFound c.fdInfos hfd
  | copy g =>
    exact local_trackCopy g List.mem_cons_self (List.mem_cons_of_mem _ (List.mem_singleton_self _))
  | setFlag hd => exact local_setFlag _ hd List.mem_cons_self

/-- an exit looks at and changes the entries in `touches` only -/
theorem local_updateFDTracking (c : CallExit) : LocalFDs c.touches c.updateFDTracking := by
  unfold updateFDTracking
  by_cases hclose : c.call = .close
  · simp only [if_pos hclose]
    refine local_dropFD (List.mem_append_left _ ?_)
    unfold CallExit.given
    rw [hclose]
    exact List.mem_singleton_self _
  · simp only [if_neg hclose]
    exact (tracking c hclose).local

end

end CallExit

/-! ## exits in another order -/

/-- an exit stop of a thread, with its place in the order in which the kernel finished the calls -/
structure ThreadExit where
  thread : ProcessID
  place : Nat
  exit : FDExit

theorem FDExit.local_apply (x : FDExit) : LocalFDs x.call.touches x.apply := by
  unfold FDExit.apply
  cases x.failed with
  | true => exact Local.id
  | false => exact x.call.local_updateFDTracking

/-- two exits concern the same descriptor, and none of them is an error -/
def ThreadExit.Dependent (a b : ThreadExit) : Prop :=
  a.exit.failed = false ∧ b.exit.failed = false ∧
    ∃ fd, fd ∈ a.exit.call.touches ∧ fd ∈ b.exit.call.touches

theorem apply_commute {a b : ThreadExit} (h : ¬ a.Dependent b) {map : FDInfoMap}
    (hK : Keyed map) : a.exit.apply (b.exit.apply map) = b.exit.apply (a.exit.apply map) := by
  have hfail : ∀ x : FDExit, x.failed = true → ∀ m, x.apply m = m := fun x hx m => by
    unfold FDExit.apply
    rw [hx]
    rfl
  cases ha : a.exit.failed with
  | true => rw [hfail _ ha, hfail _ ha]
  | false =>
    cases hb : b.exit.failed with
    | true => rw [hfail _ hb, hfail _ hb]
    | false =>
      have hdis : ∀ fd ∈ b.exit.call.touches, fd ∉ a.exit.call.touches :=
        fun fd hb' ha' => h ⟨ha, hb, fd, ha', hb'⟩
      exact Local.commute b.exit.local_apply a.exit.local_apply hdis
        (fun s t => OrdMap.ext_find) hK

/-- the exits of the threads of a process may be handled in another order than that in which the
kernel finished the calls, as long as calls for the same descriptor are not swapped -/
theorem foldl_exits_eq {finished handled : List ThreadExit}
    (h : KeepsOrder ThreadExit.Dependent finished handled) {map : FDInfoMap} (hK : Keyed map) :
    handled.foldl (fun map a => a.exit.apply map) map
      = finished.foldl (fun map a => a.exit.apply map) map :=
  foldl_eq_of_keepsOrder (I := Keyed) (fun m a hm => a.exit.local_apply.keeps m hm)
    (fun _ _ hdep _ hm => apply_commute hdep hm) h hK

end Clues
