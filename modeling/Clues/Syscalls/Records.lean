import Clues.Syscalls.Creating

/-!
# Records of new descriptors

* `linkType_anonLink`, `linkType_inodeLink`   the types of links;
* `agrees_record_iff`, `agrees_pair_iff`, `agrees_found_iff`   one record, two records, and records
  that are taken from `/proc`;
* one lemma for each system call, and `Creation.agrees_iff_fits` for all of them.
-/

namespace Clues

open Lib Lib.Digits

section
variable {fns : TextFns} {info : FDInfo} {map : FDInfoMap} {fd : FileNum} {d : KernelFd}

/-! ## what is compared -/

theorem testBit_creationFlags (cloexec nonblock : Bool) :
    (creationFlags cloexec nonblock).testBit OpenFlags.cloexec = cloexec ∧
      (creationFlags cloexec nonblock).testBit OpenFlags.nonblock = nonblock := by
  cases cloexec <;> cases nonblock <;> decide

theorem snap_creationFlags {cloexec nonblock : Bool}
    (h : info.flags = some (creationFlags cloexec nonblock)) :
    info.snap = ⟨info.type, cloexec, nonblock⟩ := by
  unfold FDInfo.snap FDInfo.hasFlag
  rw [h, Option.any_some, Option.any_some, (testBit_creationFlags _ _).1,
    (testBit_creationFlags _ _).2]

theorem snap_noFlags (h : info.flags = none) : info.snap = ⟨info.type, false, false⟩ := by
  unfold FDInfo.snap FDInfo.hasFlag
  rw [h]
  rfl

theorem map_type_parseTypeInfo (link : Text) (info : FDInfo) :
    (parseTypeInfo fns link info).map FDInfo.type = linkType fns link := by
  unfold linkType parseTypeInfo
  split_ifs with hpath
  · rfl
  · split
    · split_ifs with hanon
      · rfl
      · rw [Option.map_map, Option.map_map]
        rfl
    · rfl

theorem snap_info (fd : FileNum) (d : KernelFd) :
    (d.info fns fd).map FDInfo.snap = d.snap fns := by
  unfold KernelFd.info KernelFd.snap
  rw [← map_type_parseTypeInfo d.link { fd := fd }, Option.map_map, Option.map_map]
  apply congrArg (fun f => Option.map f _)
  funext info
  show (⟨info.type, (OpenFlags.ofRaw d.flags).testBit OpenFlags.cloexec,
    (OpenFlags.ofRaw d.flags).testBit OpenFlags.nonblock⟩ : Snap) = _
  rw [OpenFlags.testBit_ofRaw _ (by decide), OpenFlags.testBit_ofRaw _ (by decide)]
  rfl

/-! ### links -/

theorem linkType_path {link : Text} (h : link.head? = some '/') :
    linkType fns link = some .fsPath := by
  unfold linkType parseTypeInfo
  rw [if_pos h]
  rfl

theorem toFDInfoType_ne (type : String) : toFDInfoType type ≠ .fsPath := by
  unfold toFDInfoType
  split_ifs <;> decide

theorem linkType_ne {link : Text} (h : link.head? ≠ some '/') :
    linkType fns link ≠ some .fsPath := by
  unfold linkType parseTypeInfo
  rw [if_neg h]
  split
  · dsimp only
    split_ifs with hanon
    · intro heq
      exact toFDInfoType_ne _ (Option.some.inj heq)
    · intro heq
      rw [Option.map_map] at heq
      obtain ⟨inode, -, hi⟩ := Option.map_eq_some_iff.mp heq
      exact toFDInfoType_ne _ hi
  · intro heq
    cases heq

theorem linkType_split (hdoc : fns.Documented) {type : String} {rest : Text}
    (htype : ':' ∉ type.toList) (hne : type.toList ≠ []) (hslash : type.toList.head? ≠ some '/')
    (hopen : '[' ∉ rest) (hclose : ']' ∉ rest) :
    linkType fns (type.toList ++ ':' :: '[' :: rest ++ [']']) =
      if type = "anon_inode" then some (toFDInfoType (String.ofList rest))
      else (stoul rest).map fun _ => toFDInfoType type := by
  have hhead : (type.toList ++ ':' :: '[' :: rest ++ [']']).head? ≠ some '/' := by
    cases ht : type.toList with
    | nil => exact absurd ht hne
    | cons c s =>
      rw [ht] at hslash
      exact hslash
  have hsplit : fns.split (type.toList ++ ':' :: '[' :: rest ++ [']']) [':'] false 1 =
      [type.toList, '[' :: rest ++ [']']] := by
    rw [List.append_assoc]
    exact hdoc.split htype hne (List.cons_ne_nil _ _)
  unfold linkType parseTypeInfo
  rw [if_neg hhead, hsplit]
  dsimp only
  rw [hdoc.stripped hopen hclose, String.ofList_toList]
  split_ifs with hanon
  · rfl
  · rw [Option.map_map]
    rfl

theorem linkType_anonLink (hdoc : fns.Documented) {type : String} (hopen : '[' ∉ type.toList)
    (hclose : ']' ∉ type.toList) : linkType fns (anonLink type) = some (toFDInfoType type) := by
  unfold anonLink
  rw [linkType_split hdoc (by decide) (by decide) (by decide) hopen hclose, if_pos rfl,
    String.ofList_toList]

theorem linkType_inodeLink (hdoc : fns.Documented) {type : String} (htype : ':' ∉ type.toList)
    (hne : type.toList ≠ []) (hslash : type.toList.head? ≠ some '/') (hanon : type ≠ "anon_inode")
    (inode : UInt64) : linkType fns (inodeLink type inode) = some (toFDInfoType type) := by
  have hplain := toDigits_plain 10 (by decide) (by decide) inode.toNat
  unfold inodeLink
  rw [linkType_split hdoc htype hne hslash (fun hm => (hplain _ hm).2.2.1 rfl)
    (fun hm => (hplain _ hm).2.2.2.1 rfl), if_neg hanon, stoul_toDigits]
  rfl

theorem KernelFd.Is.snap {link : Text} {cloexec nonblock : Bool} (h : d.Is link cloexec nonblock)
    {type : FDType} (hl : linkType fns link = some type) :
    d.snap fns = some ⟨type, cloexec, nonblock⟩ := by
  unfold KernelFd.snap
  rw [h.link, hl, h.cloexec, h.nonblock]
  rfl

/-! ### maps -/

theorem find?_trackFD_self (hvalid : info.fd ≠ FileNum.invalid) (hfree : map.find? info.fd = none) :
    (trackFD info map).find? info.fd = some info := by
  rw [find?_trackFD hvalid, hfree, if_pos rfl]
  rfl

theorem find?_trackFD_ne (h : fd ≠ info.fd) : (trackFD info map).find? fd = map.find? fd := by
  unfold trackFD
  split_ifs
  · rfl
  · rw [OrdMap.find?_insert, if_neg h]

theorem find?_updateFD_ne (h : fd ≠ info.fd) : (updateFD info map).find? fd = map.find? fd := by
  unfold updateFD
  split
  · rw [OrdMap.find?_set, if_neg h]
  · rfl

end

/-! ## new descriptors -/

namespace Creation

variable {fns : TextFns} (k : Creation fns)

theorem snapshot (fd : FileNum) (hdoc : fns.Documented) :
    ((initialMap (getFDInfos fns k.dir')).find? fd).map FDInfo.snap =
      (k.table'.find fd).bind (KernelFd.snap fns) := by
  rw [snapshot_eq hdoc k.shows, Option.map_bind]
  apply congrArg (fun f => Option.bind _ f)
  funext d
  exact snap_info fd d

/-- `/proc` shows what was created -/
theorem agrees_iff (hdoc : fns.Documented) : k.Agrees ↔ ∀ p ∈ k.created,
    ((k.exit.track k.map).2.find? p.1).map FDInfo.snap = p.2.snap fns := by
  have hp : ∀ p ∈ k.created, ((initialMap (getFDInfos fns k.dir')).find? p.1).map FDInfo.snap =
      p.2.snap fns := by
    intro p hp
    rw [k.snapshot p.1 hdoc, k.installed p hp, Option.bind_some]
  constructor
  · intro h p hm
    rw [h p hm, hp p hm]
  · intro h p hm
    rw [h p hm, hp p hm]

theorem valid {p : FileNum × KernelFd} (hp : p ∈ k.created) : p.1 ≠ FileNum.invalid := by
  intro heq
  have h0 := (k.table'.range (k.installed p hp)).1
  rw [heq] at h0
  exact absurd h0 (by decide)

theorem absent {p : FileNum × KernelFd} (hp : p ∈ k.created) (h : k.exit.replaces = false) :
    k.map.find? p.1 = none := by
  have hfree : k.table.find p.1 = none := by
    rcases k.fresh p hp with hf | hr
    · exact hf
    · rw [h] at hr
      cases hr
  have hm := k.agrees p.1
  rw [hfree] at hm
  exact Option.map_eq_none_iff.mp hm

/-- one descriptor, and one record for it -/
theorem agrees_single_iff (hdoc : fns.Documented) {fd : FileNum} {d : KernelFd} {info : FDInfo}
    (hc : k.created = [(fd, d)]) (hr : k.exit.replaces = false)
    (ht : (k.exit.track k.map).2 = trackFD info k.map) (hfd : info.fd = fd) :
    k.Agrees ↔ some info.snap = d.snap fns := by
  have hm : (fd, d) ∈ k.created := by
    rw [hc]
    exact List.mem_singleton_self _
  have hvalid := k.valid hm
  have hfree := k.absent hm hr
  rw [k.agrees_iff hdoc, hc, List.forall_mem_singleton, ht]
  dsimp only at hvalid hfree ⊢
  rw [← hfd] at hvalid hfree ⊢
  rw [find?_trackFD_self hvalid hfree, Option.map_some]

/-- the kernel's link and flags against the record -/
theorem agrees_record_iff (hdoc : fns.Documented) {fd : FileNum} {d : KernelFd} {info : FDInfo}
    (hc : k.created = [(fd, d)]) (hr : k.exit.replaces = false)
    (ht : (k.exit.track k.map).2 = trackFD info k.map) (hfd : info.fd = fd) {link : Text}
    {cloexec nonblock : Bool} (hd : d.Is link cloexec nonblock) {type : FDType}
    (hl : linkType fns link = some type) : k.Agrees ↔ info.snap = ⟨type, cloexec, nonblock⟩ := by
  rw [k.agrees_single_iff hdoc hc hr ht hfd, hd.snap hl, Option.some.injEq]

/-- one descriptor, and no record -/
theorem agrees_unrecorded_iff (hdoc : fns.Documented) (hr : k.exit.replaces = false)
    (ht : (k.exit.track k.map).2 = k.map) :
    k.Agrees ↔ ∀ p ∈ k.created, linkType fns p.2.link = none := by
  rw [k.agrees_iff hdoc, ht]
  apply forall₂_congr
  intro p hp
  rw [k.absent hp hr]
  unfold KernelFd.snap
  constructor
  · intro h
    exact Option.map_eq_none_iff.mp h.symm
  · intro h
    rw [h]
    rfl

/-! ### descriptors that are returned -/

theorem replaces_eq_false {nr : SystemCallNr} (h : k.exit.call = nr) (h2 : nr ≠ .dup2)
    (h3 : nr ≠ .dup3) : k.exit.replaces = false := by
  unfold CallExit.replaces
  rw [h, beq_eq_false_iff_ne.mpr h2, beq_eq_false_iff_ne.mpr h3]
  rfl

variable {k}

theorem agrees_eventfd (hdoc : fns.Documented) {d : KernelFd}
    (hcall : k.exit.call = .eventfd) (hc : k.created = [(k.exit.newFd, d)])
    (hd : d.Is (anonLink "eventfd") false false) : k.Agrees := by
  have ht : (k.exit.track k.map).2 = EventFDSystemCall.updateFDTracking k.exit.newFd k.map := by
    unfold CallExit.track
    rw [hcall]
  rw [k.agrees_record_iff hdoc hc (k.replaces_eq_false hcall (by decide) (by decide)) ht rfl hd
    (linkType_anonLink hdoc (by decide) (by decide)), snap_noFlags rfl]
  rfl

theorem agrees_eventfd2 (hdoc : fns.Documented) {d : KernelFd}
    (hcall : k.exit.call = .eventfd2) (hc : k.created = [(k.exit.newFd, d)])
    (hd : d.Is (anonLink "eventfd") (hasCloexec (k.exit.arg 1)) (hasNonblock (k.exit.arg 1))) :
    k.Agrees := by
  have ht : (k.exit.track k.map).2 =
      EventFD2SystemCall.updateFDTracking k.exit.newFd (k.exit.arg 1) k.map := by
    unfold CallExit.track
    rw [hcall]
  rw [k.agrees_record_iff hdoc hc (k.replaces_eq_false hcall (by decide) (by decide)) ht rfl hd
    (linkType_anonLink hdoc (by decide) (by decide)), snap_creationFlags rfl]
  rfl

/-- it is recorded as an event descriptor -/
theorem not_agrees_epollCreate (hdoc : fns.Documented) {d : KernelFd} {cloexec : Bool}
    (hcall : k.exit.call = .epollCreate ∨ k.exit.call = .epollCreate1)
    (hc : k.created = [(k.exit.newFd, d)]) (hd : d.Is (anonLink "eventpoll") cloexec false) :
    ¬ k.Agrees := by
  have ht : (k.exit.track k.map).2 =
      EPollCreateSystemCall.updateFDTracking k.exit.newFd k.map := by
    unfold CallExit.track
    rcases hcall with hcall | hcall
    · rw [hcall]
    · rw [hcall]
  have hr : k.exit.replaces = false := by
    rcases hcall with hcall | hcall
    · exact k.replaces_eq_false hcall (by decide) (by decide)
    · exact k.replaces_eq_false hcall (by decide) (by decide)
  rw [k.agrees_record_iff hdoc hc hr ht rfl hd (linkType_anonLink hdoc (by decide) (by decide))]
  intro h
  have htype : FDType.eventFd = toFDInfoType "eventpoll" := congrArg Snap.type h
  exact absurd htype (by decide)

/-- -1 is no descriptor -/
theorem newFd_ne {d : KernelFd} {fd : FileNum} (hfd : fd = -1)
    (hc : k.created = [(k.exit.newFd, d)]) : fd ≠ k.exit.newFd := by
  have hvalid := k.valid (p := (k.exit.newFd, d)) (by rw [hc]; exact List.mem_singleton_self _)
  intro heq
  exact hvalid (heq.symm.trans hfd)

theorem agrees_signalfd (hdoc : fns.Documented) {d : KernelFd}
    (hcall : k.exit.call = .signalfd) (hfd : FileNum.ofWord (k.exit.arg 0) = -1)
    (hc : k.created = [(k.exit.newFd, d)]) (hd : d.Is (anonLink "signalfd") false false) :
    k.Agrees := by
  have hne := newFd_ne hfd hc
  have ht : (k.exit.track k.map).2 =
      trackFD { type := .signalFd, fd := k.exit.newFd } k.map := by
    unfold CallExit.track
    rw [hcall]
    exact if_neg hne
  rw [k.agrees_record_iff hdoc hc (k.replaces_eq_false hcall (by decide) (by decide)) ht rfl hd
    (linkType_anonLink hdoc (by decide) (by decide)), snap_noFlags rfl]
  rfl

theorem agrees_signalfd4 (hdoc : fns.Documented) {d : KernelFd}
    (hcall : k.exit.call = .signalfd4) (hfd : FileNum.ofWord (k.exit.arg 0) = -1)
    (hc : k.created = [(k.exit.newFd, d)])
    (hd : d.Is (anonLink "signalfd") (hasCloexec (k.exit.arg 3)) (hasNonblock (k.exit.arg 3))) :
    k.Agrees := by
  have hne := newFd_ne hfd hc
  have ht : (k.exit.track k.map).2 =
      trackFD { type := .signalFd, fd := k.exit.newFd, flags := some (creationFlags
        (hasCloexec (k.exit.arg 3)) (hasNonblock (k.exit.arg 3))) } k.map := by
    unfold CallExit.track
    rw [hcall]
    exact if_neg hne
  rw [k.agrees_record_iff hdoc hc (k.replaces_eq_false hcall (by decide) (by decide)) ht rfl hd
    (linkType_anonLink hdoc (by decide) (by decide)), snap_creationFlags rfl]
  rfl

theorem linkType_socket (hdoc : fns.Documented) (inode : UInt64) :
    linkType fns (inodeLink "socket" inode) = some .socket :=
  linkType_inodeLink hdoc (by decide) (by decide) (by decide) (by decide) inode

theorem agrees_socket (hdoc : fns.Documented) {d : KernelFd} {inode : UInt64}
    (hcall : k.exit.call = .socket) (hc : k.created = [(k.exit.newFd, d)])
    (hd : d.Is (inodeLink "socket" inode) (hasCloexec (k.exit.arg 1))
      (hasNonblock (k.exit.arg 1))) : k.Agrees := by
  have ht : (k.exit.track k.map).2 = SocketSystemCall.updateFDTracking k.exit.newFd
      (k.exit.arg 0) (k.exit.arg 1) k.map := by
    unfold CallExit.track
    rw [hcall]
  rw [k.agrees_record_iff hdoc hc (k.replaces_eq_false hcall (by decide) (by decide)) ht rfl hd
    (linkType_socket hdoc inode), snap_creationFlags rfl]
  rfl

/-- the kernel always sets `FD_CLOEXEC` -/
theorem not_agrees_pidfdOpen (hdoc : fns.Documented) {d : KernelFd} {nonblock : Bool}
    (hcall : k.exit.call = .pidfdOpen) (hc : k.created = [(k.exit.newFd, d)])
    (hd : d.Is (anonLink "pidfd") true nonblock) : ¬ k.Agrees := by
  have ht : (k.exit.track k.map).2 =
      PIDFDOpenSystemCall.updateFDTracking k.exit.newFd (k.exit.arg 1) k.map := by
    unfold CallExit.track
    rw [hcall]
  rw [k.agrees_record_iff hdoc hc (k.replaces_eq_false hcall (by decide) (by decide)) ht rfl hd
    (linkType_anonLink hdoc (by decide) (by decide))]
  intro h
  have hcloexec := congrArg Snap.cloexec h
  unfold FDInfo.snap FDInfo.hasFlag at hcloexec
  dsimp only at hcloexec
  split_ifs at hcloexec
  · exact absurd hcloexec (by decide)
  · exact absurd hcloexec (by decide)

/-! ### accepted sockets -/

/-- an info for the new socket is found if nothing went wrong -/
theorem find?_accept {snatch : FileNum → Except Errno (Option Int × Option Int)}
    {sockfd newFd : FileNum} {map : FDInfoMap} (flags : Word) (hvalid : newFd ≠ FileNum.invalid)
    (hfree : map.find? newFd = none)
    (hknown : (∃ info, map.find? sockfd = some info ∧ info.sockDomain.isSome ∧
      info.sockType.isSome) ∨ ∃ r, snatch newFd = .ok r) :
    ∃ domain type, (AcceptSystemCall.updateFDTracking snatch sockfd newFd flags map).2.find? newFd =
      some (makeSocketInfo newFd flags domain type) := by
  have hself : ∀ map' : FDInfoMap, map'.find? newFd = none → ∀ domain type,
      (trackFD (makeSocketInfo newFd flags domain type) map').find? newFd =
        some (makeSocketInfo newFd flags domain type) := by
    intro map' hm domain type
    have hkey : (makeSocketInfo newFd flags domain type).fd = newFd := rfl
    rw [← hkey] at hvalid hm ⊢
    exact find?_trackFD_self hvalid hm
  unfold AcceptSystemCall.updateFDTracking
  cases hs : map.find? sockfd with
  | none =>
    rcases hknown with ⟨info, hi, -⟩ | ⟨r, hr⟩
    · rw [hs] at hi
      cases hi
    · rw [hr]
      exact ⟨r.1, r.2, hself map hfree r.1 r.2⟩
  | some info =>
    dsimp only
    split_ifs with hmissing
    · rcases hknown with ⟨info', hi, hd, ht⟩ | ⟨r, hr⟩
      · rw [hs] at hi
        obtain rfl := Option.some.inj hi
        rw [Option.isNone_eq_false_iff.mpr hd, Option.isNone_eq_false_iff.mpr ht] at hmissing
        cases hmissing
      · rw [hr]
        refine ⟨r.1, r.2, hself _ ?_ r.1 r.2⟩
        by_cases hk : newFd = info.fd
        · unfold updateFD
          dsimp only
          rw [← hk, hfree]
          exact hfree
        · have hkey : newFd ≠ ({ info with sockDomain := r.1, sockType := r.2 } : FDInfo).fd := hk
          rw [find?_updateFD_ne hkey]
          exact hfree
    · exact ⟨_, _, hself map hfree _ _⟩

theorem accept_unknown {snatch : FileNum → Except Errno (Option Int × Option Int)}
    {sockfd newFd : FileNum} {map : FDInfoMap} (flags : Word)
    (hunknown : ¬ ((∃ info, map.find? sockfd = some info ∧ info.sockDomain.isSome ∧
      info.sockType.isSome) ∨ ∃ r, snatch newFd = .ok r)) :
    (AcceptSystemCall.updateFDTracking snatch sockfd newFd flags map).2 = map := by
  obtain ⟨hmissing, hfail⟩ := not_or.mp hunknown
  have herr : ∃ e, snatch newFd = .error e := by
    cases hr : snatch newFd with
    | error e => exact ⟨e, rfl⟩
    | ok r => exact absurd ⟨r, hr⟩ hfail
  obtain ⟨e, he⟩ := herr
  unfold AcceptSystemCall.updateFDTracking
  rw [he]
  cases hs : map.find? sockfd with
  | none => rfl
  | some info =>
    have hor : (info.sockDomain.isNone || info.sockType.isNone) = true := by
      cases hd : info.sockDomain with
      | none => rfl
      | some domain =>
        cases ht : info.sockType with
        | none => rfl
        | some type =>
          exfalso
          exact hmissing ⟨info, hs, by rw [hd]; rfl, by rw [ht]; rfl⟩
    dsimp only
    rw [if_pos hor]

theorem agrees_accept_iff (hdoc : fns.Documented) {d : KernelFd} {inode : UInt64} {flags : Word}
    (hr : k.exit.replaces = false) (hc : k.created = [(k.exit.newFd, d)])
    (ht : k.exit.track k.map = AcceptSystemCall.updateFDTracking k.exit.snatchSocket
      (FileNum.ofWord (k.exit.arg 0)) k.exit.newFd flags k.map)
    (hd : d.Is (inodeLink "socket" inode) (hasCloexec flags) (hasNonblock flags)) :
    k.Agrees ↔ k.Known := by
  have hm : (k.exit.newFd, d) ∈ k.created := by
    rw [hc]
    exact List.mem_singleton_self _
  have hsnap := hd.snap (linkType_socket hdoc inode)
  rw [k.agrees_iff hdoc, hc, List.forall_mem_singleton, ht, hsnap]
  by_cases hk : k.Known
  · obtain ⟨domain, type, hf⟩ := find?_accept flags (k.valid hm) (k.absent hm hr) hk
    apply iff_of_true _ hk
    rw [hf, Option.map_some, snap_creationFlags rfl]
    rfl
  · apply iff_of_false _ hk
    rw [accept_unknown flags hk, k.absent hm hr]
    intro h
    cases h

/-! ### opened files -/

theorem agrees_open_iff (hdoc : fns.Documented) {d : KernelFd} {flags : Word}
    (hr : k.exit.replaces = false) (hc : k.created = [(k.exit.newFd, d)])
    (ht : (k.exit.track k.map).2 =
      OpenSystemCall.updateFDTracking k.exit.filename k.exit.newFd flags k.map)
    (hd : d.cloexec = hasCloexec flags) : k.Agrees ↔ k.OpenFits flags := by
  have hbit : ∀ i, 2 ≤ i → i < 32 →
      (OpenFlags.ofRaw (flags.toNat % 2 ^ 32)).testBit i = flags.toNat.testBit i := by
    intro i h2 h32
    rw [OpenFlags.testBit_ofRaw _ h2, Nat.testBit_mod_two_pow, decide_eq_true h32, Bool.true_and]
  have hsnap : ({ type := .fsPath, fd := k.exit.newFd, path := k.exit.filename
                  mode := some (OpenMode.ofRaw (flags.toNat % 2 ^ 32))
                  flags := some (OpenFlags.ofRaw (flags.toNat % 2 ^ 32)) } : FDInfo).snap =
      ⟨.fsPath, hasCloexec flags, hasNonblock flags⟩ := by
    unfold FDInfo.snap FDInfo.hasFlag
    rw [Option.any_some, Option.any_some, hbit _ (by decide) (by decide),
      hbit _ (by decide) (by decide)]
    rfl
  rw [k.agrees_single_iff hdoc hc hr ht rfl, hsnap]
  unfold OpenFits KernelFd.snap
  rw [hc, List.forall_mem_singleton, hd]
  dsimp only
  by_cases hp : d.link.head? = some '/'
  · rw [linkType_path hp, Option.map_some, Option.some.injEq, Snap.mk.injEq]
    constructor
    · intro h
      exact ⟨hp, h.2.2.symm⟩
    · intro h
      exact ⟨rfl, rfl, h.2.symm⟩
  · apply iff_of_false
    · intro h
      obtain ⟨type, hl, heq⟩ := Option.map_eq_some_iff.mp h.symm
      apply @linkType_ne fns _ hp
      have htype : type = .fsPath := congrArg Snap.type heq
      rw [hl, htype]
    · intro h
      exact hp h.1

/-! ### two descriptors -/

theorem agrees_pair_iff (hdoc : fns.Documented) {fd fd' : FileNum} {d d' : KernelFd}
    {info info' : FDInfo} (hc : k.created = [(fd, d), (fd', d')]) (hr : k.exit.replaces = false)
    (ht : (k.exit.track k.map).2 = trackFD info' (trackFD info k.map)) (hfd : info.fd = fd)
    (hfd' : info'.fd = fd') :
    k.Agrees ↔ some info.snap = d.snap fns ∧ some info'.snap = d'.snap fns := by
  have hm : (fd, d) ∈ k.created := by
    rw [hc]
    exact List.mem_cons_self
  have hm' : (fd', d') ∈ k.created := by
    rw [hc]
    exact List.mem_cons_of_mem _ List.mem_cons_self
  have hne : fd ≠ fd' := by
    have hnodup := k.nodup
    rw [hc] at hnodup
    intro heq
    exact (List.nodup_cons.mp hnodup).1 (by rw [heq]; exact List.mem_singleton_self _)
  have hfind : (trackFD info k.map).find? fd = some info := by
    have hvalid := k.valid hm
    have hfree := k.absent hm hr
    rw [← hfd] at hvalid hfree ⊢
    exact find?_trackFD_self hvalid hfree
  have hfind' : (trackFD info' (trackFD info k.map)).find? fd' = some info' := by
    have hvalid := k.valid hm'
    have hfree : (trackFD info k.map).find? fd' = none := by
      rw [find?_trackFD_ne (by rw [hfd]; exact hne.symm)]
      exact k.absent hm' hr
    rw [← hfd'] at hvalid hfree ⊢
    exact find?_trackFD_self hvalid hfree
  rw [k.agrees_iff hdoc, hc, List.forall_mem_cons, List.forall_mem_singleton, ht]
  dsimp only
  rw [find?_trackFD_ne (by rw [hfd']; exact hne), hfind, hfind', Option.map_some, Option.map_some]

theorem linkType_pipe (hdoc : fns.Documented) (inode : UInt64) :
    linkType fns (inodeLink "pipe" inode) = some .pipe :=
  linkType_inodeLink hdoc (by decide) (by decide) (by decide) (by decide) inode

/-- the flags of `pipe2()` are not recorded -/
theorem agrees_pipe_iff (hdoc : fns.Documented) {fd fd' : FileNum} {d d' : KernelFd}
    {inode : UInt64} {cloexec nonblock : Bool} (hcall : k.exit.call = .pipe ∨ k.exit.call = .pipe2)
    (hptr : k.exit.arg 0 ≠ 0) (hread : k.exit.readPair (k.exit.arg 0) = .ok (fd, fd'))
    (hc : k.created = [(fd, d), (fd', d')]) (hd : d.Is (inodeLink "pipe" inode) cloexec nonblock)
    (hd' : d'.Is (inodeLink "pipe" inode) cloexec nonblock) :
    k.Agrees ↔ cloexec = false ∧ nonblock = false := by
  have hvalid : fd ≠ FileNum.invalid := by
    apply k.valid (p := (fd, d))
    rw [hc]
    exact List.mem_cons_self
  have hvalid' : fd' ≠ FileNum.invalid := by
    apply k.valid (p := (fd', d'))
    rw [hc]
    exact List.mem_cons_of_mem _ List.mem_cons_self
  have htrack : k.exit.track k.map =
      (.ok (), PipeSystemCall.updateFDTracking fd fd' k.map) := by
    unfold CallExit.track
    rcases hcall with hcall | hcall
    · rw [hcall]
      dsimp only
      rw [if_neg hptr, hread]
    · rw [hcall]
      dsimp only
      rw [if_neg hptr, hread]
  have ht : (k.exit.track k.map).2 =
      trackFD { type := .pipe, fd := fd', mode := some .writeOnly }
        (trackFD { type := .pipe, fd := fd, mode := some .readOnly } k.map) := by
    rw [htrack]
    exact if_pos ⟨hvalid, hvalid'⟩
  have hr : k.exit.replaces = false := by
    rcases hcall with hcall | hcall
    · exact k.replaces_eq_false hcall (by decide) (by decide)
    · exact k.replaces_eq_false hcall (by decide) (by decide)
  rw [agrees_pair_iff hdoc hc hr ht rfl rfl, snap_noFlags rfl, snap_noFlags rfl,
    hd.snap (linkType_pipe hdoc inode), hd'.snap (linkType_pipe hdoc inode), and_self,
    Option.some.injEq, Snap.mk.injEq]
  constructor
  · intro h
    exact ⟨h.2.1.symm, h.2.2.symm⟩
  · intro h
    exact ⟨rfl, h.1.symm, h.2.symm⟩

/-- a descriptor 0 ends the vector that is read -/
theorem agrees_socketpair_iff (hdoc : fns.Documented) {fd fd' : FileNum} {d d' : KernelFd}
    {inode : UInt64} (hcall : k.exit.call = .socketpair)
    (hread : k.exit.readPair (k.exit.arg 3) = .ok (fd, fd'))
    (hc : k.created = [(fd, d), (fd', d')])
    (hd : d.Is (inodeLink "socket" inode) (hasCloexec (k.exit.arg 1)) (hasNonblock (k.exit.arg 1)))
    (hd' : d'.Is (inodeLink "socket" inode) (hasCloexec (k.exit.arg 1))
      (hasNonblock (k.exit.arg 1))) :
    k.Agrees ↔ ∀ p ∈ k.created, p.1 ≠ 0 := by
  have hr := k.replaces_eq_false hcall (by decide) (by decide)
  have hsnap := hd.snap (linkType_socket hdoc inode)
  have hsnap' := hd'.snap (linkType_socket hdoc inode)
  have htrack : k.exit.track k.map = (.ok (), SocketPairSystemCall.updateFDTracking
      (socketPair fd fd') (k.exit.arg 0) (k.exit.arg 1) k.map) := by
    unfold CallExit.track
    rw [hcall]
    dsimp only
    rw [hread]
  have hinvalid : ∀ map, SocketSystemCall.updateFDTracking FileNum.invalid (k.exit.arg 0)
      (k.exit.arg 1) map = map := by
    intro map
    unfold SocketSystemCall.updateFDTracking trackFD makeSocketInfo
    rw [if_pos rfl]
  by_cases h0 : fd = 0
  · have ht : (k.exit.track k.map).2 = k.map := by
      rw [htrack]
      unfold socketPair SocketPairSystemCall.updateFDTracking
      rw [if_pos h0, List.foldl_cons, List.foldl_cons, List.foldl_nil, hinvalid, hinvalid]
    rw [k.agrees_unrecorded_iff hdoc hr ht, hc, List.forall_mem_cons, List.forall_mem_cons]
    apply iff_of_false
    · intro h
      have hl := h.1
      dsimp only at hl
      rw [hd.link, linkType_socket hdoc] at hl
      cases hl
    · intro h
      exact h _ List.mem_cons_self h0
  · by_cases h0' : fd' = 0
    · have ht : (k.exit.track k.map).2 =
          SocketSystemCall.updateFDTracking fd (k.exit.arg 0) (k.exit.arg 1) k.map := by
        rw [htrack]
        unfold socketPair SocketPairSystemCall.updateFDTracking
        rw [if_neg h0, if_pos h0', List.foldl_cons, List.foldl_cons, List.foldl_nil, hinvalid]
      have hm' : (fd', d') ∈ k.created := by
        rw [hc]
        exact List.mem_cons_of_mem _ List.mem_cons_self
      have hne : fd' ≠ fd := by
        intro heq
        exact h0 (heq.symm.trans h0')
      apply iff_of_false
      · intro h
        have hagree := (k.agrees_iff hdoc).mp h _ hm'
        have hkeep : (SocketSystemCall.updateFDTracking fd (k.exit.arg 0) (k.exit.arg 1)
            k.map).find? fd' = k.map.find? fd' := find?_trackFD_ne hne
        rw [ht] at hagree
        dsimp only at hagree
        rw [hkeep, k.absent hm' hr, hsnap'] at hagree
        cases hagree
      · intro h
        exact h _ hm' h0'
    · have ht : (k.exit.track k.map).2 =
          SocketSystemCall.updateFDTracking fd' (k.exit.arg 0) (k.exit.arg 1)
            (SocketSystemCall.updateFDTracking fd (k.exit.arg 0) (k.exit.arg 1) k.map) := by
        rw [htrack]
        unfold socketPair SocketPairSystemCall.updateFDTracking
        rw [if_neg h0, if_neg h0', List.foldl_cons, List.foldl_cons, List.foldl_nil]
      rw [agrees_pair_iff hdoc hc hr ht rfl rfl, hsnap, hsnap', snap_creationFlags rfl,
        snap_creationFlags rfl, hc]
      apply iff_of_true
      · exact ⟨rfl, rfl⟩
      · intro p hp
        rcases List.mem_cons.mp hp with rfl | hp
        · exact h0
        · rw [List.mem_singleton.mp hp]
          exact h0'

/-! ### descriptors for processes -/

theorem agrees_peerPidfd_iff (hdoc : fns.Documented) {fd : FileNum} {d : KernelFd}
    (hcall : k.exit.call = .getsockopt)
    (hpeer : isPeerPidfd (k.exit.arg 1) (k.exit.arg 2) = true)
    (hval : ∀ val, k.exit.optval = .ok (some val) → val = fd) (hc : k.created = [(fd, d)])
    (hd : d.Is (anonLink "pidfd") true false) :
    k.Agrees ↔ ∃ val, k.exit.optval = .ok (some val) := by
  have hr := k.replaces_eq_false hcall (by decide) (by decide)
  have hl : linkType fns (anonLink "pidfd") = some .pidFd :=
    linkType_anonLink hdoc (by decide) (by decide)
  by_cases hv : ∃ val, k.exit.optval = .ok (some val)
  · obtain ⟨val, hval'⟩ := hv
    have ht : (k.exit.track k.map).2 = trackFD
        { type := .pidFd, fd := val, mode := some .readWrite, flags := some (2 ^ OpenFlags.cloexec) }
        k.map := by
      unfold CallExit.track GetSockOptSystemCall.updateFDTracking
      rw [hcall]
      dsimp only
      rw [hval']
      dsimp only
      rw [if_pos hpeer]
    apply iff_of_true _ ⟨val, hval'⟩
    rw [k.agrees_record_iff hdoc hc hr ht (hval val hval') hd hl]
    rfl
  · have ht : (k.exit.track k.map).2 = k.map := by
      unfold CallExit.track GetSockOptSystemCall.updateFDTracking
      rw [hcall]
      dsimp only
      cases ho : k.exit.optval with
      | error e => rfl
      | ok val =>
        cases val with
        | none =>
          dsimp only
          rw [if_pos hpeer]
        | some val => exact absurd ⟨val, ho⟩ hv
    apply iff_of_false _ hv
    rw [k.agrees_unrecorded_iff hdoc hr ht, hc, List.forall_mem_singleton]
    dsimp only
    rw [hd.link, hl]
    intro h
    cases h

/-- the flag `FD_CLOEXEC` is never recorded -/
theorem not_agrees_clone3 (hdoc : fns.Documented) {fd : FileNum} {d : KernelFd}
    (hcall : k.exit.call = .clone3) (hc : k.created = [(fd, d)])
    (hd : d.Is (anonLink "pidfd") true false) : ¬ k.Agrees := by
  have hr := k.replaces_eq_false hcall (by decide) (by decide)
  have hm : (fd, d) ∈ k.created := by
    rw [hc]
    exact List.mem_singleton_self _
  have hl : linkType fns (anonLink "pidfd") = some .pidFd :=
    linkType_anonLink hdoc (by decide) (by decide)
  have ht : (k.exit.track k.map).2 = k.exit.clArgs.updateFDTracking k.map := by
    unfold CallExit.track
    rw [hcall]
  have hcases : (k.exit.track k.map).2 = k.map ∨
      (k.exit.track k.map).2 = trackFD { type := .pidFd, fd := k.exit.clArgs.pidfd } k.map := by
    rw [ht]
    unfold CloneArgsItem.updateFDTracking
    split
    · exact Or.inl rfl
    · split_ifs
      · exact Or.inr rfl
      · exact Or.inl rfl
  rcases hcases with hkeep | hrecord
  · rw [k.agrees_unrecorded_iff hdoc hr hkeep, hc, List.forall_mem_singleton]
    dsimp only
    rw [hd.link, hl]
    intro h
    cases h
  · by_cases hfd : k.exit.clArgs.pidfd = fd
    · rw [k.agrees_record_iff hdoc hc hr hrecord hfd hd hl, snap_noFlags rfl]
      intro h
      cases h
    · intro h
      have hagree := (k.agrees_iff hdoc).mp h _ hm
      rw [hrecord] at hagree
      dsimp only at hagree
      rw [find?_trackFD_ne (fun heq => hfd heq.symm), k.absent hm hr, hd.snap hl] at hagree
      cases hagree

/-! ### descriptors that `/proc` is searched for -/

theorem find?_trackFound {infos : List FDInfo} {fd : FileNum} (map : FDInfoMap) (q : FileNum)
    (hq : q ≠ FileNum.invalid) : (trackFound (.ok infos) fd map).find? q =
      (map.find? q).or (if q = fd then infos.find? fun info => info.fd = q else none) := by
  unfold trackFound
  dsimp only
  by_cases hqf : q = fd
  · rw [if_pos hqf, ← hqf]
    cases hf : infos.find? (fun info => decide (info.fd = q)) with
    | none => rw [Option.or_none]
    | some info =>
      have hfd : info.fd = q :=
        of_decide_eq_true (List.find?_some (p := fun info : FDInfo => decide (info.fd = q)) hf)
      dsimp only
      unfold trackFD
      rw [hfd, if_neg hq, OrdMap.find?_insert, if_pos rfl]
      cases map.find? q <;> rfl
  · rw [if_neg hqf, Option.or_none]
    cases hf : infos.find? (fun info => decide (info.fd = fd)) with
    | none => rfl
    | some info =>
      have hfd : info.fd = fd :=
        of_decide_eq_true (List.find?_some (p := fun info : FDInfo => decide (info.fd = fd)) hf)
      dsimp only
      exact find?_trackFD_ne (by rw [hfd]; exact hqf)

theorem find?_foldl_trackFound {infos : List FDInfo} (fds : List FileNum) (map : FDInfoMap)
    (q : FileNum) (hq : q ≠ FileNum.invalid) :
    (fds.foldl (fun map fd => trackFound (.ok infos) fd map) map).find? q =
      (map.find? q).or (if q ∈ fds then infos.find? fun info => info.fd = q else none) := by
  induction fds generalizing map with
  | nil => rw [List.foldl_nil, if_neg List.not_mem_nil, Option.or_none]
  | cons fd fds ih =>
    rw [List.foldl_cons, ih, find?_trackFound map q hq, Option.or_assoc]
    by_cases hqf : q = fd
    · have hmem : q ∈ fd :: fds := by
        rw [hqf]
        exact List.mem_cons_self
      rw [if_pos hqf, if_pos hmem]
      cases infos.find? (fun info => decide (info.fd = q)) with
      | none => split_ifs <;> rfl
      | some info => rfl
    · rw [if_neg hqf, Option.none_or]
      by_cases hm : q ∈ fds
      · rw [if_pos hm, if_pos (List.mem_cons_of_mem _ hm)]
      · have hm' : q ∉ fd :: fds := by
          intro hmem
          rcases List.mem_cons.mp hmem with heq | hmem
          · exact hqf heq
          · exact hm hmem
        rw [if_neg hm, if_neg hm']

/-- the first info is the one the snapshot keeps -/
theorem find?_initialMap (infos : List FDInfo) (fd : FileNum) :
    (initialMap infos).find? fd = infos.find? fun info => info.fd = fd := by
  unfold initialMap
  rw [find?_foldl_insert, OrdMap.find?_empty, Option.none_or]

theorem agrees_found_iff (hdoc : fns.Documented) (hr : k.exit.replaces = false)
    {fds : List FileNum} (ht : (k.exit.track k.map).2 =
      fds.foldl (fun map fd => trackFound k.exit.fdInfos fd map) k.map) :
    k.Agrees ↔ ∀ p ∈ k.created, p.1 ∈ fds ∨ linkType fns p.2.link = none := by
  rw [k.agrees_iff hdoc, ht, k.fdInfos]
  apply forall₂_congr
  intro p hp
  have hsnap := k.snapshot p.1 hdoc
  rw [find?_initialMap, k.installed p hp, Option.bind_some] at hsnap
  rw [find?_foldl_trackFound fds k.map p.1 (k.valid hp), k.absent hp hr, Option.none_or]
  by_cases hm : p.1 ∈ fds
  · rw [if_pos hm, hsnap]
    exact iff_of_true rfl (Or.inl hm)
  · rw [if_neg hm, or_iff_right hm]
    unfold KernelFd.snap
    constructor
    · intro h
      exact Option.map_eq_none_iff.mp h.symm
    · intro h
      rw [h]
      rfl

theorem agrees_recvmsg_iff (hdoc : fns.Documented) (hcall : k.exit.call = .recvmsg) : k.Agrees ↔
    ∀ p ∈ k.created, p.1 ∈ k.exit.msg.rights.getD [] ∨ linkType fns p.2.link = none := by
  apply agrees_found_iff hdoc (k.replaces_eq_false hcall (by decide) (by decide))
  unfold CallExit.track RecvMsgSystemCall.updateFDTracking
  rw [hcall]
  dsimp only
  cases k.exit.msg.rights with
  | none => rfl
  | some fds => rfl

theorem agrees_pidfdGetfd (hdoc : fns.Documented) {d : KernelFd}
    (hcall : k.exit.call = .pidfdGetfd) (hc : k.created = [(k.exit.newFd, d)]) : k.Agrees := by
  have ht : (k.exit.track k.map).2 =
      [k.exit.newFd].foldl (fun map fd => trackFound k.exit.fdInfos fd map) k.map := by
    unfold CallExit.track
    rw [hcall]
    rfl
  rw [agrees_found_iff hdoc (k.replaces_eq_false hcall (by decide) (by decide)) ht, hc,
    List.forall_mem_singleton]
  exact Or.inl (List.mem_singleton_self _)

/-! ### duplicates -/

theorem snap_cloexec (info : FDInfo) :
    info.resetCloexec.snap = { info.snap with cloexec := false } ∧
      info.setCloexec.snap = { info.snap with cloexec := true } := by
  have hne : decide (OpenFlags.cloexec = OpenFlags.nonblock) = false := by decide
  constructor
  · unfold FDInfo.resetCloexec FDInfo.snap FDInfo.hasFlag
    cases info.flags with
    | none => rfl
    | some flags =>
      rw [Option.map_some, Option.any_some, Option.any_some, Option.any_some,
        OpenFlags.testBit_reset, OpenFlags.testBit_reset, hne, decide_eq_true rfl]
      simp
  · unfold FDInfo.setCloexec FDInfo.snap FDInfo.hasFlag
    rw [Option.any_some, Option.any_some, OpenFlags.testBit_set, OpenFlags.testBit_set, hne,
      decide_eq_true rfl]
    cases info.flags with
    | none => simp
    | some flags => simp

/-- a changed copy of an entry under another number -/
def trackCopy (f : FDInfo → FDInfo) (old new : FileNum) (map : FDInfoMap) : FDInfoMap :=
  match map.find? old with
  | none => map
  | some info => trackFD { f info with fd := new } map

theorem find?_trackCopy (f : FDInfo → FDInfo) (old : FileNum) {new : FileNum} (map : FDInfoMap)
    (hvalid : new ≠ FileNum.invalid) :
    ((trackCopy f old new map).find? new).map FDInfo.snap =
      ((map.find? new).map FDInfo.snap).or ((map.find? old).map fun info => (f info).snap) := by
  unfold trackCopy
  cases hs : map.find? old with
  | none => rw [Option.map_none, Option.or_none]
  | some info =>
    dsimp only
    unfold trackFD
    rw [if_neg hvalid, OrdMap.find?_insert, if_pos rfl]
    cases map.find? new <;> rfl

theorem track_dup (hcall : k.exit.call = .dup ∨ k.exit.call = .dup2 ∨ k.exit.call = .dup3) :
    (k.exit.track k.map).2 =
      trackCopy id (FileNum.ofWord (k.exit.arg 0)) k.exit.newFd k.map := by
  have hdup : (k.exit.track k.map).2 =
      (DupSystemCall.filled k.exit.call k.exit.arg k.exit.ret).updateFDTracking k.map := by
    unfold CallExit.track trackDup
    rcases hcall with hcall | hcall | hcall
    · rw [hcall]
    · rw [hcall]
    · rw [hcall]
  rw [hdup]
  unfold DupSystemCall.updateFDTracking DupSystemCall.filled CallExit.newFd trackCopy
  rfl

/-- an entry for the result is there already, or it is that of the source -/
theorem agrees_copied_iff (hdoc : fns.Documented) {d : KernelFd}
    (hcall : k.exit.call = .dup ∨ k.exit.call = .dup2 ∨ k.exit.call = .dup3)
    (hc : k.created = [(k.exit.newFd, d)]) : k.Agrees ↔ k.DupFits := by
  have hm : (k.exit.newFd, d) ∈ k.created := by
    rw [hc]
    exact List.mem_singleton_self _
  have hfind := find?_trackCopy id (FileNum.ofWord (k.exit.arg 0)) k.map (k.valid hm)
  rw [k.agrees_iff hdoc, track_dup hcall]
  unfold DupFits
  rw [hc, List.forall_mem_singleton, List.forall_mem_singleton]
  dsimp only [id] at hfind ⊢
  rw [hfind, k.agrees, k.agrees]

theorem track_fcntl {cloexec : Bool} (hcall : k.exit.call = .fcntl ∨ k.exit.call = .fcntl64)
    (hop : FcntlOper.ofWord (k.exit.arg 1) = if cloexec then .dupfdCloexec else .dupfd) :
    (k.exit.track k.map).2 =
      trackCopy (if cloexec then FDInfo.setCloexec else FDInfo.resetCloexec)
        (FileNum.ofWord (k.exit.arg 0)) k.exit.newFd k.map := by
  have hdup : (k.exit.track k.map).2 =
      (FcntlSystemCall.filled k.exit.arg k.exit.ret).updateFDTracking k.map := by
    unfold CallExit.track trackDup
    rcases hcall with hcall | hcall
    · rw [hcall]
    · rw [hcall]
  rw [hdup]
  unfold trackCopy CallExit.newFd
  cases cloexec with
  | false =>
    rw [filled_dupfd hop]
    unfold FcntlSystemCall.updateFDTracking
    dsimp only
    cases k.map.find? (FileNum.ofWord (k.exit.arg 0)) <;> rfl
  | true =>
    rw [filled_dupfdCloexec hop]
    unfold FcntlSystemCall.updateFDTracking
    dsimp only
    cases k.map.find? (FileNum.ofWord (k.exit.arg 0)) <;> rfl

/-- `fcntl()` changes the flag of the copy -/
theorem agrees_fcntlCopy (hdoc : fns.Documented) {src d : KernelFd} {cloexec : Bool}
    (hcall : k.exit.call = .fcntl ∨ k.exit.call = .fcntl64)
    (hop : FcntlOper.ofWord (k.exit.arg 1) = if cloexec then .dupfdCloexec else .dupfd)
    (hc : k.created = [(k.exit.newFd, d)])
    (hsrc : k.table.find (FileNum.ofWord (k.exit.arg 0)) = some src) (hlink : d.link = src.link)
    (hd : d.cloexec = cloexec) (hn : d.nonblock = src.nonblock) : k.Agrees := by
  have hm : (k.exit.newFd, d) ∈ k.created := by
    rw [hc]
    exact List.mem_singleton_self _
  have hr : k.exit.replaces = false := by
    rcases hcall with hcall | hcall
    · exact k.replaces_eq_false hcall (by decide) (by decide)
    · exact k.replaces_eq_false hcall (by decide) (by decide)
  have hfind := find?_trackCopy (if cloexec then FDInfo.setCloexec else FDInfo.resetCloexec)
    (FileNum.ofWord (k.exit.arg 0)) k.map (k.valid hm)
  have hsnap := k.agrees (FileNum.ofWord (k.exit.arg 0))
  have hchange : ∀ info, (if cloexec then FDInfo.setCloexec else FDInfo.resetCloexec) info =
      if cloexec then info.setCloexec else info.resetCloexec := by
    intro info
    cases cloexec <;> rfl
  have hflag : ∀ info : FDInfo, (if cloexec then info.setCloexec else info.resetCloexec).snap =
      { info.snap with cloexec := cloexec } := by
    intro info
    cases cloexec with
    | false => exact (snap_cloexec info).1
    | true => exact (snap_cloexec info).2
  rw [hsrc, Option.bind_some] at hsnap
  rw [k.agrees_iff hdoc, hc, List.forall_mem_singleton, track_fcntl hcall hop]
  dsimp only at hfind ⊢
  rw [hfind, k.absent hm hr, Option.map_none, Option.none_or]
  unfold KernelFd.snap at hsnap ⊢
  rw [hlink, hd, hn]
  cases hs : k.map.find? (FileNum.ofWord (k.exit.arg 0)) with
  | none =>
    rw [hs] at hsnap
    rw [Option.map_eq_none_iff.mp hsnap.symm]
    rfl
  | some info =>
    rw [hs] at hsnap
    obtain ⟨type, hl, hinfo⟩ := Option.map_eq_some_iff.mp hsnap.symm
    rw [hl, Option.map_some, Option.map_some, hchange, hflag, ← hinfo]

/-! ### the system calls together -/

theorem fits_of_call {nr : SystemCallNr} (h : k.exit.call = nr)
    (hnr : nr ∈ [.pipe, .eventfd, .eventfd2, .signalfd, .signalfd4, .socket, .pidfdGetfd, .fcntl,
      .fcntl64]) : k.Fits := by
  unfold Fits
  rw [h]
  simp only [List.mem_cons, List.not_mem_nil, or_false] at hnr
  rcases hnr with rfl | rfl | rfl | rfl | rfl | rfl | rfl | rfl | rfl <;> trivial

theorem agrees_makes_iff (hdoc : fns.Documented) {inode : UInt64} {link : Text}
    {cloexec nonblock : Bool} {d : KernelFd}
    (hmakes : k.exit.makes inode = some (link, cloexec, nonblock)) (hd : d.Is link cloexec nonblock)
    (hc : k.created = [(k.exit.newFd, d)]) : k.Agrees ↔ k.Fits := by
  unfold CallExit.makes at hmakes
  split at hmakes
  · rename_i hcall
    cases hmakes
    exact iff_of_true (agrees_eventfd hdoc hcall hc hd) (fits_of_call hcall (by decide))
  · rename_i hcall
    cases hmakes
    exact iff_of_true (agrees_eventfd2 hdoc hcall hc hd) (fits_of_call hcall (by decide))
  · rename_i hcall
    cases hmakes
    unfold Fits
    rw [hcall]
    exact iff_of_false (not_agrees_epollCreate hdoc (Or.inl hcall) hc hd) id
  · rename_i hcall
    cases hmakes
    unfold Fits
    rw [hcall]
    exact iff_of_false (not_agrees_epollCreate hdoc (Or.inr hcall) hc hd) id
  · rename_i hcall
    split_ifs at hmakes with hfd
    cases hmakes
    exact iff_of_true (agrees_signalfd hdoc hcall hfd hc hd) (fits_of_call hcall (by decide))
  · rename_i hcall
    split_ifs at hmakes with hfd
    cases hmakes
    exact iff_of_true (agrees_signalfd4 hdoc hcall hfd hc hd) (fits_of_call hcall (by decide))
  · rename_i hcall
    cases hmakes
    exact iff_of_true (agrees_socket hdoc hcall hc hd) (fits_of_call hcall (by decide))
  · rename_i hcall
    cases hmakes
    unfold Fits
    rw [hcall]
    have ht : k.exit.track k.map = AcceptSystemCall.updateFDTracking k.exit.snatchSocket
        (FileNum.ofWord (k.exit.arg 0)) k.exit.newFd 0 k.map := by
      unfold CallExit.track
      rw [hcall]
    exact agrees_accept_iff hdoc (k.replaces_eq_false hcall (by decide) (by decide)) hc ht hd
  · rename_i hcall
    cases hmakes
    unfold Fits
    rw [hcall]
    have ht : k.exit.track k.map = AcceptSystemCall.updateFDTracking k.exit.snatchSocket
        (FileNum.ofWord (k.exit.arg 0)) k.exit.newFd (k.exit.arg 3) k.map := by
      unfold CallExit.track
      rw [hcall]
    exact agrees_accept_iff hdoc (k.replaces_eq_false hcall (by decide) (by decide)) hc ht hd
  · rename_i hcall
    cases hmakes
    unfold Fits
    rw [hcall]
    exact iff_of_false (not_agrees_pidfdOpen hdoc hcall hc hd) id
  · cases hmakes

theorem agrees_makesPair_iff (hdoc : fns.Documented) {inode : UInt64} {ptr : Word} {link : Text}
    {cloexec nonblock : Bool} {fd fd' : FileNum} {d d' : KernelFd}
    (hmakes : k.exit.makesPair inode = some (ptr, link, cloexec, nonblock)) (hptr : ptr ≠ 0)
    (hread : k.exit.readPair ptr = .ok (fd, fd')) (hd : d.Is link cloexec nonblock)
    (hd' : d'.Is link cloexec nonblock) (hc : k.created = [(fd, d), (fd', d')]) :
    k.Agrees ↔ k.Fits := by
  unfold CallExit.makesPair at hmakes
  split at hmakes
  · rename_i hcall
    cases hmakes
    rw [agrees_pipe_iff hdoc (Or.inl hcall) hptr hread hc hd hd']
    exact iff_of_true ⟨rfl, rfl⟩ (fits_of_call hcall (by decide))
  · rename_i hcall
    cases hmakes
    unfold Fits
    rw [agrees_pipe_iff hdoc (Or.inr hcall) hptr hread hc hd hd', hcall]
  · rename_i hcall
    cases hmakes
    unfold Fits
    rw [agrees_socketpair_iff hdoc hcall hread hc hd hd', hcall]
  · cases hmakes

theorem agrees_openFlags_iff (hdoc : fns.Documented) {flags : Word} {d : KernelFd}
    (hflags : k.exit.openFlags = some flags) (hd : d.cloexec = hasCloexec flags)
    (hc : k.created = [(k.exit.newFd, d)]) : k.Agrees ↔ k.Fits := by
  unfold CallExit.openFlags at hflags
  split at hflags
  · rename_i hcall
    cases hflags
    have ht : (k.exit.track k.map).2 = OpenSystemCall.updateFDTracking k.exit.filename
        k.exit.newFd (k.exit.arg 1) k.map := by
      unfold CallExit.track
      rw [hcall]
    unfold Fits
    rw [agrees_open_iff hdoc (k.replaces_eq_false hcall (by decide) (by decide)) hc ht hd, hcall]
  · rename_i hcall
    cases hflags
    have ht : (k.exit.track k.map).2 = OpenSystemCall.updateFDTracking k.exit.filename
        k.exit.newFd (k.exit.arg 2) k.map := by
      unfold CallExit.track
      rw [hcall]
    unfold Fits
    rw [agrees_open_iff hdoc (k.replaces_eq_false hcall (by decide) (by decide)) hc ht hd, hcall]
  · cases hflags

theorem fcntlOper_of_duplicates {op : FcntlOper} {cloexec : Bool}
    (h : op.duplicates = some cloexec) : op = if cloexec then .dupfdCloexec else .dupfd := by
  cases op with
  | dupfd =>
    cases h
    rfl
  | dupfdCloexec =>
    cases h
    rfl
  | setfd => cases h
  | other => cases h

theorem agrees_duplicates_iff (hdoc : fns.Documented) {cloexec : Bool} {src d : KernelFd}
    (hdup : k.exit.duplicates = some cloexec)
    (hsrc : k.table.find (FileNum.ofWord (k.exit.arg 0)) = some src) (hlink : d.link = src.link)
    (hd : d.cloexec = cloexec) (hn : d.nonblock = src.nonblock)
    (hc : k.created = [(k.exit.newFd, d)]) : k.Agrees ↔ k.Fits := by
  have hfcntl : ∀ {nr}, k.exit.call = nr → nr = .fcntl ∨ nr = .fcntl64 →
      FcntlOper.ofWord (k.exit.arg 1) = (if cloexec then .dupfdCloexec else .dupfd) →
      (k.Agrees ↔ k.Fits) := by
    intro nr hcall hnr hop
    apply iff_of_true
    · apply agrees_fcntlCopy hdoc _ hop hc hsrc hlink hd hn
      rw [hcall]
      exact hnr
    · apply fits_of_call hcall
      rcases hnr with rfl | rfl <;> decide
  unfold CallExit.duplicates at hdup
  split at hdup
  · rename_i hcall
    unfold Fits
    rw [agrees_copied_iff hdoc (Or.inl hcall) hc, hcall]
  · rename_i hcall
    unfold Fits
    rw [agrees_copied_iff hdoc (Or.inr (Or.inl hcall)) hc, hcall]
  · rename_i hcall
    unfold Fits
    rw [agrees_copied_iff hdoc (Or.inr (Or.inr hcall)) hc, hcall]
  · rename_i hcall
    exact hfcntl hcall (Or.inl rfl) (fcntlOper_of_duplicates hdup)
  · rename_i hcall
    exact hfcntl hcall (Or.inr rfl) (fcntlOper_of_duplicates hdup)
  · cases hdup

theorem agrees_untracked_iff (hdoc : fns.Documented)
    (h : k.exit.call ∈ CallExit.untracked) : k.Agrees ↔ k.Fits := by
  have hcases : k.exit.call = .clone ∨ k.exit.call = .recvmmsg ∨ k.exit.call = .ioctl ∨
      k.exit.call = .futex ∨ k.exit.call = .futexTime64 := by
    simpa [CallExit.untracked] using h
  have hr : k.exit.replaces = false := by
    unfold CallExit.replaces
    rcases hcases with h | h | h | h | h <;> rw [h] <;> rfl
  have ht : (k.exit.track k.map).2 = k.map := by
    unfold CallExit.track
    rcases hcases with h | h | h | h | h <;> rw [h]
  rw [k.agrees_unrecorded_iff hdoc hr ht]
  unfold Fits
  rcases hcases with h | h | h | h | h <;> rw [h]

/-- whether the record of a new descriptor is what `/proc` yields -/
theorem agrees_iff_fits (hdoc : fns.Documented) (k : Creation fns) : k.Agrees ↔ k.Fits := by
  generalize hcr : k.created = created
  have hcreates := k.creates
  rw [hcr] at hcreates
  cases hcreates with
  | single hmakes hd => exact agrees_makes_iff hdoc hmakes hd hcr
  | pair hmakes hptr hread hd hd' => exact agrees_makesPair_iff hdoc hmakes hptr hread hd hd' hcr
  | opened forced hflags hd => exact agrees_openFlags_iff hdoc hflags hd hcr
  | peerPidfd hcall hpeer hval hd =>
    unfold Fits
    rw [agrees_peerPidfd_iff hdoc hcall hpeer hval hcr hd, hcall]
  | cloned hcall hd =>
    unfold Fits
    rw [hcall]
    exact iff_of_false (not_agrees_clone3 hdoc hcall hcr hd) id
  | taken hcall =>
    exact iff_of_true (agrees_pidfdGetfd hdoc hcall hcr) (fits_of_call hcall (by decide))
  | received created hcall =>
    unfold Fits
    rw [agrees_recvmsg_iff hdoc hcall, hcall]
  | duplicated hdup hsrc hlink hd hn =>
    exact agrees_duplicates_iff hdoc hdup hsrc hlink hd hn hcr
  | unseen created h => exact agrees_untracked_iff hdoc h

end Creation

/-! ### the first descriptor of a process -/

def trim (p : Char → Bool) (s : Text) : Text := ((s.dropWhile p).reverse.dropWhile p).reverse

theorem trim_eq {p : Char → Bool} {s : Text} (h : ∀ c ∈ s, p c = false) : trim p s = s := by
  have hdrop : ∀ s : Text, (∀ c ∈ s, p c = false) → s.dropWhile p = s := by
    intro s hs
    cases s with
    | nil => rfl
    | cons c s =>
      have hc := hs c List.mem_cons_self
      exact List.dropWhile_cons_of_neg (by rw [hc]; exact Bool.false_ne_true)
  unfold trim
  rw [hdrop s h, hdrop, List.reverse_reverse]
  intro c hc
  exact h c (List.mem_reverse.mp hc)

/-- texts are split at the first separator -/
def plainFns : TextFns where
  split s sep strip _ :=
    let parts := [s.takeWhile fun c => decide (c ∉ sep),
      (s.dropWhile fun c => decide (c ∉ sep)).drop 1]
    (if strip then parts.map (trim isSpace) else parts).filter fun part => decide (part ≠ [])
  stripped s chars := trim (fun c => decide (c ∈ chars)) s

theorem plainFns_parts {a : Text} (h : ':' ∉ a) (b : Text) :
    (a ++ ':' :: b).takeWhile (fun c => decide (c ∉ [':'])) = a ∧
      ((a ++ ':' :: b).dropWhile fun c => decide (c ∉ [':'])).drop 1 = b := by
  have ha : ∀ c ∈ a, decide (c ∉ [':']) = true := by
    intro c hc
    apply decide_eq_true
    intro hm
    apply h
    rw [← List.mem_singleton.mp hm]
    exact hc
  rw [List.takeWhile_append_of_pos ha, List.dropWhile_append_of_pos ha,
    List.takeWhile_cons_of_neg (by decide), List.dropWhile_cons_of_neg (by decide), List.append_nil]
  exact ⟨rfl, rfl⟩

theorem plainFns_documented : plainFns.Documented where
  split := by
    intro a b hcolon ha hb
    obtain ⟨h1, h2⟩ := plainFns_parts hcolon b
    unfold plainFns
    dsimp only
    rw [h1, h2]
    cases a with
    | nil => exact absurd rfl ha
    | cons c s =>
      cases b with
      | nil => exact absurd rfl hb
      | cons c' s' => rfl
  splitStripped := by
    intro a b hcolon ha hb hsa hsb
    obtain ⟨h1, h2⟩ := plainFns_parts hcolon ('\t' :: b)
    have htab : trim isSpace ('\t' :: b) = b := by
      have htrim : trim isSpace ('\t' :: b) = trim isSpace b := rfl
      rw [htrim, trim_eq hsb]
    unfold plainFns
    dsimp only
    rw [h1, h2, if_pos rfl, List.map_cons, List.map_cons, List.map_nil, htab, trim_eq hsa]
    cases a with
    | nil => exact absurd rfl ha
    | cons c s =>
      cases b with
      | nil => exact absurd rfl hb
      | cons c' s' => rfl
  stripped := by
    intro a hopen hclose
    have ha : ∀ c ∈ a, decide (c ∈ ['[', ']']) = false := by
      intro c hc
      have h1 : c ≠ '[' := fun heq => hopen (by rw [← heq]; exact hc)
      have h2 : c ≠ ']' := fun heq => hclose (by rw [← heq]; exact hc)
      simp [h1, h2]
    show trim (fun c => decide (c ∈ ['[', ']'])) ('[' :: a ++ [']']) = a
    cases a with
    | nil => rfl
    | cons c s =>
      have hself := trim_eq ha
      have hc := ha c List.mem_cons_self
      unfold trim at hself ⊢
      rw [List.cons_append, List.dropWhile_cons_of_pos (by decide), List.cons_append,
        List.dropWhile_cons_of_neg (by rw [hc]; exact Bool.false_ne_true), ← List.cons_append,
        List.reverse_append]
      rw [List.dropWhile_cons_of_neg (by rw [hc]; exact Bool.false_ne_true)] at hself
      exact hself

def noTable : KernelTable := ⟨fun _ => none, fun h => nomatch h⟩

def firstTable (d : KernelFd) : KernelTable where
  find fd := if fd = 3 then some d else none
  range := by
    intro fd d' h
    split_ifs at h with hfd
    rw [hfd]
    decide

def firstDir (d : KernelFd) : ProcDir where
  entries := [⟨fdName 3, some d.link⟩]
  fdinfo fd := if fd = 3 then some d.fdinfo else none

theorem firstDir_shows (d : KernelFd) : (firstDir d).Shows (firstTable d) where
  listed := by
    intro entry he
    rw [List.mem_singleton.mp he]
    exact Or.inr ⟨3, d, rfl, rfl, rfl⟩
  complete := by
    intro fd d' h
    unfold firstTable at h
    dsimp only at h
    split_ifs at h with hfd
    rw [hfd]
    exact ⟨_, List.mem_singleton_self _, rfl⟩
  fdinfo := by
    intro fd d' h
    unfold firstTable at h
    dsimp only at h
    split_ifs at h with hfd
    rw [hfd, ← Option.some.inj h]
    rfl

/-- the descriptor 3 is returned -/
def firstExit (nr : SystemCallNr) (args : Fin 6 → Word) (d : KernelFd) : CallExit where
  nr := nr
  args := args
  ret := 3
  mem := fun _ => .error Errno.ioError
  fdInfos := .ok (getFDInfos plainFns (firstDir d))
  snatchSocket := fun _ => .error Errno.search

def firstCreation (nr : SystemCallNr) (args : Fin 6 → Word) (d : KernelFd)
    (h : (firstExit nr args d).Creates noTable [(3, d)]) : Creation plainFns where
  exit := firstExit nr args d
  map := OrdMap.empty
  table := noTable
  table' := firstTable d
  created := [(3, d)]
  dir' := firstDir d
  agrees := fun _ => rfl
  keyed := fun _ _ h => nomatch h
  creates := h
  nodup := List.nodup_singleton _
  fresh := fun _ _ => Or.inl rfl
  installed := by
    intro p hp
    rw [List.mem_singleton.mp hp]
    rfl
  shows := firstDir_shows d
  fdInfos := rfl

/-- `O_CLOEXEC` -/
def cloexecFlag : Word := 0x80000

def cloexecArg (i : Fin 6) : Fin 6 → Word := fun j => if j = i then cloexecFlag else 0

def eventfdD : KernelFd := ⟨anonLink "eventfd", 0x80002, by decide, 0, []⟩
def eventpollD : KernelFd := ⟨anonLink "eventpoll", 0x80002, by decide, 0, []⟩

theorem creates_first {nr : SystemCallNr} {args : Fin 6 → Word} {d : KernelFd} {link : Text}
    (cloexec nonblock : Bool)
    (h : (firstExit nr args d).makes 0 = some (link, cloexec, nonblock))
    (hd : d.Is link cloexec nonblock) : (firstExit nr args d).Creates noTable [(3, d)] := by
  have hfd : (firstExit nr args d).newFd = 3 := ofWord_three
  rw [← hfd]
  exact CallExit.Creates.single h hd

/-- `eventfd2(0, EFD_CLOEXEC)` -/
def eventfd2Creation : Creation plainFns :=
  firstCreation .eventfd2 (cloexecArg 1) eventfdD
    (creates_first true false rfl ⟨rfl, by decide, by decide⟩)

theorem agrees_eventfd2Creation : eventfd2Creation.Agrees :=
  (Creation.agrees_iff_fits plainFns_documented eventfd2Creation).mpr trivial

/-- `epoll_create1(EPOLL_CLOEXEC)` -/
def epollCreation : Creation plainFns :=
  firstCreation .epollCreate1 (cloexecArg 0) eventpollD
    (creates_first true false rfl ⟨rfl, by decide, by decide⟩)

theorem agrees_fails : ¬ ∀ (fns : TextFns) (_ : fns.Documented) (k : Creation fns), k.Agrees := by
  intro h
  have hfd : epollCreation.created = [(epollCreation.exit.newFd, eventpollD)] := by
    show [(3, eventpollD)] = [(FileNum.ofWord 3, eventpollD)]
    rw [ofWord_three]
  have hd : eventpollD.Is (anonLink "eventpoll") true false := ⟨rfl, by decide, by decide⟩
  exact Creation.not_agrees_epollCreate plainFns_documented (Or.inr rfl) hfd hd
    (h plainFns plainFns_documented epollCreation)

end Clues
