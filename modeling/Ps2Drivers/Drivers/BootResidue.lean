import Ps2Drivers.Drivers.BootStaging

/-!
# What a boot leaves staged

Staging for a boot path reserves memory for every module of the closure of its mask.  It is all
released when every module of the closure is executed.  The boot initialisation and the
initialisations that follow leave out bdm, which the HDD closure holds, and what an IP stack stops
before when `NetManInit` fails.  So the modules that each of them loads are followed one by one,
next to the answers of `NetManInit` in the trace.
-/

open Binary CString

namespace Ps2Drivers

/-! ## 1. While everything loads -/

/-- A console on which booting succeeds: executed modules stay, the disk is ready and mounts, and
the COP2 test reports real hardware. -/
structure Console.Boots (console : Console) : Prop extends console.LoadsStaged where
  pipelined : console.cop2Pipelined = true
  hddStatus : ∀ past, 0 ≤ console.lib hddStatus past ∧ console.lib hddStatus past < 3
  malloc : ∀ size past, console.lib (.malloc size) past ≠ 0
  strdup : ∀ s past, console.lib (.strdup s) past ≠ 0
  mount : ∀ mountpoint blockdev past, 0 ≤ console.lib (.fileXioMount mountpoint blockdev) past

/-- What is required is started, or staged and still to be executed. -/
structure Machine.Booting (requirements : UInt32) (data : Irx → Bytes) (s : Machine) : Prop where
  supplied : Supplied requirements data s
  steady : s.Steady

/-- With its modules staged, the program loads all of `ms`, and its status is as `ok` says. -/
structure BootSpec (console : Console) (requirements : UInt32) (data : Irx → Bytes)
    (ms : List Irx) (ok : Int → Prop) (p : DriverM Int) : Prop where
  within : p.Within (DriverOp.loadsOf (requiredModules requirements))
  loads : Program.Triple console.step (Machine.Booting requirements data) p fun status s =>
    ok status ∧ s.Started ms

section

variable {console : Console} (hgood : console.LoadsStaged) {requirements : UInt32}
  {data : Irx → Bytes}

include hgood

theorem Program.Triple.keepsBooting {α : Type} {p : DriverM α}
    (hp : p.Within (DriverOp.loadsOf (requiredModules requirements))) :
    Program.Triple console.step (Machine.Booting requirements data) p fun _ =>
      Machine.Booting requirements data :=
  Program.Triple.keeps hp fun _ hop _ _ hs hstep =>
    ⟨(step_effect hstep).supplied hgood hop hs.supplied,
      (step_effect hstep).steady hgood.starts hs.steady⟩

theorem BootSpec.keeps {ms : List Irx} {ok : Int → Prop} {p : DriverM Int}
    (hp : BootSpec console requirements data ms ok p) :
    Program.Triple console.step (Machine.Booting requirements data) p fun status s =>
      s.Booting requirements data ∧ ok status ∧ s.Started ms :=
  ((Program.Triple.keepsBooting hgood hp.within).and hp.loads).imp (fun _ hs => ⟨hs, hs⟩)
    fun _ _ hs => hs

theorem loadIrx_boots {m : Irx} (hm : m ∈ requiredModules requirements) (args : Option Bytes) :
    Program.Triple console.step (Machine.Booting requirements data) (loadIrx m args)
      fun goesOn s => s.Booting requirements data ∧ goesOn = true ∧ s.Started [m] := by
  have hstarted : Program.Triple console.step (Machine.Booting requirements data)
      (loadIrx m args) fun goesOn s => goesOn = true ∧ s.Started [m] := by
    refine Program.Triple.of_run (fun s => loadIrx_run console s m args) fun s hs => ?_
    -- a module that is not executed yet is still staged
    refine loadIrx_started args (hgood.starts m s) (fun hreset => ⟨embeddedPayload data m, ?_⟩)
      (hs.steady m)
    rw [hgood.irxPayload]
    exact hs.supplied.waiting m hm hreset
  exact ((Program.Triple.keepsBooting hgood (loadIrx_within.mpr hm)).and hstarted).imp
    (fun _ hs => ⟨hs, hs⟩) fun _ _ hs => hs

end

/-! ## 2. The shapes -/

section

variable {console : Console} {requirements : UInt32} {data : Irx → Bytes} {ms ms' : List Irx}
  {ok ok' : Int → Prop} {p q : DriverM Int}

theorem pure_boots (status : Int) :
    BootSpec console requirements data [] (· = status) (pure status) :=
  ⟨Program.within_pure _, Program.Triple.ret fun _ _ => ⟨rfl, fun _ hm => by cases hm⟩⟩

theorem BootSpec.weaken (hp : BootSpec console requirements data ms ok p) :
    BootSpec console requirements data ms (fun _ => True) p :=
  ⟨hp.within, hp.loads.weaken fun _ _ hs => ⟨trivial, hs.2⟩⟩

theorem anything_boots (hp : p.Within (DriverOp.loadsOf (requiredModules requirements))) :
    BootSpec console requirements data [] (fun _ => True) p :=
  ⟨hp, ⟨fun _ _ _ _ => ⟨trivial, fun _ hm => by cases hm⟩⟩⟩

/-- What is started stays started while the rest of the function runs. -/
theorem BootSpec.after (ms : List Irx) (hp : BootSpec console requirements data ms' ok p) :
    Program.Triple console.step (fun s => s.Booting requirements data ∧ s.Started ms) p
      fun status s => ok status ∧ s.Started (ms ++ ms') :=
  (hp.loads.and (Program.Triple.staysStarted ms
    (hp.within.mono (DriverOp.loadsOf.leaves ms)))).weaken fun _ _ hs =>
      ⟨hs.1.1, Machine.Started.append hs.2 hs.1.2⟩

theorem returnStatus_boots (d : Driver) (hp : BootSpec console requirements data ms ok p) :
    BootSpec console requirements data ms ok (returnStatus d p) := by
  have hset (status : Int) {A : DriverOp → Prop} (hA : A (.setStatus d status)) :
      (setStatus d status).Within A := setStatus_within.mpr hA
  constructor
  · refine Program.Within.bind hp.within fun status => ?_
    exact Program.Within.bind (hset status trivial) fun _ => Program.within_pure status
  · refine Program.Triple.bind hp.loads fun status => ?_
    apply Program.Triple.of_pure
    intro hok
    refine Program.Triple.bind (Program.Triple.staysStarted ms (hset status trivial)) fun _ => ?_
    exact Program.Triple.ret fun _ hs => ⟨hok, hs⟩

section

variable (hgood : console.LoadsStaged)

include hgood

theorem loadIRXs_boots {blocks : List IrxBlock}
    (hp : BootSpec console requirements data ms ok p) (hms : blocks.map (·.irx) ++ ms = ms')
    (hd : ∀ m ∈ ms', m ∈ requiredModules requirements) :
    BootSpec console requirements data ms' ok (loadIRXs blocks p) := by
  induction blocks generalizing ms' with
  | nil =>
    rw [← hms]
    exact hp
  | cons block blocks ih =>
    rw [← hms, List.map_cons, List.cons_append] at hd ⊢
    have hrest := ih rfl fun m hm => hd m (List.mem_cons_of_mem _ hm)
    have hblock := hd block.irx List.mem_cons_self
    constructor
    · refine Program.Within.bind (loadIrx_within.mpr hblock) fun goesOn => ?_
      exact Program.within_ite hrest.within (Program.within_pure _)
    · refine Program.Triple.bind (loadIrx_boots hgood hblock block.args) fun goesOn => ?_
      apply Program.Triple.branch
      · intro _
        exact (BootSpec.after [block.irx] hrest).imp (fun _ hs => ⟨hs.1, hs.2.2⟩)
          fun _ _ hs => hs
      · intro hstops
        exact ⟨fun _ hs => absurd hs.2.1 hstops⟩

theorem withLibraries_boots (d : Driver) {loaded : Int}
    (hp : BootSpec console requirements data ms (· = loaded) p) (hloaded : 0 ≤ loaded)
    (hq : BootSpec console requirements data [] ok q) :
    BootSpec console requirements data ms ok (withLibraries d p q) := by
  have hreturn := returnStatus_boots d hq
  constructor
  · refine Program.Within.bind hp.within fun status => ?_
    refine Program.Within.bind (setStatus_within.mpr trivial) fun _ => ?_
    exact Program.within_ite (Program.within_pure _) hreturn.within
  · refine Program.Triple.bind (BootSpec.keeps hgood hp) fun status => ?_
    refine Program.Triple.imp (P := fun s => status = loaded ∧
      s.Booting requirements data ∧ s.Started ms) (Program.Triple.of_pure fun hok => ?_)
      (fun _ hs => ⟨hs.2.1, hs.1, hs.2.2⟩) fun _ _ hs => hs
    refine Program.Triple.bind
      ((Program.Triple.keepsBooting hgood (setStatus_within.mpr trivial)).and
        (Program.Triple.staysStarted ms (setStatus_within.mpr trivial))) fun _ => ?_
    rw [hok, if_neg (Int.not_lt.mpr hloaded)]
    -- the libraries load nothing, so what `p` loaded stays
    exact (BootSpec.after ms hreturn).weaken fun _ _ hs => ⟨hs.1, by simpa using hs.2⟩

theorem withDependency_boots {init error : DriverM Int} {refused : Int → Bool}
    {accepted : Int} (hinit : BootSpec console requirements data ms' (· = accepted) init)
    (haccepted : refused accepted = false)
    (herror : error.Within (DriverOp.loadsOf (requiredModules requirements)))
    (hp : BootSpec console requirements data ms ok p) :
    BootSpec console requirements data (ms' ++ ms) ok
      (withDependency true init refused error p) := by
  constructor
  · refine Program.Within.bind hinit.within fun status => ?_
    exact Program.within_ite herror hp.within
  · refine Program.Triple.bind (BootSpec.keeps hgood hinit) fun status => ?_
    apply Program.Triple.branch
    · intro hrefused
      exact ⟨fun s hs => absurd hrefused (by rw [hs.2.1, haccepted]; decide)⟩
    · intro _
      exact (BootSpec.after ms' hp).imp (fun _ hs => ⟨hs.1, hs.2.2⟩) fun _ _ hs => hs

theorem check_boots {β : Type} {c : DriverM β} {bad : β → Prop} [DecidablePred bad]
    (hc : c.Within (DriverOp.loadsOf (requiredModules requirements)))
    (hanswer : Program.Triple console.step (fun _ => True) c fun result _ => ¬ bad result)
    (hq : q.Within (DriverOp.loadsOf (requiredModules requirements)))
    (hp : BootSpec console requirements data ms ok p) :
    BootSpec console requirements data ms ok (do
      let result ← c
      if bad result then q else p) := by
  constructor
  · refine Program.Within.bind hc fun result => ?_
    exact Program.within_ite hq hp.within
  · refine Program.Triple.bind ((hanswer.and (Program.Triple.keepsBooting hgood hc)).imp
      (fun _ hs => ⟨trivial, hs⟩) fun _ _ hs => hs) fun result => ?_
    apply Program.Triple.of_pure
    intro hnot
    rw [if_neg hnot]
    exact hp.loads

end

end

/-! ## 3. The drivers -/

theorem libCheck_within {A : DriverOp → Prop} {call : LibCall} (hcall : A (.lib call))
    {bad : Int → Prop} [DecidablePred bad] {e : Int} {q : DriverM Int} (hq : q.Within A) :
    (do
      let result ← lib call
      if bad result then pure e else q).Within A :=
  Program.Within.bind (lib_within.mpr hcall) fun _ =>
    Program.within_ite (Program.within_pure _) hq

/-- The drivers that stop half way when `NetManInit` fails. -/
def Driver.isStack : Driver → Bool
  | .eeip | .iopip => true
  | _ => false

section

variable {console : Console} (hgood : console.Boots) {requirements : UInt32} {data : Irx → Bytes}

include hgood

theorem initFileXioDriver_boots
    (hd : ∀ m ∈ [Irx.iomanX, .fileXio], m ∈ requiredModules requirements) :
    BootSpec console requirements data [.iomanX, .fileXio] (· = FileXioInitStatus.ok)
      initFileXioDriver := by
  refine withLibraries_boots hgood.toLoadsStaged _
    (loadIRXs_boots hgood.toLoadsStaged (pure_boots _) rfl hd) (by decide) ⟨?_, ?_⟩
  · exact Program.Within.bind (lib_within.mpr trivial) fun _ => Program.within_pure _
  · refine Program.Triple.bind (R := fun _ _ => True) ⟨fun _ _ _ _ => trivial⟩ fun _ => ?_
    exact Program.Triple.ret fun _ _ => ⟨rfl, fun _ hm => by cases hm⟩

theorem loadHddIRXs_boots
    (hd : ∀ m ∈ [Irx.ps2atad, .ps2hdd, .ps2fs], m ∈ requiredModules requirements) :
    BootSpec console requirements data [.ps2atad, .ps2hdd, .ps2fs] (· = HddInitStatus.irxOk)
      loadHddIRXs := by
  have hlast : [Irx.ps2fs] ⊆ [Irx.ps2atad, .ps2hdd, .ps2fs] := by decide
  have hcheck : hddCheck.Within (DriverOp.loadsOf (requiredModules requirements)) :=
    hddCheck_within.mono (DriverOp.bringsUp.loadsOf fun _ hm => by cases hm)
  exact loadIRXs_boots hgood.toLoadsStaged (check_boots hgood.toLoadsStaged hcheck
    (hddCheck_ready hgood.hddStatus) (Program.within_pure _)
    (loadIRXs_boots hgood.toLoadsStaged (pure_boots _) rfl fun m hm => hd m (hlast hm))) rfl hd

/-- Initialising a driver with its dependencies loads all of its modules. -/
theorem initDriver_boots {d : Driver} (hstack : d.isStack = false)
    (hd : ∀ m ∈ d.responsible true, m ∈ requiredModules requirements) :
    BootSpec console requirements data (d.responsible true) (fun _ => True)
      (initDriver d true false) := by
  have hloads := hgood.toLoadsStaged
  have hsub {ms : List Irx} (h : ms ⊆ d.responsible true) :
      ∀ m ∈ ms, m ∈ requiredModules requirements := fun m hm => hd m (h hm)
  have hsio2man (h : [Irx.sio2man] ⊆ d.responsible true) :
      BootSpec console requirements data [.sio2man] (· = Sio2manInitStatus.ok) initSio2manDriver :=
    returnStatus_boots _ (loadIRXs_boots hloads (pure_boots _) rfl (hsub h))
  have hbdm (h : [Irx.bdm, .bdmfsFatfs] ⊆ d.responsible true) :
      BootSpec console requirements data [.bdm, .bdmfsFatfs] (· = BdmInitStatus.ok)
        initBdmDriver :=
    returnStatus_boots _ (loadIRXs_boots hloads (pure_boots _) rfl (hsub h))
  have husbd (h : [Irx.usbd] ⊆ d.responsible true) :
      BootSpec console requirements data [.usbd] (· = UsbdInitStatus.ok) initUsbdDriver :=
    returnStatus_boots _ (loadIRXs_boots hloads (pure_boots _) rfl (hsub h))
  -- behind a failed dependency only the error is returned, and nothing more is loaded
  have herror {e : Int} : (pure e : DriverM Int).Within
      (DriverOp.loadsOf (requiredModules requirements)) := Program.within_pure e
  cases d with
  | sio2man => exact (hsio2man (by decide)).weaken
  | bdm => exact (hbdm (by decide)).weaken
  | usbd => exact (husbd (by decide)).weaken
  | fileXio => exact (initFileXioDriver_boots hgood hd).weaken
  | cdfs | dev9 | smap =>
    exact BootSpec.weaken (returnStatus_boots _ (loadIRXs_boots hloads (pure_boots 0) rfl hd))
  | memcard =>
    have hown : BootSpec console requirements data [.mcman, .mcserv]
        (· = MemcardInitStatus.irxOk) (initMemcardDriver false) :=
      returnStatus_boots _ (loadIRXs_boots hloads (pure_boots _) rfl (hsub (by decide)))
    exact (withDependency_boots hloads (hsio2man (by decide)) rfl herror hown).weaken
  | usb =>
    have hown : BootSpec console requirements data [.usbmassBd]
        (· = UsbInitStatus.irxOk) (initUsbDriver false) :=
      returnStatus_boots _ (loadIRXs_boots hloads (pure_boots _) rfl (hsub (by decide)))
    exact (withDependency_boots hloads (hbdm (by decide)) rfl herror
      (withDependency_boots hloads (husbd (by decide)) rfl herror hown)).weaken
  | mx4sio =>
    have hown : BootSpec console requirements data [.mx4sioBd]
        (· = Mx4sioInitStatus.ok) (initMx4sioDriver false) :=
      returnStatus_boots _ (check_boots hloads (isCOP2Pipelined_within.mpr trivial)
        (isCOP2Pipelined_result hgood.pipelined) herror
        (loadIRXs_boots hloads (pure_boots _) rfl (hsub (by decide))))
    exact (withDependency_boots hloads (hsio2man (by decide)) rfl herror
      (withDependency_boots hloads (hbdm (by decide)) rfl herror hown)).weaken
  | hdd =>
    have hfails : hddDependencyError.Within (DriverOp.loadsOf (requiredModules requirements)) :=
      hddDependencyError_fails.within.mono (DriverOp.bringsUp.loadsOf fun _ hm => by cases hm)
    have hdev9 : BootSpec console requirements data [.ps2dev9] (· = Dev9InitStatus.ok)
        initDev9Driver :=
      returnStatus_boots _ (loadIRXs_boots hloads (pure_boots _) rfl (hsub (by decide)))
    have hown : BootSpec console requirements data [.ps2atad, .ps2hdd, .ps2fs]
        (· = HddInitStatus.irxOk) (initHdd false) :=
      returnStatus_boots _ (loadHddIRXs_boots hgood (hsub (by decide)))
    exact (withDependency_boots hloads (initFileXioDriver_boots hgood (hsub (by decide))) rfl
      hfails (withDependency_boots hloads hdev9 rfl hfails
        (withDependency_boots hloads (hbdm (by decide)) rfl hfails hown))).weaken
  | joystick =>
    have hown : BootSpec console requirements data [.mtapman, .padman] (fun _ => True)
        (initJoystickDriver false) := by
      refine withLibraries_boots hloads _ (loadIRXs_boots hloads (pure_boots _) rfl
        (hsub (by decide))) (by decide) (anything_boots ?_)
      exact libCheck_within trivial (libCheck_within trivial herror)
    exact withDependency_boots hloads (hsio2man (by decide)) rfl herror hown
  | audio | poweroff | netman =>
    -- what the library answers decides the status, but not what is loaded
    refine withLibraries_boots hloads _ (loadIRXs_boots hloads (pure_boots 1) rfl hd) (by decide)
      (anything_boots ?_)
    exact libCheck_within trivial herror
  | mouse =>
    have hown : BootSpec console requirements data [.ps2mouse] (· = MouseInitStatus.irxOk)
        (loadIRXs [⟨.ps2mouse, none, MouseInitStatus.irxError⟩] (pure MouseInitStatus.irxOk)) :=
      loadIRXs_boots hloads (pure_boots _) rfl (hsub (by decide))
    refine withLibraries_boots hloads _ (withDependency_boots hloads (husbd (by decide)) rfl herror
      hown) (by decide) (anything_boots (libCheck_within trivial ?_))
    exact Program.Within.bind (lib_within.mpr trivial) fun _ => herror
  | keyboard =>
    have hown : BootSpec console requirements data [.ps2kbd] (· = KeyboardInitStatus.irxOk)
        (loadIRXs [⟨.ps2kbd, none, KeyboardInitStatus.irxError⟩]
          (pure KeyboardInitStatus.irxOk)) :=
      loadIRXs_boots hloads (pure_boots _) rfl (hsub (by decide))
    exact withLibraries_boots hloads _ (withDependency_boots hloads (husbd (by decide)) rfl herror
      hown) (by decide) (anything_boots (libCheck_within trivial herror))
  | camera =>
    have hown : BootSpec console requirements data [.ps2cam] (· = CameraInitStatus.irxOk)
        (loadIRXs [⟨.ps2cam, none, CameraInitStatus.irxError⟩] (pure CameraInitStatus.irxOk)) :=
      loadIRXs_boots hloads (pure_boots _) rfl (hsub (by decide))
    exact withLibraries_boots hloads _ (withDependency_boots hloads (husbd (by decide)) rfl herror
      hown) (by decide) (anything_boots (libCheck_within trivial herror))
  | eeip | iopip => cases hstack

end

/-! ## 4. The boot initialisation -/

/-- A part of a boot loads `ms`, whatever it returns. -/
structure BootPart {α : Type} (console : Console) (requirements : UInt32) (data : Irx → Bytes)
    (ms : List Irx) (p : DriverM α) : Prop where
  within : p.Within (DriverOp.loadsOf (requiredModules requirements))
  loads : Program.Triple console.step (Machine.Booting requirements data) p fun _ s =>
    s.Started ms

/-- `init_only_boot_ps2_filesystem_driver` from the working directory on. -/
def bootFrom (cwd : Bytes) : DriverM Unit := do
  let _ ← initFileXioDriver
  let cwd ← initBootGroup cwd (getBootDeviceID (some cwd)).group
  let _ ← waitUntilDeviceIsReady cwd
  pure ()

theorem initOnlyBootPs2FilesystemDriver_run (console : Console) (s : Machine) :
    initOnlyBootPs2FilesystemDriver.run console.step s = (bootFrom s.cwd).run console.step s := by
  rw [initOnlyBootPs2FilesystemDriver, Program.run_bind, getcwd_run, Option.bind_some]
  rfl

section

variable {console : Console} (hgood : console.Boots) {requirements : UInt32} {data : Irx → Bytes}
  {α β : Type} {ms ms' : List Irx} {p : DriverM α} {f : α → DriverM β}

theorem BootSpec.part {ok : Int → Prop} {p : DriverM Int}
    (hp : BootSpec console requirements data ms ok p) :
    BootPart console requirements data ms p :=
  ⟨hp.within, hp.loads.weaken fun _ _ hs => hs.2⟩

theorem BootPart.other (hp : p.Within (DriverOp.loadsOf (requiredModules requirements))) :
    BootPart console requirements data [] p :=
  ⟨hp, ⟨fun _ _ _ _ _ hm => by cases hm⟩⟩

theorem BootPart.mono (hp : BootPart console requirements data ms p) (hsub : ms' ⊆ ms) :
    BootPart console requirements data ms' p :=
  ⟨hp.within, hp.loads.weaken fun _ _ hs m hm => hs m (hsub hm)⟩

include hgood

theorem BootPart.bind (hp : BootPart console requirements data ms p)
    (hf : ∀ a, BootPart console requirements data ms' (f a)) :
    BootPart console requirements data (ms ++ ms') (p >>= f) := by
  constructor
  · exact Program.Within.bind hp.within fun a => (hf a).within
  · refine Program.Triple.bind
      (((Program.Triple.keepsBooting hgood.toLoadsStaged hp.within).and hp.loads).imp
        (fun _ hs => ⟨hs, hs⟩) fun _ _ hs => hs) fun a => ?_
    exact ((hf a).loads.and (Program.Triple.staysStarted ms
      ((hf a).within.mono (DriverOp.loadsOf.leaves ms)))).weaken fun _ _ hs =>
        Machine.Started.append hs.2 hs.1

theorem initBootGroup_boots (cwd : Bytes) (group : BootGroup)
    (hd : ∀ m ∈ group.modules, m ∈ requiredModules requirements) :
    BootPart console requirements data
      (group.modules.filter (· ∉ [Irx.iomanX, .fileXio])) (initBootGroup cwd group) := by
  have hdriver (d : Driver) (hstack : d.isStack = false)
      (hsub : d.responsible true ⊆ group.modules) :
      BootPart console requirements data (d.responsible true) (initDriver d true false) :=
    (initDriver_boots hgood hstack fun m hm => hd m (hsub hm)).part
  have hother {α : Type} {p : DriverM α}
      (hp : p.Within (DriverOp.loadsOf (requiredModules requirements))) :
      BootPart console requirements data [] p := BootPart.other hp
  cases group with
  | memcard =>
    refine (BootPart.bind hgood (hdriver .memcard rfl (by decide)) fun _ =>
      hother (Program.within_pure _)).mono ?_
    decide
  | cdfs =>
    refine (BootPart.bind hgood (hdriver .cdfs rfl (by decide)) fun _ =>
      hother (Program.within_pure _)).mono ?_
    decide
  | mass =>
    refine (BootPart.bind hgood (hdriver .usb rfl (by decide)) fun _ =>
      BootPart.bind hgood (hdriver .mx4sio rfl (by decide)) fun _ =>
        hother (Program.within_pure _)).mono ?_
    decide
  | hdd =>
    -- the dependencies are initialised by name, so the driver is called without them
    have hhdd : BootPart console requirements data [.ps2atad, .ps2hdd, .ps2fs]
        (initHddDriver false false) :=
      (returnStatus_boots .hdd (loadHddIRXs_boots hgood fun m hm => hd m
        ((show [Irx.ps2atad, .ps2hdd, .ps2fs] ⊆ BootGroup.hdd.modules by decide) hm))).part
    have hmount : mountCurrentHddPartition.Within
        (DriverOp.loadsOf (requiredModules requirements)) :=
      mountCurrentHddPartition_within.mono DriverOp.handlesFiles.loadsOf
    refine (BootPart.bind hgood (hdriver .poweroff rfl (by decide)) fun _ =>
      BootPart.bind hgood (hdriver .dev9 rfl (by decide)) fun _ =>
        BootPart.bind hgood hhdd fun _ =>
          BootPart.bind hgood (hother (lib_within.mpr trivial)) fun _ =>
            BootPart.bind hgood (hother hmount) fun _ =>
              hother (getcwd_within.mpr trivial)).mono ?_
    decide
  | none => exact hother (Program.within_pure _)

theorem bootFrom_boots (cwd : Bytes)
    (hd : ∀ m ∈ (getBootDeviceID (some cwd)).group.modules, m ∈ requiredModules requirements) :
    BootPart console requirements data (getBootDeviceID (some cwd)).group.modules
      (bootFrom cwd) := by
  have hfileXio : BootSpec console requirements data [.iomanX, .fileXio]
      (· = FileXioInitStatus.ok) initFileXioDriver :=
    initFileXioDriver_boots hgood fun m hm => hd m (BootGroup.fileXio_subset _ hm)
  refine (BootPart.bind hgood hfileXio.part fun _ =>
    BootPart.bind hgood (initBootGroup_boots hgood cwd _ hd) fun path =>
      BootPart.other (Program.Within.bind (waitUntilDeviceIsReady_within (fun _ => trivial) path)
        fun _ => Program.within_pure _)).mono ?_
  cases (getBootDeviceID (some cwd)).group <;> decide

end

/-! ## 5. What `NetManInit` answers -/

def Event.netManResult : Event → Option Int
  | .lib .netManInit result => some result
  | _ => none

/-- The results of `NetManInit` in a stretch of a trace, in the order of the calls. -/
def netManResults (es : List Event) : List Int := (es.filterMap Event.netManResult).reverse

theorem netManResults_append (es es' : List Event) :
    netManResults (es' ++ es) = netManResults es ++ netManResults es' := by
  rw [netManResults, List.filterMap_append, List.reverse_append]
  rfl

/-- The operation does not call `NetManInit`. -/
def DriverOp.sparesNetMan : DriverOp → Prop
  | .lib call => call ≠ .netManInit
  | .untilOk _ => False
  | _ => True

/-- The drivers whose initialisation calls it, once. -/
def Driver.callsNetMan : Driver → Bool
  | .netman | .eeip | .iopip => true
  | _ => false

theorem step_netManResults {console : Console} {op : DriverOp} {s : Machine}
    {r : op.Answer × Machine} (hop : op.sparesNetMan) (hstep : console.step op s = some r) :
    netManResults r.2.trace = netManResults s.trace := by
  have hcons (e : Event) (he : e.netManResult = none) :
      netManResults (e :: s.trace) = netManResults s.trace := by
    rw [netManResults, List.filterMap_cons_none he]
    rfl
  cases op with
  | lib call =>
    obtain rfl := Option.some.inj hstep
    rw [Machine.lib_trace]
    refine hcons _ ?_
    cases call <;> first | rfl | exact absurd rfl hop
  | loadIrx m args =>
    obtain rfl := Option.some.inj hstep
    show netManResults (s.loadIrx console m args).2.trace = _
    rw [Machine.loadIrx_eq]
    split
    · split
      · rfl
      · exact hcons _ rfl
    · rfl
  | unloadIrx m =>
    obtain rfl := Option.some.inj hstep
    show netManResults (s.unloadIrx console m).trace = _
    unfold Machine.unloadIrx
    split
    · exact hcons _ rfl
    · rfl
  | untilOk => exact hop.elim
  | abort => cases hstep
  | _ =>
    obtain rfl := Option.some.inj hstep
    rfl

theorem Program.Triple.keepsNetManResults {console : Console} {α : Type} {p : DriverM α}
    (hp : p.Within DriverOp.sparesNetMan) (rs : List Int) :
    Program.Triple console.step (fun s => netManResults s.trace = rs) p fun _ s =>
      netManResults s.trace = rs :=
  Program.Triple.keeps hp fun _ hop _ _ hs hstep => (step_netManResults hop hstep).trans hs

section

variable {p q : DriverM Int}

theorem returnStatus_sparesNetMan (d : Driver) (hp : p.Within DriverOp.sparesNetMan) :
    (returnStatus d p).Within DriverOp.sparesNetMan :=
  Program.Within.bind hp fun _ => Program.Within.bind (setStatus_within.mpr trivial) fun _ =>
    Program.within_pure _

theorem loadIRXs_sparesNetMan (blocks : List IrxBlock) (hp : p.Within DriverOp.sparesNetMan) :
    (loadIRXs blocks p).Within DriverOp.sparesNetMan := by
  induction blocks with
  | nil => exact hp
  | cons block blocks ih =>
    exact Program.Within.bind (loadIrx_within.mpr trivial) fun _ =>
      Program.within_ite ih (Program.within_pure _)

theorem withLibraries_sparesNetMan (d : Driver) (hp : p.Within DriverOp.sparesNetMan)
    (hq : q.Within DriverOp.sparesNetMan) :
    (withLibraries d p q).Within DriverOp.sparesNetMan :=
  Program.Within.bind hp fun _ => Program.Within.bind (setStatus_within.mpr trivial) fun _ =>
    Program.within_ite (Program.within_pure _) (returnStatus_sparesNetMan d hq)

theorem withDependency_sparesNetMan {init error : DriverM Int} {refused : Int → Bool}
    (hinit : init.Within DriverOp.sparesNetMan) (herror : error.Within DriverOp.sparesNetMan)
    (hp : p.Within DriverOp.sparesNetMan) :
    (withDependency true init refused error p).Within DriverOp.sparesNetMan :=
  Program.Within.bind hinit fun _ => Program.within_ite herror hp

end

theorem initDriver_sparesNetMan {d : Driver} (hd : d.callsNetMan = false) :
    (initDriver d true false).Within DriverOp.sparesNetMan := by
  have hblocks (d : Driver) (blocks : List IrxBlock) (status : Int) :
      (returnStatus d (loadIRXs blocks (pure status))).Within DriverOp.sparesNetMan :=
    returnStatus_sparesNetMan d (loadIRXs_sparesNetMan blocks (Program.within_pure _))
  have hload (blocks : List IrxBlock) (status : Int) :
      (loadIRXs blocks (pure status)).Within DriverOp.sparesNetMan :=
    loadIRXs_sparesNetMan blocks (Program.within_pure _)
  have herror (e : Int) : (pure e : DriverM Int).Within DriverOp.sparesNetMan :=
    Program.within_pure e
  have hfileXio : initFileXioDriver.Within DriverOp.sparesNetMan :=
    withLibraries_sparesNetMan _ (hload _ _)
      (Program.Within.bind (lib_within.mpr (show LibCall.fileXioInit ≠ .netManInit by decide))
        fun _ => herror _)
  have hcheck (call : LibCall) (hcall : call ≠ .netManInit) {bad : Int → Prop}
      [DecidablePred bad] {e : Int} {q : DriverM Int} (hq : q.Within DriverOp.sparesNetMan) : (do
        let result ← lib call
        if bad result then pure e else q).Within DriverOp.sparesNetMan := libCheck_within hcall hq
  cases d with
  | netman | eeip | iopip => cases hd
  | sio2man | bdm | usbd | cdfs | dev9 | smap => exact hblocks _ _ _
  | fileXio => exact hfileXio
  | memcard => exact withDependency_sparesNetMan (hblocks _ _ _) (herror _) (hblocks _ _ _)
  | usb =>
    exact withDependency_sparesNetMan (hblocks _ _ _) (herror _) <|
      withDependency_sparesNetMan (hblocks _ _ _) (herror _) (hblocks _ _ _)
  | mx4sio =>
    refine withDependency_sparesNetMan (hblocks _ _ _) (herror _) <|
      withDependency_sparesNetMan (hblocks _ _ _) (herror _) (returnStatus_sparesNetMan _ ?_)
    exact Program.Within.bind (isCOP2Pipelined_within.mpr trivial) fun _ =>
      Program.within_ite (herror _) (hload _ _)
  | hdd =>
    have hfails : hddDependencyError.Within DriverOp.sparesNetMan :=
      returnStatus_sparesNetMan _ (herror _)
    refine withDependency_sparesNetMan hfileXio hfails <|
      withDependency_sparesNetMan (hblocks _ _ _) hfails <|
      withDependency_sparesNetMan (hblocks _ _ _) hfails (returnStatus_sparesNetMan _ ?_)
    refine loadIRXs_sparesNetMan _ (Program.Within.bind ?_ fun _ =>
      Program.within_ite (herror _) (hload _ _))
    exact Program.Within.bind (lib_within.mpr (show hddStatus ≠ .netManInit by decide)) fun _ =>
      Program.within_ite (herror _) (Program.within_pure _)
  | joystick =>
    exact withDependency_sparesNetMan (hblocks _ _ _) (herror _) <|
      withLibraries_sparesNetMan _ (hload _ _) <|
      hcheck _ (by decide) (hcheck _ (by decide) (herror _))
  | audio | poweroff =>
    exact withLibraries_sparesNetMan _ (hload _ _) (hcheck _ (by decide) (herror _))
  | keyboard | camera =>
    exact withLibraries_sparesNetMan _
      (withDependency_sparesNetMan (hblocks _ _ _) (herror _) (hload _ _))
      (hcheck _ (by decide) (herror _))
  | mouse =>
    exact withLibraries_sparesNetMan _
      (withDependency_sparesNetMan (hblocks _ _ _) (herror _) (hload _ _))
      (hcheck _ (by decide)
        (Program.Within.bind (lib_within.mpr (show LibCall.ps2MouseReset ≠ .netManInit by decide))
          fun _ => herror _))

/-! ## 6. What an initialisation loads -/

/-- What initialising a driver with its dependencies loads, by the answer of its `NetManInit`: an IP
stack that is not answered 0 stops there, with two modules loaded. -/
def Driver.loadedWith (answer : Option Int) : Driver → List Irx
  | .eeip => if answer = some 0 then Driver.eeip.responsible true else [.ps2dev9, .netman]
  | .iopip => if answer = some 0 then Driver.iopip.responsible true else [.ps2dev9, .netman]
  | d => d.responsible true

/-- `init_D_driver` with its dependencies, for every `D` of the list. -/
def initAll (ds : List Driver) : DriverM (List Int) := runCalls (ds.map (.init · true false))

/-- What initialising drivers one after another loads, by the answers of `NetManInit` in order. -/
def loadedBy : List Driver → List Int → List Irx
  | [], _ => []
  | d :: ds, answers =>
    if d.callsNetMan then d.loadedWith answers.head? ++ loadedBy ds answers.tail
    else d.loadedWith none ++ loadedBy ds answers

theorem loadedBy_cons (d : Driver) (ds : List Driver) {answer : Option Int}
    (hanswer : answer.isSome = d.callsNetMan) (answers : List Int) :
    loadedBy (d :: ds) (answer.toList ++ answers) = d.loadedWith answer ++ loadedBy ds answers := by
  rw [loadedBy, ← hanswer]
  cases answer <;> rfl

theorem DriverOp.loadsOf.spares {ms : Set Irx} (hm : m ∉ ms) (op : DriverOp) (h : op.loadsOf ms) :
    op.spares m := by
  cases op with
  | loadIrx m' args => exact fun heq => hm (heq ▸ h)
  | unloadIrx m' => exact h.elim
  | _ => trivial

/-- While drivers are initialised: `ms` has been loaded, everything else is as it was, and
`NetManInit` has been answered as `rs` says. -/
structure Machine.LoadedSoFar (requirements : UInt32) (data : Irx → Bytes) (irx : Irx → IrxVars)
    (rs : List Int) (ms : List Irx) (s : Machine) : Prop where
  booting : s.Booting requirements data
  results : netManResults s.trace = rs
  started : s.Started ms
  others : ∀ m ∉ ms, s.irx m = irx m

/-- A program that loads just `ms`, returns as `ok` says, and does not call `NetManInit`. -/
structure LoadsJust {α : Type} (console : Console) (requirements : UInt32) (data : Irx → Bytes)
    (ms : List Irx) (ok : α → Prop) (p : DriverM α) : Prop where
  required : ∀ m ∈ ms, m ∈ requiredModules requirements
  loads : Program.Triple console.step (Machine.Booting requirements data) p fun a s =>
    ok a ∧ s.Started ms
  within : p.Within (DriverOp.loadsOf {m | m ∈ ms})
  sparesNetMan : p.Within DriverOp.sparesNetMan

section

variable {console : Console} (hgood : console.Boots) {requirements : UInt32} {data : Irx → Bytes}
  {irx : Irx → IrxVars} {rs : List Int} {ms ms' : List Irx} {α : Type}

/-- A program that neither executes nor unloads modules outside of `ms'` keeps the others. -/
theorem Program.Triple.keepsOthers {p : DriverM α} (hp : p.Within (DriverOp.loadsOf {m | m ∈ ms'}))
    (irx : Irx → IrxVars) (ms : List Irx) :
    Program.Triple console.step (fun s => ∀ m ∉ ms, s.irx m = irx m) p fun _ s =>
      ∀ m ∉ ms ++ ms', s.irx m = irx m := by
  refine (Program.Triple.keeps (P := fun s => ∀ m ∉ ms ++ ms', s.irx m = irx m) hp ?_).imp
    (fun s hs m hm => hs m fun h => hm (List.mem_append_left _ h)) fun _ _ hs => hs
  intro op hop s r hs hstep m hm
  have hspares : op.spares m :=
    DriverOp.loadsOf.spares (fun h => hm (List.mem_append_right _ h)) op hop
  exact ((step_effect hstep).irx_eq hspares).trans (hs m hm)

theorem LoadsJust.within_required {ok : α → Prop} {p : DriverM α}
    (hp : LoadsJust console requirements data ms ok p) :
    p.Within (DriverOp.loadsOf (requiredModules requirements)) := by
  refine hp.within.mono fun op hop => ?_
  cases op with
  | loadIrx m args => exact hp.required m hop
  | _ => exact hop

theorem LoadsJust.weaken {ok : α → Prop} {p : DriverM α}
    (hp : LoadsJust console requirements data ms ok p) :
    LoadsJust console requirements data ms (fun _ => True) p :=
  ⟨hp.required, hp.loads.weaken fun _ _ hs => ⟨trivial, hs.2⟩, hp.within, hp.sparesNetMan⟩

theorem LoadsJust.returnStatus {ok : Int → Prop} {p : DriverM Int} (d : Driver)
    (hp : LoadsJust console requirements data ms ok p) :
    LoadsJust console requirements data ms ok (returnStatus d p) where
  required := hp.required
  loads := (returnStatus_boots d ⟨hp.within_required, hp.loads⟩).loads
  within := Program.Within.bind hp.within fun _ =>
    Program.Within.bind (setStatus_within.mpr trivial) fun _ => Program.within_pure _
  sparesNetMan := returnStatus_sparesNetMan d hp.sparesNetMan

theorem netManInit_soFar :
    Program.Triple console.step (Machine.LoadedSoFar requirements data irx rs ms) (lib .netManInit)
      fun result s => s.LoadedSoFar requirements data irx (rs ++ [result]) ms := by
  refine .of_run (fun s => lib_run console s .netManInit) fun s hs => ?_
  refine ⟨⟨hs.booting.supplied, hs.booting.steady⟩, ?_, hs.started, hs.others⟩
  show netManResults ([.lib .netManInit (console.lib .netManInit s.trace)] ++ s.trace) = _
  rw [netManResults_append, hs.results]
  rfl

theorem setStatus_soFar (d : Driver) (status : Int) :
    Program.Triple console.step (Machine.LoadedSoFar requirements data irx rs ms)
      (setStatus d status) fun _ => Machine.LoadedSoFar requirements data irx rs ms :=
  .of_run (fun s => setStatus_run console s d status) fun _ hs =>
    ⟨⟨hs.booting.supplied, hs.booting.steady⟩, hs.results, hs.started, hs.others⟩

include hgood

theorem LoadsJust.soFar {ok : α → Prop} {p : DriverM α}
    (hp : LoadsJust console requirements data ms' ok p) :
    Program.Triple console.step (Machine.LoadedSoFar requirements data irx rs ms) p
      fun a s => ok a ∧ s.LoadedSoFar requirements data irx rs (ms ++ ms') := by
  have hwithin := hp.within_required
  have hbooting : Program.Triple console.step (Machine.Booting requirements data) p fun _ =>
      Machine.Booting requirements data := Program.Triple.keepsBooting hgood.toLoadsStaged hwithin
  have hkept := (hbooting.and (Program.Triple.keepsNetManResults hp.sparesNetMan rs)).and
    (Program.Triple.keepsOthers hp.within irx ms)
  have hstarted := hp.loads.and
    (Program.Triple.staysStarted ms (hwithin.mono (DriverOp.loadsOf.leaves ms)))
  refine (hkept.and hstarted).imp
    (fun s hs => ⟨⟨⟨hs.booting, hs.results⟩, hs.others⟩, hs.booting, hs.started⟩) fun _ s hs => ?_
  exact ⟨hs.2.1.1, hs.1.1.1, hs.1.1.2, Machine.Started.append hs.2.2 hs.2.1.2, hs.1.2⟩

/-- The blocks of `loadIRXs` and the status they end with. -/
theorem loadIRXs_just {blocks : List IrxBlock} (status : Int) (hms : blocks.map (·.irx) = ms)
    (hd : ∀ m ∈ ms, m ∈ requiredModules requirements) :
    LoadsJust console requirements data ms (· = status) (loadIRXs blocks (pure status)) := by
  have hspec : BootSpec console requirements data ms (· = status)
      (loadIRXs blocks (pure status)) :=
    loadIRXs_boots hgood.toLoadsStaged (pure_boots status) (by rw [List.append_nil, hms]) hd
  refine ⟨hd, hspec.loads, ?_, loadIRXs_sparesNetMan blocks (Program.within_pure _)⟩
  have hblocks (block : IrxBlock) (hblock : block ∈ blocks) : block.irx ∈ ms :=
    hms ▸ List.mem_map_of_mem hblock
  clear hspec hms hd
  induction blocks with
  | nil => exact Program.within_pure _
  | cons block blocks ih =>
    have hrest := ih fun b hb => hblocks b (List.mem_cons_of_mem _ hb)
    exact Program.Within.bind (loadIrx_within.mpr (hblocks block List.mem_cons_self)) fun _ =>
      Program.within_ite hrest (Program.within_pure _)

/-- The status of `init_netman_driver` tells the answer. -/
theorem initNetmanDriver_soFar (hd : ∀ m ∈ [Irx.netman], m ∈ requiredModules requirements) :
    Program.Triple console.step (Machine.LoadedSoFar requirements data irx rs ms) initNetmanDriver
      fun status s => ∃ result, (status = NetmanInitStatus.ok ↔ result = 0) ∧
        s.LoadedSoFar requirements data irx (rs ++ [result]) (ms ++ [.netman]) := by
  refine Program.Triple.bind (LoadsJust.soFar hgood (loadIRXs_just hgood _ rfl hd)) fun status => ?_
  refine Program.Triple.of_pure fun hstatus => ?_
  refine Program.Triple.bind (setStatus_soFar .netman status) fun _ => ?_
  rw [hstatus, if_neg (by decide)]
  have hlibrary : Program.Triple console.step
      (Machine.LoadedSoFar requirements data irx rs (ms ++ [.netman])) (do
        if (← lib .netManInit) ≠ 0 then
          pure NetmanInitStatus.eeError
        else
          pure NetmanInitStatus.ok) fun status s => ∃ result,
            (status = NetmanInitStatus.ok ↔ result = 0) ∧
            s.LoadedSoFar requirements data irx (rs ++ [result]) (ms ++ [.netman]) := by
    refine Program.Triple.bind netManInit_soFar fun (result : Int) => ?_
    refine Program.Triple.branch (fun hne => ?_) fun hzero => ?_
    · exact .ret fun s hs => ⟨result, iff_of_false (by decide) hne, hs⟩
    · exact .ret fun s hs => ⟨result, iff_of_true rfl (not_not.mp hzero), hs⟩
  refine Program.Triple.bind hlibrary fun status => Program.Triple.of_exists fun result => ?_
  refine Program.Triple.of_pure fun hstatus => ?_
  refine Program.Triple.bind (setStatus_soFar .netman status) fun _ => ?_
  exact .ret fun s hs => ⟨result, hstatus, hs⟩

/-- A stack whose `NetManInit` is not answered 0 stops there. -/
theorem withNetwork_soFar {e : Int} {own : List Irx} {p : DriverM Int}
    (hd : ∀ m ∈ [Irx.ps2dev9, .netman, .smap], m ∈ requiredModules requirements)
    (hp : LoadsJust console requirements data own (fun _ => True) p) :
    Program.Triple console.step (Machine.LoadedSoFar requirements data irx rs ms)
      (withNetwork true e p) fun _ s => ∃ result,
        s.LoadedSoFar requirements data irx (rs ++ [result])
          (ms ++ if result = 0 then [.ps2dev9, .netman, .smap] ++ own
            else [.ps2dev9, .netman]) := by
  have hsub {ms : List Irx} (h : ms ⊆ [Irx.ps2dev9, .netman, .smap]) :
      ∀ m ∈ ms, m ∈ requiredModules requirements := fun m hm => hd m (h hm)
  have hdev9 : LoadsJust console requirements data [.ps2dev9] (· = Dev9InitStatus.ok)
      initDev9Driver := .returnStatus _ (loadIRXs_just hgood _ rfl (hsub (by decide)))
  have hsmap : LoadsJust console requirements data [.smap] (· = SmapInitStatus.ok)
      initSmapDriver := .returnStatus _ (loadIRXs_just hgood _ rfl (hsub (by decide)))
  refine Program.Triple.bind (LoadsJust.soFar hgood hdev9) fun status => ?_
  refine Program.Triple.of_pure fun hstatus => ?_
  obtain rfl := hstatus
  refine Program.Triple.bind (initNetmanDriver_soFar hgood (hsub (by decide))) fun status => ?_
  refine Program.Triple.of_exists fun result => Program.Triple.of_pure fun hstatus => ?_
  refine Program.Triple.branch (fun hrefused => ?_) fun haccepted => ?_
  · have hne : result ≠ 0 := fun h => bne_iff_ne.mp hrefused (hstatus.mpr h)
    refine .ret fun s hs => ⟨result, ?_⟩
    rw [if_neg hne]
    rw [List.append_assoc] at hs
    exact hs
  · have hzero : result = 0 := hstatus.mp (not_not.mp fun h => haccepted (bne_iff_ne.mpr h))
    refine Program.Triple.bind (LoadsJust.soFar hgood hsmap) fun status => ?_
    refine Program.Triple.of_pure fun hstatus => ?_
    obtain rfl := hstatus
    refine (LoadsJust.soFar hgood hp).weaken fun _ s hs => ⟨result, ?_⟩
    rw [if_pos hzero]
    rw [List.append_assoc, List.append_assoc, List.append_assoc] at hs
    exact hs.2

theorem initDriver_soFar (d : Driver)
    (hd : ∀ m ∈ d.responsible true, m ∈ requiredModules requirements) :
    Program.Triple console.step (Machine.LoadedSoFar requirements data irx rs ms)
      (initDriver d true false) fun _ s => ∃ answer : Option Int, answer.isSome = d.callsNetMan ∧
        s.LoadedSoFar requirements data irx (rs ++ answer.toList) (ms ++ d.loadedWith answer) := by
  have hsub {ms : List Irx} (h : ms ⊆ d.responsible true) :
      ∀ m ∈ ms, m ∈ requiredModules requirements := fun m hm => hd m (h hm)
  have hother (hcalls : d.callsNetMan = false) (hstack : d.isStack = false)
      (hloaded : d.loadedWith none = d.responsible true) :
      Program.Triple console.step (Machine.LoadedSoFar requirements data irx rs ms)
        (initDriver d true false) fun _ s => ∃ answer : Option Int, answer.isSome = d.callsNetMan ∧
          s.LoadedSoFar requirements data irx (rs ++ answer.toList)
            (ms ++ d.loadedWith answer) := by
    have hjust : LoadsJust console requirements data (d.responsible true) (fun _ => True)
        (initDriver d true false) :=
      ⟨hd, (initDriver_boots hgood hstack hd).loads, initDriver_loadsOf d true false fun _ h => h,
        initDriver_sparesNetMan hcalls⟩
    refine (LoadsJust.soFar hgood hjust).weaken fun status s hs => ⟨none, hcalls.symm, ?_⟩
    rw [hloaded]
    simpa using hs.2
  cases d with
  | netman =>
    refine (initNetmanDriver_soFar hgood hd).weaken fun status s hs => ?_
    obtain ⟨result, -, hs⟩ := hs
    exact ⟨some result, rfl, hs⟩
  | eeip =>
    have hown : LoadsJust console requirements data [] (· = EeipInitStatus.ok)
        (initEeipDriver false) :=
      .returnStatus .eeip (loadIRXs_just hgood _ rfl (List.forall_mem_nil _))
    refine (withNetwork_soFar hgood (hsub (by decide)) hown.weaken).weaken fun status s hs => ?_
    obtain ⟨result, hs⟩ := hs
    refine ⟨some result, rfl, ?_⟩
    simp only [Driver.loadedWith, Option.some.injEq]
    exact hs
  | iopip =>
    have hblocks : BootSpec console requirements data [.ps2ipNm, .ps2ips] (fun _ => True)
        (initIopipDriver false) := by
      refine withLibraries_boots hgood.toLoadsStaged _ (loadIRXs_boots hgood.toLoadsStaged
        (pure_boots _) rfl (hsub (by decide))) (by decide) (anything_boots ?_)
      exact libCheck_within trivial (Program.within_pure _)
    have hnet : (initIopipDriver false).Within DriverOp.sparesNetMan :=
      withLibraries_sparesNetMan _ (loadIRXs_sparesNetMan _ (Program.within_pure _))
        (libCheck_within (show LibCall.ps2ipInit ≠ .netManInit by decide) (Program.within_pure _))
    have hown : LoadsJust console requirements data [.ps2ipNm, .ps2ips] (fun _ => True)
        (initIopipDriver false) :=
      ⟨hsub (by decide), hblocks.loads, initDriver_loadsOf .iopip false false fun _ h => h, hnet⟩
    refine (withNetwork_soFar hgood (hsub (by decide)) hown).weaken fun status s hs => ?_
    obtain ⟨result, hs⟩ := hs
    refine ⟨some result, rfl, ?_⟩
    simp only [Driver.loadedWith, Option.some.injEq]
    exact hs
  | _ => exact hother rfl rfl rfl

theorem initAll_soFar {ds : List Driver}
    (hds : ∀ d ∈ ds, ∀ m ∈ d.responsible true, m ∈ requiredModules requirements) :
    Program.Triple console.step (Machine.LoadedSoFar requirements data irx rs ms) (initAll ds)
      fun _ s => ∃ answers,
        s.LoadedSoFar requirements data irx (rs ++ answers) (ms ++ loadedBy ds answers) := by
  induction ds generalizing rs ms with
  | nil =>
    refine .ret fun s hs => ⟨[], ?_⟩
    rw [List.append_nil, loadedBy, List.append_nil]
    exact hs
  | cons d ds ih =>
    rw [List.forall_mem_cons] at hds
    refine Program.Triple.bind (initDriver_soFar hgood d hds.1) fun status => ?_
    refine Program.Triple.of_exists fun answer => Program.Triple.of_pure fun hanswer => ?_
    refine Program.Triple.bind (ih hds.2) fun more => .ret fun s hs => ?_
    obtain ⟨answers, hs⟩ := hs
    refine ⟨answer.toList ++ answers, ?_⟩
    rw [loadedBy_cons d ds hanswer, ← List.append_assoc, ← List.append_assoc]
    exact hs

end

/-! ## 7. What was staged and what is loaded -/

/-- Beside bdm, a boot loads everything that was staged for its device. -/
theorem BootGroup.required_modules (bootDevice : BootDevice) (m : Irx)
    (hm : m ∈ requiredModules (ps2DriversImgRequirementsForBootDevice bootDevice)) :
    m ∈ bootDevice.group.modules ∨ bootDevice.group = .hdd ∧ m ∈ [Irx.bdm, .bdmfsFatfs] := by
  rw [mem_requiredModules] at hm
  revert hm
  cases bootDevice <;> cases m <;> decide

/-- The initialisations that called `NetManInit`, with the answers they got. -/
def netManCalls (ds : List Driver) (answers : List Int) : List (Driver × Int) :=
  (ds.filter Driver.callsNetMan).zip answers

theorem Driver.mem_loadedWith (d : Driver) (answer : Int) (m : Irx) :
    m ∈ d.loadedWith (some answer) ↔
      m ∈ d.loadedWith none ∨ answer = 0 ∧ m ∈ d.responsible true := by
  by_cases hzero : answer = 0
  · subst hzero
    cases d <;> cases m <;> decide
  · have hsame : d.loadedWith (some answer) = d.loadedWith none := by
      cases d <;> simp [Driver.loadedWith, hzero]
    rw [hsame, or_iff_left fun h => hzero h.1]

/-- What initialising the drivers loads: what each of them always loads, and what the ones that are
answered 0 do. -/
theorem mem_loadedBy (ds : List Driver) (answers : List Int) (m : Irx) :
    m ∈ loadedBy ds answers ↔ (∃ d ∈ ds, m ∈ d.loadedWith none) ∨
      ∃ d, (d, 0) ∈ netManCalls ds answers ∧ m ∈ d.responsible true := by
  induction ds generalizing answers with
  | nil => simp [loadedBy, netManCalls]
  | cons d ds ih =>
    rw [loadedBy, List.exists_mem_cons_iff]
    cases hcalls : d.callsNetMan with
    | false =>
      have hskip : netManCalls (d :: ds) answers = netManCalls ds answers := by
        rw [netManCalls, List.filter_cons_of_neg (by simp [hcalls]), netManCalls]
      rw [if_neg Bool.false_ne_true, List.mem_append, ih answers, hskip, or_assoc]
    | true =>
      rw [if_pos rfl, List.mem_append, ih answers.tail]
      cases answers with
      | nil => simp [netManCalls]
      | cons answer answers =>
        have hfirst : netManCalls (d :: ds) (answer :: answers) =
            (d, answer) :: netManCalls ds answers := by
          rw [netManCalls, List.filter_cons_of_pos hcalls, List.zip_cons_cons, netManCalls]
        have hhere : (∃ d', (d', 0) ∈ (d, answer) :: netManCalls ds answers ∧
            m ∈ d'.responsible true) ↔ answer = 0 ∧ m ∈ d.responsible true ∨
              ∃ d', (d', 0) ∈ netManCalls ds answers ∧ m ∈ d'.responsible true := by
          simp only [List.mem_cons, Prod.mk.injEq, or_and_right, exists_or]
          refine or_congr_left ⟨?_, fun h => ⟨d, ⟨rfl, h.1.symm⟩, h.2⟩⟩
          rintro ⟨d', ⟨rfl, hzero⟩, hm⟩
          exact ⟨hzero.symm, hm⟩
        rw [List.head?_cons, List.tail_cons, d.mem_loadedWith, hfirst, hhere]
        exact or_or_or_comm

/-- What the IP stacks of the additional drivers are staged for is loaded: `NetManInit` has answered
0 when the stack of the IOP was initialised, and smap, which the stack of the EE loads then, comes
from a driver of its own or from either stack. -/
structure StacksComeUp (additional : UInt32) (calls : List (Driver × Int)) : Prop where
  iopip : requires additional .iopip = true → (Driver.iopip, 0) ∈ calls
  eeip : requires additional .eeip = true →
    requires additional .smap = true ∨ (Driver.eeip, 0) ∈ calls ∨ (Driver.iopip, 0) ∈ calls

/-- What is loaded covers what was staged. -/
theorem boot_covers_iff {bootDevice : BootDevice} {additional : UInt32} {ds : List Driver}
    {answers : List Int} (hds : ∀ d, d ∈ ds ↔ requires additional d = true) :
    (∀ m ∈ requiredModules (ps2DriversImgRequirementsForBootDevice bootDevice ||| additional),
        m ∈ bootDevice.group.modules ++ loadedBy ds answers) ↔
      (bootDevice.group = .hdd → Irx.bdm ∈ requiredModules additional) ∧
        StacksComeUp additional (netManCalls ds answers) := by
  have hmem (m : Irx) : m ∈ bootDevice.group.modules ++ loadedBy ds answers ↔
      m ∈ bootDevice.group.modules ∨ (∃ d ∈ ds, m ∈ d.loadedWith none) ∨
        ∃ d, (d, 0) ∈ netManCalls ds answers ∧ m ∈ d.responsible true := by
    rw [List.mem_append, mem_loadedBy]
  have hcalls {d : Driver} {answer : Int} (h : (d, answer) ∈ netManCalls ds answers) :
      d ∈ ds ∧ d.callsNetMan = true := List.mem_filter.mp (List.of_mem_zip h).1
  constructor
  · intro hcover
    refine ⟨fun hhdd => ?_, fun hiopip => ?_, fun heeip => ?_⟩
    · -- the HDD closure holds bdm, which the boot does not load
      have hreq : Irx.bdm ∈ requiredModules (ps2DriversImgRequirementsForBootDevice bootDevice |||
          additional) := by
        refine (requiredModules_or _ _ _).mpr (Or.inl ?_)
        revert hhdd
        cases bootDevice <;> decide
      rcases (hmem _).mp (hcover _ hreq) with hgroup | ⟨d, hd, hm⟩ | ⟨d, hd, hm⟩
      · rw [hhdd] at hgroup
        exact absurd hgroup (by decide)
      · refine ⟨d, (hds d).mp hd, ?_⟩
        revert hm
        cases d <;> decide
      · exact ⟨d, (hds d).mp (hcalls hd).1, (d.mem_responsible _).mp hm⟩
    · -- only its own driver loads the modules of the IOP stack
      have hreq : Irx.ps2ipNm ∈ requiredModules
          (ps2DriversImgRequirementsForBootDevice bootDevice ||| additional) :=
        (requiredModules_or _ _ _).mpr (Or.inr ⟨.iopip, hiopip, by decide⟩)
      rcases (hmem _).mp (hcover _ hreq) with hgroup | ⟨d, hd, hm⟩ | ⟨d, hd, hm⟩
      · exact absurd hgroup (by cases bootDevice.group <;> decide)
      · exact absurd hm (by cases d <;> decide)
      · have hd' : d = .iopip := by
          revert hm
          cases d <;> decide
        exact hd' ▸ hd
    · have hreq : Irx.smap ∈ requiredModules (ps2DriversImgRequirementsForBootDevice bootDevice |||
          additional) := (requiredModules_or _ _ _).mpr (Or.inr ⟨.eeip, heeip, by decide⟩)
      rcases (hmem _).mp (hcover _ hreq) with hgroup | ⟨d, hd, hm⟩ | ⟨d, hd, hm⟩
      · exact absurd hgroup (by cases bootDevice.group <;> decide)
      · have hd' : d = .smap := by
          revert hm
          cases d <;> decide
        exact Or.inl (hd' ▸ (hds d).mp hd)
      · have hd' : d = .eeip ∨ d = .iopip := by
          have hcall := (hcalls hd).2
          revert hm hcall
          cases d <;> decide
        rcases hd' with rfl | rfl
        · exact Or.inr (Or.inl hd)
        · exact Or.inr (Or.inr hd)
  · rintro ⟨hbdm, hstacks⟩ m hm
    rw [hmem]
    rcases (requiredModules_or _ _ m).mp hm with hboot | ⟨d, hd, hm⟩
    · rcases BootGroup.required_modules bootDevice m hboot with hgroup | ⟨hhdd, hm⟩
      · exact Or.inl hgroup
      · -- whatever needs bdm loads both of its modules
        obtain ⟨d, hd, hdm⟩ := hbdm hhdd
        refine Or.inr (Or.inl ⟨d, (hds d).mpr hd, ?_⟩)
        revert hm hdm
        cases d <;> cases m <;> decide
    · by_cases hsure : m ∈ d.loadedWith none
      · exact Or.inr (Or.inl ⟨d, (hds d).mpr hd, hsure⟩)
      · have hstack : d = .iopip ∨ d = .eeip ∧ m = .smap := by
          revert hm hsure
          cases d <;> cases m <;> decide
        rcases hstack with rfl | ⟨rfl, rfl⟩
        · exact Or.inr (Or.inr ⟨_, hstacks.iopip hd, (Driver.mem_responsible _ m).mpr hm⟩)
        · rcases hstacks.eeip hd with hsmap | hcall | hcall
          · exact Or.inr (Or.inl ⟨.smap, (hds _).mpr hsmap, by decide⟩)
          · exact Or.inr (Or.inr ⟨_, hcall, by decide⟩)
          · exact Or.inr (Or.inr ⟨_, hcall, by decide⟩)

/-- A required module that is still to be executed counts as staged. -/
theorem Supplied.left {requirements : UInt32} {data : Irx → Bytes} {s : Machine}
    (hs : Supplied requirements data s) {m : Irx} (hm : m ∈ requiredModules requirements)
    (hreset : s.irx m = .reset) : s.world.provider.stagedCount ≠ 0 := by
  have hwaiting := hs.waiting m hm hreset
  have hinv := hs.valid.invariant
  intro hcount
  have hidle := (Provider.idle_iff_payload hinv).mp ⟨hinv.null_iff_count.mpr hcount, hcount⟩
  rw [stagedPayload, hidle] at hwaiting
  cases hwaiting


/-! ## 8. The boot profile -/

theorem bootFrom_loadsOf (cwd : Bytes) {ms : Set Irx}
    (hsub : ∀ m ∈ (getBootDeviceID (some cwd)).group.modules, m ∈ ms) :
    (bootFrom cwd).Within (DriverOp.loadsOf ms) := by
  refine Program.Within.bind
    (initFileXioDriver_loadsOf fun m hm => hsub m (BootGroup.fileXio_subset _ hm)) fun _ => ?_
  refine Program.Within.bind (initBootGroup_loadsOf cwd _ hsub) fun path => ?_
  exact Program.Within.bind (waitUntilDeviceIsReady_within (fun _ => trivial) path) fun _ =>
    Program.within_pure _

section

variable {console : Console} (hgood : console.Boots) {requirements : UInt32} {data : Irx → Bytes}
  {s t : Machine}

include hgood

/-- The boot loads the modules of its device and no others. -/
theorem boot_soFar
    (hgroup : ∀ m ∈ (getBootDeviceID (some s.cwd)).group.modules, m ∈ requiredModules requirements)
    (hs : s.Booting requirements data)
    (ht : initOnlyBootPs2FilesystemDriver.run console.step s = some ((), t)) :
    t.LoadedSoFar requirements data s.irx (netManResults t.trace)
      (getBootDeviceID (some s.cwd)).group.modules := by
  rw [initOnlyBootPs2FilesystemDriver_run] at ht
  have hboots : BootPart console requirements data _ (bootFrom s.cwd) :=
    bootFrom_boots hgood s.cwd hgroup
  have hbooting := (Program.Triple.keepsBooting hgood.toLoadsStaged hboots.within).holds s hs _ ht
  have hothers := (Program.Triple.keepsOthers (bootFrom_loadsOf s.cwd fun m hm => hm) s.irx
    []).holds s (fun m _ => rfl) _ ht
  exact ⟨hbooting, rfl, hboots.loads.holds s hs _ ht, hothers⟩

omit hgood in
/-- Nothing is left exactly when everything that was staged has been loaded. -/
theorem Machine.LoadedSoFar.nothing_left_iff {irx : Irx → IrxVars} {rs : List Int} {ms : List Irx}
    (h : s.LoadedSoFar requirements data irx rs ms) (hreset : ∀ m, irx m = .reset) :
    (s.world.provider.stagedCount = 0 ∧ s.world.provider.stagedBytes = 0) ↔
      ∀ m ∈ requiredModules requirements, m ∈ ms := by
  constructor
  · rintro ⟨hcount, -⟩ m hm
    by_contra hout
    exact h.booting.supplied.left hm ((h.others m hout).trans (hreset m)) hcount
  · exact fun hall => h.booting.supplied.nothing_left fun m hm => h.started m (hall m hm)

end

/-- After booting and initialising the additional drivers nothing is staged any more exactly when
bdm is among the additional modules if the boot device is the HDD, and the IP stacks come up with
what `NetManInit` has answered. -/
theorem boot_leaves_nothing_staged {console : Console} (hgood : console.Boots)
    (steps : List (Env × ProviderOp)) (env : Env) (imagePath : Option Bytes) {cwd : Bytes}
    (hmount : mountable cwd) {additional : UInt32} {ds : List Driver}
    (hds : ∀ d, d ∈ ds ↔ requires additional d = true) {s : Machine} (hcwd : s.cwd = cwd)
    (hreset : ∀ m, s.irx m = .reset) :
    let staged := ps2DriversImgStageForPath irxId env imagePath (some cwd) additional
      (runProvider irxId steps World.initial)
    staged.1 = .ok →
    ∃ t r es, initOnlyBootPs2FilesystemDriver.run console.step { s with world := staged.2 } =
        some ((), t) ∧
      (initAll ds).run console.step t = some r ∧ r.2.trace = es ++ t.trace ∧
      ((r.2.world.provider.stagedCount = 0 ∧ r.2.world.provider.stagedBytes = 0) ↔
        ((getBootDeviceID (some cwd)).group = .hdd → Irx.bdm ∈ requiredModules additional) ∧
          StacksComeUp additional (netManCalls ds (netManResults es))) := by
  intro staged hok
  subst hcwd
  have hw := runProvider_valid irxId steps World.initial_valid
  have hevent : (StageCall.stageForPath imagePath (some s.cwd) additional).event env = _ := rfl
  obtain ⟨data, hdata⟩ := StageCall.run_stagedFor hevent hw hok hreset
  have hbooting : ({ s with world := staged.2 } : Machine).Booting
      (ps2DriversImgRequirementsForBootDevice (getBootDeviceID (some s.cwd)) ||| additional) data :=
    ⟨hdata, fun m => Or.inl (hreset m)⟩
  obtain ⟨⟨⟨⟩, t⟩, ht⟩ :=
    initOnlyBootPs2FilesystemDriver_returns console (s := { s with world := staged.2 }) hmount
  have hboot := boot_soFar hgood (fun m hm =>
    (requiredModules_or _ _ m).mpr (Or.inl (BootGroup.modules_required _ m hm))) hbooting ht
  have hinit : (initAll ds).Within DriverOp.comesBack := by
    clear hds
    induction ds with
    | nil => exact Program.within_pure _
    | cons d ds ih =>
      refine Program.Within.bind ((initDriver_reports d true false).within.mono
        DriverOp.bringsUp.comesBack) fun status => ?_
      exact Program.Within.bind ih fun more => Program.within_pure _
  obtain ⟨r, hr⟩ := run_comesBack hinit t
  obtain ⟨es, htrace⟩ := run_suffix console hr
  have hrequired (d : Driver) (hd : d ∈ ds) (m : Irx) (hm : m ∈ d.responsible true) :=
    (requiredModules_or (ps2DriversImgRequirementsForBootDevice (getBootDeviceID (some s.cwd)))
      additional m).mpr (Or.inr ⟨d, (hds d).mp hd, (d.mem_responsible m).mp hm⟩)
  obtain ⟨answers, hall⟩ := (initAll_soFar hgood hrequired).holds t hboot r hr
  have hanswers : netManResults es = answers := by
    have hresults := hall.results
    rw [← htrace, netManResults_append] at hresults
    exact List.append_cancel_left hresults
  refine ⟨t, r, es, ht, hr, htrace.symm, ?_⟩
  rw [hall.nothing_left_iff hreset, hanswers]
  exact boot_covers_iff hds

/-- A console that boots; only `NetManInit` may fail. -/
def Console.booting (netManInit : List Event → Int) : Console where
  flavor := .image
  exec _ _ := (7, 0)
  unload _ _ := 0
  lib call past :=
    match call with
    | .netManInit => netManInit past
    | .malloc _ | .strdup _ => 1
    | _ => 0
  cop2Pipelined := true
  patience := 1

theorem Console.booting_boots (netManInit : List Event → Int) :
    (Console.booting netManInit).Boots where
  flavor := rfl
  exec _ _ := ⟨show (0 : Int) ≤ 7 by decide, show (0 : Int) ≠ 1 by decide⟩
  pipelined := rfl
  hddStatus _ := ⟨show (0 : Int) ≤ 0 by decide, show (0 : Int) < 3 by decide⟩
  malloc _ _ := show (1 : Int) ≠ 0 by decide
  strdup _ _ := show (1 : Int) ≠ 0 by decide
  mount _ _ _ := show (0 : Int) ≤ 0 by decide

/-- `NetManInit` fails until it has been called once. -/
def netManSecond (past : List Event) : Int := if netManResults past = [] then -1 else 0

/-- The first `NetManInit` fails, in the driver of its own, and the stack of the IOP comes up. -/
theorem boot_leaves_nothing_staged_secondNetMan :
    let s := Machine.initial hddAppPath World.initial
    let staged := ps2DriversImgStageForPath irxId everyModuleEnv (some (lit "a.irximg"))
      (some hddAppPath) (Driver.usb.req ||| Driver.netman.req ||| Driver.iopip.req) World.initial
    ∃ t r, initOnlyBootPs2FilesystemDriver.run (Console.booting netManSecond).step
        { s with world := staged.2 } = some ((), t) ∧
      (initAll [.usb, .netman, .iopip]).run (Console.booting netManSecond).step t = some r ∧
      r.2.world.provider.stagedCount = 0 ∧ r.2.world.provider.stagedBytes = 0 := by
  intro s staged
  have hds (d : Driver) : d ∈ [Driver.usb, .netman, .iopip] ↔
      requires (Driver.usb.req ||| Driver.netman.req ||| Driver.iopip.req) d = true := by
    cases d <;> decide
  obtain ⟨t, r, es, ht, hr, htrace, hempty⟩ := boot_leaves_nothing_staged
    (Console.booting_boots netManSecond) [] everyModuleEnv (some (lit "a.irximg")) (by decide) hds
    (s := s) (rfl : s.cwd = hddAppPath) (fun _ => rfl) (by decide +kernel)
  replace ht : initOnlyBootPs2FilesystemDriver.run (Console.booting netManSecond).step
      { s with world := staged.2 } = some ((), t) := ht
  have hboot : (initOnlyBootPs2FilesystemDriver.run (Console.booting netManSecond).step
      { s with world := staged.2 }).map (netManResults ·.2.trace) = some [] := by decide +kernel
  have hall : ((initOnlyBootPs2FilesystemDriver.run (Console.booting netManSecond).step
      { s with world := staged.2 }).bind fun u => (initAll [.usb, .netman, .iopip]).run
        (Console.booting netManSecond).step u.2).map (netManResults ·.2.trace) = some [-1, 0] := by
    decide +kernel
  have hanswers : netManResults es = [-1, 0] := by
    rw [ht] at hboot hall
    have hfirst : netManResults t.trace = [] := Option.some.inj hboot
    rw [Option.bind_some, hr, Option.map_some, htrace, netManResults_append, hfirst] at hall
    exact Option.some.inj hall
  refine ⟨t, r, ht, hr, hempty.mpr ⟨fun _ => by decide, ?_⟩⟩
  rw [hanswers]
  exact ⟨fun _ => by decide, fun h => absurd h (by decide)⟩

/-- Without drivers that need bdm its two modules stay. -/
theorem boot_leaves_bdm_staged :
    let s := Machine.initial hddAppPath World.initial
    let staged := ps2DriversImgStageForPath irxId everyModuleEnv (some (lit "a.irximg"))
      (some hddAppPath) 0 World.initial
    staged.1 = .ok ∧ (Console.booting fun _ => 0).Boots ∧
      ((initOnlyBootPs2FilesystemDriver.run (Console.booting fun _ => 0).step
          { s with world := staged.2 }).bind fun t =>
        (initAll []).run (Console.booting fun _ => 0).step t.2).map
        (fun r => (r.2.world.provider.stagedCount, r.2.world.provider.stagedBytes)) =
        some (2, 2) := by
  intro s staged
  refine ⟨?_, Console.booting_boots fun _ => 0, ?_⟩ <;> decide +kernel

end Ps2Drivers
