import Ps2Drivers.Drivers.Shutdown
import Ps2Drivers.Drivers.SwitchOff
import Ps2Drivers.Drivers.Unloading

/-!
# Modules stacked on modules

A module that an initialisation loads later may use one that it loads before.  The teardowns are
written out by hand, and most of them unload in the order opposite to the one of loading; this file
finds the pairs for which one does not.
-/

open Binary CString

namespace Ps2Drivers

/-! ## 1. What is stacked on what -/

/-- The pairs of a list whose first component comes before the second. -/
def orderedPairs : List Irx → List (Irx × Irx)
  | [] => []
  | m :: ms => ms.map (m, ·) ++ orderedPairs ms

/-- The pairs of modules the initialisation loads one after the other. -/
def Driver.stack (d : Driver) : List (Irx × Irx) := orderedPairs (d.responsible true)

/-- The pairs whose upper module is the driver's own. -/
def Driver.ownStack (d : Driver) : List (Irx × Irx) := d.stack.filter (·.2 ∈ d.ownModules)

def bothLoaded (q : Irx × Irx) (s : Machine) : Prop :=
  loaded q.1 s.trace = true ∧ loaded q.2 s.trace = true

/-- Whenever the program unloads a module, no module stacked on it is loaded. -/
def UnloadsInOrder {α : Type} (console : Console) (stack : List (Irx × Irx)) (p : DriverM α)
    (s : Machine) : Prop :=
  ∀ m t, Program.Reaches console.step (.unloadIrx m) t p s → (t.irx m).checkUnload = true →
    ∀ m', (m, m') ∈ stack → loaded m' t.trace = false

/-- The pairs whose lower module is unloaded before the upper one, if the upper one is at all. -/
def crossed (stack : List (Irx × Irx)) (order : List Irx) : List (Irx × Irx) :=
  stack.filter fun q => q.1 ∈ order ∧ q.2 ∉ order.takeWhile (· != q.1)

section

variable {console : Console} {stack : List (Irx × Irx)} {order : List Irx} {s : Machine}
  {α β : Type} {p : DriverM α} {q : α → DriverM β}

theorem mem_crossed {m m' : Irx} {before after : List Irx} (hm : m ∉ before) :
    (m, m') ∈ crossed stack (before ++ m :: after) ↔ (m, m') ∈ stack ∧ m' ∉ before := by
  have hbefore : (before ++ m :: after).takeWhile (· != m) = before := by
    have hne (a : Irx) (ha : a ∈ before) : (a != m) = true :=
      bne_iff_ne.mpr fun heq => hm (heq ▸ ha)
    rw [List.takeWhile_append_of_pos hne, List.takeWhile_cons_of_neg (by simp), List.append_nil]
  rw [crossed, List.mem_filter, decide_eq_true_eq, hbefore]
  exact and_congr_right fun _ => and_iff_right (List.mem_append_right _ List.mem_cons_self)

theorem unloadsInOrder_bind :
    UnloadsInOrder console stack (p >>= q) s ↔ UnloadsInOrder console stack p s ∧
      ∀ r, p.run console.step s = some r → UnloadsInOrder console stack (q r.1) r.2 := by
  constructor
  · intro h
    exact ⟨fun m t ht => h m t ht.bind_left, fun r hr m t ht => h m t (.bind_right hr ht)⟩
  · rintro ⟨hp, hq⟩ m t ht
    rcases Program.reaches_bind ht with hleft | ⟨r, hr, hright⟩
    · exact hp m t hleft
    · exact hq r hr m t hright

theorem reaches_accounted (hloads : console.Loads) (hs : s.Accounted) {op : DriverOp} {t : Machine}
    (hreach : Program.Reaches console.step op t p s) : t.Accounted :=
  ((Program.Safe.of_keeps (Program.within_true p) fun _ _ _ _ hs hstep =>
    (step_effect hstep).accounted hloads hs).holds s hs op t hreach).2

/-- The order is safe from a state in which no crossed pair is loaded. -/
theorem unloadsInOrder_of_emits (hloads : console.Loads) (hp : p.Emits DriverOp.unloads order)
    (hw : p.Within (DriverOp.loadsIn [])) (hs : s.Accounted)
    (hcrossed : ∀ q ∈ crossed stack order, ¬ bothLoaded q s) : UnloadsInOrder console stack p s := by
  intro m t hreach hunload m' hpair
  obtain ⟨before, after, hsplit, hunloaded⟩ := hp.reaches (unloadedBy_tracks console) hw hreach
  have ht := reaches_accounted hloads hs hreach
  by_contra hup
  rw [Bool.not_eq_false, hunloaded.loaded hs ht, Bool.and_eq_true, decide_eq_true_eq] at hup
  rw [← ht.loaded_eq, hunloaded.loaded hs ht, Bool.and_eq_true, decide_eq_true_eq] at hunload
  -- neither was unloaded yet, so both were loaded from the start
  refine hcrossed (m, m') ?_ ⟨hunload.1, hup.1⟩
  rw [hsplit]
  exact (mem_crossed hunload.2).mpr ⟨hpair, hup.2⟩

theorem DriverOp.unloads_eq_singleton {op : DriverOp} {m : Irx} (h : op.unloads = [m]) :
    op = .unloadIrx m := by
  cases op <;> first | cases h; rfl | cases h

/-- Where every call comes back, each crossed pair that is loaded shows. -/
theorem unloadsInOrder_iff (hloads : console.Loads) (hp : p.Emits DriverOp.unloads order)
    (hw : p.Within (DriverOp.loadsIn [])) (hback : p.Within DriverOp.comesBack)
    (hs : s.Accounted) :
    UnloadsInOrder console stack p s ↔ ∀ q ∈ crossed stack order, ¬ bothLoaded q s := by
  refine ⟨?_, unloadsInOrder_of_emits hloads hp hw hs⟩
  rintro horder ⟨m, m'⟩ hmem ⟨hlow, hup⟩
  have hin : m ∈ order := by
    have hq := (List.mem_filter.mp hmem).2
    exact (of_decide_eq_true hq).1
  -- the first time the lower module is named, the upper one has not been
  obtain ⟨before, after, rfl, hm⟩ := List.eq_append_cons_of_mem hin
  obtain ⟨hpair, hm'⟩ := (mem_crossed hm).mp hmem
  obtain ⟨op, t, hop, hreach, hunloaded⟩ := Program.Emits.reaches_label (unloadedBy_tracks console)
    (fun op => by cases op <;> first | exact Or.inl rfl | exact Or.inr ⟨_, rfl⟩)
    (DriverOp.comesBack.step console) hp hw hback ((unloadedBy_tracks console).refl s)
  obtain rfl := DriverOp.unloads_eq_singleton hop
  rw [List.nil_append] at hunloaded
  have ht := reaches_accounted hloads hs hreach
  have hstays {a : Irx} (ha : loaded a s.trace = true) (hna : a ∉ before) :
      loaded a t.trace = true := by
    rw [hunloaded.loaded hs ht, ha, decide_eq_true hna]
    rfl
  have hfree := horder m t hreach (ht.loaded_eq m ▸ hstays hlow hm) m' hpair
  rw [hstays hup hm'] at hfree
  cases hfree

/-! ## 2. The drivers -/

/-- The driver's modules that its teardown unloads in the order of loading. -/
def Driver.crossed : Driver → List (Irx × Irx)
  | .memcard => [(.mcman, .mcserv)]
  | .joystick => [(.mtapman, .padman)]
  | _ => []

/-- All other drivers unload in the opposite order, whatever the flag. -/
theorem Driver.crossed_eq (d : Driver) (deinitDependencies : Bool) :
    Ps2Drivers.crossed d.stack (d.unloadOrder deinitDependencies) = d.crossed := by
  cases d <;> cases deinitDependencies <;> decide

theorem deinitDriver_loadsIn (d : Driver) (deps : Bool) :
    (deinitDriver d deps).Within (DriverOp.loadsIn []) :=
  (deinitDriver_deinit deps d).within.mono (DriverOp.tearsDown.loadsIn [])

theorem deinitDriver_unloadsInOrder_iff (hloads : console.Loads) (hs : s.Accounted) (d : Driver)
    (deps : Bool) : UnloadsInOrder console d.stack (deinitDriver d deps) s ↔
      ∀ q ∈ d.crossed, ¬ bothLoaded q s := by
  rw [← d.crossed_eq deps]
  have hiff (hback : (deinitDriver d deps).Within DriverOp.comesBack) :
      UnloadsInOrder console d.stack (deinitDriver d deps) s ↔
        ∀ q ∈ Ps2Drivers.crossed d.stack (d.unloadOrder deps), ¬ bothLoaded q s :=
    unloadsInOrder_iff hloads (deinitDriver_emits d deps) (deinitDriver_loadsIn d deps) hback hs
  by_cases hnone : d.crossed = []
  · -- nothing is crossed, so nothing has to be reached
    rw [d.crossed_eq deps, hnone]
    refine iff_of_true (unloadsInOrder_of_emits hloads (deinitDriver_emits d deps)
      (deinitDriver_loadsIn d deps) hs ?_) (List.forall_mem_nil _)
    rw [d.crossed_eq deps, hnone]
    exact List.forall_mem_nil _
  · cases d with
    | memcard | joystick => exact hiff (deinitDriver_comesBack _ deps (by cases deps <;> decide))
    | _ => exact absurd rfl hnone

/-! ## 3. One part after another -/

/-- From `s` to `t` the modules in `order` were unloaded, and nothing else was done to a module. -/
structure TakenDown (order : List Irx) (s t : Machine) : Prop where
  accounted : t.Accounted
  loaded_eq : ∀ m, loaded m t.trace = (loaded m s.trace && decide (m ∉ order))
  world : t.world = s.world

theorem TakenDown.trans {order' : List Irx} {t u : Machine} (h : TakenDown order s t)
    (h' : TakenDown order' t u) : TakenDown (order ++ order') s u where
  accounted := h'.accounted
  loaded_eq m := by
    rw [h'.loaded_eq, h.loaded_eq, Bool.and_assoc, ← Bool.decide_and]
    simp only [List.mem_append, not_or]
  world := h'.world.trans h.world

theorem TakenDown.loaded_of_not_mem {t : Machine} (h : TakenDown order s t) {m : Irx}
    (hm : m ∉ order) : loaded m t.trace = loaded m s.trace := by
  rw [h.loaded_eq, decide_eq_true hm, Bool.and_true]

theorem TakenDown.loaded_of_mem {t : Machine} (h : TakenDown order s t) {m : Irx}
    (hm : m ∈ order) : loaded m t.trace = false := by
  rw [h.loaded_eq, decide_eq_false (not_not.mpr hm), Bool.and_false]

theorem ModuleEffect.world_eq {op : DriverOp} {s' : Machine} (h : ModuleEffect console s op s')
    (hop : op.loadsIn []) : s'.world = s.world := by
  cases h with
  | quiet _ _ _ _ hworld => exact hworld
  | executed => cases hop
  | unloaded => rfl

theorem run_takenDown (hloads : console.Loads) (hp : p.Emits DriverOp.unloads order)
    (hw : p.Within (DriverOp.loadsIn [])) (hs : s.Accounted) {r : α × Machine}
    (hr : p.run console.step s = some r) : TakenDown order s r.2 where
  accounted := run_accounted hloads hs hr
  loaded_eq := (hp.run (unloadedBy_tracks console) hw hr).loaded hs (run_accounted hloads hs hr)
  world := Program.run_keeps_eq Machine.world
    (fun _ hop _ _ hstep => (step_effect hstep).world_eq hop) hw hr

/-- A part that comes back shows its own crossed pairs, and leaves the others to the rest. -/
theorem unloadsInOrder_then (stack : List (Irx × Irx)) (hloads : console.Loads)
    (hp : p.Emits DriverOp.unloads order) (hw : p.Within (DriverOp.loadsIn []))
    (hback : p.Within DriverOp.comesBack) (hs : s.Accounted) :
    ∃ r : α × Machine, TakenDown order s r.2 ∧ ∀ (q : α → DriverM Unit),
      UnloadsInOrder console stack (p >>= q) s ↔
        (∀ x ∈ crossed stack order, ¬ bothLoaded x s) ∧
          UnloadsInOrder console stack (q r.1) r.2 := by
  obtain ⟨r, hr⟩ := run_comesBack hback s
  refine ⟨r, run_takenDown hloads hp hw hs hr, fun q => ?_⟩
  rw [unloadsInOrder_bind, unloadsInOrder_iff hloads hp hw hback hs]
  refine and_congr_right fun _ => ⟨fun h => h r hr, fun h r' hr' => ?_⟩
  obtain rfl := Option.some.inj (hr.symm.trans hr')
  exact h

/-- A part that unloads nothing and comes back. -/
theorem unloadsInOrder_after (hp : p.Within fun op : DriverOp => op.unloads = [])
    {r : α × Machine} (hr : p.run console.step s = some r) (q : α → DriverM β) :
    UnloadsInOrder console stack (p >>= q) s ↔ UnloadsInOrder console stack (q r.1) r.2 := by
  rw [unloadsInOrder_bind]
  constructor
  · exact fun h => h.2 r hr
  · intro h
    refine ⟨fun m t ht => ?_, fun r' hr' => ?_⟩
    · exact nomatch (Program.Safe.of_within (P := fun _ => True) hp).holds s trivial _ t ht
    · obtain rfl := Option.some.inj (hr.symm.trans hr')
      exact h

/-! ## 4. The module of mx4sio -/

/-- The module is loaded, or initialising mx4sio would load it. -/
def Machine.mx4sioUp (console : Console) (s : Machine) : Bool :=
  loaded .mx4sioBd s.trace ||
    (console.cop2Pipelined && (s.irxPayload console .mx4sioBd).isSome)

theorem Machine.loadIrx_loaded (hloads : console.Loads) (hs : s.Accounted) (m : Irx)
    (args : Option Bytes) :
    ((s.loadIrx console m args).2.irx m).checkUnload =
      (loaded m s.trace || (s.irxPayload console m).isSome) := by
  rw [hs.loaded_eq, Machine.loadIrx_eq]
  rcases hs.reset_or m with hreset | hunload
  · rw [if_pos hreset]
    cases s.irxPayload console m with
    | none => rw [Option.isSome_none, Bool.or_false]
    | some payload =>
      dsimp only
      rw [Machine.executed_irx, Function.update_self, hloads.checkUnload, Option.isSome_some,
        Bool.or_true]
  · have hne : s.irx m ≠ .reset := by
      intro hreset
      rw [hreset] at hunload
      cases hunload
    rw [if_neg hne, hunload, Bool.true_or]

theorem TakenDown.mx4sioUp_eq {t : Machine} (h : TakenDown order s t)
    (hm : Irx.mx4sioBd ∉ order) (console : Console) :
    t.mx4sioUp console = s.mx4sioUp console := by
  rw [Machine.mx4sioUp, Machine.irxPayload, h.loaded_of_not_mem hm, h.world]
  rfl

/-- The initialisation that the teardown makes. -/
theorem initMx4sioDriver_then (stack : List (Irx × Irx)) (hloads : console.Loads)
    (hs : s.Accounted) :
    ∃ r : Int × Machine, r.2.Accounted ∧
      (∀ m, loaded m r.2.trace =
        if m = .mx4sioBd then s.mx4sioUp console else loaded m s.trace) ∧
      ∀ q : Int → DriverM Unit, UnloadsInOrder console stack (initMx4sioDriver false >>= q) s ↔
        UnloadsInOrder console stack (q r.1) r.2 := by
  have hwithin : (initMx4sioDriver false).Within (DriverOp.bringsUp [.mx4sioBd]) :=
    initDriver_within .mx4sio false false (List.Subset.refl _)
  obtain ⟨status, hrun⟩ := initMx4sioDriver_run console s
  refine ⟨_, run_accounted hloads hs hrun, fun m => ?_, fun q => ?_⟩
  · rw [(run_accounted hloads hs hrun).loaded_eq]
    by_cases hm : m = .mx4sioBd
    · rw [if_pos hm, hm, Machine.mx4sioUp]
      cases console.cop2Pipelined with
      -- the function returns before the block of the module
      | false => rw [Bool.false_and, Bool.or_false, hs.loaded_eq]; rfl
      | true => exact Machine.loadIrx_loaded hloads hs .mx4sioBd none
    · have hspares : (initMx4sioDriver false).Within (DriverOp.spares m) :=
        hwithin.mono (DriverOp.bringsUp.spares fun hmem => hm (List.mem_singleton.mp hmem))
      have hsame := Program.run_keeps_eq (fun s : Machine => s.irx m)
        (fun _ hop _ _ hstep => (step_effect hstep).irx_eq hop) hspares hrun
      rw [if_neg hm, hs.loaded_eq, hsame]
  · refine unloadsInOrder_after (hwithin.mono fun op hop => ?_) hrun q
    cases op <;> first | exact hop.elim | rfl

end

/-! ## 5. The filesystem driver -/

def BootGroup.drivers : BootGroup → List Driver
  | .memcard => [.sio2man, .memcard]
  | .cdfs => [.cdfs]
  | .mass => [.bdm, .usbd, .usb, .sio2man, .mx4sio]
  | .hdd => [.poweroff, .dev9, .hdd]
  | .none => []

namespace FilesystemInit

/-- The drivers brought up by the initialisation, called in the state `start`. -/
def drivers (start : Machine) : FilesystemInit → List Driver
  | .all => [.poweroff, .fileXio, .sio2man, .memcard, .bdm, .usbd, .usb, .mx4sio, .cdfs, .dev9, .hdd]
  | .onlyBoot => .fileXio :: (getBootDeviceID (some start.cwd)).group.drivers

def stack (start : Machine) (kind : FilesystemInit) : List (Irx × Irx) :=
  (kind.drivers start).flatMap Driver.ownStack

/-- No module is pulled from under another: those of memcard are not both loaded, and what mx4sio
uses is not loaded when its module is; booted from the HDD, the HDD's modules and fileXio's are
not loaded at the same time. -/
def upright (console : Console) (start s : Machine) : FilesystemInit → Prop
  | .all => ¬ bothLoaded (.mcman, .mcserv) s ∧
      (s.mx4sioUp console = true → ∀ m ∈ [Irx.sio2man, .bdm, .bdmfsFatfs], loaded m s.trace = false)
  | .onlyBoot => (getBootDeviceID (some start.cwd)).group = .hdd →
      ∀ m ∈ Driver.fileXio.ownModules, ∀ m' ∈ Driver.hdd.ownModules, ¬ bothLoaded (m, m') s

end FilesystemInit

section

variable {console : Console} {s : Machine}

theorem BootGroup.crossed_eq (group : BootGroup) :
    crossed ((Driver.fileXio :: group.drivers).flatMap Driver.ownStack) [.fileXio, .iomanX] =
      if group = .hdd then
        Driver.fileXio.ownModules.flatMap fun m => Driver.hdd.ownModules.map (m, ·)
      else [] := by
  cases group <;> decide

/-- Nothing has assigned `__boot_device_id`, so the teardown is fileXio's. -/
theorem deinitOnlyBoot_unloadsInOrder_iff (hloads : console.Loads) (hs : s.Accounted)
    (hboot : s.bootDeviceId = .unknown) (start : Machine) :
    UnloadsInOrder console (FilesystemInit.onlyBoot.stack start) deinitOnlyBootPs2FilesystemDriver s ↔
      FilesystemInit.onlyBoot.upright console start s := by
  have hget (q : BootDevice → DriverM Unit) :
      UnloadsInOrder console (FilesystemInit.onlyBoot.stack start) (getBootDeviceId >>= q) s ↔
        UnloadsInOrder console (FilesystemInit.onlyBoot.stack start) (q .unknown) s := by
    rw [← hboot]
    exact unloadsInOrder_after (getBootDeviceId_within.mpr rfl) (getBootDeviceId_run console s) q
  have hback : deinitFileXioDriver.Within DriverOp.comesBack :=
    deinitDriver_comesBack .fileXio false (by decide)
  rw [deinitOnlyBootPs2FilesystemDriver, hget, if_neg (by decide),
    internalDeinitOnlyBootPs2FilesystemDriver, hget]
  change UnloadsInOrder console _ deinitFileXioDriver s ↔ _
  rw [unloadsInOrder_iff hloads deinitFileXioDriver_emits (deinitDriver_loadsIn .fileXio false) hback hs,
    FilesystemInit.stack, FilesystemInit.drivers, BootGroup.crossed_eq, FilesystemInit.upright]
  by_cases hgroup : (getBootDeviceID (some start.cwd)).group = .hdd
  · rw [if_pos hgroup]
    simp only [List.forall_mem_flatMap, List.forall_mem_map]
    exact (imp_iff_right hgroup).symm
  · rw [if_neg hgroup]
    exact iff_of_true (List.forall_mem_nil _) fun h => absurd h hgroup

/-- What is stacked in the drivers of `init_ps2_filesystem_driver`. -/
def filesystemStack : List (Irx × Irx) :=
  [Driver.poweroff, .fileXio, .sio2man, .memcard, .bdm, .usbd, .usb, .mx4sio, .cdfs, .dev9,
    .hdd].flatMap Driver.ownStack

def deinitBehindMx4sio : DriverM Unit := do
  deinitUsbDriver true
  deinitMemcardDriver true
  deinitFileXioDriver
  deinitDev9Driver
  whenEnabled true deinitPoweroffDriver

theorem not_bothLoaded_crossed {order : List Irx} {t : Machine}
    (h : crossed filesystemStack order = []) : ∀ x ∈ crossed filesystemStack order,
      ¬ bothLoaded x t := by
  rw [h]
  exact List.forall_mem_nil _

/-- With the HDD's modules down, this part is out of order only for memcard and mx4sio. -/
theorem deinitBehindMx4sio_iff (hloads : console.Loads) (hs : s.Accounted)
    (hhdd : ∀ m ∈ Driver.hdd.ownModules, loaded m s.trace = false) :
    UnloadsInOrder console filesystemStack deinitBehindMx4sio s ↔
      ¬ bothLoaded (.mcman, .mcserv) s ∧
        ∀ m ∈ [Irx.sio2man, .bdm, .bdmfsFatfs], ¬ bothLoaded (m, .mx4sioBd) s := by
  obtain ⟨r, h, hiff⟩ := unloadsInOrder_then filesystemStack hloads
    (deinitDriver_emits .usb true) (deinitDriver_loadsIn .usb true)
    (deinitDriver_comesBack .usb true (by decide)) hs
  obtain ⟨r', h', hiff'⟩ := unloadsInOrder_then filesystemStack hloads
    (deinitDriver_emits .memcard true) (deinitDriver_loadsIn .memcard true)
    (deinitDriver_comesBack .memcard true (by decide)) h.accounted
  -- behind memcard, only a module of the HDD could stand on what is unloaded
  have hlast : UnloadsInOrder console filesystemStack (do
      deinitFileXioDriver
      deinitDev9Driver
      whenEnabled true deinitPoweroffDriver) r'.2 := by
    have hemits := Program.Emits.bind deinitFileXioDriver_emits fun _ =>
      Program.Emits.bind deinitDev9Driver_emits fun _ => unloadIRXs_emits [.poweroff]
    have hupper : ∀ x ∈ crossed filesystemStack [.fileXio, .iomanX, .ps2dev9, .poweroff],
        x.2 ∈ Driver.hdd.ownModules := by decide
    refine unloadsInOrder_of_emits hloads hemits
      (Program.Within.bind (deinitDriver_loadsIn .fileXio false) fun _ =>
        Program.Within.bind (deinitDriver_loadsIn .dev9 false) fun _ =>
          deinitDriver_loadsIn .poweroff false) h'.accounted fun x hx hboth => ?_
    have hgone := hhdd x.2 (hupper x hx)
    have hup := hboth.2
    rw [h'.loaded_eq, h.loaded_eq, hgone] at hup
    cases hup
  have hfree (m : Irx) : ∀ m' ∈ Driver.hdd.ownModules, ¬ bothLoaded (m, m') s := by
    rintro m' hm' ⟨-, hup⟩
    rw [hhdd m' hm'] at hup
    cases hup
  have hsame (x : Irx × Irx) (hlow : x.1 ∉ Driver.usb.unloadOrder true)
      (hup : x.2 ∉ Driver.usb.unloadOrder true) : bothLoaded x r.2 ↔ bothLoaded x s := by
    rw [bothLoaded, h.loaded_of_not_mem hlow, h.loaded_of_not_mem hup, bothLoaded]
  have hparts : UnloadsInOrder console filesystemStack deinitBehindMx4sio s ↔
      (∀ x ∈ crossed filesystemStack (Driver.usb.unloadOrder true), ¬ bothLoaded x s) ∧
        ∀ x ∈ crossed filesystemStack (Driver.memcard.unloadOrder true), ¬ bothLoaded x r.2 :=
    (hiff _).trans <| and_congr_right fun _ => (hiff' _).trans <| and_iff_left hlast
  -- usb takes down what mx4sio and the HDD still use, and memcard what mx4sio does
  have hcrossedUsb : crossed filesystemStack (Driver.usb.unloadOrder true) =
      [(.bdm, .mx4sioBd), (.bdmfsFatfs, .mx4sioBd)] ++ [Irx.bdm, .bdmfsFatfs].flatMap fun m =>
        Driver.hdd.ownModules.map (m, ·) := by decide
  have hcrossedMemcard : crossed filesystemStack (Driver.memcard.unloadOrder true) =
      [(.mcman, .mcserv), (.sio2man, .mx4sioBd)] := by decide
  rw [hparts, hcrossedUsb, hcrossedMemcard, List.forall_mem_append]
  simp only [List.forall_mem_flatMap, List.forall_mem_map, List.forall_mem_cons,
    hsame (.mcman, .mcserv) (by decide) (by decide),
    hsame (.sio2man, .mx4sioBd) (by decide) (by decide)]
  constructor
  · rintro ⟨⟨⟨hbdm, hbdmfs, -⟩, -⟩, hmemcard, hsio2man, -⟩
    exact ⟨hmemcard, hsio2man, hbdm, hbdmfs, List.forall_mem_nil _⟩
  · rintro ⟨hmemcard, hsio2man, hbdm, hbdmfs, -⟩
    exact ⟨⟨⟨hbdm, hbdmfs, List.forall_mem_nil _⟩, hfree .bdm, hfree .bdmfsFatfs,
      List.forall_mem_nil _⟩, hmemcard, hsio2man, List.forall_mem_nil _⟩

/-- What the teardown of the filesystem driver finds when it has unloaded the HDD's modules and has
initialised mx4sio. -/
theorem deinitFilesystem_parts (hloads : console.Loads) (hs : s.Accounted) :
    ∃ t : Machine, t.Accounted ∧
      (∀ m ∈ Driver.hdd.ownModules, loaded m t.trace = false) ∧
      (∀ m ∈ [Irx.mcman, .mcserv, .sio2man, .bdm, .bdmfsFatfs],
        loaded m t.trace = loaded m s.trace) ∧
      loaded .mx4sioBd t.trace = s.mx4sioUp console ∧
      (UnloadsInOrder console filesystemStack deinitPs2FilesystemDriver s ↔
        UnloadsInOrder console filesystemStack deinitBehindMx4sio t) := by
  have humount : umountCurrentHddPartition.Within fun op : DriverOp =>
      (op.loadsIn [] ∧ op.comesBack) ∧ op.unloads = [] :=
    umountCurrentHddPartition_within fun op hop hne =>
      ⟨⟨DriverOp.handlesFiles.loadsIn [] op hop, DriverOp.handlesFiles.comesBack op hop hne⟩, by
        cases op <;> first | exact hop.elim | rfl⟩
  -- the unmounting, hdd and cdfs come first, and each is in order
  obtain ⟨r₁, h₁, hiff₁⟩ := unloadsInOrder_then filesystemStack hloads
    (Program.emits_nil (humount.mono fun _ hop => hop.2)) (humount.mono fun _ hop => hop.1.1)
    (humount.mono fun _ hop => hop.1.2) hs
  obtain ⟨r₂, h₂, hiff₂⟩ := unloadsInOrder_then filesystemStack hloads
    (deinitDriver_emits .hdd false) (deinitDriver_loadsIn .hdd false)
    (deinitDriver_comesBack .hdd false (by decide)) h₁.accounted
  obtain ⟨r₃, h₃, hiff₃⟩ := unloadsInOrder_then filesystemStack hloads
    (deinitDriver_emits .cdfs false) (deinitDriver_loadsIn .cdfs false)
    (deinitDriver_comesBack .cdfs false (by decide)) h₂.accounted
  obtain ⟨r₄, hs₄, h₄, hiff₄⟩ :=
    initMx4sioDriver_then filesystemStack hloads h₃.accounted
  have hdown := (h₁.trans h₂).trans h₃
  have hother (m : Irx) (hm : m ≠ .mx4sioBd) : loaded m r₄.2.trace = loaded m r₃.2.trace := by
    rw [h₄, if_neg hm]
  refine ⟨r₄.2, hs₄, fun m hm => ?_, fun m hm => ?_, ?_, ?_⟩
  · have hin : ∀ m ∈ Driver.hdd.ownModules, m ≠ .mx4sioBd ∧
        m ∈ [] ++ Driver.hdd.unloadOrder false ++ Driver.cdfs.unloadOrder false := by decide
    rw [hother m (hin m hm).1, hdown.loaded_of_mem (hin m hm).2]
  · have hout : ∀ m ∈ [Irx.mcman, .mcserv, .sio2man, .bdm, .bdmfsFatfs], m ≠ .mx4sioBd ∧
        m ∉ [] ++ Driver.hdd.unloadOrder false ++ Driver.cdfs.unloadOrder false := by decide
    rw [hother m (hout m hm).1, hdown.loaded_of_not_mem (hout m hm).2]
  · rw [h₄, if_pos rfl, hdown.mx4sioUp_eq (by decide)]
  · exact (hiff₁ _).trans <| (and_iff_right (not_bothLoaded_crossed (by decide))).trans <|
      (hiff₂ _).trans <| (and_iff_right (not_bothLoaded_crossed (by decide))).trans <|
      (hiff₃ _).trans <| (and_iff_right (not_bothLoaded_crossed (by decide))).trans <| hiff₄ _

theorem deinitFilesystem_unloadsInOrder_iff (hloads : console.Loads) (hs : s.Accounted)
    (start : Machine) :
    UnloadsInOrder console (FilesystemInit.all.stack start) deinitPs2FilesystemDriver s ↔
      FilesystemInit.all.upright console start s := by
  obtain ⟨t, ht, hhdd, hsame, hup, hiff⟩ := deinitFilesystem_parts hloads hs
  change UnloadsInOrder console filesystemStack deinitPs2FilesystemDriver s ↔ _
  rw [hiff, deinitBehindMx4sio_iff hloads ht hhdd, FilesystemInit.upright]
  have hmemcard : bothLoaded (.mcman, .mcserv) t ↔ bothLoaded (.mcman, .mcserv) s := by
    rw [bothLoaded, hsame .mcman (by decide), hsame .mcserv (by decide), bothLoaded]
  have hsub : ∀ m ∈ [Irx.sio2man, .bdm, .bdmfsFatfs],
      m ∈ [Irx.mcman, .mcserv, .sio2man, .bdm, .bdmfsFatfs] := by decide
  have hmx4sio (m : Irx) (hm : m ∈ [Irx.sio2man, .bdm, .bdmfsFatfs]) :
      ¬ bothLoaded (m, .mx4sioBd) t ↔ (s.mx4sioUp console = true → loaded m s.trace = false) := by
    rw [bothLoaded, hsame m (hsub m hm), hup, ← Bool.not_eq_true]
    exact not_and'
  rw [hmemcard]
  refine and_congr_right fun _ => ?_
  constructor
  · exact fun h hmx m hm => (hmx4sio m hm).mp (h m hm) hmx
  · exact fun h m hm => (hmx4sio m hm).mpr fun hmx => h hmx m hm

end

/-! ## 6. The teardowns -/

/-- A teardown. `start` is the state in which the matching initialisation of the filesystem driver
was called. -/
inductive Takedown
  | driver (d : Driver) (deinitDependencies : Bool)
  | filesystem (kind : FilesystemInit) (start : Machine)

namespace Takedown

def run : Takedown → DriverM Unit
  | driver d deinitDependencies => deinitDriver d deinitDependencies
  | filesystem kind _ => kind.deinit

def stack : Takedown → List (Irx × Irx)
  | driver d _ => d.stack
  | filesystem kind start => kind.stack start

def upright (console : Console) (s : Machine) : Takedown → Prop
  | driver d _ => ∀ q ∈ d.crossed, ¬ bothLoaded q s
  | filesystem kind start => kind.upright console start s

end Takedown

/-- In any run of the public calls, on a console whose modules load, a teardown pulls no module from
under another one exactly when it starts upright. -/
theorem takedown_unloadsInOrder_iff {console : Console} (hloads : console.Loads) {cwd : Bytes}
    {w : World} {steps : List (Machine × PublicCall)} {s : Machine}
    (hrun : Program.History console.step PublicCall.run (Machine.initial cwd w) steps s)
    (td : Takedown) :
    UnloadsInOrder console td.stack td.run s ↔ td.upright console s := by
  have hs : s.Accounted := hrun.keeps (Machine.initial_accounted cwd w) fun _ _ _ hs hr =>
    run_accounted hloads hs hr
  have hboot : s.bootDeviceId = .unknown :=
    hrun.keeps (P := fun s => s.bootDeviceId = .unknown) rfl fun _ _ _ hs hr =>
      (run_bootDeviceId hr).trans hs
  cases td with
  | driver d deps => exact deinitDriver_unloadsInOrder_iff hloads hs d deps
  | filesystem kind start =>
    cases kind with
    | all => exact deinitFilesystem_unloadsInOrder_iff hloads hs start
    | onlyBoot => exact deinitOnlyBoot_unloadsInOrder_iff hloads hs hboot start

/-- The USB modules go in the order opposite to the one they came in. -/
theorem takedown_unloadsInOrder_iff_usb :
    ∃ s, Program.History Console.ready.step PublicCall.run (Machine.initial [] World.initial)
        [(Machine.initial [] World.initial, .init .usb true false)] s ∧
      UnloadsInOrder Console.ready (Takedown.driver .usb true).stack
        (Takedown.driver .usb true).run s := by
  have hsome : ((PublicCall.init .usb true false).run.run Console.ready.step
      (Machine.initial [] World.initial)).isSome = true := by decide +kernel
  obtain ⟨r, hr⟩ := Option.isSome_iff_exists.mp hsome
  have hrun : Program.History Console.ready.step PublicCall.run (Machine.initial [] World.initial)
      [(Machine.initial [] World.initial, .init .usb true false)] r.2 := .next .start hr
  exact ⟨r.2, hrun, (takedown_unloadsInOrder_iff Console.ready_loads hrun (.driver .usb true)).mpr
    nofun⟩

/-- `deinit_memcard_driver` unloads mcman from under mcserv. -/
theorem deinitMemcardDriver_pulls :
    Console.ready.Loads ∧
      ∃ s, Program.History Console.ready.step PublicCall.run (Machine.initial [] World.initial)
          [(Machine.initial [] World.initial, .init .memcard true false)] s ∧
        ¬ UnloadsInOrder Console.ready (Takedown.driver .memcard true).stack
          (Takedown.driver .memcard true).run s := by
  have hrun : ((PublicCall.init .memcard true false).run.run Console.ready.step
      (Machine.initial [] World.initial)).map (fun r =>
        (r.2.irx .mcman).checkUnload && loaded .mcserv r.2.trace) = some true := by
    decide +kernel
  obtain ⟨r, hinit, hboth⟩ := Option.map_eq_some_iff.mp hrun
  obtain ⟨hunload, hup⟩ := Bool.and_eq_true_iff.mp hboth
  refine ⟨Console.ready_loads, r.2, .next .start hinit, fun horder => ?_⟩
  -- the first call of the teardown
  have hreach : Program.Reaches Console.ready.step (.unloadIrx .mcman) r.2
      (deinitMemcardDriver true) r.2 :=
    .bind_left (.bind_left (.here _))
  have hdown := horder .mcman r.2 hreach hunload .mcserv (by decide)
  rw [hup] at hdown
  cases hdown

end Ps2Drivers
