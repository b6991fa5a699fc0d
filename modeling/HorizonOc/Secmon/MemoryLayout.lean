import Mathlib.Data.List.Pairwise

namespace HorizonOc.Secmon

/-- The devices of `secmon_memory_layout.hpp`. -/
inductive Device where
  | gicDistributor | gicCpuInterface | uart | clkRst | rtcPmc | timer | system | securityEngine
  | securityEngine2 | sysCtr0 | memoryController | externalMemoryController | fuseKFuse | apbMisc
  | flowController | bootloaderParams | i2c5 | gpio | i2c1 | exceptionVectors | memoryController0
  | memoryController1 | sdmmc | disp1 | dsi | mipiCal
deriving DecidableEq, Repr

/-- The physical and the virtual region of a device. -/
structure Region where
  physicalAddress : Nat
  virtualAddress : Nat
  size : Nat
deriving DecidableEq, Repr

/-- `AMS_SECMON_FOREACH_DEVICE_REGION`: the devices with their addresses and sizes. -/
def deviceRegions : List (Device × Nat × Nat) :=
  [(.gicDistributor, 0x50041000, 0x1000),
   (.gicCpuInterface, 0x50042000, 0x2000),
   (.uart, 0x70006000, 0x1000),
   (.clkRst, 0x60006000, 0x1000),
   (.rtcPmc, 0x7000E000, 0x1000),
   (.timer, 0x60005000, 0x1000),
   (.system, 0x6000C000, 0x1000),
   (.securityEngine, 0x70012000, 0x2000),
   (.securityEngine2, 0x70412000, 0x2000),
   (.sysCtr0, 0x700F0000, 0x1000),
   (.memoryController, 0x70019000, 0x1000),
   (.externalMemoryController, 0x7001B000, 0x1000),
   (.fuseKFuse, 0x7000F000, 0x1000),
   (.apbMisc, 0x70000000, 0x4000),
   (.flowController, 0x60007000, 0x1000),
   (.bootloaderParams, 0x40000000, 0x1000),
   (.i2c5, 0x7000D000, 0x1000),
   (.gpio, 0x6000D000, 0x1000),
   (.i2c1, 0x7000C000, 0x1000),
   (.exceptionVectors, 0x6000F000, 0x1000),
   (.memoryController0, 0x7001C000, 0x1000),
   (.memoryController1, 0x7001D000, 0x1000),
   (.sdmmc, 0x700B0000, 0x1000),
   (.disp1, 0x54200000, 0x3000),
   (.dsi, 0x54300000, 0x1000),
   (.mipiCal, 0x700E3000, 0x1000)]

def memoryRegionVirtualDevice : Nat := 0x1F0040000

/-- `DEFINE_DEVICE_REGION` for one device after the other: a page is left free before each. -/
def defineDeviceRegions : Nat → List (Device × Nat × Nat) → List (Device × Region)
  | _, [] => []
  | previousEnd, (device, address, size) :: rest =>
      (device,
        { physicalAddress := address, virtualAddress := previousEnd + 0x1000, size }) ::
        defineDeviceRegions (previousEnd + 0x1000 + size) rest

/-- All regions; the empty one in front of them starts where the virtual devices do. -/
def allDeviceRegions : List (Device × Region) :=
  defineDeviceRegions memoryRegionVirtualDevice deviceRegions

/-- The regions under the name of the device. -/
def Device.region (device : Device) : Region :=
  (allDeviceRegions.lookup device).getD { physicalAddress := 0, virtualAddress := 0, size := 0 }

/-- `MemoryRegionPhysicalDevicePmc` and `MemoryRegionVirtualDevicePmc`. -/
def pmcRegion : Region :=
  { physicalAddress := Device.rtcPmc.region.physicalAddress + 0x400
    virtualAddress := Device.rtcPmc.region.virtualAddress + 0x400
    size := 0xC00 }

/-- Two regions have no byte in common, neither physical nor virtual. -/
def Region.Apart (first second : Region) : Prop :=
  (first.physicalAddress + first.size ≤ second.physicalAddress ∨
    second.physicalAddress + second.size ≤ first.physicalAddress) ∧
  (first.virtualAddress + first.size ≤ second.virtualAddress ∨
    second.virtualAddress + second.size ≤ first.virtualAddress)

instance (first second : Region) : Decidable (first.Apart second) :=
  inferInstanceAs (Decidable (_ ∧ _))

theorem Region.Apart.symm {first second : Region} (apart : first.Apart second) :
    second.Apart first := ⟨apart.1.symm, apart.2.symm⟩

/-- The part of a region is apart from what the region is apart from. -/
theorem Region.Apart.part {region other : Region} (apart : region.Apart other) {offset size : Nat}
    (inside : offset + size ≤ region.size) :
    Region.Apart
      { physicalAddress := region.physicalAddress + offset
        virtualAddress := region.virtualAddress + offset, size } other := by
  unfold Region.Apart at apart ⊢
  dsimp only
  omega

section

variable {previousEnd : Nat} {devices : List (Device × Nat × Nat)} {placed : Device × Region}

theorem defineDeviceRegions_behind (member : placed ∈ defineDeviceRegions previousEnd devices) :
    previousEnd + 0x1000 ≤ placed.2.virtualAddress := by
  induction devices generalizing previousEnd with
  | nil => contradiction
  | cons device rest ih =>
      rcases List.mem_cons.mp member with rfl | later
      · exact Nat.le_refl _
      · have behind := ih later
        omega

/-- The end of a region is followed by a free page, and that by the next region. -/
theorem defineDeviceRegions_guarded (previousEnd : Nat) (devices : List (Device × Nat × Nat)) :
    (defineDeviceRegions previousEnd devices).Pairwise fun first second =>
      first.2.virtualAddress + first.2.size + 0x1000 ≤ second.2.virtualAddress := by
  induction devices generalizing previousEnd with
  | nil => exact List.Pairwise.nil
  | cons device rest ih =>
      exact List.pairwise_cons.mpr ⟨fun _ later => defineDeviceRegions_behind later, ih _⟩

theorem defineDeviceRegions_physical (previousEnd : Nat) (devices : List (Device × Nat × Nat)) :
    (defineDeviceRegions previousEnd devices).map
        (fun placed => (placed.2.physicalAddress, placed.2.size)) = devices.map (·.2) := by
  induction devices generalizing previousEnd with
  | nil => rfl
  | cons device rest ih => exact congrArg (List.cons _) (ih _)

end

/-- The bytes of two different devices are apart. -/
theorem allDeviceRegions_apart :
    allDeviceRegions.Pairwise fun first second => first.2.Apart second.2 := by
  have physical : (deviceRegions.map (·.2)).Pairwise fun first second =>
      first.1 + first.2 ≤ second.1 ∨ second.1 + second.2 ≤ first.1 := by
    decide
  rw [← defineDeviceRegions_physical memoryRegionVirtualDevice, List.pairwise_map] at physical
  exact physical.imp₂ (fun _ _ apart guarded => ⟨apart, .inl (by omega)⟩)
    (defineDeviceRegions_guarded memoryRegionVirtualDevice deviceRegions)

end HorizonOc.Secmon
