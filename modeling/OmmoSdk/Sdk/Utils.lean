/-
# Sdk.Utils — the key of a device

`Hash` packs `(siu_uuid, port_id)` into 64 bits with eight bits for the port.  It is
the key of every map that is indexed by a device.  It separates the devices whose
port fits in these eight bits (`hash_injective`), and only those.
-/
import OmmoSdk.Sdk.Types

namespace OmmoSdk.Sdk

set_option autoImplicit false

def hash (siuUuid portId : UInt32) : UInt64 := (siuUuid.toUInt64 <<< 8) ||| portId.toUInt64

def DeviceID.hash (r : DeviceID) : UInt64 := OmmoSdk.Sdk.hash r.siuUuid r.portId

def DeviceDescriptor.hash (r : DeviceDescriptor) : UInt64 := OmmoSdk.Sdk.hash r.siuUuid r.portId

@[simp] theorem DeviceDescriptor.hash_id (r : DeviceDescriptor) : r.id.hash = r.hash := rfl

/-- With a port of eight bits the two components do not overlap. -/
theorem hash_toNat (siuUuid portId : UInt32) (narrow : portId.toNat < 256) :
    (hash siuUuid portId).toNat = siuUuid.toNat * 256 + portId.toNat := by
  have bound := siuUuid.toNat_lt
  have shifted : (siuUuid.toUInt64 <<< 8).toNat = siuUuid.toNat <<< 8 := by
    rw [UInt64.toNat_shiftLeft, UInt32.toNat_toUInt64, show (8 : UInt64).toNat % 64 = 8 from rfl,
      Nat.shiftLeft_eq]
    exact Nat.mod_eq_of_lt (by omega)
  rw [hash, UInt64.toNat_or, shifted, UInt32.toNat_toUInt64,
    ← Nat.shiftLeft_add_eq_or_of_lt (i := 8) (by omega), Nat.shiftLeft_eq]

theorem hash_injective {a b : DeviceID} (first : a.portId.toNat < 256)
    (second : b.portId.toNat < 256) (same : a.hash = b.hash) : a = b := by
  have values := congrArg UInt64.toNat same
  rw [DeviceID.hash, DeviceID.hash, hash_toNat _ _ first, hash_toNat _ _ second] at values
  obtain ⟨siu, port⟩ := a
  obtain ⟨siu', port'⟩ := b
  simp only [DeviceID.mk.injEq, ← UInt32.toNat_inj] at *
  omega

/-- Two devices whose ports differ past the eighth bit share a key. -/
example : (⟨1, 0⟩ : DeviceID).hash = (⟨0, 256⟩ : DeviceID).hash := by decide

end OmmoSdk.Sdk
