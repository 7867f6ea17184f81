import Mathlib.Data.List.Nodup
import PumoBioMetric.Core.Devices

/-!
# Which registry entry an identifier names

`resolve_device` tries five rules in turn.  The first three look an identifier up in the
registry, by serial, by serial without regard to case and by address; here they are one
relation between an identifier and an entry.
-/

set_option autoImplicit false

namespace PumoBioMetric.Core

open Py

/-- The keys of a `dict`, each with an entry that carries its own key. -/
structure OwnKeys (registry : Registry) : Prop where
  unique : (registry.map Prod.fst).Nodup
  own : ∀ entry ∈ registry, entry.2.sn = entry.1

theorem OwnKeys.eq_of_key {registry : Registry} (keys : OwnKeys registry)
    {left right : String × DeviceInfo} (leftIn : left ∈ registry) (rightIn : right ∈ registry)
    (same : left.1 = right.1) : left = right :=
  List.inj_on_of_nodup_map keys.unique leftIn rightIn same

theorem lookup_eq_none_iff_key {registry : Registry} {key : String} :
    registry.lookup key = none ↔ ∀ entry ∈ registry, entry.1 ≠ key := by
  rw [List.lookup_eq_none_iff]
  constructor
  · intro differs entry listed same
    exact absurd (differs entry listed) (by simp [same])
  · intro differs entry listed
    simpa using (differs entry listed).symm

theorem lookup_of_mem {registry : Registry} (keys : OwnKeys registry)
    {entry : String × DeviceInfo} (listed : entry ∈ registry) :
    registry.lookup entry.1 = some entry.2 := by
  cases found : registry.lookup entry.1 with
  | none => exact absurd rfl (lookup_eq_none_iff_key.mp found entry listed)
  | some info =>
      have held : (entry.1, info) ∈ registry := by
        obtain ⟨front, back, split, _⟩ := List.lookup_eq_some_iff.mp found
        simp [split]
      have same := keys.eq_of_key held listed rfl
      rw [← same]

section

variable [UnicodeTables]

/-- The entry under the first rule that finds one. -/
inductive NamesEntry (registry : Registry) (cleanId : String) (entry : String × DeviceInfo) : Prop where
  | serial :
      entry ∈ registry → entry.1 = cleanId → NamesEntry registry cleanId entry
  | anyCase {front back : Registry} :
      registry = front ++ entry :: back → lower entry.1 = lower cleanId →
        (∀ other ∈ registry, other.1 ≠ cleanId) →
        (∀ other ∈ front, lower other.1 ≠ lower cleanId) → NamesEntry registry cleanId entry
  | address {front back : Registry} :
      registry = front ++ entry :: back → entry.2.ip = cleanId →
        (∀ other ∈ registry, other.1 ≠ cleanId ∧ lower other.1 ≠ lower cleanId) →
        (∀ other ∈ front, other.2.ip ≠ cleanId) → NamesEntry registry cleanId entry

/-- No entry has the identifier as its serial, in any case, or as its address. -/
def Unregistered (registry : Registry) (cleanId : String) : Prop :=
  ∀ entry ∈ registry,
    entry.1 ≠ cleanId ∧ lower entry.1 ≠ lower cleanId ∧ entry.2.ip ≠ cleanId

theorem NamesEntry.mem {registry : Registry} {cleanId : String} {entry : String × DeviceInfo}
    (names : NamesEntry registry cleanId entry) : entry ∈ registry := by
  cases names with
  | serial listed _ => exact listed
  | anyCase split _ _ _ => simp [split]
  | address split _ _ _ => simp [split]

def unregisteredDevice (cleanId : String) (defaultPort : Int) : ResolvedDevice :=
  match simulatedDevices.lookup cleanId with
  | some device => ⟨device.sn, device.ip, device.port, device.name⟩
  | none =>
    if looksLikeIp cleanId then
      ⟨"DEV-" ++ cleanId, cleanId, defaultPort, "Device " ++ cleanId⟩
    else ⟨cleanId, cleanId, defaultPort, "Device " ++ cleanId⟩

theorem resolveDevice_of_names {registry : Registry} (keys : OwnKeys registry)
    {identifier : String} {entry : String × DeviceInfo}
    (names : NamesEntry registry (strip identifier) entry) (defaultPort : Int) :
    resolveDevice registry identifier defaultPort = entry.2.withPort defaultPort := by
  cases names with
  | serial listed same =>
      have found := lookup_of_mem keys listed
      rw [same] at found
      simp only [resolveDevice, found]
  | anyCase split sameCase noKey earlier =>
      have found : registry.find? (fun other => lower other.1 == lower (strip identifier)) =
          some entry := by
        rw [List.find?_eq_some_iff_append]
        exact ⟨by simpa using sameCase, _, _, split, by simpa using earlier⟩
      simp only [resolveDevice, lookup_eq_none_iff_key.mpr noKey, found]
  | address split sameIp noKey earlier =>
      have noCase : registry.find? (fun other => lower other.1 == lower (strip identifier)) =
          none := by
        simpa [List.find?_eq_none] using fun key info listed => (noKey (key, info) listed).2
      have found : registry.find? (fun other => other.2.ip == strip identifier) = some entry := by
        rw [List.find?_eq_some_iff_append]
        exact ⟨by simpa using sameIp, _, _, split, by simpa using earlier⟩
      have noSerial := lookup_eq_none_iff_key.mpr fun other listed => (noKey other listed).1
      simp only [resolveDevice, noSerial, noCase, found]

theorem NamesEntry.unique {registry : Registry} (keys : OwnKeys registry) {identifier : String}
    {left right : String × DeviceInfo} (namesLeft : NamesEntry registry (strip identifier) left)
    (namesRight : NamesEntry registry (strip identifier) right) : left = right := by
  have same : left.2.withPort 0 = right.2.withPort 0 := by
    rw [← resolveDevice_of_names keys namesLeft, ← resolveDevice_of_names keys namesRight]
  have serial : left.2.sn = right.2.sn := congrArg ResolvedDevice.sn same
  rw [keys.own left namesLeft.mem, keys.own right namesRight.mem] at serial
  exact keys.eq_of_key namesLeft.mem namesRight.mem serial

theorem resolveDevice_of_unregistered {registry : Registry} {identifier : String}
    (unregistered : Unregistered registry (strip identifier)) (defaultPort : Int) :
    resolveDevice registry identifier defaultPort =
      unregisteredDevice (strip identifier) defaultPort := by
  have noCase : registry.find? (fun other => lower other.1 == lower (strip identifier)) =
      none := by
    simpa [List.find?_eq_none] using fun key info listed => (unregistered (key, info) listed).2.1
  have noIp : registry.find? (fun other => other.2.ip == strip identifier) = none := by
    simpa [List.find?_eq_none] using fun key info listed => (unregistered (key, info) listed).2.2
  have noSerial := lookup_eq_none_iff_key.mpr fun other listed => (unregistered other listed).1
  simp only [resolveDevice, noSerial, noCase, noIp]
  rfl

theorem names_or_unregistered (registry : Registry) (cleanId : String) :
    (∃ entry, NamesEntry registry cleanId entry) ∨ Unregistered registry cleanId := by
  by_cases key : ∃ entry ∈ registry, entry.1 = cleanId
  · obtain ⟨entry, listed, same⟩ := key
    exact .inl ⟨entry, .serial listed same⟩
  · have noKey : ∀ other ∈ registry, other.1 ≠ cleanId :=
      fun other listed same => key ⟨other, listed, same⟩
    cases anyCase : registry.find? fun other => lower other.1 == lower cleanId with
    | some entry =>
        obtain ⟨sameCase, front, back, split, earlier⟩ :=
          List.find?_eq_some_iff_append.mp anyCase
        exact .inl ⟨entry, .anyCase split (by simpa using sameCase) noKey
          (by simpa using earlier)⟩
    | none =>
        have noCase : ∀ other ∈ registry, lower other.1 ≠ lower cleanId := by
          simpa [List.find?_eq_none] using anyCase
        cases address : registry.find? fun other => other.2.ip == cleanId with
        | some entry =>
            obtain ⟨sameIp, front, back, split, earlier⟩ :=
              List.find?_eq_some_iff_append.mp address
            exact .inl ⟨entry, .address split (by simpa using sameIp)
              (fun other listed => ⟨noKey other listed, noCase other listed⟩)
              (by simpa using earlier)⟩
        | none =>
            have noIp : ∀ other ∈ registry, other.2.ip ≠ cleanId := by
              simpa [List.find?_eq_none] using address
            exact .inr fun other listed =>
              ⟨noKey other listed, noCase other listed, noIp other listed⟩

theorem Unregistered.not_names {registry : Registry} {cleanId : String}
    (unregistered : Unregistered registry cleanId) {entry : String × DeviceInfo} :
    ¬ NamesEntry registry cleanId entry := by
  intro names
  have fails := unregistered entry names.mem
  cases names with
  | serial _ same => exact fails.1 same
  | anyCase _ sameCase _ _ => exact fails.2.1 sameCase
  | address _ sameIp _ _ => exact fails.2.2 sameIp

end

end PumoBioMetric.Core
