import Lemnos.Library.Grants
import Lemnos.Library.RegisterFile
import Lemnos.Linux.I2c

namespace Lemnos.Linux

open Lemnos.Core Bus Library Library.Frames Library.Grants LinuxI2cDevice

abbrev Registers := RegisterFile UInt8 UInt8

namespace Registers

def write (file : Registers) (bytes : List UInt8) : Registers := file.message (· + 1) bytes

def read (file : Registers) (length : ℕ) : List UInt8 × Registers := file.load (· + 1) length

/-- What the chip behind the bus gives for a call, with the registers and the pointer that are left. -/
def perform (file : Registers) : I2cDeviceCall → List UInt8 × Registers
  | .new .. | .setSlaveAddress _ => ([], file)
  | .read length => file.read length
  | .write bytes => ([], file.write bytes)
  | .transfer write length => (file.write write).read length
  | .smbusWriteByte value => ([], file.write [value])
  | .smbusWriteByteData register value => ([], file.write [register, value])
  | .smbusWriteI2cBlockData register values => ([], file.write (register :: values))
  | .smbusReadI2cBlockData register length => (file.write [register]).read length.toNat
  | .smbusReadByteData register => (file.write [register]).read 1

end Registers

/-- The error with which an adapter rejects a call after those before, and then the call never reaches the chip. -/
abbrev Adapter := List I2cDeviceCall → I2cDeviceCall → Option LinuxI2cError

def I2cDeviceCall.isByte : I2cDeviceCall → Bool
  | .smbusWriteByte _ | .smbusWriteByteData .. | .smbusReadByteData _ => true
  | _ => false

namespace Adapter

variable (rejects : Adapter) (file : Registers)

def OnlyUnsupported : Prop :=
  ∀ calls call error, rejects calls call = some error →
    call.isByte = false ∧ isSmbusUnsupportedKindOrErrno error.kind error.rawOsError = true

def contents (calls : List I2cDeviceCall) : Registers :=
  (granted (fun earlier call => (rejects earlier call).isNone) [] calls).foldl
    (fun file call => (file.perform call).2) file

def host : I2cHost := fun calls call =>
  match rejects calls call with
  | some error => .error error
  | none => .ok ((rejects.contents file calls).perform call).1

def outcome {E α : Type} (effect : Io E α) (device : LinuxI2cDevice) : Except E α × Registers :=
  ((effect.exec device).1, rejects.contents file (effect.exec device).2.calls)

variable {rejects file}

theorem contents_append (calls : List I2cDeviceCall) (call : I2cDeviceCall) :
    rejects.contents file (calls ++ [call]) =
      if (rejects calls call).isNone then ((rejects.contents file calls).perform call).2
      else rejects.contents file calls := by
  rw [contents, granted_append, granted_singleton, List.foldl_append, List.nil_append]
  split <;> rfl

theorem contents_of_granted {calls : List I2cDeviceCall} {call : I2cDeviceCall} (h : rejects calls call = none) :
    rejects.contents file (calls ++ [call]) = ((rejects.contents file calls).perform call).2 := by
  rw [contents_append, h]
  rfl

theorem contents_of_rejected {calls : List I2cDeviceCall} {call : I2cDeviceCall} {error : LinuxI2cError}
    (h : rejects calls call = some error) :
    rejects.contents file (calls ++ [call]) = rejects.contents file calls := by
  rw [contents_append, h]
  rfl

variable {E F α β : Type} {device : LinuxI2cDevice} {made : I2cDeviceCall} {error : LinuxI2cError}

theorem exec_of_granted (h : rejects device.calls made = none) :
    (call (rejects.host file) made).exec device =
      (.ok ((rejects.contents file device.calls).perform made).1, ⟨device.calls ++ [made]⟩) := by
  rw [exec_call, host, h]

theorem exec_of_rejected (h : rejects device.calls made = some error) :
    (call (rejects.host file) made).exec device = (.error error, ⟨device.calls ++ [made]⟩) := by
  rw [exec_call, host, h]

theorem outcome_pure (a : α) :
    rejects.outcome file (pure a : Io E α) device = (.ok a, rejects.contents file device.calls) := rfl

theorem outcome_of_granted (h : rejects device.calls made = none) (next : List UInt8 → Io LinuxI2cError α) :
    rejects.outcome file (call (rejects.host file) made >>= next) device =
      rejects.outcome file (next ((rejects.contents file device.calls).perform made).1)
        ⟨device.calls ++ [made]⟩ := by
  rw [outcome, exec_bind_of_ok (exec_of_granted h)]
  rfl

theorem outcome_of_rejected (h : rejects device.calls made = some error)
    (next : List UInt8 → Io LinuxI2cError α) :
    rejects.outcome file (call (rejects.host file) made >>= next) device =
      (.error error, rejects.contents file device.calls) := by
  rw [outcome, exec_bind_of_error (exec_of_rejected h), contents_of_rejected h]

theorem outcome_attempt (next : Except LinuxI2cError (List UInt8) → Io E α) :
    rejects.outcome file ((call (rejects.host file) made).attempt >>= next) device =
      rejects.outcome file (next (rejects.host file device.calls made)) ⟨device.calls ++ [made]⟩ := by
  rw [outcome, exec_bind_of_ok (exec_attempt _ _), exec_call]
  rfl

theorem outcome_bind_pure (effect : Io E α) (f : α → β) :
    rejects.outcome file (effect >>= fun a => pure (f a)) device =
      ((rejects.outcome file effect device).1.map f, (rejects.outcome file effect device).2) := by
  rw [outcome, exec_bind_pure]
  rfl

theorem outcome_adapt (effect : Io E α) (f : E → F) :
    rejects.outcome file (ExceptT.adapt f effect) device =
      ((rejects.outcome file effect device).1.mapError f, (rejects.outcome file effect device).2) := by
  rw [outcome, exec_adapt]
  rfl

theorem OnlyUnsupported.granted (h : rejects.OnlyUnsupported) (calls : List I2cDeviceCall)
    (made : I2cDeviceCall) (hbyte : made.isByte = true) : rejects calls made = none := by
  cases hrejects : rejects calls made with
  | none => rfl
  | some error => exact absurd ((h calls made error hrejects).1.symm.trans hbyte) Bool.false_ne_true

theorem not_onlyUnsupported {calls : List I2cDeviceCall} (h : rejects calls made = some error)
    (hbyte : made.isByte = true) : ¬rejects.OnlyUnsupported :=
  fun hunsupported => absurd (h.symm.trans (hunsupported.granted calls made hbyte)) (Option.some_ne_none error)

end Adapter

section Write

variable {rejects : Adapter} {file : Registers} {device : LinuxI2cDevice}

open Adapter

theorem ofNat_succ (register : UInt8) (index : ℕ) :
    register + UInt8.ofNat (index + 1) = register + UInt8.ofNat index + 1 := by
  rw [UInt8.ofNat_add, ← UInt8.add_assoc]
  rfl

theorem outcome_smbusWriteByteDataFrom (h : rejects.OnlyUnsupported) (register value : UInt8) (index : ℕ)
    (values : List UInt8) :
    rejects.outcome file (smbusWriteByteDataFrom (rejects.host file) register index (value :: values)) device =
      (.ok (),
        (rejects.contents file device.calls).write ((register + UInt8.ofNat index) :: value :: values)) := by
  induction values generalizing value index device with
  | nil =>
    have hcall := h.granted device.calls (.smbusWriteByteData (register + UInt8.ofNat index) value) rfl
    rw [smbusWriteByteDataFrom, outcome_of_granted hcall, smbusWriteByteDataFrom, outcome_pure,
      contents_of_granted hcall]
    rfl
  | cons second values ih =>
    have hcall := h.granted device.calls (.smbusWriteByteData (register + UInt8.ofNat index) value) rfl
    rw [smbusWriteByteDataFrom, outcome_of_granted hcall, ih, contents_of_granted hcall, ofNat_succ]
    exact congrArg (Prod.mk _) (RegisterFile.message_cons_cons _ value second values).symm

theorem outcome_smbusWriteByteDataSequence (h : rejects.OnlyUnsupported) (register value : UInt8)
    (values : List UInt8) :
    rejects.outcome file (smbusWriteByteDataSequence (rejects.host file) register (value :: values)) device =
      (.ok (), (rejects.contents file device.calls).write (register :: value :: values)) := by
  have hfirst : register + UInt8.ofNat 0 = register := UInt8.add_zero register
  rw [smbusWriteByteDataSequence, outcome_smbusWriteByteDataFrom h, hfirst]

theorem outcome_smbusWriteFallback (h : rejects.OnlyUnsupported) (bytes : List UInt8) :
    rejects.outcome file (smbusWriteFallback (rejects.host file) bytes) device =
      (.ok (), (rejects.contents file device.calls).write bytes) := by
  rcases bytes with _ | ⟨register, _ | ⟨value, _ | ⟨second, values⟩⟩⟩
  · rfl
  · have hcall := h.granted device.calls (.smbusWriteByte register) rfl
    rw [smbusWriteFallback, outcome_of_granted hcall, outcome_pure, contents_of_granted hcall]
    rfl
  · have hcall := h.granted device.calls (.smbusWriteByteData register value) rfl
    rw [smbusWriteFallback, outcome_of_granted hcall, outcome_pure, contents_of_granted hcall]
    rfl
  · change rejects.outcome file (if (value :: second :: values).length ≤ 32 then _ else _) device = _
    split
    · rw [outcome_attempt, host]
      cases hcall : rejects device.calls (.smbusWriteI2cBlockData register (value :: second :: values)) with
      | none =>
        change rejects.outcome file (pure () : Io LinuxI2cError Unit) _ = _
        rw [outcome_pure, contents_of_granted hcall]
        rfl
      | some error =>
        simp only [(h _ _ _ hcall).2, if_true]
        rw [outcome_smbusWriteByteDataSequence h, contents_of_rejected hcall]
    · exact outcome_smbusWriteByteDataSequence h register value (second :: values)

theorem outcome_linuxI2cWrite (h : rejects.OnlyUnsupported) (deviceId : DeviceId) {bytes : List UInt8}
    (hbytes : bytes ≠ []) :
    rejects.outcome file (linuxI2cWrite (rejects.host file) deviceId bytes) device =
      (.ok (), (rejects.contents file device.calls).write bytes) := by
  rw [linuxI2cWrite, if_neg hbytes]
  change rejects.outcome file ((call (rejects.host file) (.write bytes)).attempt >>= _) device = _
  rw [outcome_attempt, host]
  cases hcall : rejects device.calls (.write bytes) with
  | none =>
    change rejects.outcome file (pure () : Io BusError Unit) _ = _
    rw [outcome_pure, contents_of_granted hcall]
    rfl
  | some error =>
    have hunsupported : shouldTrySmbusFallback error = true := (h _ _ _ hcall).2
    simp only [hunsupported, if_true]
    rw [outcome_adapt, outcome_smbusWriteFallback h, contents_of_rejected hcall]
    rfl

end Write

section Read

variable {rejects : Adapter} {file : Registers} {device : LinuxI2cDevice}

open Adapter

theorem length_perform_transfer (write : List UInt8) (length : ℕ) :
    (file.perform (.transfer write length)).1.length = length := RegisterFile.load_length length

def Performed {E : Type} (before : Registers) (plain : I2cDeviceCall)
    (outcome : Except E (List UInt8) × Registers) : Prop :=
  outcome = (.ok (before.perform plain).1, (before.perform plain).2)

def Failed {E : Type} (outcome : Except E (List UInt8) × Registers) : Prop := ∃ error, outcome.1 = .error error

/-- Nothing fails as long as only calls with a fallback are rejected. -/
def AsPlain {E : Type} (rejects : Adapter) (before : Registers) (plain : I2cDeviceCall)
    (outcome : Except E (List UInt8) × Registers) : Prop :=
  Performed before plain outcome ∨ Failed outcome ∧ ¬rejects.OnlyUnsupported

theorem asPlain_of_rejected {made : I2cDeviceCall} {error : LinuxI2cError}
    (h : rejects device.calls made = some error) (hbyte : made.isByte = true) (before : Registers)
    (plain : I2cDeviceCall) (next : List UInt8 → Io LinuxI2cError (List UInt8)) :
    AsPlain rejects before plain (rejects.outcome file (call (rejects.host file) made >>= next) device) := by
  rw [outcome_of_rejected h]
  exact .inr ⟨⟨error, rfl⟩, not_onlyUnsupported h hbyte⟩

theorem outcome_smbusReadByteDataFrom (register : UInt8) (offset remaining : ℕ) :
    AsPlain rejects (rejects.contents file device.calls)
      (.transfer [register + UInt8.ofNat offset] (remaining + 1))
      (rejects.outcome file
        (smbusReadByteDataFrom (rejects.host file) register offset (remaining + 1)) device) := by
  induction remaining generalizing offset device with
  | zero =>
    rw [smbusReadByteDataFrom]
    cases hcall : rejects device.calls (.smbusReadByteData (register + UInt8.ofNat offset)) with
    | some error => exact asPlain_of_rejected hcall rfl _ _ _
    | none =>
      rw [outcome_of_granted hcall, outcome_bind_pure, smbusReadByteDataFrom, outcome_pure,
        contents_of_granted hcall]
      exact .inl rfl
  | succ remaining ih =>
    rw [smbusReadByteDataFrom]
    cases hcall : rejects device.calls (.smbusReadByteData (register + UInt8.ofNat offset)) with
    | some error => exact asPlain_of_rejected hcall rfl _ _ _
    | none =>
      rw [outcome_of_granted hcall, outcome_bind_pure]
      rcases @ih ⟨device.calls ++ [_]⟩ (offset + 1) with hrest | ⟨⟨error, hrest⟩, hunsupported⟩
      · rw [hrest, contents_of_granted hcall, ofNat_succ]
        left
        simp only [Performed, Registers.perform, Registers.read, Registers.write]
        rw [RegisterFile.load_message_succ _ (remaining + 1)]
        rfl
      · rw [hrest]
        exact .inr ⟨⟨error, rfl⟩, hunsupported⟩

theorem outcome_smbusWriteReadFallback (register : UInt8) {length : UInt32} (hlength : length ≠ 0) :
    AsPlain rejects (rejects.contents file device.calls) (.transfer [register] length.toNat)
      (rejects.outcome file (smbusWriteReadFallback (rejects.host file) [register] length) device) := by
  have hpositive : length.toNat ≠ 0 := fun hzero => hlength (UInt32.toNat_inj.mp hzero)
  have hsequence := fun device : LinuxI2cDevice =>
    @outcome_smbusReadByteDataFrom rejects file device register 0 (length.toNat - 1)
  have hfirst : register + UInt8.ofNat 0 = register := UInt8.add_zero register
  rw [Nat.sub_add_cancel (Nat.one_le_iff_ne_zero.mpr hpositive), hfirst] at hsequence
  rw [smbusWriteReadFallback, smbusReadRegisterDataSequence, if_neg hpositive]
  split
  · rename_i hblock
    dsimp only
    rw [outcome_attempt, host]
    cases hcall : rejects device.calls (.smbusReadI2cBlockData register (UInt8.ofNat length.toNat)) with
    | none =>
      have hall : (UInt8.ofNat length.toNat).toNat = length.toNat := by
        rw [UInt8.toNat_ofNat']
        omega
      dsimp only
      rw [outcome_pure, contents_of_granted hcall, Registers.perform, hall]
      exact .inl rfl
    | some error =>
      have hkept : rejects.contents file _ = _ := contents_of_rejected hcall
      dsimp only
      rw [← hkept]
      exact hsequence _
  · exact hsequence device

theorem filled_eq {length : ℕ} {bytes : List UInt8} (h : bytes.length = length) :
    filled length bytes = bytes := by
  rw [filled, ← h, List.take_length, Nat.sub_self, List.replicate_zero, List.append_nil]

theorem length_filled (length : ℕ) (bytes : List UInt8) : (filled length bytes).length = length := by
  rw [filled, List.length_append, List.length_take, List.length_replicate]
  omega

theorem checkedFallback_ok {host : I2cHost} {write bytes : List UInt8} {length : ℕ} {after : LinuxI2cDevice}
    (h : (checkedFallback host write length).exec device = (.ok bytes, after)) :
    (smbusWriteReadFallback host write (UInt32.ofNat length)).exec device = (.ok bytes, after) ∧
      bytes.length = length := by
  rw [checkedFallback, exec_bind] at h
  rcases hexec : (smbusWriteReadFallback host write (UInt32.ofNat length)).exec device with ⟨error | given, left⟩
  · rw [hexec] at h
    cases h
  · rw [hexec] at h
    by_cases hgiven : given.length = length
    · simp only [hgiven, ne_eq, not_true_eq_false, if_false] at h
      cases h
      exact ⟨rfl, hgiven⟩
    · simp only [hgiven, ne_eq, not_false_eq_true, if_true] at h
      cases h

theorem smbusWriteReadFallback_ok {host : I2cHost} {write bytes : List UInt8} {length : UInt32}
    {after : LinuxI2cDevice}
    (h : (smbusWriteReadFallback host write length).exec device = (.ok bytes, after)) :
    (∃ register, write = [register]) ∧ (length = 0 → bytes = []) := by
  rcases write with _ | ⟨register, _ | ⟨second, write⟩⟩
  · cases h
  · refine ⟨⟨register, rfl⟩, fun hlength => ?_⟩
    subst hlength
    cases h
    rfl
  · cases h

theorem outcome_checkedFallback (write : List UInt8) {length : ℕ} (hlength : length ≠ 0) :
    Performed (rejects.contents file device.calls) (.transfer write length)
        (rejects.outcome file (checkedFallback (rejects.host file) write length) device) ∨
      Failed (rejects.outcome file (checkedFallback (rejects.host file) write length) device) := by
  rcases hexec : (checkedFallback (rejects.host file) write length).exec device with ⟨error | bytes, after⟩
  · exact .inr ⟨error, congrArg Prod.fst hexec⟩
  · left
    obtain ⟨hfallback, hbytes⟩ := checkedFallback_ok hexec
    obtain ⟨⟨register, rfl⟩, hempty⟩ := smbusWriteReadFallback_ok hfallback
    have hpositive : UInt32.ofNat length ≠ 0 := by
      intro hzero
      rw [hempty hzero] at hbytes
      exact hlength hbytes.symm
    rcases @outcome_smbusWriteReadFallback rejects file device register _ hpositive with
      hplain | ⟨⟨error, hfailed⟩, _⟩
    · rw [Performed, outcome, hfallback, Prod.mk.injEq] at hplain
      cases hplain.1
      rw [length_perform_transfer] at hbytes
      rw [Performed, outcome, hexec, hplain.2, hbytes]
    · rw [outcome, hfallback] at hfailed
      cases hfailed

theorem linuxI2cWriteReadInto_length {host : I2cHost} {deviceId : DeviceId} {write bytes : List UInt8}
    {length : ℕ} (h : ((linuxI2cWriteReadInto host deviceId write length).exec device).1 = .ok bytes) :
    bytes.length = length := by
  rw [linuxI2cWriteReadInto] at h
  split at h
  · cases h
  split at h
  · cases h
  dsimp only at h
  rw [exec_bind_of_ok (exec_attempt _ _), exec_call] at h
  cases hanswer : host device.calls (.transfer write length) with
  | ok given =>
    rw [hanswer] at h
    cases h
    exact length_filled length given
  | error error =>
    rw [hanswer] at h
    dsimp only at h
    split at h
    · rw [exec_adapt] at h
      rcases hexec : (checkedFallback host write length).exec ⟨device.calls ++ [.transfer write length]⟩ with
        ⟨error | given, after⟩
      · rw [hexec] at h
        cases h
      · rw [hexec] at h
        cases h
        exact (checkedFallback_ok hexec).2
    · cases h

theorem outcome_linuxI2cWriteReadInto (deviceId : DeviceId) (write : List UInt8) (length : ℕ) :
    Performed (rejects.contents file device.calls) (.transfer write length)
        (rejects.outcome file (linuxI2cWriteReadInto (rejects.host file) deviceId write length) device) ∨
      Failed (rejects.outcome file (linuxI2cWriteReadInto (rejects.host file) deviceId write length) device) := by
  by_cases hwrite : write = []
  · rw [linuxI2cWriteReadInto, if_pos hwrite]
    exact .inr ⟨_, rfl⟩
  by_cases hlength : length = 0
  · rw [linuxI2cWriteReadInto, if_neg hwrite, if_pos hlength]
    exact .inr ⟨_, rfl⟩
  rw [linuxI2cWriteReadInto, if_neg hwrite, if_neg hlength]
  dsimp only
  rw [outcome_attempt, host]
  cases hcall : rejects device.calls (.transfer write length) with
  | none =>
    dsimp only
    rw [outcome_pure, contents_of_granted hcall, filled_eq (length_perform_transfer write length)]
    exact .inl rfl
  | some error =>
    dsimp only
    by_cases hfallback : shouldTrySmbusFallback error = true
    · rw [if_pos hfallback, outcome_adapt]
      have hchecked := @outcome_checkedFallback rejects file ⟨device.calls ++ [.transfer write length]⟩ write
        length hlength
      rw [contents_of_rejected hcall] at hchecked
      rcases hchecked with hplain | ⟨error, hfailed⟩
      · rw [hplain]
        exact .inl rfl
      · rw [hfailed]
        exact .inr ⟨_, rfl⟩
    · rw [if_neg hfallback]
      exact .inr ⟨_, rfl⟩

end Read

theorem smbus_fallback_equals_plain (rejects : Adapter) (file : Registers) (device : LinuxI2cDevice)
    (deviceId : DeviceId) :
    (rejects.OnlyUnsupported → ∀ bytes,
      rejects.outcome file (smbusWriteFallback (rejects.host file) bytes) device =
        (.ok (), ((rejects.contents file device.calls).perform (.write bytes)).2) ∧
      (bytes ≠ [] → rejects.outcome file (linuxI2cWrite (rejects.host file) deviceId bytes) device =
        (.ok (), ((rejects.contents file device.calls).perform (.write bytes)).2))) ∧
    (∀ register (length : UInt32), length ≠ 0 →
      AsPlain rejects (rejects.contents file device.calls) (.transfer [register] length.toNat)
        (rejects.outcome file (smbusWriteReadFallback (rejects.host file) [register] length) device)) ∧
    (∀ write length,
      Performed (rejects.contents file device.calls) (.transfer write length)
        (rejects.outcome file (linuxI2cWriteReadInto (rejects.host file) deviceId write length) device) ∨
      Failed (rejects.outcome file (linuxI2cWriteReadInto (rejects.host file) deviceId write length) device)) ∧
    ∀ (host : I2cHost) write length bytes,
      ((linuxI2cWriteReadInto host deviceId write length).exec device).1 = .ok bytes → bytes.length = length := by
  refine ⟨fun h bytes => ⟨?_, fun hbytes => ?_⟩, ?_, ?_, ?_⟩
  · exact outcome_smbusWriteFallback h bytes
  · exact outcome_linuxI2cWrite h deviceId hbytes
  · exact fun register length hlength => outcome_smbusWriteReadFallback register hlength
  · exact outcome_linuxI2cWriteReadInto deviceId
  · exact fun host write length bytes => linuxI2cWriteReadInto_length

def byteAdapter : Adapter := fun _ call =>
  if call.isByte then none else some ⟨.unsupported, some 95, "not supported"⟩

def eeprom : DeviceId := ⟨"i2c-eeprom", by decide⟩

theorem byteAdapter_onlyUnsupported : byteAdapter.OnlyUnsupported := by
  intro calls call error h
  rw [byteAdapter] at h
  split at h
  · cases h
  · cases h
    exact ⟨eq_false_of_ne_true ‹_›, rfl⟩

theorem smbus_fallback_equals_plain_wrapped :
    byteAdapter.outcome ⟨fun _ => 0, 7⟩
        (linuxI2cWrite (byteAdapter.host ⟨fun _ => 0, 7⟩) eeprom [254, 1, 2, 3]) {} =
      (.ok (), (Registers.perform ⟨fun _ => 0, 7⟩ (.write [254, 1, 2, 3])).2) ∧
    (byteAdapter.outcome ⟨fun register => register, 7⟩
      (smbusWriteReadFallback (byteAdapter.host ⟨fun register => register, 7⟩) [254] 4) {}).1 =
      .ok [254, 255, 0, 1] := by
  have hwrite := (smbus_fallback_equals_plain byteAdapter ⟨fun _ => 0, 7⟩ {} eeprom).1
    byteAdapter_onlyUnsupported [254, 1, 2, 3]
  have hread := (smbus_fallback_equals_plain byteAdapter ⟨fun register => register, 7⟩ {} eeprom).2.1
    254 4 (by decide)
  refine ⟨hwrite.2 (by decide), ?_⟩
  rcases hread with hread | ⟨_, hread⟩
  · rw [hread]
    rfl
  · exact absurd byteAdapter_onlyUnsupported hread

def chipAtSeven : Registers := ⟨fun _ => 0, 7⟩

theorem smbus_fallback_of_nothing :
    let fallback := byteAdapter.outcome chipAtSeven
      (smbusWriteReadFallback (byteAdapter.host chipAtSeven) [254] (UInt32.ofNat 4294967296)) {}
    fallback.1 = .ok [] ∧ fallback.2.pointer = 7 ∧
      (chipAtSeven.perform (.transfer [254] (UInt32.ofNat 4294967296).toNat)).2.pointer = 254 ∧
      ¬Performed chipAtSeven (.transfer [254] (UInt32.ofNat 4294967296).toNat) fallback ∧ ¬Failed fallback := by
  refine ⟨rfl, rfl, rfl, ?_, ?_⟩
  · intro hperformed
    have hpointer : (7 : UInt8) = 254 := congrArg (fun outcome => outcome.2.pointer) hperformed
    revert hpointer
    decide
  · rintro ⟨error, hfailed⟩
    cases hfailed

end Lemnos.Linux
