import Lemnos.Bus.Session
import Lemnos.Library.OrderedMap
import Lemnos.Library.Runs

namespace Lemnos.Linux

open Lemnos.Core Bus Library.OrderedMap Library.Runs

inductive HandleCall where
  | claimInterface (interfaceNumber : UInt8)
  | setAlternateSetting (interfaceNumber alternateSetting : UInt8)
  | releaseInterface (interfaceNumber : UInt8)
  deriving DecidableEq

abbrev Libusb := List HandleCall → HandleCall → Except String Unit

structure UsbHandle where
  held : BTreeSet UInt8 := ∅
  calls : List HandleCall := []

namespace UsbHandle

variable (libusb : Libusb) (handle : UsbHandle)

def call (call : HandleCall) : Except String Unit × UsbHandle :=
  (libusb handle.calls call, { handle with calls := handle.calls ++ [call] })

def claimInterface (interfaceNumber : UInt8) : Except String Unit × UsbHandle :=
  -- claiming an interface again is always granted
  if interfaceNumber ∈ handle.held then
    (.ok (), (handle.call libusb (.claimInterface interfaceNumber)).2)
  else
    match handle.call libusb (.claimInterface interfaceNumber) with
    | (.error error, handle) => (.error error, handle)
    | (.ok (), handle) => (.ok (), { handle with held := handle.held.insert interfaceNumber })

def setAlternateSetting (interfaceNumber alternateSetting : UInt8) : Except String Unit × UsbHandle :=
  handle.call libusb (.setAlternateSetting interfaceNumber alternateSetting)

def releaseInterface (interfaceNumber : UInt8) : Except String Unit × UsbHandle :=
  match handle.call libusb (.releaseInterface interfaceNumber) with
  | (.error error, handle) => (.error error, handle)
  | (.ok (), handle) => (.ok (), { handle with held := handle.held.erase interfaceNumber })

theorem mem_claimInterface (interfaceNumber other : UInt8) :
    other ∈ (handle.claimInterface libusb interfaceNumber).2.held ↔
      other ∈ handle.held ∨
        (other = interfaceNumber ∧ (handle.claimInterface libusb interfaceNumber).1.isOk = true) := by
  unfold claimInterface call
  by_cases hheld : interfaceNumber ∈ handle.held
  · rw [if_pos hheld]
    constructor
    · exact .inl
    · rintro (hother | ⟨rfl, -⟩)
      · exact hother
      · exact hheld
  · rw [if_neg hheld]
    cases libusb handle.calls (.claimInterface interfaceNumber) with
    | error error => simp [Except.isOk, Except.toBool]
    | ok granted =>
      simp only [BTreeSet.mem_insert_iff, Except.isOk, Except.toBool, and_true]
      exact or_comm

@[simp] theorem setAlternateSetting_held (interfaceNumber alternateSetting : UInt8) :
    (handle.setAlternateSetting libusb interfaceNumber alternateSetting).2.held = handle.held := rfl

theorem mem_releaseInterface (interfaceNumber other : UInt8) :
    other ∈ (handle.releaseInterface libusb interfaceNumber).2.held ↔
      other ∈ handle.held ∧
        ((handle.releaseInterface libusb interfaceNumber).1.isOk = true → other ≠ interfaceNumber) := by
  unfold releaseInterface call
  cases libusb handle.calls (.releaseInterface interfaceNumber) with
  | error error => simp [Except.isOk, Except.toBool]
  | ok granted =>
    simp only [BTreeSet.mem_erase_iff, Except.isOk, Except.toBool, forall_const]
    exact and_comm

end UsbHandle

structure LinuxLibusbTransport where
  deviceId : DeviceId
  handle : UsbHandle := {}
  claimedInterfaces : BTreeMap UInt8 (Option UInt8) := ∅

namespace LinuxLibusbTransport

variable (libusb : Libusb) (transport : LinuxLibusbTransport)

def transportFailure (operation reason : String) : BusError :=
  .transportFailure transport.deviceId operation reason

def setHandle (handle : UsbHandle) : LinuxLibusbTransport := { transport with handle }

def rememberClaimedInterface (interfaceNumber : UInt8) (alternateSetting : Option UInt8) :
    LinuxLibusbTransport :=
  { transport with
    claimedInterfaces := transport.claimedInterfaces.insert interfaceNumber alternateSetting }

def forgetClaimedInterface (interfaceNumber : UInt8) : LinuxLibusbTransport :=
  { transport with claimedInterfaces := transport.claimedInterfaces.erase interfaceNumber }

def claimInterfaceOnHandle (interfaceNumber : UInt8) (alternateSetting : Option UInt8) :
    BusResult Unit × LinuxLibusbTransport :=
  match transport.handle.claimInterface libusb interfaceNumber with
  | (.error error, handle) =>
    (.error (transport.transportFailure "usb.claim_interface" s!"USB interface claim failed: {error}"),
      transport.setHandle handle)
  | (.ok (), handle) =>
    match alternateSetting with
    | none => (.ok (), transport.setHandle handle)
    | some alternateSetting =>
      match handle.setAlternateSetting libusb interfaceNumber alternateSetting with
      | (.ok (), handle) => (.ok (), transport.setHandle handle)
      | (.error error, handle) =>
        match handle.releaseInterface libusb interfaceNumber with
        | (.error rollback, handle) =>
          let reason := s!"USB alternate setting change failed: {error}; rollback release failed: {rollback}"
          (.error (transport.transportFailure "usb.claim_interface" reason), transport.setHandle handle)
        | (.ok (), handle) =>
          let reason := s!"USB alternate setting change failed: {error}"
          (.error (transport.transportFailure "usb.claim_interface" reason), transport.setHandle handle)

def releaseInterfaceOnHandle (interfaceNumber : UInt8) : BusResult Unit × LinuxLibusbTransport :=
  match transport.handle.releaseInterface libusb interfaceNumber with
  | (.error error, handle) =>
    (.error (transport.transportFailure "usb.release_interface" s!"USB interface release failed: {error}"),
      transport.setHandle handle)
  | (.ok (), handle) => (.ok (), transport.setHandle handle)

def claimInterface (interfaceNumber : UInt8) (alternateSetting : Option UInt8) :
    BusResult Unit × LinuxLibusbTransport :=
  match transport.claimInterfaceOnHandle libusb interfaceNumber alternateSetting with
  | (.error error, transport) => (.error error, transport)
  | (.ok (), transport) => (.ok (), transport.rememberClaimedInterface interfaceNumber alternateSetting)

def releaseInterface (interfaceNumber : UInt8) : BusResult Unit × LinuxLibusbTransport :=
  match transport.releaseInterfaceOnHandle libusb interfaceNumber with
  | (.error error, transport) => (.error error, transport)
  | (.ok (), transport) => (.ok (), transport.forgetClaimedInterface interfaceNumber)

def releaseAll : List UInt8 → LinuxLibusbTransport → BusResult Unit × LinuxLibusbTransport
  | [], transport => (.ok (), transport)
  | interfaceNumber :: rest, transport =>
    match transport.releaseInterfaceOnHandle libusb interfaceNumber with
    | (.error error, transport) => (.error error, transport)
    | (.ok (), transport) => releaseAll rest transport

/-- The map is taken as a whole before the first release. -/
def close : BusResult Unit × LinuxLibusbTransport :=
  let claimedInterfaces := transport.claimedInterfaces
  releaseAll libusb claimedInterfaces.keys { transport with claimedInterfaces := ∅ }

end LinuxLibusbTransport

inductive UsbCall where
  | claimInterface (interfaceNumber : UInt8) (alternateSetting : Option UInt8)
  | releaseInterface (interfaceNumber : UInt8)
  | close
  deriving DecidableEq

namespace LinuxLibusbTransport

def exec (libusb : Libusb) (call : UsbCall) (transport : LinuxLibusbTransport) :
    BusResult Unit × LinuxLibusbTransport :=
  match call with
  | .claimInterface interfaceNumber alternateSetting =>
    transport.claimInterface libusb interfaceNumber alternateSetting
  | .releaseInterface interfaceNumber => transport.releaseInterface libusb interfaceNumber
  | .close => transport.close libusb

def Tracks (transport : LinuxLibusbTransport) : Prop :=
  ∀ interfaceNumber, interfaceNumber ∈ transport.claimedInterfaces ↔ interfaceNumber ∈ transport.handle.held

/-- Every interface that is still held goes at a close whose releases are granted. -/
def CloseReleasesAll (transport : LinuxLibusbTransport) : Prop :=
  ∀ libusb : Libusb, (∀ calls interfaceNumber, libusb calls (.releaseInterface interfaceNumber) = .ok ()) →
    ∀ interfaceNumber, interfaceNumber ∉ (transport.close libusb).2.handle.held

def ReleasesAll (libusb : Libusb) : List UInt8 → UsbHandle → Prop
  | [], _ => True
  | interfaceNumber :: rest, handle =>
    (handle.releaseInterface libusb interfaceNumber).1.isOk = true ∧
      ReleasesAll libusb rest (handle.releaseInterface libusb interfaceNumber).2

/-- A refused alternate setting leaves the interface as it was, and a close is granted all its releases. -/
def KeepsTrack (libusb : Libusb) (call : UsbCall) (transport : LinuxLibusbTransport) : Prop :=
  match call with
  | .claimInterface _ none => True
  | .claimInterface interfaceNumber (some alternateSetting) =>
    let claimed := transport.handle.claimInterface libusb interfaceNumber
    let switched := claimed.2.setAlternateSetting libusb interfaceNumber alternateSetting
    let rolledBack := switched.2.releaseInterface libusb interfaceNumber
    claimed.1.isOk = true → switched.1.isOk = false →
      (interfaceNumber ∈ transport.handle.held ↔ rolledBack.1.isOk = false)
  | .releaseInterface _ => True
  | .close => ReleasesAll libusb transport.claimedInterfaces.keys transport.handle

section Claiming

variable (libusb : Libusb) {transport : LinuxLibusbTransport}

theorem claimInterface_cases (transport : LinuxLibusbTransport) (interfaceNumber : UInt8)
    (alternateSetting : Option UInt8) :
    let claimed := transport.handle.claimInterface libusb interfaceNumber
    let after := (transport.claimInterface libusb interfaceNumber alternateSetting).2
    (claimed.1.isOk = false ∧ after = transport.setHandle claimed.2) ∨
    (claimed.1.isOk = true ∧
      (∀ setting, alternateSetting = some setting →
        (claimed.2.setAlternateSetting libusb interfaceNumber setting).1.isOk = true) ∧
      ∃ handle, handle.held = claimed.2.held ∧
        after = (transport.setHandle handle).rememberClaimedInterface interfaceNumber alternateSetting) ∨
    ∃ setting, alternateSetting = some setting ∧ claimed.1.isOk = true ∧
      (claimed.2.setAlternateSetting libusb interfaceNumber setting).1.isOk = false ∧
      after = transport.setHandle ((claimed.2.setAlternateSetting libusb interfaceNumber
        setting).2.releaseInterface libusb interfaceNumber).2 := by
  simp only [claimInterface, claimInterfaceOnHandle]
  generalize transport.handle.claimInterface libusb interfaceNumber = claimed
  obtain ⟨result, handle⟩ := claimed
  cases result with
  | error error => exact .inl ⟨rfl, rfl⟩
  | ok granted =>
    right
    cases alternateSetting with
    | none => exact .inl ⟨rfl, fun _ hsome => (Option.some_ne_none _ hsome.symm).elim, handle, rfl, rfl⟩
    | some setting =>
      have hheld := handle.setAlternateSetting_held libusb interfaceNumber setting
      simp only
      cases hswitched : handle.setAlternateSetting libusb interfaceNumber setting with
      | mk answer switched =>
        rw [hswitched] at hheld
        cases answer with
        | ok changed =>
          refine .inl ⟨rfl, ?_, switched, hheld, rfl⟩
          intro other hother
          cases hother
          rw [hswitched]
          rfl
        | error error =>
          refine .inr ⟨setting, rfl, rfl, by rw [hswitched]; rfl, ?_⟩
          rw [hswitched]
          simp only
          cases switched.releaseInterface libusb interfaceNumber with
          | mk rollback handle => cases rollback <;> rfl

theorem Tracks.setHandle_iff (h : transport.Tracks) (handle : UsbHandle) :
    (transport.setHandle handle).Tracks ↔ ∀ other, other ∈ handle.held ↔ other ∈ transport.handle.held := by
  refine forall_congr' fun other => ?_
  have hother := h other
  simp only [setHandle]
  tauto

theorem Tracks.claimInterface_iff (h : transport.Tracks) (interfaceNumber : UInt8)
    (alternateSetting : Option UInt8) :
    (transport.claimInterface libusb interfaceNumber alternateSetting).2.Tracks ↔
      transport.KeepsTrack libusb (.claimInterface interfaceNumber alternateSetting) := by
  have hheld := transport.handle.mem_claimInterface libusb interfaceNumber
  rcases transport.claimInterface_cases libusb interfaceNumber alternateSetting with
    ⟨hrefused, hafter⟩ | ⟨hgranted, hsettings, handle, hsame, hafter⟩ |
    ⟨setting, rfl, hgranted, hrefused, hafter⟩
  · rw [hafter, h.setHandle_iff]
    have hkeeps : transport.KeepsTrack libusb (.claimInterface interfaceNumber alternateSetting) := by
      cases alternateSetting with
      | none => trivial
      | some setting =>
        intro hok
        rw [hrefused] at hok
        cases hok
    refine iff_of_true ?_ hkeeps
    intro other
    rw [hheld, hrefused]
    simp
  · rw [hafter]
    have hkeeps : transport.KeepsTrack libusb (.claimInterface interfaceNumber alternateSetting) := by
      cases alternateSetting with
      | none => trivial
      | some setting =>
        intro _ hfailed
        rw [hsettings setting rfl] at hfailed
        cases hfailed
    refine iff_of_true ?_ hkeeps
    intro other
    have hother := h other
    simp only [rememberClaimedInterface, setHandle, BTreeMap.mem_insert_iff, hsame, hheld, hgranted]
    tauto
  · rw [hafter, h.setHandle_iff]
    have hrelease := ((transport.handle.claimInterface libusb interfaceNumber).2.setAlternateSetting libusb
      interfaceNumber setting).2.mem_releaseInterface libusb interfaceNumber
    simp only [UsbHandle.setAlternateSetting_held, hheld, hgranted] at hrelease
    simp only [KeepsTrack, hgranted, hrefused, forall_const, hrelease]
    generalize (((transport.handle.claimInterface libusb interfaceNumber).2.setAlternateSetting libusb
      interfaceNumber setting).2.releaseInterface libusb interfaceNumber).1.isOk = rolledBack
    constructor
    · intro htracks
      have hown := htracks interfaceNumber
      cases rolledBack <;> simpa using hown
    · intro hkeeps other
      by_cases hother : other = interfaceNumber
      · subst hother
        cases rolledBack <;> simpa using hkeeps
      · simp [hother]

theorem Tracks.releaseInterface (h : transport.Tracks) (interfaceNumber : UInt8) :
    (transport.releaseInterface libusb interfaceNumber).2.Tracks := by
  have hheld := transport.handle.mem_releaseInterface libusb interfaceNumber
  simp only [LinuxLibusbTransport.releaseInterface, releaseInterfaceOnHandle]
  generalize transport.handle.releaseInterface libusb interfaceNumber = released at hheld
  obtain ⟨result, handle⟩ := released
  intro other
  have hother := h other
  have hafter : other ∈ handle.held ↔ other ∈ transport.handle.held ∧
    (result.isOk = true → other ≠ interfaceNumber) := hheld other
  cases result with
  | error error => simpa [setHandle, Except.isOk, Except.toBool, hother] using hafter.symm
  | ok granted =>
    simp only [setHandle, forgetClaimedInterface, BTreeMap.mem_erase_iff, hafter, hother, Except.isOk,
      Except.toBool, forall_const]
    exact and_comm

end Claiming

section Closing

variable (libusb : Libusb)

theorem releaseAll_cons (interfaceNumber : UInt8) (rest : List UInt8) (transport : LinuxLibusbTransport) :
    (releaseAll libusb (interfaceNumber :: rest) transport).2 =
      if (transport.handle.releaseInterface libusb interfaceNumber).1.isOk then
        (releaseAll libusb rest
          (transport.setHandle (transport.handle.releaseInterface libusb interfaceNumber).2)).2
      else transport.setHandle (transport.handle.releaseInterface libusb interfaceNumber).2 := by
  rw [releaseAll, releaseInterfaceOnHandle]
  cases transport.handle.releaseInterface libusb interfaceNumber with
  | mk result handle => cases result <;> rfl

theorem releaseAll_claimedInterfaces (interfaces : List UInt8) (transport : LinuxLibusbTransport) :
    (releaseAll libusb interfaces transport).2.claimedInterfaces = transport.claimedInterfaces := by
  induction interfaces generalizing transport with
  | nil => rfl
  | cons interfaceNumber rest ih =>
    rw [releaseAll_cons]
    split
    · exact ih _
    · rfl

theorem mem_releaseAll {interfaces : List UInt8} {transport : LinuxLibusbTransport}
    (h : ReleasesAll libusb interfaces transport.handle) (other : UInt8) :
    other ∈ (releaseAll libusb interfaces transport).2.handle.held ↔
      other ∈ transport.handle.held ∧ other ∉ interfaces := by
  induction interfaces generalizing transport with
  | nil => simp [releaseAll]
  | cons interfaceNumber rest ih =>
    obtain ⟨hgranted, hrest⟩ := h
    have hheld := transport.handle.mem_releaseInterface libusb interfaceNumber other
    rw [releaseAll_cons, if_pos hgranted, ih hrest]
    simp only [setHandle, hheld, hgranted, forall_const, List.mem_cons, not_or, ne_eq]
    tauto

theorem releaseAll_refused {interfaces : List UInt8} {transport : LinuxLibusbTransport}
    (hnodup : interfaces.Nodup) (hheld : ∀ interfaceNumber ∈ interfaces, interfaceNumber ∈ transport.handle.held)
    (h : ¬ReleasesAll libusb interfaces transport.handle) :
    ∃ interfaceNumber, interfaceNumber ∈ (releaseAll libusb interfaces transport).2.handle.held := by
  induction interfaces generalizing transport with
  | nil => exact absurd trivial h
  | cons interfaceNumber rest ih =>
    obtain ⟨hfresh, hnodup⟩ := List.nodup_cons.mp hnodup
    have hmem := transport.handle.mem_releaseInterface libusb interfaceNumber
    rw [releaseAll_cons]
    by_cases hgranted : (transport.handle.releaseInterface libusb interfaceNumber).1.isOk = true
    · rw [if_pos hgranted]
      apply ih hnodup
      · intro other hother
        refine (hmem other).mpr ⟨hheld other (List.mem_cons_of_mem _ hother), ?_⟩
        rintro - rfl
        exact hfresh hother
      · exact fun hrest => h ⟨hgranted, hrest⟩
    · rw [if_neg hgranted]
      exact ⟨interfaceNumber, (hmem interfaceNumber).mpr
        ⟨hheld interfaceNumber List.mem_cons_self, fun hok => absurd hok hgranted⟩⟩

variable {transport : LinuxLibusbTransport}

theorem Tracks.close_iff (h : transport.Tracks) :
    (transport.close libusb).2.Tracks ↔ ReleasesAll libusb transport.claimedInterfaces.keys transport.handle := by
  have htracked : ∀ other, other ∉ (transport.close libusb).2.claimedInterfaces := by
    intro other
    rw [close, releaseAll_claimedInterfaces]
    exact Std.ExtTreeMap.not_mem_empty
  constructor
  · intro hafter
    by_contra hrefused
    obtain ⟨interfaceNumber, hheld⟩ := @releaseAll_refused libusb transport.claimedInterfaces.keys
      { transport with claimedInterfaces := ∅ } transport.claimedInterfaces.nodup_keys
      (fun interfaceNumber hkey => (h interfaceNumber).mp (Std.ExtTreeMap.mem_keys.mp hkey)) hrefused
    exact htracked interfaceNumber ((hafter interfaceNumber).mpr hheld)
  · intro hgranted other
    refine iff_of_false (htracked other) ?_
    rw [close, @mem_releaseAll libusb transport.claimedInterfaces.keys
      { transport with claimedInterfaces := ∅ } hgranted, Std.ExtTreeMap.mem_keys, h other]
    exact fun hheld => hheld.2 hheld.1

theorem releasesAll_of_granted {libusb : Libusb}
    (h : ∀ calls interfaceNumber, libusb calls (.releaseInterface interfaceNumber) = .ok ())
    (interfaces : List UInt8) (handle : UsbHandle) : ReleasesAll libusb interfaces handle := by
  induction interfaces generalizing handle with
  | nil => trivial
  | cons interfaceNumber rest ih =>
    refine ⟨?_, ih _⟩
    rw [UsbHandle.releaseInterface, UsbHandle.call, h]
    rfl

theorem Tracks.closeReleasesAll (h : transport.Tracks) : transport.CloseReleasesAll := by
  intro libusb hgranted interfaceNumber hheld
  have hall := releasesAll_of_granted hgranted transport.claimedInterfaces.keys transport.handle
  rw [close, @mem_releaseAll libusb transport.claimedInterfaces.keys
    { transport with claimedInterfaces := ∅ } hall, Std.ExtTreeMap.mem_keys, h interfaceNumber] at hheld
  exact hheld.2 hheld.1

end Closing

section Runs

variable (libusb : Libusb)

def step (call : UsbCall) (transport : LinuxLibusbTransport) : Option LinuxLibusbTransport :=
  some (transport.exec libusb call).2

theorem Tracks.exec_iff {transport : LinuxLibusbTransport} (h : transport.Tracks) (call : UsbCall) :
    (transport.exec libusb call).2.Tracks ↔ transport.KeepsTrack libusb call := by
  cases call with
  | claimInterface interfaceNumber alternateSetting =>
    exact h.claimInterface_iff libusb interfaceNumber alternateSetting
  | releaseInterface interfaceNumber => exact iff_of_true (h.releaseInterface libusb interfaceNumber) trivial
  | close => exact h.close_iff libusb

/-- At every point of a run the transport knows exactly what its handle holds, and a close that is granted
its releases leaves nothing held, exactly if every call of the run keeps track. -/
theorem run_tracks_iff (deviceId : DeviceId) (calls : List UsbCall) :
    (∀ before after reached, calls = before ++ after →
      run (step libusb) before { deviceId } = some reached → reached.Tracks ∧ reached.CloseReleasesAll) ↔
      Along (step libusb) (fun call transport => transport.KeepsTrack libusb call) calls { deviceId } := by
  obtain ⟨last, hrun⟩ := @run_total _ _ (step libusb) (fun _ _ => ⟨_, rfl⟩) calls { deviceId }
  have hinit : Tracks { deviceId } := fun _ =>
    iff_of_false Std.ExtTreeMap.not_mem_empty Std.ExtTreeSet.not_mem_empty
  apply always_iff_along (p := fun transport => transport.Tracks ∧ transport.CloseReleasesAll) _
    ⟨hinit, hinit.closeReleasesAll⟩ hrun
  intro call transport transport' h hstep
  cases hstep
  rw [← h.1.exec_iff libusb call]
  exact ⟨And.left, fun hafter => ⟨hafter, hafter.closeReleasesAll⟩⟩

def usbDevice : DeviceId := ⟨"usb-1-2", by decide⟩

def reluctant : Libusb := fun calls call =>
  match call with
  | .claimInterface _ => .ok ()
  | .setAlternateSetting _ _ => .error "Entity not found"
  | .releaseInterface interfaceNumber =>
    if interfaceNumber = 0 ∧ .releaseInterface 0 ∉ calls then .error "Input/Output Error" else .ok ()

theorem failed_close_forgets_held_interfaces :
    (∃ transport, run (step reluctant) [.claimInterface 0 none, .claimInterface 1 none, .close]
        { deviceId := usbDevice } = some transport ∧ ¬transport.Tracks ∧
      0 ∈ (transport.close reluctant).2.handle.held ∧ 1 ∈ (transport.close reluctant).2.handle.held ∧
      (transport.close reluctant).1 = .ok ()) ∧
    ∃ transport, run (step reluctant) [.claimInterface 1 none, .claimInterface 1 (some 2)]
        { deviceId := usbDevice } = some transport ∧
      1 ∈ transport.claimedInterfaces ∧ 1 ∉ transport.handle.held := by
  refine ⟨⟨_, rfl, fun h => ?_, by decide, by decide, by decide⟩, ⟨_, rfl, by decide, by decide⟩⟩
  have hzero := h 0
  exact absurd (hzero.mpr (by decide)) (by decide)

end Runs

end LinuxLibusbTransport

structure LinuxUsbSession where
  metadata : SessionMetadata
  transport : LinuxLibusbTransport

namespace LinuxUsbSession

variable (libusb : Libusb) (session : LinuxUsbSession)

def runCall (call : LinuxLibusbTransport → BusResult Unit × LinuxLibusbTransport) :
    BusResult Unit × LinuxUsbSession :=
  let metadata := session.metadata.beginCall
  let (result, transport) := call session.transport
  (result, ⟨metadata.finishCall result, transport⟩)

def runWriteCall (operation reason : String)
    (call : LinuxLibusbTransport → BusResult Unit × LinuxLibusbTransport) :
    BusResult Unit × LinuxUsbSession :=
  match session.metadata.ensureOpen session.transport.deviceId "USB" operation with
  | .error error => (.error error, session)
  | .ok () =>
    if !session.metadata.access.canWrite then
      (.error (.permissionDenied session.transport.deviceId operation reason), session)
    else session.runCall call

def claimInterface (interfaceNumber : UInt8) (alternateSetting : Option UInt8) :
    BusResult Unit × LinuxUsbSession :=
  session.runWriteCall "usb.claim_interface" "session access does not allow interface claims"
    (fun transport => transport.claimInterface libusb interfaceNumber alternateSetting)

def releaseInterface (interfaceNumber : UInt8) : BusResult Unit × LinuxUsbSession :=
  session.runWriteCall "usb.release_interface" "session access does not allow interface release"
    (fun transport => transport.releaseInterface libusb interfaceNumber)

def close : BusResult Unit × LinuxUsbSession :=
  match session.transport.close libusb with
  | (.error error, transport) => (.error error, { session with transport })
  | (.ok (), transport) => (.ok (), ⟨session.metadata.markClosed, transport⟩)

def exec (call : UsbCall) : BusResult Unit × LinuxUsbSession :=
  match call with
  | .claimInterface interfaceNumber alternateSetting =>
    session.claimInterface libusb interfaceNumber alternateSetting
  | .releaseInterface interfaceNumber => session.releaseInterface libusb interfaceNumber
  | .close => session.close libusb

def step (call : UsbCall) (session : LinuxUsbSession) : Option LinuxUsbSession :=
  some (session.exec libusb call).2

theorem close_transport : (session.close libusb).2.transport = (session.transport.close libusb).2 := by
  unfold close
  cases session.transport.close libusb with
  | mk result transport => cases result <;> rfl

theorem runWriteCall_transport (operation reason : String)
    (call : LinuxLibusbTransport → BusResult Unit × LinuxLibusbTransport) :
    (session.runWriteCall operation reason call).2.transport = session.transport ∨
      (session.runWriteCall operation reason call).2.transport = (call session.transport).2 := by
  unfold runWriteCall
  split
  · exact .inl rfl
  · split
    · exact .inl rfl
    · exact .inr rfl

theorem exec_transport (call : UsbCall) :
    (session.exec libusb call).2.transport = session.transport ∨
      (session.exec libusb call).2.transport = (session.transport.exec libusb call).2 := by
  cases call with
  | claimInterface interfaceNumber alternateSetting => exact session.runWriteCall_transport _ _ _
  | releaseInterface interfaceNumber => exact session.runWriteCall_transport _ _ _
  | close => exact .inr (session.close_transport libusb)

theorem run_transport {calls : List UsbCall} {session session' : LinuxUsbSession}
    (hrun : run (step libusb) calls session = some session') :
    ∃ made, made.Sublist calls ∧
      run (LinuxLibusbTransport.step libusb) made session.transport = some session'.transport := by
  induction calls generalizing session with
  | nil =>
    cases hrun
    exact ⟨[], .refl [], rfl⟩
  | cons call calls ih =>
    obtain ⟨session₁, hstep, hrest⟩ := run_cons hrun
    cases hstep
    obtain ⟨made, hmade, htransport⟩ := ih hrest
    rcases session.exec_transport libusb call with hsame | hcalled
    · rw [hsame] at htransport
      exact ⟨made, hmade.cons call, htransport⟩
    · rw [hcalled] at htransport
      exact ⟨call :: made, hmade.cons_cons call, htransport⟩

end LinuxUsbSession

end Lemnos.Linux
