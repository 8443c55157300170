import Lemnos.Bus.Calls
import Lemnos.Library.Logs
import Lemnos.Library.Runs

namespace Lemnos.Bus

open Lemnos.Core Library.Frames Library.Runs

section Guards

variable {S O α : Type} (metadata : S → SessionMetadata) (log : S → List O) (Outbound : O → Prop)

/-- What a call of a session keeps to, with a log of what it asks of the transport: it is refused on a closed
session, it leaves the access as it is, and with read-only access it is refused or asks for nothing outbound. -/
structure Guarded (call : Effect S BusError α) : Prop where
  closed : Refuses (fun s => (metadata s).state = .closed) call
  access : Keeps (fun s => (metadata s).access) call
  readOnly : Refuses (fun s => (metadata s).access = .sharedReadOnly) call ∨
    Logs log (fun entry => ¬Outbound entry) call

/-- What a close keeps to: the session is closed by it exactly if it succeeds, and all that it asks of the transport
is one operation, in the states in which it acts at all. An outbound one gives back what the session took. -/
structure Closing (ActsOnClose : S → Prop) (GivesBack : S → O → Prop) (close : Effect S BusError Unit) :
    Prop where
  closed : ∀ s, (close.exec s).1 = .ok () → metadata (close.exec s).2 = (metadata s).markClosed
  failed : ∀ s, (close.exec s).1 ≠ .ok () → metadata (close.exec s).2 = metadata s
  silent : ∀ s, ¬ActsOnClose s → log (close.exec s).2 = log s
  acts : ∀ s, ActsOnClose s → ∃ operation, log (close.exec s).2 = log s ++ [operation] ∧
    (Outbound operation → GivesBack s operation)

variable {metadata log Outbound}

theorem Closing.isClosed {ActsOnClose : S → Prop} {GivesBack : S → O → Prop} {close : Effect S BusError Unit}
    (h : Closing metadata log Outbound ActsOnClose GivesBack close) (s : S)
    (hclosed : (metadata s).state = .closed) :
    (metadata (close.exec s).2).state = .closed := by
  by_cases hok : (close.exec s).1 = .ok ()
  · rw [h.closed s hok]
    rfl
  · rw [h.failed s hok]
    exact hclosed

theorem Closing.access {ActsOnClose : S → Prop} {GivesBack : S → O → Prop} {close : Effect S BusError Unit}
    (h : Closing metadata log Outbound ActsOnClose GivesBack close) :
      Keeps (fun s => (metadata s).access) close := by
  intro s
  by_cases hok : (close.exec s).1 = .ok ()
  · simp only [h.closed s hok]
    rfl
  · simp only [h.failed s hok]

theorem Closing.of_giveBack {ActsOnClose : S → Prop} {GivesBack : S → O → Prop}
    {setMetadata : (SessionMetadata → SessionMetadata) → S → S} {giveBack : Effect S BusError Unit}
    (hset : ∀ f s, metadata (setMetadata f s) = f (metadata s)) (hlog : ∀ f s, log (setMetadata f s) = log s)
    (hkeeps : Keeps metadata giveBack) (hsilent : ∀ s, ¬ActsOnClose s → log (giveBack.exec s).2 = log s)
    (hacts : ∀ s, ActsOnClose s → ∃ operation, log (giveBack.exec s).2 = log s ++ [operation] ∧
      (Outbound operation → GivesBack s operation)) :
    Closing metadata log Outbound ActsOnClose GivesBack
      (giveBack >>= fun _ => modify (setMetadata .markClosed)) := by
  have hafter : ∀ s, log ((giveBack >>= fun _ => modify (setMetadata .markClosed)).exec s).2 =
      log (giveBack.exec s).2 := by
    intro s
    rw [exec_bind]
    cases giveBack.exec s with
    | mk result s₁ =>
      cases result with
      | error error => rfl
      | ok done => exact hlog _ _
  refine ⟨?_, ?_, ?_, ?_⟩
  · intro s hok
    have hsame := hkeeps s
    rw [exec_bind] at hok ⊢
    cases hexec : giveBack.exec s with
    | mk result s₁ =>
      rw [hexec] at hok hsame
      cases result with
      | error error => cases hok
      | ok done => exact (hset _ _).trans (congrArg SessionMetadata.markClosed hsame)
  · intro s hfailed
    have hsame := hkeeps s
    rw [exec_bind] at hfailed ⊢
    cases hexec : giveBack.exec s with
    | mk result s₁ =>
      rw [hexec] at hfailed hsame
      cases result with
      | error error => exact hsame
      | ok done => exact absurd rfl hfailed
  · intro s hnot
    rw [hafter]
    exact hsilent s hnot
  · intro s hdoes
    rw [hafter]
    exact hacts s hdoes

theorem SessionAccess.canWrite_eq_false_iff {access : SessionAccess} :
    access.canWrite = false ↔ access = .sharedReadOnly := by
  cases access <;> decide

theorem keepsAccess_runCallOn {setMetadata : (SessionMetadata → SessionMetadata) → S → S}
    (hset : ∀ f s, metadata (setMetadata f s) = f (metadata s)) {call : Effect S BusError α}
    (hcall : Keeps (fun s => (metadata s).access) call) :
    Keeps (fun s => (metadata s).access) (runCallOn setMetadata call) := by
  intro s
  have hcalled := hcall (setMetadata .beginCall s)
  rw [exec_runCallOn]
  simp only [hset, SessionMetadata.finishCall] at hcalled ⊢
  rw [hcalled]
  rfl

theorem logs_runCallOn {setMetadata : (SessionMetadata → SessionMetadata) → S → S}
    (hset : ∀ f s, log (setMetadata f s) = log s) {p : O → Prop} {call : Effect S BusError α}
    (hcall : Logs log p call) : Logs log p (runCallOn setMetadata call) := by
  intro s
  obtain ⟨made, hlog, hmade⟩ := hcall (setMetadata .beginCall s)
  refine ⟨made, ?_, hmade⟩
  rw [exec_runCallOn]
  simp only [hset] at hlog ⊢
  exact hlog

structure EnsuresOpen (metadata : S → SessionMetadata) (check : Effect S BusError Unit) : Prop where
  keeps : Keeps id check
  refuses : Refuses (fun s => (metadata s).state = .closed) check

structure EnsuresWritable (metadata : S → SessionMetadata) (check : Effect S BusError Unit) : Prop where
  keeps : Keeps id check
  refuses : Refuses (fun s => (metadata s).access = .sharedReadOnly) check

section Checks

variable {ensureOpen ensureWritable : Effect S BusError Unit} {call : Effect S BusError α} {device : S → DeviceId}

theorem EnsuresOpen.of_exec {interface operation : String}
    (h : ∀ s, ensureOpen.exec s = ((metadata s).ensureOpen (device s) interface operation, s)) :
    EnsuresOpen metadata ensureOpen := by
  constructor
  · intro s
    rw [h]
  · intro s hclosed
    rw [h, SessionMetadata.ensureOpen, if_pos hclosed]
    exact ⟨_, rfl⟩

theorem EnsuresWritable.of_exec {operation reason : String}
    (h : ∀ s, ensureWritable.exec s = (if (metadata s).access.canWrite then .ok () else
      .error (.permissionDenied (device s) operation reason), s)) : EnsuresWritable metadata ensureWritable := by
  constructor
  · intro s
    rw [h]
  · intro s hreadOnly
    rw [h, SessionAccess.canWrite_eq_false_iff.mpr hreadOnly]
    exact ⟨_, rfl⟩

theorem Guarded.reading (hopen : EnsuresOpen metadata ensureOpen)
    (haccess : Keeps (fun s => (metadata s).access) call)
    (hlogs : Logs log (fun entry => ¬Outbound entry) call) :
    Guarded metadata log Outbound (do ensureOpen; call) where
  closed := hopen.refuses.bind _
  access := .bind (hopen.keeps.of_id _) fun _ => haccess
  readOnly := .inr (.bind (.of_eq (hopen.keeps.of_id log)) fun _ => hlogs)

theorem Guarded.refused (hopen : EnsuresOpen metadata ensureOpen)
    (haccess : Keeps (fun s => (metadata s).access) call)
    (hreadOnly : Refuses (fun s => (metadata s).access = .sharedReadOnly) call) :
    Guarded metadata log Outbound (do ensureOpen; call) where
  closed := hopen.refuses.bind _
  access := .bind (hopen.keeps.of_id _) fun _ => haccess
  readOnly := .inl (.after hopen.keeps fun _ => hreadOnly)

theorem Guarded.writing (hopen : EnsuresOpen metadata ensureOpen)
    (hwritable : EnsuresWritable metadata ensureWritable) (haccess : Keeps (fun s => (metadata s).access) call) :
    Guarded metadata log Outbound (do ensureOpen; ensureWritable; call) := by
  apply Guarded.refused hopen
  · exact .bind (hwritable.keeps.of_id _) fun _ => haccess
  · exact hwritable.refuses.bind _

theorem Guarded.granted (hwritable : EnsuresWritable metadata ensureWritable)
    (hopen : EnsuresOpen metadata ensureOpen) (haccess : Keeps (fun s => (metadata s).access) call) :
    Guarded metadata log Outbound (do ensureWritable; ensureOpen; call) where
  closed := .after hwritable.keeps fun _ => hopen.refuses.bind _
  access := .bind (hwritable.keeps.of_id _) fun _ => .bind (hopen.keeps.of_id _) fun _ => haccess
  readOnly := .inl (hwritable.refuses.bind _)

end Checks

end Guards

/-- A session together with the transport that it works on. The log holds what was asked of the transport. What
others do in between is a change of their world. -/
structure SessionSystem where
  State : Type
  Operation : Type
  Request : Type
  World : Type
  metadata : State → SessionMetadata
  log : State → List Operation
  method : Request → (α : Type) × Effect State BusError α
  close : Effect State BusError Unit
  others : World → State → State
  Outbound : Operation → Prop
  ActsOnClose : State → Prop
  /-- With this operation the session gives back what it took from the system when it was opened. -/
  GivesBack : State → Operation → Prop

namespace SessionSystem

structure Disciplined (system : SessionSystem) : Prop where
  guarded : ∀ request, Guarded system.metadata system.log system.Outbound (system.method request).2
  closing : Closing system.metadata system.log system.Outbound system.ActsOnClose system.GivesBack system.close
  others_metadata : ∀ world s, system.metadata (system.others world s) = system.metadata s
  others_log : ∀ world s, system.log (system.others world s) = system.log s

inductive Op (system : SessionSystem) where
  | call (request : system.Request)
  | close
  | others (world : system.World)

namespace Op

variable {system : SessionSystem}

def after (op : Op system) (s : system.State) : system.State :=
  match op with
  | call request => ((system.method request).2.exec s).2
  | close => (system.close.exec s).2
  | others world => system.others world s

def step (op : Op system) (s : system.State) : Option system.State := some (op.after s)

def Silent (op : Op system) (s : system.State) : Prop := system.log (op.after s) = system.log s

/-- Nothing outbound is asked of the transport, but to give back what the session took when it was opened. -/
def Inbound (op : Op system) (s : system.State) : Prop :=
  ∃ made, system.log (op.after s) = system.log s ++ made ∧
    ∀ operation ∈ made, system.Outbound operation → op = close ∧ system.GivesBack s operation

def NotRepeated (op : Op system) (s : system.State) : Prop := op = close → ¬system.ActsOnClose s

def IsClosed (s : system.State) : Prop := (system.metadata s).state = .closed

theorem step_total (op : Op system) (s : system.State) : ∃ s', op.step s = some s' := ⟨_, rfl⟩

variable (h : system.Disciplined)

include h

theorem isClosed_after (op : Op system) (s : system.State) (hclosed : IsClosed s) : IsClosed
    (op.after s) := by
  cases op with
  | call request =>
    obtain ⟨error, herror⟩ := (h.guarded request).closed s hclosed
    rw [after, herror]
    exact hclosed
  | close => exact h.closing.isClosed s hclosed
  | others world =>
    rw [IsClosed, after, h.others_metadata]
    exact hclosed

theorem silent_iff_notRepeated (op : Op system) (s : system.State) (hclosed : IsClosed s) :
    op.Silent s ↔ op.NotRepeated s := by
  cases op with
  | call request =>
    obtain ⟨error, herror⟩ := (h.guarded request).closed s hclosed
    refine iff_of_true ?_ (fun hclose => nomatch hclose)
    rw [Silent, after, herror]
  | close =>
    constructor
    · intro hsilent _ hacts
      obtain ⟨operation, hlog, -⟩ := h.closing.acts s hacts
      have hgrown : (system.log s ++ [operation]).length = (system.log s).length :=
        congrArg List.length (hlog.symm.trans hsilent)
      rw [List.length_append, List.length_singleton] at hgrown
      omega
    · intro hnot
      exact h.closing.silent s (hnot rfl)
  | others world =>
    refine iff_of_true ?_ (fun hclose => nomatch hclose)
    rw [Silent, after, h.others_log]

theorem access_after (op : Op system) (s : system.State) :
    (system.metadata (op.after s)).access = (system.metadata s).access := by
  cases op with
  | call request => exact (h.guarded request).access s
  | close => exact h.closing.access s
  | others world => rw [after, h.others_metadata]

theorem inbound_of_readOnly (op : Op system) (s : system.State)
    (haccess : (system.metadata s).access = .sharedReadOnly) : op.Inbound s := by
  cases op with
  | call request =>
    rcases (h.guarded request).readOnly with hrefuses | hlogs
    · obtain ⟨error, herror⟩ := hrefuses s haccess
      refine ⟨[], ?_, fun operation hmem => absurd hmem List.not_mem_nil⟩
      rw [after, herror, List.append_nil]
    · obtain ⟨made, hlog, hmade⟩ := hlogs s
      exact ⟨made, hlog, fun operation hmem hout => absurd hout (hmade operation hmem)⟩
  | close =>
    by_cases hacts : system.ActsOnClose s
    · obtain ⟨operation, hlog, hback⟩ := h.closing.acts s hacts
      refine ⟨[operation], hlog, ?_⟩
      intro other hmem hout
      rw [List.mem_singleton.mp hmem] at hout ⊢
      exact ⟨rfl, hback hout⟩
    · refine ⟨[], ?_, fun operation hmem => absurd hmem List.not_mem_nil⟩
      rw [List.append_nil]
      exact h.closing.silent s hacts
  | others world =>
    refine ⟨[], ?_, fun operation hmem => absurd hmem List.not_mem_nil⟩
    rw [after, h.others_log, List.append_nil]

theorem closed_run_iff (s : system.State) (ops : List (Op system))
    (hclose : (system.close.exec s).1 = .ok ()) :
    (∀ before after reached, ops = before ++ after →
      run step before (system.close.exec s).2 = some reached →
      IsClosed reached ∧ ∀ op rest, after = op :: rest → op.Silent reached) ↔
      Along step NotRepeated ops (system.close.exec s).2 := by
  obtain ⟨last, hrun⟩ := run_total step_total ops (system.close.exec s).2
  have hclosed : IsClosed (system.close.exec s).2 := by
    rw [IsClosed, h.closing.closed s hclose]
    rfl
  refine good_iff_along (fun _ hclosed => hclosed) ?_ ?_ ?_ hclosed hrun
  · intro op s s' hclosed _ hstep
    cases hstep
    exact isClosed_after h op s hclosed
  · exact fun op s hclosed hnot => (silent_iff_notRepeated h op s hclosed).mpr hnot
  · exact fun op s _ hclosed _ hsilent _ => (silent_iff_notRepeated h op s hclosed).mp hsilent

theorem readOnly_run (s : system.State) (haccess : (system.metadata s).access = .sharedReadOnly)
    {before : List (Op system)} {reached : system.State} (hrun : run step before s = some reached)
    (op : Op system) : op.Inbound reached := by
  refine inbound_of_readOnly h op reached ?_
  refine @run_invariant _ _ step (fun s => (system.metadata s).access = .sharedReadOnly) ?_ _ _ _ haccess hrun
  intro op s s' haccess hstep
  cases hstep
  exact (access_after h op s).trans haccess

end Op

end SessionSystem

end Lemnos.Bus
