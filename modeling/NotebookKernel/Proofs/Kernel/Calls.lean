import NotebookKernel.Proofs.Kernel.Sequence
import NotebookKernel.Proofs.Session.Diary

/-! # What a request is for the session

A kernel uses its session for nothing but the one call that a request stands for.  So what holds
of all calls to a session holds of all requests, and a kernel commutes with a simulation between
engines because its session does.
-/

namespace NotebookKernel

variable {ε δ : Type}

/-- The call that a request makes to the session. -/
def Request.call? : Request → Option Session.Call
  | .execute code _ => some (.execute code)
  | .complete code cursor => some (.complete code cursor)
  | .inspect code cursor _ => some (.inspect code cursor)
  | .isComplete code => some (.completeness code)
  | .kernelInfo => none
  | .shutdown _ => some .shutdown

theorem Request.call?_eq_shutdown {r : Request} : r.call? = some .shutdown ↔ r.isShutdown = true := by
  cases r <;> simp [call?, isShutdown]

namespace Kernel

theorem session_handle (E : Engine ε) (k : Kernel ε) (r : Request) :
    (k.handle E r).2.session = k.session.after E r.call?.toList := by
  cases r with
  | execute code silent => cases silent <;> rfl
  | complete | inspect | isComplete | kernelInfo | shutdown => rfl

/-! ## Through a simulation -/

/-- A kernel with its engine seen through `f`. -/
def map (f : ε → δ) (k : Kernel ε) : Kernel δ :=
  { session := k.session.map f, executions := k.executions }

section Simulation

variable {E : Engine ε} {D : Engine δ} {f : ε → δ}

theorem map_execute (sim : E.Simulates D f) (k : Kernel ε) (code : String) (count : UInt32)
    (silent : Bool) :
    (k.map f).execute D code count silent =
      ((k.execute E code count silent).1, (k.execute E code count silent).2.map f) := by
  simp only [execute, map, Session.execute, Session.map_executeIn sim]

theorem map_inspect (sim : E.Simulates D f) (k : Kernel ε) (code : String) (cursor : Nat) :
    (k.map f).inspect D code cursor =
      ((k.inspect E code cursor).1, (k.inspect E code cursor).2.map f) := by
  simp only [inspect, map, Session.map_inspect sim]

theorem map_shutdown (sim : E.Simulates D f) (k : Kernel ε) :
    (k.map f).shutdown D = ((k.shutdown E).1, (k.shutdown E).2.map f) := by
  simp only [shutdown, map, Session.map_shutdown sim]

theorem map_handle (sim : E.Simulates D f) (k : Kernel ε) (r : Request) :
    (k.map f).handle D r = ((k.handle E r).1, (k.handle E r).2.map f) := by
  cases r with
  | execute code silent =>
    have counted : (k.map f).countExecution silent = (k.countExecution silent).map f := by
      cases silent <;> rfl
    simp only [handle, counted, map_execute sim]
    rfl
  | inspect code cursor detail => simp only [handle, map_inspect sim]
  | shutdown restart => simp only [handle, map_shutdown sim]
  | complete | isComplete | kernelInfo => rfl

end Simulation

end Kernel

end NotebookKernel
