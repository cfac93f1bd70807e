import NotebookKernel.Kernel.Basic

/-! # Requests one after the other

`Kernel.handleAll` is what a kernel does with requests that come one at a time: the standard
that everything that stands between clients and a kernel is measured by.
-/

namespace NotebookKernel.Kernel

variable {ε : Type}

/-- Answer requests one after the other: the replies, and the kernel behind them. -/
def handleAll (E : Engine ε) (k : Kernel ε) : List Request → List Reply × Kernel ε
  | [] => ([], k)
  | r :: rs =>
    let (b, k) := k.handle E r
    let (bs, k) := k.handleAll E rs
    (b :: bs, k)

def replies (E : Engine ε) (k : Kernel ε) (rs : List Request) : List Reply :=
  (k.handleAll E rs).1

/-- A kernel after it has answered requests. -/
def after (E : Engine ε) (k : Kernel ε) (rs : List Request) : Kernel ε :=
  (k.handleAll E rs).2

variable (E : Engine ε) (k : Kernel ε)

theorem replies_append (rs ss : List Request) :
    k.replies E (rs ++ ss) = k.replies E rs ++ (k.after E rs).replies E ss := by
  induction rs generalizing k with
  | nil => rfl
  | cons r rs ih => exact congrArg (_ :: ·) (ih _)

theorem after_append (rs ss : List Request) :
    k.after E (rs ++ ss) = (k.after E rs).after E ss := by
  induction rs generalizing k with
  | nil => rfl
  | cons r rs ih => exact ih _

@[simp] theorem length_replies (rs : List Request) : (k.replies E rs).length = rs.length := by
  induction rs generalizing k with
  | nil => rfl
  | cons r rs ih => exact congrArg (· + 1) (ih _)

theorem replies_concat (rs : List Request) (r : Request) :
    k.replies E (rs ++ [r]) = k.replies E rs ++ [((k.after E rs).handle E r).1] :=
  replies_append E k rs [r]

theorem after_concat (rs : List Request) (r : Request) :
    k.after E (rs ++ [r]) = ((k.after E rs).handle E r).2 :=
  after_append E k rs [r]

theorem replies_mono {rs ss : List Request} (h : rs <+: ss) :
    k.replies E rs <+: k.replies E ss := by
  obtain ⟨more, rfl⟩ := h
  exact ⟨_, (replies_append E k rs more).symm⟩

end NotebookKernel.Kernel
