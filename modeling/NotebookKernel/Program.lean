/-!
Programs that talk to their surroundings.

A program either is done or asks its surroundings for something and goes on with the answer.
The debugger, the broadcast channel, the files and the locks that a kernel needs are all reached
this way, so what a program does is a value: it can be run against any surroundings, and two runs
of one program can be compared answer by answer.
-/

namespace NotebookKernel

/-- What programs may ask of their surroundings, and the type of the answer to each request. -/
structure Interface where
  Request : Type
  Answer : Request → Type

/-- A program over an interface with a result in `α`. -/
inductive Program (I : Interface) (α : Type) : Type where
  /-- The program has finished. -/
  | done (result : α)
  /-- The program waits for the answer to one request. -/
  | ask (request : I.Request) (next : I.Answer request → Program I α)

namespace Program

variable {I : Interface} {α β γ : Type}

/-- Continue a program with what it returns. -/
def bind : Program I α → (α → Program I β) → Program I β
  | done a, f => f a
  | ask request next, f => ask request fun answer => (next answer).bind f

instance : Monad (Program I) where
  pure := done
  bind := bind

/-- Run a program with the answers a monad gives. -/
def run {m : Type → Type} [Monad m] (answer : (r : I.Request) → m (I.Answer r)) :
    Program I α → m α
  | done a => pure a
  | ask r next => do
    let a ← answer r
    (next a).run answer

theorem bind_done (p : Program I α) : p.bind done = p := by
  induction p with
  | done => rfl
  | ask r next ih => simp only [bind, ih]

theorem bind_assoc (p : Program I α) (f : α → Program I β) (g : β → Program I γ) :
    (p.bind f).bind g = p.bind fun a => (f a).bind g := by
  induction p with
  | done => rfl
  | ask r next ih => simp only [bind, ih]

instance : LawfulMonad (Program I) :=
  LawfulMonad.mk' (Program I)
    (fun p => bind_done p)
    (fun _ _ => rfl)
    (fun p f g => bind_assoc p f g)

end Program

end NotebookKernel
